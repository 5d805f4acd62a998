import Mathlib.Data.List.Forall2
import SchemaBindings.Proofs.BranchTypes
import SchemaBindings.Proofs.NestedStructs
import SchemaBindings.Proofs.ParsedNames
import SchemaBindings.Proofs.RepeatedTags
import SchemaBindings.Proofs.RunSteps
import SchemaBindings.Proofs.TypenameKeys

/-!
# Structs of what is loaded

A run reads its schema, its documents and the external fragments from texts, so that their names are
made of letters, digits and underscores (`GenerateCommand.readFromTexts`). What is said of structs
under conditions on names then holds for all that a run makes: the tags of every struct are those
that its selections ask for (`Plugin.runOperations_tagsSelected`), and structs are well nested as
long as the options add no line breaks and no braces (`Plugin.wellNested_of_read`).
-/

namespace SchemaBindings

/-! ## What is loaded -/

namespace FileTree

variable {tree : FileTree} {extensions paths : List String}

theorem exists_text_of_loadSchemaDocument {path : String} {document : SchemaDocument}
    (ok : tree.loadSchemaDocument path = .ok document) :
    ∃ text, SchemaDocument.parse? text = some document := by
  obtain ⟨text, -, ok⟩ := except_bind_eq_ok.1 ok
  have read : Schema.readDocument (some path) text = .ok document := mapError_eq_ok.1 ok
  unfold Schema.readDocument at read
  split at read
  · rename_i parsed
    cases read
    exact ⟨text, parsed⟩
  · cases read

theorem exists_text_of_loadDocument {path : String} {file : DocumentFile}
    (ok : tree.loadDocument path = .ok file) :
    ∃ text, Document.parse? text = some file.document := by
  obtain ⟨text, -, ok⟩ := except_bind_eq_ok.1 ok
  have read : DocumentFile.read (some path) text = .ok file := mapError_eq_ok.1 ok
  unfold DocumentFile.read at read
  split at read
  · rename_i parsed
    cases read
    exact ⟨text, parsed⟩
  · cases read

theorem exists_documents_of_loadSchema {logged : Logged Schema}
    (ok : tree.loadSchema extensions paths = .ok logged) :
    ∃ documents, logged = Schema.ofDocuments documents ∧
      ∀ document ∈ documents, ∃ text, SchemaDocument.parse? text = some document := by
  obtain ⟨files, -, ok⟩ := except_bind_eq_ok.1 ok
  dsimp only at ok
  split at ok
  · cases ok
  · obtain ⟨documents, read, ok⟩ := except_bind_eq_ok.1 ok
    refine ⟨documents, (Except.ok.inj ok).symm, fun document mem => ?_⟩
    obtain ⟨path, -, made⟩ := exists_of_mem_mapM read mem
    exact exists_text_of_loadSchemaDocument made

theorem exists_text_of_loadDocuments {files : List DocumentFile}
    (ok : tree.loadDocuments extensions paths = .ok files) :
    ∀ file ∈ files, ∃ text, Document.parse? text = some file.document := by
  intro file mem
  obtain ⟨found, -, ok⟩ := except_bind_eq_ok.1 ok
  obtain ⟨path, -, made⟩ := exists_of_mem_mapM ok mem
  exact exists_text_of_loadDocument made

theorem exists_text_of_loadExternal {external : List LoadedFragment}
    (ok : tree.loadExternal extensions paths = .ok external) :
    ∀ loaded ∈ external, ∃ text document, Document.parse? text = some document ∧
      loaded.fragment ∈ document.fragments := by
  intro loaded mem
  obtain ⟨files, read, ok⟩ := except_bind_eq_ok.1 ok
  cases ok
  obtain ⟨file, hf, mem⟩ := List.mem_flatMap.1 mem
  obtain ⟨fragment, hm, rfl⟩ := List.mem_map.1 mem
  obtain ⟨text, parsed⟩ := exists_text_of_loadDocuments read file hf
  exact ⟨text, file.document, parsed, hm⟩

end FileTree

/-- The schema, the documents and the external fragments have been read from texts. -/
structure ReadFromTexts (schema : Schema) (files : List DocumentFile)
    (external : List LoadedFragment) : Prop where
  schema : ∃ documents, schema = (Schema.ofDocuments documents).value ∧
    ∀ document ∈ documents, ∃ text, SchemaDocument.parse? text = some document
  documents : ∀ file ∈ files, ∃ text, Document.parse? text = some file.document
  external : ∀ loaded ∈ external, ∃ text document, Document.parse? text = some document ∧
    loaded.fragment ∈ document.fragments

/-- What a run loads has been read from texts. -/
theorem GenerateCommand.readFromTexts {command : GenerateCommand} {tree : FileTree}
    {inputs : RunInputs} (loaded : (onTree command.load tree).1 = .ok inputs) {paths : List String}
    {external : List LoadedFragment}
    (found : tree.loadExternal inputs.extensions paths = .ok external) :
    ReadFromTexts inputs.schema inputs.documents external := by
  obtain ⟨config, loads⟩ := exists_loadsFrom loaded
  obtain ⟨logged, schema, same⟩ := loads.schema
  obtain ⟨documents, rfl, parsed⟩ := FileTree.exists_documents_of_loadSchema schema
  exact ⟨⟨documents, same, parsed⟩, FileTree.exists_text_of_loadDocuments loads.documents,
    FileTree.exists_text_of_loadExternal found⟩

/-! ## Structs -/

namespace SelectionContext

variable {context : SelectionContext} {parent : String}

/-- A struct is tagged with what its selections ask for: it holds all that they select, tags come
twice only where they repeat one, and typenames are tagged as such. -/
structure TagsSelected (context : SelectionContext) (parent : String)
    (lists : List (List Selection)) (lines : List StructLine) : Prop where
  holds : context.HoldsSelections parent lists lines
  repeated : context.HasRepeatedTags parent lists lines
  typenames : context.TagsTypenames parent lists lines

theorem IsStruct.tagsSelected (h : context.AllUnquoted) {lists : List (List Selection)}
    {lines : List StructLine} (names : ∀ list ∈ lists, NamesUnquoted parent list)
    (struct : context.IsStruct parent lists lines) :
    context.TagsSelected parent lists lines where
  holds := struct.holdsSelections h names
  repeated := struct.two_le_count_iff h names
  typenames := struct.tagsTypenames h names

end SelectionContext

namespace Plugin

variable {schema : Schema} {files : List DocumentFile} {options : Options} {info : PluginInfo}

/-- Every struct in an output for texts is tagged with what its selections ask for. -/
theorem runOperations_tagsSelected (read : ReadFromTexts schema files info.external)
    {output : PluginOutput}
    (ok : (runOperations schema files options info).outcome = .ok output) :
    let generator := operationGenerator schema files options info
    ∃ texts, output.content = "\n".intercalate texts ∧
      List.Forall₂ (generator.DefinitionHas generator.selectionContext.TagsSelected)
        ((DocumentFile.concat files).filter (·.isNamed)) texts := by
  intro generator
  obtain ⟨documents, rfl, schemas⟩ := read.schema
  obtain ⟨made, content, run⟩ := exists_made_of_runOperations ok
  have unquoted : generator.selectionContext.AllUnquoted :=
    OperationGenerator.allUnquoted_selectionContext schemas read.documents read.external options
  have named := (List.forall₂_and_left _ _).2
    ⟨fun definition mem => List.mem_of_mem_filter mem, OperationGenerator.forall₂_named run⟩
  refine ⟨_, content, named.imp fun definition text ⟨mem, ok⟩ => ?_⟩
  refine OperationGenerator.definitionHas (fun parent lines typed ok => ?_) ok
  have names := OperationGenerator.namesUnquoted_of_read schemas read.documents mem typed
  exact (SelectionContext.namesUnquoted_passedOn unquoted.schema).everyStruct
    (fun passed struct => struct.tagsSelected unquoted passed) names ok

/-- Selections that have been read are written well nested if the options break no lines and add no
braces. -/
theorem wellNested_of_read (read : ReadFromTexts schema files info.external)
    (flat : (operationGenerator schema files options info).resolver.IsFlat)
    {definition : Definition} (mem : definition ∈ DocumentFile.concat files) {parent : String}
    (typed : schema.selectedType? definition = some parent) {lines : List StructLine}
    (ok : ((operationGenerator schema files options info).selectionContext.structLines parent
      definition.selections).outcome = .ok lines) :
    Text.WellNested (StructLine.structText lines) := by
  obtain ⟨documents, rfl, schemas⟩ := read.schema
  have context : (operationGenerator _ files options info).selectionContext.IsFlat :=
    ⟨flat, flat.qualifier, OperationGenerator.nameChars_schema schemas,
      OperationGenerator.nameChars_fragments read.documents read.external⟩
  exact SelectionContext.wellNested_structLines context
    (OperationGenerator.nameChars_of_read schemas read.documents mem typed) ok

end Plugin

end SchemaBindings
