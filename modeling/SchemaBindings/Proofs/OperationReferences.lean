import SchemaBindings.Proofs.DeclaredTypes
import SchemaBindings.Proofs.MarkedTypes
import SchemaBindings.Proofs.ResponseKeys

/-!
# References of operations

The types that the code for operations refers to are declared by the code for the types that
documents use. A reference stands in a field for a variable or in a line for a field that is
selected without sub-selections (`ReferenceDeclared`). The rendering and the marking of types walk
over the selections in different ways; `IsStruct.refersToDeclared` joins them for one struct, and
`operations_refer_to_declared_types` is the result for whole outputs.
-/

namespace SchemaBindings

/-! ## References -/

namespace TypeResolver

/-- The package and the dot in front of types that are declared in another package. -/
def qualifierText (resolver : TypeResolver) : String :=
  match resolver.qualifier? with
  | some package => if package.isEmpty then "" else package ++ "."
  | none => ""

theorem resolve_of_find?_eq_none {resolver : TypeResolver} {name : String}
    (h : resolver.scalars.find? name = none) :
    resolver.resolve name = resolver.qualifierText ++ resolver.names.convert name := by
  unfold resolve qualifierText
  rw [h]
  cases resolver.qualifier? with
  | none => exact (String.empty_append).symm
  | some package =>
    dsimp only
    split
    · exact (String.empty_append).symm
    · rfl

end TypeResolver

/-- A base type is written for a type of the schema. If that is defined and is no scalar, the base
is its converted name behind the qualifier, and the code declares a type of the converted name. -/
def ReferenceDeclared (schema : Schema) (resolver : TypeResolver) (code name base : String) :
    Prop :=
  base = resolver.resolve name ∧
    ((schema.type? name).isSome = true → resolver.scalars.find? name = none →
      base = resolver.qualifierText ++ resolver.names.convert name ∧
        DeclaresType code (resolver.names.convert name))

/-- The code declares each of the names that is a type of the schema and no scalar. -/
def DeclaresNames (schema : Schema) (resolver : TypeResolver) (code : String)
    (names : List String) : Prop :=
  ∀ name ∈ names, (schema.type? name).isSome = true → resolver.scalars.find? name = none →
    DeclaresType code (resolver.names.convert name)

theorem DeclaresNames.referenceDeclared {schema : Schema} {resolver : TypeResolver} {code : String}
    {names : List String} (declared : DeclaresNames schema resolver code names) {name : String}
    (hm : name ∈ names) : ReferenceDeclared schema resolver code name (resolver.resolve name) :=
  ⟨rfl, fun defined noScalar =>
    ⟨TypeResolver.resolve_of_find?_eq_none noScalar, declared name hm defined noScalar⟩⟩

/-- The type in the line of a field without sub-selections. -/
def StructLine.leafType? : StructLine → Option GoType
  | leaf _ type => some type
  | aliased _ _ type => some type
  | typename _ _ => none
  | link _ _ _ _ => none
  | embedded _ => none
  | branch _ _ _ => none

namespace SelectionContext

variable {context : SelectionContext} {parent : String}

theorem FieldLine.exists_leafField {fields : List DefinedField} {line : StructLine}
    (made : context.FieldLine fields line) {type : GoType} (ht : line.leafType? = some type) :
    ∃ field ∈ fields, line.fieldKey? = some field.key ∧ type = context.leafType field := by
  cases made with
  | @leaf field mem plain => exact ⟨field, mem, rfl, (Option.some.inj ht).symm⟩
  | @aliased field mem aliased => exact ⟨field, mem, rfl, (Option.some.inj ht).symm⟩
  | link under lines => cases ht

/-- In the lines of a struct, each reference of a field is that of one which is selected, and it is
declared. -/
def RefersToDeclared (context : SelectionContext) (code parent : String)
    (lists : List (List Selection)) (lines : List StructLine) : Prop :=
  ∀ line ∈ lines, ∀ type, line.leafType? = some type →
    ∃ onType list, context.FlattenedInto parent lists onType list ∧
      ∃ field ∈ context.definedFields onType list, line.fieldKey? = some field.key ∧
        ReferenceDeclared context.schema context.resolver code field.type.baseName type.base

theorem IsStruct.refersToDeclared {code : String} {names : List String}
    (declared : DeclaresNames context.schema context.resolver code names)
    {lists : List (List Selection)} {lines : List StructLine}
    (covered : ∀ list ∈ lists, context.CoveredBy names parent list)
    (struct : context.IsStruct parent lists lines) :
    context.RefersToDeclared code parent lists lines := by
  intro line hm type ht
  have keyed : line.fieldKey?.isSome = true := by
    cases line <;> first | rfl | cases ht
  obtain ⟨list, hl, onType, inner, hf, made⟩ := struct.exists_fieldLine hm keyed
  obtain ⟨field, hd, hk, rfl⟩ := made.exists_leafField ht
  have flattened : context.FlattenedInto parent lists onType inner :=
    FlattenedInto.iff_exists.2 ⟨list, hl, hf⟩
  obtain ⟨mem, -, type⟩ := mem_definedFields.1 hd
  have used : field.type.baseName ∈ names :=
    ((coveredBy_passedOn names).flattened covered flattened).1.type_mem mem type
  exact ⟨onType, inner, flattened, field, hd, hk, declared.referenceDeclared used⟩

/-- The text for selections refers to declared types: it is empty where nothing is selected, and the
struct for them elsewhere, of which each struct in it refers to declared types. -/
inductive TextRefersToDeclared (context : SelectionContext) (code parent : String) :
    List Selection → String → Prop
  | empty : TextRefersToDeclared context code parent [] ""
  | struct {selections : List Selection} {lines : List StructLine}
      (made : (context.structLines parent selections).outcome = .ok lines)
      (every : context.EveryStruct (context.RefersToDeclared code) parent [selections] lines) :
      TextRefersToDeclared context code parent selections (StructLine.structText lines)

theorem textRefersToDeclared {code : String} {names : List String}
    (declared : DeclaresNames context.schema context.resolver code names)
    {selections : List Selection} (covered : context.CoveredBy names parent selections)
    {content : String} (ok : (context.structText parent selections).outcome = .ok content) :
    context.TextRefersToDeclared code parent selections content := by
  by_cases hs : selections = []
  · subst hs
    cases ok
    exact .empty
  · obtain ⟨lines, made, rfl⟩ := structText_eq_ok hs ok
    refine .struct made ((coveredBy_passedOn names).everyStruct ?_ covered made)
    exact fun passed struct => struct.refersToDeclared declared passed

end SelectionContext

/-! ## Definitions -/

namespace OperationGenerator

variable {generator : OperationGenerator}

/-- The declaration for a fragment whose selections are written as the content. -/
def fragmentDeclaration (generator : OperationGenerator) (name content : String) : Declaration :=
  { name := generator.fragmentTypeName name, content }

/-- The declaration for the variables of an operation of the name. -/
def variablesDeclaration (generator : OperationGenerator) (operation : Operation) (name : String) :
    Declaration :=
  { name := generator.variablesTypeName name operation.kind
    kind? := some .struct
    block := StructField.block (generator.variableFields operation) }

/-- The declaration for the result of an operation of the name, of which the selections are written
as the content. -/
def resultDeclaration (generator : OperationGenerator) (operation : Operation)
    (name content : String) : Declaration :=
  { name := generator.resultTypeName name operation.kind, content }

/-- The text for a definition is that of its declarations, and every reference to a type in their
fields for variables and in their structs is declared by the code. -/
inductive RefersToDeclared (generator : OperationGenerator) (code : String) :
    Definition → String → Prop
  | fragment {fragment : Fragment} {content : String}
      (struct : generator.selectionContext.TextRefersToDeclared code fragment.onType
        fragment.selections content) :
      RefersToDeclared generator code (.fragment fragment)
        ((generator.fragmentDeclaration fragment.name content).text generator.style)
  | operation {operation : Operation} {name root content : String}
      (named : operation.name? = some name)
      (rooted : generator.schema.rootType? operation.kind = some root)
      (fields : ∀ input ∈ operation.variableDefinitions,
        ReferenceDeclared generator.schema generator.resolver code input.type.baseName
          (input.slot.field generator.resolver generator.options.avoidOptionals).type.base)
      (struct : generator.selectionContext.TextRefersToDeclared code root operation.selections
        content) :
      RefersToDeclared generator code (.operation operation)
        ((generator.variablesDeclaration operation name).text generator.style ++ "\n" ++
          (generator.resultDeclaration operation name content).text generator.style)

theorem fragmentText_eq_ok {fragment : Fragment} {text : String}
    (ok : (generator.fragmentText fragment).outcome = .ok text) :
    ∃ content, (generator.selectionContext.structText fragment.onType
        fragment.selections).outcome = .ok content ∧
      text = (generator.fragmentDeclaration fragment.name content).text generator.style := by
  unfold fragmentText at ok
  dsimp only at ok
  split at ok
  · cases ok
  · rw [Generation.outcome_bind_eq_ok] at ok
    obtain ⟨content, hc, ok⟩ := ok
    exact ⟨content, hc, (Except.ok.inj ok).symm⟩

theorem namedOperationText_eq_ok {operation : Operation} {name text : String}
    (ok : (generator.namedOperationText operation name).outcome = .ok text) :
    ∃ root content, generator.schema.rootType? operation.kind = some root ∧
      (generator.selectionContext.structText root operation.selections).outcome = .ok content ∧
      text = (generator.variablesDeclaration operation name).text generator.style ++ "\n" ++
        (generator.resultDeclaration operation name content).text generator.style := by
  unfold namedOperationText at ok
  cases root : generator.schema.rootType? operation.kind with
  | none =>
    rw [root] at ok
    cases ok
  | some type =>
    rw [root] at ok
    dsimp only at ok
    rw [Generation.outcome_bind_eq_ok] at ok
    obtain ⟨content, hc, ok⟩ := ok
    exact ⟨type, content, rfl, hc, (Except.ok.inj ok).symm⟩

theorem definitionText?_fragment_eq_ok {fragment : Fragment} {text? : Option String} :
    (generator.definitionText? (.fragment fragment)).outcome = .ok text? ↔
      ∃ text, (generator.fragmentText fragment).outcome = .ok text ∧ some text = text? := by
  unfold definitionText?
  simp only [Generation.outcome_bind_eq_ok, Generation.outcome_pure, Except.ok.injEq]

/-- An operation gets a text exactly if it has a name. -/
theorem definitionText?_operation_eq_ok {operation : Operation} {text? : Option String} :
    (generator.definitionText? (.operation operation)).outcome = .ok text? ↔
      (operation.name? = none ∧ none = text?) ∨
        ∃ name text, operation.name? = some name ∧
          (generator.namedOperationText operation name).outcome = .ok text ∧
          some text = text? := by
  unfold definitionText?
  dsimp only
  cases operation.name? with
  | none => simp
  | some name => simp

/-- Where the names cover a document and are declared, its definitions refer to declared types. -/
theorem refersToDeclared {code : String} {names : List String}
    (declared : DeclaresNames generator.schema generator.resolver code names)
    {definition : Definition}
    (covered : ∀ parent, generator.schema.selectedType? definition = some parent →
      generator.selectionContext.CoveredBy names parent definition.selections)
    (inputs : ∀ operation, definition = .operation operation →
      ∀ input ∈ operation.variableDefinitions, input.type.baseName ∈ names)
    {text : String} (ok : (generator.definitionText? definition).outcome = .ok (some text)) :
    generator.RefersToDeclared code definition text := by
  cases definition with
  | fragment fragment =>
    obtain ⟨made, hm, he⟩ := definitionText?_fragment_eq_ok.1 ok
    cases he
    obtain ⟨content, hc, rfl⟩ := fragmentText_eq_ok hm
    exact .fragment (SelectionContext.textRefersToDeclared declared (covered _ rfl) hc)
  | operation operation =>
    rcases definitionText?_operation_eq_ok.1 ok with ⟨-, nothing⟩ | ⟨name, made, named, hm, he⟩
    · cases nothing
    · cases he
      obtain ⟨root, content, hr, hc, rfl⟩ := namedOperationText_eq_ok hm
      refine .operation named hr (fun input hi => ?_)
        (SelectionContext.textRefersToDeclared declared (covered _ hr) hc)
      rw [InputSlot.base_field]
      exact declared.referenceDeclared (inputs operation rfl input hi)

theorem exists_definition_of_mem_texts {document : Document} {texts : List String}
    (ok : (generator.texts document).outcome = .ok texts) {text : String} (hm : text ∈ texts) :
    ∃ definition ∈ document, (generator.definitionText? definition).outcome = .ok (some text) := by
  unfold OperationGenerator.texts at ok
  rw [Generation.outcome_bind_eq_ok] at ok
  obtain ⟨made, hmade, ok⟩ := ok
  cases ok
  rw [List.mem_filterMap] at hm
  obtain ⟨some?, hs, rfl⟩ := hm
  exact Generation.exists_mem_of_mem_made (Generation.outcome_mapM_eq_ok.1 hmade) hs

end OperationGenerator

/-! ## Outputs -/

namespace Plugin

variable {schema : Schema} {files : List DocumentFile} {options : Options}

theorem declaresNames_usedTypes (info : PluginInfo) (fragments : FragmentRegistry) :
    DeclaresNames schema (OperationGenerator.ofSchema schema options fragments).resolver
      (runUsedTypes schema files options info).content
      (schema.usedTypes (DocumentFile.concat files)) :=
  fun _ used defined noScalar => declaresType_of_used defined noScalar used

/-- Every type that the output for operations refers to is declared in the output for used types. -/
theorem operations_refer_to_declared_types
    (consistent : ∀ definition ∈ DocumentFile.concat files,
      Selection.Consistent definition.selections)
    {info typesInfo : PluginInfo} {output : PluginOutput}
    (ok : (runOperations schema files options info).outcome = .ok output) :
    ∃ texts, output.content = "\n".intercalate texts ∧ ∀ text ∈ texts,
      ∃ definition ∈ DocumentFile.concat files,
        (OperationGenerator.ofSchema schema options
          (.ofDocument (DocumentFile.concat files) info.external)).RefersToDeclared
            (runUsedTypes schema files options typesInfo).content definition text := by
  unfold runOperations at ok
  dsimp only at ok
  rw [Generation.outcome_bind_eq_ok] at ok
  obtain ⟨texts, ht, ok⟩ := ok
  cases ok
  refine ⟨texts, rfl, fun text hm => ?_⟩
  obtain ⟨definition, hd, made⟩ := OperationGenerator.exists_definition_of_mem_texts ht hm
  refine ⟨definition, hd, OperationGenerator.refersToDeclared (declaresNames_usedTypes typesInfo _)
    (fun parent hp => ⟨Schema.covered_usedTypes hd hp, consistent definition hd⟩) ?_ made⟩
  rintro operation rfl input hi
  exact Schema.inputType_mem_usedTypes hd hi

/-- A schema with an interface, an enum for its kinds and an object that implements it. -/
def kindSchema : Schema := .ofDefinitions [
  .type { name := "Query", body := .object [] [{ name := "pets", type := .list (.named "Pet") }] },
  .type { name := "Pet", body := .interface [] [{ name := "kind", type := .named "Kind" }] },
  .type { name := "Kind", body := .enum [{ name := "CAT" }] },
  .type { name := "Cat", body := .object ["Pet"] [{ name := "kind", type := .named "Kind" },
    { name := "mother", type := .named "Cat" }] }]

/-- The document `query Pets($kind: Kind) { pets { kind } ... { pets { ...Cat } } }` with
`fragment Cat on Cat { mother { kind } mother { of: kind } }`. -/
def kindFiles : List DocumentFile := [{
  document := [
    .operation {
      kind := .query
      name? := some "Pets"
      variableDefinitions := [{ name := "kind", type := .named "Kind" }]
      selections := [
        .field { name := "pets" } [.field { name := "kind" } []],
        .inline none [] [.field { name := "pets" } [.spread "Cat" []]]] },
    .fragment {
      name := "Cat"
      onType := "Cat"
      selections := [
        .field { name := "mother" } [.field { name := "kind" } []],
        .field { name := "mother" } [.field { alias? := some "of", name := "kind" } []]] }] }]

theorem kind_operations_refer_to_declared_types :
    (∀ definition ∈ DocumentFile.concat kindFiles,
      Selection.Consistent definition.selections) ∧
    ∃ output, (runOperations kindSchema kindFiles {} {}).outcome = .ok output ∧
      ∃ texts, output.content = "\n".intercalate texts ∧ ∀ text ∈ texts,
        ∃ definition ∈ DocumentFile.concat kindFiles,
          (OperationGenerator.ofSchema kindSchema {}
            (.ofDocument (DocumentFile.concat kindFiles) [])).RefersToDeclared
              (runUsedTypes kindSchema kindFiles {} {}).content definition text := by
  have consistent : ∀ definition ∈ DocumentFile.concat kindFiles,
      Selection.Consistent definition.selections := by decide +kernel
  obtain ⟨output, ok⟩ := Generation.exists_eq_ok
    (x := runOperations kindSchema kindFiles {} {}) (by decide +kernel)
  exact ⟨consistent, output, ok, operations_refer_to_declared_types consistent ok⟩

end Plugin

end SchemaBindings
