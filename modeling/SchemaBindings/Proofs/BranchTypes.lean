import SchemaBindings.Proofs.EmbeddedFragments

/-!
# The types of branches

Which types the branches of structs are for. Undefined type conditions make the output fail, those
of the inline fragments that rendering comes to and those of the fragments of the documents. So
branches are for types that the schema defines, but for those of external fragments: the types that
these are on are never looked up. `Plugin.branches_name_known_types` says both, and
`Plugin.external_branch_names_undefined_type` shows a branch for a type that does not exist.
-/

namespace SchemaBindings

namespace SelectionContext

variable {context : SelectionContext} {parent : String}

/-! ## Branches -/

/-- A struct spreads an external fragment that is on the type: the spread is in one of the lists
that are flattened into the struct, and no fragment of the document has its name. -/
def SpreadsExternal (context : SelectionContext) (document : Document)
    (external : List LoadedFragment) (parent : String) (lists : List (List Selection))
    (onType : String) : Prop :=
  ∃ enclosing list name directives loaded, context.FlattenedInto parent lists enclosing list ∧
    .spread name directives ∈ list ∧ (∀ fragment ∈ document.fragments, fragment.name ≠ name) ∧
    loaded ∈ external ∧ loaded.fragment.name = name ∧ loaded.fragment.onType = onType

/-- The branches of a struct are for types that the schema defines, or for those of external
fragments. -/
def BranchesKnown (context : SelectionContext) (document : Document)
    (external : List LoadedFragment) (parent : String) (lists : List (List Selection))
    (lines : List StructLine) : Prop :=
  ∀ identifier onType inner, .branch identifier onType inner ∈ lines →
    ¬context.schema.IsUndefined onType ∨
      context.SpreadsExternal document external parent lists onType

theorem IsStruct.exists_spread_of_branch {lists : List (List Selection)} {lines : List StructLine}
    (struct : context.IsStruct parent lists lines) {identifier onType : String}
    {inner : List StructLine} (mem : .branch identifier onType inner ∈ lines) :
    ¬context.schema.IsUndefined onType ∨
      ∃ enclosing list name directives loaded, context.FlattenedInto parent lists enclosing list ∧
        .spread name directives ∈ list ∧ context.fragments.find? name = some loaded ∧
        loaded.fragment.onType = onType := by
  have made := struct.exists_flattened (P := fun _ list => ¬context.schema.IsUndefined onType ∨
    ∃ name directives loaded, .spread name directives ∈ list ∧
      context.fragments.find? name = some loaded ∧ loaded.fragment.onType = onType) ?_ mem
  · rcases made with ⟨type, embedded⟩ | ⟨enclosing, list, flattened, defined | spread⟩
    · cases embedded
    · exact .inl defined
    · obtain ⟨name, directives, loaded, spread⟩ := spread
      exact .inr ⟨enclosing, list, name, directives, loaded, flattened, spread⟩
  · intro parent withTypename selections lines renders mem
    cases lineSource renders mem with
    | branch branches named struct =>
      rcases named with ⟨directives, inner, hm⟩ | spread
      · exact .inl (.inl (renders.not_isUndefined hm))
      · exact .inl (.inr spread)
    | flattened flattens hm renders mem => exact .inr ⟨_, _, _, _, flattens, hm, renders, mem⟩

theorem IsStruct.branchesKnown {document : Document} {external : List LoadedFragment}
    (registry : context.fragments = .ofDocument document external)
    (defined : ∀ fragment ∈ document.fragments, ¬context.schema.IsUndefined fragment.onType)
    {lists : List (List Selection)} {lines : List StructLine}
    (struct : context.IsStruct parent lists lines) :
    context.BranchesKnown document external parent lists lines := by
  intro identifier onType inner mem
  rcases struct.exists_spread_of_branch mem with known | ⟨enclosing, list, name, directives, loaded,
    flattened, spread, lookup, rfl⟩
  · exact .inl known
  rw [registry, FragmentRegistry.find?_ofDocument] at lookup
  cases found : document.fragments.find? (·.name == name) with
  | some fragment =>
    rw [found, Option.map_some, Option.some_or, Option.some.injEq] at lookup
    subst lookup
    exact .inl (defined fragment (List.mem_of_find?_eq_some found))
  | none =>
    rw [found, Option.map_none, Option.none_or] at lookup
    have absent : ∀ fragment ∈ document.fragments, fragment.name ≠ name := by
      simpa using found
    have named : loaded.fragment.name = name := by simpa using List.find?_some lookup
    exact .inr ⟨enclosing, list, name, directives, loaded, flattened, spread, absent,
      List.mem_of_find?_eq_some lookup, named, rfl⟩

/-! ## Every struct of a text -/

/-- What is said of structs holds of every struct in the text for selections, which is empty where
nothing is selected. -/
inductive TextHas (context : SelectionContext)
    (Holds : String → List (List Selection) → List StructLine → Prop) (parent : String) :
    List Selection → String → Prop
  | empty : TextHas context Holds parent [] ""
  | struct {selections : List Selection} {lines : List StructLine}
      (made : (context.structLines parent selections).outcome = .ok lines)
      (every : context.EveryStruct Holds parent [selections] lines) :
      TextHas context Holds parent selections (StructLine.structText lines)

theorem textHas {Holds : String → List (List Selection) → List StructLine → Prop}
    {selections : List Selection} {content : String}
    (every : ∀ lines, (context.structLines parent selections).outcome = .ok lines →
      context.EveryStruct Holds parent [selections] lines)
    (ok : (context.structText parent selections).outcome = .ok content) :
    context.TextHas Holds parent selections content := by
  by_cases hs : selections = []
  · subst hs
    cases ok
    exact .empty
  · obtain ⟨lines, made, rfl⟩ := structText_eq_ok hs ok
    exact .struct made (every lines made)

end SelectionContext

/-! ## Definitions -/

namespace OperationGenerator

variable {generator : OperationGenerator} {definition : Definition} {type : String}

/-- What is said of structs holds of every struct in the text for a definition, which is that of its
declarations. -/
inductive DefinitionHas (generator : OperationGenerator)
    (Holds : String → List (List Selection) → List StructLine → Prop) : Definition → String → Prop
  | fragment {fragment : Fragment} {content : String}
      (struct : generator.selectionContext.TextHas Holds fragment.onType fragment.selections
        content) :
      DefinitionHas generator Holds (.fragment fragment)
        ((generator.fragmentDeclaration fragment.name content).text generator.style)
  | operation {operation : Operation} {name root content : String}
      (named : operation.name? = some name)
      (rooted : generator.schema.rootType? operation.kind = some root)
      (struct : generator.selectionContext.TextHas Holds root operation.selections content) :
      DefinitionHas generator Holds (.operation operation)
        ((generator.variablesDeclaration operation name).text generator.style ++ "\n" ++
          (generator.resultDeclaration operation name content).text generator.style)

theorem definitionHas {Holds : String → List (List Selection) → List StructLine → Prop}
    (every : ∀ parent lines, generator.schema.selectedType? definition = some parent →
      (generator.selectionContext.structLines parent definition.selections).outcome = .ok lines →
        generator.selectionContext.EveryStruct Holds parent [definition.selections] lines)
    {text : String} (ok : (generator.definitionText? definition).outcome = .ok (some text)) :
    generator.DefinitionHas Holds definition text := by
  cases definition with
  | fragment fragment =>
    obtain ⟨made, hm, he⟩ := definitionText?_fragment_eq_ok.1 ok
    cases he
    obtain ⟨content, hc, rfl⟩ := fragmentText_eq_ok hm
    exact .fragment (SelectionContext.textHas (fun _ made => every _ _ rfl made) hc)
  | operation operation =>
    rcases definitionText?_operation_eq_ok.1 ok with ⟨-, nothing⟩ | ⟨name, made, named, hm, he⟩
    · cases nothing
    · cases he
      obtain ⟨root, content, rooted, hc, rfl⟩ := namedOperationText_eq_ok hm
      exact .operation named rooted
        (SelectionContext.textHas (fun _ made => every _ _ rooted made) hc)

theorem NamesUndefined.exists_error (names : generator.NamesUndefined type definition) :
    ∃ first, generator.NamesUndefined first definition ∧
      (generator.definitionText? definition).outcome = .error (.unknownType first) := by
  cases outcome : (generator.definitionText? definition).outcome with
  | ok text? => exact absurd names (not_namesUndefined_of_eq_ok outcome)
  | error error =>
    rcases namesUndefined_of_eq_error outcome with ⟨first, names, rfl⟩ |
        ⟨operation, rfl, missing, -⟩
    · exact ⟨first, names, rfl⟩
    · cases names with
      | operationSelections named rooted within =>
        rw [missing] at rooted
        cases rooted

end OperationGenerator

/-! ## Outputs -/

namespace Plugin

variable {schema : Schema} {files : List DocumentFile} {options : Options} {info : PluginInfo}

theorem not_isUndefined_of_runOperations {output : PluginOutput}
    (ok : (runOperations schema files options info).outcome = .ok output) {fragment : Fragment}
    (mem : fragment ∈ (DocumentFile.concat files).fragments) :
    ¬schema.IsUndefined fragment.onType := by
  obtain ⟨made, -, run⟩ := exists_made_of_runOperations ok
  obtain ⟨text?, -, ok⟩ := Generation.exists_made_of_mem run (Document.mem_fragments.1 mem)
  intro undefined
  exact OperationGenerator.not_namesUndefined_of_eq_ok ok (.fragmentType rfl undefined)

/-- Branches are for types that the schema defines or that external fragments are on. Any other type
condition makes the output fail, by the error of the first definition that fails. -/
theorem branches_name_known_types (schema : Schema) (files : List DocumentFile) (options : Options)
    (info : PluginInfo) :
    let generator := operationGenerator schema files options info
    let document := DocumentFile.concat files
    (∀ output, (runOperations schema files options info).outcome = .ok output →
      ∃ texts, output.content = "\n".intercalate texts ∧
        List.Forall₂ (generator.DefinitionHas
            (generator.selectionContext.BranchesKnown document info.external))
          (document.filter (·.isNamed)) texts) ∧
    (∀ definition ∈ document, ∀ type, generator.NamesUndefined type definition →
      (∃ first, generator.NamesUndefined first definition ∧
          (generator.definitionText? definition).outcome = .error (.unknownType first)) ∧
        ∃ error, (runOperations schema files options info).outcome = .error error) ∧
    ∀ error, (runOperations schema files options info).outcome = .error error →
      ∃ before definition after, document = before ++ definition :: after ∧
        (∀ earlier ∈ before, (generator.definitionText? earlier).outcome.isOk = true) ∧
        (generator.definitionText? definition).outcome = .error error ∧
        ((∃ type, generator.NamesUndefined type definition ∧ error = .unknownType type) ∨
          ∃ operation, definition = .operation operation ∧
            schema.rootType? operation.kind = none ∧ error = .missingRootType operation.kind) := by
  intro generator document
  refine ⟨fun output ok => ?_, fun definition mem type names => ⟨names.exists_error, ?_⟩,
    fun error failed => ?_⟩
  · obtain ⟨made, content, run⟩ := exists_made_of_runOperations ok
    have holds : ∀ {parent lists lines}, generator.selectionContext.IsStruct parent lists lines →
        generator.selectionContext.BranchesKnown document info.external parent lists lines :=
      SelectionContext.IsStruct.branchesKnown rfl
        fun fragment mem => not_isUndefined_of_runOperations ok mem
    exact ⟨_, content, (OperationGenerator.forall₂_named run).imp fun _ _ =>
      OperationGenerator.definitionHas fun _ _ _ => SelectionContext.everyStruct_of_isStruct holds⟩
  · cases outcome : (runOperations schema files options info).outcome with
    | error error => exact ⟨error, rfl⟩
    | ok output =>
      obtain ⟨made, -, run⟩ := exists_made_of_runOperations outcome
      obtain ⟨text?, -, ok⟩ := Generation.exists_made_of_mem run mem
      exact absurd names (OperationGenerator.not_namesUndefined_of_eq_ok ok)
  · have failed := Generation.eq_error_of_bind (fun _ => ⟨_, rfl⟩) failed
    obtain ⟨before, definition, after, split, passed, failed⟩ :=
      Generation.outcome_mapM_eq_error (Generation.eq_error_of_bind (fun _ => ⟨_, rfl⟩) failed)
    exact ⟨before, definition, after, split, passed, failed,
      OperationGenerator.namesUndefined_of_eq_error failed⟩

/-- Branches for an inline fragment and for a spread, and a failing condition inside of a field. -/
theorem pets_branches_name_known_types :
    (∃ output, (runOperations kindSchema taggedFiles taggedOptions taggedInfo).outcome =
        .ok output ∧
      let generator := operationGenerator kindSchema taggedFiles taggedOptions taggedInfo
      ∃ texts, output.content = "\n".intercalate texts ∧
        List.Forall₂ (generator.DefinitionHas (generator.selectionContext.BranchesKnown
            (DocumentFile.concat taggedFiles) taggedInfo.external))
          ((DocumentFile.concat taggedFiles).filter (·.isNamed)) texts) ∧
    ∃ definition ∈ failingDefinitions,
      (operationGenerator kindSchema failingFiles {} {}).NamesUndefined "Dog" definition ∧
        ∃ error, (runOperations kindSchema failingFiles {} {}).outcome = .error error := by
  constructor
  · obtain ⟨output, ok⟩ := Generation.exists_eq_ok
      (x := runOperations kindSchema taggedFiles taggedOptions taggedInfo) (by decide +kernel)
    exact ⟨output, ok, (branches_name_known_types _ _ _ _).1 output ok⟩
  · have undefined : kindSchema.IsUndefined "Dog" := Schema.kind?_eq_none_iff.1 (by decide)
    have names : (operationGenerator kindSchema failingFiles {} {}).NamesUndefined "Dog"
        (failingDefinitions.head (List.cons_ne_nil _ _)) :=
      .operationSelections rfl rfl (.inline List.mem_cons_self
        (.link (show DefinedField.link? _ "pets" = some _ from rfl)
          (.condition (List.mem_cons_of_mem _ List.mem_cons_self) undefined)))
    have mem : failingDefinitions.head (List.cons_ne_nil _ _) ∈ DocumentFile.concat failingFiles :=
      List.mem_append_right _ List.mem_cons_self
    exact ⟨_, List.head_mem _, names,
      ((branches_name_known_types kindSchema failingFiles {} {}).2.1 _ mem _ names).2⟩

/-- The document `query Pet { pet { ...Named } }`. -/
def ghostFiles : List DocumentFile := [{
  document := [.operation {
    kind := .query
    name? := some "Pet"
    selections := [.field { name := "pet" } [.spread "Named" []]] }] }]

/-- The fragment `fragment Named on Ghost { id }`, which is generated elsewhere. -/
def ghostInfo : PluginInfo where
  external := [{
    fragment := { name := "Named", onType := "Ghost", selections := [.field { name := "id" } []] }
    isExternal := true }]

/-- The type of an external fragment is not looked up. -/
theorem external_branch_names_undefined_type :
    SelectionContext.petSchema.IsUndefined "Ghost" ∧
    ((runOperations SelectionContext.petSchema ghostFiles {} ghostInfo).outcome.map
      (·.content)).toOption = some ("type PetQueryVariables struct \x7b\x7d\n\n" ++
        "type PetQuery struct \x7b\n\tPet *struct \x7b\n\t\tOnGhost *struct \x7b\n" ++
        "\t\t\tNamedFragment\n\t\t\x7d `graphql:\"... on Ghost\"`\n" ++
        "\t\x7d `json:\"pet\"`\n\x7d\n") :=
  ⟨Schema.kind?_eq_none_iff.1 (by decide), by decide +kernel⟩

end Plugin

end SchemaBindings
