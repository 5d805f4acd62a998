import SchemaBindings.Proofs.EmbeddedSpreads
import SchemaBindings.Proofs.OperationFailures

/-!
# Embedded fragments

What the types are that structs embed for spreads. A spread is of the fragment of its name in the
documents, if there is one, and stands for the type that the same output declares for it; otherwise
it is of an external fragment, and stands for a type of another package (`FragmentReference`). The
output declares nothing for external fragments, and a spread of an unknown fragment adds no line
(`Plugin.embedded_fragments_are_declared`).
-/

namespace SchemaBindings

/-! ## The fragment of a name -/

namespace FragmentRegistry

/-- The fragment of a name is the first of that name. -/
theorem find?_ofFragments (fragments : List LoadedFragment) (name : String) :
    (ofFragments fragments).find? name = fragments.find? (·.fragment.name == name) := by
  suffices run : ∀ registry : FragmentRegistry,
      (fragments.foldl (fun registry loaded => registry.insertNew loaded.fragment.name loaded)
        registry).find? name =
      (registry.find? name).or (fragments.find? (·.fragment.name == name)) by
    unfold ofFragments
    rw [run, OrderedMap.find?_empty, Option.none_or]
  induction fragments with
  | nil => simp
  | cons first rest ih =>
    intro registry
    rw [List.foldl_cons, ih, OrderedMap.find?_insertNew, List.find?_cons]
    by_cases hn : name = first.fragment.name
    · subst hn
      cases registry.find? first.fragment.name <;> simp
    · have other : (first.fragment.name == name) = false := by simpa using Ne.symm hn
      rw [if_neg hn, other]

/-- A fragment of the document comes before the external ones of its name. -/
theorem find?_ofDocument (document : Document) (external : List LoadedFragment) (name : String) :
    (ofDocument document external).find? name =
      ((document.fragments.find? (·.name == name)).map fun fragment =>
        { fragment, isExternal := false }).or
        (external.find? (·.fragment.name == name)) := by
  unfold ofDocument LoadedFragment.ofDocument
  rw [find?_ofFragments, List.find?_append, List.find?_map]
  rfl

end FragmentRegistry

/-! ## References to fragments -/

/-- The fragments of a document are those among its definitions. -/
theorem Document.mem_fragments {document : Document} {fragment : Fragment} :
    fragment ∈ document.fragments ↔ .fragment fragment ∈ document := by
  unfold Document.fragments
  rw [List.mem_filterMap]
  constructor
  · rintro ⟨definition, mem, made⟩
    cases definition with
    | operation operation => cases made
    | fragment other =>
      cases made
      exact mem
  · exact fun mem => ⟨_, mem, rfl⟩

/-- There is no fragment of the name, neither in the document nor elsewhere. -/
def Document.LacksFragment (document : Document) (external : List LoadedFragment)
    (name : String) : Prop :=
  (∀ fragment ∈ document.fragments, fragment.name ≠ name) ∧
    ∀ loaded ∈ external, loaded.fragment.name ≠ name

theorem FragmentRegistry.find?_eq_none_iff {document : Document} {external : List LoadedFragment}
    {name : String} :
    (ofDocument document external).find? name = none ↔ document.LacksFragment external name := by
  rw [find?_ofDocument]
  simp [Document.LacksFragment, List.find?_eq_none]

/-- The declaration stands in the code, from the start of a line. -/
def Declaration.StandsIn (declaration : Declaration) (style : BlockStyle) (code : String) : Prop :=
  ∃ before after, code = before ++ declaration.text style ++ after ∧ Text.EndsLine before

namespace SelectionContext

/-- The text for selections embeds the spreads in them: it is empty where nothing is selected, and
the struct for them elsewhere, of which each struct in it embeds the spreads in its selections. -/
inductive TextEmbeds (context : SelectionContext) (parent : String) :
    List Selection → String → Prop
  | empty : TextEmbeds context parent [] ""
  | struct {selections : List Selection} {lines : List StructLine}
      (made : (context.structLines parent selections).outcome = .ok lines)
      (embeds : context.EmbedsThroughout parent [selections] lines) :
      TextEmbeds context parent selections (StructLine.structText lines)

theorem textEmbeds {context : SelectionContext} {parent : String} {selections : List Selection}
    {content : String} (ok : (context.structText parent selections).outcome = .ok content) :
    context.TextEmbeds parent selections content := by
  by_cases hs : selections = []
  · subst hs
    cases ok
    exact .empty
  · obtain ⟨lines, made, rfl⟩ := structText_eq_ok hs ok
    exact .struct made (embedsThroughout made)

end SelectionContext

namespace OperationGenerator

variable {generator : OperationGenerator}

/-- What a spread of the name stands for. Where the document has a fragment of the name, that is the
type by which the code declares it, without a package. Otherwise it is the type of an external
fragment of the name, in the package of such types. -/
inductive FragmentReference (generator : OperationGenerator) (document : Document)
    (external : List LoadedFragment) (code name : String) : String → Prop
  | declared (present : ∃ fragment ∈ document.fragments, fragment.name = name)
      (declared : ∀ fragment ∈ document.fragments, fragment.name = name → ∃ content,
        (generator.fragmentDeclaration name content).StandsIn generator.style code) :
      FragmentReference generator document external code name (generator.fragmentTypeName name)
  | external {loaded : LoadedFragment} (mem : loaded ∈ external)
      (named : loaded.fragment.name = name)
      (absent : ∀ fragment ∈ document.fragments, fragment.name ≠ name) :
      FragmentReference generator document external code name
        (generator.resolver.qualifierText ++ generator.fragmentTypeName name)

/-- A fragment of the document stands for the type that is declared for it. -/
theorem spreadType_eq {loaded : LoadedFragment} (here : loaded.isExternal = false) :
    generator.selectionContext.spreadType loaded =
      generator.fragmentTypeName loaded.fragment.name := by
  unfold SelectionContext.spreadType fragmentTypeName
  rw [here]
  rfl

theorem spreadType_eq_qualified {loaded : LoadedFragment} (elsewhere : loaded.isExternal = true) :
    generator.selectionContext.spreadType loaded =
      generator.resolver.qualifierText ++ generator.fragmentTypeName loaded.fragment.name := by
  have resolver : generator.resolver.qualifier? = generator.options.qualifier? := rfl
  have context : generator.selectionContext.spreadType loaded =
      SchemaBindings.fragmentTypeName generator.options.names generator.options.qualifier?
        loaded.fragment.name loaded.isExternal := rfl
  rw [context, elsewhere]
  unfold fragmentTypeName TypeResolver.qualifierText SchemaBindings.fragmentTypeName
  rw [resolver]
  cases hq : generator.options.qualifier? with
  | none => simp
  | some package =>
    have named : package.isEmpty = false := by
      simpa using (Option.filter_eq_some_iff.1 hq).2
    simp [named]

/-- The text for a definition is that of its declarations, the struct in which embeds the spreads in
the selections. -/
inductive EmbedsFragments (generator : OperationGenerator) : Definition → String → Prop
  | fragment {fragment : Fragment} {content : String}
      (struct : generator.selectionContext.TextEmbeds fragment.onType fragment.selections content) :
      EmbedsFragments generator (.fragment fragment)
        ((generator.fragmentDeclaration fragment.name content).text generator.style)
  | operation {operation : Operation} {name root content : String}
      (named : operation.name? = some name)
      (rooted : generator.schema.rootType? operation.kind = some root)
      (struct : generator.selectionContext.TextEmbeds root operation.selections content) :
      EmbedsFragments generator (.operation operation)
        ((generator.variablesDeclaration operation name).text generator.style ++ "\n" ++
          (generator.resultDeclaration operation name content).text generator.style)

theorem embedsFragments {definition : Definition} {text : String}
    (ok : (generator.definitionText? definition).outcome = .ok (some text)) :
    generator.EmbedsFragments definition text := by
  cases definition with
  | fragment fragment =>
    obtain ⟨made, hm, he⟩ := definitionText?_fragment_eq_ok.1 ok
    cases he
    obtain ⟨content, hc, rfl⟩ := fragmentText_eq_ok hm
    exact .fragment (SelectionContext.textEmbeds hc)
  | operation operation =>
    rcases definitionText?_operation_eq_ok.1 ok with ⟨-, nothing⟩ | ⟨name, made, named, hm, he⟩
    · cases nothing
    · cases he
      obtain ⟨root, content, rooted, hc, rfl⟩ := namedOperationText_eq_ok hm
      exact .operation named rooted (SelectionContext.textEmbeds hc)

end OperationGenerator

/-! ## Outputs -/

namespace Plugin

variable {schema : Schema} {files : List DocumentFile} {options : Options} {info : PluginInfo}

/-- Where the output can be made, it declares the types of all fragments in the documents. -/
theorem exists_fragmentDeclaration {output : PluginOutput}
    (ok : (runOperations schema files options info).outcome = .ok output) {fragment : Fragment}
    (mem : fragment ∈ (DocumentFile.concat files).fragments) :
    ∃ content, ((operationGenerator schema files options info).fragmentDeclaration fragment.name
      content).StandsIn (operationGenerator schema files options info).style output.content := by
  obtain ⟨made, content, run⟩ := exists_made_of_runOperations ok
  obtain ⟨text?, ht, ok⟩ := Generation.exists_made_of_mem run (Document.mem_fragments.1 mem)
  obtain ⟨text, hm, rfl⟩ := OperationGenerator.definitionText?_fragment_eq_ok.1 ok
  obtain ⟨struct, -, rfl⟩ := OperationGenerator.fragmentText_eq_ok hm
  refine ⟨struct, ?_⟩
  rw [content]
  exact Text.exists_intercalate_eq (List.mem_filterMap.2 ⟨_, ht, rfl⟩)

theorem fragmentReference {output : PluginOutput}
    (elsewhere : ∀ loaded ∈ info.external, loaded.isExternal = true)
    (ok : (runOperations schema files options info).outcome = .ok output) {name : String}
    {loaded : LoadedFragment}
    (known : (operationGenerator schema files options info).fragments.find? name = some loaded) :
    (operationGenerator schema files options info).FragmentReference (DocumentFile.concat files)
      info.external output.content name
      ((operationGenerator schema files options info).selectionContext.spreadType loaded) := by
  have lookup := FragmentRegistry.find?_ofDocument (DocumentFile.concat files) info.external name
  rw [show (FragmentRegistry.ofDocument (DocumentFile.concat files) info.external).find? name =
    some loaded from known] at lookup
  cases found : (DocumentFile.concat files).fragments.find? (·.name == name) with
  | some fragment =>
    rw [found, Option.map_some, Option.some_or, Option.some.injEq] at lookup
    subst lookup
    have named : fragment.name = name := by simpa using List.find?_some found
    rw [OperationGenerator.spreadType_eq rfl, named]
    refine .declared ⟨fragment, List.mem_of_find?_eq_some found, named⟩ ?_
    rintro other mem rfl
    exact exists_fragmentDeclaration ok mem
  | none =>
    rw [found, Option.map_none, Option.none_or] at lookup
    have mem : loaded ∈ info.external := List.mem_of_find?_eq_some lookup.symm
    have named : loaded.fragment.name = name := by simpa using List.find?_some lookup.symm
    rw [OperationGenerator.spreadType_eq_qualified (elsewhere loaded mem), named]
    refine .external mem named fun fragment hf => ?_
    simpa using List.find?_eq_none.1 found fragment hf

/-- Every struct of the output embeds the spreads in its selections, by the declared types of
fragments of the documents, or else by those of external fragments. Other spreads add no line. -/
theorem embedded_fragments_are_declared
    (elsewhere : ∀ loaded ∈ info.external, loaded.isExternal = true) {output : PluginOutput}
    (ok : (runOperations schema files options info).outcome = .ok output) :
    let generator := operationGenerator schema files options info
    let document := DocumentFile.concat files
    (∃ texts, output.content = "\n".intercalate texts ∧
      List.Forall₂ generator.EmbedsFragments (document.filter (·.isNamed)) texts) ∧
    (∀ name loaded, generator.fragments.find? name = some loaded →
      generator.FragmentReference document info.external output.content name
        (generator.selectionContext.spreadType loaded)) ∧
    (∀ name, generator.fragments.find? name = none ↔
      document.LacksFragment info.external name) ∧
    ∀ name, document.LacksFragment info.external name →
      ∀ parent withTypename before after directives,
        (generator.selectionContext.rendering parent withTypename
          (before ++ .spread name directives :: after)).outcome =
        (generator.selectionContext.rendering parent withTypename (before ++ after)).outcome := by
  intro generator document
  refine ⟨?_, fun name loaded => fragmentReference elsewhere ok,
    fun name => FragmentRegistry.find?_eq_none_iff, ?_⟩
  · obtain ⟨made, content, run⟩ := exists_made_of_runOperations ok
    exact ⟨_, content, (OperationGenerator.forall₂_named run).imp
      fun _ _ => OperationGenerator.embedsFragments⟩
  · intro name lacks parent withTypename before after directives
    exact SelectionContext.outcome_rendering_unknown
      (FragmentRegistry.find?_eq_none_iff.2 lacks) parent withTypename before after directives

/-- The document `query Pets { pets { ...Named ...Tagged ...Lost } pets { ... on Cat { mother {
...Tagged } mother { ...Named } } } }` with `fragment Named on Cat { kind }`. -/
def taggedFiles : List DocumentFile := [{
  document := [
    .operation {
      kind := .query
      name? := some "Pets"
      selections := [
        .field { name := "pets" } [.spread "Named" [], .spread "Tagged" [], .spread "Lost" []],
        .field { name := "pets" } [.inline (some "Cat") [] [
          .field { name := "mother" } [.spread "Tagged" []],
          .field { name := "mother" } [.spread "Named" []]]]] },
    .fragment {
      name := "Named"
      onType := "Cat"
      selections := [.field { name := "kind" } []] }] }]

/-- The fragments `fragment Named on Pet { kind }` and `fragment Tagged on Pet { kind }`, which are
generated elsewhere. -/
def taggedInfo : PluginInfo where
  external := ["Named", "Tagged"].map fun name =>
    { fragment := { name, onType := "Pet", selections := [.field { name := "kind" } []] }
      isExternal := true }

/-- Options that name the package of types that are generated elsewhere. -/
def taggedOptions : Options where
  namespacedImportName? := some "shared"

/-- The fragments that are spread and the types that stand for them. -/
def taggedTypes : List (String × String) :=
  [("Named", "NamedFragment"), ("Tagged", "shared.TaggedFragment")]

theorem tagged_fragments_are_declared :
    (∀ loaded ∈ taggedInfo.external, loaded.isExternal = true) ∧
    ∃ output, (runOperations kindSchema taggedFiles taggedOptions taggedInfo).outcome =
        .ok output ∧
      (∃ texts, output.content = "\n".intercalate texts ∧
        List.Forall₂ (operationGenerator kindSchema taggedFiles taggedOptions
            taggedInfo).EmbedsFragments
          ((DocumentFile.concat taggedFiles).filter (·.isNamed)) texts) ∧
      ∀ name type, (name, type) ∈ taggedTypes →
        (operationGenerator kindSchema taggedFiles taggedOptions taggedInfo).FragmentReference
          (DocumentFile.concat taggedFiles) taggedInfo.external output.content name type := by
  have elsewhere : ∀ loaded ∈ taggedInfo.external, loaded.isExternal = true := by decide
  obtain ⟨output, ok⟩ := Generation.exists_eq_ok
    (x := runOperations kindSchema taggedFiles taggedOptions taggedInfo) (by decide +kernel)
  obtain ⟨texts, references, -, -⟩ := embedded_fragments_are_declared elsewhere ok
  refine ⟨elsewhere, output, ok, texts, fun name type hm => ?_⟩
  let generator := operationGenerator kindSchema taggedFiles taggedOptions taggedInfo
  have types : ∀ entry ∈ taggedTypes,
      (generator.fragments.find? entry.1).map generator.selectionContext.spreadType =
        some entry.2 := by
    decide +kernel
  obtain ⟨loaded, known, rfl⟩ := Option.map_eq_some_iff.1 (types _ hm)
  exact references name loaded known

end Plugin

end SchemaBindings
