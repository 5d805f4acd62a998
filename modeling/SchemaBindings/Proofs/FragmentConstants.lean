import SchemaBindings.Proofs.EmbeddedFragments
import SchemaBindings.Proofs.FragmentClosure

/-!
# Constants of fragments

What the constants for documents say. A definition with a name makes one constant
(`MakesConstant`): the one for an operation has a reference behind its text for each fragment that
its selections need, in the order of discovery (`FragmentRegistry.Needs`). A reference is to the
constant that the same code declares for the fragment of the documents of that name, if there is
one, and else to a constant of another package (`ConstantReference`). All this is put together for
whole outputs in `Plugin.constants_refer_to_fragments`.
-/

namespace SchemaBindings

/-! ## The fragments that selections need -/

/-- What is made of several items, without the warnings, is made of each of them. -/
theorem Logged.value_mapM {α β : Type} (f : α → Logged β) (items : List α) :
    (items.mapM f).value = items.map fun item => (f item).value := by
  induction items with
  | nil => rfl
  | cons item rest ih => simp [List.mapM_cons, ih]

namespace FragmentRegistry

variable {registry : FragmentRegistry} {selections : List Selection}

/-- The fragments that selections need: the known ones among all names that the walk through spreads
discovers, in its order. Each is listed once, and the listed ones are those that are reachable. -/
structure Needs (registry : FragmentRegistry) (selections : List Selection)
    (needed : List String) : Prop where
  discovered : ∃ found, registry.Discovers [] (Selection.spreadNamesOf selections) found ∧
    needed = found.filter registry.contains
  nodup : needed.Nodup
  mem_iff : ∀ name,
    name ∈ needed ↔ registry.contains name = true ∧ registry.Reaches selections name

theorem needs_neededBy (registry : FragmentRegistry) (selections : List Selection) :
    registry.Needs selections (registry.neededBy selections).value := by
  obtain ⟨found, walk, result⟩ := registry.foldlM_follow_eq_discovered
    (Selection.spreadNamesOf selections) (Nat.lt_succ_self registry.size)
  rw [neededBy_eq result]
  refine ⟨⟨found, walk, rfl⟩, walk.nodup.1.filter _, fun name => ?_⟩
  rw [List.mem_filter, walk.mem_iff_reaches, and_comm]

end FragmentRegistry

/-! ## The constants of definitions -/

namespace ConstantGenerator

variable {generator : ConstantGenerator} {document : Document}

/-- The package and the dot in front of constants that are declared in another package. -/
def qualifierText (generator : ConstantGenerator) : String :=
  match generator.qualifier? with
  | some package => package ++ "."
  | none => ""

/-- The entry for a definition with a name. The constant of an operation is its text and a reference
for each fragment that it needs; the operation is noted with the name of that constant. -/
inductive MakesConstant (generator : ConstantGenerator) :
    Definition → String × Option CollectedOperation → Prop
  | fragment {fragment : Fragment} :
      MakesConstant generator (.fragment fragment)
        ("const " ++ generator.fragmentConstant fragment.name ++ " = " ++
          Text.rawString fragment.print, none)
  | operation {operation : Operation} {name : String} {needed : List String}
      (named : operation.name? = some name)
      (needs : generator.fragments.Needs operation.selections needed) :
      MakesConstant generator (.operation operation)
        ("const " ++ generator.operationConstant name ++ " = " ++ Text.rawString operation.print ++
            String.join (needed.map fun fragment =>
              " + \"\\n\" + " ++ generator.fragmentReference fragment),
          some {
            constant := generator.operationConstant name
            kind := operation.kind
            name })

/-- The operation that is noted for a definition, if it is one with a name. -/
def noted? (generator : ConstantGenerator) : Definition → Option CollectedOperation
  | .fragment _ => none
  | .operation operation => operation.name?.map fun name =>
    { constant := generator.operationConstant name, kind := operation.kind, name }

theorem value_operationText? (operation : Operation) :
    (generator.operationText? operation).value = operation.name?.map fun name =>
      ("const " ++ generator.operationConstant name ++ " = " ++ Text.rawString operation.print ++
          String.join ((generator.fragments.neededBy operation.selections).value.map
            generator.referenceText),
        { constant := generator.operationConstant name, kind := operation.kind, name }) := by
  unfold operationText?
  cases operation.name? with
  | none => rfl
  | some name => rfl

/-- The entry for a definition, without the warnings that come with it. -/
def constant? (generator : ConstantGenerator) (definition : Definition) :
    Option (String × Option CollectedOperation) := (generator.definitionText? definition).value

theorem constant?_operation (operation : Operation) :
    generator.constant? (.operation operation) = operation.name?.map fun name =>
      ("const " ++ generator.operationConstant name ++ " = " ++ Text.rawString operation.print ++
          String.join ((generator.fragments.neededBy operation.selections).value.map
            generator.referenceText),
        some { constant := generator.operationConstant name, kind := operation.kind, name }) := by
  unfold constant? definitionText?
  rw [Logged.value_bind, value_operationText?]
  cases operation.name? with
  | none => rfl
  | some name => rfl

theorem makesConstant {definition : Definition} {entry : String × Option CollectedOperation}
    (made : generator.constant? definition = some entry) :
    generator.MakesConstant definition entry := by
  cases definition with
  | fragment fragment =>
    cases made
    exact .fragment
  | operation operation =>
    rw [constant?_operation, Option.map_eq_some_iff] at made
    obtain ⟨name, named, rfl⟩ := made
    exact .operation named (FragmentRegistry.needs_neededBy _ _)

theorem isSome_constant? (definition : Definition) :
    (generator.constant? definition).isSome = definition.isNamed := by
  cases definition with
  | fragment fragment => rfl
  | operation operation =>
    rw [constant?_operation, Option.isSome_map]
    rfl

theorem value_entries (document : Document) :
    (generator.entries document).value = document.filterMap generator.constant? := by
  unfold entries
  rw [Logged.value_bind, Logged.value_mapM, Logged.value_pure, List.filterMap_map]
  rfl

theorem value_texts (document : Document) :
    (generator.texts document).value = (generator.entries document).value.map (·.1) := rfl

theorem forall₂_makesConstant (document : Document) :
    List.Forall₂ generator.MakesConstant (document.filter (·.isNamed))
      (generator.entries document).value := by
  rw [value_entries]
  induction document with
  | nil => exact .nil
  | cons definition rest ih =>
    have named := generator.isSome_constant? definition
    cases made : generator.constant? definition with
    | none =>
      rw [made] at named
      rw [List.filterMap_cons_none made, List.filter_cons_of_neg (by simp [← named])]
      exact ih
    | some entry =>
      rw [made] at named
      rw [List.filterMap_cons_some made, List.filter_cons_of_pos (by simp [← named])]
      exact .cons (makesConstant made) ih

/-- The operations are noted in document order, each with the name of its constant. -/
theorem collected_eq (document : Document) :
    (generator.entries document).value.filterMap (·.2) =
      document.filterMap generator.noted? := by
  rw [value_entries, List.filterMap_filterMap]
  refine List.filterMap_congr fun definition _ => ?_
  cases definition with
  | fragment fragment => rfl
  | operation operation =>
    rw [constant?_operation, noted?]
    cases operation.name? <;> rfl

/-! ## References -/

/-- What a reference to the fragment of a name is. Where the document has fragments of the name, it
is the constant by which the code declares them, without a package. Otherwise it is the constant of
an external fragment of the name, in the package of such constants. -/
inductive ConstantReference (generator : ConstantGenerator) (document : Document)
    (external : List LoadedFragment) (code name : String) : String → Prop
  | declared (present : ∃ fragment ∈ document.fragments, fragment.name = name)
      (declared : ∀ fragment ∈ document.fragments, fragment.name = name → ∃ before after,
        code = before ++ ("const " ++ generator.fragmentConstant name ++ " = " ++
          Text.rawString fragment.print) ++ after ∧ Text.EndsLine before) :
      ConstantReference generator document external code name (generator.fragmentConstant name)
  | external {loaded : LoadedFragment} (mem : loaded ∈ external)
      (named : loaded.fragment.name = name)
      (absent : ∀ fragment ∈ document.fragments, fragment.name ≠ name) :
      ConstantReference generator document external code name
        (generator.qualifierText ++ generator.fragmentConstant name)

theorem fragmentReference_eq {name : String} {loaded : LoadedFragment}
    (known : generator.fragments.find? name = some loaded) :
    generator.fragmentReference name =
      (if loaded.isExternal then generator.qualifierText else "") ++
        generator.fragmentConstant name := by
  unfold fragmentReference qualifierText
  rw [known]
  cases generator.qualifier? with
  | none => simp
  | some package => cases h : loaded.isExternal <;> simp [h]

/-- The code holds the constant of each fragment of the document. -/
theorem exists_fragmentConstant {fragment : Fragment} (mem : fragment ∈ document.fragments) :
    ∃ before after, "\n".intercalate (generator.texts document).value =
      before ++ ("const " ++ generator.fragmentConstant fragment.name ++ " = " ++
        Text.rawString fragment.print) ++ after ∧ Text.EndsLine before := by
  apply Text.exists_intercalate_eq
  rw [value_texts, value_entries]
  exact List.mem_map.2 ⟨_, List.mem_filterMap.2 ⟨_, Document.mem_fragments.1 mem, rfl⟩, rfl⟩

end ConstantGenerator

/-! ## Outputs -/

namespace Plugin

variable {files : List DocumentFile} {options : Options} {info : PluginInfo}

/-- The generator that makes the constants for documents. -/
def constantGenerator (files : List DocumentFile) (options : Options) (info : PluginInfo) :
    ConstantGenerator :=
  .ofOptions options (.ofDocument (DocumentFile.concat files) info.external)

theorem constantReference (elsewhere : ∀ loaded ∈ info.external, loaded.isExternal = true)
    {name : String}
    (known : (constantGenerator files options info).fragments.contains name = true) :
    (constantGenerator files options info).ConstantReference (DocumentFile.concat files)
      info.external (runDocuments files options info).value.content name
      ((constantGenerator files options info).fragmentReference name) := by
  obtain ⟨loaded, hl⟩ := Option.isSome_iff_exists.1 known
  have lookup := FragmentRegistry.find?_ofDocument (DocumentFile.concat files) info.external name
  rw [show (FragmentRegistry.ofDocument (DocumentFile.concat files) info.external).find? name =
    some loaded from hl] at lookup
  rw [ConstantGenerator.fragmentReference_eq hl]
  cases found : (DocumentFile.concat files).fragments.find? (·.name == name) with
  | some fragment =>
    rw [found, Option.map_some, Option.some_or, Option.some.injEq] at lookup
    subst lookup
    have named : fragment.name = name := by simpa using List.find?_some found
    rw [if_neg Bool.false_ne_true, String.empty_append]
    refine .declared ⟨fragment, List.mem_of_find?_eq_some found, named⟩ ?_
    rintro other mem rfl
    exact ConstantGenerator.exists_fragmentConstant mem
  | none =>
    rw [found, Option.map_none, Option.none_or] at lookup
    have mem : loaded ∈ info.external := List.mem_of_find?_eq_some lookup.symm
    have named : loaded.fragment.name = name := by simpa using List.find?_some lookup.symm
    rw [if_pos (elsewhere loaded mem)]
    refine .external mem named fun fragment hf => ?_
    simpa using List.find?_eq_none.1 found fragment hf

/-- There is one constant for each fragment and each named operation, in document order, and each
refers to the constants of the fragments that it needs: those of the documents, or else external
ones. -/
theorem constants_refer_to_fragments (files : List DocumentFile) (options : Options)
    (elsewhere : ∀ loaded ∈ info.external, loaded.isExternal = true) :
    let generator := constantGenerator files options info
    let document := DocumentFile.concat files
    let code := (runDocuments files options info).value.content
    (∃ entries, (generator.entries document).value = entries ∧
      code = "\n".intercalate (entries.map (·.1)) ∧
      List.Forall₂ generator.MakesConstant (document.filter (·.isNamed)) entries ∧
      entries.filterMap (·.2) = document.filterMap generator.noted?) ∧
    (∀ name, generator.fragments.contains name = true →
      generator.ConstantReference document info.external code name
        (generator.fragmentReference name)) ∧
    ∀ name, generator.fragments.contains name = false ↔
      document.LacksFragment info.external name := by
  intro generator document code
  refine ⟨⟨_, rfl, rfl, ConstantGenerator.forall₂_makesConstant document,
    ConstantGenerator.collected_eq document⟩, fun name => constantReference elsewhere, ?_⟩
  intro name
  rw [← FragmentRegistry.find?_eq_none_iff]
  exact Option.isSome_eq_false_iff.trans Option.isNone_iff_eq_none

/-- The document `query pets { ...named }` with `fragment named on Cat { ...Tagged ...named }`: the
fragment spreads itself, and an external one that spreads it in turn. -/
def cyclicFiles : List DocumentFile := [
  { document := [
      .operation { kind := .query, name? := some "pets", selections := [.spread "named" []] }] },
  { document := [
      .fragment {
        name := "named"
        onType := "Cat"
        selections := [.spread "Tagged" [], .spread "named" []] }] }]

/-- The fragments `fragment named on Pet { kind }` and
`fragment Tagged on Pet { ...named ...Lost }`, which are generated elsewhere. -/
def cyclicInfo : PluginInfo where
  external := [
    { fragment := { name := "named", onType := "Pet", selections := [.field { name := "kind" } []] }
      isExternal := true },
    { fragment := {
        name := "Tagged"
        onType := "Pet"
        selections := [.spread "named" [], .spread "Lost" []] }
      isExternal := true }]

/-- The fragments of the cycle and the references to them. -/
def cyclicReferences : List (String × String) :=
  [("named", "NamedFragmentDoc"), ("Tagged", "shared.TaggedFragmentDoc")]

theorem cyclic_constants_refer_to_fragments :
    (∀ loaded ∈ cyclicInfo.external, loaded.isExternal = true) ∧
    (∃ entries, ((constantGenerator cyclicFiles taggedOptions cyclicInfo).entries
        (DocumentFile.concat cyclicFiles)).value = entries ∧
      List.Forall₂ (constantGenerator cyclicFiles taggedOptions cyclicInfo).MakesConstant
        ((DocumentFile.concat cyclicFiles).filter (·.isNamed)) entries ∧
      entries.filterMap (·.2) =
        [{ constant := "PetsDocument", kind := .query, name := "pets" }]) ∧
    ∀ entry ∈ cyclicReferences,
      (constantGenerator cyclicFiles taggedOptions cyclicInfo).ConstantReference
        (DocumentFile.concat cyclicFiles) cyclicInfo.external
        (runDocuments cyclicFiles taggedOptions cyclicInfo).value.content entry.1 entry.2 := by
  have elsewhere : ∀ loaded ∈ cyclicInfo.external, loaded.isExternal = true := by decide
  obtain ⟨⟨entries, made, -, constants, noted⟩, references, -⟩ :=
    constants_refer_to_fragments cyclicFiles taggedOptions elsewhere
  refine ⟨elsewhere, ⟨entries, made, constants, noted.trans (by decide +kernel)⟩, ?_⟩
  intro entry mem
  have known : ∀ entry ∈ cyclicReferences,
      (constantGenerator cyclicFiles taggedOptions cyclicInfo).fragments.contains entry.1 = true ∧
      (constantGenerator cyclicFiles taggedOptions cyclicInfo).fragmentReference entry.1 =
        entry.2 := by
    decide +kernel
  obtain ⟨present, written⟩ := known entry mem
  rw [← written]
  exact references entry.1 present

end Plugin

end SchemaBindings
