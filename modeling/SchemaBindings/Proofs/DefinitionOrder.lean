import SchemaBindings.Proofs.FragmentConstants
import SchemaBindings.Proofs.UsedTypeClosure

/-!
# The order of definitions

Generated code does not depend on how the definitions of documents are ordered and split into files.
Where no two fragments have one name, the order of definitions does not show in the look-up of
fragments (`find?_ofDocument_of_perm`), and it is only by look-up that what is made for a definition
depends on the others. So each definition has its text wherever it stands
(`Plugin.outputs_follow_definitions`).
-/

namespace SchemaBindings

/-! ## Look-up of fragments -/

namespace FragmentRegistry

theorem find?_name_of_perm {fragments others : List Fragment} (perm : fragments.Perm others)
    (once : (fragments.map (·.name)).Nodup) (name : String) :
    fragments.find? (·.name == name) = others.find? (·.name == name) := by
  have found : ∀ {items : List Fragment}, (items.map (·.name)).Nodup → ∀ fragment,
      items.find? (·.name == name) = some fragment ↔ fragment ∈ items ∧ fragment.name = name := by
    intro items nodup fragment
    constructor
    · intro h
      exact ⟨List.mem_of_find?_eq_some h, by simpa using List.find?_some h⟩
    · rintro ⟨mem, rfl⟩
      cases h : items.find? (·.name == fragment.name) with
      | none =>
        have := List.find?_eq_none.1 h fragment mem
        simp at this
      | some other =>
        have same : other.name = fragment.name := by simpa using List.find?_some h
        rw [List.inj_on_of_nodup_map nodup (List.mem_of_find?_eq_some h) mem same]
  have onceToo : (others.map (·.name)).Nodup := (perm.map _).nodup_iff.1 once
  apply Option.ext
  intro fragment
  rw [found once, found onceToo, perm.mem_iff]

theorem find?_ofDocument_of_perm {document other : Document} (perm : document.Perm other)
    (once : (document.fragments.map (·.name)).Nodup) (external : List LoadedFragment)
    (name : String) :
    (ofDocument other external).find? name = (ofDocument document external).find? name := by
  have fragments : document.fragments.Perm other.fragments := perm.filterMap _
  rw [find?_ofDocument, find?_ofDocument, find?_name_of_perm fragments once]

variable {registry other : FragmentRegistry}

/-- The walk through spreads asks a registry only for the fragments of names. -/
theorem Discovers.of_find?_eq (same : ∀ name, other.find? name = registry.find? name)
    {seen names found : List String} (h : registry.Discovers seen names found) :
    other.Discovers seen names found := by
  induction h with
  | done => exact .done
  | again mem _ ih => exact .again mem ih
  | @first seen rest inner later name hn _ _ ihInner ihLater =>
    have inside : other.spreadsIn name = registry.spreadsIn name := by
      unfold spreadsIn
      rw [same]
    exact .first hn (inside ▸ ihInner) ihLater

theorem neededBy_of_find?_eq (same : ∀ name, other.find? name = registry.find? name)
    (selections : List Selection) : other.neededBy selections = registry.neededBy selections := by
  obtain ⟨found, walk, result⟩ := registry.foldlM_follow_eq_discovered
    (Selection.spreadNamesOf selections) (Nat.lt_succ_self registry.size)
  obtain ⟨found', walk', result'⟩ := other.foldlM_follow_eq_discovered
    (Selection.spreadNamesOf selections) (Nat.lt_succ_self other.size)
  obtain rfl := walk'.unique (walk.of_find?_eq same)
  have contains : other.contains = registry.contains := by
    funext name
    unfold OrderedMap.contains
    rw [same]
  rw [neededBy_eq result, neededBy_eq result', contains]

end FragmentRegistry

/-! ## What is made for one definition -/

namespace SelectionContext

variable {context : SelectionContext} {registry : FragmentRegistry}

/-- Rendering asks a registry only for the fragments of names. -/
theorem linesWithin_of_find?_eq (same : ∀ name, registry.find? name = context.fragments.find? name)
    (bound : Nat) :
    { context with fragments := registry }.linesWithin bound = context.linesWithin bound := by
  induction bound with
  | zero => rfl
  | succ bound ih =>
    have spread : ({ context with fragments := registry } : SelectionContext).collectSpread =
        context.collectSpread := by
      funext collected name
      unfold collectSpread
      rw [same]
    have one : ∀ nested parent,
        ({ context with fragments := registry } : SelectionContext).collectOne nested parent =
          context.collectOne nested parent := by
      intro nested parent
      funext collected selection
      cases selection with
      | field call selections => rfl
      | spread fragment directives => exact congrFun (congrFun spread collected) fragment
      | inline condition? directives selections => rfl
    funext parent withTypename selections
    rw [linesWithin, linesWithin, ih, collect, collect, one]
    rfl

theorem structText_of_find?_eq (same : ∀ name, registry.find? name = context.fragments.find? name)
    (parent : String) (selections : List Selection) :
    { context with fragments := registry }.structText parent selections =
      context.structText parent selections := by
  unfold structText structLines
  rw [linesWithin_of_find?_eq same]

end SelectionContext

namespace OperationGenerator

variable {generator : OperationGenerator} {registry : FragmentRegistry}

theorem definitionText?_of_find?_eq
    (same : ∀ name, registry.find? name = generator.fragments.find? name)
    (definition : Definition) :
    { generator with fragments := registry }.definitionText? definition =
      generator.definitionText? definition := by
  have context : ({ generator with fragments := registry } : OperationGenerator).selectionContext =
      { generator.selectionContext with fragments := registry } := rfl
  have struct : ∀ parent selections,
      ({ generator with fragments := registry } : OperationGenerator).selectionContext.structText
        parent selections = generator.selectionContext.structText parent selections := by
    intro parent selections
    rw [context]
    exact SelectionContext.structText_of_find?_eq same parent selections
  cases definition with
  | fragment fragment =>
    unfold definitionText? fragmentText
    simp only [struct]
    rfl
  | operation operation =>
    unfold definitionText? namedOperationText
    simp only [struct]
    rfl

/-- The text for a definition, where one can be made. -/
def text? (generator : OperationGenerator) (definition : Definition) : Option String :=
  match (generator.definitionText? definition).outcome with
  | .ok text? => text?
  | .error _ => none

/-- The texts for a document can be made exactly if that for each definition can. -/
theorem isOk_texts_iff {document : Document} :
    (generator.texts document).outcome.isOk = true ↔
      ∀ definition ∈ document, (generator.definitionText? definition).outcome.isOk = true := by
  constructor
  · intro ok definition hd
    obtain ⟨texts, ok⟩ := Generation.exists_eq_ok ok
    obtain ⟨made, run, -⟩ := Generation.outcome_bind_eq_ok.1 ok
    obtain ⟨text?, -, ok⟩ := Generation.exists_made_of_mem (Generation.outcome_mapM_eq_ok.1 run) hd
    rw [ok]
    rfl
  · intro passes
    cases failed : (generator.texts document).outcome with
    | ok texts => rfl
    | error error =>
      have failed := Generation.eq_error_of_bind (fun _ => ⟨_, rfl⟩) failed
      obtain ⟨before, definition, after, rfl, -, failed⟩ :=
        Generation.outcome_mapM_eq_error failed
      have ok := passes definition (by simp)
      rw [failed] at ok
      cases ok

theorem texts_eq_filterMap {document : Document} {texts : List String}
    (ok : (generator.texts document).outcome = .ok texts) :
    texts = document.filterMap generator.text? := by
  have each : ∀ {definitions made}, List.Forall₂ (fun definition text? =>
      (generator.definitionText? definition).outcome = .ok text?) definitions made →
      made = definitions.map generator.text? := by
    intro definitions made run
    induction run with
    | nil => rfl
    | cons made_ok _ ih => rw [List.map_cons, ← ih, text?, made_ok]
  obtain ⟨made, run, ok⟩ := Generation.outcome_bind_eq_ok.1 ok
  cases ok
  rw [each (Generation.outcome_mapM_eq_ok.1 run), List.filterMap_map]
  rfl

end OperationGenerator

namespace ConstantGenerator

variable {generator : ConstantGenerator} {registry : FragmentRegistry}

theorem constant?_of_find?_eq
    (same : ∀ name, registry.find? name = generator.fragments.find? name)
    (definition : Definition) :
    { generator with fragments := registry }.constant? definition =
      generator.constant? definition := by
  have reference : ({ generator with fragments := registry } : ConstantGenerator).referenceText =
      generator.referenceText := by
    funext name
    unfold referenceText fragmentReference
    rw [same]
    rfl
  cases definition with
  | fragment fragment => rfl
  | operation operation =>
    rw [constant?_operation, constant?_operation, reference,
      FragmentRegistry.neededBy_of_find?_eq same]
    rfl

/-- The text of the constant for a definition, if there is one. -/
def text? (generator : ConstantGenerator) (definition : Definition) : Option String :=
  (generator.constant? definition).map (·.1)

theorem value_texts_eq_filterMap (document : Document) :
    (generator.texts document).value = document.filterMap generator.text? := by
  rw [value_texts, value_entries, List.map_filterMap]
  rfl

end ConstantGenerator

namespace TypeGenerator

variable {generator : TypeGenerator} {schema : Schema} {used others : List String}

/-- Of the types that are listed to be declared only membership counts. -/
theorem texts_of_included_eq (same : ∀ name, name ∈ used ↔ name ∈ others) :
    { generator with included? := some used }.texts schema =
      { generator with included? := some others }.texts schema := by
  have includes : ∀ name,
      ({ generator with included? := some used } : TypeGenerator).includes name =
        ({ generator with included? := some others } : TypeGenerator).includes name := by
    intro name
    show used.contains name = others.contains name
    rw [Bool.eq_iff_iff, List.contains_iff_mem, List.contains_iff_mem, same]
  have items : ({ generator with included? := some used } : TypeGenerator).items =
      ({ generator with included? := some others } : TypeGenerator).items := by
    funext definition
    cases definition with
    | roots roots => rfl
    | directive directive => rfl
    | type definition =>
      show typeItems _ definition = typeItems _ definition
      unfold typeItems
      rw [includes]
      rfl
  unfold texts
  refine List.filterMap_congr fun definition _ => ?_
  unfold text?
  rw [items]

end TypeGenerator

/-! ## Outputs -/

namespace Plugin

variable {files others : List DocumentFile} (schema : Schema) (options : Options)
  (info : PluginInfo)

theorem runUsedTypes_of_perm
    (perm : (DocumentFile.concat files).Perm (DocumentFile.concat others)) :
    runUsedTypes schema others options info = runUsedTypes schema files options info := by
  have same : ∀ name, name ∈ schema.usedTypes (DocumentFile.concat others) ↔
      name ∈ schema.usedTypes (DocumentFile.concat files) := by
    intro name
    simp only [Schema.mem_usedTypes_iff, perm.mem_iff]
  unfold runUsedTypes typesOutput
  dsimp only
  rw [TypeGenerator.texts_of_included_eq same]
  rfl

theorem definitionText?_of_perm
    (perm : (DocumentFile.concat files).Perm (DocumentFile.concat others))
    (once : ((DocumentFile.concat files).fragments.map (·.name)).Nodup) :
    (operationGenerator schema others options info).definitionText? =
      (operationGenerator schema files options info).definitionText? := by
  have same : ∀ name, (operationGenerator schema others options info).fragments.find? name =
      (operationGenerator schema files options info).fragments.find? name :=
    FragmentRegistry.find?_ofDocument_of_perm perm once info.external
  funext definition
  exact OperationGenerator.definitionText?_of_find?_eq same definition

theorem constant?_of_perm (perm : (DocumentFile.concat files).Perm (DocumentFile.concat others))
    (once : ((DocumentFile.concat files).fragments.map (·.name)).Nodup) :
    (constantGenerator others options info).constant? =
      (constantGenerator files options info).constant? := by
  have same : ∀ name, (constantGenerator others options info).fragments.find? name =
      (constantGenerator files options info).fragments.find? name :=
    FragmentRegistry.find?_ofDocument_of_perm perm once info.external
  funext definition
  exact ConstantGenerator.constant?_of_find?_eq same definition

/-- The output that consists of the texts. -/
def joinedOutput (texts : List String) : PluginOutput where
  content := "\n".intercalate texts
  header := packageHeader options info

theorem outcome_runOperations : (runOperations schema files options info).outcome =
    ((operationGenerator schema files options info).texts (DocumentFile.concat files)).outcome.map
      (joinedOutput options info) := by
  unfold runOperations
  dsimp only
  rw [Generation.outcome_bind]
  rfl

theorem isOk_runOperations_iff :
    (runOperations schema files options info).outcome.isOk = true ↔
      ∀ definition ∈ DocumentFile.concat files,
        ((operationGenerator schema files options info).definitionText? definition).outcome.isOk =
          true := by
  rw [← OperationGenerator.isOk_texts_iff, outcome_runOperations]
  cases ((operationGenerator schema files options info).texts (DocumentFile.concat files)).outcome
    <;> rfl

theorem runOperations_eq_filterMap {output : PluginOutput}
    (ok : (runOperations schema files options info).outcome = .ok output) :
    output = joinedOutput options info ((DocumentFile.concat files).filterMap
      (operationGenerator schema files options info).text?) := by
  rw [outcome_runOperations] at ok
  cases made : ((operationGenerator schema files options info).texts
      (DocumentFile.concat files)).outcome with
  | error error =>
    rw [made] at ok
    cases ok
  | ok texts =>
    rw [made] at ok
    cases ok
    rw [OperationGenerator.texts_eq_filterMap made]

/-- Definitions with distinct fragment names may be put into any order and split into files in any
way: the same types are used, and the same texts and constants are made, in the new order. -/
theorem outputs_follow_definitions (files : List DocumentFile)
    (once : ((DocumentFile.concat files).fragments.map (·.name)).Nodup)
    (others : List DocumentFile)
    (perm : (DocumentFile.concat files).Perm (DocumentFile.concat others)) :
    runUsedTypes schema others options info = runUsedTypes schema files options info ∧
    ((runOperations schema others options info).outcome.isOk =
        (runOperations schema files options info).outcome.isOk ∧
      ∀ output, (runOperations schema others options info).outcome = .ok output →
        output = joinedOutput options info ((DocumentFile.concat others).filterMap
          (operationGenerator schema files options info).text?)) ∧
    (runDocuments others options info).value =
      joinedOutput options info ((DocumentFile.concat others).filterMap
        (constantGenerator files options info).text?) := by
  have operations := definitionText?_of_perm schema options info perm once
  have constants := constant?_of_perm options info perm once
  have operationTexts : (operationGenerator schema others options info).text? =
      (operationGenerator schema files options info).text? := by
    funext definition
    unfold OperationGenerator.text?
    rw [operations]
  have constantTexts : (constantGenerator others options info).text? =
      (constantGenerator files options info).text? := by
    funext definition
    unfold ConstantGenerator.text?
    rw [constants]
  refine ⟨runUsedTypes_of_perm schema options info perm, ⟨?_, ?_⟩, ?_⟩
  · rw [Bool.eq_iff_iff, isOk_runOperations_iff, isOk_runOperations_iff, operations]
    simp only [perm.mem_iff]
  · intro output ok
    rw [← operationTexts]
    exact runOperations_eq_filterMap schema options info ok
  · rw [← constantTexts, ← ConstantGenerator.value_texts_eq_filterMap]
    rfl

/-- The definitions of the documents of the cycle, in reverse order in one file. -/
def reversedFiles : List DocumentFile :=
  [{ document := (DocumentFile.concat cyclicFiles).reverse }]

theorem reversed_outputs_follow_definitions :
    ((DocumentFile.concat cyclicFiles).fragments.map (·.name)).Nodup ∧
    (DocumentFile.concat cyclicFiles).Perm (DocumentFile.concat reversedFiles) ∧
    runUsedTypes kindSchema reversedFiles taggedOptions cyclicInfo =
      runUsedTypes kindSchema cyclicFiles taggedOptions cyclicInfo ∧
    (∃ output,
      (runOperations kindSchema reversedFiles taggedOptions cyclicInfo).outcome = .ok output ∧
      output = joinedOutput taggedOptions cyclicInfo ((DocumentFile.concat reversedFiles).filterMap
        (operationGenerator kindSchema cyclicFiles taggedOptions cyclicInfo).text?)) ∧
    (runDocuments reversedFiles taggedOptions cyclicInfo).value =
      joinedOutput taggedOptions cyclicInfo ((DocumentFile.concat reversedFiles).filterMap
        (constantGenerator cyclicFiles taggedOptions cyclicInfo).text?) := by
  have once : ((DocumentFile.concat cyclicFiles).fragments.map (·.name)).Nodup := by
    decide +kernel
  have perm : (DocumentFile.concat cyclicFiles).Perm (DocumentFile.concat reversedFiles) := by
    rw [show DocumentFile.concat reversedFiles = (DocumentFile.concat cyclicFiles).reverse from
      List.append_nil _]
    exact (List.reverse_perm _).symm
  obtain ⟨types, ⟨succeeds, made⟩, constants⟩ := outputs_follow_definitions kindSchema
    taggedOptions cyclicInfo cyclicFiles once reversedFiles perm
  have first : (runOperations kindSchema cyclicFiles taggedOptions cyclicInfo).outcome.isOk =
      true := by decide +kernel
  obtain ⟨output, ok⟩ := Generation.exists_eq_ok (succeeds.trans first)
  exact ⟨once, perm, types, ⟨output, ok, made output ok⟩, constants⟩

end Plugin

end SchemaBindings
