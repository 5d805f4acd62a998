import SchemaBindings.Generated.UsedTypes
import SchemaBindings.Proofs.StructSources

/-!
# Marked types

What the walk over selections marks as used. Marking only adds (`subset_markSelections`), and it
marks the type of each selected field and each type condition, at any depth (`Covered`,
`covered_of_markSelections`). Rendering puts the sub-selections of repeated fields together; where
the selections are consistent, these are covered too (`coveredBy_passedOn`).
-/

namespace SchemaBindings

namespace Schema

variable {schema : Schema}

/-! ## Marking only adds -/

theorem subset_foldl {α : Type} {f : List String → α → List String} {items : List α}
    (h : ∀ used, ∀ item ∈ items, used ⊆ f used item) (used : List String) :
    used ⊆ items.foldl f used := by
  induction items generalizing used with
  | nil => exact List.Subset.refl _
  | cons item rest ih =>
    exact List.Subset.trans (h used item List.mem_cons_self)
      (ih (fun used other ho => h used other (List.mem_cons_of_mem _ ho)) _)

/-- What each step of a run that only adds has made is in its result. -/
theorem exists_step_subset_foldl {α : Type} {f : List String → α → List String} {items : List α}
    (h : ∀ used, ∀ item ∈ items, used ⊆ f used item) {item : α} (hi : item ∈ items)
    (used : List String) : ∃ before, f before item ⊆ items.foldl f used := by
  induction items generalizing used with
  | nil => cases hi
  | cons first rest ih =>
    have added : ∀ used, ∀ item ∈ rest, used ⊆ f used item :=
      fun used other ho => h used other (List.mem_cons_of_mem _ ho)
    rcases List.mem_cons.1 hi with rfl | hi
    · exact ⟨used, subset_foldl added _⟩
    · exact ih added hi _

theorem subset_mark (bound : Nat) (used : List String) (name : String) :
    used ⊆ schema.mark bound used name := by
  induction bound generalizing used name with
  | zero => exact List.Subset.refl _
  | succ bound ih =>
    unfold mark
    split
    · exact List.Subset.refl _
    · exact List.Subset.trans (List.subset_append_left _ _)
        (subset_foldl (fun used item _ => ih used item) _)

theorem mem_mark (bound : Nat) (used : List String) (name : String) :
    name ∈ schema.mark (bound + 1) used name := by
  unfold mark
  split
  · assumption
  · have added : name ∈ used ++ [name] := by simp
    exact subset_foldl (fun used item _ => subset_mark bound used item) _ added

theorem subset_markUsed (used : List String) (name : String) : used ⊆ schema.markUsed used name :=
  subset_mark _ used name

theorem mem_markUsed (used : List String) (name : String) : name ∈ schema.markUsed used name :=
  mem_mark _ used name

theorem markSelections_eq_foldl (parent : String) (used : List String)
    (selections : List Selection) : schema.markSelections parent used selections =
      selections.foldl (schema.markSelection parent) used := by
  induction selections generalizing used with
  | nil => rfl
  | cons selection rest ih => rw [markSelections, ih, List.foldl_cons]

theorem subset_markSelections (parent : String) (used : List String)
    (selections : List Selection) : used ⊆ schema.markSelections parent used selections := by
  induction selections using Selection.nested_induction generalizing parent used with
  | step selections fields inlines =>
    rw [markSelections_eq_foldl]
    refine subset_foldl (fun used selection hs => ?_) used
    cases selection with
    | field call inner =>
      unfold markSelection
      split
      · exact List.Subset.trans (subset_markUsed used _) (fields call inner hs _ _)
      · exact List.Subset.refl _
    | spread fragment directives => exact List.Subset.refl _
    | inline condition? directives inner =>
      exact List.Subset.trans (subset_markUsed used _) (inlines condition? directives inner hs _ _)

theorem subset_markSelection (parent : String) (used : List String) (selection : Selection) :
    used ⊆ schema.markSelection parent used selection :=
  subset_markSelections parent used [selection]

theorem subset_markDefinition (used : List String) (definition : Definition) :
    used ⊆ schema.markDefinition used definition := by
  cases definition with
  | fragment fragment =>
    exact List.Subset.trans (subset_markUsed used _) (subset_markSelections _ _ _)
  | operation operation =>
    have inputs : used ⊆ (operation.variableDefinitions.map (·.type.baseName)).foldl
        schema.markUsed used := subset_foldl (fun used name _ => subset_markUsed used name) used
    unfold markDefinition
    dsimp only
    split
    · exact List.Subset.trans inputs
        (List.Subset.trans (subset_markUsed _ _) (subset_markSelections _ _ _))
    · exact inputs

/-! ## What is marked -/

/-- The types of the fields in selections are among the names, at any depth. The selections inside a
field are taken on its own type, and those of an inline fragment on its type condition. -/
inductive Covered (schema : Schema) (names : List String) : String → List Selection → Prop
  | intro {parent : String} {selections : List Selection}
      (types : ∀ {call : FieldCall} {inner : List Selection} {type : TypeRef},
        .field call inner ∈ selections → schema.fieldType? parent call.name = some type →
          type.baseName ∈ names)
      (fields : ∀ {call : FieldCall} {inner : List Selection} {type : TypeRef},
        .field call inner ∈ selections → schema.fieldType? parent call.name = some type →
          Covered schema names type.baseName inner)
      (inlines : ∀ {condition? : Option String} {directives : List Directive}
        {inner : List Selection}, .inline condition? directives inner ∈ selections →
          Covered schema names (condition?.getD parent) inner) :
      Covered schema names parent selections

theorem covered_of_markSelections {parent : String} {used names : List String}
    {selections : List Selection} (h : schema.markSelections parent used selections ⊆ names) :
    schema.Covered names parent selections := by
  induction selections using Selection.nested_induction generalizing parent used with
  | step selections fields inlines =>
    have marked : ∀ {selection}, selection ∈ selections →
        ∃ before, schema.markSelection parent before selection ⊆ names := by
      intro selection hs
      rw [markSelections_eq_foldl] at h
      obtain ⟨before, hb⟩ := exists_step_subset_foldl
        (fun used selection _ => subset_markSelection parent used selection) hs used
      exact ⟨before, List.Subset.trans hb h⟩
    have field : ∀ {call : FieldCall} {inner : List Selection} {type : TypeRef},
        .field call inner ∈ selections → schema.fieldType? parent call.name = some type →
          ∃ before, schema.markSelections type.baseName (schema.markUsed before type.baseName)
            inner ⊆ names := by
      intro call inner type hm ht
      obtain ⟨before, hb⟩ := marked hm
      rw [markSelection, ht] at hb
      exact ⟨before, hb⟩
    have inline : ∀ {condition? : Option String} {directives : List Directive}
        {inner : List Selection}, .inline condition? directives inner ∈ selections →
          ∃ before, schema.markSelections (condition?.getD parent)
            (schema.markUsed before (condition?.getD parent)) inner ⊆ names := by
      intro condition? directives inner hm
      obtain ⟨before, hb⟩ := marked hm
      rw [markSelection] at hb
      exact ⟨before, hb⟩
    refine .intro (fun hm ht => ?_) (fun hm ht => ?_) fun hm => ?_
    · obtain ⟨before, hb⟩ := field hm ht
      exact hb (subset_markSelections _ _ _ (mem_markUsed before _))
    · obtain ⟨before, hb⟩ := field hm ht
      exact fields _ _ hm hb
    · obtain ⟨before, hb⟩ := inline hm
      exact inlines _ _ _ hm hb

namespace Covered

variable {names : List String} {parent : String} {selections : List Selection}

theorem type_mem (h : schema.Covered names parent selections) {call : FieldCall}
    {inner : List Selection} {type : TypeRef} (hm : .field call inner ∈ selections)
    (ht : schema.fieldType? parent call.name = some type) : type.baseName ∈ names := by
  cases h with
  | intro types fields inlines => exact types hm ht

theorem field (h : schema.Covered names parent selections) {call : FieldCall}
    {inner : List Selection} {type : TypeRef} (hm : .field call inner ∈ selections)
    (ht : schema.fieldType? parent call.name = some type) :
    schema.Covered names type.baseName inner := by
  cases h with
  | intro types fields inlines => exact fields hm ht

theorem inline (h : schema.Covered names parent selections) {condition? : Option String}
    {directives : List Directive} {inner : List Selection}
    (hm : .inline condition? directives inner ∈ selections) :
    schema.Covered names (condition?.getD parent) inner := by
  cases h with
  | intro types fields inlines => exact inlines hm

theorem flatMap {α : Type} {items : List α} {part : α → List Selection}
    (h : ∀ item ∈ items, schema.Covered names parent (part item)) :
    schema.Covered names parent (items.flatMap part) := by
  refine .intro (fun hm ht => ?_) (fun hm ht => ?_) fun hm => ?_ <;>
    obtain ⟨item, hi, hm⟩ := List.mem_flatMap.1 hm
  · exact (h item hi).type_mem hm ht
  · exact (h item hi).field hm ht
  · exact (h item hi).inline hm

end Covered

/-- The type that the selections of a definition are on; an operation needs a root type. -/
def selectedType? (schema : Schema) : Definition → Option String
  | .fragment fragment => some fragment.onType
  | .operation operation => schema.rootType? operation.kind

theorem markDefinition_subset_usedTypes {document : Document} {definition : Definition}
    (hd : definition ∈ document) :
    ∃ before, schema.markDefinition before definition ⊆ schema.usedTypes document :=
  exists_step_subset_foldl (fun used definition _ => subset_markDefinition used definition) hd []

theorem covered_usedTypes {document : Document} {definition : Definition}
    (hd : definition ∈ document) {parent : String}
    (hp : schema.selectedType? definition = some parent) :
    schema.Covered (schema.usedTypes document) parent definition.selections := by
  obtain ⟨before, hb⟩ := markDefinition_subset_usedTypes hd
  cases definition with
  | fragment fragment =>
    cases hp
    exact covered_of_markSelections hb
  | operation operation =>
    have root : schema.rootType? operation.kind = some parent := hp
    unfold markDefinition at hb
    dsimp only at hb
    rw [root] at hb
    exact covered_of_markSelections hb

/-- The types of variables are used. -/
theorem inputType_mem_usedTypes {document : Document} {operation : Operation}
    (ho : .operation operation ∈ document) {input : VariableDefinition}
    (hi : input ∈ operation.variableDefinitions) :
    input.type.baseName ∈ schema.usedTypes document := by
  obtain ⟨before, hb⟩ := markDefinition_subset_usedTypes ho
  have marked : input.type.baseName ∈ (operation.variableDefinitions.map
      (·.type.baseName)).foldl schema.markUsed before := by
    obtain ⟨used, hu⟩ := exists_step_subset_foldl
      (fun used name _ => subset_markUsed used name) (List.mem_map.2 ⟨input, hi, rfl⟩) before
    exact hu (mem_markUsed used _)
  unfold markDefinition at hb
  dsimp only at hb
  split at hb
  · exact hb (subset_markSelections _ _ _ (subset_markUsed _ _ marked))
  · exact hb marked

end Schema

/-! ## Selections that are put together -/

namespace SelectionContext

variable {context : SelectionContext} {parent : String}

/-- Where the schema defines every field of a key, the link of the key has all sub-selections. -/
theorem flatMap_linksUnder {selections : List Selection} {key : String}
    (defined : ∀ call inner, .field call inner ∈ selections → call.responseName = key →
      ∃ type, context.definedField? parent (.field call inner) = some ⟨call, type, inner⟩) :
    (DefinedField.linksUnder (context.definedFields parent selections) key).flatMap
        (·.selections) = Selection.subSelections selections key := by
  induction selections with
  | nil => rfl
  | cons selection rest ih =>
    have tail := ih fun call inner hm => defined call inner (List.mem_cons_of_mem _ hm)
    unfold definedFields Selection.subSelections at *
    rw [List.filterMap_cons, List.flatMap_cons, ← tail]
    cases selection with
    | spread fragment directives => rfl
    | inline condition? directives inner => rfl
    | field call inner =>
      by_cases hk : call.responseName = key
      · obtain ⟨type, hd⟩ := defined call inner List.mem_cons_self hk
        rw [hd]
        cases inner <;> simp [DefinedField.linksUnder, DefinedField.isLink, DefinedField.key, hk]
      · cases hd : context.definedField? parent (.field call inner) with
        | none => simp [hk]
        | some field =>
          obtain ⟨he, -⟩ := definedField?_eq_some.1 hd
          cases he
          simp [DefinedField.linksUnder, DefinedField.key, hk]

theorem definedField?_of_link {selections : List Selection}
    (consistent : Selection.Consistent selections) {key : String} {link : Link}
    (under : DefinedField.link? (context.definedFields parent selections) key = some link)
    {call : FieldCall} {inner : List Selection} (mem : .field call inner ∈ selections)
    (hk : call.responseName = key) :
    context.definedField? parent (.field call inner) = some ⟨call, link.type, inner⟩ := by
  obtain ⟨⟨first, hf, ht⟩, -⟩ := DefinedField.link?_eq_some under
  obtain ⟨first_mem, -, rfl⟩ := DefinedField.mem_linksUnder.1 hf
  obtain ⟨hm, hn, hd⟩ := mem_definedFields.1 first_mem
  -- a key stands for one field, so all its sub-selections are on the type of the first
  have same : call.name = first.call.name := consistent.same mem hm hk
  rw [definedField?, same, if_neg hn, hd, ht]
  rfl

theorem selections_link? {selections : List Selection}
    (consistent : Selection.Consistent selections) {key : String} {link : Link}
    (under : DefinedField.link? (context.definedFields parent selections) key = some link) :
    link.selections = Selection.subSelections selections key := by
  obtain ⟨-, hl⟩ := DefinedField.link?_eq_some under
  rw [hl]
  exact flatMap_linksUnder fun _ _ hm hk => ⟨_, definedField?_of_link consistent under hm hk⟩

theorem consistent_link {selections : List Selection} (consistent : Selection.Consistent selections)
    {key : String} {link : Link}
    (under : DefinedField.link? (context.definedFields parent selections) key = some link) :
    (∀ field ∈ DefinedField.linksUnder (context.definedFields parent selections) key,
      field.type = link.type) ∧ Selection.Consistent link.selections := by
  constructor
  · intro field hs
    obtain ⟨field_mem, -, hk⟩ := DefinedField.mem_linksUnder.1 hs
    obtain ⟨mem, defined⟩ := mem_definedFields.1 field_mem
    have told := definedField?_of_link consistent under mem hk
    rw [definedField?_eq_some.2 ⟨rfl, defined⟩] at told
    exact congrArg DefinedField.type (Option.some.inj told)
  · obtain ⟨⟨first, hf, -⟩, -⟩ := DefinedField.link?_eq_some under
    obtain ⟨first_mem, -, rfl⟩ := DefinedField.mem_linksUnder.1 hf
    rw [selections_link? consistent under]
    exact consistent.subSelections (mem_definedFields.1 first_mem).1

/-- The names cover the selections, which are consistent. -/
def CoveredBy (context : SelectionContext) (names : List String) (parent : String)
    (selections : List Selection) : Prop :=
  context.schema.Covered names parent selections ∧ Selection.Consistent selections

theorem coveredBy_passedOn (names : List String) : context.PassedOn (context.CoveredBy names) where
  inline := fun h mem => ⟨h.1.inline mem, h.2.inline mem⟩
  link := by
    rintro parent key selections link ⟨covered, consistent⟩ under
    obtain ⟨types, inner⟩ := consistent_link consistent under
    refine ⟨?_, inner⟩
    obtain ⟨-, hl⟩ := DefinedField.link?_eq_some under
    rw [hl]
    refine .flatMap fun field hs => ?_
    obtain ⟨field_mem, -, -⟩ := DefinedField.mem_linksUnder.1 hs
    obtain ⟨mem, -, type⟩ := mem_definedFields.1 field_mem
    rw [← types field hs]
    exact covered.field mem type

end SelectionContext

end SchemaBindings
