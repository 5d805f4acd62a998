import SchemaBindings.Document.Selection

/-!
# Nesting of selections

The selections inside a field or an inline fragment nest less deeply than the list it stands in.
`nested_induction` is the induction on lists of selections that this gives: what holds of a list
whenever it holds of the lists directly inside it holds of every list.

`Consistent` selections are those in which a response key stands for one field, also where the
sub-selections of repeated fields are put together.
-/

namespace SchemaBindings

namespace Selection

theorem heights_cons (selection : Selection) (rest : List Selection) :
    heights (selection :: rest) = max (height selection) (heights rest) := by
  rw [heights]

theorem heights_le_iff {selections : List Selection} {n : Nat} :
    heights selections ≤ n ↔ ∀ selection ∈ selections, height selection ≤ n := by
  induction selections with
  | nil => simp [heights]
  | cons selection rest ih => rw [heights_cons, Nat.max_le, ih, List.forall_mem_cons]

theorem height_le_of_mem {selection : Selection} {selections : List Selection}
    (h : selection ∈ selections) : height selection ≤ heights selections :=
  heights_le_iff.1 (Nat.le_refl _) selection h

theorem heights_lt_of_field {call : FieldCall} {inner selections : List Selection}
    (h : .field call inner ∈ selections) : heights inner < heights selections := by
  have := height_le_of_mem h
  rw [height] at this
  omega

theorem heights_lt_of_inline {condition? : Option String} {directives : List Directive}
    {inner selections : List Selection} (h : .inline condition? directives inner ∈ selections) :
    heights inner < heights selections := by
  have := height_le_of_mem h
  rw [height] at this
  omega

theorem heights_le_flatten {selections : List Selection} {lists : List (List Selection)}
    (h : selections ∈ lists) : heights selections ≤ heights lists.flatten :=
  heights_le_iff.2 fun _ hs => height_le_of_mem (List.mem_flatten.2 ⟨selections, h, hs⟩)

theorem heights_flatMap_lt {α : Type} {items : List α} {part : α → List Selection} {n : Nat}
    (pos : 0 < n) (h : ∀ item ∈ items, heights (part item) < n) :
    heights (items.flatMap part) < n := by
  obtain ⟨m, rfl⟩ : ∃ m, n = m + 1 := ⟨n - 1, by omega⟩
  rw [Nat.lt_succ_iff, heights_le_iff]
  intro selection hs
  obtain ⟨item, hi, hs⟩ := List.mem_flatMap.1 hs
  have := h item hi
  have := height_le_of_mem hs
  omega

/-- Induction on lists of selections: the hypothesis is had for the lists inside them. -/
theorem nested_induction {P : List Selection → Prop}
    (step : ∀ selections,
      (∀ call inner, .field call inner ∈ selections → P inner) →
      (∀ condition? directives inner, .inline condition? directives inner ∈ selections → P inner) →
      P selections) (selections : List Selection) : P selections := by
  -- on the nesting depth, since the lists inside are no tails of the list itself
  induction h : heights selections using Nat.strongRecOn generalizing selections with
  | ind n ih =>
    subst h
    exact step selections
      (fun _ inner hm => ih _ (heights_lt_of_field hm) inner rfl)
      (fun _ _ inner hm => ih _ (heights_lt_of_inline hm) inner rfl)

/-! ## Consistent selections -/

/-- The sub-selections of all fields under a response key, put together. -/
def subSelections (selections : List Selection) (key : String) : List Selection :=
  selections.flatMap fun
    | .field call inner => if call.responseName = key then inner else []
    | .spread _ _ => []
    | .inline _ _ _ => []

/-- Selections of one response key select the same field: in a list, in the sub-selections that are
put together under each of its keys, and in its inline fragments. -/
inductive Consistent : List Selection → Prop
  | intro {selections : List Selection}
      (same : ∀ {first second : FieldCall} {inner others : List Selection},
        .field first inner ∈ selections → .field second others ∈ selections →
          first.responseName = second.responseName → first.name = second.name)
      (fields : ∀ {call : FieldCall} {inner : List Selection}, .field call inner ∈ selections →
        Consistent (subSelections selections call.responseName))
      (inlines : ∀ {condition? : Option String} {directives : List Directive}
        {inner : List Selection}, .inline condition? directives inner ∈ selections →
          Consistent inner) : Consistent selections

namespace Consistent

variable {selections : List Selection}

theorem same (h : Consistent selections) {first second : FieldCall}
    {inner others : List Selection} (hf : .field first inner ∈ selections)
    (hs : .field second others ∈ selections) (hk : first.responseName = second.responseName) :
    first.name = second.name := by
  cases h with
  | intro same fields inlines => exact same hf hs hk

theorem subSelections (h : Consistent selections) {call : FieldCall} {inner : List Selection}
    (hm : .field call inner ∈ selections) :
    Consistent (subSelections selections call.responseName) := by
  cases h with
  | intro same fields inlines => exact fields hm

theorem inline (h : Consistent selections) {condition? : Option String}
    {directives : List Directive} {inner : List Selection}
    (hm : .inline condition? directives inner ∈ selections) : Consistent inner := by
  cases h with
  | intro same fields inlines => exact inlines hm

end Consistent

/-- The sub-selections that are put together under a key nest less deeply than the list. -/
theorem heights_subSelections_lt {selections inner : List Selection} {call : FieldCall}
    (hm : .field call inner ∈ selections) (key : String) :
    heights (subSelections selections key) < heights selections := by
  refine heights_flatMap_lt (Nat.zero_lt_of_lt (heights_lt_of_field hm)) fun selection hs => ?_
  have pos := Nat.zero_lt_of_lt (heights_lt_of_field hm)
  cases selection with
  | field other others =>
    dsimp only
    split
    · exact heights_lt_of_field hs
    · exact pos
  | spread name directives => exact pos
  | inline condition? directives others => exact pos

/-- Whether selections that nest less deeply than the bound are consistent. -/
def isConsistentWithin : Nat → List Selection → Bool
  | 0, _ => false
  | bound + 1, selections =>
    selections.all fun
      | .field call _ =>
        (selections.all fun
          | .field other _ => call.responseName != other.responseName || call.name == other.name
          | .spread _ _ => true
          | .inline _ _ _ => true) &&
        isConsistentWithin bound (subSelections selections call.responseName)
      | .spread _ _ => true
      | .inline _ _ inner => isConsistentWithin bound inner

theorem isConsistentWithin_iff {bound : Nat} {selections : List Selection}
    (h : heights selections < bound) :
    isConsistentWithin bound selections = true ↔ Consistent selections := by
  induction bound generalizing selections with
  | zero => omega
  | succ bound ih =>
    unfold isConsistentWithin
    rw [List.all_eq_true]
    constructor
    · intro all
      refine .intro (fun {first second inner others} hf hs hk => ?_) (fun {call inner} hm => ?_)
        fun {condition? directives inner} hm => ?_
      · have same := (Bool.and_eq_true_iff.1 (all _ hf)).1
        simpa [hk] using List.all_eq_true.1 same _ hs
      · have lower := heights_subSelections_lt hm call.responseName
        exact (ih (by omega)).1 (Bool.and_eq_true_iff.1 (all _ hm)).2
      · have lower := heights_lt_of_inline hm
        exact (ih (by omega)).1 (all _ hm)
    · intro consistent selection hm
      cases selection with
      | field call inner =>
        have lower := heights_subSelections_lt hm call.responseName
        refine Bool.and_eq_true_iff.2 ⟨?_, (ih (by omega)).2 (consistent.subSelections hm)⟩
        refine List.all_eq_true.2 fun other ho => ?_
        cases other with
        | field other others =>
          by_cases hk : call.responseName = other.responseName
          · simp [consistent.same hm ho hk]
          · simp [hk]
        | spread name directives => rfl
        | inline condition? directives others => rfl
      | spread name directives => rfl
      | inline condition? directives inner =>
        have lower := heights_lt_of_inline hm
        exact (ih (by omega)).2 (consistent.inline hm)

instance : DecidablePred Consistent := fun selections =>
  decidable_of_iff (isConsistentWithin (heights selections + 1) selections = true)
    (isConsistentWithin_iff (Nat.lt_succ_self _))

end Selection

end SchemaBindings
