import SchemaBindings.Proofs.OperationFailures
import SchemaBindings.Proofs.RepeatedTags

/-!
# Reordered selections

Selections in another order (`Selection.Reordered`), and what the order is without effect on: which
selections there are, up to the order inside of them (`Reordered.exists_alike`), that they are
consistent, the type of a link and whether it is conditional (`exists_link_of_reordered`), whether
`__typename` is asked for, and whether the selections can be rendered (`Renders.reordered`).
-/

namespace SchemaBindings

namespace Selection

/-- The same selections in another order: those of one list are permuted, of the list itself or of
one inside of it, any number of times. -/
inductive Reordered : List Selection → List Selection → Prop
  | perm {selections others : List Selection} (permuted : selections.Perm others) :
      Reordered selections others
  | field {call : FieldCall} {before after inner others : List Selection}
      (within : Reordered inner others) :
      Reordered (before ++ .field call inner :: after) (before ++ .field call others :: after)
  | inline {condition? : Option String} {directives : List Directive}
      {before after inner others : List Selection} (within : Reordered inner others) :
      Reordered (before ++ .inline condition? directives inner :: after)
        (before ++ .inline condition? directives others :: after)
  | trans {first second third : List Selection} (left : Reordered first second)
      (right : Reordered second third) : Reordered first third

/-- Two selections are the same up to the order inside of them. -/
inductive Alike : Selection → Selection → Prop
  | field (call : FieldCall) {inner others : List Selection} (within : Reordered inner others) :
      Alike (.field call inner) (.field call others)
  | spread (fragment : String) (directives : List Directive) :
      Alike (.spread fragment directives) (.spread fragment directives)
  | inline (condition? : Option String) (directives : List Directive)
      {inner others : List Selection} (within : Reordered inner others) :
      Alike (.inline condition? directives inner) (.inline condition? directives others)

namespace Alike

theorem refl (selection : Selection) : Alike selection selection := by
  cases selection with
  | field call inner => exact .field call (.perm (.refl inner))
  | spread fragment directives => exact .spread fragment directives
  | inline condition? directives inner => exact .inline condition? directives (.perm (.refl inner))

theorem trans {first second third : Selection} (left : Alike first second)
    (right : Alike second third) : Alike first third := by
  cases left with
  | field call within =>
    cases right with
    | field call further => exact .field call (within.trans further)
  | spread fragment directives => exact right
  | inline condition? directives within =>
    cases right with
    | inline condition? directives further =>
      exact .inline condition? directives (within.trans further)

theorem exists_of_exchanged {before after : List Selection} {first second selection : Selection}
    (alike : Alike first second) (mem : selection ∈ before ++ first :: after) :
    ∃ other ∈ before ++ second :: after, Alike selection other := by
  rcases List.mem_append.1 mem with mem | mem
  · exact ⟨selection, List.mem_append_left _ mem, refl selection⟩
  · rcases List.mem_cons.1 mem with rfl | mem
    · exact ⟨second, by simp, alike⟩
    · exact ⟨selection, by simp [mem], refl selection⟩

end Alike

namespace Reordered

variable {selections others inner : List Selection} {call : FieldCall}

theorem symm (h : Reordered selections others) : Reordered others selections := by
  induction h with
  | perm permuted => exact .perm permuted.symm
  | field within ih => exact .field ih
  | inline within ih => exact .inline ih
  | trans left right first second => exact second.trans first

theorem append (h : Reordered selections others) (before after : List Selection) :
    Reordered (before ++ selections ++ after) (before ++ others ++ after) := by
  induction h with
  | perm permuted => exact .perm ((permuted.append_left before).append_right after)
  | @field call front back inner others within ih =>
    have moved : Reordered ((before ++ front) ++ .field call inner :: (back ++ after))
        ((before ++ front) ++ .field call others :: (back ++ after)) := .field within
    simpa using moved
  | @inline condition? directives front back inner others within ih =>
    have moved : Reordered
        ((before ++ front) ++ .inline condition? directives inner :: (back ++ after))
        ((before ++ front) ++ .inline condition? directives others :: (back ++ after)) :=
      .inline within
    simpa using moved
  | trans left right first second => exact first.trans second

theorem exists_alike (h : Reordered selections others) {selection : Selection}
    (mem : selection ∈ selections) : ∃ other ∈ others, Alike selection other := by
  induction h generalizing selection with
  | perm permuted => exact ⟨selection, permuted.mem_iff.1 mem, .refl selection⟩
  | field within ih => exact Alike.exists_of_exchanged (.field _ within) mem
  | inline within ih => exact Alike.exists_of_exchanged (.inline _ _ within) mem
  | trans left right first second =>
    obtain ⟨other, mem, alike⟩ := first mem
    obtain ⟨last, mem, further⟩ := second mem
    exact ⟨last, mem, alike.trans further⟩

theorem exists_field (h : Reordered selections others) (mem : .field call inner ∈ selections) :
    ∃ body, .field call body ∈ others ∧ Reordered inner body := by
  obtain ⟨other, mem, alike⟩ := h.exists_alike mem
  cases alike with
  | field call within => exact ⟨_, mem, within⟩

theorem spread_mem (h : Reordered selections others) {fragment : String}
    {directives : List Directive} (mem : .spread fragment directives ∈ selections) :
    .spread fragment directives ∈ others := by
  obtain ⟨other, mem, alike⟩ := h.exists_alike mem
  cases alike with
  | spread fragment directives => exact mem

theorem exists_inline (h : Reordered selections others) {condition? : Option String}
    {directives : List Directive} (mem : .inline condition? directives inner ∈ selections) :
    ∃ body, .inline condition? directives body ∈ others ∧ Reordered inner body := by
  obtain ⟨other, mem, alike⟩ := h.exists_alike mem
  cases alike with
  | inline condition? directives within => exact ⟨_, mem, within⟩

theorem eq_nil (h : Reordered [] others) : others = [] := by
  refine List.eq_nil_iff_forall_not_mem.2 fun selection mem => ?_
  obtain ⟨other, mem, -⟩ := h.symm.exists_alike mem
  cases mem

theorem isEmpty_eq (h : Reordered selections others) : others.isEmpty = selections.isEmpty := by
  cases selections with
  | nil => rw [h.eq_nil]
  | cons first rest =>
    cases others with
    | nil => cases h.symm.eq_nil
    | cons other rest => rfl

theorem subSelections (h : Reordered selections others) (key : String) :
    Reordered (subSelections selections key) (subSelections others key) := by
  induction h with
  | perm permuted => exact .perm (permuted.flatMap_right _)
  | @field call before after inner others within ih =>
    unfold Selection.subSelections
    rw [List.flatMap_append, List.flatMap_append, List.flatMap_cons, List.flatMap_cons]
    dsimp only
    split
    · simpa using within.append _ _
    · exact .perm (.refl _)
  | inline within ih =>
    unfold Selection.subSelections
    simpa using .perm (.refl _)
  | trans left right first second => exact first.trans second

theorem consistent (h : Reordered selections others) (consistent : Consistent selections) :
    Consistent others := by
  induction consistent generalizing others with
  | @intro selections same fields inlines fields_ih inlines_ih =>
    refine .intro (fun hf hs key => ?_) (fun mem => ?_) fun mem => ?_
    · obtain ⟨_, hf, -⟩ := h.symm.exists_field hf
      obtain ⟨_, hs, -⟩ := h.symm.exists_field hs
      exact same hf hs key
    · obtain ⟨_, mem, -⟩ := h.symm.exists_field mem
      exact fields_ih mem (h.subSelections _)
    · obtain ⟨body, mem, within⟩ := h.symm.exists_inline mem
      exact inlines_ih mem within.symm

end Reordered

end Selection

namespace SelectionContext

open Selection (Reordered)

variable {context : SelectionContext} {parent : String} {selections others : List Selection}

/-! ## Fields -/

theorem exists_definedField (h : Reordered selections others) {field : DefinedField}
    (mem : field ∈ context.definedFields parent selections) :
    ∃ other ∈ context.definedFields parent others,
      other.call = field.call ∧ other.type = field.type ∧ other.isLink = field.isLink := by
  obtain ⟨mem, defined⟩ := mem_definedFields.1 mem
  obtain ⟨body, mem, within⟩ := h.exists_field mem
  refine ⟨⟨field.call, field.type, body⟩, mem_definedFields.2 ⟨mem, defined⟩, rfl, rfl, ?_⟩
  unfold DefinedField.isLink
  rw [within.isEmpty_eq]

theorem exists_mem_linksUnder (h : Reordered selections others) {key : String}
    {field : DefinedField}
    (mem : field ∈ DefinedField.linksUnder (context.definedFields parent selections) key) :
    ∃ other ∈ DefinedField.linksUnder (context.definedFields parent others) key,
      other.call = field.call ∧ other.type = field.type := by
  obtain ⟨defined, isLink, rfl⟩ := DefinedField.mem_linksUnder.1 mem
  obtain ⟨other, mem, call, type, same⟩ := exists_definedField h defined
  refine ⟨other, DefinedField.mem_linksUnder.2 ⟨mem, same.trans isLink, ?_⟩, call, type⟩
  unfold DefinedField.key
  rw [call]

theorem conditional_link?_of_reordered (h : Reordered selections others) {key : String}
    {link other : Link}
    (under : DefinedField.link? (context.definedFields parent selections) key = some link)
    (under' : DefinedField.link? (context.definedFields parent others) key = some other)
    (conditional : link.conditional = true) : other.conditional = true := by
  obtain ⟨field, mem, conditional⟩ := (DefinedField.conditional_link? under).1 conditional
  obtain ⟨again, mem, call, -⟩ := exists_mem_linksUnder h mem
  exact (DefinedField.conditional_link? under').2 ⟨again, mem, by rw [call, conditional]⟩

/-- The link of a key has in every order the same type, and is conditional or not. -/
theorem exists_link_of_reordered (h : Reordered selections others)
    (consistent : Selection.Consistent selections) {key : String} {link : Link}
    (under : DefinedField.link? (context.definedFields parent selections) key = some link) :
    ∃ other, DefinedField.link? (context.definedFields parent others) key = some other ∧
      other.type = link.type ∧ other.conditional = link.conditional ∧
      Reordered link.selections other.selections := by
  obtain ⟨⟨first, hf, type⟩, -⟩ := DefinedField.link?_eq_some under
  obtain ⟨again, mem, -, same⟩ := exists_mem_linksUnder h hf
  obtain ⟨defined, isLink, rfl⟩ := DefinedField.mem_linksUnder.1 mem
  obtain ⟨other, under', -, -⟩ := DefinedField.link?_of_mem defined isLink
  have consistent' := h.consistent consistent
  refine ⟨other, under', ?_, ?_, ?_⟩
  · rw [type, ← same, (consistent_link consistent' under').1 again mem]
  · rw [Bool.eq_iff_iff]
    exact ⟨conditional_link?_of_reordered h.symm under' under,
      conditional_link?_of_reordered h under under'⟩
  · rw [selections_link? consistent under, selections_link? consistent' under']
    exact h.subSelections _

/-! ## Typenames -/

theorem FlattenedInto.exists_reordered (h : Reordered selections others) {onType : String}
    {list : List Selection} (flattened : context.FlattenedInto parent [selections] onType list) :
    ∃ again, context.FlattenedInto parent [others] onType again ∧ Reordered list again := by
  induction flattened with
  | start mem =>
    obtain rfl := List.mem_singleton.1 mem
    exact ⟨others, .start (List.mem_singleton_self _), h⟩
  | inline outer mem flattens ih =>
    obtain ⟨again, flattened, within⟩ := ih
    obtain ⟨body, mem, within⟩ := within.exists_inline mem
    exact ⟨body, .inline flattened mem flattens, within⟩

theorem AsksTypename.reordered (h : Reordered selections others)
    (asks : context.AsksTypename parent selections) : context.AsksTypename parent others := by
  obtain ⟨onType, list, call, inner, flattened, mem, named⟩ := asks
  obtain ⟨again, flattened, within⟩ := flattened.exists_reordered h
  obtain ⟨body, mem, -⟩ := within.exists_field mem
  exact ⟨onType, again, call, body, flattened, mem, named⟩

/-! ## Failures -/

theorem meetsUndefined_of_reordered {schema : Schema} {type : String}
    (meets : schema.MeetsUndefined type parent selections) (h : Reordered selections others) :
    schema.MeetsUndefined type parent others := by
  induction meets generalizing others with
  | condition mem undefined =>
    obtain ⟨body, mem, -⟩ := h.exists_inline mem
    exact .condition mem undefined
  | inline mem meets ih =>
    obtain ⟨body, mem, within⟩ := h.exists_inline mem
    exact .inline mem (ih within)
  | field mem notTypename known meets ih =>
    obtain ⟨body, mem, within⟩ := h.exists_field mem
    exact .field mem notTypename known (ih within)

/-- Consistent selections that can be rendered can be rendered in every order. -/
theorem Renders.reordered {withTypename : Bool} {lines : List StructLine}
    (renders : context.Renders parent withTypename selections lines)
    (consistent : Selection.Consistent selections) (h : Reordered selections others) :
    ∃ made, context.Renders parent withTypename others made := by
  cases outcome : (context.rendering parent withTypename others).outcome with
  | ok result => exact ⟨result.2, result.1, outcome⟩
  | error error =>
    obtain ⟨type, -, undefined⟩ := exists_undefined_of_rendering_eq_error outcome
    have meets := undefined.meets (h.consistent consistent)
    have again := meetsUndefined_of_reordered meets h.symm
    exact absurd (rendersUndefined_of_meets consistent again) renders.not_rendersUndefined

end SelectionContext

end SchemaBindings
