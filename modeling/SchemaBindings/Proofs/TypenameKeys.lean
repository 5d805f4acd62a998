import SchemaBindings.Proofs.TypenameLines

/-!
# Response names of typenames

`__typename` can be selected under any response name. Such selections on an object give its struct
the tag of `__typename`, whatever these names are; the response name itself is the tag of a line
only if it is `__typename`, or if a field is selected under it too (`TagsTypenames`).
`structs_tag_typenames_iff` is that for the rendered struct and every struct in it, and
`aliased_typename_has_no_line` shows that the response name of a selected typename can be missing.
-/

namespace SchemaBindings

open StructLine (tags)

namespace SelectionContext

variable {context : SelectionContext} {parent : String}

/-- `__typename` is selected with the response name, in one of the lists that a struct is for or in
an inline fragment that is flattened into it. -/
def SelectsTypenameAs (context : SelectionContext) (parent : String)
    (lists : List (List Selection)) (key : String) : Prop :=
  ∃ onType list call inner, context.FlattenedInto parent lists onType list ∧
    .field call inner ∈ list ∧ call.name = Schema.typenameField ∧ call.responseName = key

theorem SelectsTypenameAs.exists_asksTypename {lists : List (List Selection)} {key : String}
    (selects : context.SelectsTypenameAs parent lists key) :
    ∃ list ∈ lists, context.AsksTypename parent list := by
  obtain ⟨onType, inner, call, body, flattened, mem, typename, -⟩ := selects
  obtain ⟨list, hl, flattened⟩ := FlattenedInto.iff_exists.1 flattened
  exact ⟨list, hl, onType, inner, call, body, flattened, mem, typename⟩

theorem possibleTypes_of_object (object : context.schema.kind? parent = some .object) :
    context.possibleTypes parent = [parent] := by
  rw [possibleTypes_eq, object]
  rfl

theorem IsStruct.mem_tags_iff (h : context.AllUnquoted) {lists : List (List Selection)}
    {lines : List StructLine} (names : ∀ list ∈ lists, NamesUnquoted parent list)
    (struct : context.IsStruct parent lists lines) (tag : String) :
    tag ∈ tags lines ↔ ∃ list ∈ lists, context.GivesTag parent list tag :=
  struct.mem_filterMap_iff h names StructLine.tag?_toldByText fun list hl _ renders =>
    renders.mem_tags_iff h (names list hl) tag

/-- What the struct of an object has for the response name of a selected typename: the tag of
`__typename`, and that name as a tag only if it is the same or the key of a field. -/
def TagsTypenames (context : SelectionContext) (parent : String) (lists : List (List Selection))
    (lines : List StructLine) : Prop :=
  context.schema.kind? parent = some .object →
    ∀ key, context.SelectsTypenameAs parent lists key →
      Schema.typenameField ∈ tags lines ∧
      (key ∈ tags lines ↔ key = Schema.typenameField ∨ context.SelectsKey parent lists key)

theorem IsStruct.tagsTypenames (h : context.AllUnquoted) {lists : List (List Selection)}
    {lines : List StructLine} (names : ∀ list ∈ lists, NamesUnquoted parent list)
    (struct : context.IsStruct parent lists lines) :
    context.TagsTypenames parent lists lines := by
  intro object key selects
  obtain ⟨asking, mem, asks⟩ := selects.exists_asksTypename
  have typename : context.HasTypename parent asking :=
    ⟨.inl asks, by rw [possibleTypes_of_object object]; exact List.cons_ne_nil _ _⟩
  have line : Schema.typenameField ∈ tags lines :=
    (struct.mem_tags_iff h names _).2 ⟨asking, mem, .inr ⟨rfl, typename⟩⟩
  refine ⟨line, ?_⟩
  rw [struct.mem_tags_iff h names, selectsKey_iff_exists]
  constructor
  · rintro ⟨list, hl, field | ⟨same, -⟩⟩
    · exact .inr ⟨list, hl, field⟩
    · exact .inl same
  · rintro (rfl | ⟨list, hl, field⟩)
    · exact ⟨asking, mem, .inr ⟨rfl, typename⟩⟩
    · exact ⟨list, hl, .inl field⟩

/-- In every struct of an object, a selected typename gives the tag `__typename`; the response name
is a tag only if it is that, or if a field is selected under it. -/
theorem structs_tag_typenames_iff (h : context.AllUnquoted) {selections : List Selection}
    (names : NamesUnquoted parent selections) (nonempty : selections ≠ []) {text : String}
    (ok : (context.structText parent selections).outcome = .ok text) :
    ∃ lines, (context.structLines parent selections).outcome = .ok lines ∧
      text = StructLine.structText lines ∧
      context.EveryStruct context.TagsTypenames parent [selections] lines := by
  obtain ⟨lines, made, rfl⟩ := structText_eq_ok nonempty ok
  refine ⟨lines, made, rfl, (namesUnquoted_passedOn h.schema).everyStruct ?_ names made⟩
  exact fun passed struct => struct.tagsTypenames h passed

/-- The selections `... { __typename kind: __typename } mother { kind: __typename kind: id }`. -/
def kindSelections : List Selection := [
  .inline none [] [.field { name := "__typename" } [],
    .field { alias? := some "kind", name := "__typename" } []],
  .field { name := "mother" } [.field { alias? := some "kind", name := "__typename" } [],
    .field { alias? := some "kind", name := "id" } []]]

theorem cat_struct_tags_typenames :
    petContext.AllUnquoted ∧ NamesUnquoted "Cat" kindSelections ∧ kindSelections ≠ [] ∧
      ∃ text, (petContext.structText "Cat" kindSelections).outcome = .ok text ∧
        ∃ lines, (petContext.structLines "Cat" kindSelections).outcome = .ok lines ∧
          text = StructLine.structText lines ∧
          petContext.EveryStruct petContext.TagsTypenames "Cat" [kindSelections] lines := by
  have context : petContext.AllUnquoted := ⟨by decide, by decide⟩
  have names : NamesUnquoted "Cat" kindSelections := ⟨by decide, by decide⟩
  have nonempty : kindSelections ≠ [] := List.cons_ne_nil _ _
  obtain ⟨text, ok⟩ := Generation.exists_eq_ok
    (x := petContext.structText "Cat" kindSelections) (by decide +kernel)
  exact ⟨context, names, nonempty, text, ok, structs_tag_typenames_iff context names nonempty ok⟩

/-- The selections `kind: __typename id`. -/
def kindAndId : List Selection := [
  .field { alias? := some "kind", name := "__typename" } [], .field { name := "id" } []]

/-- An object's typename that is selected as `kind` has no line of this tag. -/
theorem aliased_typename_has_no_line :
    petContext.schema.kind? "Cat" = some .object ∧
    petContext.SelectsTypenameAs "Cat" [kindAndId] "kind" ∧
    ((petContext.structLines "Cat" kindAndId).outcome.map tags).toOption =
      some ["__typename", "id"] := by
  refine ⟨by decide +kernel, ?_, by decide +kernel⟩
  exact ⟨"Cat", kindAndId, _, _, .start (List.mem_singleton_self _), List.mem_cons_self, rfl, rfl⟩

end SelectionContext

end SchemaBindings
