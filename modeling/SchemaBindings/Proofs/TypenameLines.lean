import SchemaBindings.Proofs.Identifiers
import SchemaBindings.Proofs.RepeatedTags

/-!
# The line for `__typename`

Which structs have a line for `__typename`, where it stands and what it says. `HasTypenameLine` is
that for the struct of one list of selections, told from the schema, the options and the list.
Whether the list asks for the typename is told by `AsksTypename`: the field is selected in the list
or in an inline fragment that is flattened into it, and never counts from inside of a branch.
`structs_have_typename_lines` is the result for the whole struct and for that of each link in it, at
any depth.

A field selected under the alias `__typename` has a line with the same tag. This is a line of a
field, which is made where the field is selected (`aliased_field_has_typename_tag`).
-/

namespace SchemaBindings

open StructLine (tags)

namespace StructLine

/-- Whether the line is that for `__typename`. -/
def isTypename : StructLine → Bool
  | typename _ _ => true
  | leaf _ _ | aliased _ _ _ | link _ _ _ _ | embedded _ | branch _ _ _ => false

theorem isTypename_eq_false {line : StructLine} (field : line.tag? = line.fieldKey?) :
    line.isTypename = false := by
  cases line with
  | typename pointer types => cases field
  | leaf | aliased | link | embedded | branch => rfl

end StructLine

/-! ## Types that declare an interface -/

/-- Whether the type is an object that declares the interface. -/
def TypeDefinition.declares (definition : TypeDefinition) (interface : String) : Bool :=
  match definition.body with
  | .object interfaces _ => interfaces.contains interface
  | .enum _ | .inputObject _ | .interface _ _ | .scalar | .union _ => false

namespace Schema

variable {schema : Schema}

/-- The names of the objects that declare the interface, in the order of the schema. -/
def declaring (schema : Schema) (interface : String) : List String :=
  (schema.types.filter (·.declares interface)).map (·.name)

theorem implementingTypes_eq_declaring (interface : String) :
    schema.implementingTypes interface = schema.declaring interface := by
  unfold implementingTypes declaring types
  rw [← List.filterMap_eq_map, List.filterMap_filter, List.filterMap_filterMap]
  refine List.filterMap_congr fun definition _ => ?_
  cases definition with
  | type definition =>
    obtain ⟨name, description?, directives, body⟩ := definition
    cases body <;> rfl
  | roots roots => rfl
  | directive directive => rfl

theorem declaring_ne_nil_iff {interface : String} : schema.declaring interface ≠ [] ↔
    ∃ definition ∈ schema.types, definition.declares interface = true := by
  simp [declaring]

end Schema

namespace SelectionContext

variable {context : SelectionContext} {parent : String}

/-- The types that an object selected as `parent` may have, told by the kind of that type. -/
theorem possibleTypes_eq (context : SelectionContext) (parent : String) :
    context.possibleTypes parent =
      if context.schema.kind? parent = some .union then []
      else if context.schema.kind? parent = some .interface then context.schema.declaring parent
      else [parent] := by
  unfold possibleTypes
  rw [Schema.implementingTypes_eq_declaring]
  cases context.schema.kind? parent with
  | none => rfl
  | some kind => cases kind <;> rfl

theorem possibleTypes_ne_nil_iff : context.possibleTypes parent ≠ [] ↔
    context.schema.kind? parent ≠ some .union ∧
      (context.schema.kind? parent = some .interface →
        ∃ definition ∈ context.schema.types, definition.declares parent = true) := by
  rw [possibleTypes_eq, ← Schema.declaring_ne_nil_iff]
  split
  · simp_all
  · split
    · simp_all
    · simp_all

/-! ## One struct -/

/-- What the struct for selections on a type has of a line for `__typename`. -/
structure HasTypenameLine (context : SelectionContext) (parent : String)
    (selections : List Selection) (lines : List StructLine) : Prop where
  /-- There is at most one. -/
  once : lines.countP (·.isTypename) ≤ 1
  /-- There is one if the typename is asked for, by the selections or by the options, and the type
  is no union and no interface without objects. -/
  present : (∃ line ∈ lines, line.isTypename = true) ↔
    (context.AsksTypename parent selections ∨ context.options.addTypename = true ∨
        context.options.nonOptionalTypename = true) ∧
      context.schema.kind? parent ≠ some .union ∧
      (context.schema.kind? parent = some .interface →
        ∃ definition ∈ context.schema.types, definition.declares parent = true)
  /-- It is the first line. -/
  first : ∀ line ∈ lines, line.isTypename = true → lines.head? = some line
  /-- It lists the objects that declare the interface, or the type itself. -/
  types : ∀ pointer types, .typename pointer types ∈ lines →
    types = if context.schema.kind? parent = some .interface then context.schema.declaring parent
      else [parent]
  /-- It has no pointer if the selections ask for the typename or the options say so. -/
  pointer : ∀ pointer types, .typename pointer types ∈ lines → (pointer = false ↔
    context.AsksTypename parent selections ∨ context.options.nonOptionalTypename = true)
  /-- Another line that has its tag is that of a field which is selected under that name. -/
  others : ∀ line ∈ lines, line.tag? = some Schema.typenameField → line.isTypename = false →
    line.fieldKey? = some Schema.typenameField ∧
      context.SelectsKey parent [selections] Schema.typenameField

theorem Renders.exists_rest {selections : List Selection} {lines : List StructLine}
    (renders : context.Renders parent true selections lines) :
    ∃ queried rest, (queried = true ↔ context.AsksTypename parent selections) ∧
      lines = (context.typenameLine? parent queried).toList ++ rest ∧
      ∀ line ∈ rest, line.tag? = line.fieldKey? := by
  obtain ⟨queried, ok⟩ := renders
  obtain ⟨collected, links, rendered, rfl⟩ := exists_rendered ok
  obtain ⟨rest, same, tagged⟩ := rendered.exists_rest
  exact ⟨_, rest, queried_iff_asksTypename ok, same, tagged⟩

theorem typenameLine?_eq_some_iff {queried : Bool} {line : StructLine} :
    context.typenameLine? parent queried = some line ↔
      (queried = true ∨ context.options.addTypename = true ∨
        context.options.nonOptionalTypename = true) ∧ context.possibleTypes parent ≠ [] ∧
      line = .typename (!(queried || context.options.nonOptionalTypename))
        (context.possibleTypes parent) := by
  simp only [typenameLine?, Option.ite_none_right_eq_some, Option.some.injEq, Bool.and_eq_true,
    Bool.or_eq_true, Bool.not_eq_true', List.isEmpty_eq_false_iff, and_assoc,
    eq_comm (b := line), or_assoc, or_comm (a := context.options.addTypename = true)]

theorem FieldLine.exists_field {fields : List DefinedField} {line : StructLine}
    (made : context.FieldLine fields line) : ∃ field ∈ fields, line.fieldKey? = some field.key := by
  cases made with
  | @leaf field mem plain => exact ⟨field, mem, rfl⟩
  | @aliased field mem aliased => exact ⟨field, mem, rfl⟩
  | @link key link under lines =>
    obtain ⟨⟨first, hf, -⟩, -⟩ := DefinedField.link?_eq_some under
    obtain ⟨mem, -, same⟩ := DefinedField.mem_linksUnder.1 hf
    exact ⟨first, mem, congrArg some same.symm⟩

theorem Renders.selectsKey_of_fieldKey? {withTypename : Bool} {selections : List Selection}
    {lines : List StructLine} (renders : context.Renders parent withTypename selections lines)
    {line : StructLine} (mem : line ∈ lines) {key : String} (tagged : line.fieldKey? = some key) :
    context.SelectsKey parent [selections] key := by
  obtain ⟨onType, list, flattened, made⟩ :=
    renders.exists_fieldLine mem (Option.isSome_of_eq_some tagged)
  obtain ⟨field, defined, own⟩ := made.exists_field
  rw [own, Option.some.injEq] at tagged
  exact selectsKey_iff_definedFields.2 ⟨onType, list, flattened, field, defined, tagged⟩

theorem Renders.hasTypenameLine {selections : List Selection} {lines : List StructLine}
    (renders : context.Renders parent true selections lines) :
    context.HasTypenameLine parent selections lines := by
  obtain ⟨queried, rest, asked, rfl, tagged⟩ := renders.exists_rest
  have field : ∀ line ∈ rest, line.isTypename = false :=
    fun line mem => StructLine.isTypename_eq_false (tagged line mem)
  have made : ∀ line ∈ (context.typenameLine? parent queried).toList ++ rest,
      line.isTypename = true → context.typenameLine? parent queried = some line := by
    intro line mem typename
    rcases List.mem_append.1 mem with mem | mem
    · exact Option.mem_toList.1 mem
    · rw [field line mem] at typename
      cases typename
  have content : ∀ pointer types,
      .typename pointer types ∈ (context.typenameLine? parent queried).toList ++ rest →
        pointer = !(queried || context.options.nonOptionalTypename) ∧
          context.possibleTypes parent ≠ [] ∧ types = context.possibleTypes parent := by
    intro pointer types mem
    obtain ⟨-, inhabited, same⟩ := typenameLine?_eq_some_iff.1 (made _ mem rfl)
    cases same
    exact ⟨rfl, inhabited, rfl⟩
  refine ⟨?once, ?present, ?first, ?types, ?pointer, ?others⟩
  case once =>
    have none : rest.countP (·.isTypename) = 0 := by simpa using field
    have one := List.countP_le_length
      (p := StructLine.isTypename) (l := (context.typenameLine? parent queried).toList)
    rw [List.countP_append, none]
    exact Nat.le_trans one (Option.length_toList_le)
  case present =>
    rw [← asked, ← possibleTypes_ne_nil_iff]
    constructor
    · rintro ⟨line, mem, typename⟩
      obtain ⟨wanted, inhabited, -⟩ := typenameLine?_eq_some_iff.1 (made line mem typename)
      exact ⟨wanted, inhabited⟩
    · rintro ⟨wanted, inhabited⟩
      have line := typenameLine?_eq_some_iff.2 ⟨wanted, inhabited, rfl⟩
      exact ⟨_, List.mem_append_left _ (Option.mem_toList.2 line), rfl⟩
  case first =>
    intro line mem typename
    rw [made line mem typename]
    rfl
  case types =>
    intro pointer types mem
    obtain ⟨-, inhabited, rfl⟩ := content pointer types mem
    rw [possibleTypes_eq, if_neg (possibleTypes_ne_nil_iff.1 inhabited).1]
  case pointer =>
    intro pointer types mem
    obtain ⟨rfl, -⟩ := content pointer types mem
    rw [← asked, Bool.not_eq_false', Bool.or_eq_true]
  case others =>
    intro line mem tag other
    rcases List.mem_append.1 mem with own | own
    · obtain ⟨-, -, rfl⟩ := typenameLine?_eq_some_iff.1 (Option.mem_toList.1 own)
      cases other
    · rw [tagged line own] at tag
      exact ⟨tag, renders.selectsKey_of_fieldKey? mem tag⟩

/-! ## Every struct -/

/-- What is said of the struct for one list of selections holds of the struct of each link among the
lines, taken for the type of the field and all sub-selections that a list gives for the key. -/
def LinksHave (context : SelectionContext)
    (Holds : String → List Selection → List StructLine → Prop) (parent : String)
    (lists : List (List Selection)) (lines : List StructLine) : Prop :=
  ∀ key depth pointer inner, .link key depth pointer inner ∈ lines →
    ∃ onType list link, context.FlattenedInto parent lists onType list ∧
      DefinedField.link? (context.definedFields onType list) key = some link ∧
      Holds link.type.baseName link.selections inner

theorem IsStruct.linksHave {Holds : String → List Selection → List StructLine → Prop}
    (holds : ∀ {parent selections lines}, context.Renders parent true selections lines →
      Holds parent selections lines)
    {lists : List (List Selection)} {lines : List StructLine}
    (struct : context.IsStruct parent lists lines) :
    context.LinksHave Holds parent lists lines := by
  intro key depth pointer inner mem
  have made := struct.exists_flattened (P := fun onType list => ∃ link,
    DefinedField.link? (context.definedFields onType list) key = some link ∧
      Holds link.type.baseName link.selections inner) ?_ mem
  · rcases made with ⟨type, embedded⟩ | ⟨onType, list, flattened, link, under, holds⟩
    · cases embedded
    · exact ⟨onType, list, link, flattened, under, holds⟩
  · intro parent withTypename selections lines renders mem
    cases lineSource renders mem with
    | link under renders => exact .inl ⟨_, under, holds renders⟩
    | flattened flattens hm renders mem => exact .inr ⟨_, _, _, _, flattens, hm, renders, mem⟩

/-- Every struct has the line for `__typename` that its selections and the options ask for. -/
theorem structs_have_typename_lines (context : SelectionContext) (parent : String)
    {selections : List Selection} (nonempty : selections ≠ []) {text : String}
    (ok : (context.structText parent selections).outcome = .ok text) :
    ∃ lines, (context.structLines parent selections).outcome = .ok lines ∧
      text = StructLine.structText lines ∧
      context.HasTypenameLine parent selections lines ∧
      context.EveryStruct (context.LinksHave context.HasTypenameLine) parent [selections]
        lines := by
  obtain ⟨lines, made, rfl⟩ := structText_eq_ok nonempty ok
  have renders : context.Renders parent true selections lines := structLines_eq_ok.1 made
  refine ⟨lines, made, rfl, renders.hasTypenameLine, everyStruct_of_isStruct ?_ made⟩
  exact fun struct => struct.linksHave Renders.hasTypenameLine

/-- The selections `pet { ... { __typename } ... on Cat { mother { id } } } cat { id }`. -/
def petTypenameSelections : List Selection := [
  .field { name := "pet" } [
    .inline none [] [.field { name := "__typename" } []],
    .inline (some "Cat") [] [.field { name := "mother" } [.field { name := "id" } []]]],
  .field { name := "cat" } [.field { name := "id" } []]]

theorem pet_structs_have_typename_lines :
    petTypenameSelections ≠ [] ∧
      ∃ text, (petContext.structText "Query" petTypenameSelections).outcome = .ok text ∧
        ∃ lines, (petContext.structLines "Query" petTypenameSelections).outcome = .ok lines ∧
          text = StructLine.structText lines ∧
          petContext.HasTypenameLine "Query" petTypenameSelections lines ∧
          petContext.EveryStruct (petContext.LinksHave petContext.HasTypenameLine) "Query"
            [petTypenameSelections] lines := by
  have nonempty : petTypenameSelections ≠ [] := List.cons_ne_nil _ _
  obtain ⟨text, ok⟩ := Generation.exists_eq_ok
    (x := petContext.structText "Query" petTypenameSelections) (by decide +kernel)
  exact ⟨nonempty, text, ok, structs_have_typename_lines petContext "Query" nonempty ok⟩

/-- The selections `__typename: id`. -/
def idAsTypename : List Selection := [.field { alias? := some "__typename", name := "id" } []]

/-- A field that is selected as `__typename` has the tag of the typename, also beside the line for
it. -/
theorem aliased_field_has_typename_tag :
    (¬petContext.AsksTypename "Cat" idAsTypename ∧ petContext.options = {} ∧
      ((petContext.structLines "Cat" idAsTypename).outcome.map tags).toOption =
        some ["__typename"]) ∧
    (({ petContext with options := { addTypename := true } }.structLines "Cat"
        idAsTypename).outcome.map tags).toOption = some ["__typename", "__typename"] := by
  obtain ⟨lines, made⟩ : ∃ lines,
      (petContext.rendering "Cat" true idAsTypename).outcome = .ok (false, lines) := ⟨_, rfl⟩
  have silent : ¬petContext.AsksTypename "Cat" idAsTypename := by
    rw [← queried_iff_asksTypename made]
    exact Bool.false_ne_true
  exact ⟨⟨silent, rfl, by decide +kernel⟩, by decide +kernel⟩

end SelectionContext

end SchemaBindings
