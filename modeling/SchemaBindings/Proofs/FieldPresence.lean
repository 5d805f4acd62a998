import SchemaBindings.Proofs.RepeatedTags

/-!
# Field presence

A field in a struct that is neither a slice nor behind a pointer has no value for absence. Its type
in the schema is never null and none of the fields that it is written for has a directive of its
own, so that it is present wherever the inline fragments around it are (`CertainIn`). A field that
is a slice or behind a pointer has a reason to be (`UncertainIn`). Both hold of every struct in a
rendered one (`structs_have_certain_fields`).

The directives of an inline fragment are not looked at, so a field in it can be left out all the
same: `unconditional_line_is_absent`.
-/

namespace SchemaBindings

/-! ## Conditions -/

namespace Directive

/-- The condition of a directive, which stands in its argument `if`. -/
def condition? (directive : Directive) : Option Value := directive.arguments.lookup "if"

/-- The directive leaves what it stands on in the response, where `holds` tells which conditions
hold. -/
def Includes (holds : Value → Bool) (directive : Directive) : Prop :=
  ∀ condition, directive.condition? = some condition →
    (directive.name = "skip" → holds condition = false) ∧
      (directive.name = "include" → holds condition = true)

/-- All directives leave what they stand on in the response. -/
def AllInclude (holds : Value → Bool) (directives : List Directive) : Prop :=
  ∀ directive ∈ directives, directive.Includes holds

end Directive

theorem FieldCall.allInclude_directives {call : FieldCall} (h : call.isConditional = false)
    (holds : Value → Bool) : Directive.AllInclude holds call.directives := by
  intro directive hm condition _
  unfold isConditional at h
  have neither := List.any_eq_false.1 h directive hm
  simp only [Bool.or_eq_true, beq_iff_eq, not_or] at neither
  exact ⟨fun hs => absurd hs neither.1, fun hi => absurd hi neither.2⟩

/-! ## Types without a value for absence -/

/-- The field in the line has no value for absence: its type is neither a slice nor a pointer. -/
def StructLine.IsByValue : StructLine → Prop
  | typename pointer _ => pointer = false
  | leaf _ type => type.IsByValue
  | aliased _ _ type => type.IsByValue
  | link _ depth pointer _ => depth = 0 ∧ pointer = false
  | embedded _ => True
  | branch _ _ _ => False

namespace DefinedField

/-- The field is a list, or may be null, or has a directive that may leave it out. -/
def IsUncertain (field : DefinedField) : Prop :=
  field.type.isList = true ∨ field.type.isNonNull = false ∨ field.call.isConditional = true

theorem not_isUncertain_iff (field : DefinedField) : ¬field.IsUncertain ↔
    field.type.isList = false ∧ field.type.isNonNull = true ∧
      field.call.isConditional = false := by
  unfold IsUncertain
  simp

end DefinedField

namespace SelectionContext

variable {context : SelectionContext} {parent : String}

theorem isByValue_leafType (optionals : context.options.avoidOptionals = false)
    (field : DefinedField) : (context.leafType field).IsByValue ↔ ¬field.IsUncertain := by
  unfold leafType
  rw [GoType.isByValue_ofSelection, optionals, field.not_isUncertain_iff]
  simp

theorem isByValue_linkType (optionals : context.options.avoidOptionals = false)
    {fields : List DefinedField} {key : String} {link : Link}
    (under : DefinedField.link? fields key = some link) : (context.linkType link).IsByValue ↔
      link.type.isList = false ∧ link.type.isNonNull = true ∧
        ∀ field ∈ DefinedField.linksUnder fields key, field.call.isConditional = false := by
  have unconditional : link.conditional = false ↔
      ∀ field ∈ DefinedField.linksUnder fields key, field.call.isConditional = false := by
    rw [← Bool.not_eq_true, DefinedField.conditional_link? under]
    simp
  unfold linkType
  rw [GoType.isByValue_ofSelection, optionals, unconditional]
  simp

theorem FieldLine.exists_certain (optionals : context.options.avoidOptionals = false)
    {fields : List DefinedField} {line : StructLine} (made : context.FieldLine fields line)
    (byValue : line.IsByValue) {key : String} (hk : line.fieldKey? = some key) :
    ∃ field ∈ fields, field.key = key ∧ field.type.isNonNull = true ∧
      field.call.isConditional = false := by
  have leaf : ∀ {field : DefinedField}, (context.leafType field).IsByValue →
      field.type.isNonNull = true ∧ field.call.isConditional = false :=
    fun h => (DefinedField.not_isUncertain_iff _).1 ((isByValue_leafType optionals _).1 h) |>.2
  cases made with
  | @leaf field mem kind => exact ⟨field, mem, Option.some.inj hk, leaf byValue⟩
  | @aliased field mem kind => exact ⟨field, mem, Option.some.inj hk, leaf byValue⟩
  | @link other link under lines =>
    obtain rfl : other = key := Option.some.inj hk
    obtain ⟨-, nonNull, unconditional⟩ := (isByValue_linkType optionals under).1 byValue
    obtain ⟨⟨first, hf, ht⟩, -⟩ := DefinedField.link?_eq_some under
    obtain ⟨mem, -, key⟩ := DefinedField.mem_linksUnder.1 hf
    exact ⟨first, mem, key, ht ▸ nonNull, unconditional first hf⟩

theorem FieldLine.exists_uncertain (optionals : context.options.avoidOptionals = false)
    {fields : List DefinedField} {line : StructLine} (made : context.FieldLine fields line)
    (absent : ¬line.IsByValue) {key : String} (hk : line.fieldKey? = some key) :
    ∃ field ∈ fields, field.key = key ∧ field.IsUncertain := by
  have leaf : ∀ {field : DefinedField}, ¬(context.leafType field).IsByValue →
      field.IsUncertain :=
    fun h => not_not.1 (mt (isByValue_leafType optionals _).2 h)
  cases made with
  | @leaf field mem kind => exact ⟨field, mem, Option.some.inj hk, leaf absent⟩
  | @aliased field mem kind => exact ⟨field, mem, Option.some.inj hk, leaf absent⟩
  | @link other link under lines =>
    obtain rfl : other = key := Option.some.inj hk
    obtain ⟨⟨first, hf, ht⟩, -⟩ := DefinedField.link?_eq_some under
    by_contra certain
    have all : ∀ field ∈ DefinedField.linksUnder fields other, ¬field.IsUncertain := by
      intro field hm uncertain
      obtain ⟨mem, -, key⟩ := DefinedField.mem_linksUnder.1 hm
      exact certain ⟨field, mem, key, uncertain⟩
    obtain ⟨single, nonNull, -⟩ := first.not_isUncertain_iff.1 (all first hf)
    refine absent ((isByValue_linkType optionals under).2 ⟨ht ▸ single, ht ▸ nonNull, ?_⟩)
    exact fun field hm => (field.not_isUncertain_iff.1 (all field hm)).2.2

/-! ## Presence -/

/-- The selections that are in the response where `parent` selects a list: the list itself and,
transitively, those of the inline fragments that are flattened and whose directives leave them in
it. -/
inductive IncludedInto (context : SelectionContext) (holds : Value → Bool) (parent : String)
    (selections : List Selection) : String → List Selection → Prop
  | self : IncludedInto context holds parent selections parent selections
  | inline {onType : String} {list inner : List Selection} {condition? : Option String}
      {directives : List Directive}
      (outer : IncludedInto context holds parent selections onType list)
      (mem : .inline condition? directives inner ∈ list)
      (flattens : context.Flattens onType condition?)
      (included : Directive.AllInclude holds directives) :
      IncludedInto context holds parent selections (condition?.getD onType) inner

/-- A key is in the response: a field that the schema defines is selected under it, and neither its
directives nor those of the inline fragments around it leave it out. -/
def Present (context : SelectionContext) (holds : Value → Bool) (parent : String)
    (selections : List Selection) (key : String) : Prop :=
  ∃ onType list, context.IncludedInto holds parent selections onType list ∧
    ∃ field ∈ context.definedFields onType list, field.key = key ∧
      Directive.AllInclude holds field.call.directives

/-- The schema says that the field of the key is never null, and the key is in the response whenever
the inline fragments around the field are. -/
def CertainIn (context : SelectionContext) (parent : String) (selections : List Selection)
    (key : String) : Prop :=
  ∃ onType list, context.FlattenedInto parent [selections] onType list ∧
    ∃ field ∈ context.definedFields onType list, field.key = key ∧
      field.type.isNonNull = true ∧
      ∀ holds, context.IncludedInto holds parent selections onType list →
        context.Present holds parent selections key

theorem FlattenedInto.includedInto {holds : Value → Bool} {selections : List Selection}
    (included : ∀ {onType list condition? directives inner},
      context.FlattenedInto parent [selections] onType list →
      .inline condition? directives inner ∈ list → context.Flattens onType condition? →
        Directive.AllInclude holds directives)
    {onType : String} {list : List Selection}
    (h : context.FlattenedInto parent [selections] onType list) :
    context.IncludedInto holds parent selections onType list := by
  induction h with
  | start mem =>
    obtain rfl := List.mem_singleton.1 mem
    exact .self
  | inline outer mem flattens ih =>
    exact .inline ih mem flattens (included outer mem flattens)

theorem CertainIn.present {selections : List Selection} {key : String}
    (h : context.CertainIn parent selections key) {holds : Value → Bool}
    (included : ∀ {onType list condition? directives inner},
      context.FlattenedInto parent [selections] onType list →
      .inline condition? directives inner ∈ list → context.Flattens onType condition? →
        Directive.AllInclude holds directives) :
    context.Present holds parent selections key := by
  obtain ⟨onType, list, flattened, field, hd, hk, nonNull, present⟩ := h
  exact present holds (flattened.includedInto included)

/-! ## Structs -/

theorem Renders.typename_asked {withTypename : Bool} {selections : List Selection}
    {lines : List StructLine} (renders : context.Renders parent withTypename selections lines)
    {types : List String} (hm : .typename false types ∈ lines) :
    context.options.nonOptionalTypename = true ∨ context.AsksTypename parent selections := by
  obtain ⟨queried, ok⟩ := renders
  obtain ⟨collected, links, hr, rfl⟩ := exists_rendered ok
  obtain ⟨rest, rfl, keyed⟩ := hr.exists_rest
  rcases List.mem_append.1 hm with hm | hm
  · split at hm
    · have line := Option.mem_toList.1 hm
      dsimp only [typenameLine?] at line
      split at line
      · have certain := (StructLine.typename.inj (Option.some.inj line)).1
        rw [Bool.not_eq_false', Bool.or_eq_true, queried_iff_asksTypename ok] at certain
        exact certain.symm
      · cases line
    · cases hm
  · cases keyed _ hm

/-- A field of the key is a list, or may be null, or has a directive that may leave it out. -/
def UncertainIn (context : SelectionContext) (parent : String) (selections : List Selection)
    (key : String) : Prop :=
  ∃ onType list, context.FlattenedInto parent [selections] onType list ∧
    ∃ field ∈ context.definedFields onType list, field.key = key ∧ field.IsUncertain

/-- Which fields of a struct have a value for absence. The key of one without such a value is
certain in one of the lists that the struct is for, and that of one with such a value is uncertain
in one of them; `__typename` is without it only where it is selected, or where the options want
it so everywhere. -/
structure HasCertainFields (context : SelectionContext) (parent : String)
    (lists : List (List Selection)) (lines : List StructLine) : Prop where
  certain : ∀ line ∈ lines, line.IsByValue → ∀ key, line.fieldKey? = some key →
    ∃ selections ∈ lists, context.CertainIn parent selections key
  uncertain : ∀ line ∈ lines, ¬line.IsByValue → ∀ key, line.fieldKey? = some key →
    ∃ selections ∈ lists, context.UncertainIn parent selections key
  typename : ∀ types, .typename false types ∈ lines →
    context.options.nonOptionalTypename = true ∨
      ∃ selections ∈ lists, context.AsksTypename parent selections

theorem IsStruct.hasCertainFields (optionals : context.options.avoidOptionals = false)
    {lists : List (List Selection)} {lines : List StructLine}
    (struct : context.IsStruct parent lists lines) :
    context.HasCertainFields parent lists lines := by
  constructor
  · intro line hm byValue key hk
    obtain ⟨selections, hs, onType, list, flattened, made⟩ :=
      struct.exists_fieldLine hm (Option.isSome_of_eq_some hk)
    obtain ⟨field, hd, key, nonNull, unconditional⟩ := made.exists_certain optionals byValue hk
    refine ⟨selections, hs, onType, list, flattened, field, hd, key, nonNull, ?_⟩
    intro holds included
    exact ⟨onType, list, included, field, hd, key,
      FieldCall.allInclude_directives unconditional holds⟩
  · intro line hm absent key hk
    obtain ⟨selections, hs, onType, list, flattened, made⟩ :=
      struct.exists_fieldLine hm (Option.isSome_of_eq_some hk)
    exact ⟨selections, hs, onType, list, flattened, made.exists_uncertain optionals absent hk⟩
  · intro types hm
    obtain ⟨entries, kept, rfl⟩ := struct
    obtain ⟨entry, he, hm⟩ := List.mem_flatMap.1 hm
    cases entry with
    | spread type =>
      rw [FragmentEntry.lines, List.mem_singleton] at hm
      cases hm
    | inline made =>
      obtain ⟨selections, hs, renders⟩ := kept.sound made he
      exact (renders.typename_asked hm).imp_right fun asked => ⟨selections, hs, asked⟩

/-- In every struct, a field that is neither a slice nor behind a pointer is never null by the
schema, and is in the response whenever the inline fragments around it are. All other fields are
lists, may be null, or may be left out. -/
theorem structs_have_certain_fields (optionals : context.options.avoidOptionals = false)
    {selections : List Selection} (nonempty : selections ≠ []) {text : String}
    (ok : (context.structText parent selections).outcome = .ok text) :
    ∃ lines, (context.structLines parent selections).outcome = .ok lines ∧
      text = StructLine.structText lines ∧
      context.EveryStruct context.HasCertainFields parent [selections] lines := by
  obtain ⟨lines, hl, rfl⟩ := structText_eq_ok nonempty ok
  refine ⟨lines, hl, rfl, everyStruct_of_isStruct ?_ hl⟩
  exact fun struct => struct.hasCertainFields optionals

/-- A schema with fields that are never null. -/
def ownerContext : SelectionContext where
  schema := .ofDefinitions [
    .type
      { name := "Query"
        body := .object [] [{ name := "owner", type := .nonNull (.named "Owner") }] },
    .type
      { name := "Owner"
        body := .object [] [{ name := "id", type := .nonNull (.named "ID") }] }]
  fragments := ∅
  resolver := { names := {}, scalarReference := .goType, scalars := .builtin }

/-- The directive `@include(if: $shown)`. -/
def includeShown : Directive := { name := "include", arguments := [("if", .variable "shown")] }

/-- The selections `owner { id ... @include(if: $shown) { own: id } }`. -/
def ownerSelections : List Selection := [
  .field { name := "owner" } [
    .field { name := "id" } [],
    .inline none [includeShown] [.field { alias? := some "own", name := "id" } []]]]

theorem owner_structs_have_certain_fields :
    ownerContext.options.avoidOptionals = false ∧ ownerSelections ≠ [] ∧
      ∃ text, (ownerContext.structText "Query" ownerSelections).outcome = .ok text ∧
        ∃ lines, (ownerContext.structLines "Query" ownerSelections).outcome = .ok lines ∧
          text = StructLine.structText lines ∧
          ownerContext.EveryStruct ownerContext.HasCertainFields "Query" [ownerSelections]
            lines := by
  have optionals : ownerContext.options.avoidOptionals = false := rfl
  have nonempty : ownerSelections ≠ [] := List.cons_ne_nil _ _
  obtain ⟨text, ok⟩ := Generation.exists_eq_ok
    (x := ownerContext.structText "Query" ownerSelections) (by decide +kernel)
  exact ⟨optionals, nonempty, text, ok, structs_have_certain_fields optionals nonempty ok⟩

/-- The selections `... @include(if: $shown) { id }`. -/
def shownId : List Selection := [.inline none [includeShown] [.field { name := "id" } []]]

/-- A field without a directive is written by value in an inline fragment that is left out. -/
theorem unconditional_line_is_absent :
    (ownerContext.structLines "Owner" shownId).outcome.toOption.map StructLine.texts =
        some ["Id string `json:\"id\"`"] ∧
      ¬ownerContext.Present (fun _ => false) "Owner" shownId "id" := by
  refine ⟨by decide +kernel, ?_⟩
  have outside : ∀ onType list,
      ownerContext.IncludedInto (fun _ => false) "Owner" shownId onType list → list = shownId := by
    intro onType list included
    induction included with
    | self => rfl
    | inline outer mem flattens included ih =>
      obtain ⟨-, rfl, -⟩ := Selection.inline.inj (List.mem_singleton.1 (ih ▸ mem))
      have holds := (included includeShown (List.mem_singleton_self _) _ rfl).2 rfl
      cases holds
  rintro ⟨onType, list, included, field, hd, -⟩
  obtain rfl := outside onType list included
  cases hd

end SelectionContext

end SchemaBindings
