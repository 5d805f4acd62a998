import Mathlib.Data.List.Basic
import SchemaBindings.Generated.SelectionStruct

/-!
# Collected fields

What the maps of `Collected` hold after fields have been added, told from the list of the fields
alone. Of the fields without sub-selections the first of a key counts; those with sub-selections
are put together, under the type of the first.

`HoldsFields` is this relation between a list of fields and what is collected; `HoldsFields.add` is
the step for one more field.
-/

namespace SchemaBindings

/-- A selected field with the type that the schema gives it. -/
structure DefinedField where
  call : FieldCall
  type : TypeRef
  selections : List Selection

namespace DefinedField

/-- The key of the field in the response. -/
def key (field : DefinedField) : String := field.call.responseName

/-- Whether the field has sub-selections. -/
def isLink (field : DefinedField) : Bool := !field.selections.isEmpty

/-- Whether the field has no sub-selections and is selected under its own name. -/
def isPlain (field : DefinedField) : Bool := !field.isLink && field.key == field.call.name

/-- Whether the field has no sub-selections and is selected under another name. -/
def isAliased (field : DefinedField) : Bool := !field.isLink && field.key != field.call.name

theorem classes (field : DefinedField) :
    (field.isPlain = true ∧ field.isAliased = false ∧ field.isLink = false) ∨
      (field.isPlain = false ∧ field.isAliased = true ∧ field.isLink = false) ∨
      (field.isPlain = false ∧ field.isAliased = false ∧ field.isLink = true) := by
  unfold isPlain isAliased
  cases field.isLink with
  | true => exact .inr (.inr ⟨rfl, rfl, rfl⟩)
  | false => by_cases h : field.key = field.call.name <;> simp [h]

/-- A field of a class has the key. -/
def HasUnder (kind : DefinedField → Bool) (fields : List DefinedField) (key : String) : Prop :=
  ∃ field ∈ fields, kind field = true ∧ field.key = key

/-- The first field under a key among those of a class. -/
def firstUnder (kind : DefinedField → Bool) (fields : List DefinedField) (key : String) :
    Option DefinedField :=
  fields.find? fun field => kind field && field.key == key

/-- The fields under a key that have sub-selections. -/
def linksUnder (fields : List DefinedField) (key : String) : List DefinedField :=
  fields.filter fun field => field.isLink && field.key == key

/-- The fields under a key that have sub-selections, put together. -/
def link? (fields : List DefinedField) (key : String) : Option Link :=
  (linksUnder fields key).head?.map fun first =>
    { type := first.type
      conditional := (linksUnder fields key).any (·.call.isConditional)
      selections := (linksUnder fields key).flatMap (·.selections) }

theorem firstUnder_append_of_not {kind : DefinedField → Bool} {field : DefinedField} {key : String}
    (fields : List DefinedField) (h : ¬(kind field = true ∧ field.key = key)) :
    firstUnder kind (fields ++ [field]) key = firstUnder kind fields key := by
  have hp : (kind field && field.key == key) = false := by simpa using h
  unfold firstUnder
  rw [List.find?_append, List.find?_singleton, hp]
  simp

theorem firstUnder_append_of {kind : DefinedField → Bool} {field : DefinedField}
    (fields : List DefinedField) (h : kind field = true) :
    firstUnder kind (fields ++ [field]) field.key =
      some ((firstUnder kind fields field.key).getD field) := by
  unfold firstUnder
  rw [List.find?_append, List.find?_singleton, h, Bool.true_and, beq_self_eq_true, if_pos rfl]
  cases List.find? (fun other => kind other && other.key == field.key) fields <;> rfl

theorem firstUnder_eq_some {kind : DefinedField → Bool} {fields : List DefinedField} {key : String}
    {field : DefinedField} (h : firstUnder kind fields key = some field) :
    field ∈ fields ∧ kind field = true ∧ field.key = key := by
  have hp := List.find?_some h
  rw [Bool.and_eq_true, beq_iff_eq] at hp
  exact ⟨List.mem_of_find?_eq_some h, hp⟩

theorem firstUnder_isSome_iff {kind : DefinedField → Bool} {fields : List DefinedField}
    {key : String} : (firstUnder kind fields key).isSome = true ↔ HasUnder kind fields key := by
  simp [firstUnder, HasUnder, List.find?_isSome]

theorem linksUnder_append_of_not {field : DefinedField} {key : String}
    (fields : List DefinedField) (h : ¬(field.isLink = true ∧ field.key = key)) :
    linksUnder (fields ++ [field]) key = linksUnder fields key := by
  have hp : (field.isLink && field.key == key) = false := by simpa using h
  simp [linksUnder, List.filter_append, hp]

theorem linksUnder_append_of {field : DefinedField} (fields : List DefinedField)
    (h : field.isLink = true) :
    linksUnder (fields ++ [field]) field.key = linksUnder fields field.key ++ [field] := by
  simp [linksUnder, List.filter_append, h]

theorem mem_linksUnder {fields : List DefinedField} {key : String} {field : DefinedField} :
    field ∈ linksUnder fields key ↔ field ∈ fields ∧ field.isLink = true ∧ field.key = key := by
  simp [linksUnder]

theorem link?_isSome_iff {fields : List DefinedField} {key : String} :
    (link? fields key).isSome = true ↔ HasUnder (·.isLink) fields key := by
  rw [link?, Option.isSome_map, List.isSome_head?, ← List.isEmpty_eq_false_iff,
    List.isEmpty_eq_false_iff_exists_mem]
  exact exists_congr fun _ => mem_linksUnder

theorem link?_eq_some {fields : List DefinedField} {key : String} {link : Link}
    (h : link? fields key = some link) :
    (∃ first ∈ linksUnder fields key, link.type = first.type) ∧
      link.selections = (linksUnder fields key).flatMap (·.selections) := by
  unfold link? at h
  obtain ⟨first, hf, rfl⟩ := Option.map_eq_some_iff.1 h
  exact ⟨⟨first, List.mem_of_mem_head? hf, rfl⟩, rfl⟩

theorem conditional_link? {fields : List DefinedField} {key : String} {link : Link}
    (h : link? fields key = some link) :
    link.conditional = true ↔ ∃ field ∈ linksUnder fields key, field.call.isConditional = true := by
  unfold link? at h
  obtain ⟨first, -, rfl⟩ := Option.map_eq_some_iff.1 h
  exact List.any_eq_true

/-- A field with sub-selections is in the link of its key. -/
theorem link?_of_mem {fields : List DefinedField} {field : DefinedField} (hm : field ∈ fields)
    (hl : field.isLink = true) :
    ∃ link, link? fields field.key = some link ∧
      (field.call.isConditional = true → link.conditional = true) ∧
      field.selections ⊆ link.selections := by
  have mem : field ∈ linksUnder fields field.key := mem_linksUnder.2 ⟨hm, hl, rfl⟩
  obtain ⟨link, hk⟩ := Option.isSome_iff_exists.1 (link?_isSome_iff.2 ⟨field, hm, hl, rfl⟩)
  refine ⟨link, hk, ?_⟩
  unfold link? at hk
  obtain ⟨first, -, rfl⟩ := Option.map_eq_some_iff.1 hk
  exact ⟨fun hc => List.any_eq_true.2 ⟨field, mem, hc⟩,
    fun selection hs => List.mem_flatMap.2 ⟨field, mem, hs⟩⟩

/-- One more field with sub-selections goes to the link of its key. -/
theorem link?_append {field : DefinedField} (fields : List DefinedField)
    (h : field.isLink = true) :
    link? (fields ++ [field]) field.key =
      some
        { type := ((link? fields field.key).getD { type := field.type }).type
          conditional := ((link? fields field.key).getD { type := field.type }).conditional ||
            field.call.isConditional
          selections := ((link? fields field.key).getD { type := field.type }).selections ++
            field.selections } := by
  unfold link?
  rw [linksUnder_append_of fields h]
  cases linksUnder fields field.key with
  | nil => simp
  | cons first rest => simp [Bool.or_assoc]

end DefinedField

namespace SelectionContext

variable {context : SelectionContext}

/-- The type written for a field without sub-selections. -/
def leafType (context : SelectionContext) (field : DefinedField) : GoType :=
  .ofSelection field.type field.call.isConditional context.options.avoidOptionals
    (context.resolver.resolve field.type.baseName)

/-- Adds a field that the schema defines. -/
def addField (context : SelectionContext) (collected : Collected) (field : DefinedField) :
    Collected :=
  if field.isLink then collected.addLink field.call field.type field.selections
  else collected.addLeaf field.call (context.leafType field)

/-- The field that a selection on a type asks for, if the schema defines it. `__typename` is none of
the fields. -/
def definedField? (context : SelectionContext) (parent : String) : Selection → Option DefinedField
  | .field call selections =>
    if call.name = Schema.typenameField then none
    else (context.schema.fieldType? parent call.name).map fun type => { call, type, selections }
  | .spread _ _ => none
  | .inline _ _ _ => none

/-- The fields that selections on a type ask for themselves. -/
def definedFields (context : SelectionContext) (parent : String) (selections : List Selection) :
    List DefinedField :=
  selections.filterMap (context.definedField? parent)

theorem definedField?_eq_some {parent : String} {selection : Selection} {field : DefinedField} :
    context.definedField? parent selection = some field ↔
      selection = .field field.call field.selections ∧
        field.call.name ≠ Schema.typenameField ∧
        context.schema.fieldType? parent field.call.name = some field.type := by
  cases selection with
  | field call selections =>
    rw [definedField?]
    split
    · rename_i hn
      constructor
      · intro h
        cases h
      · rintro ⟨h, hn', _⟩
        cases h
        exact absurd hn hn'
    · rename_i hn
      rw [Option.map_eq_some_iff]
      constructor
      · rintro ⟨type, ht, rfl⟩
        exact ⟨rfl, hn, ht⟩
      · rintro ⟨h, _, ht⟩
        cases h
        exact ⟨_, ht, rfl⟩
  | spread fragment directives => simp [definedField?]
  | inline condition? directives selections => simp [definedField?]

theorem mem_definedFields {parent : String} {selections : List Selection} {field : DefinedField} :
    field ∈ context.definedFields parent selections ↔
      .field field.call field.selections ∈ selections ∧
        field.call.name ≠ Schema.typenameField ∧
        context.schema.fieldType? parent field.call.name = some field.type := by
  rw [definedFields, List.mem_filterMap]
  constructor
  · rintro ⟨selection, hs, h⟩
    obtain ⟨rfl, hf⟩ := definedField?_eq_some.1 h
    exact ⟨hs, hf⟩
  · rintro ⟨hs, h⟩
    exact ⟨_, hs, definedField?_eq_some.2 ⟨rfl, h⟩⟩

/-- The maps for fields hold what the fields, added one after the other, make of them. -/
structure HoldsFields (context : SelectionContext) (fields : List DefinedField)
    (collected : Collected) : Prop where
  leaves : ∀ key, collected.leaves.find? key =
    (DefinedField.firstUnder (·.isPlain) fields key).map context.leafType
  aliased : ∀ key, collected.aliased.find? key =
    (DefinedField.firstUnder (·.isAliased) fields key).map fun field =>
      (field.call.name, context.leafType field)
  links : ∀ key, collected.links.find? key = DefinedField.link? fields key

theorem HoldsFields.empty : context.HoldsFields [] {} :=
  ⟨fun _ => rfl, fun _ => rfl, fun _ => rfl⟩

/-- A map in which the first value of a key counts. -/
theorem find?_insertNew_eq {β : Type} {map : OrderedMap String β} {kind : DefinedField → Bool}
    {fields : List DefinedField} {value : DefinedField → β} {field : DefinedField}
    (h : ∀ key, map.find? key = (DefinedField.firstUnder kind fields key).map value)
    (hk : kind field = true) (key : String) :
    (map.insertNew field.key (value field)).find? key =
      (DefinedField.firstUnder kind (fields ++ [field]) key).map value := by
  rw [OrderedMap.find?_insertNew]
  by_cases he : key = field.key
  · subst he
    rw [if_pos rfl, h, DefinedField.firstUnder_append_of fields hk]
    cases DefinedField.firstUnder kind fields field.key <;> rfl
  · rw [if_neg he, h, DefinedField.firstUnder_append_of_not fields fun hf => he hf.2.symm]

theorem HoldsFields.add {fields : List DefinedField} {collected : Collected}
    (h : context.HoldsFields fields collected) (field : DefinedField) :
    context.HoldsFields (fields ++ [field]) (context.addField collected field) := by
  unfold addField
  cases hl : field.isLink with
  | true =>
    have noLeaf : field.isPlain = false ∧ field.isAliased = false := by
      simp [DefinedField.isPlain, DefinedField.isAliased, hl]
    refine ⟨fun key => ?_, fun key => ?_, fun key => ?_⟩
    · rw [DefinedField.firstUnder_append_of_not fields (by simp [noLeaf.1])]
      exact h.leaves key
    · rw [DefinedField.firstUnder_append_of_not fields (by simp [noLeaf.2])]
      exact h.aliased key
    · show (collected.links.upsert field.key _).find? key = _
      rw [OrderedMap.find?_upsert]
      by_cases hk : key = field.key
      · subst hk
        rw [if_pos rfl, h.links, DefinedField.link?_append fields hl]
      · have apart : ¬(field.isLink = true ∧ field.key = key) := fun hf => hk hf.2.symm
        rw [if_neg hk, h.links, DefinedField.link?, DefinedField.link?,
          DefinedField.linksUnder_append_of_not fields apart]
  | false =>
    have noLink : ∀ key, DefinedField.link? (fields ++ [field]) key =
        DefinedField.link? fields key := by
      intro key
      rw [DefinedField.link?, DefinedField.link?,
        DefinedField.linksUnder_append_of_not fields (by simp [hl])]
    rw [if_neg Bool.false_ne_true, Collected.addLeaf]
    by_cases hn : field.call.responseName = field.call.name
    · have plain : field.isPlain = true := by simp [DefinedField.isPlain, hl, DefinedField.key, hn]
      have notAliased : field.isAliased = false := by
        simp [DefinedField.isAliased, hl, DefinedField.key, hn]
      rw [if_pos hn]
      refine ⟨find?_insertNew_eq h.leaves plain, fun key => ?_, fun key => ?_⟩
      · rw [DefinedField.firstUnder_append_of_not fields (by simp [notAliased])]
        exact h.aliased key
      · rw [noLink]
        exact h.links key
    · have notPlain : field.isPlain = false := by
        simp [DefinedField.isPlain, hl, DefinedField.key, hn]
      have aliased : field.isAliased = true := by
        simp [DefinedField.isAliased, hl, DefinedField.key, hn]
      rw [if_neg hn]
      refine ⟨fun key => ?_, find?_insertNew_eq h.aliased aliased, fun key => ?_⟩
      · rw [DefinedField.firstUnder_append_of_not fields (by simp [notPlain])]
        exact h.leaves key
      · rw [noLink]
        exact h.links key

namespace HoldsFields

variable {fields : List DefinedField} {collected : Collected}

theorem mem_leaves_keys (h : context.HoldsFields fields collected) (key : String) :
    key ∈ collected.leaves.keys ↔ DefinedField.HasUnder (·.isPlain) fields key := by
  rw [← OrderedMap.contains_iff_mem_keys, OrderedMap.contains, h.leaves, Option.isSome_map,
    DefinedField.firstUnder_isSome_iff]

theorem mem_aliased_keys (h : context.HoldsFields fields collected) (key : String) :
    key ∈ collected.aliased.keys ↔ DefinedField.HasUnder (·.isAliased) fields key := by
  rw [← OrderedMap.contains_iff_mem_keys, OrderedMap.contains, h.aliased, Option.isSome_map,
    DefinedField.firstUnder_isSome_iff]

theorem mem_links_keys (h : context.HoldsFields fields collected) (key : String) :
    key ∈ collected.links.keys ↔ DefinedField.HasUnder (·.isLink) fields key := by
  rw [← OrderedMap.contains_iff_mem_keys, OrderedMap.contains, h.links,
    DefinedField.link?_isSome_iff]

theorem mem_keys_iff (h : context.HoldsFields fields collected) (key : String) :
    (key ∈ collected.leaves.keys ∨ key ∈ collected.aliased.keys) ∨ key ∈ collected.links.keys ↔
      ∃ field ∈ fields, field.key = key := by
  rw [h.mem_leaves_keys, h.mem_aliased_keys, h.mem_links_keys]
  constructor
  · rintro ((⟨field, hf, -, hk⟩ | ⟨field, hf, -, hk⟩) | ⟨field, hf, -, hk⟩) <;>
      exact ⟨field, hf, hk⟩
  · rintro ⟨field, hf, hk⟩
    rcases field.classes with ⟨hc, -, -⟩ | ⟨-, hc, -⟩ | ⟨-, -, hc⟩
    · exact .inl (.inl ⟨field, hf, hc, hk⟩)
    · exact .inl (.inr ⟨field, hf, hc, hk⟩)
    · exact .inr ⟨field, hf, hc, hk⟩

end HoldsFields

end SelectionContext

end SchemaBindings
