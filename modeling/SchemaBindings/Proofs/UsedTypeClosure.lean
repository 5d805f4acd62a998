import Mathlib.Data.List.Basic
import Mathlib.Logic.Relation
import SchemaBindings.Proofs.FragmentClosure
import SchemaBindings.Proofs.MarkedTypes
import SchemaBindings.Proofs.UnquotedNames

/-!
# The closure of used types

Which types are used in the end. The walk over a document marks the types that its definitions name
(`namedTypes`) one after the other, and each input object that is marked for the first time has the
types of its fields marked right away. `Walks` is this marking without a bound, and `walks_iff` says
that it ends, also where input objects refer to each other in cycles. `Marks` says what it does to
the types that are marked already, without the order of the run: the used types are those that a
named one leads to (`mem_usedTypes_iff`).
-/

namespace SchemaBindings

namespace Schema

variable {schema : Schema}

/-! ## One marking -/

/-- Marking the names one after the other, where those in `used` are marked already, ends with
`marked`. A name that is marked already is passed over; with a new one, the types of the fields of
its input object are marked before the names that follow. -/
inductive Walks (schema : Schema) : List String → List String → List String → Prop
  | done (used : List String) : Walks schema used [] used
  | skip {used names marked : List String} {name : String} (mem : name ∈ used)
      (next : Walks schema used names marked) : Walks schema used (name :: names) marked
  | enter {used names entered marked : List String} {name : String} (new : name ∉ used)
      (fields : Walks schema (used ++ [name]) (schema.inputFieldTypes name) entered)
      (next : Walks schema entered names marked) : Walks schema used (name :: names) marked

namespace Walks

variable {used names middle marked : List String} {name : String}

theorem cons (first : schema.Walks used [name] middle) (next : schema.Walks middle names marked) :
    schema.Walks used (name :: names) marked := by
  cases first with
  | skip mem rest =>
    cases rest
    exact .skip mem next
  | enter new fields rest =>
    cases rest
    exact .enter new fields next

theorem unique {other : List String} (h : schema.Walks used names marked)
    (ho : schema.Walks used names other) : marked = other := by
  induction h generalizing other with
  | done used =>
    cases ho
    rfl
  | skip mem next ih =>
    cases ho with
    | skip _ next => exact ih next
    | enter new _ _ => exact absurd mem new
  | enter new fields next ihf ihn =>
    cases ho with
    | skip mem _ => exact absurd mem new
    | enter _ fields next =>
      obtain rfl := ihf fields
      exact ihn next

end Walks

/-- A type leads to itself, to the types of the fields of its input object, and on from these. -/
def LeadsTo (schema : Schema) : String → String → Prop :=
  Relation.ReflTransGen fun name inner => inner ∈ schema.inputFieldTypes name

/-- Marking `names`, where those in `used` are marked already, gives `marked`. What is new there has
its own fields marked, and is one of the names or reached from one. -/
structure Marks (schema : Schema) (used names marked : List String) : Prop where
  keeps : used ⊆ marked
  covers : names ⊆ marked
  expands : ∀ name ∈ marked, name ∈ used ∨ schema.inputFieldTypes name ⊆ marked
  sound : ∀ name ∈ marked, name ∈ used ∨ ∃ start ∈ names, schema.LeadsTo start name

namespace Marks

variable {used names marked later : List String} {name : String}

theorem done (used : List String) : schema.Marks used [] used :=
  ⟨List.Subset.refl _, List.nil_subset _, fun _ h => .inl h, fun _ h => .inl h⟩

theorem again (mem : name ∈ used) : schema.Marks used [name] used :=
  ⟨List.Subset.refl _, by simpa using mem, fun _ h => .inl h, fun _ h => .inl h⟩

/-- A name that is new is marked itself, and then the types of its fields are. -/
theorem enter (h : schema.Marks (used ++ [name]) (schema.inputFieldTypes name) marked) :
    schema.Marks used [name] marked := by
  obtain ⟨keeps, covers, expands, sound⟩ := h
  have here : name ∈ marked := keeps (by simp)
  refine ⟨fun other ho => keeps (List.mem_append_left _ ho), by simpa using here, ?_, ?_⟩
  · intro other ho
    rcases expands other ho with ho | ho
    · rcases List.mem_append.1 ho with ho | ho
      · exact .inl ho
      · obtain rfl := List.mem_singleton.1 ho
        exact .inr covers
    · exact .inr ho
  · intro other ho
    have start : name ∈ [name] := List.mem_singleton_self name
    rcases sound other ho with ho | ⟨inner, hi, leads⟩
    · rcases List.mem_append.1 ho with ho | ho
      · exact .inl ho
      · obtain rfl := List.mem_singleton.1 ho
        exact .inr ⟨other, start, .refl⟩
    · exact .inr ⟨name, start, .head hi leads⟩

theorem cons (first : schema.Marks used [name] marked) (next : schema.Marks marked names later) :
    schema.Marks used (name :: names) later := by
  refine ⟨List.Subset.trans first.keeps next.keeps, ?_, ?_, ?_⟩
  · have here : name ∈ marked := first.covers (List.mem_singleton_self name)
    exact List.cons_subset.2 ⟨next.keeps here, next.covers⟩
  · intro other ho
    rcases next.expands other ho with ho | ho
    · exact (first.expands other ho).imp_right fun inner => List.Subset.trans inner next.keeps
    · exact .inr ho
  · intro other ho
    rcases next.sound other ho with ho | ⟨start, hs, leads⟩
    · rcases first.sound other ho with ho | ⟨start, hs, leads⟩
      · exact .inl ho
      · obtain rfl := List.mem_singleton.1 hs
        exact .inr ⟨start, List.mem_cons_self, leads⟩
    · exact .inr ⟨start, List.mem_cons_of_mem _ hs, leads⟩

/-- From nothing, exactly what the names lead to is marked. -/
theorem mem_iff (h : schema.Marks [] names marked) :
    name ∈ marked ↔ ∃ start ∈ names, schema.LeadsTo start name := by
  constructor
  · intro hm
    exact (h.sound name hm).resolve_left List.not_mem_nil
  · rintro ⟨start, hs, leads⟩
    induction leads with
    | refl => exact h.covers hs
    | tail _ edge ih => exact (h.expands _ ih).resolve_left List.not_mem_nil edge

end Marks

theorem Walks.marks {used names marked : List String} (h : schema.Walks used names marked) :
    schema.Marks used names marked := by
  induction h with
  | done used => exact .done used
  | skip mem next ih => exact (Marks.again mem).cons ih
  | enter new fields next ihf ihn => exact ihf.enter.cons ihn

/-! ## The bounded marking -/

/-- The names of the types that are defined. -/
def definedNames (schema : Schema) : List String :=
  schema.definitions.filterMap fun
    | .type definition => some definition.name
    | .roots _ => none
    | .directive _ => none

theorem inputFieldTypes_eq_nil {name : String} (h : name ∉ schema.definedNames) :
    schema.inputFieldTypes name = [] := by
  unfold inputFieldTypes
  cases ht : schema.type? name with
  | none => rfl
  | some definition =>
    obtain ⟨hd, rfl⟩ := mem_of_lastType? ht
    have defined : definition.name ∈ schema.definedNames := List.mem_filterMap.2 ⟨_, hd, rfl⟩
    exact absurd defined h

/-- A bound that suffices for single names suffices for lists of them. -/
theorem walks_foldl {f : List String → String → List String} {bound : Nat}
    (single : ∀ used name, unmet schema.definedNames used < bound →
      schema.Walks used [name] (f used name))
    (names used : List String) (h : unmet schema.definedNames used < bound) :
    schema.Walks used names (names.foldl f used) := by
  induction names generalizing used with
  | nil => exact .done used
  | cons name rest ih =>
    have first := single used name h
    have fewer := unmet_le_of_subset schema.definedNames first.marks.keeps
    exact first.cons (ih (f used name) (Nat.lt_of_le_of_lt fewer h))

/-- A bound above the number of defined types that are not marked is never reached. -/
theorem walks_mark (bound : Nat) (used : List String) (name : String)
    (h : unmet schema.definedNames used < bound) :
    schema.Walks used [name] (schema.mark bound used name) := by
  induction bound generalizing used name with
  | zero => exact absurd h (Nat.not_lt_zero _)
  | succ bound ih =>
    rw [mark]
    by_cases mem : name ∈ used
    · rw [if_pos mem]
      exact .skip mem (.done used)
    · rw [if_neg mem]
      refine .enter mem ?_ (.done _)
      by_cases defined : name ∈ schema.definedNames
      · have fewer := unmet_append_lt defined mem
        exact walks_foldl ih _ _ (by omega)
      · rw [inputFieldTypes_eq_nil defined]
        exact .done _

theorem walks_markUsed (used : List String) (name : String) :
    schema.Walks used [name] (schema.markUsed used name) := by
  apply walks_mark
  have all : unmet schema.definedNames used ≤ schema.definedNames.length :=
    List.length_filter_le _ _
  have few : schema.definedNames.length ≤ schema.definitions.length :=
    List.length_filterMap_le _ _
  omega

/-- Marking a type ends, in one way. -/
theorem walks_iff {used marked : List String} {name : String} :
    schema.Walks used [name] marked ↔ marked = schema.markUsed used name := by
  constructor
  · exact fun walk => walk.unique (walks_markUsed used name)
  · rintro rfl
    exact walks_markUsed used name

theorem marks_foldl_markUsed (names used : List String) :
    schema.Marks used names (names.foldl schema.markUsed used) :=
  (walks_foldl (fun used name _ => walks_markUsed used name) names used
    (Nat.lt_succ_self _)).marks

/-! ## The types that definitions name -/

mutual

/-- The types that a selection on `parent` names: those of fields and type conditions, at any
depth. -/
def namedTypesIn (schema : Schema) (parent : String) : Selection → List String
  | .field call selections =>
    match schema.fieldType? parent call.name with
    | some type => type.baseName :: schema.namedTypesWithin type.baseName selections
    | none => []
  | .spread _ _ => []
  | .inline condition? _ selections =>
    condition?.getD parent :: schema.namedTypesWithin (condition?.getD parent) selections

/-- The types that selections on `parent` name. -/
def namedTypesWithin (schema : Schema) (parent : String) : List Selection → List String
  | [] => []
  | selection :: rest =>
    schema.namedTypesIn parent selection ++ schema.namedTypesWithin parent rest

end

/-- The types that a definition names. Without a root type, an operation names those of its
variables alone. -/
def namedTypes (schema : Schema) : Definition → List String
  | .fragment fragment =>
    fragment.onType :: schema.namedTypesWithin fragment.onType fragment.selections
  | .operation operation =>
    operation.variableDefinitions.map (·.type.baseName) ++
      match schema.rootType? operation.kind with
      | some root => root :: schema.namedTypesWithin root operation.selections
      | none => []

mutual

theorem markSelection_eq_foldl_namedTypesIn (parent : String) (used : List String) :
    ∀ selection, schema.markSelection parent used selection =
      (schema.namedTypesIn parent selection).foldl schema.markUsed used
  | .field call selections => by
    rw [markSelection, namedTypesIn]
    cases schema.fieldType? parent call.name with
    | none => rfl
    | some type =>
      exact markSelections_eq_foldl_namedTypesWithin type.baseName _ selections
  | .spread _ _ => by
    rw [markSelection, namedTypesIn, List.foldl_nil]
  | .inline condition? _ selections => by
    rw [markSelection, namedTypesIn]
    exact markSelections_eq_foldl_namedTypesWithin (condition?.getD parent) _ selections

theorem markSelections_eq_foldl_namedTypesWithin (parent : String) (used : List String) :
    ∀ selections, schema.markSelections parent used selections =
      (schema.namedTypesWithin parent selections).foldl schema.markUsed used
  | [] => by
    rw [markSelections, namedTypesWithin, List.foldl_nil]
  | selection :: rest => by
    rw [markSelections, namedTypesWithin, List.foldl_append,
      markSelection_eq_foldl_namedTypesIn parent used selection]
    exact markSelections_eq_foldl_namedTypesWithin parent _ rest

end

theorem markDefinition_eq_foldl (used : List String) (definition : Definition) :
    schema.markDefinition used definition =
      (schema.namedTypes definition).foldl schema.markUsed used := by
  cases definition with
  | fragment fragment => exact markSelections_eq_foldl_namedTypesWithin _ _ _
  | operation operation =>
    rw [markDefinition, namedTypes, List.foldl_append]
    cases schema.rootType? operation.kind with
    | none => rfl
    | some root => exact markSelections_eq_foldl_namedTypesWithin _ _ _

theorem usedTypes_eq_foldl (document : Document) :
    schema.usedTypes document =
      (document.flatMap schema.namedTypes).foldl schema.markUsed [] := by
  unfold usedTypes
  rw [List.foldl_flatMap]
  exact List.foldl_ext _ _ _ fun used definition _ => markDefinition_eq_foldl used definition

/-- The used types are those that a type which is named in the document leads to. -/
theorem mem_usedTypes_iff {document : Document} {name : String} :
    name ∈ schema.usedTypes document ↔
      ∃ definition ∈ document, ∃ start ∈ schema.namedTypes definition,
        schema.LeadsTo start name := by
  rw [usedTypes_eq_foldl, (marks_foldl_markUsed _ []).mem_iff]
  simp only [List.mem_flatMap]
  constructor
  · rintro ⟨start, ⟨definition, hd, hs⟩, leads⟩
    exact ⟨definition, hd, start, hs, leads⟩
  · rintro ⟨definition, hd, start, hs, leads⟩
    exact ⟨start, ⟨definition, hd, hs⟩, leads⟩

end Schema

end SchemaBindings
