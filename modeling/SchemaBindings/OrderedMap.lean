/-!
Maps that keep their keys in the order of first insertion. Writing to a key that is present changes
its value and leaves its position. Main statements: the keys are those of before, followed by a new
one (`keys_upsert`), and a written key is found with its new value (`find?_upsert`).
-/

namespace SchemaBindings

/-- Associations with distinct keys, in order of first insertion. -/
structure OrderedMap (α β : Type) where
  entries : List (α × β)
  nodup : (entries.map Prod.fst).Nodup
  deriving DecidableEq

namespace OrderedMap

variable {α β : Type}

@[ext] theorem ext {map other : OrderedMap α β} (h : map.entries = other.entries) :
    map = other := by
  cases map
  cases other
  cases h
  rfl

/-- The map without associations. -/
def empty : OrderedMap α β := ⟨[], by simp⟩

instance : EmptyCollection (OrderedMap α β) := ⟨empty⟩
instance : Inhabited (OrderedMap α β) := ⟨empty⟩

/-- The keys, in order. -/
def keys (map : OrderedMap α β) : List α := map.entries.map Prod.fst

/-- The values, in the order of their keys. -/
def values (map : OrderedMap α β) : List β := map.entries.map Prod.snd

/-- The number of associations. -/
def size (map : OrderedMap α β) : Nat := map.entries.length

/-- Whether the map has no association. -/
def isEmpty (map : OrderedMap α β) : Bool := map.entries.isEmpty

variable [DecidableEq α]

/-- The value of the first association of `key`. -/
def lookup (key : α) : List (α × β) → Option β
  | [] => none
  | (k, v) :: rest => if k = key then some v else lookup key rest

/-- The value of `key`. -/
def find? (map : OrderedMap α β) (key : α) : Option β := lookup key map.entries

/-- Whether `key` has a value. -/
def contains (map : OrderedMap α β) (key : α) : Bool := (map.find? key).isSome

/-- Gives `key` the value `f` makes of its present one, at its position or else at the end. -/
def upsertEntries (key : α) (f : Option β → β) : List (α × β) → List (α × β)
  | [] => [(key, f none)]
  | (k, v) :: rest =>
    if k = key then (k, f (some v)) :: rest else (k, v) :: upsertEntries key f rest

theorem map_fst_upsertEntries (key : α) (f : Option β → β) (entries : List (α × β)) :
    (upsertEntries key f entries).map Prod.fst =
      if key ∈ entries.map Prod.fst then entries.map Prod.fst
      else entries.map Prod.fst ++ [key] := by
  induction entries with
  | nil => simp [upsertEntries]
  | cons e rest ih =>
    obtain ⟨k, v⟩ := e
    by_cases h : k = key
    · simp [upsertEntries, h]
    · simp only [upsertEntries, h, if_false, List.map_cons, ih, List.mem_cons, Ne.symm h, false_or]
      split <;> simp

theorem nodup_upsertEntries (key : α) (f : Option β → β) {entries : List (α × β)}
    (h : (entries.map Prod.fst).Nodup) : ((upsertEntries key f entries).map Prod.fst).Nodup := by
  rw [map_fst_upsertEntries]
  split
  · exact h
  · rename_i hk
    exact List.nodup_append.2 ⟨h, by simp, by
      intro a ha b hb
      simp only [List.mem_singleton] at hb
      subst hb
      exact fun hab => hk (hab ▸ ha)⟩

/-- Gives `key` the value `f` makes of its present one, at its position or else at the end. -/
def upsert (map : OrderedMap α β) (key : α) (f : Option β → β) : OrderedMap α β :=
  ⟨upsertEntries key f map.entries, nodup_upsertEntries key f map.nodup⟩

/-- Gives `key` the value `value`. -/
def insert (map : OrderedMap α β) (key : α) (value : β) : OrderedMap α β :=
  map.upsert key fun _ => value

/-- Gives `key` the value `value` unless it has one. -/
def insertNew (map : OrderedMap α β) (key : α) (value : β) : OrderedMap α β :=
  map.upsert key (·.getD value)

/-- The map written association by association: a repeated key keeps its first position and takes
its last value. -/
def ofList (entries : List (α × β)) : OrderedMap α β :=
  entries.foldl (fun map (key, value) => map.insert key value) empty

omit [DecidableEq α] in
theorem nodup_keys (map : OrderedMap α β) : map.keys.Nodup := map.nodup

omit [DecidableEq α] in
@[simp] theorem keys_empty : (∅ : OrderedMap α β).keys = [] := rfl

@[simp] theorem find?_empty (key : α) : (∅ : OrderedMap α β).find? key = none := rfl

theorem keys_upsert (map : OrderedMap α β) (key : α) (f : Option β → β) :
    (map.upsert key f).keys = if key ∈ map.keys then map.keys else map.keys ++ [key] :=
  map_fst_upsertEntries key f map.entries

theorem lookup_upsertEntries (key other : α) (f : Option β → β) (entries : List (α × β)) :
    lookup other (upsertEntries key f entries) =
      if other = key then some (f (lookup key entries)) else lookup other entries := by
  induction entries with
  | nil => by_cases h : key = other <;> simp [upsertEntries, lookup, h, eq_comm]
  | cons e rest ih =>
    obtain ⟨k, v⟩ := e
    by_cases hk : k = key
    · subst hk
      by_cases ho : k = other
      · simp [upsertEntries, lookup, ho]
      · simp [upsertEntries, lookup, ho, Ne.symm ho]
    · by_cases ho : k = other
      · subst ho
        simp [upsertEntries, lookup, hk]
      · simp [upsertEntries, lookup, hk, ho, ih]

theorem find?_upsert (map : OrderedMap α β) (key other : α) (f : Option β → β) :
    (map.upsert key f).find? other =
      if other = key then some (f (map.find? key)) else map.find? other :=
  lookup_upsertEntries key other f map.entries

theorem find?_insert (map : OrderedMap α β) (key other : α) (value : β) :
    (map.insert key value).find? other = if other = key then some value else map.find? other :=
  find?_upsert map key other _

theorem find?_insertNew (map : OrderedMap α β) (key other : α) (value : β) :
    (map.insertNew key value).find? other =
      if other = key then some ((map.find? key).getD value) else map.find? other :=
  find?_upsert map key other _

theorem upsertEntries_eq_self {key : α} {f : Option β → β} {value : β} {entries : List (α × β)}
    (present : lookup key entries = some value) (same : f (some value) = value) :
    upsertEntries key f entries = entries := by
  induction entries with
  | nil => cases present
  | cons e rest ih =>
    obtain ⟨k, v⟩ := e
    rw [lookup] at present
    rw [upsertEntries]
    split
    · rename_i hk
      rw [if_pos hk, Option.some.injEq] at present
      rw [present, same]
    · rename_i hk
      rw [if_neg hk] at present
      rw [ih present]

/-- Writing the value that a key has changes nothing. -/
theorem upsert_eq_self {map : OrderedMap α β} {key : α} {f : Option β → β} {value : β}
    (present : map.find? key = some value) (same : f (some value) = value) :
    map.upsert key f = map :=
  ext (upsertEntries_eq_self present same)

theorem lookup_eq_none_iff (key : α) (entries : List (α × β)) :
    lookup key entries = none ↔ key ∉ entries.map Prod.fst := by
  induction entries with
  | nil => simp [lookup]
  | cons e rest ih =>
    obtain ⟨k, v⟩ := e
    by_cases h : k = key
    · simp [lookup, h]
    · simp only [lookup, h, if_false, ih, List.map_cons, List.mem_cons, Ne.symm h, false_or]

/-- Keys that are written have what is written, and all others keep their values. -/
theorem find?_foldl_insert {entries : List (α × β)}
    (nodup : (entries.map Prod.fst).Nodup) (map : OrderedMap α β) (key : α) :
    (entries.foldl (fun map (key, value) => map.insert key value) map).find? key =
      (lookup key entries).or (map.find? key) := by
  induction entries generalizing map with
  | nil => rfl
  | cons entry rest ih =>
    obtain ⟨first, value⟩ := entry
    rw [List.map_cons, List.nodup_cons] at nodup
    rw [List.foldl_cons, ih nodup.2, find?_insert, lookup]
    by_cases here : first = key
    · subst here
      rw [(lookup_eq_none_iff _ _).2 nodup.1, if_pos rfl, if_pos rfl]
      rfl
    · rw [if_neg here, if_neg (Ne.symm here)]

theorem contains_iff_mem_keys (map : OrderedMap α β) (key : α) :
    map.contains key = true ↔ key ∈ map.keys := by
  rw [contains, Option.isSome_iff_ne_none, Ne, find?, lookup_eq_none_iff, Classical.not_not]
  rfl

theorem mem_iff_lookup {entries : List (α × β)} (nodup : (entries.map Prod.fst).Nodup) (key : α)
    (value : β) : (key, value) ∈ entries ↔ lookup key entries = some value := by
  induction entries with
  | nil => simp [lookup]
  | cons e rest ih =>
    obtain ⟨k, v⟩ := e
    rw [List.map_cons, List.nodup_cons] at nodup
    by_cases h : k = key
    · subst h
      have absent : (k, value) ∉ rest := fun hm => nodup.1 (List.mem_map.2 ⟨_, hm, rfl⟩)
      simp [lookup, absent, eq_comm]
    · simp [lookup, h, Ne.symm h, ih nodup.2]

/-- An association of a map is what look-up finds. -/
theorem mem_entries_iff (map : OrderedMap α β) (key : α) (value : β) :
    (key, value) ∈ map.entries ↔ map.find? key = some value :=
  mem_iff_lookup map.nodup key value

theorem mem_values_iff (map : OrderedMap α β) (value : β) :
    value ∈ map.values ↔ ∃ key, map.find? key = some value := by
  simp only [values, List.mem_map, Prod.exists, exists_eq_right, mem_entries_iff]

theorem mem_values_of_insertNew {map : OrderedMap α β} {key : α} {value other : β}
    (h : other ∈ (map.insertNew key value).values) : other ∈ map.values ∨ other = value := by
  obtain ⟨found, hf⟩ := (mem_values_iff _ _).1 h
  rw [find?_insertNew] at hf
  split at hf
  · cases present : map.find? key with
    | none =>
      rw [present] at hf
      exact .inr (Option.some.inj hf).symm
    | some first =>
      rw [present] at hf
      exact .inl ((mem_values_iff _ _).2 ⟨key, present.trans hf⟩)
  · exact .inl ((mem_values_iff _ _).2 ⟨found, hf⟩)

end OrderedMap

/-- The list without the elements that equal an earlier one. -/
def distinct {α : Type} [DecidableEq α] (xs : List α) : List α :=
  xs.foldl (fun seen x => if x ∈ seen then seen else seen ++ [x]) []

end SchemaBindings
