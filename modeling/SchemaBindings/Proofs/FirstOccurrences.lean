import Mathlib.Data.List.Induction
import Mathlib.Data.List.Nodup
import SchemaBindings.OrderedMap

/-!
# First occurrences

Of the elements of a list that have one key, only the first is kept (`firsts`). What is kept has
different keys, covers every key, and is in the order in which keys first occur; it only grows when
more elements follow (`firsts_prefix`), and keeping the first elements part by part comes to the
same as keeping them at once (`foldl_addNew_firsts`).
-/

namespace SchemaBindings

section

variable {α β : Type} [DecidableEq β] {key : α → β}

/-- Adds an element unless one of its key is there. -/
def addNew (key : α → β) (kept : List α) (x : α) : List α :=
  if key x ∈ kept.map key then kept else kept ++ [x]

/-- The first element of each key. -/
def firsts (key : α → β) (xs : List α) : List α := xs.foldl (addNew key) []

theorem firsts_concat (xs : List α) (x : α) :
    firsts key (xs ++ [x]) = addNew key (firsts key xs) x := List.foldl_concat ..

/-! ## One more element -/

theorem prefix_addNew (kept : List α) (x : α) : kept <+: addNew key kept x := by
  unfold addNew
  split
  · exact List.prefix_rfl
  · exact List.prefix_append kept [x]

theorem mem_of_mem_addNew {kept : List α} {x y : α} (h : y ∈ addNew key kept x) :
    y ∈ kept ∨ y = x := by
  unfold addNew at h
  split at h
  · exact .inl h
  · simpa using h

theorem key_mem_addNew (kept : List α) (x : α) : key x ∈ (addNew key kept x).map key := by
  unfold addNew
  split
  · assumption
  · simp

theorem nodup_addNew {kept : List α} (h : (kept.map key).Nodup) (x : α) :
    ((addNew key kept x).map key).Nodup := by
  unfold addNew
  split
  · exact h
  · rename_i absent
    rw [List.map_append, List.map_singleton, ← List.concat_eq_append]
    exact h.concat absent

/-! ## All elements -/

theorem prefix_foldl_addNew (kept xs : List α) : kept <+: xs.foldl (addNew key) kept := by
  induction xs generalizing kept with
  | nil => exact List.prefix_rfl
  | cons x xs ih => exact (prefix_addNew kept x).trans (ih _)

theorem firsts_prefix (xs ys : List α) : firsts key xs <+: firsts key (xs ++ ys) := by
  unfold firsts
  rw [List.foldl_append]
  exact prefix_foldl_addNew _ ys

theorem firsts_subset (xs : List α) : firsts key xs ⊆ xs := by
  induction xs using List.reverseRecOn with
  | nil => exact List.Subset.refl _
  | append_singleton xs x ih =>
    rw [firsts_concat]
    intro y hy
    rcases mem_of_mem_addNew hy with hy | rfl
    · exact List.mem_append_left _ (ih hy)
    · simp

theorem key_mem_foldl_addNew {xs : List α} {x : α} (h : x ∈ xs) (kept : List α) :
    key x ∈ (xs.foldl (addNew key) kept).map key := by
  induction xs generalizing kept with
  | nil => cases h
  | cons y xs ih =>
    rw [List.foldl_cons]
    rcases List.mem_cons.1 h with rfl | h
    · exact ((prefix_foldl_addNew _ xs).map key).subset (key_mem_addNew kept x)
    · exact ih h _

theorem exists_mem_firsts {xs : List α} {x : α} (h : x ∈ xs) :
    ∃ y ∈ firsts key xs, key y = key x :=
  List.mem_map.1 (key_mem_foldl_addNew h [])

theorem nodup_firsts (xs : List α) : ((firsts key xs).map key).Nodup := by
  induction xs using List.reverseRecOn with
  | nil => exact List.nodup_nil
  | append_singleton xs x ih =>
    rw [firsts_concat]
    exact nodup_addNew ih x

theorem pairwise_firsts (xs : List α) :
    (firsts key xs).Pairwise fun x y =>
      (xs.map key).idxOf (key x) < (xs.map key).idxOf (key y) := by
  induction xs using List.reverseRecOn with
  | nil => exact .nil
  | append_singleton xs x ih =>
    have earlier : ∀ {y}, y ∈ firsts key xs →
        ((xs ++ [x]).map key).idxOf (key y) = (xs.map key).idxOf (key y) := by
      intro y hy
      rw [List.map_append]
      exact List.idxOf_append_of_mem (List.mem_map_of_mem (firsts_subset xs hy))
    have old := ih.imp_of_mem fun {y z} hy hz h => by
      rwa [← earlier hy, ← earlier hz] at h
    rw [firsts_concat, addNew]
    split
    · exact old
    · rename_i absent
      refine List.pairwise_append.2 ⟨old, List.pairwise_singleton _ _, fun y hy z hz => ?_⟩
      obtain rfl := List.mem_singleton.1 hz
      have new : key z ∉ xs.map key := by
        intro mem
        obtain ⟨w, hw, same⟩ := List.mem_map.1 mem
        exact absent (same ▸ List.mem_map.2 (exists_mem_firsts hw))
      rw [earlier hy, List.map_append, List.idxOf_append_of_notMem new]
      exact Nat.lt_add_right _
        (List.idxOf_lt_length_of_mem (List.mem_map_of_mem (firsts_subset xs hy)))

/-- An element whose key is there already may as well be left out beforehand. -/
theorem foldl_addNew_firsts (kept xs : List α) :
    (firsts key xs).foldl (addNew key) kept = xs.foldl (addNew key) kept := by
  induction xs using List.reverseRecOn with
  | nil => rfl
  | append_singleton xs x ih =>
    rw [firsts_concat, List.foldl_concat, ← ih]
    by_cases present : key x ∈ (firsts key xs).map key
    · obtain ⟨y, hy, same⟩ := List.mem_map.1 present
      have there : key x ∈ ((firsts key xs).foldl (addNew key) kept).map key :=
        same ▸ key_mem_foldl_addNew hy kept
      rw [addNew, if_pos present, addNew, if_pos there]
    · rw [addNew, if_neg present, List.foldl_concat]

theorem firsts_eq_self {xs : List α} (h : (xs.map key).Nodup) : firsts key xs = xs := by
  induction xs using List.reverseRecOn with
  | nil => rfl
  | append_singleton xs x ih =>
    rw [List.map_append, List.map_singleton, List.nodup_append] at h
    have absent : key x ∉ xs.map key := fun mem => h.2.2 _ mem _ (List.mem_singleton_self _) rfl
    rw [firsts_concat, ih h.1, addNew, if_neg absent]

/-- Of the further elements, the first of each key is kept whose key was not there before. -/
theorem foldl_addNew_eq_append (kept xs : List α) :
    xs.foldl (addNew key) kept =
      kept ++ (firsts key xs).filter (fun x => decide (key x ∉ kept.map key)) := by
  induction xs using List.reverseRecOn with
  | nil => simp [firsts]
  | append_singleton xs x ih =>
    rw [List.foldl_concat, ih, firsts_concat, addNew, addNew]
    by_cases old : key x ∈ kept.map key
    · rw [if_pos (by rw [List.map_append]; exact List.mem_append_left _ old)]
      split
      · rfl
      · rw [List.filter_append, List.filter_cons_of_neg (by simpa using old), List.filter_nil,
          List.append_nil]
    · have same : key x ∈ (kept ++ (firsts key xs).filter
          (fun y => decide (key y ∉ kept.map key))).map key ↔ key x ∈ (firsts key xs).map key := by
        rw [List.map_append, List.mem_append, or_iff_right old]
        simp only [List.mem_map, List.mem_filter, decide_eq_true_eq]
        constructor
        · rintro ⟨y, ⟨hy, -⟩, hk⟩
          exact ⟨y, hy, hk⟩
        · rintro ⟨y, hy, hk⟩
          refine ⟨y, ⟨hy, ?_⟩, hk⟩
          rw [hk]
          simpa using old
      simp only [same]
      split
      · rfl
      · rw [List.filter_append, List.filter_cons_of_pos (by simpa using old), List.filter_nil,
          List.append_assoc]

/-- The first elements of each part, put together, have the first elements of the whole. -/
theorem firsts_flatMap_firsts (parts : List (List α)) :
    firsts key (parts.flatMap (firsts key)) = firsts key parts.flatten := by
  unfold firsts
  suffices ∀ kept, (parts.flatMap (firsts key)).foldl (addNew key) kept =
      parts.flatten.foldl (addNew key) kept from this []
  induction parts with
  | nil => exact fun _ => rfl
  | cons part parts ih =>
    intro kept
    rw [List.flatMap_cons, List.flatten_cons, List.foldl_append, List.foldl_append,
      foldl_addNew_firsts, ih]

end

theorem distinct_eq_firsts {α : Type} [DecidableEq α] (xs : List α) :
    distinct xs = firsts id xs := by
  unfold distinct firsts addNew
  simp

end SchemaBindings
