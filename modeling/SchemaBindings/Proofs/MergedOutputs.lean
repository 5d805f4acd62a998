import SchemaBindings.Plugin
import SchemaBindings.Proofs.FirstOccurrences

/-!
# Merged outputs

What merging makes of the outputs of several plugins (`IsMerged`): each header line once, where it
first occurs, and the contents that are not blank. Outputs may be merged in groups first; the result
is the same (`merge_grouped`), since what a group has been merged to ends in no blank and is empty
only where nothing is to be written.
-/

namespace SchemaBindings

namespace Text

/-! ## Trimmed texts -/

theorem trimEnd_append (front : String) {back : String} (h : trimEnd back ≠ "") :
    trimEnd (front ++ back) = front ++ trimEnd back := by
  have left : trimEndChars back.toList ≠ [] := by
    intro nothing
    rw [trimEnd, nothing] at h
    exact h rfl
  unfold trimEnd
  rw [String.toList_append, trimEndChars_append _ left, String.ofList_append, String.ofList_toList]

theorem trimEnd_idem (text : String) : trimEnd (trimEnd text) = trimEnd text := by
  unfold trimEnd
  rw [String.toList_ofList, trimEndChars_idem]

theorem trimEnd_eq_empty_iff (text : String) :
    trimEnd text = "" ↔ ∀ c ∈ text.toList, isBlank c = true := by
  rw [← trimEndChars_eq_nil, trimEnd, ← String.toList_eq_nil_iff, String.toList_ofList]

/-! ## Joined pieces -/

/-- A text that trimming leaves as it is, and that is not empty. -/
structure IsPiece (text : String) : Prop where
  trimmed : trimEnd text = text
  ne_empty : text ≠ ""

/-- Pieces that are joined are such a piece themselves, if there are any. -/
theorem IsPiece.intercalate (sep : String) {pieces : List String} (ne : pieces ≠ [])
    (h : ∀ piece ∈ pieces, IsPiece piece) : IsPiece (sep.intercalate pieces) := by
  induction pieces with
  | nil => exact absurd rfl ne
  | cons piece rest ih =>
    obtain ⟨first, others⟩ := List.forall_mem_cons.1 h
    cases rest with
    | nil => rwa [String.intercalate_singleton]
    | cons next rest =>
      have later := ih (by simp) others
      rw [String.intercalate_cons_cons]
      refine ⟨?_, fun empty => later.ne_empty (String.append_eq_empty_iff.1 empty).2⟩
      rw [trimEnd_append _ (later.trimmed.symm ▸ later.ne_empty), later.trimmed]

/-- Groups of pieces may be joined group by group, where no group is empty. -/
theorem intercalate_map_intercalate (sep : String) {groups : List (List String)}
    (h : ∀ group ∈ groups, group ≠ []) :
    sep.intercalate (groups.map sep.intercalate) = sep.intercalate groups.flatten := by
  induction groups with
  | nil => rfl
  | cons group rest ih =>
    obtain ⟨first, others⟩ := List.forall_mem_cons.1 h
    cases rest with
    | nil => simp
    | cons next rest =>
      have behind : (next :: rest).flatten ≠ [] := by
        rw [List.flatten_cons]
        exact List.append_ne_nil_of_left_ne_nil (others next List.mem_cons_self) _
      rw [List.flatten_cons, String.intercalate_append_of_ne_nil first behind, ← ih others,
        List.map_cons, List.map_cons, String.intercalate_cons_cons]

end Text

open Text

namespace PluginOutput

/-! ## Merging -/

/-- What is written of the contents of outputs: each without the blanks at its end, and without
those that are blank. -/
def pieces (outputs : List PluginOutput) : List String :=
  (outputs.map fun output => trimEnd output.content).filter (!·.isEmpty)

theorem content_merge (outputs : List PluginOutput) :
    (merge outputs).content = "\n\n".intercalate (pieces outputs) := rfl

theorem header_merge (outputs : List PluginOutput) :
    (merge outputs).header = firsts id (outputs.flatMap (·.header)) := distinct_eq_firsts _

theorem pieces_append (front back : List PluginOutput) :
    pieces (front ++ back) = pieces front ++ pieces back := by
  unfold pieces
  rw [List.map_append, List.filter_append]

theorem isPiece_of_mem_pieces {outputs : List PluginOutput} {piece : String}
    (h : piece ∈ pieces outputs) : IsPiece piece := by
  obtain ⟨mem, ne⟩ := List.mem_filter.1 h
  obtain ⟨output, -, rfl⟩ := List.mem_map.1 mem
  exact ⟨trimEnd_idem _, by simpa using ne⟩

theorem pieces_eq_nil_iff (outputs : List PluginOutput) :
    pieces outputs = [] ↔ ∀ output ∈ outputs, ∀ c ∈ output.content.toList, isBlank c = true := by
  simp [pieces, List.filter_eq_nil_iff, ← trimEnd_eq_empty_iff]

theorem content_merge_eq_empty_iff (outputs : List PluginOutput) :
    (merge outputs).content = "" ↔ pieces outputs = [] := by
  rw [content_merge]
  constructor
  · intro empty
    by_contra ne
    exact (IsPiece.intercalate "\n\n" ne fun _ => isPiece_of_mem_pieces).ne_empty empty
  · intro nothing
    rw [nothing, String.intercalate_nil]

theorem trimEnd_content_merge (outputs : List PluginOutput) :
    trimEnd (merge outputs).content = (merge outputs).content := by
  rw [content_merge]
  by_cases nothing : pieces outputs = []
  · rw [nothing, String.intercalate_nil]
    rfl
  · exact (IsPiece.intercalate "\n\n" nothing fun _ => isPiece_of_mem_pieces).trimmed

/-- What is written of merged groups: the pieces of each group joined, where it has any. -/
theorem pieces_map_merge (groups : List (List PluginOutput)) :
    pieces (groups.map merge) =
      ((groups.map pieces).filter fun group => group ≠ []).map "\n\n".intercalate := by
  induction groups with
  | nil => rfl
  | cons group rest ih =>
    have first : pieces [merge group] =
        (([group].map pieces).filter fun group => group ≠ []).map "\n\n".intercalate := by
      have empty := content_merge_eq_empty_iff group
      have only : pieces [merge group] = [(merge group).content].filter (!·.isEmpty) := by
        unfold pieces
        rw [List.map_singleton, trimEnd_content_merge]
      rw [only, List.map_singleton]
      by_cases nothing : pieces group = []
      · simp [empty.2 nothing, nothing]
      · rw [List.filter_cons_of_pos (by simpa using mt empty.1 nothing),
          List.filter_cons_of_pos (by simpa using nothing)]
        rfl
    rw [List.map_cons, ← List.singleton_append, pieces_append, ih, first, ← List.map_append,
      ← List.filter_append, ← List.map_append, List.singleton_append]

theorem flatten_map_pieces (groups : List (List PluginOutput)) :
    (groups.map pieces).flatten = pieces groups.flatten := by
  unfold pieces
  rw [List.map_flatten, List.filter_flatten, List.map_map]
  rfl

theorem merge_map_merge (groups : List (List PluginOutput)) :
    merge (groups.map merge) = merge groups.flatten := by
  have header : (merge (groups.map merge)).header = (merge groups.flatten).header := by
    have parts : (groups.map merge).flatMap (·.header) =
        (groups.map fun group => group.flatMap (·.header)).flatMap (firsts id) := by
      rw [List.flatMap_map, List.flatMap_map]
      exact List.flatMap_congr fun group _ => header_merge group
    have whole : (groups.map fun group => group.flatMap (·.header)).flatten =
        groups.flatten.flatMap (·.header) := by
      rw [← List.flatMap_def, List.flatten_eq_flatMap, List.flatMap_assoc]
      rfl
    rw [header_merge, header_merge, parts, firsts_flatMap_firsts, whole]
  have content : (merge (groups.map merge)).content = (merge groups.flatten).content := by
    rw [content_merge, content_merge, pieces_map_merge, intercalate_map_intercalate,
      List.flatten_filter_ne_nil, flatten_map_pieces]
    exact fun group mem => by simpa using (List.mem_filter.1 mem).2
  cases h : merge (groups.map merge)
  cases h' : merge groups.flatten
  rw [h, h'] at header content
  rw [mk.injEq]
  exact ⟨content, header⟩

/-- What outputs are merged to. Its header has each header line once, in the order in which these
first occur; its content does not end in a blank, and is empty only where all contents are blank. -/
structure IsMerged (outputs : List PluginOutput) (merged : PluginOutput) : Prop where
  header : ∀ line, line ∈ merged.header ↔ ∃ output ∈ outputs, line ∈ output.header
  once : merged.header.Nodup
  ordered : merged.header.Pairwise fun line next =>
    (outputs.flatMap (·.header)).idxOf line < (outputs.flatMap (·.header)).idxOf next
  trimmed : EndsInNoBlank merged.content.toList
  empty : merged.content = "" ↔
    ∀ output ∈ outputs, ∀ c ∈ output.content.toList, isBlank c = true

theorem isMerged_merge (outputs : List PluginOutput) : IsMerged outputs (merge outputs) where
  header line := by
    rw [header_merge, ← List.mem_flatMap]
    refine ⟨fun mem => firsts_subset _ mem, fun mem => ?_⟩
    obtain ⟨first, kept, rfl⟩ : ∃ first ∈ firsts id (outputs.flatMap (·.header)), first = line :=
      exists_mem_firsts mem
    exact kept
  once := by
    have distinct : ((firsts id (outputs.flatMap (·.header))).map id).Nodup := nodup_firsts _
    rwa [List.map_id, ← header_merge] at distinct
  ordered := by
    have later := @pairwise_firsts _ _ _ id (outputs.flatMap (·.header))
    rwa [List.map_id, ← header_merge] at later
  trimmed := by
    rw [← trimEnd_content_merge, trimEnd, String.toList_ofList]
    exact endsInNoBlank_trimEndChars _
  empty := (content_merge_eq_empty_iff outputs).trans (pieces_eq_nil_iff outputs)

/-- Merging outputs group by group makes the same file as merging them at once. -/
theorem merge_grouped (groups : List (List PluginOutput)) :
    merge (groups.map merge) = merge groups.flatten ∧
      (merge (groups.map merge)).render = (merge groups.flatten).render ∧
      IsMerged groups.flatten (merge (groups.map merge)) := by
  have same := merge_map_merge groups
  exact ⟨same, congrArg render same, same ▸ isMerged_merge groups.flatten⟩

end PluginOutput

end SchemaBindings
