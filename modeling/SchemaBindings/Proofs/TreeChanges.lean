import Mathlib.Data.List.Basic
import SchemaBindings.Project.FileTree

/-!
# Changes of trees

What making directories and writing files changes in a tree, and what it leaves as it is.
-/

namespace SchemaBindings

namespace FileTree

variable {tree : FileTree} {place above : Place} {entry : FileEntry}

/-! ## What stands at a place -/

theorem isBelow_iff : isBelow above place = true ↔ above <+: place ∧ above ≠ place := by
  unfold isBelow
  simp

@[simp] theorem entry?_nil : tree.entry? [] = some .directory := rfl

theorem hasDirectory_iff : tree.hasDirectory place = true ↔ tree.entry? place = some .directory :=
  beq_iff_eq

/-- What is listed for a place. -/
def listed? (tree : FileTree) (place : Place) : Option FileEntry :=
  (tree.entries.find? (·.1 == place)).map (·.2)

/-- Whether something is listed below a place. -/
def hasBelow (tree : FileTree) (place : Place) : Bool :=
  tree.entries.any fun other => isBelow place other.1

theorem entry?_of_ne_nil (ne : place ≠ []) : tree.entry? place =
    (tree.listed? place).or (if tree.hasBelow place then some .directory else none) := by
  unfold entry? listed? hasBelow
  rw [if_neg (by simpa using ne)]
  cases tree.entries.find? (·.1 == place) <;> rfl

theorem listed?_eq_none_iff :
    tree.listed? place = none ↔ ∀ listed ∈ tree.entries, listed.1 ≠ place := by
  simp [listed?]

theorem hasBelow_eq_true_iff :
    tree.hasBelow place = true ↔ ∃ listed ∈ tree.entries, isBelow place listed.1 = true := by
  simp [hasBelow]

theorem entry?_eq_none_iff (ne : place ≠ []) :
    tree.entry? place = none ↔ ∀ listed ∈ tree.entries, ¬place <+: listed.1 := by
  rw [entry?_of_ne_nil ne, Option.or_eq_none_iff, listed?_eq_none_iff]
  constructor
  · rintro ⟨apart, nothing⟩ listed mem inside
    have below : tree.hasBelow place = true :=
      hasBelow_eq_true_iff.2 ⟨listed, mem, isBelow_iff.2 ⟨inside, (apart listed mem).symm⟩⟩
    rw [below] at nothing
    cases nothing
  · intro outside
    refine ⟨fun listed mem same => outside listed mem (same ▸ List.prefix_rfl), if_neg ?_⟩
    intro below
    obtain ⟨listed, mem, inside⟩ := hasBelow_eq_true_iff.1 below
    exact outside listed mem (isBelow_iff.1 inside).1

theorem entry?_eq_none_of_prefix (h : tree.entry? above = none) (below : above <+: place) :
    tree.entry? place = none := by
  have above_ne : above ≠ [] := by
    rintro rfl
    cases h
  have place_ne : place ≠ [] := by
    rintro rfl
    exact above_ne (List.prefix_nil.1 below)
  rw [entry?_eq_none_iff above_ne] at h
  rw [entry?_eq_none_iff place_ne]
  exact fun listed mem inside => h listed mem (below.trans inside)

/-! ## Putting an entry at a place -/

/-- Putting an entry at a place replaces what is listed there, or lists it at the end. -/
theorem entries_put (tree : FileTree) (place : Place) (entry : FileEntry) :
    (∃ listed ∈ tree.entries, listed.1 = place) ∧
      (tree.put place entry).entries = tree.entries.map (fun listed =>
        (listed.1, if listed.1 = place then entry else listed.2)) ∨
    (∀ listed ∈ tree.entries, listed.1 ≠ place) ∧
      (tree.put place entry).entries = tree.entries ++ [(place, entry)] := by
  unfold put
  split
  · rename_i present
    refine .inl ⟨by simpa using present, List.map_congr_left fun listed _ => ?_⟩
    obtain ⟨other, old⟩ := listed
    by_cases same : other = place <;> simp [same]
  · rename_i absent
    refine .inr ⟨fun listed mem same => absent ?_, rfl⟩
    exact List.any_eq_true.2 ⟨listed, mem, beq_iff_eq.2 same⟩

theorem listed?_put (other : Place) : (tree.put place entry).listed? other =
    if other = place then some entry else tree.listed? other := by
  rcases entries_put tree place entry with ⟨⟨listed, mem, rfl⟩, entries⟩ | ⟨absent, entries⟩
  · have replaced : (tree.put listed.1 entry).listed? other =
        (tree.listed? other).map fun old => if other = listed.1 then entry else old := by
      unfold listed?
      rw [entries, List.find?_map, Option.map_map, Option.map_map]
      show (tree.entries.find? (·.1 == other)).map _ = _
      cases found : tree.entries.find? (·.1 == other) with
      | none => rfl
      | some listed =>
        have same := List.find?_some found
        obtain rfl : listed.1 = other := beq_iff_eq.1 same
        rfl
    rw [replaced]
    split
    · rename_i same
      have present : tree.listed? other ≠ none := fun nothing =>
        listed?_eq_none_iff.1 nothing listed mem same.symm
      obtain ⟨old, present⟩ := Option.ne_none_iff_exists'.1 present
      rw [present]
      rfl
    · exact Option.map_id'
  · unfold listed?
    rw [entries, List.find?_append]
    split
    · rename_i same
      subst same
      have nothing : tree.entries.find? (·.1 == other) = none :=
        List.find?_eq_none.2 fun listed mem => by simpa using absent listed mem
      rw [nothing]
      simp
    · rename_i apart
      simp [Ne.symm apart]

theorem hasBelow_put (other : Place) :
    (tree.put place entry).hasBelow other = (tree.hasBelow other || isBelow other place) := by
  unfold hasBelow
  rcases entries_put tree place entry with ⟨⟨listed, mem, rfl⟩, entries⟩ | ⟨absent, entries⟩
  · rw [entries, List.any_map]
    show tree.hasBelow other = _
    cases below : isBelow other listed.1 with
    | false => rw [Bool.or_false]; rfl
    | true => rw [Bool.or_true, hasBelow_eq_true_iff.2 ⟨listed, mem, below⟩]
  · rw [entries, List.any_append]
    simp

/-- Where an entry is put into a directory, nothing else changes. -/
theorem entry?_put (entry : FileEntry) (directory : tree.hasDirectory place.dropLast = true)
    (ne : place ≠ []) (other : Place) : FileTree.entry? (tree.put place entry) other =
      if other = place then some entry else tree.entry? other := by
  by_cases root : other = []
  · subst root
    rw [entry?_nil, if_neg (Ne.symm ne), entry?_nil]
  rw [entry?_of_ne_nil root, entry?_of_ne_nil root, listed?_put, hasBelow_put]
  split
  · rfl
  · rename_i apart
    cases below : isBelow other place with
    | false => rw [Bool.or_false]
    | true =>
      -- the way to a directory is listed or has something listed below it
      have inside : other <+: place.dropLast := by
        obtain ⟨prefixed, -⟩ := isBelow_iff.1 below
        rw [← List.dropLast_append_getLast ne, List.prefix_concat_iff] at prefixed
        rw [List.dropLast_append_getLast ne] at prefixed
        exact prefixed.resolve_left apart
      have stands : tree.entry? other ≠ none := by
        intro nothing
        have := entry?_eq_none_of_prefix nothing inside
        rw [hasDirectory_iff.1 directory] at this
        cases this
      rw [entry?_of_ne_nil root] at stands
      cases listed : tree.listed? other with
      | some present => rfl
      | none =>
        rw [listed] at stands
        cases has : tree.hasBelow other with
        | true => rfl
        | false => simp [has] at stands

/-- The place of a listed file below a place. -/
def fileBelow? (above : Place) (listed : Place × FileEntry) : Option Place :=
  match listed.2 with
  | .file _ => if isBelow above listed.1 then some listed.1 else none
  | .directory => none

theorem filesBelow_eq : tree.filesBelow above =
    (tree.entries.filterMap (fileBelow? above)).mergeSort placeBefore := rfl

theorem mem_filesBelow : place ∈ tree.filesBelow above ↔
    isBelow above place = true ∧ ∃ bytes, (place, .file bytes) ∈ tree.entries := by
  rw [filesBelow_eq, List.mem_mergeSort, List.mem_filterMap]
  constructor
  · rintro ⟨⟨other, entry⟩, mem, kept⟩
    unfold fileBelow? at kept
    split at kept
    · rename_i bytes is_file
      split at kept
      · rename_i below
        cases kept
        exact ⟨below, bytes, is_file ▸ mem⟩
      · cases kept
    · cases kept
  · rintro ⟨below, bytes, mem⟩
    exact ⟨_, mem, if_pos below⟩

theorem filesBelow_put_of_not_below (outside : isBelow above place = false) :
    (tree.put place entry).filesBelow above = tree.filesBelow above := by
  have nothing : ∀ entry, fileBelow? above (place, entry) = none := by
    intro entry
    unfold fileBelow?
    cases entry <;> simp [outside]
  rw [filesBelow_eq, filesBelow_eq]
  congr 1
  rcases entries_put tree place entry with ⟨-, entries⟩ | ⟨-, entries⟩
  · rw [entries, List.filterMap_map]
    refine List.filterMap_congr fun listed _ => ?_
    by_cases same : listed.1 = place
    · obtain ⟨other, old⟩ := listed
      subst same
      exact (nothing _).trans (nothing _).symm
    · simp [same]
  · rw [entries, List.filterMap_append, List.filterMap_cons_none (nothing entry)]
    exact List.append_nil _

theorem filesBelow_put_directory (nothing : tree.entry? place = none) (above : Place) :
    (tree.put place .directory).filesBelow above = tree.filesBelow above := by
  have ne : place ≠ [] := by
    rintro rfl
    cases nothing
  rw [filesBelow_eq, filesBelow_eq]
  rcases entries_put tree place .directory with
    ⟨⟨listed, mem, same⟩, -⟩ | ⟨-, entries⟩
  · exact absurd (same ▸ List.prefix_rfl) ((entry?_eq_none_iff ne).1 nothing listed mem)
  · rw [entries, List.filterMap_append]
    exact congrArg (·.mergeSort placeBefore) (List.append_nil _)

/-! ## Changes -/

/-- What `changed` may differ in from `tree`: files that are written, and directories that are made
above some places. -/
structure Changes (written above : List Place) (tree changed : FileTree) : Prop where
  /-- Any other place is as before, or a directory on the way where nothing was. -/
  entry : ∀ place ∉ written, changed.entry? place = tree.entry? place ∨
    tree.entry? place = none ∧ changed.entry? place = some .directory ∧
      ∃ target ∈ above, isBelow place target = true
  file : ∀ place ∈ written, ∃ bytes, changed.entry? place = some (.file bytes)
  directory : ∀ place, tree.hasDirectory place = true → changed.hasDirectory place = true
  below : ∀ place, (∀ target ∈ written, isBelow place target = false) →
    changed.filesBelow place = tree.filesBelow place

namespace Changes

variable {written above later higher : List Place} {changed last : FileTree}

protected theorem refl (above : List Place) (tree : FileTree) : Changes [] above tree tree where
  entry _ _ := .inl rfl
  file _ mem := absurd mem List.not_mem_nil
  directory _ h := h
  below _ _ := rfl

protected theorem trans (first : Changes written above tree changed)
    (second : Changes later higher changed last) :
    Changes (written ++ later) (above ++ higher) tree last where
  entry := by
    intro place apart
    rw [List.mem_append, not_or] at apart
    rcases first.entry place apart.1 with same | ⟨nothing, made, target, mem, below⟩
    · rcases second.entry place apart.2 with again | ⟨nothing, made, target, mem, below⟩
      · exact .inl (again.trans same)
      · exact .inr ⟨same ▸ nothing, made, target, List.mem_append_right _ mem, below⟩
    · have kept := second.directory place (hasDirectory_iff.2 made)
      exact .inr ⟨nothing, hasDirectory_iff.1 kept, target, List.mem_append_left _ mem, below⟩
  file := by
    intro place mem
    by_cases again : place ∈ later
    · exact second.file place again
    · obtain ⟨bytes, present⟩ := first.file place ((List.mem_append.1 mem).resolve_right again)
      rcases second.entry place again with same | ⟨nothing, -⟩
      · exact ⟨bytes, same.trans present⟩
      · rw [present] at nothing
        cases nothing
  directory := fun place h => second.directory place (first.directory place h)
  below := by
    intro place outside
    rw [second.below place fun target mem => outside target (List.mem_append_right _ mem),
      first.below place fun target mem => outside target (List.mem_append_left _ mem)]

theorem of_subset (changes : Changes written above tree changed) (subset : above ⊆ higher) :
    Changes written higher tree changed where
  entry := by
    intro place apart
    rcases changes.entry place apart with same | ⟨nothing, made, target, mem, below⟩
    · exact .inl same
    · exact .inr ⟨nothing, made, target, subset mem, below⟩
  file := changes.file
  directory := changes.directory
  below := changes.below

theorem makeDirectory {target : Place} (directory : tree.hasDirectory place.dropLast = true)
    (nothing : tree.entry? place = none) (below : isBelow place target = true) :
    Changes [] [target] tree (tree.put place .directory) := by
  have ne : place ≠ [] := by
    rintro rfl
    cases nothing
  have entries := entry?_put .directory directory ne
  constructor
  · intro other _
    rw [entries]
    split
    · rename_i same
      subst same
      exact .inr ⟨nothing, rfl, target, List.mem_singleton_self _, below⟩
    · exact .inl rfl
  · exact fun _ mem => absurd mem List.not_mem_nil
  · intro other present
    rw [hasDirectory_iff, entries]
    split
    · rfl
    · exact hasDirectory_iff.1 present
  · exact fun other _ => filesBelow_put_directory nothing other

theorem writeFile (bytes : ByteArray) (directory : tree.hasDirectory place.dropLast = true)
    (ne : place ≠ []) (noDirectory : tree.entry? place ≠ some .directory) :
    Changes [place] [place] tree (tree.put place (.file bytes)) := by
  have entries := entry?_put (.file bytes) directory ne
  constructor
  · intro other apart
    rw [entries, if_neg (List.ne_of_not_mem_cons apart)]
    exact .inl rfl
  · intro other mem
    rw [List.mem_singleton] at mem
    subst mem
    exact ⟨bytes, (entries other).trans (if_pos rfl)⟩
  · intro other present
    rw [hasDirectory_iff] at present ⊢
    rw [entries, if_neg, present]
    rintro rfl
    exact noDirectory present
  · exact fun other outside =>
      filesBelow_put_of_not_below (outside place (List.mem_singleton_self _))

end Changes

end FileTree

end SchemaBindings
