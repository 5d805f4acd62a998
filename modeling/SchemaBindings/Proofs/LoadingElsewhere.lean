import SchemaBindings.Proofs.FirstOccurrences
import SchemaBindings.Proofs.GenerationOutcome
import SchemaBindings.Proofs.TreePaths

/-!
# Loading from elsewhere

What is loaded from paths that lead elsewhere than the changes of a tree is loaded as before
(`Changes.loadExternal_eq`): the same files are found there, with the same contents.
-/

namespace SchemaBindings

namespace FileTree

variable {tree changed : FileTree} {written above : List Place} {way : List String} {base : Place}
  {path : String}

/-- The names in a tree are such as files can have. -/
def Named (tree : FileTree) : Prop :=
  ∀ listed ∈ tree.entries, ∀ name ∈ listed.1, Path.IsName name

instance (tree : FileTree) : Decidable tree.Named :=
  inferInstanceAs (Decidable (∀ listed ∈ tree.entries, ∀ name ∈ listed.1, Path.IsName name))

/-- A path that leads nowhere, being absolute, or goes on after a way to where no target stands,
neither there nor below. -/
def Aside (way : List String) (base : Place) (targets : List Place) (path : String) : Prop :=
  Path.isAbsolute path = true ∨
    ∃ names, GoesOn way names path ∧ ∀ target ∈ targets, ¬base ++ names <+: target

theorem place?_of_isAbsolute (absolute : Path.isAbsolute path = true) :
    tree.place? path = none := by
  unfold place?
  simp [absolute]

theorem aside_of_mem_walk (named : tree.Named) (leads : tree.LeadsTo way base)
    {targets : List Place} (aside : Aside way base targets path) {file : String}
    (mem : file ∈ tree.walk path) : Aside way base targets file := by
  unfold walk at mem
  cases found : tree.place? path with
  | none =>
    rw [found] at mem
    cases mem
  | some place =>
    rw [found] at mem
    obtain ⟨file_place, file_mem, rfl⟩ := List.mem_map.1 mem
    obtain ⟨below, bytes, listed⟩ := mem_filesBelow.1 file_mem
    rcases aside with absolute | ⟨names, on, outside⟩
    · rw [place?_of_isAbsolute absolute] at found
      cases found
    obtain ⟨⟨ne, -⟩, rfl, -⟩ := (place?_eq_some_iff on leads).1 found
    obtain ⟨⟨more, rfl⟩, -⟩ := isBelow_iff.1 below
    have more_names : ∀ name ∈ more, Path.IsName name := fun name mem =>
      named _ listed name (List.mem_append_right _ mem)
    rw [List.drop_left]
    obtain ⟨relative, parts⟩ := Path.parts_foldl_join ne on.relative more_names
    refine .inr ⟨names ++ more, ⟨relative, ?_, ?_⟩, ?_⟩
    · rw [parts, on.parts, List.append_assoc]
    · exact List.forall_mem_append.2 ⟨on.names, more_names⟩
    · intro target mem inside
      rw [← List.append_assoc] at inside
      exact outside target mem ((List.prefix_append _ more).trans inside)

theorem aside_of_filesAt (named : tree.Named) (leads : tree.LeadsTo way base)
    {targets : List Place} (aside : Aside way base targets path) {extensions files : List String}
    (ok : tree.filesAt extensions path = .ok files) {file : String} (mem : file ∈ files) :
    Aside way base targets file := by
  unfold filesAt at ok
  split at ok
  · cases ok
    rw [List.mem_singleton] at mem
    exact mem ▸ aside
  · split at ok
    · cases ok
      exact aside_of_mem_walk named leads aside (List.mem_filter.1 mem).1
    · cases ok

theorem distinctPaths_eq_firsts (paths : List String) :
    distinctPaths paths = firsts Path.parts paths := by
  have step : ∀ kept : List String, ∀ path, (if kept.any fun other =>
      Path.parts other == Path.parts path then kept else kept ++ [path]) =
        addNew Path.parts kept path := by
    intro kept path
    unfold addNew
    by_cases present : Path.parts path ∈ kept.map Path.parts
    · rw [if_pos present, if_pos (by simpa using present)]
    · rw [if_neg present, if_neg (by simpa using present)]
  unfold distinctPaths firsts
  simp only [step]

theorem distinctPaths_subset (paths : List String) : distinctPaths paths ⊆ paths :=
  distinctPaths_eq_firsts paths ▸ firsts_subset paths

theorem except_bind_eq_ok {ε α β : Type} {x : Except ε α} {f : α → Except ε β} {b : β} :
    (x >>= f) = .ok b ↔ ∃ a, x = .ok a ∧ f a = .ok b := by
  cases x <;> simp [bind, Except.bind]

theorem mapError_eq_ok {ε δ α : Type} {x : Except ε α} {wrap : ε → δ} {a : α} :
    x.mapError wrap = .ok a ↔ x = .ok a := by
  cases x <;> simp [Except.mapError]

theorem exists_of_mem_mapM {ε α β : Type} {f : α → Except ε β} {items : List α} {made : List β}
    (ok : items.mapM f = .ok made) {b : β} (mem : b ∈ made) : ∃ a ∈ items, f a = .ok b := by
  induction items generalizing made with
  | nil =>
    cases ok
    cases mem
  | cons a rest ih =>
    rw [List.mapM_cons] at ok
    obtain ⟨head, first, ok⟩ := except_bind_eq_ok.1 ok
    obtain ⟨tail, others, ok⟩ := except_bind_eq_ok.1 ok
    cases ok
    rcases List.mem_cons.1 mem with rfl | mem
    · exact ⟨a, List.mem_cons_self, first⟩
    · obtain ⟨later, later_mem, made⟩ := ih others mem
      exact ⟨later, List.mem_cons_of_mem _ later_mem, made⟩

theorem aside_of_findFiles (named : tree.Named) (leads : tree.LeadsTo way base)
    {targets : List Place} {extensions paths files : List String}
    (aside : ∀ path ∈ paths, Aside way base targets path)
    (ok : tree.findFiles extensions paths = .ok files) {file : String} (mem : file ∈ files) :
    Aside way base targets file := by
  obtain ⟨lists, found, ok⟩ := except_bind_eq_ok.1 ok
  cases ok
  obtain ⟨list, list_mem, mem⟩ := List.mem_flatten.1 (distinctPaths_subset _ mem)
  obtain ⟨path, path_mem, ok⟩ := exists_of_mem_mapM found list_mem
  exact aside_of_filesAt named leads (aside path path_mem) ok mem

namespace Changes

variable (changes : Changes written above tree changed) (leads : tree.LeadsTo way base)

include changes leads

theorem find?_eq_of_aside (aside : Aside way base (written ++ above) path) :
    changed.find? path = tree.find? path := by
  rcases aside with absolute | ⟨names, on, outside⟩
  · unfold find?
    rw [place?_of_isAbsolute absolute, place?_of_isAbsolute absolute]
    rfl
  · exact changes.find?_eq leads on outside

theorem walk_eq (aside : Aside way base (written ++ above) path)
    (present : tree.hasEntry path = true) : changed.walk path = tree.walk path := by
  obtain ⟨entry, found⟩ := Option.isSome_iff_exists.1 present
  obtain ⟨place, reached, -⟩ := Option.bind_eq_some_iff.1 found
  rcases aside with absolute | ⟨names, on, outside⟩
  · rw [place?_of_isAbsolute absolute] at reached
    cases reached
  · unfold walk
    rw [reached, changes.place?_eq reached]
    obtain ⟨-, rfl, -⟩ := (place?_eq_some_iff on leads).1 reached
    have files := changes.below (base ++ names) fun target mem => by
      refine Bool.eq_false_iff.2 fun below => ?_
      exact outside target (List.mem_append_left _ mem) (isBelow_iff.1 below).1
    dsimp only
    rw [files]

theorem filesAt_eq (extensions : List String) (aside : Aside way base (written ++ above) path) :
    changed.filesAt extensions path = tree.filesAt extensions path := by
  have found := changes.find?_eq_of_aside leads aside
  have is_file : changed.isFile path = tree.isFile path := by
    unfold isFile content?
    rw [found]
  have has_entry : changed.hasEntry path = tree.hasEntry path := by
    unfold hasEntry
    rw [found]
  unfold filesAt
  rw [is_file, has_entry]
  split
  · rfl
  · split
    · rename_i present
      rw [changes.walk_eq leads aside present]
    · rfl

theorem loadDocument_eq (aside : Aside way base (written ++ above) path) :
    changed.loadDocument path = tree.loadDocument path := by
  unfold loadDocument loadText readText content?
  rw [changes.find?_eq_of_aside leads aside]

/-- From paths aside, the same fragments are loaded, or the same error is met. -/
theorem loadExternal_eq (named : tree.Named) (extensions : List String) {paths : List String}
    (aside : ∀ path ∈ paths, Aside way base (written ++ above) path) :
    changed.loadExternal extensions paths = tree.loadExternal extensions paths := by
  have found : changed.findFiles extensions paths = tree.findFiles extensions paths := by
    unfold findFiles
    rw [mapM_congr_of_mem fun path mem => changes.filesAt_eq leads extensions (aside path mem)]
  unfold loadExternal loadDocuments
  rw [found]
  cases ok : tree.findFiles extensions paths with
  | error error => rfl
  | ok files =>
    have read : files.mapM changed.loadDocument = files.mapM tree.loadDocument :=
      mapM_congr_of_mem fun file mem =>
        changes.loadDocument_eq leads (aside_of_findFiles named leads aside ok mem)
    show (files.mapM changed.loadDocument >>= _) = (files.mapM tree.loadDocument >>= _)
    rw [read]

end Changes

end FileTree

end SchemaBindings
