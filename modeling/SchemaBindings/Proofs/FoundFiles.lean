import SchemaBindings.Proofs.LoadingElsewhere

/-!
# Found files

Which files are found for a list of paths (`Finds`): those that are listed themselves, and those
below listed directories whose extension is asked for, no path twice. A path that names nothing
makes the search fail, and further paths only add files behind those found before
(`findFiles_finds`).
-/

namespace SchemaBindings

namespace FileTree

variable {tree : FileTree} {extensions paths : List String} {path file : String}

/-! ## What stands below a directory -/

/-- Every place is listed once. -/
def HasDistinctPlaces (tree : FileTree) : Prop := (tree.entries.map Prod.fst).Nodup

instance (tree : FileTree) : Decidable tree.HasDistinctPlaces :=
  inferInstanceAs (Decidable (List.Nodup _))

/-- A file is below the directory that a path names, at any depth. Its path is that of the directory
with the names on the way to the file behind it. -/
def HasFileBelow (tree : FileTree) (directory file : String) : Prop :=
  tree.find? directory = some .directory ∧
    ∃ place names bytes, tree.place? directory = some place ∧ names ≠ [] ∧
      tree.entry? (place ++ names) = some (.file bytes) ∧ file = names.foldl Path.join directory

theorem listed?_eq_lookup (tree : FileTree) (place : Place) :
    tree.listed? place = OrderedMap.lookup place tree.entries := by
  unfold listed?
  induction tree.entries with
  | nil => rfl
  | cons listed rest ih =>
    obtain ⟨other, entry⟩ := listed
    rw [List.find?_cons, OrderedMap.lookup, ← ih]
    by_cases same : other = place
    · simp [same]
    · simp only [beq_false_of_ne same, if_neg same]

theorem entry?_eq_some_file_iff (distinct : tree.HasDistinctPlaces) {place : Place}
    (ne : place ≠ []) {bytes : ByteArray} : tree.entry? place = some (.file bytes) ↔
      (place, .file bytes) ∈ tree.entries := by
  rw [OrderedMap.mem_iff_lookup distinct, ← listed?_eq_lookup, entry?_of_ne_nil ne]
  cases tree.listed? place with
  | some entry => rfl
  | none => cases tree.hasBelow place <;> simp

theorem mem_walk_iff (distinct : tree.HasDistinctPlaces)
    (directory : tree.find? path = some .directory) :
    file ∈ tree.walk path ↔ tree.HasFileBelow path file := by
  obtain ⟨place, reached, -⟩ := Option.bind_eq_some_iff.1 directory
  unfold walk HasFileBelow
  rw [reached, List.mem_map]
  simp only [directory, true_and, Option.some.injEq]
  constructor
  · rintro ⟨whole, mem, rfl⟩
    obtain ⟨below, bytes, listed⟩ := mem_filesBelow.1 mem
    obtain ⟨⟨names, rfl⟩, apart⟩ := isBelow_iff.1 below
    have names_ne : names ≠ [] := by
      rintro rfl
      exact apart (List.append_nil place).symm
    have ne := List.append_ne_nil_of_right_ne_nil place names_ne
    exact ⟨place, names, bytes, rfl, names_ne, (entry?_eq_some_file_iff distinct ne).2 listed,
      by rw [List.drop_left]⟩
  · rintro ⟨_, names, bytes, rfl, names_ne, stands, rfl⟩
    have ne := List.append_ne_nil_of_right_ne_nil place names_ne
    refine ⟨place ++ names, mem_filesBelow.2 ⟨isBelow_iff.2 ⟨List.prefix_append _ _, ?_⟩, bytes,
      (entry?_eq_some_file_iff distinct ne).1 stands⟩, by rw [List.drop_left]⟩
    exact fun same => names_ne (List.self_eq_append_right.1 same)

/-! ## The files of one path -/

/-- The files that a path stands for, if it names anything. -/
def filesOf (tree : FileTree) (extensions : List String) (path : String) : List String :=
  if tree.isFile path then [path] else (tree.walk path).filter (hasExtension extensions)

theorem filesAt_of_hasEntry (present : tree.hasEntry path = true) :
    tree.filesAt extensions path = .ok (tree.filesOf extensions path) := by
  unfold filesAt filesOf
  rw [present]
  cases tree.isFile path <;> rfl

theorem isFile_iff : tree.isFile path = true ↔ ∃ bytes, tree.find? path = some (.file bytes) := by
  unfold isFile content?
  cases tree.find? path with
  | none => simp
  | some entry => cases entry <;> simp

theorem hasEntry_iff : tree.hasEntry path = true ↔
    tree.isFile path = true ∨ tree.find? path = some .directory := by
  rw [isFile_iff, hasEntry]
  cases tree.find? path with
  | none => simp
  | some entry => cases entry <;> simp

theorem filesAt_of_not_hasEntry (absent : tree.hasEntry path = false) :
    tree.filesAt extensions path = .error (.pathNotFound path) := by
  have no_file : tree.isFile path = false := by
    refine Bool.eq_false_iff.2 fun is_file => ?_
    rw [hasEntry_iff.2 (.inl is_file)] at absent
    cases absent
  unfold filesAt
  rw [no_file, absent]
  rfl

theorem hasExtension_iff : hasExtension extensions path = true ↔
    ∃ extension ∈ extensions, Path.extension? path = some extension := by
  unfold hasExtension
  cases Path.extension? path <;> simp

theorem mem_filesOf_iff (distinct : tree.HasDistinctPlaces) (present : tree.hasEntry path = true) :
    file ∈ tree.filesOf extensions path ↔
      (tree.isFile path = true ∧ file = path) ∨
        tree.HasFileBelow path file ∧
          ∃ extension ∈ extensions, Path.extension? file = some extension := by
  unfold filesOf
  rcases hasEntry_iff.1 present with is_file | directory
  · have no_directory : ¬tree.HasFileBelow path file := by
      rintro ⟨directory, -⟩
      obtain ⟨bytes, found⟩ := isFile_iff.1 is_file
      rw [found] at directory
      cases directory
    simp [is_file, no_directory]
  · have no_file : tree.isFile path = false := by
      refine Bool.eq_false_iff.2 fun is_file => ?_
      obtain ⟨bytes, found⟩ := isFile_iff.1 is_file
      rw [found] at directory
      cases directory
    simp [no_file, List.mem_filter, mem_walk_iff distinct directory, hasExtension_iff]

/-! ## The files of all paths -/

theorem mapM_filesAt (present : ∀ path ∈ paths, tree.hasEntry path = true) :
    paths.mapM (tree.filesAt extensions) = .ok (paths.map (tree.filesOf extensions)) := by
  induction paths with
  | nil => rfl
  | cons path rest ih =>
    obtain ⟨first, others⟩ := List.forall_mem_cons.1 present
    rw [List.mapM_cons, filesAt_of_hasEntry first, ih others]
    rfl

/-- Where every path names something, the files of all of them are found. -/
theorem findFiles_of_present (present : ∀ path ∈ paths, tree.hasEntry path = true) :
    tree.findFiles extensions paths =
      .ok (firsts Path.parts (paths.flatMap (tree.filesOf extensions))) := by
  unfold findFiles
  rw [mapM_filesAt present, List.flatMap_def, ← distinctPaths_eq_firsts]
  rfl

/-- The search fails at the first path that names nothing. -/
theorem findFiles_of_missing {before after : List String}
    (present : ∀ path ∈ before, tree.hasEntry path = true)
    (absent : tree.hasEntry path = false) :
    tree.findFiles extensions (before ++ path :: after) = .error (.pathNotFound path) := by
  unfold findFiles
  rw [List.mapM_append, mapM_filesAt present, List.mapM_cons, filesAt_of_not_hasEntry absent]
  rfl

/-- What is found for paths that all name something: every listed file, whatever its extension, and
every file below a listed directory with one of the extensions, and nothing else; of paths that are
the same, only one. -/
structure Finds (tree : FileTree) (extensions paths files : List String) : Prop where
  distinct : files.Pairwise fun file other => Path.parts file ≠ Path.parts other
  listed : ∀ path ∈ paths, tree.isFile path = true →
    ∃ file ∈ files, Path.parts file = Path.parts path
  below : ∀ directory ∈ paths, ∀ file, tree.HasFileBelow directory file →
    (∃ extension ∈ extensions, Path.extension? file = some extension) →
      ∃ other ∈ files, Path.parts other = Path.parts file
  sound : ∀ file ∈ files, (file ∈ paths ∧ tree.isFile file = true) ∨
    ∃ directory ∈ paths, tree.HasFileBelow directory file ∧
      ∃ extension ∈ extensions, Path.extension? file = some extension

theorem finds_firsts (distinct : tree.HasDistinctPlaces)
    (present : ∀ path ∈ paths, tree.hasEntry path = true) :
    tree.Finds extensions paths
      (firsts Path.parts (paths.flatMap (tree.filesOf extensions))) where
  distinct := List.pairwise_map.1 (nodup_firsts _)
  listed path mem is_file := by
    refine exists_mem_firsts (List.mem_flatMap.2 ⟨path, mem, ?_⟩)
    exact (mem_filesOf_iff distinct (present path mem)).2 (.inl ⟨is_file, rfl⟩)
  below directory mem file stands extension := by
    refine exists_mem_firsts (List.mem_flatMap.2 ⟨directory, mem, ?_⟩)
    exact (mem_filesOf_iff distinct (present directory mem)).2 (.inr ⟨stands, extension⟩)
  sound file mem := by
    obtain ⟨path, listed, mem⟩ := List.mem_flatMap.1 (firsts_subset _ mem)
    rcases (mem_filesOf_iff distinct (present path listed)).1 mem with ⟨is_file, rfl⟩ | stands
    · exact .inl ⟨listed, is_file⟩
    · exact .inr ⟨path, listed, stands⟩

/-- The files `docs/a.gql`, `docs/deep/b.gql`, `docs/notes.txt` and `c.txt`. -/
def docsTree : FileTree := {
  entries := [
    (["docs"], .directory),
    (["docs", "a.gql"], .file ⟨#[1]⟩),
    (["docs", "deep", "b.gql"], .file ⟨#[2]⟩),
    (["docs", "notes.txt"], .file ⟨#[3]⟩),
    (["c.txt"], .file ⟨#[4]⟩)] }

theorem docsTree_walk :
    docsTree.walk "docs" = ["docs/a.gql", "docs/deep/b.gql", "docs/notes.txt"] := by
  have reached : docsTree.place? "docs" = some ["docs"] := by decide +kernel
  have below : docsTree.filesBelow ["docs"] =
      [["docs", "a.gql"], ["docs", "deep", "b.gql"], ["docs", "notes.txt"]] :=
    List.mergeSort_of_pairwise (by decide +kernel)
  unfold walk
  rw [reached]
  dsimp only
  rw [below]
  decide +kernel

end FileTree

end SchemaBindings
