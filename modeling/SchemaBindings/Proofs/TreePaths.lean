import SchemaBindings.Project.Loading
import SchemaBindings.Proofs.PathParts
import SchemaBindings.Proofs.TreeChanges

/-!
# Paths in changed trees

Making directories and writing files are changes of a tree (`changes_of_makeDirectory?`,
`changes_of_write?`), and paths that lead elsewhere name what they named before
(`Changes.find?_eq`).
-/

namespace SchemaBindings

namespace FileTree

variable {tree : FileTree} {place : Place}

/-! ## Walking along paths -/

/-- The place that a part leads to from a directory. -/
def goTo (place : Place) (part : String) : Place :=
  if part == "." then place else if part == ".." then place.dropLast else place ++ [part]

/-- The place that a path leads to where every directory on the way stands. -/
def destination (path : String) : Place := (Path.parts path).foldl goTo []

theorem step?_eq_some {part : String} {next : Place} (h : tree.step? place part = some next) :
    tree.hasDirectory place = true ∧ next = goTo place part := by
  unfold step? at h
  unfold goTo
  split at h
  · cases h
  · rename_i directory
    refine ⟨by simpa using directory, ?_⟩
    split at h
    · rename_i dot
      cases h
      rw [if_pos dot]
    · rename_i dot
      rw [if_neg dot]
      split at h
      · rename_i dots
        rw [if_pos dots]
        split at h
        · cases h
        · cases h
          rfl
      · rename_i dots
        rw [if_neg dots]
        cases h
        rfl

theorem eq_foldl_goTo {way : List String} {start : Place}
    (h : way.foldlM tree.step? start = some place) : place = way.foldl goTo start := by
  induction way generalizing start with
  | nil =>
    cases h
    rfl
  | cons part rest ih =>
    rw [List.foldlM_cons] at h
    obtain ⟨next, step, later⟩ := Option.bind_eq_some_iff.1 h
    obtain ⟨-, rfl⟩ := step?_eq_some step
    exact ih later

/-- What a path names, if anything, it names at its destination. -/
theorem eq_destination {path : String} (h : tree.place? path = some place) :
    place = destination path := by
  unfold place? at h
  split at h
  · cases h
  · exact eq_foldl_goTo h

theorem find?_of_content? {path : String} {bytes : ByteArray}
    (present : tree.content? path = some bytes) : tree.find? path = some (.file bytes) := by
  unfold content? at present
  split at present
  · rename_i found
    cases present
    exact found
  · cases present

/-- The path of a file leads to a place. -/
theorem exists_place?_of_content? {path : String} {bytes : ByteArray}
    (present : tree.content? path = some bytes) : ∃ place, tree.place? path = some place := by
  obtain ⟨place, reached, -⟩ := Option.bind_eq_some_iff.1 (find?_of_content? present)
  exact ⟨place, reached⟩

theorem step?_name {name : String} (h : Path.IsName name) :
    tree.step? place name = if tree.hasDirectory place then some (place ++ [name]) else none := by
  unfold step?
  have dot : (name == ".") = false := beq_false_of_ne h.ne_dot
  have dots : (name == "..") = false := beq_false_of_ne h.ne_dots
  rw [dot, dots]
  cases tree.hasDirectory place <;> rfl

/-- Directories stand at a place and on the way from there over names, apart from the last one. -/
def HasWay (tree : FileTree) (base : Place) (names : List String) : Prop :=
  ∀ front, front <+: names → front ≠ names → tree.hasDirectory (base ++ front) = true

theorem hasWay_nil (base : Place) : tree.HasWay base [] :=
  fun _ inside ne => absurd (List.prefix_nil.1 inside) ne

theorem hasWay_cons {base : Place} {name : String} {rest : List String} :
    tree.HasWay base (name :: rest) ↔
      tree.hasDirectory base = true ∧ tree.HasWay (base ++ [name]) rest := by
  constructor
  · intro way
    refine ⟨by simpa using way [] List.nil_prefix (by simp), fun front inside ne => ?_⟩
    rw [List.append_assoc]
    exact way (name :: front) (List.cons_prefix_cons.2 ⟨rfl, inside⟩) (by simpa using ne)
  · rintro ⟨directory, way⟩ front inside ne
    cases front with
    | nil => simpa using directory
    | cons first front =>
      obtain ⟨rfl, within⟩ := List.cons_prefix_cons.1 inside
      have := way front within (by simpa using ne)
      rwa [List.append_assoc] at this

theorem foldlM_step?_names {names : List String} (h : ∀ name ∈ names, Path.IsName name)
    (base : Place) : names.foldlM tree.step? base = some place ↔
      place = base ++ names ∧ tree.HasWay base names := by
  induction names generalizing base with
  | nil => simp [hasWay_nil, eq_comm]
  | cons name rest ih =>
    obtain ⟨first, others⟩ := List.forall_mem_cons.1 h
    rw [List.foldlM_cons, step?_name first, hasWay_cons]
    cases tree.hasDirectory base with
    | false => simp
    | true =>
      rw [if_pos rfl]
      show rest.foldlM tree.step? (base ++ [name]) = some place ↔ _
      rw [ih others, List.append_assoc]
      simp

/-- A way that leads to a directory. -/
structure LeadsTo (tree : FileTree) (way : List String) (base : Place) : Prop where
  walk : way.foldlM tree.step? [] = some base
  directory : tree.hasDirectory base = true

/-- A relative path that goes on with names after a way. -/
structure GoesOn (way names : List String) (path : String) : Prop where
  relative : Path.isAbsolute path = false
  parts : Path.parts path = way ++ names
  names : ∀ name ∈ names, Path.IsName name

section

variable {way names : List String} {base : Place} {path : String}

theorem GoesOn.destination_eq (on : GoesOn way names path) (leads : tree.LeadsTo way base) :
    destination path = base ++ names := by
  have names_only : ∀ {names : List String}, (∀ name ∈ names, Path.IsName name) →
      ∀ start, names.foldl goTo start = start ++ names := by
    intro names h
    induction names with
    | nil => exact fun start => (List.append_nil start).symm
    | cons name rest ih =>
      obtain ⟨first, others⟩ := List.forall_mem_cons.1 h
      intro start
      rw [List.foldl_cons, ih others, goTo, if_neg (by simpa using first.ne_dot),
        if_neg (by simpa using first.ne_dots), List.append_assoc, List.singleton_append]
  unfold destination
  rw [on.parts, List.foldl_append, ← eq_foldl_goTo leads.walk, names_only on.names]

/-- A path that goes on with names leads below if there are directories on the way. -/
theorem place?_eq_some_iff (on : GoesOn way names path) (leads : tree.LeadsTo way base) :
    tree.place? path = some place ↔ (path ≠ "" ∧ isUsable path = true) ∧
      place = base ++ names ∧ tree.HasWay base names := by
  unfold place?
  rw [on.relative, on.parts, List.foldlM_append, leads.walk]
  split
  · rename_i refused
    constructor
    · intro h
      cases h
    · rintro ⟨⟨ne, usable⟩, -⟩
      simp [ne, usable] at refused
  · rename_i accepted
    have usable : path ≠ "" ∧ isUsable path = true := by simpa using accepted
    rw [iff_true_intro usable, true_and]
    exact foldlM_step?_names on.names base

namespace Changes

variable {written above : List Place} {changed : FileTree}

theorem step?_eq {part : String} {next : Place} (changes : Changes written above tree changed)
    (h : tree.step? place part = some next) : changed.step? place part = some next := by
  obtain ⟨directory, -⟩ := step?_eq_some h
  unfold step? at h ⊢
  rw [changes.directory place directory]
  rwa [directory] at h

theorem foldlM_step?_eq {start : Place} (changes : Changes written above tree changed)
    (h : way.foldlM tree.step? start = some place) :
    way.foldlM changed.step? start = some place := by
  induction way generalizing start with
  | nil => exact h
  | cons part rest ih =>
    rw [List.foldlM_cons] at h ⊢
    obtain ⟨next, step, later⟩ := Option.bind_eq_some_iff.1 h
    exact Option.bind_eq_some_iff.2 ⟨next, changes.step?_eq step, ih later⟩

theorem leadsTo (changes : Changes written above tree changed) (leads : tree.LeadsTo way base) :
    changed.LeadsTo way base :=
  ⟨changes.foldlM_step?_eq leads.walk, changes.directory base leads.directory⟩

theorem place?_eq (changes : Changes written above tree changed)
    (h : tree.place? path = some place) : changed.place? path = some place := by
  unfold place? at h ⊢
  split at h
  · cases h
  · rename_i usable
    rw [if_neg usable]
    exact changes.foldlM_step?_eq h

/-- Where no change is made at a place or below, it is as before. -/
theorem entry?_eq (changes : Changes written above tree changed)
    (outside : ∀ target ∈ written ++ above, ¬place <+: target) :
    changed.entry? place = tree.entry? place := by
  have apart : place ∉ written := fun mem =>
    outside place (List.mem_append_left _ mem) List.prefix_rfl
  rcases changes.entry place apart with same | ⟨-, -, target, mem, below⟩
  · exact same
  · exact absurd (isBelow_iff.1 below).1 (outside target (List.mem_append_right _ mem))

theorem content?_eq {bytes : ByteArray} (changes : Changes written above tree changed)
    (present : tree.content? path = some bytes) (apart : destination path ∉ written) :
    changed.content? path = some bytes := by
  obtain ⟨place, reached, entered⟩ := Option.bind_eq_some_iff.1 (find?_of_content? present)
  obtain ⟨entry, stands, accepted⟩ := Option.bind_eq_some_iff.1 entered
  obtain rfl := eq_destination reached
  have same : changed.entry? (destination path) = tree.entry? (destination path) := by
    rcases changes.entry _ apart with same | ⟨nothing, -⟩
    · exact same
    · rw [stands] at nothing
      cases nothing
  have kept : changed.find? path = some (.file bytes) := by
    exact Option.bind_eq_some_iff.2 ⟨destination path, changes.place?_eq reached,
      Option.bind_eq_some_iff.2 ⟨entry, same.trans stands, accepted⟩⟩
  unfold content?
  rw [kept]

/-- Without changes at its destination or below, a path names what it named before, also if
directories on the way have been missing. -/
theorem find?_eq (changes : Changes written above tree changed) (leads : tree.LeadsTo way base)
    (on : GoesOn way names path)
    (outside : ∀ target ∈ written ++ above, ¬base ++ names <+: target) :
    changed.find? path = tree.find? path := by
  have same := changes.entry?_eq outside
  have leads' := changes.leadsTo leads
  cases before : tree.place? path with
  | some place =>
    obtain ⟨-, rfl, -⟩ := (place?_eq_some_iff on leads).1 before
    unfold find?
    rw [before, changes.place?_eq before]
    show changed.entry? _ >>= _ = tree.entry? _ >>= _
    rw [same]
  | none =>
    have nothing : tree.find? path = none := by
      unfold find?
      rw [before]
      rfl
    cases after : changed.place? path with
    | none =>
      rw [nothing]
      unfold find?
      rw [after]
      rfl
    | some place =>
      obtain ⟨usable, rfl, stands⟩ := (place?_eq_some_iff on leads').1 after
      -- a directory on the way has been missing, so nothing has been below it
      have missing : ¬tree.HasWay base names := by
        intro stood
        rw [(place?_eq_some_iff on leads).2 ⟨usable, rfl, stood⟩] at before
        cases before
      obtain ⟨front, inside, ne, absent⟩ : ∃ front, front <+: names ∧ front ≠ names ∧
          tree.hasDirectory (base ++ front) ≠ true := by
        simpa [HasWay] using missing
      have made := hasDirectory_iff.1 (stands front inside ne)
      have apart : base ++ front ∉ written := by
        intro mem
        obtain ⟨bytes, present⟩ := changes.file _ mem
        rw [made] at present
        cases present
      have empty : tree.entry? (base ++ names) = none := by
        rcases changes.entry _ apart with same | ⟨empty, -⟩
        · exact absurd (hasDirectory_iff.2 (same ▸ made)) absent
        · exact entry?_eq_none_of_prefix empty ((List.prefix_append_right_inj base).2 inside)
      rw [nothing]
      unfold find?
      rw [after]
      show changed.entry? _ >>= _ = none
      rw [same, empty]
      rfl

end Changes

/-! ## Making directories and writing files -/

theorem foldlM_makeStep?_eq {start : Place} (walk : way.foldlM tree.step? start = some base)
    (directory : tree.hasDirectory base = true) :
    way.foldlM makeStep? (tree, start) = some (tree, base) := by
  induction way generalizing start with
  | nil =>
    cases walk
    rfl
  | cons part rest ih =>
    rw [List.foldlM_cons] at walk
    obtain ⟨next, step, later⟩ := Option.bind_eq_some_iff.1 walk
    have present : tree.hasDirectory next = true := by
      cases rest with
      | nil =>
        cases later
        exact directory
      | cons second rest =>
        rw [List.foldlM_cons] at later
        obtain ⟨_, step, -⟩ := Option.bind_eq_some_iff.1 later
        exact (step?_eq_some step).1
    have made : makeStep? (tree, start) part = some (tree, next) := by
      unfold makeStep?
      simp only [step, Option.bind_eq_bind, Option.bind_some, hasDirectory_iff.1 present]
    rw [List.foldlM_cons, made]
    exact ih later

theorem changes_of_foldlM_makeStep? {target last : Place} {made : FileTree}
    (h : ∀ name ∈ names, Path.IsName name) (below : isBelow (base ++ names) target = true)
    (makes : names.foldlM makeStep? (tree, base) = some (made, last)) :
    Changes [] [target] tree made := by
  induction names generalizing tree base with
  | nil =>
    cases makes
    exact .refl _ _
  | cons name rest ih =>
    obtain ⟨first, others⟩ := List.forall_mem_cons.1 h
    rw [List.foldlM_cons] at makes
    obtain ⟨⟨between, next⟩, step, later⟩ := Option.bind_eq_some_iff.1 makes
    rw [List.append_cons] at below
    unfold makeStep? at step
    simp only [step?_name first, Option.bind_eq_bind] at step
    obtain ⟨place, reached, step⟩ := Option.bind_eq_some_iff.1 step
    split at reached
    · rename_i directory
      cases reached
      split at step
      · cases step
        exact ih others below later
      · cases step
      · rename_i nothing
        cases step
        have inside : isBelow (base ++ [name]) target = true := by
          obtain ⟨within, ne⟩ := isBelow_iff.1 below
          have on_way := (List.prefix_append (base ++ [name]) rest).trans within
          refine isBelow_iff.2 ⟨on_way, ?_⟩
          rintro rfl
          exact ne (within.eq_of_length_le (List.prefix_append _ rest).length_le)
        have first := Changes.makeDirectory (by rwa [List.dropLast_concat]) nothing inside
        exact (first.trans (ih others below later)).of_subset (by simp)
    · cases reached

/-- The directory of a path is made on the way to the destination of the path. -/
theorem changes_of_makeDirectory? {directory : String} {made : FileTree}
    (leads : tree.LeadsTo way base) (on : GoesOn way names path)
    (parent : Path.parent? path = some directory)
    (makes : tree.makeDirectory? directory = some made) :
    Changes [] [destination path] tree made := by
  obtain ⟨relative, last, parts⟩ := Path.parts_of_parent? on.relative parent
  unfold makeDirectory? at makes
  split at makes
  · cases makes
  obtain ⟨⟨made, reached⟩, made_eq, rfl⟩ := Option.map_eq_some_iff.1 makes
  rw [on.parts] at parts
  rcases List.eq_nil_or_concat names with rfl | ⟨front, name, rfl⟩
  · -- the path itself names the directory that the way leads to
    rw [List.append_nil] at parts
    have walk := leads.walk
    rw [parts, List.foldlM_append] at walk
    obtain ⟨outer, walk, step⟩ := Option.bind_eq_some_iff.1 walk
    rw [List.foldlM_cons] at step
    obtain ⟨_, step, -⟩ := Option.bind_eq_some_iff.1 step
    rw [foldlM_makeStep?_eq walk (step?_eq_some step).1] at made_eq
    cases made_eq
    exact .refl _ _
  · rw [List.concat_eq_append, ← List.append_assoc] at parts
    have directory_parts : way ++ front = Path.parts directory := (List.append_inj' parts rfl).1
    rw [← directory_parts, List.foldlM_append,
      foldlM_makeStep?_eq leads.walk leads.directory] at made_eq
    rw [on.destination_eq leads, List.concat_eq_append]
    refine changes_of_foldlM_makeStep? (fun other mem => on.names other ?_) ?_ made_eq
    · rw [List.concat_eq_append]
      exact List.mem_append_left _ mem
    · refine isBelow_iff.2 ⟨?_, by simp⟩
      exact (List.prefix_append_right_inj base).2 (List.prefix_append front [name])

/-- A file is written at the destination of its path, and read from there. -/
theorem changes_of_write? {bytes : ByteArray} {written : FileTree}
    (leads : tree.LeadsTo way base) (on : GoesOn way names path)
    (writes : tree.write? path bytes = some written) :
    Changes [destination path] [destination path] tree written ∧
      written.content? path = some bytes := by
  unfold write? at writes
  obtain ⟨place, place_eq, writes⟩ := Option.bind_eq_some_iff.1 writes
  obtain ⟨-, rfl, stands⟩ := (place?_eq_some_iff on leads).1 place_eq
  split at writes
  · cases writes
  rename_i no_directory
  have put_eq : tree.entry? (base ++ names) ≠ some .directory ∧
      written = tree.put (base ++ names) (.file bytes) := by
    split at writes
    · cases writes
    · rename_i free
      cases writes
      exact ⟨free, rfl⟩
  obtain ⟨free, rfl⟩ := put_eq
  have names_ne : names ≠ [] := by
    rintro rfl
    rw [List.append_nil] at free
    exact free (hasDirectory_iff.1 leads.directory)
  have ne : base ++ names ≠ [] := List.append_ne_nil_of_right_ne_nil base names_ne
  have parent : tree.hasDirectory (base ++ names).dropLast = true := by
    rw [List.dropLast_append_of_ne_nil names_ne]
    refine stands _ (List.dropLast_prefix names) fun same => ?_
    have shorter := congrArg List.length same
    rw [List.length_dropLast] at shorter
    have := List.length_pos_of_ne_nil names_ne
    omega
  have changes := Changes.writeFile bytes parent ne free
  rw [on.destination_eq leads]
  refine ⟨changes, ?_⟩
  have present : (tree.put (base ++ names) (.file bytes)).find? path = some (.file bytes) := by
    unfold find?
    rw [changes.place?_eq place_eq]
    show FileTree.entry? _ _ >>= _ = _
    rw [entry?_put _ parent ne, if_pos rfl]
    simp [no_directory]
  unfold content?
  rw [present]

end

end FileTree

end SchemaBindings
