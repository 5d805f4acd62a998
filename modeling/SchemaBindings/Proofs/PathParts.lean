import Mathlib.Data.List.TakeWhile
import SchemaBindings.Path

/-!
# Parts of paths

How the counting parts of a path come from those of the paths that it is made of: a path read from a
directory has the parts of the directory, then its own (`parts_join`), and the path of the parent
directory lacks the last part (`parts_of_parent?`). The parts of paths without dots are names
(`isName_of_mem_parts`).
-/

namespace SchemaBindings.Path

open SchemaBindings.Text

/-! ## Splitting -/

theorem splitAt_append_separator (sep : Char) (front back : String) :
    splitAt sep (front ++ sep.toString ++ back) = splitAt sep front ++ splitAt sep back := by
  unfold splitAt
  rw [← List.map_append, ← splitChars_append]
  simp

theorem splitAt_of_not_mem {sep : Char} {text : String} (h : sep ∉ text.toList) :
    splitAt sep text = [text] := by
  unfold splitAt
  rw [splitChars_of_not_mem h]
  simp

theorem splitAt_ne_nil (sep : Char) (text : String) : splitAt sep text ≠ [] := by
  unfold splitAt
  simpa using splitChars_ne_nil sep text.toList

theorem not_mem_of_mem_splitAt {sep : Char} {text piece : String} (h : piece ∈ splitAt sep text) :
    sep ∉ piece.toList := by
  obtain ⟨chars, mem, rfl⟩ := List.mem_map.1 h
  simpa using not_mem_of_mem_splitChars mem

theorem splitAt_intercalate {pieces : List String} (ne : pieces ≠ [])
    (h : ∀ piece ∈ pieces, '/' ∉ piece.toList) :
    splitAt '/' ("/".intercalate pieces) = pieces := by
  unfold splitAt
  rw [splitChars_intercalate_of_not_mem rfl ne h, List.map_map]
  exact (List.map_congr_left fun piece _ => String.ofList_toList).trans (List.map_id pieces)

/-! ## Counting parts -/

/-- The pieces that count as parts of a path, behind its first one. -/
def counting (pieces : List String) : List String :=
  pieces.filter fun piece => !piece.isEmpty && piece != "."

theorem counting_append (front back : List String) :
    counting (front ++ back) = counting front ++ counting back := List.filter_append ..

theorem ne_empty_of_splitAt {path first : String} {rest : List String}
    (relative : isAbsolute path = false) (ne : path ≠ "") (h : splitAt '/' path = first :: rest) :
    first ≠ "" := by
  rintro rfl
  obtain ⟨piece, pieces, hs⟩ := List.exists_cons_of_ne_nil (splitChars_ne_nil '/' path.toList)
  have piece_nil : piece = [] := by
    have := congrArg List.head? h
    rw [splitAt, hs] at this
    simpa using this
  cases chars : path.toList with
  | nil => exact ne (String.toList_inj.1 chars)
  | cons c cs =>
    have slash : c ≠ '/' := by
      rintro rfl
      simp [isAbsolute, chars] at relative
    obtain ⟨next, others, ht⟩ := List.exists_cons_of_ne_nil (splitChars_ne_nil '/' cs)
    rw [chars, splitChars, if_neg slash, ht, piece_nil] at hs
    cases hs

theorem splitAt_of_isAbsolute {path : String} (absolute : isAbsolute path = true) :
    ∃ rest, splitAt '/' path = "" :: rest := by
  obtain ⟨cs, chars⟩ := List.head?_eq_some_iff.1 (beq_iff_eq.1 absolute)
  unfold splitAt
  rw [chars, splitChars, if_pos rfl]
  exact ⟨_, rfl⟩

theorem parts_of_relative {path first : String} {rest : List String}
    (relative : isAbsolute path = false) (ne : path ≠ "") (h : splitAt '/' path = first :: rest) :
    parts path = first :: counting rest := by
  have first_ne := ne_empty_of_splitAt relative ne h
  unfold parts
  rw [h]
  simp [relative, first_ne, counting]

@[simp] theorem parts_empty : parts "" = [] := by decide

/-! ## Names -/

/-- A name that a file or a directory can have. -/
structure IsName (name : String) : Prop where
  ne_empty : name ≠ ""
  ne_dot : name ≠ "."
  ne_dots : name ≠ ".."
  noSlash : '/' ∉ name.toList

instance (name : String) : Decidable (IsName name) :=
  decidable_of_iff (name ≠ "" ∧ name ≠ "." ∧ name ≠ ".." ∧ '/' ∉ name.toList)
    ⟨fun ⟨ne_empty, ne_dot, ne_dots, noSlash⟩ => ⟨ne_empty, ne_dot, ne_dots, noSlash⟩,
      fun h => ⟨h.ne_empty, h.ne_dot, h.ne_dots, h.noSlash⟩⟩

/-- A path without dots: its parts are names, apart from the root. -/
def Dotless (path : String) : Prop := ∀ part ∈ parts path, part ≠ "." ∧ part ≠ ".."

instance (path : String) : Decidable (Dotless path) :=
  inferInstanceAs (Decidable (∀ part ∈ parts path, part ≠ "." ∧ part ≠ ".."))

/-- The parts of a relative path without dots are all that stands between its slashes. -/
theorem parts_of_dotless {path : String} (relative : isAbsolute path = false)
    (dotless : Dotless path) : parts path = counting (splitAt '/' path) := by
  by_cases ne : path = ""
  · subst ne
    decide
  · obtain ⟨first, rest, hs⟩ := List.exists_cons_of_ne_nil (splitAt_ne_nil '/' path)
    have first_ne := ne_empty_of_splitAt relative ne hs
    have parts_eq := parts_of_relative relative ne hs
    have no_dot := (dotless first (parts_eq ▸ List.mem_cons_self)).1
    rw [parts_eq, hs]
    simp [counting, first_ne, no_dot]

theorem isName_of_mem_parts {path part : String} (relative : isAbsolute path = false)
    (dotless : Dotless path) (mem : part ∈ parts path) : IsName part := by
  obtain ⟨no_dot, no_dots⟩ := dotless part mem
  rw [parts_of_dotless relative dotless] at mem
  obtain ⟨piece, counts⟩ := List.mem_filter.1 mem
  exact ⟨by simp_all, no_dot, no_dots, not_mem_of_mem_splitAt piece⟩

namespace IsName

variable {name : String}

theorem isAbsolute_eq (h : IsName name) : isAbsolute name = false := by
  unfold isAbsolute
  cases chars : name.toList with
  | nil => rfl
  | cons c cs =>
    have slash : c ≠ '/' := by
      rintro rfl
      exact h.noSlash (chars ▸ List.mem_cons_self)
    simpa using slash

theorem parts_eq (h : IsName name) : parts name = [name] :=
  parts_of_relative h.isAbsolute_eq h.ne_empty (splitAt_of_not_mem h.noSlash)

theorem dotless (h : IsName name) : Dotless name := by
  intro part mem
  rw [h.parts_eq, List.mem_singleton] at mem
  subst mem
  exact ⟨h.ne_dot, h.ne_dots⟩

end IsName

/-! ## Paths read from a directory -/

theorem isAbsolute_append {front : String} (ne : front ≠ "") (back : String) :
    isAbsolute (front ++ back) = isAbsolute front := by
  unfold isAbsolute
  rw [String.toList_append]
  cases chars : front.toList with
  | nil => exact absurd (String.toList_inj.1 chars) ne
  | cons c cs => rfl

theorem join_of_isAbsolute {path : String} (absolute : isAbsolute path = true) (base : String) :
    join base path = path := by
  unfold join
  rw [absolute]
  rfl

@[simp] theorem join_empty (path : String) : join "" path = path := by
  unfold join
  simp

variable {base path : String}

/-- A relative path stands behind that of the directory, with one slash between them. -/
theorem exists_join_eq (ne : base ≠ "") (relative : isAbsolute path = false) :
    ∃ front, join base path = front ++ "/" ++ path ∧ (base = front ∨ base = front ++ "/") := by
  unfold join
  rw [relative, if_neg (by simpa using ne)]
  split
  · rename_i ends
    obtain ⟨chars, hc⟩ := List.getLast?_eq_some_iff.1 (beq_iff_eq.1 ends)
    have base_eq : base = String.ofList chars ++ "/" := String.toList_inj.1 (by simp [hc])
    exact ⟨String.ofList chars, by rw [← base_eq], .inr base_eq⟩
  · exact ⟨base, rfl, .inl rfl⟩

theorem join_ne_empty (ne : base ≠ "") (relative : isAbsolute path = false) :
    join base path ≠ "" := by
  obtain ⟨front, joined, -⟩ := exists_join_eq ne relative
  intro h
  rw [joined] at h
  simpa using congrArg String.toList h

theorem isAbsolute_join (base_relative : isAbsolute base = false)
    (relative : isAbsolute path = false) : isAbsolute (join base path) = false := by
  by_cases ne : base = ""
  · rwa [ne, join_empty]
  · unfold join
    rw [relative, if_neg (by simpa using ne)]
    split
    · rwa [isAbsolute_append ne]
    · rwa [String.append_assoc, isAbsolute_append ne]

theorem parts_join (base_relative : isAbsolute base = false)
    (relative : isAbsolute path = false) (dotless : Dotless path) :
    parts (join base path) = parts base ++ parts path := by
  by_cases ne : base = ""
  · rw [ne, join_empty, parts_empty, List.nil_append]
  · obtain ⟨front, joined, base_eq⟩ := exists_join_eq ne relative
    obtain ⟨first, rest, hf⟩ := List.exists_cons_of_ne_nil (splitAt_ne_nil '/' front)
    have base_parts : parts base = first :: counting rest := by
      rcases base_eq with rfl | rfl
      · exact parts_of_relative base_relative ne hf
      · have split : splitAt '/' (front ++ "/") = first :: (rest ++ [""]) := by
          have := splitAt_append_separator '/' front ""
          rw [String.append_empty, hf] at this
          exact this
        rw [parts_of_relative base_relative ne split, counting_append]
        exact congrArg _ (List.append_nil _)
    have split : splitAt '/' (join base path) = first :: (rest ++ splitAt '/' path) := by
      rw [joined, ← List.cons_append, ← hf]
      exact splitAt_append_separator '/' front path
    rw [parts_of_relative (isAbsolute_join base_relative relative) (join_ne_empty ne relative)
      split, base_parts, counting_append, parts_of_dotless relative dotless, List.cons_append]

/-- The parts of a path that goes on with names. -/
theorem parts_foldl_join {names : List String} (ne : path ≠ "")
    (relative : isAbsolute path = false) (h : ∀ name ∈ names, IsName name) :
    isAbsolute (names.foldl join path) = false ∧
      parts (names.foldl join path) = parts path ++ names := by
  induction names generalizing path with
  | nil => exact ⟨relative, (List.append_nil _).symm⟩
  | cons name rest ih =>
    have first := h name List.mem_cons_self
    obtain ⟨later_relative, later⟩ := ih (join_ne_empty ne first.isAbsolute_eq)
      (isAbsolute_join relative first.isAbsolute_eq)
      fun other mem => h other (List.mem_cons_of_mem _ mem)
    refine ⟨later_relative, later.trans ?_⟩
    rw [parts_join relative first.isAbsolute_eq first.dotless, first.parts_eq, List.append_assoc,
      List.singleton_append]

/-! ## Parent directories -/

/-- What does not count at the end is dropped, and nothing else. -/
theorem counting_dropTrailing (first : String) (rest : List String) :
    ∃ kept, dropTrailing (first :: rest) = first :: kept ∧ counting kept = counting rest ∧
      (∀ last ∈ kept.getLast?, counting [last] = [last]) ∧ ∀ piece ∈ kept, piece ∈ rest := by
  let skipped (piece : String) : Bool := piece.isEmpty || piece == "."
  have cut : rest = (rest.reverse.dropWhile skipped).reverse ++
      (rest.reverse.takeWhile skipped).reverse := by
    rw [← List.reverse_append, List.takeWhile_append_dropWhile, List.reverse_reverse]
  have nothing : counting (rest.reverse.takeWhile skipped).reverse = [] := by
    refine List.filter_eq_nil_iff.2 fun piece mem => ?_
    have := List.mem_takeWhile_imp (List.mem_reverse.1 mem)
    simpa [skipped, or_iff_not_imp_left] using this
  refine ⟨(rest.reverse.dropWhile skipped).reverse, rfl, ?_, ?_, ?_⟩
  · have := congrArg counting cut
    rwa [counting_append, nothing, List.append_nil, eq_comm] at this
  · intro last mem
    rw [List.getLast?_reverse] at mem
    have kept := List.head?_dropWhile_not skipped rest.reverse
    rw [mem] at kept
    simpa [counting, skipped] using kept
  · intro piece mem
    rw [cut]
    exact List.mem_append_left _ mem

theorem parts_intercalate {first : String} {rest : List String} (first_ne : first ≠ "")
    (free : ∀ piece ∈ first :: rest, '/' ∉ piece.toList) :
    isAbsolute ("/".intercalate (first :: rest)) = false ∧
      parts ("/".intercalate (first :: rest)) = first :: counting rest := by
  have split : splitAt '/' ("/".intercalate (first :: rest)) = first :: rest :=
    splitAt_intercalate (by simp) free
  have ne : "/".intercalate (first :: rest) ≠ "" := by
    intro empty
    rw [empty] at split
    cases split
    exact first_ne rfl
  have relative : isAbsolute ("/".intercalate (first :: rest)) = false := by
    refine Bool.eq_false_iff.2 fun absolute => first_ne ?_
    obtain ⟨pieces, empty⟩ := splitAt_of_isAbsolute absolute
    rw [split] at empty
    exact (List.cons.inj empty).1
  exact ⟨relative, parts_of_relative relative ne split⟩

theorem parts_of_parent? {directory : String} (relative : isAbsolute path = false)
    (h : parent? path = some directory) : isAbsolute directory = false ∧
      ∃ last, parts path = parts directory ++ [last] := by
  have ne : path ≠ "" := by
    rintro rfl
    cases h
  obtain ⟨first, rest, hs⟩ := List.exists_cons_of_ne_nil (splitAt_ne_nil '/' path)
  have first_ne := ne_empty_of_splitAt relative ne hs
  obtain ⟨kept, trimmed, counts, last_counts, from_rest⟩ := counting_dropTrailing first rest
  have path_parts : parts path = first :: counting kept := by
    rw [parts_of_relative relative ne hs, counts]
  have segments_eq : segments path = first :: kept := by
    rw [segments, hs, trimmed]
  rcases List.eq_nil_or_concat kept with rfl | ⟨front, last, rfl⟩
  · have directory_eq : some "" = some directory := by
      rw [← h, parent?, segments_eq]
      simp [first_ne]
    cases directory_eq
    exact ⟨rfl, first, path_parts⟩
  · rw [List.concat_eq_append] at path_parts segments_eq last_counts from_rest
    obtain ⟨within, cut, within_counts, -, from_front⟩ := counting_dropTrailing first front
    have directory_eq : some ("/".intercalate (first :: within)) = some directory := by
      obtain ⟨next, others, behind⟩ := List.exists_cons_of_ne_nil
        (List.append_ne_nil_of_right_ne_nil front (List.cons_ne_nil last []))
      rw [← h, parent?, segments_eq, behind]
      dsimp only
      rw [← behind, List.dropLast_concat, cut]
      split
      · rename_i root
        cases root
        exact absurd rfl first_ne
      · rfl
    cases directory_eq
    have free : ∀ piece ∈ first :: within, '/' ∉ piece.toList := by
      intro piece mem
      have written : piece ∈ splitAt '/' path := by
        rw [hs]
        rcases List.mem_cons.1 mem with rfl | mem
        · exact List.mem_cons_self
        · have kept := List.mem_append_left [last] (from_front piece mem)
          exact List.mem_cons_of_mem _ (from_rest piece kept)
      exact not_mem_of_mem_splitAt written
    obtain ⟨directory_relative, directory_parts⟩ := parts_intercalate first_ne free
    refine ⟨directory_relative, last, ?_⟩
    rw [path_parts, directory_parts, within_counts, counting_append, last_counts last (by simp),
      List.cons_append]

theorem isAbsolute_of_parent? {directory : String} (absolute : isAbsolute path = true)
    (h : parent? path = some directory) : isAbsolute directory = true := by
  obtain ⟨rest, hs⟩ := splitAt_of_isAbsolute absolute
  obtain ⟨kept, trimmed, -⟩ := counting_dropTrailing "" rest
  have segments_eq : segments path = "" :: kept := by
    rw [segments, hs, trimmed]
  unfold parent? at h
  rw [segments_eq] at h
  cases kept with
  | nil => cases h
  | cons next others =>
    obtain ⟨within, cut, -⟩ := counting_dropTrailing "" (next :: others).dropLast
    dsimp only at h
    rw [cut] at h
    cases within with
    | nil =>
      cases h
      rfl
    | cons second within =>
      cases h
      rw [String.intercalate_cons_cons]
      simp [isAbsolute]

end SchemaBindings.Path
