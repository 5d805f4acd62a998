import SchemaBindings.Text.Blank

/-!
Texts as lines: splitting at a character, and indenting with tabs.
-/

namespace SchemaBindings.Text

/-- The pieces between occurrences of `sep`; there is always at least one. -/
def splitChars (sep : Char) : List Char → List (List Char)
  | [] => [[]]
  | c :: cs =>
    if c = sep then [] :: splitChars sep cs
    else
      match splitChars sep cs with
      | [] => [[c]]
      | piece :: rest => (c :: piece) :: rest

/-- The pieces of `text` between occurrences of `sep`. -/
def splitAt (sep : Char) (text : String) : List String :=
  (splitChars sep text.toList).map String.ofList

theorem splitChars_ne_nil (sep : Char) (cs : List Char) : splitChars sep cs ≠ [] := by
  cases cs with
  | nil => simp [splitChars]
  | cons c cs =>
    simp only [splitChars]
    split
    · simp
    · split <;> simp

/-- The pieces of two texts with a separator between them are those of the one, then those of the
other. -/
theorem splitChars_append (sep : Char) (front back : List Char) :
    splitChars sep (front ++ sep :: back) = splitChars sep front ++ splitChars sep back := by
  induction front with
  | nil => simp [splitChars]
  | cons c cs ih =>
    rw [List.cons_append, splitChars, splitChars, ih]
    split
    · rfl
    · obtain ⟨piece, rest, hp⟩ := List.exists_cons_of_ne_nil (splitChars_ne_nil sep cs)
      rw [hp]
      rfl

theorem splitChars_of_not_mem {sep : Char} {cs : List Char} (h : sep ∉ cs) :
    splitChars sep cs = [cs] := by
  induction cs with
  | nil => rfl
  | cons c cs ih =>
    rw [List.mem_cons, not_or] at h
    rw [splitChars, if_neg (Ne.symm h.1), ih h.2]

/-- The pieces of several texts with separators between them are those of each text. -/
theorem splitChars_intercalate {sep : Char} {separator : String} (single : separator.toList = [sep])
    {texts : List String} (ne : texts ≠ []) :
    splitChars sep (separator.intercalate texts).toList =
      texts.flatMap fun text => splitChars sep text.toList := by
  induction texts with
  | nil => exact absurd rfl ne
  | cons first rest ih =>
    cases rest with
    | nil => rw [String.intercalate_singleton, List.flatMap_singleton]
    | cons second rest =>
      rw [String.intercalate_cons_cons, String.toList_append, String.toList_append, single,
        List.append_assoc, List.singleton_append, splitChars_append, ih (List.cons_ne_nil _ _)]
      rfl

/-- Texts without the separator are the pieces. -/
theorem splitChars_intercalate_of_not_mem {sep : Char} {separator : String}
    (single : separator.toList = [sep]) {texts : List String} (ne : texts ≠ [])
    (h : ∀ text ∈ texts, sep ∉ text.toList) :
    splitChars sep (separator.intercalate texts).toList = texts.map (·.toList) := by
  have alone : texts.map (fun text => splitChars sep text.toList) =
      texts.map fun text => [text.toList] :=
    List.map_congr_left fun text mem => splitChars_of_not_mem (h text mem)
  rw [splitChars_intercalate single ne, List.flatMap_def, alone, ← List.flatMap_def,
    List.map_eq_flatMap]

theorem not_mem_of_mem_splitChars {sep : Char} {cs piece : List Char}
    (h : piece ∈ splitChars sep cs) : sep ∉ piece := by
  induction cs generalizing piece with
  | nil =>
    rw [splitChars, List.mem_singleton] at h
    subst h
    exact List.not_mem_nil
  | cons c cs ih =>
    obtain ⟨first, rest, hs⟩ := List.exists_cons_of_ne_nil (splitChars_ne_nil sep cs)
    rw [hs] at ih
    rw [splitChars, hs] at h
    split at h
    · rcases List.mem_cons.1 h with rfl | h
      · exact List.not_mem_nil
      · exact ih h
    · rename_i hc
      rcases List.mem_cons.1 h with rfl | h
      · rw [List.mem_cons, not_or]
        exact ⟨Ne.symm hc, ih List.mem_cons_self⟩
      · exact ih (List.mem_cons_of_mem _ h)

/-- What holds of all characters of texts and of a separator holds of those of the texts with the
separator between them. -/
theorem forall_mem_intercalate {P : Char → Prop} {separator : String}
    (hs : ∀ c ∈ separator.toList, P c) {texts : List String}
    (h : ∀ text ∈ texts, ∀ c ∈ text.toList, P c) :
    ∀ c ∈ (separator.intercalate texts).toList, P c := by
  induction texts with
  | nil => exact fun c mem => by simp at mem
  | cons first rest ih =>
    rw [List.forall_mem_cons] at h
    cases rest with
    | nil =>
      rw [String.intercalate_singleton]
      exact h.1
    | cons second rest =>
      rw [String.intercalate_cons_cons, String.toList_append, String.toList_append]
      exact List.forall_mem_append.2 ⟨List.forall_mem_append.2 ⟨h.1, hs⟩, ih h.2⟩

/-- The line without one carriage return at its end. -/
def dropReturn (line : List Char) : List Char :=
  if line.getLast? = some '\r' then line.dropLast else line

/-- Lines from the pieces between line feeds. The last piece was ended by no line feed: it is a line
only if it is not empty, and keeps a carriage return. -/
def closeLines : List (List Char) → List (List Char)
  | [] => []
  | [last] => if last.isEmpty then [] else [last]
  | line :: next :: rest => dropReturn line :: closeLines (next :: rest)

/-- The lines of a text: each ends at a line feed or at a carriage return and a line feed. -/
def lineChars (cs : List Char) : List (List Char) := closeLines (splitChars '\n' cs)

theorem mem_of_mem_dropReturn {c : Char} {line : List Char} (h : c ∈ dropReturn line) :
    c ∈ line := by
  unfold dropReturn at h
  split at h
  · exact line.dropLast_subset h
  · exact h

/-- The closed lines are pieces, some without a carriage return. -/
theorem exists_of_mem_closeLines {pieces : List (List Char)} {line : List Char}
    (h : line ∈ closeLines pieces) : ∃ piece ∈ pieces, ∀ c ∈ line, c ∈ piece := by
  fun_induction closeLines pieces with
  | case1 => cases h
  | case2 => cases h
  | case3 last =>
    rw [List.mem_singleton] at h
    subst h
    exact ⟨line, List.mem_singleton_self _, fun _ hc => hc⟩
  | case4 first next rest ih =>
    rcases List.mem_cons.1 h with rfl | h
    · exact ⟨first, List.mem_cons_self, fun _ hc => mem_of_mem_dropReturn hc⟩
    · obtain ⟨piece, hp, hc⟩ := ih h
      exact ⟨piece, List.mem_cons_of_mem _ hp, hc⟩

/-- A line holds no line feed. -/
theorem not_mem_of_mem_lineChars {cs line : List Char} (h : line ∈ lineChars cs) :
    '\n' ∉ line := by
  obtain ⟨piece, hp, hc⟩ := exists_of_mem_closeLines h
  exact fun hn => not_mem_of_mem_splitChars hp (hc _ hn)

/-- The lines of `text`. -/
def lines (text : String) : List String := (lineChars text.toList).map String.ofList

/-- The text of `n` tabs. -/
def tabs (n : Nat) : String := String.ofList (List.replicate n '\t')

/-- A line moved right by `level` tabs; an empty line stays empty. -/
def indentLine (level : Nat) (line : List Char) : List Char :=
  if line.isEmpty then [] else List.replicate level '\t' ++ line

/-- Every line of `text` that is not empty, moved right by `level` tabs. -/
def indent (text : String) (level : Nat) : String :=
  "\n".intercalate ((splitChars '\n' text.toList).map (String.ofList ∘ indentLine level))

end SchemaBindings.Text
