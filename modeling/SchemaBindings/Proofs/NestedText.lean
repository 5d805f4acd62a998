import Mathlib.Data.Nat.PSub
import SchemaBindings.Generated.StructLine
import SchemaBindings.Proofs.DeclaredTypes

/-!
# Well-nested text

A text is read line by line with a depth, which a line that begins with a closing brace lowers and
a line that opens a struct raises. In a well-nested text no line is empty, each stands behind as
many tabs as the depth tells, and the depth comes back to zero (`Text.WellNested`).

Moving a text right by a tab and reading it one level deeper come to the same
(`Text.nest?_indentLine`). So well-nested texts make a well-nested struct, whatever is written in
front of it and behind it on its first and its last line (`StructLine.wellNested_structOf`).
-/

namespace SchemaBindings

namespace Text

/-! ## Reading -/

/-- The line begins with a closing brace, behind its tabs. -/
def closesStruct (line : List Char) : Bool :=
  (line.dropWhile (· == '\t')).head? == some '\x7d'

/-- The line ends with the opening of a struct. -/
def opensStruct (line : List Char) : Bool := "struct \x7b".toList.isSuffixOf line

/-- The depth at the line, where it is `depth` behind the lines above. -/
def depthAt? (depth : Nat) (line : List Char) : Option Nat :=
  if closesStruct line then depth.ppred else some depth

/-- The depth behind the line, unless the line is empty, closes what is not open, or stands behind
more or fewer tabs than the depth at it tells. -/
def nestLine? (depth : Nat) (line : List Char) : Option Nat :=
  match depthAt? depth line with
  | none => none
  | some inner =>
    if line ≠ [] ∧ (line.takeWhile (· == '\t')).length = inner then
      some (if opensStruct line then inner + 1 else inner)
    else none

/-- The depth behind all lines. -/
def nest? (depth : Nat) (lines : List (List Char)) : Option Nat := lines.foldlM nestLine? depth

/-- Each line of the text stands behind as many tabs as the depth tells, which comes back to
zero. -/
def WellNested (text : String) : Prop := nest? 0 (splitChars '\n' text.toList) = some 0

instance (text : String) : Decidable (WellNested text) :=
  inferInstanceAs (Decidable (nest? 0 (splitChars '\n' text.toList) = some 0))

example : WellNested "struct \x7b\n\tPet struct \x7b\n\t\tId string\n\t\x7d\n\x7d" ∧
    ¬WellNested "struct \x7b\n\tPet struct \x7b\n\tId string\n\t\x7d\n\x7d" := by decide

/-! ## Deeper lines -/

theorem opensStruct_iff {line : List Char} :
    opensStruct line = true ↔ "struct \x7b".toList <:+ line := List.isSuffixOf_iff_suffix

theorem opensStruct_tab (line : List Char) : opensStruct ('\t' :: line) = opensStruct line := by
  rw [Bool.eq_iff_iff, opensStruct_iff, opensStruct_iff, List.suffix_cons_iff]
  exact or_iff_right fun h => by simp at h

/-- A tab more in front of a line is one level more. -/
theorem nestLine?_indentLine (depth : Nat) (line : List Char) :
    nestLine? (depth + 1) (indentLine 1 line) = (nestLine? depth line).map (· + 1) := by
  cases line with
  | nil => rfl
  | cons c rest =>
    have closes : closesStruct ('\t' :: c :: rest) = closesStruct (c :: rest) := rfl
    have tabs : (('\t' :: c :: rest).takeWhile (· == '\t')).length =
        ((c :: rest).takeWhile (· == '\t')).length + 1 := rfl
    show nestLine? (depth + 1) ('\t' :: c :: rest) = _
    unfold nestLine? depthAt?
    rw [closes, tabs, opensStruct_tab]
    generalize ((c :: rest).takeWhile (· == '\t')).length = count
    generalize opensStruct (c :: rest) = opened
    cases closesStruct (c :: rest) with
    | false => cases opened <;> simp
    | true =>
      cases depth with
      | zero => simp
      | succ depth => cases opened <;> simp

theorem nest?_indentLine (depth : Nat) (lines : List (List Char)) :
    nest? (depth + 1) (lines.map (indentLine 1)) = (nest? depth lines).map (· + 1) := by
  induction lines generalizing depth with
  | nil => rfl
  | cons line rest ih =>
    unfold nest? at ih ⊢
    rw [List.map_cons, List.foldlM_cons, List.foldlM_cons, nestLine?_indentLine]
    cases nestLine? depth line with
    | none => rfl
    | some inner => exact ih inner

theorem nest?_append (depth : Nat) (lines others : List (List Char)) :
    nest? depth (lines ++ others) = (nest? depth lines).bind (nest? · others) :=
  List.foldlM_append

/-! ## Texts below each other -/

theorem splitChars_indent (text : String) (level : Nat) :
    splitChars '\n' (indent text level).toList =
      (splitChars '\n' text.toList).map (indentLine level) := by
  have ne := splitChars_ne_nil '\n' text.toList
  have alone : ∀ line ∈ splitChars '\n' text.toList,
      splitChars '\n' (indentLine level line) = [indentLine level line] := by
    intro line mem
    refine splitChars_of_not_mem fun newline => ?_
    unfold indentLine at newline
    split at newline
    · cases newline
    · rcases List.mem_append.1 newline with newline | newline
      · exact absurd (List.eq_of_mem_replicate newline) (by decide)
      · exact not_mem_of_mem_splitChars mem newline
  unfold indent
  rw [splitChars_intercalate rfl (by simpa using ne), List.flatMap_map]
  simp only [Function.comp_apply, String.toList_ofList]
  rw [List.flatMap_congr alone, List.map_eq_flatMap]

theorem nest?_texts {texts : List String} (h : ∀ text ∈ texts, WellNested text) :
    nest? 0 (texts.flatMap fun text => splitChars '\n' text.toList) = some 0 := by
  induction texts with
  | nil => rfl
  | cons first rest ih =>
    rw [List.forall_mem_cons] at h
    rw [List.flatMap_cons, nest?_append, h.1]
    exact ih h.2

/-! ## Texts on one line -/

/-- The text breaks no line, and has neither tabs nor braces. -/
def Flat (text : String) : Prop := ∀ c ∈ text.toList, c ∉ ['\n', '\t', '\x7b', '\x7d']

instance (text : String) : Decidable (Flat text) :=
  List.decidableBAll (fun c => c ∉ ['\n', '\t', '\x7b', '\x7d']) text.toList

theorem Flat.append {front back : String} (hf : Flat front) (hb : Flat back) :
    Flat (front ++ back) := by
  unfold Flat at *
  rw [String.toList_append]
  exact List.forall_mem_append.2 ⟨hf, hb⟩

theorem Flat.join {texts : List String} (h : ∀ text ∈ texts, Flat text) :
    Flat (String.join texts) := by
  induction texts with
  | nil => exact fun c mem => by simp at mem
  | cons first rest ih =>
    rw [List.forall_mem_cons] at h
    rw [String.join_cons]
    exact h.1.append (ih h.2)

theorem Flat.intercalate {separator : String} (hs : Flat separator) {texts : List String}
    (h : ∀ text ∈ texts, Flat text) : Flat (separator.intercalate texts) :=
  forall_mem_intercalate hs h

theorem opensStruct_append_of_not_mem (front : List Char) {back : List Char} (ne : back ≠ [])
    (h : '\x7b' ∉ back) : opensStruct (front ++ back) = false := by
  rw [Bool.eq_false_iff, Ne, opensStruct_iff]
  rintro ⟨before, same⟩
  have last := congrArg List.getLast? same
  rw [List.getLast?_append, List.getLast?_append_of_ne_nil _ ne] at last
  exact h (List.mem_of_getLast? last.symm)

/-- A line at depth zero that begins with no tab and no closing brace. -/
theorem nestLine?_zero {c : Char} {rest : List Char} (tab : c ≠ '\t') (brace : c ≠ '\x7d') :
    nestLine? 0 (c :: rest) = some (if opensStruct (c :: rest) then 1 else 0) := by
  have noTab : (c == '\t') = false := by simpa using tab
  have closes : closesStruct (c :: rest) = false := by
    unfold closesStruct
    rw [List.dropWhile_cons, noTab]
    simpa using brace
  unfold nestLine? depthAt?
  rw [closes]
  simp [noTab]

/-- A line that closes a struct. -/
theorem nestLine?_close {rest : List Char} (h : opensStruct ('\x7d' :: rest) = false) :
    nestLine? 1 ('\x7d' :: rest) = some 0 := by
  unfold nestLine? depthAt?
  rw [h]
  rfl

theorem nest?_singleton (depth : Nat) (line : List Char) :
    nest? depth [line] = nestLine? depth line := by
  unfold nest?
  rw [List.foldlM_cons]
  exact bind_pure _

theorem wellNested_of_line {text : String} (one : '\n' ∉ text.toList)
    (level : nestLine? 0 text.toList = some 0) : WellNested text := by
  unfold WellNested
  rwa [splitChars_of_not_mem one, nest?_singleton]

namespace Flat

variable {front : String}

theorem not_mem (h : Flat front) {c : Char} (hc : c ∈ ['\n', '\t', '\x7b', '\x7d']) :
    c ∉ front.toList := fun mem => h c mem hc

theorem nestLine?_append (h : Flat front) {c : Char} {rest : List Char} (tab : c ≠ '\t')
    (brace : c ≠ '\x7d') : nestLine? 0 (front.toList ++ c :: rest) =
      some (if opensStruct (front.toList ++ c :: rest) then 1 else 0) := by
  cases characters : front.toList with
  | nil => exact nestLine?_zero tab brace
  | cons first others =>
    have start : first ∈ front.toList := characters ▸ List.mem_cons_self
    refine nestLine?_zero (fun same => ?_) fun same => ?_
    · exact h.not_mem (c := '\t') (by simp) (same ▸ start)
    · exact h.not_mem (c := '\x7d') (by simp) (same ▸ start)

/-- A text on one line has no struct. -/
theorem wellNested (h : Flat front) (ne : front ≠ "") : WellNested front := by
  have some_chars : front.toList ≠ [] := fun empty => ne (String.toList_eq_nil_iff.1 empty)
  obtain ⟨c, rest, characters⟩ := List.exists_cons_of_ne_nil some_chars
  have start : c ∈ front.toList := characters ▸ List.mem_cons_self
  have opens : opensStruct front.toList = false :=
    opensStruct_append_of_not_mem [] some_chars (h.not_mem (by simp))
  refine wellNested_of_line (h.not_mem (by simp)) ?_
  rw [characters] at opens ⊢
  rw [nestLine?_zero (fun same => h c start (by simp [same]))
    (fun same => h c start (by simp [same])), opens]
  rfl

end Flat

end Text

open Text

/-! ## Structs -/

/-- Well-nested texts make a well-nested struct, with what is written in front of it and behind
it. -/
theorem StructLine.wellNested_structOf {texts : List String} (h : ∀ text ∈ texts, WellNested text)
    {front back : String} (hf : Flat front) (hb : Flat back) :
    WellNested (front ++ structOf texts ++ back) := by
  -- `front` ends up on the line that opens the struct, and `back` on the one that closes it.
  have closing : '\x7b' ∉ '\x7d' :: back.toList := by
    rw [List.mem_cons, not_or]
    exact ⟨by decide, hb.not_mem (by simp)⟩
  have first : '\n' ∉ front.toList ++ 's' :: "truct \x7b".toList := by
    rw [List.mem_append, not_or]
    exact ⟨hf.not_mem (by simp), by decide⟩
  have last : '\n' ∉ '\x7d' :: back.toList := by
    rw [List.mem_cons, not_or]
    exact ⟨by decide, hb.not_mem (by simp)⟩
  unfold structOf
  split
  · have characters : (front ++ "struct \x7b\x7d" ++ back).toList =
        front.toList ++ 's' :: "truct \x7b".toList ++ '\x7d' :: back.toList := by
      simp
    have opens : opensStruct
        (front.toList ++ 's' :: "truct \x7b".toList ++ '\x7d' :: back.toList) = false :=
      opensStruct_append_of_not_mem _ (List.cons_ne_nil _ _) closing
    refine wellNested_of_line ?_ ?_
    · rw [characters, List.mem_append, not_or]
      exact ⟨first, last⟩
    · rw [characters]
      rw [List.append_assoc, List.cons_append] at opens ⊢
      rw [hf.nestLine?_append (by decide) (by decide), opens]
      rfl
  · rename_i nonempty
    have ne : texts ≠ [] := by simpa using nonempty
    have characters : (front ++
        ("struct \x7b\n" ++ indent ("\n".intercalate texts) 1 ++ "\n\x7d") ++ back).toList =
          (front.toList ++ 's' :: "truct \x7b".toList) ++ '\n' ::
            ((indent ("\n".intercalate texts) 1).toList ++ '\n' :: '\x7d' :: back.toList) := by
      simp
    have opens : opensStruct (front.toList ++ 's' :: "truct \x7b".toList) = true :=
      opensStruct_iff.2 (List.suffix_append _ _)
    have inside : nest? 1 ((texts.flatMap fun text => splitChars '\n' text.toList).map
        (indentLine 1)) = some 1 := by
      rw [nest?_indentLine, nest?_texts h]
      rfl
    unfold WellNested
    rw [characters, splitChars_append, splitChars_append, splitChars_indent,
      splitChars_intercalate rfl ne, splitChars_of_not_mem first, splitChars_of_not_mem last,
      nest?_append, nest?_singleton, hf.nestLine?_append (by decide) (by decide), opens]
    show nest? 1 _ = _
    rw [nest?_append, inside]
    show nest? 1 ['\x7d' :: back.toList] = _
    rw [nest?_singleton]
    exact nestLine?_close (opensStruct_append_of_not_mem [] (List.cons_ne_nil _ _) closing)

end SchemaBindings
