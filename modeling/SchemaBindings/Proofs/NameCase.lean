import SchemaBindings.Naming
import SchemaBindings.Source.Token

/-!
# The letters of converted names

Conversion changes the case of letters and leaves everything else of a name as it is
(`NameStyle.toLower_core`), so names that differ by more than case are converted to different names
(`NameStyle.convert_ne`). Camel case, which conversion puts the pieces between underscores into,
drops what is neither letter nor digit (`Text.map_toLower_camelCaseChars`).
-/

namespace SchemaBindings

namespace Text

/-- The characters are such as names in schemas consist of: ASCII letters, digits and
underscores. -/
def NameChars (cs : List Char) : Prop := ∀ c ∈ cs, c = '_' ∨ c.isAlphanum = true

instance (cs : List Char) : Decidable (NameChars cs) :=
  List.decidableBAll (fun c => c = '_' ∨ c.isAlphanum = true) cs

theorem toNat_lt_of_isAlphanum {c : Char} (h : c.isAlphanum = true) : c.toNat < 0x80 := by
  delta Char.isAlphanum Char.isAlpha Char.isUpper Char.isLower Char.isDigit at h
  simp only [Bool.or_eq_true, Bool.and_eq_true, decide_eq_true_eq, ge_iff_le,
    UInt32.le_iff_toNat_le, Char.reduceVal, UInt32.reduceToNat] at h
  show c.val.toNat < 0x80
  omega

/-- What holds of the first 128 characters holds of every character of ASCII. -/
theorem of_ascii {P : Char → Prop} (h : ∀ n < 0x80, P (Char.ofNat n)) {c : Char}
    (ascii : c.toNat < 0x80) : P c := by
  have := h c.toNat ascii
  rwa [Char.ofNat_toNat] at this

theorem toLower_toLower {c : Char} (ascii : c.toNat < 0x80) : c.toLower.toLower = c.toLower :=
  of_ascii (P := fun c => c.toLower.toLower = c.toLower) (by decide) ascii

theorem toLower_toUpper {c : Char} (ascii : c.toNat < 0x80) : c.toUpper.toLower = c.toLower :=
  of_ascii (P := fun c => c.toUpper.toLower = c.toLower) (by decide) ascii

theorem NameChars.toNat_lt {cs : List Char} (h : NameChars cs) {c : Char} (mem : c ∈ cs) :
    c.toNat < 0x80 := by
  rcases h c mem with rfl | alphanumeric
  · decide
  · exact toNat_lt_of_isAlphanum alphanumeric

/-! ## Camel case -/

/-- Pieces hold the letters and numbers, in order. -/
theorem flatten_alphanumericPieces (run cs : List Char) :
    (alphanumericPieces run cs).flatten = run.reverse ++ cs.filter isAlphanumeric := by
  induction cs generalizing run with
  | nil =>
    unfold alphanumericPieces
    cases run <;> simp
  | cons c cs ih =>
    unfold alphanumericPieces
    split
    · rename_i keeps
      rw [ih, List.filter_cons_of_pos keeps]
      simp
    · rename_i drops
      rw [List.filter_cons_of_neg drops]
      split
      · rename_i empty
        rw [ih, List.isEmpty_iff.1 empty]
      · rw [List.flatten_cons, ih]
        simp

/-- Words hold all characters of a piece, in order. -/
theorem flatten_camelWords (mode : LetterMode) (word cs : List Char) :
    (camelWords mode word cs).flatten = word.reverse ++ cs := by
  fun_induction camelWords mode word cs with
  | case1 => simp_all
  | case2 => simp_all
  | case3 => simp
  | case4 => simp_all
  | case5 => simp_all
  | case6 => simp_all

theorem lowercaseTail_of_ascii {word : List Char} (ascii : ∀ c ∈ word, c.toNat < 0x80) :
    lowercaseTail word = word.map Char.toLower := by
  fun_induction lowercaseTail word with
  | case1 => rfl
  | case2 =>
    have := ascii 'Σ' List.mem_cons_self
    simp at this
  | case3 c => exact lowercase_of_ascii (ascii c List.mem_cons_self)
  | case4 c next rest ih =>
    obtain ⟨first, others⟩ := List.forall_mem_cons.1 ascii
    rw [lowercase_of_ascii first, ih others]
    rfl

theorem capitalize_of_ascii {c : Char} {rest : List Char}
    (ascii : ∀ c' ∈ c :: rest, c'.toNat < 0x80) :
    capitalize (c :: rest) = c.toUpper :: rest.map Char.toLower := by
  obtain ⟨first, others⟩ := List.forall_mem_cons.1 ascii
  rw [capitalize, uppercase_of_ascii first, lowercaseTail_of_ascii others]
  rfl

theorem map_toLower_capitalize {word : List Char} (ascii : ∀ c ∈ word, c.toNat < 0x80) :
    (capitalize word).map Char.toLower = word.map Char.toLower := by
  cases word with
  | nil => rfl
  | cons c rest =>
    obtain ⟨first, others⟩ := List.forall_mem_cons.1 ascii
    rw [capitalize_of_ascii ascii, List.map_cons, List.map_cons, toLower_toUpper first,
      List.map_map]
    congr 1
    exact List.map_congr_left fun c mem => toLower_toLower (others c mem)

/-- Camel case keeps letters and digits, apart from their case, and nothing else. -/
theorem map_toLower_camelCaseChars {cs : List Char} (h : NameChars cs) :
    (camelCaseChars cs).map Char.toLower = (cs.filter isAlphanumeric).map Char.toLower := by
  have words : ((alphanumericPieces [] cs).flatMap (camelWords .none [])).flatten =
      cs.filter isAlphanumeric := by
    have each : ∀ pieces : List (List Char),
        (pieces.flatMap (camelWords .none [])).flatten = pieces.flatten := by
      intro pieces
      induction pieces with
      | nil => rfl
      | cons piece rest ih =>
        rw [List.flatMap_cons, List.flatten_append, flatten_camelWords, ih]
        rfl
    rw [each, flatten_alphanumericPieces]
    rfl
  have capitals : ∀ words : List (List Char), (∀ word ∈ words, ∀ c ∈ word, c.toNat < 0x80) →
      (words.flatMap capitalize).map Char.toLower = words.flatten.map Char.toLower := by
    intro words ascii
    induction words with
    | nil => rfl
    | cons word rest ih =>
      obtain ⟨first, others⟩ := List.forall_mem_cons.1 ascii
      rw [List.flatMap_cons, List.flatten_cons, List.map_append, List.map_append,
        map_toLower_capitalize first, ih others]
  unfold camelCaseChars
  rw [capitals _ ?_, words]
  intro word mem c hc
  have kept : c ∈ cs.filter isAlphanumeric := words ▸ List.mem_flatten.2 ⟨word, mem, hc⟩
  exact h.toNat_lt (List.mem_filter.1 kept).1

theorem toList_toLower (text : String) : text.toLower.toList = text.toList.map Char.toLower := by
  unfold String.toLower
  exact String.toList_map

theorem toLower_append (front back : String) :
    (front ++ back).toLower = front.toLower ++ back.toLower := by
  apply String.toList_inj.1
  simp only [toList_toLower, String.toList_append, List.map_append]

theorem toLower_camelCase {name : String} (h : ∀ c ∈ name.toList, c.isAlphanum = true) :
    (camelCase name).toLower = name.toLower := by
  have kept : name.toList.filter isAlphanumeric = name.toList := by
    refine List.filter_eq_self.2 fun c mem => ?_
    rw [isAlphanumeric_of_ascii (toNat_lt_of_isAlphanum (h c mem)), h c mem]
  apply String.toList_inj.1
  rw [toList_toLower, toList_toLower, camelCase, String.toList_ofList,
    map_toLower_camelCaseChars fun c mem => .inr (h c mem), kept]

/-! ## Pieces between underscores -/

theorem intercalate_splitChars (sep : Char) (cs : List Char) :
    [sep].intercalate (splitChars sep cs) = cs := by
  induction cs with
  | nil => rfl
  | cons c cs ih =>
    obtain ⟨piece, rest, hs⟩ := List.exists_cons_of_ne_nil (splitChars_ne_nil sep cs)
    rw [hs] at ih
    rw [splitChars, hs]
    split
    · rename_i same
      rw [List.intercalate_cons_cons, ih, same]
      rfl
    · cases rest with
      | nil =>
        rw [List.intercalate_singleton] at ih ⊢
        rw [ih]
      | cons next rest =>
        rw [List.intercalate_cons_cons] at ih ⊢
        rw [← ih]
        rfl

theorem mem_of_mem_splitChars {sep c : Char} {cs piece : List Char}
    (mem : piece ∈ splitChars sep cs) (hc : c ∈ piece) : c ∈ cs := by
  induction cs generalizing piece with
  | nil =>
    rw [splitChars, List.mem_singleton] at mem
    exact mem ▸ hc
  | cons head cs ih =>
    obtain ⟨first, rest, hs⟩ := List.exists_cons_of_ne_nil (splitChars_ne_nil sep cs)
    rw [hs] at ih
    rw [splitChars, hs] at mem
    split at mem
    · rcases List.mem_cons.1 mem with rfl | mem
      · cases hc
      · exact List.mem_cons_of_mem _ (ih mem hc)
    · rcases List.mem_cons.1 mem with rfl | mem
      · rcases List.mem_cons.1 hc with rfl | hc
        · exact List.mem_cons_self
        · exact List.mem_cons_of_mem _ (ih List.mem_cons_self hc)
      · exact List.mem_cons_of_mem _ (ih (List.mem_cons_of_mem _ mem) hc)

theorem intercalate_splitAt (name : String) : "_".intercalate (splitAt '_' name) = name := by
  apply String.toList_inj.1
  have pieces : (splitAt '_' name).map String.toList = splitChars '_' name.toList := by
    simp [splitAt, Function.comp_def]
  rw [String.toList_intercalate, pieces]
  exact intercalate_splitChars '_' name.toList

theorem toLower_intercalate {pieces : List String} {f : String → String}
    (h : ∀ piece ∈ pieces, (f piece).toLower = piece.toLower) :
    ("_".intercalate (pieces.map f)).toLower = ("_".intercalate pieces).toLower := by
  induction pieces with
  | nil => rfl
  | cons piece rest ih =>
    obtain ⟨first, others⟩ := List.forall_mem_cons.1 h
    cases rest with
    | nil => simpa using first
    | cons next rest =>
      have later := ih others
      rw [List.map_cons] at later ⊢
      rw [List.map_cons, String.intercalate_cons_cons, String.intercalate_cons_cons, toLower_append,
        toLower_append, toLower_append, toLower_append, first, later]

end Text

namespace NameStyle

variable {style : NameStyle}

/-- Conversion changes the case of letters and nothing else, apart from additions at the ends. -/
theorem toLower_core {name : String} (h : Text.NameChars name.toList) :
    (style.core false name).toLower = name.toLower := by
  unfold core
  split
  · rfl
  · show ("_".intercalate ((Text.splitAt '_' name).map Text.camelCase)).toLower = name.toLower
    have pieces : ∀ piece ∈ Text.splitAt '_' name,
        (Text.camelCase piece).toLower = piece.toLower := by
      intro piece mem
      refine Text.toLower_camelCase fun c hc => ?_
      obtain ⟨chars, chars_mem, rfl⟩ := List.mem_map.1 mem
      rw [String.toList_ofList] at hc
      refine (h c (Text.mem_of_mem_splitChars chars_mem hc)).resolve_left ?_
      rintro rfl
      exact Text.not_mem_of_mem_splitChars chars_mem hc
    rw [Text.toLower_intercalate pieces, Text.intercalate_splitAt]

theorem convert_eq (name : String) :
    style.convert name = style.typesPrefix ++ style.core false name := by
  simp [convert, convertWith]

theorem convert_ne {first second : String} (first_chars : Text.NameChars first.toList)
    (second_chars : Text.NameChars second.toList) (apart : first.toLower ≠ second.toLower) :
    style.convert first ≠ style.convert second := by
  intro same
  rw [convert_eq, convert_eq] at same
  have cores : style.core false first = style.core false second := by
    simpa [← String.toList_inj] using same
  refine apart ?_
  rw [← toLower_core first_chars, ← toLower_core second_chars, cores]

end NameStyle

end SchemaBindings
