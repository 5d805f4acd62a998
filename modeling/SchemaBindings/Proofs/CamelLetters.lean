import Mathlib
import SchemaBindings.Proofs.NameCase

/-!
# Letters in camel case

Camel case told letter by letter: it consists of the letters and digits of a name, where those that
a word begins with are capitals and all others are in lower case (`camelCaseChars_eq`). So two names
have one camel case exactly if their letters are the same and their words begin with the same ones
(`camelCase_eq_iff`), and what the name of a field is turned into can be read off the name: whether
it is an identifier that other packages can use depends on its first letter or digit alone
(`isExported_camelCase_iff`).
-/

namespace SchemaBindings.Text

/-! ## Beginnings of words -/

/-- A letter or digit of a name, in lower case, and whether it is a letter that a word begins
with. -/
structure CamelLetter where
  letter : Char
  capital : Bool
  deriving Repr, DecidableEq

/-- The letter as it is written in camel case. -/
def CamelLetter.char (letter : CamelLetter) : Char :=
  if letter.capital then letter.letter.toUpper else letter.letter

/-- Whether a word begins with the character. `before` holds what is before it in its run of letters
and digits, newest first, and `rest` what follows. The first one of a run begins a word; after
another letter of the run, so does a capital that follows a letter in lower case or stands right
before one. -/
def beginsWord (before : List Char) (c : Char) (rest : List Char) : Bool :=
  match before.find? Char.isAlpha with
  | none => before.isEmpty
  | some last => c.isUpper && (last.isLower || rest.head?.any Char.isLower)

/-- The letters and digits of a name; `before` holds the current run of them, newest first. -/
def camelLetters (before : List Char) : List Char → List CamelLetter
  | [] => []
  | c :: rest =>
    if c.isAlphanum then
      ⟨c.toLower, c.isAlpha && beginsWord before c rest⟩ :: camelLetters (c :: before) rest
    else camelLetters [] rest

theorem camelLetters_cons {before rest : List Char} {c : Char} (h : c.isAlphanum = true) :
    camelLetters before (c :: rest) =
      ⟨c.toLower, c.isAlpha && beginsWord before c rest⟩ :: camelLetters (c :: before) rest :=
  if_pos h

theorem camelLetters_cons_of_not {before rest : List Char} {c : Char}
    (h : c.isAlphanum = false) : camelLetters before (c :: rest) = camelLetters [] rest :=
  if_neg (by simp [h])

/-- What is neither letter nor digit ends all words. -/
theorem camelLetters_append_cons {before piece rest : List Char} {c : Char}
    (alphanumeric : ∀ c ∈ piece, c.isAlphanum = true) (breaks : c.isAlphanum = false) :
    camelLetters before (piece ++ c :: rest) =
      camelLetters before piece ++ camelLetters [] rest := by
  induction piece generalizing before with
  | nil => exact camelLetters_cons_of_not breaks
  | cons first piece ih =>
    obtain ⟨keeps, others⟩ := List.forall_mem_cons.1 alphanumeric
    have begins : beginsWord before first (piece ++ c :: rest) = beginsWord before first piece := by
      have noLower : c.isLower = false := by
        simp only [Char.isAlphanum, Char.isAlpha, Bool.or_eq_false_iff] at breaks
        exact breaks.1.2
      cases piece with
      | nil => simp [beginsWord, noLower]
      | cons next piece => rfl
    rw [List.cons_append, camelLetters_cons keeps, camelLetters_cons keeps, ih others, begins]
    rfl

/-! ## Case of letters -/

theorem isAlpha_of_isUpper {c : Char} (upper : c.isUpper = true) : c.isAlpha = true := by
  rw [Char.isAlpha, upper, Bool.true_or]

theorem isAlpha_of_isLower {c : Char} (lower : c.isLower = true) : c.isAlpha = true := by
  rw [Char.isAlpha, lower, Bool.or_true]

/-- What is no letter has no case. -/
theorem toUpper_toLower_of_not_isAlpha {c : Char} (h : c.isAlpha = false) :
    c.toUpper = c ∧ c.toLower = c := by
  obtain ⟨noUpper, noLower⟩ := Bool.or_eq_false_iff.1 h
  exact ⟨Char.toUpper_eq_of_not_isLower (by simp [noLower]),
    Char.toLower_eq_of_not_isUpper (by simp [noUpper])⟩

/-- The mode after a letter or digit is told by the case in ASCII. -/
theorem after_of_isAlphanum {c : Char} (h : c.isAlphanum = true) (mode : LetterMode) :
    mode.after c = if c.isLower then .lower else if c.isUpper then .upper else mode := by
  have ascii := toNat_lt_of_isAlphanum h
  rw [LetterMode.after, isLowercase_of_ascii ascii, isUppercase_of_ascii ascii]

/-- The case of the last letter of a run. -/
def lastCase (before : List Char) : LetterMode :=
  match before.find? Char.isAlpha with
  | none => .none
  | some last => if last.isLower then .lower else .upper

theorem lastCase_eq_iff {before : List Char} (lower : Bool) :
    lastCase before = (if lower then .lower else .upper) ↔
      ∃ last, before.find? Char.isAlpha = some last ∧ last.isLower = lower := by
  unfold lastCase
  cases before.find? Char.isAlpha with
  | none => cases lower <;> simp
  | some last => cases own : last.isLower <;> cases lower <;> simp [own]

theorem lastCase_cons {before : List Char} (c : Char) :
    lastCase (c :: before) =
      if c.isLower then .lower else if c.isUpper then .upper else lastCase before := by
  unfold lastCase
  by_cases lower : c.isLower = true
  · rw [List.find?_cons_of_pos (isAlpha_of_isLower lower), if_pos lower]
    exact if_pos lower
  · rw [if_neg lower]
    by_cases upper : c.isUpper = true
    · rw [List.find?_cons_of_pos (isAlpha_of_isUpper upper), if_pos upper]
      exact if_neg lower
    · rw [if_neg upper, List.find?_cons_of_neg (by simp [Char.isAlpha, lower, upper])]

/-! ## Words of a run -/

/-- How far the words of a run have been read: the mode and the current word, with what has been
read of the run and what follows. -/
inductive Reading : LetterMode → List Char → List Char → List Char → Prop
  /-- Nothing has been read. -/
  | start (rest : List Char) : Reading .none [] [] rest
  /-- A word has ended before a capital. -/
  | ended {before rest : List Char} {c : Char} (lower : lastCase before = .lower)
      (upper : c.isUpper = true) : Reading .none [] before (c :: rest)
  /-- A word has begun with the capital that was read last. -/
  | begun {word before rest : List Char} {c : Char} (nonempty : word ≠ [])
      (upper : lastCase before = .upper) (lower : c.isLower = true) :
      Reading .none word before (c :: rest)
  /-- A word is being read. -/
  | within {word before rest : List Char} (nonempty : word ≠ []) (started : before ≠ [])
      (goesOn : lastCase before = .lower → rest.head?.any Char.isUpper = false) :
      Reading (lastCase before) word before rest

namespace Reading

variable {mode : LetterMode} {word before rest : List Char} {c next : Char}

theorem after_eq (reading : Reading mode word before (c :: rest)) (h : c.isAlphanum = true) :
    mode.after c = lastCase (c :: before) := by
  rw [after_of_isAlphanum h, lastCase_cons]
  cases reading with
  | start => rfl
  | ended lower upper => simp [upper, Char.not_isLower_of_isUpper upper]
  | begun nonempty upper lower => rw [if_pos lower, if_pos lower]
  | within nonempty started goesOn => rfl

/-- In a run of capitals, a word begins before the last one. -/
theorem beginsWord_of_upper (reading : Reading mode word before (c :: next :: rest))
    (capitals : mode = .upper) (upper : c.isUpper = true) (lower : next.isLower = true) :
    beginsWord before c (next :: rest) = true := by
  cases reading with
  | start => cases capitals
  | ended _ _ => cases capitals
  | begun _ _ _ => cases capitals
  | within nonempty started goesOn =>
    obtain ⟨last, found, -⟩ := (lastCase_eq_iff false).1 capitals
    simp [beginsWord, found, upper, lower]

/-- Elsewhere the current word is empty exactly where one begins. -/
theorem isEmpty_eq (reading : Reading mode word before (c :: rest))
    (other : mode = .upper → c.isUpper = true → rest.head?.any Char.isLower = false) :
    word.isEmpty = beginsWord before c rest := by
  unfold beginsWord
  cases reading with
  | start => rfl
  | ended lower upper =>
    obtain ⟨last, found, last_lower⟩ := (lastCase_eq_iff true).1 lower
    simp [found, last_lower, upper]
  | begun nonempty upper lower =>
    obtain ⟨last, found, -⟩ := (lastCase_eq_iff false).1 upper
    simp [found, Char.not_isUpper_of_isLower lower, nonempty]
  | within nonempty started goesOn =>
    have empty : word.isEmpty = false := List.isEmpty_eq_false_iff.2 nonempty
    cases found : before.find? Char.isAlpha with
    | none => exact empty.trans (List.isEmpty_eq_false_iff.2 started).symm
    | some last =>
      cases lower : last.isLower with
      | true =>
        have same : c.isUpper = false := by
          simpa using goesOn ((lastCase_eq_iff true).2 ⟨last, found, lower⟩)
        simp [empty, same]
      | false =>
        have capitals := other ((lastCase_eq_iff false).2 ⟨last, found, lower⟩)
        cases upper : c.isUpper with
        | true => simp [empty, lower, capitals upper]
        | false => simp [empty]

theorem step_ended (reading : Reading mode word before (c :: next :: rest))
    (h : c.isAlphanum = true) (lower : mode.after c = .lower) (upper : next.isUpper = true) :
    Reading .none [] (c :: before) (next :: rest) :=
  .ended (reading.after_eq h ▸ lower) upper

/-- A capital before a letter in lower case is the word that has begun. -/
theorem step_begun (upper : c.isUpper = true) (lower : next.isLower = true) :
    Reading .none [c] (c :: before) (next :: rest) := by
  refine .begun (List.cons_ne_nil _ _) ?_ lower
  rw [lastCase_cons, if_neg (Char.not_isLower_of_isUpper upper), if_pos upper]

theorem step_within (reading : Reading mode word before (c :: next :: rest))
    (h : c.isAlphanum = true) (goesOn : mode.after c = .lower → next.isUpper = false) :
    Reading (mode.after c) (c :: word) (c :: before) (next :: rest) := by
  rw [reading.after_eq h] at goesOn ⊢
  exact .within (List.cons_ne_nil _ _) (List.cons_ne_nil _ _) (by simpa using goesOn)

end Reading

/-! ## Camel case -/

theorem char_camelLetter (c : Char) (begins : Bool) :
    (⟨c.toLower, c.isAlpha && begins⟩ : CamelLetter).char =
      if begins then c.toUpper else c.toLower := by
  unfold CamelLetter.char
  cases alpha : c.isAlpha with
  | true => simp
  | false =>
    obtain ⟨upper, lower⟩ := toUpper_toLower_of_not_isAlpha alpha
    simp [upper, lower]

/-- A character put behind a word is a capital exactly if it is the first one. -/
theorem capitalize_append_singleton {c : Char} {word : List Char} (last : c.toNat < 0x80)
    (ascii : ∀ c' ∈ word, c'.toNat < 0x80) :
    capitalize (word ++ [c]) =
      capitalize word ++ [if word.isEmpty then c.toUpper else c.toLower] := by
  have all : ∀ c' ∈ word ++ [c], c'.toNat < 0x80 := by
    simpa [or_imp, forall_and, last] using ascii
  cases word with
  | nil => exact capitalize_of_ascii all
  | cons first others =>
    rw [capitalize_of_ascii ascii]
    refine (capitalize_of_ascii all).trans ?_
    rw [List.append_eq, List.map_append]
    rfl

/-- The letter read next is written behind the word as it is in camel case. -/
theorem capitalize_reverse_cons {c : Char} {before rest word : List Char}
    (alphanumeric : ∀ c' ∈ c :: word, c'.isAlphanum = true)
    (begins : word.isEmpty = beginsWord before c rest) :
    capitalize (c :: word).reverse = capitalize word.reverse ++
      [(⟨c.toLower, c.isAlpha && beginsWord before c rest⟩ : CamelLetter).char] := by
  obtain ⟨first, others⟩ := List.forall_mem_cons.1 alphanumeric
  rw [List.reverse_cons, char_camelLetter, ← begins, ← List.isEmpty_reverse]
  exact capitalize_append_singleton (toNat_lt_of_isAlphanum first) fun c' mem =>
    toNat_lt_of_isAlphanum (others c' (List.mem_reverse.1 mem))

theorem flatMap_capitalize_camelWords {mode : LetterMode} {word before cs : List Char}
    (reading : Reading mode word before cs)
    (read : ∀ c ∈ word, c.isAlphanum = true) (left : ∀ c ∈ cs, c.isAlphanum = true) :
    (camelWords mode word cs).flatMap capitalize =
      capitalize word.reverse ++ (camelLetters before cs).map CamelLetter.char := by
  fun_induction camelWords mode word cs generalizing before with
  | case1 mode word empty =>
    obtain rfl := List.isEmpty_iff.1 empty
    rfl
  | case2 mode word nonempty => simp [camelLetters]
  -- The run ends here, so no letter in lower case can follow.
  | case3 mode word c =>
    have alphanumeric := left c List.mem_cons_self
    have begins := reading.isEmpty_eq fun _ _ => rfl
    rw [List.flatMap_singleton, camelLetters_cons alphanumeric,
      capitalize_reverse_cons (List.forall_mem_cons.2 ⟨alphanumeric, read⟩) begins]
    rfl
  -- The next character is the capital of another word.
  | case4 mode word c next rest ends ih =>
    obtain ⟨alphanumeric, others⟩ := List.forall_mem_cons.1 left
    have upper : next.isUpper = true := by
      rw [← isUppercase_of_ascii (toNat_lt_of_isAlphanum (others next List.mem_cons_self))]
      exact ends.2
    have begins := reading.isEmpty_eq fun _ _ => by
      simpa using Char.not_isLower_of_isUpper upper
    have step := reading.step_ended alphanumeric ends.1 upper
    rw [List.flatMap_cons, ih step (List.forall_mem_nil _) others, camelLetters_cons alphanumeric,
      capitalize_reverse_cons (List.forall_mem_cons.2 ⟨alphanumeric, read⟩) begins,
      List.append_assoc]
    rfl
  -- The word has ended before this capital, which the next one goes on with.
  | case5 mode word c next rest _ begun ih =>
    obtain ⟨alphanumeric, others⟩ := List.forall_mem_cons.1 left
    have ascii := toNat_lt_of_isAlphanum alphanumeric
    obtain ⟨capitals, upper, lower⟩ := begun
    rw [isUppercase_of_ascii ascii] at upper
    rw [isLowercase_of_ascii (toNat_lt_of_isAlphanum (others next List.mem_cons_self))] at lower
    have alone : ∀ c' ∈ [c], c'.isAlphanum = true := by simpa using alphanumeric
    rw [List.flatMap_cons, ih (.step_begun upper lower) alone others,
      camelLetters_cons alphanumeric, reading.beginsWord_of_upper capitals upper lower,
      List.reverse_singleton, capitalize_of_ascii (by simpa using ascii), List.map_cons,
      char_camelLetter]
    rfl
  -- The character belongs to the word, whose first one it is if the word is empty.
  | case6 mode word c next rest goesOn other ih =>
    obtain ⟨alphanumeric, others⟩ := List.forall_mem_cons.1 left
    have ascii := toNat_lt_of_isAlphanum alphanumeric
    have next_ascii := toNat_lt_of_isAlphanum (others next List.mem_cons_self)
    rw [isUppercase_of_ascii next_ascii] at goesOn
    rw [isUppercase_of_ascii ascii, isLowercase_of_ascii next_ascii] at other
    have begins := reading.isEmpty_eq fun capitals upper => by
      simpa [capitals, upper] using other
    have step := reading.step_within alphanumeric fun lower => by simpa [lower] using goesOn
    rw [ih step (List.forall_mem_cons.2 ⟨alphanumeric, read⟩) others,
      camelLetters_cons alphanumeric,
      capitalize_reverse_cons (List.forall_mem_cons.2 ⟨alphanumeric, read⟩) begins,
      List.append_assoc]
    rfl

theorem flatMap_camelLetters_pieces {run cs : List Char}
    (read : ∀ c ∈ run, c.isAlphanum = true) (ascii : ∀ c ∈ cs, c.toNat < 0x80) :
    (alphanumericPieces run cs).flatMap (camelLetters []) =
      camelLetters [] (run.reverse ++ cs) := by
  induction cs generalizing run with
  | nil =>
    unfold alphanumericPieces
    cases run with
    | nil => rfl
    | cons last run => simp
  | cons c cs ih =>
    obtain ⟨first, others⟩ := List.forall_mem_cons.1 ascii
    rw [alphanumericPieces, isAlphanumeric_of_ascii first]
    cases keeps : c.isAlphanum with
    | true =>
      rw [if_pos rfl, ih (List.forall_mem_cons.2 ⟨keeps, read⟩) others]
      simp
    | false =>
      have rest := @ih [] (List.forall_mem_nil _) others
      rw [if_neg Bool.false_ne_true,
        camelLetters_append_cons (fun c' mem => read c' (List.mem_reverse.1 mem)) keeps]
      cases run with
      | nil => exact rest
      | cons last run =>
        rw [if_neg (by simp), List.flatMap_cons, rest]
        rfl

theorem isAlphanum_of_mem_pieces {run cs piece : List Char}
    (read : ∀ c ∈ run, c.isAlphanum = true) (chars : NameChars cs)
    (mem : piece ∈ alphanumericPieces run cs) : ∀ c ∈ piece, c.isAlphanum = true := by
  intro c hc
  have listed : c ∈ run.reverse ++ cs.filter isAlphanumeric :=
    flatten_alphanumericPieces run cs ▸ List.mem_flatten.2 ⟨piece, mem, hc⟩
  rcases List.mem_append.1 listed with first | later
  · exact read c (List.mem_reverse.1 first)
  · obtain ⟨within, keeps⟩ := List.mem_filter.1 later
    rwa [isAlphanumeric_of_ascii (chars.toNat_lt within)] at keeps

/-- Camel case consists of the letters and digits of a name, with capitals where words begin. -/
theorem camelCaseChars_eq {cs : List Char} (chars : NameChars cs) :
    camelCaseChars cs = (camelLetters [] cs).map CamelLetter.char := by
  have words : ∀ piece ∈ alphanumericPieces [] cs,
      (camelWords .none [] piece).flatMap capitalize =
        (camelLetters [] piece).map CamelLetter.char := fun piece mem =>
    flatMap_capitalize_camelWords (.start piece) (List.forall_mem_nil _)
      (isAlphanum_of_mem_pieces (List.forall_mem_nil _) chars mem)
  calc camelCaseChars cs
      = (alphanumericPieces [] cs).flatMap fun piece =>
          (camelWords .none [] piece).flatMap capitalize := List.flatMap_assoc
    _ = (alphanumericPieces [] cs).flatMap fun piece =>
          (camelLetters [] piece).map CamelLetter.char := List.flatMap_congr words
    _ = ((alphanumericPieces [] cs).flatMap (camelLetters [])).map CamelLetter.char :=
        (List.map_flatMap ..).symm
    _ = (camelLetters [] cs).map CamelLetter.char := by
        rw [flatMap_camelLetters_pieces (List.forall_mem_nil _) fun c mem => chars.toNat_lt mem]
        rfl

/-- The letters of a name can be read off its camel case. -/
theorem map_char_camelLetters (before cs : List Char) :
    ((camelLetters before cs).map CamelLetter.char).map (fun c => ⟨c.toLower, c.isUpper⟩) =
      camelLetters before cs := by
  induction cs generalizing before with
  | nil => rfl
  | cons c cs ih =>
    cases keeps : c.isAlphanum with
    | false => rw [camelLetters_cons_of_not keeps, ih]
    | true =>
      rw [camelLetters_cons keeps, List.map_cons, List.map_cons, ih, char_camelLetter]
      congr 1
      cases beginsWord before c cs with
      | true => simp
      | false => simp

/-- Names become one identifier exactly if their letters and digits agree, and words begin with the
same ones. -/
theorem camelCase_eq_iff {first second : String} (first_chars : NameChars first.toList)
    (second_chars : NameChars second.toList) :
    camelCase first = camelCase second ↔
      camelLetters [] first.toList = camelLetters [] second.toList := by
  rw [camelCase, camelCase, String.ofList_inj, camelCaseChars_eq first_chars,
    camelCaseChars_eq second_chars]
  constructor
  · intro same
    rw [← map_char_camelLetters [] first.toList, same, map_char_camelLetters]
  · intro same
    rw [same]

example : camelLetters [] "HTTPServer".toList = camelLetters [] "http_server".toList := by
  decide +kernel

/-! ## Identifiers -/

/-- An identifier that other packages can use: it starts with a capital and consists of letters,
digits and underscores. -/
structure IsExported (identifier : String) : Prop where
  capital : identifier.toList.head?.any Char.isUpper = true
  chars : NameChars identifier.toList

/-- The first letter or digit of the name is a letter. -/
def startsWithLetter (name : String) : Bool :=
  (name.toList.find? Char.isAlphanum).any Char.isAlpha

theorem exists_of_mem_camelLetters {letter : CamelLetter} {before cs : List Char}
    (mem : letter ∈ camelLetters before cs) :
    ∃ c : Char, c.isAlphanum = true ∧ ∃ begins, letter = ⟨c.toLower, c.isAlpha && begins⟩ := by
  induction cs generalizing before with
  | nil => cases mem
  | cons c cs ih =>
    cases keeps : c.isAlphanum with
    | false =>
      rw [camelLetters_cons_of_not keeps] at mem
      exact ih mem
    | true =>
      rw [camelLetters_cons keeps] at mem
      rcases List.mem_cons.1 mem with rfl | mem
      · exact ⟨c, keeps, beginsWord before c cs, rfl⟩
      · exact ih mem

theorem isAlphanum_of_mem_camelCaseChars {cs : List Char} (chars : NameChars cs) {c : Char}
    (mem : c ∈ camelCaseChars cs) : c.isAlphanum = true := by
  rw [camelCaseChars_eq chars] at mem
  obtain ⟨letter, listed, rfl⟩ := List.mem_map.1 mem
  obtain ⟨c, keeps, begins, rfl⟩ := exists_of_mem_camelLetters listed
  rw [char_camelLetter]
  cases alpha : c.isAlpha with
  | true => cases begins <;> simp [Char.isAlphanum, alpha]
  | false =>
    obtain ⟨upper, lower⟩ := toUpper_toLower_of_not_isAlpha alpha
    rwa [upper, lower, ite_self]

theorem head?_camelCaseChars {cs : List Char} (chars : NameChars cs) :
    (camelCaseChars cs).head? = (cs.find? Char.isAlphanum).map Char.toUpper := by
  have first : (camelLetters [] cs).head? =
      (cs.find? Char.isAlphanum).map fun c => ⟨c.toLower, c.isAlpha && true⟩ := by
    clear chars
    induction cs with
    | nil => rfl
    | cons c cs ih =>
      cases keeps : c.isAlphanum with
      | false => rw [camelLetters_cons_of_not keeps, List.find?_cons_of_neg (by simp [keeps]), ih]
      | true => rw [camelLetters_cons keeps, List.find?_cons_of_pos keeps]; rfl
  rw [camelCaseChars_eq chars, List.head?_map, first, Option.map_map]
  exact congrArg (Option.map · _) (funext fun c => char_camelLetter c true)

/-- An identifier is exported exactly if the first letter or digit of the name is a letter. -/
theorem isExported_camelCase_iff {name : String} (chars : NameChars name.toList) :
    IsExported (camelCase name) ↔ startsWithLetter name = true := by
  have capital : (camelCase name).toList.head?.any Char.isUpper = startsWithLetter name := by
    rw [camelCase, String.toList_ofList, head?_camelCaseChars chars, startsWithLetter]
    cases name.toList.find? Char.isAlphanum <;> simp
  constructor
  · intro exported
    exact capital ▸ exported.capital
  · intro letter
    refine ⟨capital.trans letter, fun c mem => .inr ?_⟩
    rw [camelCase, String.toList_ofList] at mem
    exact isAlphanum_of_mem_camelCaseChars chars mem

end SchemaBindings.Text
