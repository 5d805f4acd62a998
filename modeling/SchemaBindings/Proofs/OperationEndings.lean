import SchemaBindings.Proofs.ConvertedNames
import SchemaBindings.Proofs.OperationTypeNames

/-!
# Endings of converted names

Which names end in the ending of a kind of operations (`Query`) after conversion. Conversion decides
by words, so this need not be told by the name itself: `get_query` is converted to `Get_Query`, and
`_1Query` to `_1query` (`NameStyle.isSuffix_core_iff`). Where doubled endings are avoided, the names
of the types of an operation have the ending once exactly if conversion leaves it alone
(`Plugin.runOperations_endings_iff`).
-/

namespace SchemaBindings

namespace Text

/-! ## Last parts -/

/-- What stands behind the last underscore of a name. -/
def lastPart (cs : List Char) : List Char :=
  (splitChars '_' cs).getLast (splitChars_ne_nil '_' cs)

theorem isSuffix_append_cons_iff {sep : Char} {ending : List Char} (absent : sep ∉ ending)
    (front back : List Char) : ending <:+ front ++ sep :: back ↔ ending <:+ back := by
  constructor
  · rintro ⟨before, split⟩
    rcases List.append_eq_append_iff.1 split with ⟨rest, -, longer⟩ | ⟨rest, -, shorter⟩
    · exact absurd (longer ▸ List.mem_append_right _ List.mem_cons_self) absent
    · cases rest with
      | nil => exact absurd (show sep ∈ [] ++ ending from shorter ▸ List.mem_cons_self) absent
      | cons first rest => exact ⟨rest, (List.cons.inj shorter).2.symm⟩
  · exact fun h => (h.trans (List.suffix_cons sep back)).trans (List.suffix_append front _)

/-- What holds no separator ends a text exactly if it ends its last piece. -/
theorem isSuffix_intercalate_iff {sep : Char} {ending : List Char} (absent : sep ∉ ending)
    {pieces : List (List Char)} (nonempty : pieces ≠ []) :
    ending <:+ [sep].intercalate pieces ↔ ending <:+ pieces.getLast nonempty := by
  induction pieces with
  | nil => exact absurd rfl nonempty
  | cons piece rest ih =>
    cases rest with
    | nil => simp
    | cons next rest =>
      rw [List.intercalate_cons_cons, List.append_assoc, List.singleton_append,
        isSuffix_append_cons_iff absent, ih (List.cons_ne_nil _ _),
        List.getLast_cons (List.cons_ne_nil _ _)]

theorem isSuffix_lastPart_iff {ending : List Char} (absent : '_' ∉ ending) (cs : List Char) :
    ending <:+ cs ↔ ending <:+ lastPart cs := by
  conv_lhs => rw [← intercalate_splitChars '_' cs]
  exact isSuffix_intercalate_iff absent _

/-! ## Letters of an ending -/

theorem length_camelLetters {before cs : List Char}
    (alphanumeric : ∀ c ∈ cs, c.isAlphanum = true) :
    (camelLetters before cs).length = cs.length := by
  induction cs generalizing before with
  | nil => rfl
  | cons c cs ih =>
    obtain ⟨first, others⟩ := List.forall_mem_cons.1 alphanumeric
    rw [camelLetters_cons first, List.length_cons, List.length_cons, ih others]

/-- The letters of what stands behind `front` depend on it as on what is before them. -/
theorem drop_camelLetters {before front back : List Char}
    (alphanumeric : ∀ c ∈ front, c.isAlphanum = true) :
    (camelLetters before (front ++ back)).drop front.length =
      camelLetters (front.reverse ++ before) back := by
  induction front generalizing before with
  | nil => rfl
  | cons c front ih =>
    obtain ⟨first, others⟩ := List.forall_mem_cons.1 alphanumeric
    rw [List.cons_append, camelLetters_cons first, List.length_cons, List.drop_succ_cons,
      ih others, List.reverse_cons, List.append_assoc, List.singleton_append]

theorem isSuffix_camelCaseChars_iff {ending piece : List Char}
    (alphanumeric : ∀ c ∈ piece, c.isAlphanum = true) :
    ending <:+ camelCaseChars piece ↔ ∃ front back, piece = front ++ back ∧
      (camelLetters front.reverse back).map CamelLetter.char = ending := by
  have letters : ∀ front back, piece = front ++ back →
      (camelCaseChars piece).drop front.length =
        (camelLetters front.reverse back).map CamelLetter.char := by
    rintro front back rfl
    rw [camelCaseChars_eq fun c mem => .inr (alphanumeric c mem), ← List.map_drop,
      drop_camelLetters fun c mem => alphanumeric c (List.mem_append_left _ mem),
      List.append_nil]
  constructor
  · rintro ⟨before, split⟩
    have short : before.length ≤ piece.length := by
      have lengths := congrArg List.length split
      rw [camelCaseChars_eq fun c mem => .inr (alphanumeric c mem), List.length_map,
        length_camelLetters alphanumeric, List.length_append] at lengths
      omega
    refine ⟨piece.take before.length, piece.drop before.length,
      (List.take_append_drop _ _).symm, ?_⟩
    rw [← letters _ _ (List.take_append_drop _ _).symm, List.length_take,
      Nat.min_eq_left short, ← split, List.drop_left]
  · rintro ⟨front, back, split, rfl⟩
    rw [← letters front back split]
    exact List.drop_suffix _ _

/-! ## Capitalized endings -/

/-- A word of several letters with a capital in front and the others in lower case. -/
structure IsCapitalized (word : List Char) : Prop where
  capital : word.head?.any Char.isUpper = true
  others : ∀ c ∈ word.tail, c.isLower = true
  several : word.tail ≠ []

namespace IsCapitalized

variable {word : List Char}

theorem ne_map_toLower (capitalized : IsCapitalized word) : word ≠ word.map Char.toLower := by
  intro same
  have capital := capitalized.capital
  rw [same] at capital
  cases word <;> simp at capital

theorem ne_map_toUpper (capitalized : IsCapitalized word) : word ≠ word.map Char.toUpper := by
  intro same
  obtain ⟨letter, mem⟩ := List.exists_mem_of_ne_nil _ capitalized.several
  have lower := capitalized.others letter mem
  rw [same, ← List.map_tail] at mem
  obtain ⟨c, -, rfl⟩ := List.mem_map.1 mem
  simp at lower

end IsCapitalized

theorem toLower_eq_self {c : Char} (lower : c.isLower = true) : c.toLower = c :=
  Char.toLower_eq_of_not_isUpper (by simpa using Char.not_isUpper_of_isLower lower)

theorem char_eq_lower_iff {c letter : Char} (lower : letter.isLower = true) (begins : Bool) :
    (⟨c.toLower, c.isAlpha && begins⟩ : CamelLetter).char = letter ↔
      c.toLower = letter ∧ begins = false := by
  rw [char_camelLetter]
  cases begins with
  | false => simp
  | true =>
    refine iff_of_false (fun same => ?_) (by simp)
    rw [← same, if_pos rfl, Char.isLower_toUpper_eq_false] at lower
    cases lower

theorem char_eq_upper_iff {c letter : Char} (upper : letter.isUpper = true) (begins : Bool) :
    (⟨c.toLower, c.isAlpha && begins⟩ : CamelLetter).char = letter ↔
      c.toUpper = letter ∧ begins = true := by
  rw [char_camelLetter]
  cases begins with
  | true => simp
  | false =>
    refine iff_of_false (fun same => ?_) (by simp)
    rw [← same, if_neg Bool.false_ne_true, Char.isUpper_toLower_eq_false] at upper
    cases upper

/-- Behind a letter, a word begins with a capital between letters that are not both capitals. -/
theorem beginsWord_cons {last : Char} (alpha : last.isAlpha = true) (before : List Char) (c : Char)
    (rest : List Char) : beginsWord (last :: before) c rest =
      (c.isUpper && (last.isLower || rest.head?.any Char.isLower)) := by
  unfold beginsWord
  rw [List.find?_cons_of_pos alpha]

theorem head?_map_toUpper (letters : List Char) :
    (letters.map Char.toUpper).head?.any Char.isLower = false := by
  cases letters with
  | nil => rfl
  | cons letter letters => exact Char.isLower_toUpper_eq_false letter

/-- Behind a letter, a run is in lower case where no word begins. -/
theorem map_char_camelLetters_eq_iff {before rest letters : List Char} {last : Char}
    (alpha : last.isAlpha = true) (alphanumeric : ∀ c ∈ rest, c.isAlphanum = true)
    (lower : ∀ c ∈ letters, c.isLower = true) :
    (camelLetters (last :: before) rest).map CamelLetter.char = letters ↔
      rest = letters ∨ last.isUpper = true ∧ rest = letters.map Char.toUpper := by
  induction rest generalizing before last letters with
  | nil => cases letters <;> simp [camelLetters]
  | cons c rest ih =>
    obtain ⟨first, others⟩ := List.forall_mem_cons.1 alphanumeric
    rw [camelLetters_cons first, List.map_cons]
    cases letters with
    | nil => simp
    | cons letter letters =>
      obtain ⟨own, later⟩ := List.forall_mem_cons.1 lower
      rw [List.cons.injEq, char_eq_lower_iff own, beginsWord_cons alpha]
      constructor
      · rintro ⟨⟨same, goesOn⟩, tail⟩
        have letter_c : c.isAlpha = true := by
          rw [← Char.isLower_toLower_eq_isAlpha, same]
          exact own
        have tails := (ih letter_c others later).1 tail
        cases upper : c.isUpper with
        | false =>
          rw [Char.toLower_eq_of_not_isUpper (by simp [upper])] at same
          refine .inl (List.cons_eq_cons.2 ⟨same, tails.resolve_right fun capitals => ?_⟩)
          exact Bool.false_ne_true (upper.symm.trans capitals.1)
        | true =>
          rw [upper, Bool.true_and, Bool.or_eq_false_iff] at goesOn
          obtain ⟨last_capital, next_capital⟩ := goesOn
          have last_upper : last.isUpper = true := by
            simpa [Char.isAlpha, last_capital] using alpha
          have capital : c = letter.toUpper := by
            rw [← same, Char.toUpper_toLower_eq_toUpper,
              Char.toUpper_eq_of_not_isLower (Char.not_isLower_of_isUpper upper)]
          refine .inr ⟨last_upper, List.cons_eq_cons.2 ⟨capital, ?_⟩⟩
          rcases tails with rfl | capitals
          · -- Of letters in lower case, none can follow here.
            cases rest with
            | nil => rfl
            | cons next rest =>
              exact absurd (later next List.mem_cons_self) (by simpa using next_capital)
          · exact capitals.2
      · rintro (same | ⟨upper, same⟩)
        · obtain ⟨rfl, rfl⟩ := List.cons_eq_cons.1 same
          refine ⟨⟨toLower_eq_self own, ?_⟩,
            (ih (isAlpha_of_isLower own) others later).2 (.inl rfl)⟩
          simp [Char.not_isUpper_of_isLower own]
        · obtain ⟨rfl, rfl⟩ := List.cons_eq_cons.1 same
          have capital : letter.toUpper.isUpper = true := by simp [isAlpha_of_isLower own]
          refine ⟨⟨?_, ?_⟩, (ih (isAlpha_of_isUpper capital) others later).2 (.inr ⟨capital, rfl⟩)⟩
          · rw [Char.toLower_toUpper_eq_toLower, toLower_eq_self own]
          · rw [head?_map_toUpper]
            simp [Char.not_isLower_of_isUpper upper]

theorem beginsWord_iff {before rest : List Char} {c : Char} :
    beginsWord before c rest = true ↔ before = [] ∨
      ∃ last, before.find? Char.isAlpha = some last ∧ c.isUpper = true ∧
        (last.isLower = true ∨ rest.head?.any Char.isLower = true) := by
  unfold beginsWord
  cases found : before.find? Char.isAlpha with
  | none => simp
  | some last =>
    have nonempty : before ≠ [] := by
      rintro rfl
      cases found
    simp [nonempty]

/-- The last letters of a run are a capitalized word if they are it and a word begins with any
capital, if they are in lower case at the start of the run, or if they are capitals that begin a
word here. -/
theorem map_char_camelLetters_eq_capitalized_iff {front back word : List Char}
    (capitalized : IsCapitalized word) (alphanumeric : ∀ c ∈ back, c.isAlphanum = true) :
    (camelLetters front.reverse back).map CamelLetter.char = word ↔
      back = word ∧ (front = [] ∨ (front.reverse.find? Char.isAlpha).isSome = true) ∨
      back = word.map Char.toLower ∧ front = [] ∨
      back = word.map Char.toUpper ∧
        (front = [] ∨ (front.reverse.find? Char.isAlpha).any Char.isLower = true) := by
  obtain ⟨upper, lower, several⟩ := capitalized
  cases word with
  | nil => cases upper
  | cons capital letters =>
    replace upper : capital.isUpper = true := upper
    replace lower : ∀ c ∈ letters, c.isLower = true := lower
    have lowered : letters.map Char.toLower = letters :=
      (List.map_congr_left fun c mem => toLower_eq_self (lower c mem)).trans (List.map_id _)
    have kept : capital.toUpper = capital :=
      Char.toUpper_eq_of_not_isLower (Char.not_isLower_of_isUpper upper)
    have next : letters.head?.any Char.isLower = true := by
      cases letters with
      | nil => exact absurd rfl several
      | cons letter letters => exact lower letter List.mem_cons_self
    cases back with
    | nil => simp [camelLetters]
    | cons c rest =>
      obtain ⟨first, others⟩ := List.forall_mem_cons.1 alphanumeric
      rw [camelLetters_cons first, List.map_cons, List.cons.injEq, char_eq_upper_iff upper,
        beginsWord_iff, List.reverse_eq_nil_iff]
      have tails := fun alpha => @map_char_camelLetters_eq_iff front.reverse rest letters c alpha
        others lower
      constructor
      · rintro ⟨⟨same, begins⟩, tail⟩
        have alpha : c.isAlpha = true := by
          rw [← Char.isUpper_toUpper_eq_isAlpha, same]
          exact upper
        have own : c.isUpper = true → c = capital := fun own => by
          rw [← same, Char.toUpper_eq_of_not_isLower (Char.not_isLower_of_isUpper own)]
        rcases (tails alpha).1 tail with rfl | ⟨c_upper, rfl⟩
        · by_cases c_upper : c.isUpper = true
          · refine .inl ⟨List.cons_eq_cons.2 ⟨own c_upper, rfl⟩, begins.imp_right ?_⟩
            rintro ⟨last, found, -⟩
            rw [found]
            rfl
          · have start : front = [] := begins.resolve_right (by
              rintro ⟨-, -, own_upper, -⟩
              exact c_upper own_upper)
            refine .inr (.inl ⟨?_, start⟩)
            rw [List.map_cons, lowered, ← same, Char.toLower_toUpper_eq_toLower,
              Char.toLower_eq_of_not_isUpper c_upper]
        · refine .inr (.inr ⟨?_, begins.imp_right ?_⟩)
          · rw [List.map_cons, kept, own c_upper]
          · rintro ⟨last, found, -, last_lower | next_lower⟩
            · rw [found]
              exact last_lower
            · exact absurd (head?_map_toUpper letters ▸ next_lower) Bool.false_ne_true
      · rintro (⟨same, begins⟩ | ⟨same, rfl⟩ | ⟨same, begins⟩)
        · obtain ⟨rfl, rfl⟩ := List.cons_eq_cons.1 same
          refine ⟨⟨kept, begins.imp_right fun letter => ?_⟩,
            (tails (isAlpha_of_isUpper upper)).2 (.inl rfl)⟩
          obtain ⟨last, found⟩ := Option.isSome_iff_exists.1 letter
          exact ⟨last, found, upper, .inr next⟩
        · obtain ⟨rfl, rfl⟩ := List.cons_eq_cons.1 same
          refine ⟨⟨by rw [Char.toUpper_toLower_eq_toUpper, kept], .inl rfl⟩, ?_⟩
          exact (tails (by simp [isAlpha_of_isUpper upper])).2 (.inl lowered)
        · obtain ⟨rfl, rfl⟩ := List.cons_eq_cons.1 (same.trans (List.map_cons ..))
          rw [kept] at tails ⊢
          refine ⟨⟨kept, begins.imp_right fun lower_letter => ?_⟩,
            (tails (isAlpha_of_isUpper upper)).2 (.inr ⟨upper, rfl⟩)⟩
          obtain ⟨last, found, last_lower⟩ := (Option.any_eq_true ..).1 lower_letter
          exact ⟨last, found, upper, .inl last_lower⟩

/-- How a run of letters and digits ends where camel case changes whether it ends in a capitalized
word. -/
inductive ChangesEnding (word : List Char) : List Char → Prop
  /-- In the word behind digits alone, which begin no word with a capital behind them. -/
  | lowered {digits : List Char} (nonempty : digits ≠ [])
      (noLetter : ∀ c ∈ digits, c.isAlpha = false) : ChangesEnding word (digits ++ word)
  /-- It is the word in lower case. -/
  | lowercase : ChangesEnding word (word.map Char.toLower)
  /-- In the word in capitals, which begins the run or follows a letter in lower case. -/
  | capitals {front : List Char} (begins : front = [] ∨
      (front.reverse.find? Char.isAlpha).any Char.isLower = true) :
      ChangesEnding word (front ++ word.map Char.toUpper)

/-- Camel case leaves alone whether a run ends in a capitalized word, except for these. -/
theorem isSuffix_iff_camelCaseChars_iff {word piece : List Char}
    (capitalized : IsCapitalized word) (alphanumeric : ∀ c ∈ piece, c.isAlphanum = true) :
    (word <:+ piece ↔ word <:+ camelCaseChars piece) ↔ ¬ChangesEnding word piece := by
  have cases_iff : ∀ {front back}, piece = front ++ back →
      ((camelLetters front.reverse back).map CamelLetter.char = word ↔ _) := fun split =>
    map_char_camelLetters_eq_capitalized_iff capitalized fun c mem =>
      alphanumeric c (split ▸ List.mem_append_right _ mem)
  rw [isSuffix_camelCaseChars_iff alphanumeric]
  constructor
  · intro same changes
    cases changes with
    | @lowered digits nonempty noLetter =>
      obtain ⟨front, back, split, letters⟩ := same.1 (List.suffix_append _ _)
      rcases (cases_iff split).1 letters with ⟨rfl, letter⟩ | ⟨rfl, -⟩ | ⟨rfl, -⟩
      · obtain rfl := List.append_cancel_right split
        have none : digits.reverse.find? Char.isAlpha = none :=
          List.find?_eq_none.2 fun c mem => by simp [noLetter c (List.mem_reverse.1 mem)]
        rw [none] at letter
        exact letter.elim nonempty (by simp)
      · exact capitalized.ne_map_toLower (List.append_inj' split (by simp)).2
      · exact capitalized.ne_map_toUpper (List.append_inj' split (by simp)).2
    | lowercase =>
      have ends := same.2 ⟨[], _, rfl, (cases_iff rfl).2 (.inr (.inl ⟨rfl, rfl⟩))⟩
      exact capitalized.ne_map_toLower (ends.eq_of_length (by simp))
    | @capitals front begins =>
      have ends := same.2 ⟨front, _, rfl, (cases_iff rfl).2 (.inr (.inr ⟨rfl, begins⟩))⟩
      have alone := List.suffix_of_suffix_length_le ends (List.suffix_append _ _) (by simp)
      exact capitalized.ne_map_toUpper (alone.eq_of_length (by simp))
  · intro unchanged
    constructor
    · rintro ⟨front, rfl⟩
      refine ⟨front, word, rfl, (cases_iff rfl).2 (.inl ⟨rfl, ?_⟩)⟩
      by_contra neither
      obtain ⟨nonempty, noLetter⟩ := not_or.1 neither
      refine unchanged (.lowered nonempty fun c mem => ?_)
      have none := List.find?_eq_none.1 (Option.not_isSome_iff_eq_none.1 noLetter)
      simpa using none c (List.mem_reverse.2 mem)
    · rintro ⟨front, back, rfl, letters⟩
      rcases (cases_iff rfl).1 letters with ⟨rfl, -⟩ | ⟨rfl, rfl⟩ | ⟨rfl, begins⟩
      · exact List.suffix_append _ _
      · exact absurd .lowercase unchanged
      · exact absurd (.capitals begins) unchanged

end Text

open Text

theorem OperationKind.isCapitalized_typeSuffix (kind : OperationKind) :
    IsCapitalized kind.typeSuffix.toList := by
  cases kind <;> exact ⟨by decide, List.all_eq_true.1 (by decide), by decide⟩

theorem OperationKind.underscore_not_mem_typeSuffix (kind : OperationKind) :
    '_' ∉ kind.typeSuffix.toList := by
  cases kind <;> decide

namespace NameStyle

variable {style : NameStyle}

theorem isSuffix_core_iff {name : String} (chars : NameChars name.toList) (kind : OperationKind) :
    (kind.typeSuffix.toList <:+ (style.core false name).toList ↔
        kind.typeSuffix.toList <:+ name.toList) ↔
      (style.convention = .pascalCase →
        ¬ChangesEnding kind.typeSuffix.toList (lastPart name.toList)) := by
  cases convention : style.convention with
  | keep =>
    have same : style.core false name = name := by rw [core, convention]
    simp [same]
  | pascalCase =>
    have alphanumeric : ∀ c ∈ lastPart name.toList, c.isAlphanum = true :=
      isAlphanum_of_mem_splitChars chars (List.getLast_mem _)
    have plain := kind.underscore_not_mem_typeSuffix
    rw [isSuffix_lastPart_iff plain name.toList, toList_core_of_pascalCase convention,
      isSuffix_intercalate_iff plain (by simp [splitChars_ne_nil]), List.getLast_map,
      imp_iff_right rfl,
      ← isSuffix_iff_camelCaseChars_iff kind.isCapitalized_typeSuffix alphanumeric]
    exact iff_comm

end NameStyle

namespace OperationGenerator

variable {generator : OperationGenerator}

theorem resultTypeName_of_dedupe (dedupe : generator.options.dedupeOperationSuffix = true)
    (name : String) (kind : OperationKind) :
    generator.resultTypeName name kind =
      generator.options.typesPrefix ++ generator.options.names.core false name ++
        if kind.typeSuffix.toList <:+ name.toList then "" else kind.typeSuffix := by
  rw [resultTypeName, suffix_eq]
  simp only [dedupe, true_and]
  rfl

theorem resultTypeName_once_iff (dedupe : generator.options.dedupeOperationSuffix = true)
    {name : String} (chars : NameChars name.toList) (kind : OperationKind) :
    generator.resultTypeName name kind =
        generator.options.typesPrefix ++ generator.options.names.core false name ++
          (if kind.typeSuffix.toList <:+ (generator.options.names.core false name).toList then ""
            else kind.typeSuffix) ↔
      (generator.options.namingConvention = .pascalCase →
        ¬ChangesEnding kind.typeSuffix.toList (lastPart name.toList)) := by
  have endings : ∀ P Q : Prop, [Decidable P] → [Decidable Q] →
      ((if P then "" else kind.typeSuffix) = (if Q then "" else kind.typeSuffix) ↔ (Q ↔ P)) := by
    intro P Q _ _
    have nonempty := kind.typeSuffix_ne_empty
    by_cases p : P <;> by_cases q : Q <;> simp [p, q, nonempty, nonempty.symm]
  rw [resultTypeName_of_dedupe dedupe, String.append_right_inj, endings]
  exact NameStyle.isSuffix_core_iff chars kind

end OperationGenerator

/-! ## Outputs -/

namespace Plugin

/-- The result type of an operation has the ending of its kind once exactly if conversion leaves
alone whether the name has the ending. -/
theorem runOperations_endings_iff {schema : Schema} {files : List DocumentFile}
    {options : Options} {info : PluginInfo} (dedupe : options.dedupeOperationSuffix = true)
    {output : PluginOutput} (ok : (runOperations schema files options info).outcome = .ok output) :
    let generator := operationGenerator schema files options info
    ∃ declarations : List Declaration,
      output.content = "\n".intercalate (declarations.map (·.text {})) ∧
      declarations.map (·.name) = (DocumentFile.concat files).flatMap generator.typeNames ∧
      ∀ operation ∈ (DocumentFile.concat files).operations, ∀ name,
        operation.name? = some name → NameChars name.toList →
        let converted := options.names.core false name
        let ending := operation.kind.typeSuffix
        ∃ result, generator.typeNames (.operation operation) = [result ++ "Variables", result] ∧
          result = options.typesPrefix ++ converted ++
            (if ending.toList <:+ name.toList then "" else ending) ∧
          (result = options.typesPrefix ++ converted ++
              (if ending.toList <:+ converted.toList then "" else ending) ↔
            (options.namingConvention = .pascalCase →
              ¬ChangesEnding ending.toList (lastPart name.toList))) := by
  intro generator
  obtain ⟨made, content, run⟩ := exists_made_of_runOperations ok
  obtain ⟨declarations, named, joined, -⟩ :=
    OperationGenerator.exists_declarations_of_texts (OperationGenerator.forall₂_named run)
  rw [OperationGenerator.flatMap_typeNames_named] at named
  refine ⟨declarations, content.trans joined, named, ?_⟩
  rintro operation - name is_named chars converted ending
  refine ⟨generator.resultTypeName name operation.kind, ?_,
    OperationGenerator.resultTypeName_of_dedupe dedupe name operation.kind,
    OperationGenerator.resultTypeName_once_iff dedupe chars operation.kind⟩
  rw [OperationGenerator.typeNames, is_named, ← OperationGenerator.variablesTypeName_eq]

/-- Options that give types a prefix, put names into camel case and do not double endings. -/
def camelOptions : Options where
  dedupeOperationSuffix := true
  typesPrefix := "Api"

theorem cats_ending_once :
    camelOptions.dedupeOperationSuffix = true ∧
    ∃ output, (runOperations kindSchema petsFiles camelOptions {}).outcome = .ok output ∧
      ∃ declarations : List Declaration,
        output.content = "\n".intercalate (declarations.map (·.text {})) ∧
        declarations.map (·.name) =
          ["ApiPetsQueryVariables", "ApiPetsQuery", "ApiCatsQueryVariables", "ApiCatsQuery",
            "ApiPetsFragment"] ∧
        NameChars "CatsQuery".toList ∧
        ¬ChangesEnding "Query".toList (lastPart "CatsQuery".toList) := by
  obtain ⟨output, ok⟩ := Generation.exists_eq_ok
    (x := runOperations kindSchema petsFiles camelOptions {}) (by decide +kernel)
  obtain ⟨declarations, content, named, endings⟩ := runOperations_endings_iff rfl ok
  have chars : NameChars "CatsQuery".toList := by decide
  obtain ⟨result, names, told, once⟩ := endings _
    (Document.mem_operations.2 (List.mem_cons_of_mem _ List.mem_cons_self)) "CatsQuery" rfl chars
  refine ⟨rfl, output, ok, declarations, content, named.trans (by decide +kernel), chars, ?_⟩
  exact once.1 (told.trans (by decide +kernel)) rfl

/-- The document `query get_query { a }`. -/
def getQueryFiles : List DocumentFile := [{
  document := [
    .operation {
      kind := .query, name? := some "get_query", selections := [.field { name := "a" } []] }] }]

/-- Conversion can give a name the ending that is then put behind it. -/
theorem converted_ending_doubled :
    "Query".toList <:+ (({ dedupeOperationSuffix := true } : Options).names.core false
      "get_query").toList ∧
    ∃ output, (runOperations
          (.ofDefinitions [.type
            { name := "Query", body := .object [] [{ name := "a", type := .named "Int" }] }])
          getQueryFiles { dedupeOperationSuffix := true } {}).outcome = .ok output ∧
      output.content = "type Get_QueryQueryVariables struct \x7b\x7d\n\n" ++
        "type Get_QueryQuery struct \x7b\n\tA *int `json:\"a\"`\n\x7d\n" := by
  refine ⟨by decide +kernel, { content := _, header := ["package main"] }, ?_, rfl⟩
  decide +kernel

end Plugin

end SchemaBindings
