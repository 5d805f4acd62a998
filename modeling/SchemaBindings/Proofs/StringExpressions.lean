import SchemaBindings.Text.RawString

/-!
# String expressions

Generated code writes a text as a sum of string literals. `Denotes` is the grammar of such sums and
says which text each of them stands for; `valueFrom` reads them from left to right, and finds the
text exactly where the grammar gives one (`valueFrom_operand_iff`). So what a sum stands for is
unique, and `rawString_denotes` says what it is for the expression that is written for a text.
-/

namespace SchemaBindings.Text

/-! ## The grammar -/

/-- Spaces and tabs may stand between literals and plus signs. -/
def isSpacing (c : Char) : Bool := c == ' ' || c == '\t'

/-- A literal and its text. A raw literal runs to the next backtick, and carriage returns in it are
dropped. An interpreted one runs to the next double quote; here it holds neither escapes nor line
feeds. -/
inductive LiteralDenotes : List Char → List Char → Prop
  | raw {body : List Char} (closed : '\x60' ∉ body) :
      LiteralDenotes ('\x60' :: (body ++ ['\x60'])) (body.filter (· != '\r'))
  | interpreted {body : List Char} (closed : ∀ c ∈ body, c ≠ '"' ∧ c ≠ '\\' ∧ c ≠ '\n') :
      LiteralDenotes ('"' :: (body ++ ['"'])) body

/-- A sum of literals and its text. -/
inductive Denotes : List Char → List Char → Prop
  | literal {before literal after text : List Char} (before_spacing : before.all isSpacing = true)
      (reads : LiteralDenotes literal text) (after_spacing : after.all isSpacing = true) :
      Denotes (before ++ (literal ++ after)) text
  | sum {before literal after rest text more : List Char}
      (before_spacing : before.all isSpacing = true) (reads : LiteralDenotes literal text)
      (after_spacing : after.all isSpacing = true) (others : Denotes rest more) :
      Denotes (before ++ (literal ++ (after ++ '+' :: rest))) (text ++ more)

/-! ## Reading from left to right -/

/-- What the reader is in the middle of. -/
inductive ExpressionState
  /-- A literal is due. -/
  | operand
  | raw
  | interpreted
  /-- A literal has been closed; a plus sign or the end is due. -/
  | operator

/-- The text that the rest of an expression stands for. -/
def valueFrom : ExpressionState → List Char → Option (List Char)
  | .operator, [] => some []
  | .operand, [] => none
  | .raw, [] => none
  | .interpreted, [] => none
  | .operand, c :: cs =>
    if c = '\x60' then valueFrom .raw cs
    else if c = '"' then valueFrom .interpreted cs
    else if isSpacing c then valueFrom .operand cs
    else none
  | .raw, c :: cs =>
    if c = '\x60' then valueFrom .operator cs
    else if c = '\r' then valueFrom .raw cs
    else (valueFrom .raw cs).map (c :: ·)
  | .interpreted, c :: cs =>
    if c = '"' then valueFrom .operator cs
    else if c = '\\' ∨ c = '\n' then none
    else (valueFrom .interpreted cs).map (c :: ·)
  | .operator, c :: cs =>
    if c = '+' then valueFrom .operand cs
    else if isSpacing c then valueFrom .operator cs
    else none

@[simp] theorem valueFrom_operator_nil : valueFrom .operator [] = some [] := rfl

theorem valueFrom_operand_cons (c : Char) (cs : List Char) :
    valueFrom .operand (c :: cs) =
      if c = '\x60' then valueFrom .raw cs
      else if c = '"' then valueFrom .interpreted cs
      else if isSpacing c then valueFrom .operand cs
      else none := rfl

theorem valueFrom_raw_cons (c : Char) (cs : List Char) :
    valueFrom .raw (c :: cs) =
      if c = '\x60' then valueFrom .operator cs
      else if c = '\r' then valueFrom .raw cs
      else (valueFrom .raw cs).map (c :: ·) := rfl

theorem valueFrom_interpreted_cons (c : Char) (cs : List Char) :
    valueFrom .interpreted (c :: cs) =
      if c = '"' then valueFrom .operator cs
      else if c = '\\' ∨ c = '\n' then none
      else (valueFrom .interpreted cs).map (c :: ·) := rfl

theorem valueFrom_operator_cons (c : Char) (cs : List Char) :
    valueFrom .operator (c :: cs) =
      if c = '+' then valueFrom .operand cs
      else if isSpacing c then valueFrom .operator cs
      else none := rfl

theorem valueFrom_operand_spacing {before : List Char} (spacing : before.all isSpacing = true)
    (rest : List Char) : valueFrom .operand (before ++ rest) = valueFrom .operand rest := by
  induction before with
  | nil => rfl
  | cons c cs ih =>
    obtain ⟨hc, spacing⟩ := Bool.and_eq_true_iff.1 (List.all_cons ▸ spacing)
    have tick : c ≠ '\x60' := by rintro rfl; cases hc
    have quote : c ≠ '"' := by rintro rfl; cases hc
    rw [List.cons_append, valueFrom_operand_cons, if_neg tick, if_neg quote, if_pos hc, ih spacing]

theorem valueFrom_operator_spacing {before : List Char} (spacing : before.all isSpacing = true)
    (rest : List Char) : valueFrom .operator (before ++ rest) = valueFrom .operator rest := by
  induction before with
  | nil => rfl
  | cons c cs ih =>
    obtain ⟨hc, spacing⟩ := Bool.and_eq_true_iff.1 (List.all_cons ▸ spacing)
    have plus : c ≠ '+' := by rintro rfl; cases hc
    rw [List.cons_append, valueFrom_operator_cons, if_neg plus, if_pos hc, ih spacing]

theorem valueFrom_raw {body : List Char} (closed : '\x60' ∉ body) (rest : List Char) :
    valueFrom .raw (body ++ '\x60' :: rest) =
      (valueFrom .operator rest).map (body.filter (· != '\r') ++ ·) := by
  induction body with
  | nil => simp [valueFrom_raw_cons]
  | cons c cs ih =>
    rw [List.mem_cons, not_or] at closed
    obtain ⟨hc, closed⟩ := closed
    rw [List.cons_append, valueFrom_raw_cons, if_neg (Ne.symm hc), ih closed]
    by_cases cr : c = '\r' <;> simp [cr, Function.comp_def]

theorem valueFrom_interpreted {body : List Char}
    (closed : ∀ c ∈ body, c ≠ '"' ∧ c ≠ '\\' ∧ c ≠ '\n') (rest : List Char) :
    valueFrom .interpreted (body ++ '"' :: rest) =
      (valueFrom .operator rest).map (body ++ ·) := by
  induction body with
  | nil => simp [valueFrom_interpreted_cons]
  | cons c cs ih =>
    obtain ⟨⟨quote, escape, feed⟩, closed⟩ := List.forall_mem_cons.1 closed
    rw [List.cons_append, valueFrom_interpreted_cons, if_neg quote, if_neg (by simp [escape, feed]),
      ih closed]
    simp [Function.comp_def]

/-- The reader takes a literal as a whole. -/
theorem valueFrom_literal {literal text : List Char} (reads : LiteralDenotes literal text)
    (rest : List Char) :
    valueFrom .operand (literal ++ rest) = (valueFrom .operator rest).map (text ++ ·) := by
  cases reads with
  | @raw body closed =>
    rw [List.cons_append, valueFrom_operand_cons, if_pos rfl, List.append_assoc]
    exact valueFrom_raw closed rest
  | @interpreted body closed =>
    rw [List.cons_append, valueFrom_operand_cons, if_neg (by decide), if_pos rfl, List.append_assoc]
    exact valueFrom_interpreted closed rest

theorem Denotes.read {cs text : List Char} (h : Denotes cs text) :
    valueFrom .operand cs = some text := by
  induction h with
  | literal before_spacing reads after_spacing =>
    have done := valueFrom_operator_spacing after_spacing []
    rw [List.append_nil] at done
    rw [valueFrom_operand_spacing before_spacing, valueFrom_literal reads, done]
    simp
  | sum before_spacing reads after_spacing others ih =>
    rw [valueFrom_operand_spacing before_spacing, valueFrom_literal reads,
      valueFrom_operator_spacing after_spacing, valueFrom_operator_cons, if_pos rfl, ih]
    rfl

/-! ## What has been read -/

theorem exists_of_valueFrom_raw {cs text : List Char} (h : valueFrom .raw cs = some text) :
    ∃ body rest more, cs = body ++ '\x60' :: rest ∧ '\x60' ∉ body ∧
      valueFrom .operator rest = some more ∧ text = body.filter (· != '\r') ++ more := by
  induction cs generalizing text with
  | nil => cases h
  | cons c cs ih =>
    rw [valueFrom_raw_cons] at h
    by_cases tick : c = '\x60'
    · rw [if_pos tick] at h
      exact ⟨[], cs, text, by rw [tick, List.nil_append], List.not_mem_nil, h, rfl⟩
    · rw [if_neg tick] at h
      have further : ∀ {inner}, valueFrom .raw cs = some inner →
          ∃ body rest more, c :: cs = (c :: body) ++ '\x60' :: rest ∧ '\x60' ∉ c :: body ∧
            valueFrom .operator rest = some more ∧ inner = body.filter (· != '\r') ++ more := by
        intro inner hi
        obtain ⟨body, rest, more, rfl, closed, later, rfl⟩ := ih hi
        exact ⟨body, rest, more, rfl, by simp [closed, Ne.symm tick], later, rfl⟩
      by_cases cr : c = '\r'
      · rw [if_pos cr] at h
        obtain ⟨body, rest, more, split, closed, later, rfl⟩ := further h
        exact ⟨c :: body, rest, more, split, closed, later, by simp [cr]⟩
      · rw [if_neg cr] at h
        obtain ⟨inner, hi, rfl⟩ := Option.map_eq_some_iff.1 h
        obtain ⟨body, rest, more, split, closed, later, rfl⟩ := further hi
        exact ⟨c :: body, rest, more, split, closed, later, by simp [cr]⟩

theorem exists_of_valueFrom_interpreted {cs text : List Char}
    (h : valueFrom .interpreted cs = some text) :
    ∃ body rest more, cs = body ++ '"' :: rest ∧
      (∀ c ∈ body, c ≠ '"' ∧ c ≠ '\\' ∧ c ≠ '\n') ∧
      valueFrom .operator rest = some more ∧ text = body ++ more := by
  induction cs generalizing text with
  | nil => cases h
  | cons c cs ih =>
    rw [valueFrom_interpreted_cons] at h
    by_cases quote : c = '"'
    · rw [if_pos quote] at h
      exact ⟨[], cs, text, by rw [quote, List.nil_append], nofun, h, rfl⟩
    · rw [if_neg quote] at h
      split at h
      · cases h
      · rename_i plain
        rw [not_or] at plain
        obtain ⟨inner, hi, rfl⟩ := Option.map_eq_some_iff.1 h
        obtain ⟨body, rest, more, rfl, closed, later, rfl⟩ := ih hi
        exact ⟨c :: body, rest, more, rfl, List.forall_mem_cons.2 ⟨⟨quote, plain⟩, closed⟩, later,
          rfl⟩

theorem exists_of_valueFrom_operand {cs text : List Char}
    (h : valueFrom .operand cs = some text) :
    ∃ before literal rest value more, cs = before ++ (literal ++ rest) ∧
      before.all isSpacing = true ∧ LiteralDenotes literal value ∧
      valueFrom .operator rest = some more ∧ text = value ++ more := by
  induction cs with
  | nil => cases h
  | cons c cs ih =>
    rw [valueFrom_operand_cons] at h
    split at h
    · rename_i tick
      obtain ⟨body, rest, more, rfl, closed, later, rfl⟩ := exists_of_valueFrom_raw h
      exact ⟨[], _, rest, _, more, by simp [tick], rfl, .raw closed, later, rfl⟩
    · split at h
      · rename_i quote
        obtain ⟨body, rest, more, rfl, closed, later, rfl⟩ := exists_of_valueFrom_interpreted h
        exact ⟨[], _, rest, _, more, by simp [quote], rfl, .interpreted closed, later, rfl⟩
      · split at h
        · rename_i spacing
          obtain ⟨before, literal, rest, value, more, rfl, all, reads, later⟩ := ih h
          exact ⟨c :: before, literal, rest, value, more, rfl, by simp [spacing, all], reads, later⟩
        · cases h

theorem exists_of_valueFrom_operator {cs text : List Char}
    (h : valueFrom .operator cs = some text) :
    cs.all isSpacing = true ∧ text = [] ∨
      ∃ after rest, cs = after ++ '+' :: rest ∧ after.all isSpacing = true ∧
        valueFrom .operand rest = some text := by
  induction cs with
  | nil => exact .inl ⟨rfl, (Option.some.inj h).symm⟩
  | cons c cs ih =>
    rw [valueFrom_operator_cons] at h
    split at h
    · rename_i plus
      exact .inr ⟨[], cs, by rw [plus, List.nil_append], rfl, h⟩
    · split at h
      · rename_i spacing
        rcases ih h with ⟨all, rfl⟩ | ⟨after, rest, rfl, all, later⟩
        · exact .inl ⟨by simp [spacing, all], rfl⟩
        · exact .inr ⟨c :: after, rest, rfl, by simp [spacing, all], later⟩
      · cases h

/-- Reading finds the text of an expression, and finds one only in an expression. -/
theorem valueFrom_operand_iff {cs text : List Char} :
    valueFrom .operand cs = some text ↔ Denotes cs text := by
  refine ⟨fun h => ?_, Denotes.read⟩
  -- on the length, since the next summand stands behind a whole literal
  induction hn : cs.length using Nat.strongRecOn generalizing cs text with
  | ind n ih =>
    obtain ⟨before, literal, rest, value, more, rfl, spacing, reads, later, rfl⟩ :=
      exists_of_valueFrom_operand h
    rcases exists_of_valueFrom_operator later with ⟨all, rfl⟩ | ⟨after, right, rfl, all, later⟩
    · rw [List.append_nil]
      exact .literal spacing reads all
    · refine .sum spacing reads all (ih right.length ?_ later rfl)
      rw [← hn]
      simp
      omega

/-! ## Raw strings -/

/-- The literal is open again at the end of a text with its backticks spliced. -/
theorem valueFrom_raw_spliceBackticks (cs : List Char) :
    valueFrom .raw (spliceBackticks cs ++ ['\x60']) = some (cs.filter (· != '\r')) := by
  induction cs with
  | nil => rfl
  | cons c cs ih =>
    rw [spliceBackticks]
    by_cases tick : c = '\x60'
    · -- the literal is closed, the backtick is read as an interpreted one, and a new one is opened
      have spliced : ∀ rest, valueFrom .raw (backtickSplice ++ rest) =
          (valueFrom .raw rest).map ('\x60' :: ·) := by
        intro rest
        have chars : backtickSplice =
            ['\x60', ' ', '+', ' ', '"', '\x60', '"', ' ', '+', ' ', '\x60'] := by decide
        rw [chars]
        simp [valueFrom_raw_cons, valueFrom_operator_cons, valueFrom_operand_cons,
          valueFrom_interpreted_cons, isSpacing]
      subst tick
      rw [if_pos rfl, List.append_assoc, spliced, ih, Option.map_some, List.filter_cons_of_pos rfl]
    · rw [if_neg tick, List.append_assoc, List.singleton_append, valueFrom_raw_cons, if_neg tick,
        ih]
      by_cases cr : c = '\r' <;> simp [cr]

/-- The expression for a text stands for the text without the blanks at its end and without carriage
returns, and for nothing else. -/
theorem rawString_denotes (text : String) :
    ∃ kept blanks, text.toList = kept ++ blanks ∧ (∀ c ∈ blanks, isBlank c = true) ∧
      EndsInNoBlank kept ∧
      ∀ value, Denotes (rawString text).toList value ↔ value = kept.filter (· != '\r') := by
  obtain ⟨blanks, split, blank⟩ := exists_blanks_trimEndChars text.toList
  refine ⟨trimEndChars text.toList, blanks, split, blank, endsInNoBlank_trimEndChars _, ?_⟩
  intro value
  have read : valueFrom .operand (rawString text).toList =
      some ((trimEndChars text.toList).filter (· != '\r')) := by
    rw [rawString, String.toList_ofList, rawStringChars, List.cons_append, valueFrom_operand_cons,
      if_pos rfl]
    exact valueFrom_raw_spliceBackticks _
  rw [← valueFrom_operand_iff, read, Option.some.injEq, eq_comm]

/-- Backticks at both ends and beside each other. -/
example : valueFrom .operand (rawString "``a\r\n` ").toList = some "``a\n`".toList := by
  decide +kernel

end SchemaBindings.Text
