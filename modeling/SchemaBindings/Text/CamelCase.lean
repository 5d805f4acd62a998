import SchemaBindings.Text.LetterCase

/-!
Upper camel case: a name is cut into words, and each word is written with a capital and the rest in
lower case. `user_id`, `userId` and `USER_ID` all become `UserId`.

Words never hold a character that is neither letter nor number. Inside a run of letters and numbers
a word ends where lower case is followed by upper case (`userId`), and before the last capital of a
run of capitals that a lower-case letter follows (`HTTPServer`).
-/

namespace SchemaBindings.Text

/-- The case of the last cased letter of the word being read. -/
inductive LetterMode
  | none
  | lower
  | upper
  deriving Repr, DecidableEq

/-- The mode after reading `c`; characters without case keep it. -/
def LetterMode.after (mode : LetterMode) (c : Char) : LetterMode :=
  if isLowercase c then .lower else if isUppercase c then .upper else mode

/-- The words of a run of letters and numbers. `word` holds the characters of the current word,
newest first. -/
def camelWords (mode : LetterMode) (word : List Char) : List Char → List (List Char)
  | [] => if word.isEmpty then [] else [word.reverse]
  | [c] => [(c :: word).reverse]
  | c :: next :: rest =>
    if mode.after c = .lower ∧ isUppercase next then
      (c :: word).reverse :: camelWords .none [] (next :: rest)
    else if mode = .upper ∧ isUppercase c ∧ isLowercase next then
      word.reverse :: camelWords .none [c] (next :: rest)
    else
      camelWords (mode.after c) (c :: word) (next :: rest)

/-- The maximal runs of letters and numbers. `run` holds the current one, newest first. -/
def alphanumericPieces (run : List Char) : List Char → List (List Char)
  | [] => if run.isEmpty then [] else [run.reverse]
  | c :: cs =>
    if isAlphanumeric c then alphanumericPieces (c :: run) cs
    else if run.isEmpty then alphanumericPieces [] cs
    else run.reverse :: alphanumericPieces [] cs

/-- Lower case, with the sigma that ends a word in its final form. -/
def lowercaseTail : List Char → List Char
  | [] => []
  | [c] => if c = 'Σ' then ['ς'] else lowercase c
  | c :: next :: rest => lowercase c ++ lowercaseTail (next :: rest)

/-- The word with its first character in upper case and the others in lower case. -/
def capitalize : List Char → List Char
  | [] => []
  | c :: cs => uppercase c ++ lowercaseTail cs

/-- Upper camel case of a list of characters. -/
def camelCaseChars (cs : List Char) : List Char :=
  ((alphanumericPieces [] cs).flatMap (camelWords .none [])).flatMap capitalize

/-- The name in upper camel case. -/
def camelCase (name : String) : String := String.ofList (camelCaseChars name.toList)

end SchemaBindings.Text
