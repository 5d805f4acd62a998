import SchemaBindings.Text.Lines

/-!
The tokens of schema and executable documents.

Blanks, commas and comments separate tokens and are dropped. A number or a text is kept as it is
written; what it stands for is decided when a value is read.
-/

namespace SchemaBindings.Source

/-- A token. -/
inductive Token
  | mark (char : Char)
  | ellipsis
  | name (text : String)
  | number (text : List Char)
  | quotedText (body : List Char)
  | blockText (body : List Char)
  deriving Repr, DecidableEq

/-- The one-character marks. -/
def marks : List Char := ['!', '$', ':', '=', '@', '|', '&', '(', ')', '[', ']', '{', '}']

/-- Characters that may stand between tokens. -/
def isIgnored (c : Char) : Bool :=
  c == ' ' || c == '\t' || c == '\r' || c == '\n' || c == ',' || c == '\uFEFF'

/-- Whether `c` may start a name. -/
def isNameStart (c : Char) : Bool := c == '_' || c.isAlpha

/-- Whether `c` may continue a name. -/
def isNameChar (c : Char) : Bool := c == '_' || c.isAlphanum

/-- Whether `c` ends a number. -/
def endsNumber (c : Char) : Bool :=
  c == ' ' || c == '\n' || c == '\r' || c == '\t' || c == ',' || c == '#' || marks.contains c

/-- The body of a text on one line, and what follows its closing quote. `escaped` says whether the
character before was a backslash that escapes. -/
def readQuoted (escaped : Bool) : List Char → Option (List Char × List Char)
  | [] => none
  | '\n' :: _ => none
  | c :: cs =>
    if c = '"' && !escaped then some ([], cs)
    else (readQuoted (!escaped && c == '\\') cs).map fun (body, rest) => (c :: body, rest)

/-- The body of a block text, and what follows its closing quotes. Three quotes after a backslash
belong to the body. -/
def readBlock (afterBackslash : Bool) : List Char → Option (List Char × List Char)
  | '"' :: '"' :: '"' :: cs =>
    if afterBackslash then
      (readBlock false cs).map fun (body, rest) => ('"' :: '"' :: '"' :: body, rest)
    else some ([], cs)
  | c :: cs => (readBlock (c == '\\') cs).map fun (body, rest) => (c :: body, rest)
  | [] => none

/-- The token at the start of a text that starts with one, and what follows it. -/
def readToken : List Char → Option (Token × List Char)
  | '.' :: '.' :: '.' :: cs => some (.ellipsis, cs)
  | '"' :: '"' :: '"' :: cs => (readBlock false cs).map fun (body, rest) => (.blockText body, rest)
  | '"' :: cs => (readQuoted false cs).map fun (body, rest) => (.quotedText body, rest)
  | [] => none
  | c :: cs =>
    if marks.contains c then some (.mark c, cs)
    else if isNameStart c then
      some (.name (String.ofList (c :: cs.takeWhile isNameChar)), cs.dropWhile isNameChar)
    else if c == '-' || c.isDigit then
      some (.number (c :: cs.takeWhile (!endsNumber ·)), cs.dropWhile (!endsNumber ·))
    else none

/-- The tokens of a text that is no longer than `fuel`. -/
def scanFor : Nat → List Char → Option (List Token)
  | _, [] => some []
  | 0, _ :: _ => none
  | fuel + 1, c :: cs =>
    if isIgnored c then scanFor fuel cs
    else if c = '#' then scanFor fuel (cs.dropWhile fun d => d != '\n' && d != '\r')
    else do
      let (token, rest) ← readToken (c :: cs)
      return token :: (← scanFor fuel rest)

/-- Whether at most `limit` brackets are open at any place, `depth` being open at the start. -/
def nestsWithin (limit depth : Nat) : List Token → Bool
  | [] => true
  | .mark c :: rest =>
    if ['(', '[', '{'].contains c then depth < limit && nestsWithin limit (depth + 1) rest
    else if [')', ']', '}'].contains c then nestsWithin limit (depth - 1) rest
    else nestsWithin limit depth rest
  | _ :: rest => nestsWithin limit depth rest

/-- The number of brackets that may be open at once. -/
def nestingLimit : Nat := 50

/-- The tokens of a text, unless part of it is no token or its brackets nest too deeply. -/
def scan (text : String) : Option (List Token) := do
  let tokens ← scanFor text.length text.toList
  if nestsWithin nestingLimit 0 tokens then some tokens else none

end SchemaBindings.Source
