/-!
Places in a text: what is ahead, and how many characters and lines are behind.

A line ends at a line feed, a carriage return, a carriage return and a line feed, the next-line
character, or one of the separators of lines and paragraphs. The separators stay in texts as they
are; the other ends all count as a line feed.
-/

namespace SchemaBindings.Yaml

/-- Whether `c` is a blank within a line. -/
def isSpace (c : Char) : Bool := c == ' ' || c == '\t'

/-- Whether `c` separates lines or paragraphs. -/
def isSeparator (c : Char) : Bool := c == '\u2028' || c == '\u2029'

/-- Whether a line ends at `c`. -/
def isLineEnd (c : Char) : Bool := c == '\n' || c == '\r' || c == '\u0085' || isSeparator c

/-- Whether `c` is a blank within a line or the end of a line. -/
def isBlank (c : Char) : Bool := isSpace c || isLineEnd c

/-- Whether a blank, the end of a line or the end of the text comes first. -/
def startsBlank : List Char → Bool
  | [] => true
  | c :: _ => isBlank c

/-- A place in a text. -/
structure Cursor where
  rest : List Char
  index : Nat := 0
  line : Nat := 0
  column : Nat := 0
  deriving Repr, Inhabited

namespace Cursor

/-- The cursor after `n` characters, none of which ends a line. -/
def skip (cursor : Cursor) (n : Nat) : Cursor :=
  { cursor with
    rest := cursor.rest.drop n
    index := cursor.index + n
    column := cursor.column + n }

/-- The characters up to the first one for which `p` fails, and the cursor after them. None of them
ends a line. -/
def span (p : Char → Bool) (cursor : Cursor) : List Char × Cursor :=
  let taken := cursor.rest.takeWhile p
  (taken, cursor.skip taken.length)

/-- The cursor at the first character for which `p` fails. -/
def skipWhile (p : Char → Bool) (cursor : Cursor) : Cursor := (cursor.span p).2

/-- The cursor after a comment, at the end of its line. -/
def skipComment (cursor : Cursor) : Cursor :=
  if cursor.rest.head? == some '#' then cursor.skipWhile (!isLineEnd ·) else cursor

/-- The end of a line that is next, as it counts in texts, and the cursor after it. -/
def lineEnd? (cursor : Cursor) : Option (Char × Cursor) :=
  match cursor.rest with
  | '\r' :: '\n' :: rest => some ('\n', ⟨rest, cursor.index + 2, cursor.line + 1, 0⟩)
  | c :: rest =>
    if isLineEnd c then
      some (if isSeparator c then c else '\n', ⟨rest, cursor.index + 1, cursor.line + 1, 0⟩)
    else none
  | [] => none

/-- The cursor after the end of a line, if one is next. -/
def skipLineEnd (cursor : Cursor) : Cursor :=
  match cursor.lineEnd? with
  | some (_, next) => next
  | none => cursor

/-- Whether three characters `c` stand alone at the start of a line. -/
def atMark (c : Char) (cursor : Cursor) : Bool :=
  cursor.column == 0 &&
    match cursor.rest with
    | c₁ :: c₂ :: c₃ :: rest => c₁ == c && c₂ == c && c₃ == c && startsBlank rest
    | _ => false

/-- Whether a document begins or ends at the cursor. -/
def atDocumentMark (cursor : Cursor) : Bool := cursor.atMark '-' || cursor.atMark '.'

end Cursor

end SchemaBindings.Yaml
