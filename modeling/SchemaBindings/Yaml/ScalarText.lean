import SchemaBindings.Yaml.Cursor

/-!
The texts of scalars as they are written: plain, in quotes, or as a block of lines.

Lines of a plain or quoted scalar are folded: one end of a line between two words stands for a
space, and of several the first is dropped. The readers take a bound on the number of characters
left; each of them takes a character before it reads on.
-/

namespace SchemaBindings.Yaml

/-- What stands between two words of a scalar: the blanks before the end of the line, and the ends
of lines, both newest first. It is joined if the first end of a line is escaped. -/
structure Gap where
  blanks : List Char := []
  lineEnds : List Char := []
  joined : Bool := false
  deriving Repr

namespace Gap

/-- Whether a line ends in the gap. -/
def isBroken (gap : Gap) : Bool := gap.joined || !gap.lineEnds.isEmpty

/-- The gap with one more blank. Blanks count only before the first end of a line. -/
def addBlank (gap : Gap) (c : Char) : Gap :=
  if gap.isBroken then gap else { gap with blanks := c :: gap.blanks }

/-- What the gap stands for. -/
def text (gap : Gap) : List Char :=
  if gap.joined then gap.lineEnds.reverse
  else
    match gap.lineEnds.reverse with
    | [] => gap.blanks.reverse
    | ['\n'] => [' ']
    | '\n' :: more => more
    | ends => ends

end Gap

/-- The gap at the cursor, after what has been read of it. No tab stands to the left of the column
`indent` once a line has ended. -/
def Cursor.readGap (indent : Int) (gap : Gap) : Nat → Cursor → Option (Gap × Cursor)
  | 0, cursor => some (gap, cursor)
  | bound + 1, cursor =>
    match cursor.lineEnd? with
    | some (c, next) => readGap indent { gap with lineEnds := c :: gap.lineEnds } bound next
    | none =>
      match cursor.rest with
      | c :: _ =>
        if !isSpace c then some (gap, cursor)
        else if c == '\t' && gap.isBroken && cursor.column < indent then none
        else readGap indent (gap.addBlank c) bound (cursor.skip 1)
      | [] => some (gap, cursor)

/-- The gap at the cursor inside quotes, where a tab may stand anywhere. -/
def Cursor.readQuotedGap (gap : Gap) (cursor : Cursor) : Option (Gap × Cursor) :=
  cursor.readGap 0 gap (cursor.rest.length + 1)

/-! ## Plain scalars -/

/-- Whether `c` has a meaning of its own inside brackets. -/
def isFlowMark (c : Char) : Bool := [',', '[', ']', '\x7b', '\x7d'].contains c

/-- The word of a plain scalar that comes first. A colon ends it before a blank. Inside brackets the
marks of collections end it as well, and a colon must not stand right before one. -/
def plainWord? (flow : Bool) : List Char → Option (List Char)
  | [] => some []
  | c :: rest =>
    if isBlank c || (flow && isFlowMark c) then some []
    else if c == ':' && startsBlank rest then some []
    else if c == ':' && flow && rest.head?.any (fun d => isFlowMark d || d == '?') then none
    else (plainWord? flow rest).map (c :: ·)

/-- A scalar that has been read, and whether a line ends in the blanks that were taken after it. -/
structure PlainScalar where
  text : List Char
  isBroken : Bool

/-- A plain scalar, after the characters in `taken`, newest first, and a gap. Outside of brackets
its lines do not start to the left of the column `indent`. -/
def readPlain? (flow : Bool) (indent : Int) (taken : List Char) (gap : Gap) :
    Nat → Cursor → Option (PlainScalar × Cursor)
  | 0, _ => none
  | bound + 1, cursor => do
    if cursor.atDocumentMark || cursor.rest.head? == some '#' then
      return ({ text := taken.reverse, isBroken := gap.isBroken }, cursor)
    let word ← plainWord? flow cursor.rest
    let after := cursor.skip word.length
    let (taken, gap) :=
      if word.isEmpty then (taken, gap) else (word.reverse ++ gap.text.reverse ++ taken, {})
    if after.rest.isEmpty || !startsBlank after.rest then
      return ({ text := taken.reverse, isBroken := gap.isBroken }, after)
    let (gap, next) ← after.readGap indent gap (bound + 1)
    if !flow && next.column < indent then
      return ({ text := taken.reverse, isBroken := gap.isBroken }, next)
    readPlain? flow indent taken gap bound next

/-! ## Quoted scalars -/

/-- The text in single quotes, after the characters in `taken`, newest first, and the cursor after
the closing quote. A quote is written twice. -/
def readSingleQuoted? (taken : List Char) : Nat → Cursor → Option (List Char × Cursor)
  | 0, _ => none
  | bound + 1, cursor => do
    if cursor.atDocumentMark then none
    match cursor.rest with
    | [] => none
    | '\'' :: '\'' :: _ => readSingleQuoted? ('\'' :: taken) bound (cursor.skip 2)
    | '\'' :: _ => return (taken.reverse, cursor.skip 1)
    | c :: _ =>
      if isBlank c then
        let (gap, next) ← cursor.readQuotedGap {}
        readSingleQuoted? (gap.text.reverse ++ taken) bound next
      else readSingleQuoted? (c :: taken) bound (cursor.skip 1)

/-- The value of a hexadecimal digit. -/
def hexValue? (c : Char) : Option Nat :=
  if c.isDigit then some (c.toNat - '0'.toNat)
  else if 'a' ≤ c && c ≤ 'f' then some (c.toNat - 'a'.toNat + 10)
  else if 'A' ≤ c && c ≤ 'F' then some (c.toNat - 'A'.toNat + 10)
  else none

/-- The character whose code stands in hexadecimal digits. -/
def codeChar? (digits : List Char) : Option Char := do
  let code := (← digits.mapM hexValue?).foldl (fun code value => 16 * code + value) 0
  if code.isValidChar then some (Char.ofNat code) else none

/-- The character that a one-letter escape stands for. -/
def escape? (c : Char) : Option Char :=
  match c with
  | '0' => some '\x00'
  | 'a' => some '\x07'
  | 'b' => some '\x08'
  | 't' => some '\t'
  | '\t' => some '\t'
  | 'n' => some '\n'
  | 'v' => some '\x0b'
  | 'f' => some '\x0c'
  | 'r' => some '\r'
  | 'e' => some '\x1b'
  | ' ' => some ' '
  | '"' => some '"'
  | '/' => some '/'
  | '\\' => some '\\'
  | 'N' => some '\u0085'
  | '_' => some '\u00a0'
  | 'L' => some '\u2028'
  | 'P' => some '\u2029'
  | _ => none

/-- The number of digits of a numeric escape. -/
def codeLength? (c : Char) : Option Nat :=
  match c with
  | 'x' => some 2
  | 'u' => some 4
  | 'U' => some 8
  | _ => none

/-- The character that the escape after a backslash stands for, and the cursor after it. -/
def Cursor.escape? (cursor : Cursor) : Option (Char × Cursor) := do
  let c ← cursor.rest.head?
  let after := cursor.skip 1
  match codeLength? c with
  | some length =>
    let digits := after.rest.take length
    if digits.length < length then none
    return (← codeChar? digits, after.skip length)
  | none => return (← Yaml.escape? c, after)

/-- The text in double quotes, after the characters in `taken`, newest first, and the cursor after
the closing quote. A backslash at the end of a line joins it with the next; empty lines between them
stay. -/
def readDoubleQuoted? (taken : List Char) : Nat → Cursor → Option (List Char × Cursor)
  | 0, _ => none
  | bound + 1, cursor => do
    if cursor.atDocumentMark then none
    match cursor.rest with
    | [] => none
    | '"' :: _ => return (taken.reverse, cursor.skip 1)
    | '\\' :: _ =>
      match (cursor.skip 1).lineEnd? with
      | some (_, next) =>
        let (gap, next) ← next.readQuotedGap { joined := true }
        readDoubleQuoted? (gap.text.reverse ++ taken) bound next
      | none =>
        let (c, next) ← (cursor.skip 1).escape?
        readDoubleQuoted? (c :: taken) bound next
    | c :: _ =>
      if isBlank c then
        let (gap, next) ← cursor.readQuotedGap {}
        readDoubleQuoted? (gap.text.reverse ++ taken) bound next
      else readDoubleQuoted? (c :: taken) bound (cursor.skip 1)

/-! ## Blocks of lines -/

/-- What becomes of the ends of lines after the last word of a block. -/
inductive Chomping
  | clip
  | strip
  | keep
  deriving Repr, DecidableEq

/-- What is said in front of a block: how its tail is chomped, and by how many columns its lines are
indented, if that is said. -/
structure BlockHeader where
  chomping : Chomping := .clip
  increment? : Option Nat := none
  deriving Repr

/-- The kind of chomping at the cursor. -/
def Cursor.chomping (cursor : Cursor) : Chomping × Cursor :=
  match cursor.rest with
  | '+' :: _ => (.keep, cursor.skip 1)
  | '-' :: _ => (.strip, cursor.skip 1)
  | _ => (.clip, cursor)

/-- The number of columns at the cursor, if it is there. It is not zero. -/
def Cursor.increment? (cursor : Cursor) : Option (Option Nat × Cursor) :=
  match cursor.rest with
  | c :: _ =>
    if c == '0' then none
    else if c.isDigit then some (some (c.toNat - '0'.toNat), cursor.skip 1)
    else some (none, cursor)
  | [] => some (none, cursor)

/-- What is said in front of a block, and the cursor at its first line. Both parts may stand in
either order, and a comment may follow. -/
def Cursor.blockHeader? (cursor : Cursor) : Option (BlockHeader × Cursor) := do
  let (chomping, after) := cursor.chomping
  let (increment?, after) ← after.increment?
  let (chomping, after) :=
    if chomping = .clip && increment?.isSome then after.chomping else (chomping, after)
  let after := (after.skipWhile isSpace).skipComment
  if !after.rest.isEmpty && after.lineEnd?.isNone then none
  return ({ chomping, increment? }, after.skipLineEnd)

/-- The ends of the empty lines at the cursor, newest first, and the cursor in the first line that
is not empty, after its indentation. `widest` is the widest indentation so far; with no known
indentation all spaces are taken. -/
def Cursor.emptyLines? (indent? : Option Nat) (widest : Nat) (ends : List Char) :
    Nat → Cursor → Option (Nat × List Char × Cursor)
  | 0, _ => none
  | bound + 1, cursor =>
    let spaces := (cursor.rest.takeWhile (· == ' ')).length
    let cursor := cursor.skip ((indent?.map fun indent => min spaces (indent - cursor.column)).getD
      spaces)
    let widest := max widest cursor.column
    let indenting := (indent?.map fun indent => decide (cursor.column < indent)).getD true
    if indenting && cursor.rest.head? == some '\t' then none
    else
      match cursor.lineEnd? with
      | some (c, next) => emptyLines? indent? widest (c :: ends) bound next
      | none => some (widest, ends, cursor)

/-- A block that is being read: its characters so far and the ends of the lines after them, newest
first. The first of these ends stands apart, and so does whether the last line began with a blank.
-/
structure Block where
  taken : List Char := []
  lead? : Option Char := none
  ends : List Char := []
  indented : Bool := false

/-- The block with one more line. In a folded block one end of a line between two lines that do not
begin with blanks stands for a space, and of several the first is dropped. -/
def Block.addLine (folded : Bool) (block : Block) (line : List Char) : Block :=
  let indented := line.head?.any isSpace
  let lead :=
    if folded && block.lead? == some '\n' && !block.indented && !indented then
      if block.ends.isEmpty then [' '] else []
    else block.lead?.toList
  { taken := line.reverse ++ block.ends ++ lead ++ block.taken, indented }

/-- The text of a block. -/
def Block.text (chomping : Chomping) (block : Block) : List Char :=
  let tail :=
    match chomping with
    | .strip => []
    | .clip => block.lead?.toList
    | .keep => block.lead?.toList ++ block.ends.reverse
  block.taken.reverse ++ tail

/-- The lines of a block that start at the column `indent`, after those that have been read. -/
def readBlockLines? (folded : Bool) (indent : Nat) (block : Block) :
    Nat → Cursor → Option (Block × Cursor)
  | 0, _ => none
  | bound + 1, cursor => do
    if cursor.column ≠ indent || cursor.rest.isEmpty then return (block, cursor)
    let (line, after) := cursor.span (!isLineEnd ·)
    let block := block.addLine folded line
    let lead? := after.lineEnd?.map (·.1)
    let next := after.skipLineEnd
    let (_, ends, next) ← next.emptyLines? (some indent) 0 [] (bound + 1)
    readBlockLines? folded indent { block with lead?, ends } bound next

/-- The text of a block whose mark has been taken, inside a collection at the column `parent`, and
the cursor after it. Where nothing is said, the first line that is not empty, or a wider empty line
before it, tells the indentation. -/
def readBlockText? (folded : Bool) (parent : Int) (cursor : Cursor) :
    Option (List Char × Cursor) := do
  let bound := cursor.rest.length + 1
  let (header, cursor) ← cursor.blockHeader?
  let indent? := header.increment?.map fun increment => (max parent 0).toNat + increment
  let (widest, ends, cursor) ← cursor.emptyLines? indent? 0 [] bound
  let indent := indent?.getD (max widest (max (parent + 1).toNat 1))
  let (block, cursor) ← readBlockLines? folded indent { ends } bound cursor
  return (block.text header.chomping, cursor)

end SchemaBindings.Yaml
