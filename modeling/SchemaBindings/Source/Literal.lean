import SchemaBindings.Text.Lines
import SchemaBindings.Decimal.Binary64

/-!
What the written forms of numbers and texts stand for.
-/

namespace SchemaBindings.Source

open SchemaBindings.Text

/-- Removes a minus sign in front. -/
def splitSign : List Char → Bool × List Char
  | '-' :: cs => (true, cs)
  | cs => (false, cs)

/-- The number that the digits form, if all characters are digits and there is at least one. -/
def digits? (cs : List Char) : Option Nat :=
  if !cs.isEmpty && cs.all Char.isDigit then
    some (cs.foldl (fun n c => 10 * n + (c.toNat - '0'.toNat)) 0)
  else none

/-- The digits of an integer part: a single zero, or no zero in front. -/
def wholePart? (cs : List Char) : Option Nat :=
  match cs with
  | '0' :: _ :: _ => none
  | _ => digits? cs

/-- The least number that is too great for a signed number of 64 bits. -/
def signedBound : Nat := 0x8000000000000000

/-- The integer that is written, if it fits into 64 bits. -/
def intValue? (text : List Char) : Option Int := do
  let (negative, cs) := splitSign text
  let magnitude ← wholePart? cs
  if negative then
    if magnitude ≤ signedBound then some (-magnitude) else none
  else if magnitude < signedBound then some magnitude else none

/-- The text before and after the last occurrence of a character that satisfies `p`. -/
def splitLast (p : Char → Bool) (cs : List Char) : Option (List Char × List Char) :=
  let after := (cs.reverse.takeWhile (!p ·)).reverse
  if after.length < cs.length then some (cs.take (cs.length - after.length - 1), after) else none

/-- The exponent that is written. Its first character is a sign or one of the digits 1 to 8. -/
def exponentValue? (cs : List Char) : Option Int :=
  match cs with
  | '-' :: rest => (digits? rest).map fun n => -(n : Int)
  | '+' :: rest => (digits? rest).map Int.ofNat
  | c :: _ => if '1' ≤ c && c ≤ '8' then (digits? cs).map Int.ofNat else none
  | [] => none

/-- The double-precision number that is written. -/
def floatValue? (text : List Char) : Option Decimal.Binary64 := do
  let (mantissa, exponent) ←
    match splitLast (fun c => c == 'e' || c == 'E') text with
    | some (mantissa, written) => (exponentValue? written).map fun e => (mantissa, e)
    | none => some (text, 0)
  let (negative, cs) := splitSign mantissa
  match splitLast (· == '.') cs with
  | none => return .ofDecimal negative (← wholePart? cs) exponent
  | some (whole, fraction) =>
    let whole ← wholePart? whole
    let places ← digits? fraction
    let digits := whole * Decimal.powerOfTen fraction.length + places
    return .ofDecimal negative digits (exponent - fraction.length)

/-- The value of a hexadecimal digit. -/
def hexDigit? (c : Char) : Option Nat :=
  if c.isDigit then some (c.toNat - '0'.toNat)
  else if 'a' ≤ c && c ≤ 'f' then some (c.toNat - 'a'.toNat + 10)
  else if 'A' ≤ c && c ≤ 'F' then some (c.toNat - 'A'.toNat + 10)
  else none

/-- The number that hexadecimal digits form. -/
def hexNumber? (cs : List Char) : Option Nat :=
  cs.foldlM (fun n c => (hexDigit? c).map (16 * n + ·)) 0

/-- The character with the code that four characters write; a plus sign may stand for the first. -/
def unicodeChar? (a b c d : Char) : Option Char := do
  let code ← if a = '+' then hexNumber? [b, c, d] else hexNumber? [a, b, c, d]
  if code.isValidChar then some (Char.ofNat code) else none

/-- The text that the body of a one-line text stands for. The escape `\b` is the character U+0010.
-/
def unescape : List Char → Option (List Char)
  | [] => some []
  | '\\' :: 'u' :: a :: b :: c :: d :: rest => do
    return (← unicodeChar? a b c d) :: (← unescape rest)
  | '\\' :: c :: rest => do
    let char ←
      match c with
      | '"' => some '"'
      | '\\' => some '\\'
      | '/' => some '/'
      | 'b' => some '\x10'
      | 'f' => some '\x0c'
      | 'n' => some '\n'
      | 'r' => some '\r'
      | 't' => some '\t'
      | _ => none
    return char :: (← unescape rest)
  | '\\' :: [] => none
  | c :: rest => (unescape rest).map (c :: ·)

/-- The size in bytes of the blanks at the start of a line; none if the line is blank. -/
def indentation? (line : List Char) : Option Nat :=
  if line.all isBlank then none
  else some ((line.takeWhile isBlank).foldl (fun n c => n + c.utf8Size) 0)

/-- The line without its first `n` bytes; a shorter line stays whole. -/
def dropBytes (n : Nat) (line : List Char) : List Char :=
  if line.foldl (fun m c => m + c.utf8Size) 0 < n then line else go n line
where
  /-- Drops characters until `n` bytes are gone. -/
  go : Nat → List Char → List Char
    | 0, cs => cs
    | _, [] => []
    | n + 1, c :: cs => go (n + 1 - c.utf8Size) cs

/-- Writes three quotes for three quotes after a backslash. -/
def unescapeQuotes : List Char → List Char
  | '\\' :: '"' :: '"' :: '"' :: cs => '"' :: '"' :: '"' :: unescapeQuotes cs
  | c :: cs => c :: unescapeQuotes cs
  | [] => []

/-- The text that the body of a block text stands for. The indentation common to all lines but the
first is removed, and so are blank lines at the start and at the end. -/
def blockValue (body : List Char) : String :=
  let lines := lineChars body
  let common := (lines.drop 1).filterMap indentation? |>.min?
  let stripped :=
    match lines with
    | [] => []
    | first :: rest => first :: rest.map (dropBytes (common.getD 0))
  let isBlankLine (line : List Char) : Bool := line.all isBlank
  let kept := ((stripped.dropWhile isBlankLine).reverse.dropWhile isBlankLine).reverse
  "\n".intercalate (kept.map fun line => String.ofList (unescapeQuotes line))

end SchemaBindings.Source
