import SchemaBindings.Data
import SchemaBindings.Yaml.Tag

/-!
The data that scalars stand for. A plain scalar may stand for null, a truth value or a number; a
quoted one is a text. Tags of the common kinds say which of these a scalar is.
-/

namespace SchemaBindings.Yaml

/-- Whether a scalar means null. -/
def isNull (text : String) : Bool := ["~", "null", "Null", "NULL"].contains text

/-- The truth value that a scalar means. -/
def truthValue? (text : String) : Option Bool :=
  if ["true", "True", "TRUE"].contains text then some true
  else if ["false", "False", "FALSE"].contains text then some false
  else none

/-! ## Numbers -/

/-- Whether all characters are digits, and there is one. -/
def allDigits (cs : List Char) : Bool := !cs.isEmpty && cs.all Char.isDigit

/-- A sign in front, and what follows it: whether it is a minus. -/
def splitSign : List Char → Bool × List Char
  | '+' :: cs => (false, cs)
  | '-' :: cs => (true, cs)
  | cs => (false, cs)

/-- Whether a scalar is a zero followed by more digits. -/
def hasLeadingZero (cs : List Char) : Bool :=
  match (splitSign cs).2 with
  | '0' :: rest => allDigits rest
  | _ => false

/-- The number that digits form in a base. -/
def digitsValue? (base : Nat) (digits : List Char) : Option Nat := do
  if digits.isEmpty then none
  let values ← digits.mapM hexValue?
  if values.all (· < base) then some (values.foldl (fun n value => base * n + value) 0) else none

/-- The integer that is written: in base 16, 8 or 2 after a mark, and else in base 10 without a zero
in front. -/
def integer? (cs : List Char) : Option Int := do
  let (negative, digits) := splitSign cs
  let magnitude ←
    match digits with
    | '0' :: 'x' :: rest => digitsValue? 16 rest
    | '0' :: 'o' :: rest => digitsValue? 8 rest
    | '0' :: 'b' :: rest => digitsValue? 2 rest
    | _ => if hasLeadingZero cs then none else digitsValue? 10 digits
  return if negative then -(magnitude : Int) else magnitude

/-- How an integer can be taken. One that is too great for 64 bits, but not for 128, is refused. -/
inductive IntegerRange
  | held
  | refused
  | outside
  deriving Repr, DecidableEq

/-- The range of an integer. Negative integers have one bit less. -/
def integerRange (value : Int) : IntegerRange :=
  if -0x8000000000000000 ≤ value ∧ value < 0x10000000000000000 then .held
  else if -0x80000000000000000000000000000000 ≤ value ∧
      value < 0x100000000000000000000000000000000 then .refused
  else .outside

/-- The exponent that is written after the digits of a number, if only that is there. -/
def exponent? : List Char → Option Int
  | [] => some 0
  | c :: written => do
    if c ≠ 'e' ∧ c ≠ 'E' then none
    let (negative, digits) := splitSign written
    if !allDigits digits then none
    let value : Int ← digitsValue? 10 digits
    return if negative then -value else value

/-- The double-precision number that is written with a point, an exponent or neither, if it is
finite. -/
def finite? (cs : List Char) : Option Number := do
  let (negative, unsigned) := splitSign cs
  let whole := unsigned.takeWhile Char.isDigit
  let rest := unsigned.dropWhile Char.isDigit
  let (fraction, rest) :=
    match rest with
    | '.' :: rest => (rest.takeWhile Char.isDigit, rest.dropWhile Char.isDigit)
    | rest => ([], rest)
  let exponent ← exponent? rest
  let digits ← digitsValue? 10 (whole ++ fraction)
  match Decimal.Binary64.ofDecimal (negative && digits ≠ 0) digits (exponent - fraction.length) with
  | .finite negative significand scale =>
    return .float (.finite (negative && significand ≠ 0) significand scale)
  | .infinite _ => none

/-- The double-precision number that is written. Infinity may have a sign, and what is not a number
has none. -/
def float? (text : String) : Option Number :=
  if [".inf", ".Inf", ".INF", "+.inf", "+.Inf", "+.INF"].contains text then
    some (.float (.infinite false))
  else if ["-.inf", "-.Inf", "-.INF"].contains text then some (.float (.infinite true))
  else if [".nan", ".NaN", ".NAN"].contains text then some .nan
  else finite? text.toList

/-! ## Scalars -/

/-- The data that a plain scalar stands for. -/
def plainData? (text : String) : Option Data :=
  if text.isEmpty || isNull text then some .null
  else
    match truthValue? text with
    | some value => some (.bool value)
    | none =>
      let other : Data :=
        if hasLeadingZero text.toList then .string text
        else (float? text).elim (.string text) .number
      match integer? text.toList with
      | some value =>
        match integerRange value with
        | .held => some (.number (.int value))
        | .refused => none
        | .outside => some other
      | none => some other

/-- The data that a scalar with a tag stands for. The tags of the common kinds say what it is, and
fail where it is something else. With a local tag a plain scalar stands for what it stands for
without one. Anything else is a text. -/
def taggedData? (tag : Tag) (text : String) (plain : Bool) : Option Data :=
  if tag = .common "null" then if isNull text then some .null else none
  else if tag = .common "bool" then (truthValue? text).map .bool
  else if tag = .common "int" then do
    let value ← integer? text.toList
    if integerRange value = .held then some (.number (.int value)) else none
  else if tag = .common "float" then (float? text).map .number
  else if tag.isLocal && plain then plainData? text
  else some (.string text)

/-- The data that a scalar stands for. -/
def scalarData? (tag? : Option Tag) (text : String) (plain : Bool) : Option Data :=
  match tag? with
  | none => if plain then plainData? text else some (.string text)
  | some tag => taggedData? tag text plain

end SchemaBindings.Yaml
