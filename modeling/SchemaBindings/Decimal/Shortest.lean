import SchemaBindings.Decimal.Binary64

/-!
The decimal text of a double-precision number: the fewest digits that read back as the number, and
of those the nearest to it, written without an exponent.
-/

namespace SchemaBindings.Decimal

/-- The numbers that round to `significand · 2 ^ exponent`, as fractions over one denominator:
`value` is the number itself, `low` and `high` the ends of the interval, which belong to it exactly
when `closed`. -/
structure RoundingInterval where
  value : Nat
  low : Nat
  high : Nat
  denominator : Nat
  closed : Bool
  deriving Repr, DecidableEq

/-- The interval of a positive number. Below a power of two the neighbours are half as far apart. -/
def roundingInterval (significand : Nat) (exponent : Int) : RoundingInterval :=
  let up := if exponent < 0 then 1 else powerOfTwo exponent.toNat
  let down := if exponent < 0 then powerOfTwo (-exponent).toNat else 1
  let halfBelow := significand = powerOfTwo 52 ∧ minExponent < exponent
  { value := 4 * significand * up
    low := (4 * significand - if halfBelow then 1 else 2) * up
    high := (4 * significand + 2) * up
    denominator := 4 * down
    closed := significand % 2 == 0 }

/-- Whether `digits · num / den` lies in the interval. -/
def RoundingInterval.covers (interval : RoundingInterval) (digits num den : Nat) : Bool :=
  let point := digits * num * interval.denominator
  let low := interval.low * den
  let high := interval.high * den
  if interval.closed then low ≤ point && point ≤ high else low < point && point < high

/-- The multiple of `10 ^ grid` that lies in the interval and is nearest to the value, a tie going
up; it is given by its factor. Only the two multiples around the value are tried. -/
def RoundingInterval.onGrid (interval : RoundingInterval) (grid : Int) : Option Nat :=
  let num := if grid < 0 then 1 else powerOfTen grid.toNat
  let den := if grid < 0 then powerOfTen (-grid).toNat else 1
  let floor := interval.value * den / (interval.denominator * num)
  let below := interval.covers floor num den
  let above := interval.covers (floor + 1) num den
  if below && above then
    let nearer := 2 * (interval.value * den) < (2 * floor + 1) * interval.denominator * num
    some (if nearer then floor else floor + 1)
  else if below then some floor
  else if above then some (floor + 1)
  else none

/-- The coarsest grid with a multiple in the interval, tried from `grid` down for `steps` grids. -/
def RoundingInterval.coarsest (interval : RoundingInterval) (grid : Int) :
    Nat → Option (Nat × Int)
  | 0 => none
  | steps + 1 =>
    match interval.onGrid grid with
    | some digits => some (digits, grid)
    | none => interval.coarsest (grid - 1) steps

/-- The digits and the scale of the shortest decimal number that reads back as the positive number
`significand · 2 ^ exponent`. Seventeen digits always suffice; two more grids cover an estimate of
the leading digit that is too high. -/
def shortest (significand : Nat) (exponent : Int) : Nat × Int :=
  let interval := roundingInterval significand exponent
  let length := (Nat.toDigits 10 (interval.value / interval.denominator)).length
  let leading : Int :=
    if interval.denominator ≤ interval.value then length
    else 1 - (Nat.toDigits 10 (interval.denominator / interval.value)).length
  (interval.coarsest leading 20).getD (0, 0)

/-- The text of `digits · 10 ^ scale` without an exponent. -/
def positional (digits : Nat) (scale : Int) : List Char :=
  let text := Nat.toDigits 10 digits
  if 0 ≤ scale then text ++ List.replicate scale.toNat '0'
  else
    let places := (-scale).toNat
    let padded := List.replicate (places + 1 - text.length) '0' ++ text
    padded.take (padded.length - places) ++ '.' :: padded.drop (padded.length - places)

/-- The text of a number: a whole number has no point, and infinity is `inf`. -/
def Binary64.text (number : Binary64) : String :=
  match number with
  | .infinite negative => if negative then "-inf" else "inf"
  | .finite negative significand exponent =>
    let sign : List Char := if negative then ['-'] else []
    if significand = 0 then String.ofList (sign ++ ['0'])
    else
      let (digits, scale) := shortest significand exponent
      String.ofList (sign ++ positional digits scale)

end SchemaBindings.Decimal
