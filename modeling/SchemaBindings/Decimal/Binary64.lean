/-!
Double-precision numbers as exact values: `significand · 2 ^ exponent`, and the nearest one to a
decimal number.
-/

namespace SchemaBindings.Decimal

/-- A double-precision number other than the not-a-numbers. A finite one has the magnitude
`significand · 2 ^ exponent`, with `significand < 2 ^ 53` and `-1074 ≤ exponent ≤ 971`, and the
significand is below `2 ^ 52` only when the exponent is `-1074`. -/
inductive Binary64
  | finite (negative : Bool) (significand : Nat) (exponent : Int)
  | infinite (negative : Bool)
  deriving Repr, DecidableEq

/-- The power of two with the exponent `n`. -/
def powerOfTwo (n : Nat) : Nat := Nat.pow 2 n

/-- The power of ten with the exponent `n`. -/
def powerOfTen (n : Nat) : Nat := Nat.pow 10 n

/-- The least exponent of a finite number. -/
def minExponent : Int := -1074

/-- The greatest exponent of a finite number. -/
def maxExponent : Int := 971

/-- `num / den` rounded to the nearest natural number, a half to the even neighbour. -/
def roundHalfEven (num den : Nat) : Nat :=
  let quotient := num / den
  let twice := 2 * (num % den)
  if twice < den then quotient
  else if den < twice then quotient + 1
  else quotient + quotient % 2

/-- `num / (den · 2 ^ exponent)`, rounded. -/
def scaledSignificand (num den : Nat) (exponent : Int) : Nat :=
  if exponent < 0 then roundHalfEven (num * powerOfTwo (-exponent).toNat) den
  else roundHalfEven num (den * powerOfTwo exponent.toNat)

/-- The exponent at which `num / den` has 53 binary digits before rounding, but no less than the
least exponent of a finite number. -/
def leadingExponent (num den : Nat) : Int :=
  let guess : Int := (num.log2 : Int) - den.log2 - 52
  let below : Bool :=
    if guess < 0 then num * powerOfTwo (-guess).toNat < den * powerOfTwo 52
    else num < den * powerOfTwo guess.toNat * powerOfTwo 52
  max minExponent (if below then guess - 1 else guess)

/-- The number nearest to `num / den`, a tie to the even significand. -/
def Binary64.ofRatio (negative : Bool) (num den : Nat) : Binary64 :=
  if num = 0 then .finite negative 0 minExponent
  else
    let exponent := leadingExponent num den
    let significand := scaledSignificand num den exponent
    let (significand, exponent) :=
      if significand = powerOfTwo 53 then (powerOfTwo 52, exponent + 1) else (significand, exponent)
    if maxExponent < exponent then .infinite negative else .finite negative significand exponent

/-- The number nearest to `digits · 10 ^ scale`. A decimal number with more than 310 digits before
the point is beyond all finite numbers, and one below `10 ^ -330` is nearest to zero. -/
def Binary64.ofDecimal (negative : Bool) (digits : Nat) (scale : Int) : Binary64 :=
  let magnitude : Int := (Nat.toDigits 10 digits).length + scale
  if digits = 0 ∨ magnitude < -330 then .finite negative 0 minExponent
  else if 310 < magnitude then .infinite negative
  else if scale < 0 then .ofRatio negative digits (powerOfTen (-scale).toNat)
  else .ofRatio negative (digits * powerOfTen scale.toNat) 1

end SchemaBindings.Decimal
