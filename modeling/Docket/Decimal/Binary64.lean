import Docket.Power
/-!
Finite binary64 numbers, exactly.

A number is a sign and a magnitude, and every magnitude is a whole number of the smallest positive
one, 2 ^ -1074: the magnitude of `x` is `x.units / unitsPerOne`. A positive rational is rounded to
the nearest number, half way to the one with an even mantissa; there is no answer when that would be
beyond the largest finite number.
-/

namespace Docket

/-- The quotient rounded to the nearest whole number, half way to the even one. -/
def roundHalfEven (num den : Nat) : Nat :=
  let quotient := num / den
  let twice := 2 * (num % den)
  if twice < den then quotient
  else if den < twice then quotient + 1
  else if quotient % 2 = 0 then quotient else quotient + 1

/-- A finite number: `mantissa * 2 ^ scale` units of 2 ^ -1074, with a sign. -/
structure Binary64 where
  negative : Bool
  mantissa : Nat
  scale : Nat
  canonical : mantissa < 2 ^ 53 ∧ scale ≤ 2045 ∧ (2 ^ 52 ≤ mantissa ∨ scale = 0)
  deriving DecidableEq

namespace Binary64

def unitsPerOne : Nat := 2 ^ 1074

def units (x : Binary64) : Nat := x.mantissa * 2 ^ x.scale

def zero (negative : Bool) : Binary64 := ⟨negative, 0, 0, by decide⟩

instance : Inhabited Binary64 := ⟨zero false⟩

def isZero (x : Binary64) : Bool := x.mantissa == 0

/-- Equality as numbers: the two zeros are one number. -/
def sameNumber (x y : Binary64) : Bool :=
  x.units == y.units && (x.isZero || x.negative == y.negative)

/-- The number with this mantissa and scale, if it is a finite number so written. -/
def make? (negative : Bool) (mantissa scale : Nat) : Option Binary64 :=
  if canonical : mantissa < 2 ^ 53 ∧ scale ≤ 2045 ∧ (2 ^ 52 ≤ mantissa ∨ scale = 0) then
    some ⟨negative, mantissa, scale, canonical⟩
  else none

/-- The number nearest to `num / den`, unless it is too large. -/
def nearest? (negative : Bool) (num den : Nat) : Option Binary64 :=
  let whole := num * unitsPerOne / den
  -- The scale leaves 53 binary digits before rounding; small numbers have scale zero.
  let scale := if whole = 0 then 0 else Nat.log2 whole + 1 - 53
  let mantissa := roundHalfEven (num * unitsPerOne) (den * 2 ^ scale)
  -- Rounding up may carry into a 54th digit.
  if mantissa = 2 ^ 53 then make? negative (2 ^ 52) (scale + 1)
  else make? negative mantissa scale

def digitCount (n : Nat) : Nat := (Nat.toDigits 10 n).length

/-- The number nearest to `digits * 10 ^ exponent`. Beyond 400 places the answer is known without
    the power of ten. -/
def ofDecimal? (negative : Bool) (digits : Nat) (exponent : Int) : Option Binary64 :=
  let order := exponent + digitCount digits
  if digits = 0 ∨ order < -400 then some (zero negative)
  else if 400 < order then none
  else if 0 ≤ exponent then nearest? negative (digits * 10 ^ exponent.toNat) 1
  else nearest? negative digits (10 ^ (-exponent).toNat)

def ofInt? (n : Int) : Option Binary64 := nearest? (n < 0) n.natAbs 1

end Binary64

end Docket
