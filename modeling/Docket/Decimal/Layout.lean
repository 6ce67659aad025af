import Docket.Decimal.Shortest
/-!
How a decimal is laid out as text: positionally with a point, or with a power of ten.
-/

namespace Docket

structure NumberLayout where
  /-- The least power of ten of the first digit that is written positionally. -/
  leastPlain : Int
  greatestPlain : Int
  /-- Whether a whole mantissa before a power of ten still gets a point and a zero. -/
  pointInMantissa : Bool
  /-- The least number of digits of the power. -/
  powerDigits : Nat

namespace Decimal

def positional (d : Decimal) : List Char :=
  let digits := Nat.toDigits 10 d.digits
  let power := d.leadingPower
  if power < 0 then '0' :: '.' :: List.replicate (-power - 1).toNat '0' ++ digits
  else
    let whole := power.toNat + 1
    if digits.length ≤ whole then
      digits ++ List.replicate (whole - digits.length) '0' ++ ['.', '0']
    else digits.take whole ++ '.' :: digits.drop whole

def scientific (layout : NumberLayout) (d : Decimal) : List Char :=
  let power := d.leadingPower
  let powerText := Nat.toDigits 10 power.natAbs
  let mantissa := match Nat.toDigits 10 d.digits with
    | [] => []
    | [digit] => if layout.pointInMantissa then [digit, '.', '0'] else [digit]
    | digit :: rest => digit :: '.' :: rest
  mantissa ++ 'e' :: (if power < 0 then '-' else '+')
    :: List.replicate (layout.powerDigits - powerText.length) '0' ++ powerText

def text (layout : NumberLayout) (d : Decimal) : List Char :=
  if layout.leastPlain ≤ d.leadingPower ∧ d.leadingPower ≤ layout.greatestPlain then d.positional
  else d.scientific layout

end Decimal

namespace Binary64

def signed (x : Binary64) (magnitude : List Char) : List Char :=
  if x.negative then '-' :: magnitude else magnitude

/-- The decimal of `count` significant digits nearest to a number other than zero, a half away
    from zero, without zeros at its end. -/
def roundedDecimal (x : Binary64) (count : Nat) : Decimal :=
  let exponent := Decimal.order x.units unitsPerOne - count + 1
  let num := x.units * 10 ^ (-exponent).toNat
  let den := unitsPerOne * 10 ^ exponent.toNat
  let d : Decimal := ⟨(2 * num + den) / (2 * den), exponent⟩
  d.stripZeros (digitCount d.digits)

end Binary64

end Docket
