import Docket.Decimal.Binary64
/-!
Decimals: a whole number of digits and a power of ten.
-/

namespace Docket

structure Decimal where
  digits : Nat
  exponent : Int
  deriving DecidableEq, Repr

namespace Decimal

/-- The greatest `e` with `10 ^ e ≤ num / den`, for positive `num` and `den`. -/
def order (num den : Nat) : Int :=
  if den ≤ num then Binary64.digitCount (num / den) - 1
  else
    let places := Binary64.digitCount (den / num)
    -- Only an exact power of ten has its first digit one place earlier.
    if den = num * 10 ^ (places - 1) then -((places - 1 : Nat) : Int) else -(places : Int)

/-- The decimal without the zeros at its end. `fuel` bounds the zeros removed. -/
def stripZeros (fuel : Nat) (d : Decimal) : Decimal :=
  match fuel with
  | 0 => d
  | n + 1 =>
      if d.digits ≠ 0 ∧ d.digits % 10 = 0 then stripZeros n ⟨d.digits / 10, d.exponent + 1⟩ else d

def leadingPower (d : Decimal) : Int := d.exponent + Binary64.digitCount d.digits - 1

end Decimal

end Docket
