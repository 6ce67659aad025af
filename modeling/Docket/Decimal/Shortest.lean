import Docket.Decimal.Basic
/-!
The shortest decimal that reads back as a given number.

For one digit, two digits and so on the two decimals of that many digits around the number are
tried: the first count with one that reads back wins, of two that read back the nearer, and of two
equally near the one that ends in an even digit.
-/

namespace Docket

namespace Binary64

def readsAs (x : Binary64) (d : Decimal) : Bool :=
  ofDecimal? x.negative d.digits d.exponent == some x

/-- The decimal of `count` digits that reads back and is nearest, if one does. -/
def decimalOf? (x : Binary64) (count : Nat) : Option Decimal :=
  let exponent := Decimal.order x.units unitsPerOne - count + 1
  let num := x.units * 10 ^ (-exponent).toNat
  let den := unitsPerOne * 10 ^ exponent.toNat
  let below : Decimal := ⟨num / den, exponent⟩
  let above : Decimal := ⟨num / den + 1, exponent⟩
  let twice := 2 * (num % den)
  match x.readsAs below, x.readsAs above with
  | false, false => none
  | true, false => some below
  | false, true => some above
  | true, true =>
      if twice < den ∨ (twice = den ∧ below.digits % 2 = 0) then some below else some above

def exactDecimal (x : Binary64) : Decimal := ⟨x.units * 5 ^ 1074, -1074⟩

/-- The shortest decimal of a number other than zero; seventeen digits are always enough. -/
def shortest (x : Binary64) : Decimal :=
  let found := ((List.range 17).findSome? fun n => x.decimalOf? (n + 1)).getD x.exactDecimal
  found.stripZeros (digitCount found.digits)

end Binary64

end Docket
