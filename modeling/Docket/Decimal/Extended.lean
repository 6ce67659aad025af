import Docket.Decimal.Written
/-!
Reading a decimal with 64 binary digits to spare.

The digits are multiplied by powers of ten one after another, a hundred places, ten places or one at
a time, and each product is rounded to 64 binary digits. The last one is rounded again to a number,
so the answer is nearly always the nearest one and now and then its neighbour.
-/

namespace Docket

structure Extended where
  mantissa : Nat
  exponent : Int
  deriving DecidableEq

namespace Extended

/-- The number of 64 binary digits nearest to a positive fraction. -/
def nearest (num den : Nat) : Extended :=
  -- With so many places the quotient has more than 64 digits, of which the excess is rounded off.
  let places := Nat.log2 den + 66
  let excess := Nat.log2 (num * 2 ^ places / den) + 1 - 64
  ⟨roundHalfEven (num * 2 ^ places) (den * 2 ^ excess), excess - places⟩

def times (x y : Extended) : Extended :=
  let product := nearest (x.mantissa * y.mantissa) 1
  ⟨product.mantissa, product.exponent + x.exponent + y.exponent⟩

/-- Multiplies by the powers of ten that `power` gives for a hundred places, for ten and for one. -/
def timesEach (power : Nat → Extended) (places : Nat) (x : Extended) : Extended :=
  let timesPower (size : Nat) (x : Extended) : Extended := x.times (power size)
  let hundreds := Nat.repeat (timesPower 100) (places / 100) x
  let tens := Nat.repeat (timesPower 10) (places % 100 / 10) hundreds
  Nat.repeat (timesPower 1) (places % 10) tens

/-- A whole number of 64 bits times a power of ten. -/
def scale (digits : Nat) (exponent : Int) : Extended :=
  if 0 ≤ exponent then timesEach (fun size => nearest (10 ^ size) 1) exponent.toNat ⟨digits, 0⟩
  else timesEach (fun size => nearest 1 (10 ^ size)) (-exponent).toNat ⟨digits, 0⟩

def toBinary64? (negative : Bool) (x : Extended) : Option Binary64 :=
  Binary64.nearest? negative (x.mantissa * 2 ^ x.exponent.toNat) (2 ^ (-x.exponent).toNat)

/-- Writes zeros behind the digits in place of powers of ten while 64 bits have room for them. -/
def fillZeros (digits : Nat) : Nat → Decimal
  | 0 => ⟨digits, 0⟩
  | places + 1 =>
      if digits < (2 ^ 64 - 1) / 10 then fillZeros (10 * digits) places else ⟨digits, places + 1⟩

/-- The decimal with a power of ten as near to nothing as its digits allow. -/
def settle (d : Decimal) : Decimal :=
  if 0 ≤ d.exponent then fillZeros d.digits d.exponent.toNat
  else d.stripZeros (-d.exponent).toNat

end Extended

/-- The number that a decimal gives with 64 binary digits to spare. Beyond 400 places the answer is
    known without multiplying. -/
def Binary64.extended? (negative : Bool) (d : Decimal) : Option Binary64 :=
  if d.digits = 0 ∨ d.leadingPower < -400 then some (Binary64.zero negative)
  else if 400 < d.leadingPower then none
  else
    let settled := Extended.settle d
    (Extended.scale settled.digits settled.exponent).toBinary64? negative

/-- The number that a text gives with 64 binary digits to spare. A digit is left out once the digits
    before it come near to what 64 bits hold. -/
def WrittenDecimal.extended? (written : WrittenDecimal) : Option Binary64 :=
  Binary64.extended? written.negative (written.kept fun n _ => n < (2 ^ 64 - 10) / 10)

end Docket
