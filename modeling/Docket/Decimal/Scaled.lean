import Docket.Decimal.Written
/-!
Reading a decimal by scaling its digits.

The digits, as many as 64 bits hold, become the nearest number first; that is multiplied or divided
by the number nearest to the power of ten. Each step rounds, so the answer may be a neighbour of the
number nearest to the decimal.
-/

namespace Docket

namespace Binary64

def times? (x y : Binary64) : Option Binary64 :=
  nearest? (x.negative != y.negative) (x.units * y.units) (unitsPerOne * unitsPerOne)

def over? (x y : Binary64) : Option Binary64 :=
  nearest? (x.negative != y.negative) x.units y.units

/-- The greatest power of ten that is not too large for a number. -/
def greatestTenPower : Nat := 308

def tenPower? (places : Nat) : Option Binary64 :=
  if places ≤ greatestTenPower then nearest? false (10 ^ places) 1 else none

/-- A number times a power of ten. Zero stays zero whatever the power. -/
def timesTenPower? (x : Binary64) (places : Nat) : Option Binary64 :=
  if x.isZero then some x else (tenPower? places).bind x.times?

/-- A number over a power of ten, in two divisions if one is not enough. Whatever 64 bits hold is
    nothing after two divisions by the greatest power, so there is no third. -/
def overTenPower? (x : Binary64) (places : Nat) : Option Binary64 :=
  let first := min places greatestTenPower
  let second := min (places - first) greatestTenPower
  ((tenPower? first).bind x.over?).bind fun quotient => (tenPower? second).bind quotient.over?

def scaled? (negative : Bool) (d : Decimal) : Option Binary64 :=
  (nearest? negative d.digits 1).bind fun digits =>
    if 0 ≤ d.exponent then digits.timesTenPower? d.exponent.toNat
    else digits.overTenPower? (-d.exponent).toNat

end Binary64

/-- The number that a text gives when the digits that 64 bits hold are scaled. -/
def WrittenDecimal.scaled? (written : WrittenDecimal) : Option Binary64 :=
  Binary64.scaled? written.negative (written.kept fun n digit => 10 * n + digit < 2 ^ 64)

end Docket
