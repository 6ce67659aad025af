import Docket.Decimal.Basic
import Docket.Text.Digits
/-!
The text of a decimal, taken apart.

`decimal` takes all digits of the text. A reader that gathers them in a word of fixed size has no
room for the last digits of a long text: `kept` is the decimal of those it takes.
-/

namespace Docket

open Text (digitValue digitsValue)

/-- A sign, the digits before the point, those after it if there is a point, and the power of ten
    if one is written. -/
structure WrittenDecimal where
  negative : Bool
  whole : List Char
  fraction : Option (List Char)
  power : Option Int
  deriving DecidableEq

namespace WrittenDecimal

def ofInt (n : Int) : WrittenDecimal := ⟨n < 0, Nat.toDigits 10 n.natAbs, none, none⟩

/-- Whether a text has neither a point nor a power of ten. -/
def isWhole (written : WrittenDecimal) : Bool :=
  written.fraction.isNone && written.power.isNone

def places (written : WrittenDecimal) : List Char := written.fraction.getD []

def decimal (written : WrittenDecimal) : Decimal :=
  ⟨digitsValue (written.whole ++ written.places),
    written.power.getD 0 - written.places.length⟩

/-- Takes digits behind a number for as long as it has room for the next one: the number, and the
    digits left out. -/
def takeDigits (hasRoom : Nat → Nat → Bool) (n : Nat) : List Char → Nat × List Char
  | [] => (n, [])
  | c :: rest =>
      if hasRoom n (digitValue c) then takeDigits hasRoom (10 * n + digitValue c) rest
      else (n, c :: rest)

/-- The decimal of the digits there is room for, without the sign. -/
def kept (hasRoom : Nat → Nat → Bool) (written : WrittenDecimal) : Decimal :=
  let (whole, wholeLeft) := takeDigits hasRoom 0 written.whole
  let (digits, placesLeft) := takeDigits hasRoom whole written.places
  -- A digit left out before the point moves the point; one left out after it does not.
  ⟨digits,
    written.power.getD 0 + wholeLeft.length + placesLeft.length - written.places.length⟩

def nearest? (written : WrittenDecimal) : Option Binary64 :=
  Binary64.ofDecimal? written.negative written.decimal.digits written.decimal.exponent

end WrittenDecimal

end Docket
