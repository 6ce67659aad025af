import Docket.Decimal.Written
import Docket.Json.Basic
/-!
The text of a JSON number, and the number it stands for.

The text says whether the number is a whole one. Which real a text stands for depends on who reads
it, so that rule is given from outside.
-/

namespace Docket

open Text (isDigit digitsValue)

/-- The number of a text by a rule for reals. A whole number that does not fit in 64 bits, and minus
    zero, are read as reals. -/
def Number.ofWritten? (real : WrittenDecimal → Option Binary64) (written : WrittenDecimal) :
    Option Number :=
  let n := digitsValue written.whole
  let integer : Option Number :=
    if !written.isWhole || (written.negative && n == 0) then none
    else Number.ofInt? (if written.negative then -n else n)
  integer.or ((real written).map .real)

namespace WrittenDecimal

/-- The part of a number before the point: a zero alone, or digits that do not start with one. -/
def readWhole : List Char → Option (List Char × List Char)
  | '0' :: rest => if (rest.head?.map isDigit).getD false then none else some (['0'], rest)
  | chars =>
      match chars.takeWhile isDigit with
      | [] => none
      | digits => some (digits, chars.dropWhile isDigit)

def readFraction : List Char → Option (Option (List Char) × List Char)
  | '.' :: rest =>
      match rest.takeWhile isDigit with
      | [] => none
      | digits => some (some digits, rest.dropWhile isDigit)
  | chars => some (none, chars)

def readPowerDigits (negative : Bool) (chars : List Char) : Option (Option Int × List Char) :=
  match chars.takeWhile isDigit with
  | [] => none
  | digits =>
      let size : Int := digitsValue digits
      some (some (if negative then -size else size), chars.dropWhile isDigit)

def readPower : List Char → Option (Option Int × List Char)
  | c :: rest =>
      if c = 'e' || c = 'E' then
        match rest with
        | '+' :: digits => readPowerDigits false digits
        | '-' :: digits => readPowerDigits true digits
        | digits => readPowerDigits false digits
      else some (none, c :: rest)
  | [] => some (none, [])

/-- The text of a number at the start of the characters, and the characters after it. -/
def read (chars : List Char) : Option (WrittenDecimal × List Char) :=
  let (negative, unsigned) := match chars with
    | '-' :: rest => (true, rest)
    | chars => (false, chars)
  match readWhole unsigned with
  | none => none
  | some (whole, rest) =>
      match readFraction rest with
      | none => none
      | some (fraction, rest) =>
          match readPower rest with
          | none => none
          | some (power, rest) => some (⟨negative, whole, fraction, power⟩, rest)

end WrittenDecimal

end Docket
