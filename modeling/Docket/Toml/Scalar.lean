import Docket.Json.Reader
import Docket.Toml.Basic
/-!
Numbers, dates and times in TOML: which words are one, and of what kind.
-/

namespace Docket.Toml

open Json (hexValue?)
open Text (isDigit)

/-- Digits in which an underscore may stand between two: the digits, if the word is made so. -/
def groupedDigits? (isDigit : Char → Bool) : List Char → Option (List Char)
  | [] => none
  | [c] => if isDigit c then some [c] else none
  | c :: '_' :: rest => if isDigit c then (groupedDigits? isDigit rest).map (c :: ·) else none
  | c :: rest => if isDigit c then (groupedDigits? isDigit rest).map (c :: ·) else none

def wholeNumber? (n : Int) : Option Toml :=
  if -2 ^ 63 ≤ n ∧ n < 2 ^ 63 then some (.integer n) else none

def valueIn (base : Nat) (digits : List Char) : Nat :=
  digits.foldl (fun n c => base * n + (hexValue? c).getD 0) 0

/-- The digits before the point: zero alone, or digits that do not start with it. -/
def wholeDigits? (chars : List Char) : Option (List Char) :=
  match groupedDigits? isDigit chars with
  | some ['0'] => some ['0']
  | some ('0' :: _) => none
  | other => other

def isOctal (c : Char) : Bool := '0' ≤ c && c ≤ '7'

def isBinary (c : Char) : Bool := c = '0' || c = '1'

def isHex (c : Char) : Bool := (hexValue? c).isSome

def splitSign : List Char → Bool × List Char
  | '-' :: rest => (true, rest)
  | '+' :: rest => (false, rest)
  | chars => (false, chars)

def integer? (word : List Char) : Option Toml :=
  match word with
  | '0' :: 'x' :: digits => (groupedDigits? isHex digits).bind fun digits =>
      wholeNumber? (valueIn 16 digits)
  | '0' :: 'o' :: digits => (groupedDigits? isOctal digits).bind fun digits =>
      wholeNumber? (valueIn 8 digits)
  | '0' :: 'b' :: digits => (groupedDigits? isBinary digits).bind fun digits =>
      wholeNumber? (valueIn 2 digits)
  | word =>
      let (negative, digits) := splitSign word
      (wholeDigits? digits).bind fun digits =>
        let n : Int := valueIn 10 digits
        wholeNumber? (if negative then -n else n)

def splitWhere (stop : Char → Bool) (word : List Char) : List Char × List Char :=
  (word.takeWhile fun c => !stop c, word.dropWhile fun c => !stop c)

def powerOf? (chars : List Char) : Option Int :=
  let (negative, digits) := splitSign chars
  (groupedDigits? isDigit digits).map fun digits =>
    let size : Int := valueIn 10 digits
    if negative then -size else size

/-- A number with a fraction, a power or both. One too large above zero is refused. -/
def decimal? (word : List Char) : Option Toml :=
  let (negative, unsigned) := splitSign word
  let (mantissa, power) := splitWhere (fun c => c = 'e' || c = 'E') unsigned
  let (whole, fraction) := splitWhere (· = '.') mantissa
  let power? : Option (Option Int) := match power with
    | [] => some none
    | _ :: digits => (powerOf? digits).map some
  let fraction? : Option (Option (List Char)) := match fraction with
    | [] => some none
    | _ :: digits => (groupedDigits? isDigit digits).map some
  match wholeDigits? whole, fraction?, power? with
  | some whole, some fraction, some power =>
      if fraction.isNone && power.isNone then none
      else if negative || (WrittenDecimal.mk false whole fraction power).nearest?.isSome then
        some (.real (String.ofList word))
      else none
  | _, _, _ => none

def special? (word : List Char) : Option Toml :=
  if (splitSign word).2 = ['i', 'n', 'f'] ∨ (splitSign word).2 = ['n', 'a', 'n'] then
    some (.real (String.ofList word))
  else none

/-- The number that two digits write, if it lies between two bounds. -/
def twoDigits? (low high : Nat) (a b : Char) : Option Nat :=
  if isDigit a && isDigit b then
    let n := valueIn 10 [a, b]
    if low ≤ n ∧ n ≤ high then some n else none
  else none

def isLeapYear (year : Nat) : Bool := year % 4 = 0 && (year % 100 ≠ 0 || year % 400 = 0)

def daysOfMonth (year month : Nat) : Nat :=
  if month = 2 then (if isLeapYear year then 29 else 28)
  else if month = 4 ∨ month = 6 ∨ month = 9 ∨ month = 11 then 30
  else 31

def afterDate? : List Char → Option (List Char)
  | a :: b :: c :: d :: '-' :: e :: f :: '-' :: g :: h :: rest => do
      let century ← twoDigits? 0 99 a b
      let year ← twoDigits? 0 99 c d
      let month ← twoDigits? 1 12 e f
      let _ ← twoDigits? 1 (daysOfMonth (century * 100 + year) month) g h
      return rest
  | _ => none

def afterTime? : List Char → Option (List Char)
  | a :: b :: ':' :: c :: d :: ':' :: e :: f :: rest => do
      let _ ← twoDigits? 0 23 a b
      let _ ← twoDigits? 0 59 c d
      let _ ← twoDigits? 0 60 e f
      match rest with
      | '.' :: digits =>
          if (digits.head?.map isDigit).getD false then return digits.dropWhile isDigit else none
      | rest => return rest
  | _ => none

def isOffset : List Char → Bool
  | [] => true
  | ['Z'] | ['z'] => true
  | [sign, a, b, ':', c, d] =>
      (sign = '+' || sign = '-') && (twoDigits? 0 23 a b).isSome && (twoDigits? 0 59 c d).isSome
  | _ => false

def isZonedTime (word : List Char) : Bool := (afterTime? word).any isOffset

def dateTime? (word : List Char) : Option Toml :=
  let isOne := match afterDate? word with
    | some [] => true
    | some ('T' :: time) | some ('t' :: time) | some (' ' :: time) => isZonedTime time
    | some _ => false
    | none => afterTime? word == some []
  if isOne then some (.dateTime (String.ofList word)) else none

def scalar? (word : List Char) : Option Toml :=
  (dateTime? word).orElse fun _ =>
    (integer? word).orElse fun _ => (decimal? word).orElse fun _ => special? word

def isWordChar (c : Char) : Bool := c.isAlphanum || c = '_' || c = '+' || c = '-' || c = '.' || c = ':'

/-- The word at the start of the characters. A date is joined to a time one space after it. -/
def splitWord (chars : List Char) : List Char × List Char :=
  let word := chars.takeWhile isWordChar
  let rest := chars.dropWhile isWordChar
  match afterDate? word, rest with
  -- A space belongs to a date only if a time follows.
  | some [], ' ' :: later =>
      let time := later.takeWhile isWordChar
      if isZonedTime time then (word ++ ' ' :: time, later.dropWhile isWordChar) else (word, rest)
  | _, _ => (word, rest)

end Docket.Toml
