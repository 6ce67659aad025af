import Docket.Digest.Sha224
import Docket.Error
import Docket.Table
/-!
Document ids: digests of 224 bits, written as 56 digits of base 16 in lower case.

Ids are compared as numbers, which is also the order of their texts.
-/

namespace Docket

structure DocumentId where
  digest : Nat
  digest_lt : digest < 2 ^ 224 := by decide
  deriving DecidableEq

namespace DocumentId

instance : Inhabited DocumentId := ⟨⟨0, by decide⟩⟩

instance : Key DocumentId where
  before a b := decide (a.digest < b.digest)
  irrefl a := decide_eq_false (Nat.lt_irrefl a.digest)
  trans less less' :=
    decide_eq_true (Nat.lt_trans (of_decide_eq_true less) (of_decide_eq_true less'))
  connex {a b} late late' := by
    have same : a.digest = b.digest :=
      Nat.le_antisymm (Nat.le_of_not_lt (of_decide_eq_false late'))
        (Nat.le_of_not_lt (of_decide_eq_false late))
    cases a
    cases b
    cases same
    rfl

def length : Nat := 56

/-- The last `count` digits of a number in base 16. -/
def hexDigits : Nat → Nat → List Char
  | 0, _ => []
  | count + 1, n => hexDigits count (n / 16) ++ [Nat.digitChar (n % 16)]

def chars (id : DocumentId) : List Char := hexDigits length id.digest

def text (id : DocumentId) : String := String.ofList id.chars

def hexValue? (c : Char) : Option Nat :=
  if '0' ≤ c ∧ c ≤ '9' then some (c.toNat - 48)
  else if 'a' ≤ c ∧ c ≤ 'f' then some (c.toNat - 87)
  else if 'A' ≤ c ∧ c ≤ 'F' then some (c.toNat - 55)
  else none

/-- The number that a list of digits writes, continuing from the digits before them. -/
def hexNumber? (before : Nat) : List Char → Option Nat
  | [] => some before
  | c :: rest =>
      match hexValue? c with
      | some digit => hexNumber? (before * 16 + digit) rest
      | none => none

def ofChars? (chars : List Char) : Option DocumentId :=
  if chars.length = length then
    match hexNumber? 0 chars with
    | some n => if digest_lt : n < 2 ^ 224 then some ⟨n, digest_lt⟩ else none
    | none => none
  else none

/-- Reads an id from its digits, in either case. -/
def parse (text : String) : Except Error DocumentId :=
  match ofChars? text.toList with
  | some id => .ok id
  | none => .error (.invalidDocumentId text)

def ofOctets (octets : List UInt8) : DocumentId :=
  ⟨Sha224.digest octets, Sha224.digest_lt octets⟩

end DocumentId

abbrev IdSet := KeySet DocumentId

/-- The ids of a list in ascending order, each once. -/
def sortedIds (ids : List DocumentId) : List DocumentId := KeySet.sorted ids

end Docket
