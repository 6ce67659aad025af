import Docket.Proofs.Json.NumberText
import Docket.Toml.Scalar
/-!
Whole numbers as words.

The decimal digits of a number are no date and no time, and they are read as that number if it fits
in a signed number of 64 bits (`scalar?_toDigits`).
-/

namespace Docket.Toml

open Text (isDigit digitValue digitsValue)

theorem hexValue?_of_isDigit {c : Char} (digit : isDigit c = true) :
    Json.hexValue? c = some (digitValue c) := by
  rw [Json.hexValue?, if_pos digit]

theorem not_mem_of_digits {digits : List Char} (are : Digits digits) {c : Char}
    (other : isDigit c = false) : c ∉ digits := by
  intro member
  simp [are.digit c member] at other

theorem groupedDigits?_eq {digits : List Char} (are : Digits digits) :
    groupedDigits? isDigit digits = some digits := by
  obtain ⟨nonempty, digit⟩ := are
  induction digits with
  | nil => exact absurd rfl nonempty
  | cons c rest ih =>
      obtain ⟨own, others⟩ := List.forall_mem_cons.mp digit
      cases rest with
      | nil => rw [groupedDigits?, if_pos own]
      | cons next rest =>
          have noLine : next ≠ '_' := by
            rintro rfl
            exact absurd (others '_' List.mem_cons_self) (by decide)
          rw [groupedDigits?.eq_4, if_pos own, ih (by simp) others]
          · rfl
          all_goals simp [noLine]

theorem valueIn_ten {digits : List Char} (digit : ∀ c ∈ digits, isDigit c = true) :
    valueIn 10 digits = digitsValue digits := by
  apply List.foldl_ext
  intro n c member
  rw [hexValue?_of_isDigit (digit c member)]
  rfl

theorem wholeDigits?_toDigits (n : Nat) :
    wholeDigits? (Nat.toDigits 10 n) = some (Nat.toDigits 10 n) := by
  rw [wholeDigits?, groupedDigits?_eq (Digits.toDigits n)]
  by_cases zero : n = 0
  · subst zero
    rfl
  · have leads := head?_toDigits zero
    split
    · next same => simp [Option.some.inj same] at leads
    · next same => simp [Option.some.inj same] at leads
    · rfl

theorem wholeNumber?_of_lt {n : Nat} (fits : n < 2 ^ 63) : wholeNumber? n = some (.integer n) := by
  rw [wholeNumber?, if_pos]
  omega

theorem integer?_toDigits {n : Nat} (fits : n < 2 ^ 63) :
    integer? (Nat.toDigits 10 n) = some (.integer n) := by
  have digits := Digits.toDigits n
  have noBase : ∀ letter, isDigit letter = false → ∀ more,
      Nat.toDigits 10 n ≠ '0' :: letter :: more := by
    intro letter other more same
    exact not_mem_of_digits digits other (by simp [same])
  have noSign : ∀ sign, isDigit sign = false → ∀ more, Nat.toDigits 10 n ≠ sign :: more := by
    intro sign other more same
    exact not_mem_of_digits digits other (by simp [same])
  have unsigned : splitSign (Nat.toDigits 10 n) = (false, Nat.toDigits 10 n) :=
    splitSign.eq_3 _ (noSign '-' (by decide)) (noSign '+' (by decide))
  rw [integer?.eq_4 _ (noBase 'x' (by decide)) (noBase 'o' (by decide)) (noBase 'b' (by decide)),
    unsigned]
  dsimp only
  rw [wholeDigits?_toDigits, Option.bind_some, valueIn_ten digits.digit, digitsValue_toDigits,
    if_neg Bool.false_ne_true]
  exact wholeNumber?_of_lt fits

theorem dateTime?_digits {digits : List Char} (are : Digits digits) : dateTime? digits = none := by
  have noDate : afterDate? digits = none := by
    rw [afterDate?.eq_2]
    rintro a b c d e f g h more rfl
    exact not_mem_of_digits are (by decide : isDigit '-' = false) (by simp)
  have noTime : afterTime? digits = none := by
    rw [afterTime?.eq_3]
    rintro a b c d e f more rfl
    exact not_mem_of_digits are (by decide : isDigit ':' = false) (by simp)
  rw [dateTime?, noDate, noTime]
  rfl

theorem scalar?_toDigits {n : Nat} (fits : n < 2 ^ 63) :
    scalar? (Nat.toDigits 10 n) = some (.integer n) := by
  rw [scalar?, dateTime?_digits (Digits.toDigits n), integer?_toDigits fits]
  rfl

theorem isWordChar_of_isDigit {c : Char} (digit : isDigit c = true) : isWordChar c = true := by
  have alphanumeric : c.isAlphanum = true := by
    rw [Char.isAlphanum, Bool.or_eq_true]
    exact .inr digit
  simp [isWordChar, alphanumeric]

theorem span_append {kind : Char → Bool} {front rest : List Char}
    (inside : ∀ c ∈ front, kind c = true) (ends : ∀ c ∈ rest.head?, kind c = false) :
    (front ++ rest).takeWhile kind = front ∧ (front ++ rest).dropWhile kind = rest := by
  rw [List.takeWhile_append_of_pos inside, List.dropWhile_append_of_pos inside]
  cases rest with
  | nil => simp
  | cons c rest => simp [ends c rfl]

theorem splitWord_append {word : List Char} (letters : ∀ c ∈ word, isWordChar c = true)
    (rest : List Char) : splitWord (word ++ '\n' :: rest) = (word, '\n' :: rest) := by
  have ends : ∀ c ∈ ('\n' :: rest).head?, isWordChar c = false := by
    rintro _ ⟨⟩
    decide
  obtain ⟨front, back⟩ := span_append letters ends
  rw [splitWord, front, back]
  split
  · next blank => simp at blank
  · rfl

end Docket.Toml
