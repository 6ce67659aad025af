import Docket.Proofs.Decimal.Extended
import Docket.Decimal.Written
/-!
Written decimals that are read with 64 binary digits to spare.

The digits of a text that are left out make its decimal no greater
(`WrittenDecimal.value_kept_le`), so a text is read as a number wherever its whole decimal would be
(`WrittenDecimal.isSome_extended?`).
-/

namespace Docket

open Text (isDigit digitValue digitsValue)

theorem foldl_digits_eq (n : Nat) (digits : List Char) :
    digits.foldl (fun n c => 10 * n + digitValue c) n
      = n * 10 ^ digits.length + digitsValue digits := by
  rw [Nat.mul_comm n]
  exact Nat.ofDigitChars_eq_ofDigitChars_zero

theorem digitsValue_append (front back : List Char) :
    digitsValue (front ++ back) = digitsValue front * 10 ^ back.length + digitsValue back := by
  rw [digitsValue, List.foldl_append, foldl_digits_eq]
  rfl

theorem digitsValue_zeros (count : Nat) : digitsValue (List.replicate count '0') = 0 :=
  Nat.ofDigitChars_replicate_zero.trans (Nat.mul_zero _)

theorem digitsValue_append_zeros (digits : List Char) (count : Nat) :
    digitsValue (digits ++ List.replicate count '0') = digitsValue digits * 10 ^ count := by
  rw [digitsValue_append, digitsValue_zeros, List.length_replicate, Nat.add_zero]

theorem digitsValue_cons (c : Char) (rest : List Char) :
    digitsValue (c :: rest) = digitValue c * 10 ^ rest.length + digitsValue rest := by
  rw [digitsValue, List.foldl_cons, foldl_digits_eq, Nat.mul_zero, Nat.zero_add]

theorem digitValue_lt {c : Char} (digit : isDigit c = true) : digitValue c < 10 := by
  simp only [isDigit, Bool.and_eq_true, decide_eq_true_eq] at digit
  have most : c.toNat ≤ '9'.toNat := digit.2
  change c.toNat - 48 < 10
  change c.toNat ≤ 57 at most
  omega

namespace WrittenDecimal

variable {room : Nat → Bool}

theorem takeDigits_spec (room : Nat → Bool) (n : Nat) (digits : List Char) :
    (takeDigits (fun n _ => room n) n digits).1
        * 10 ^ (takeDigits (fun n _ => room n) n digits).2.length
      ≤ n * 10 ^ digits.length + digitsValue digits ∧
    ((takeDigits (fun n _ => room n) n digits).2 ≠ [] →
      room (takeDigits (fun n _ => room n) n digits).1 = false) := by
  induction digits generalizing n with
  | nil => simp [takeDigits]
  | cons c rest ih =>
      unfold takeDigits
      split
      · have whole : (10 * n + digitValue c) * 10 ^ rest.length + digitsValue rest
            = n * 10 ^ (c :: rest).length + digitsValue (c :: rest) := by
          rw [digitsValue_cons, List.length_cons]
          ring
        rw [← whole]
        exact ih (10 * n + digitValue c)
      · next full => exact ⟨Nat.le_add_right _ _, fun _ => by simpa using full⟩

theorem takeDigits_lt {most : Nat} (enough : ∀ n, room n = true → 10 * n + 9 < most) {n : Nat}
    (small : n < most) {digits : List Char} (digit : ∀ c ∈ digits, isDigit c = true) :
    (takeDigits (fun n _ => room n) n digits).1 < most := by
  induction digits generalizing n with
  | nil => exact small
  | cons c rest ih =>
      unfold takeDigits
      split
      · next fits =>
          have value := digitValue_lt (digit c List.mem_cons_self)
          have next := enough n fits
          exact ih (by omega) fun c member => digit c (List.mem_cons_of_mem _ member)
      · exact small

theorem takeDigits_of_full {n : Nat} (full : room n = false) (digits : List Char) :
    takeDigits (fun n _ => room n) n digits = (n, digits) := by
  cases digits with
  | nil => rfl
  | cons c rest => rw [takeDigits, if_neg (by simp [full])]

theorem value_kept_le (room : Nat → Bool) (written : WrittenDecimal) :
    (written.kept fun n _ => room n).value ≤ written.decimal.value := by
  obtain ⟨wholeMost, wholeFull⟩ := takeDigits_spec room 0 written.whole
  simp only [kept, decimal]
  generalize takeDigits (fun n _ => room n) 0 written.whole = taken at *
  obtain ⟨whole, wholeLeft⟩ := taken
  simp only at wholeMost wholeFull ⊢
  obtain ⟨most, _⟩ := takeDigits_spec room whole written.places
  have bound : (takeDigits (fun n _ => room n) whole written.places).1
        * 10 ^ (wholeLeft.length + (takeDigits (fun n _ => room n) whole written.places).2.length)
      ≤ digitsValue (written.whole ++ written.places) := by
    rw [Nat.zero_mul, Nat.zero_add] at wholeMost
    rw [digitsValue_append]
    by_cases left : wholeLeft = []
    · rw [left, List.length_nil, Nat.pow_zero, Nat.mul_one] at wholeMost
      rw [left, List.length_nil, Nat.zero_add]
      exact most.trans (Nat.add_le_add_right (Nat.mul_le_mul_right _ wholeMost) _)
    · -- Where digits before the point have no room, those after it have none either.
      rw [takeDigits_of_full (wholeFull left), Nat.pow_add, ← Nat.mul_assoc]
      exact (Nat.mul_le_mul_right _ wholeMost).trans (Nat.le_add_right _ _)
  generalize takeDigits (fun n _ => room n) whole written.places = taken at *
  obtain ⟨digits, placesLeft⟩ := taken
  have power : written.power.getD 0 + wholeLeft.length + placesLeft.length - written.places.length
      = written.power.getD 0 - written.places.length
        + ((wholeLeft.length + placesLeft.length : Nat) : Int) := by omega
  rw [power, ← Decimal.value_zeros]
  exact Decimal.value_le_of_digits_le bound _

theorem digits_kept_lt {most : Nat} (enough : ∀ n, room n = true → 10 * n + 9 < most)
    (positive : 0 < most) {written : WrittenDecimal}
    (digit : ∀ c ∈ written.whole ++ written.places, isDigit c = true) :
    (written.kept fun n _ => room n).digits < most := by
  simp only [List.mem_append, or_imp, forall_and] at digit
  exact takeDigits_lt enough (takeDigits_lt enough positive digit.1) digit.2

theorem isSome_extended? {written : WrittenDecimal}
    (digit : ∀ c ∈ written.whole ++ written.places, isDigit c = true)
    (small : 2 * (written.decimal.value * Binary64.unitsPerOne)
      ≤ ((2 ^ 54 - 3 : Nat) : ℚ) * 2 ^ Binary64.greatestScale) :
    written.extended?.isSome = true := by
  have enough : ∀ n, decide (n < (2 ^ 64 - 10) / 10) = true → 10 * n + 9 < 10 ^ 20 := by
    intro n fits
    rw [decide_eq_true_eq] at fits
    omega
  have digits := digits_kept_lt enough (by decide) digit
  have less := value_kept_le (fun n => decide (n < (2 ^ 64 - 10) / 10)) written
  apply Binary64.isSome_extended?
  · exact Decimal.digitCount_le_of_lt (by decide) digits
  · have positive := Binary64.cast_unitsPerOne_pos
    generalize (Binary64.unitsPerOne : ℚ) = unit at *
    refine le_trans ?_ small
    gcongr

end WrittenDecimal

end Docket
