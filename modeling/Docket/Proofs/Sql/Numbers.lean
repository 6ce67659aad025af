import Docket.Proofs.Json.NumberText
import Docket.Sql.Expr
/-!
Numbers of stored texts, and the texts that they are compared with.

The database reads every number of a stored text, now and then as a neighbour of the number that was
written (`Number.exists_reread?_extended`). A text is compared with a real by the number whose text it
is, and there is at most one such number (`Sql.canonicalReal?_eq_some_iff`).
-/

namespace Docket

open Text (isDigit)

namespace Binary64

theorem sameNumber_self (x : Binary64) : x.sameNumber x = true := by simp [sameNumber]

theorem sameNumber_zero {x : Binary64} (nothing : x.isZero = true) (negative : Bool) :
    x.sameNumber (zero negative) = true := by
  rw [eq_zero_of_isZero nothing]
  rfl

theorem eq_of_sameNumber {x y : Binary64} (nonzero : x.isZero = false)
    (same : x.sameNumber y = true) : x = y := by
  simp only [sameNumber, nonzero, Bool.false_or, Bool.and_eq_true, beq_iff_eq] at same
  have nearest := nearest?_units x
  rw [same.1, same.2, nearest?_units] at nearest
  exact (Option.some.inj nearest).symm

theorem mantissa_steps_le {x : Binary64}
    (less : x.mantissa < 2 ^ 53 - 1 ∨ x.scale < greatestScale) :
    (2 * x.mantissa + 1) * 2 ^ x.scale ≤ (2 ^ 54 - 3) * 2 ^ greatestScale := by
  obtain ⟨small, most, _⟩ := x.canonical
  change x.scale ≤ greatestScale at most
  rcases less with fewer | lower
  · exact Nat.mul_le_mul (by omega) (Nat.pow_le_pow_right (by decide) most)
  · have next : 2 ^ x.scale * 2 ≤ 2 ^ greatestScale := by
      rw [← Nat.pow_succ]
      exact Nat.pow_le_pow_right (by decide) lower
    generalize 2 ^ greatestScale = top at next ⊢
    calc (2 * x.mantissa + 1) * 2 ^ x.scale ≤ (2 ^ 54 - 3) * 2 * 2 ^ x.scale :=
          Nat.mul_le_mul_right _ (by omega)
      _ = (2 ^ 54 - 3) * (2 ^ x.scale * 2) := by ring
      _ ≤ (2 ^ 54 - 3) * top := Nat.mul_le_mul_left _ next

def greatest (negative : Bool) : Binary64 := ⟨negative, 2 ^ 53 - 1, greatestScale, by decide⟩

theorem eq_greatest {x : Binary64}
    (full : ¬(x.mantissa < 2 ^ 53 - 1 ∨ x.scale < greatestScale)) : x = greatest x.negative := by
  obtain ⟨negative, mantissa, scale, canonical⟩ := x
  simp only [not_or, Nat.not_lt] at full
  obtain rfl : mantissa = 2 ^ 53 - 1 := Nat.le_antisymm (Nat.le_pred_of_lt canonical.1) full.1
  obtain rfl : scale = greatestScale := Nat.le_antisymm canonical.2.1 full.2
  rfl

end Binary64

namespace WrittenDecimal

theorem isSome_extended?_of_nearest? {written : WrittenDecimal} {x : Binary64}
    (digit : ∀ c ∈ written.whole ++ written.places, isDigit c = true)
    (nearest : written.nearest? = some x)
    (less : x.mantissa < 2 ^ 53 - 1 ∨ x.scale < Binary64.greatestScale) :
    written.extended?.isSome = true := by
  have value := Binary64.two_mul_value_le (d := written.decimal) nearest
  have steps : ((2 * x.mantissa + 1 : Nat) : ℚ) * 2 ^ x.scale
      ≤ ((2 ^ 54 - 3 : Nat) : ℚ) * 2 ^ Binary64.greatestScale := by
    have bound := Binary64.mantissa_steps_le less
    generalize Binary64.greatestScale = top at bound ⊢
    exact_mod_cast bound
  apply isSome_extended? digit
  push_cast at steps
  exact value.trans steps

theorem isSome_extended?_ofInt {n : Int} (fits : n.natAbs < 2 ^ 64) :
    (ofInt n).extended?.isSome = true := by
  have value : (ofInt n).decimal.value = n.natAbs := by
    simp [ofInt, decimal, places, Decimal.value, digitsValue_toDigits]
  have enough : 2 * (2 ^ 64 * Binary64.unitsPerOne) ≤ (2 ^ 54 - 3) * 2 ^ Binary64.greatestScale := by
    decide +kernel
  apply isSome_extended?
  · simpa [ofInt, places] using (Digits.toDigits n.natAbs).digit
  · rw [value]
    generalize n.natAbs = size at fits
    generalize Binary64.greatestScale = top at enough ⊢
    generalize Binary64.unitsPerOne = unit at enough ⊢
    have bound : 2 * (size * unit) ≤ (2 ^ 54 - 3) * 2 ^ top :=
      (Nat.mul_le_mul_left 2 (Nat.mul_le_mul_right unit fits.le)).trans enough
    exact_mod_cast bound

end WrittenDecimal

namespace Number

theorem exists_reread?_extended (x : Binary64) :
    ∃ y, (real x).reread? WrittenDecimal.extended? = some (.real y) := by
  by_cases less : x.mantissa < 2 ^ 53 - 1 ∨ x.scale < Binary64.greatestScale
  · obtain ⟨written, read, whole, nearest, digit⟩ := exists_read_real x
    obtain ⟨y, found⟩ := Option.isSome_iff_exists.mp
      (WrittenDecimal.isSome_extended?_of_nearest? digit nearest less)
    exact ⟨y, by rw [reread?_real _ read whole, found, Option.map_some]⟩
  · -- The greatest number itself has a text whose decimal lies below it.
    rw [Binary64.eq_greatest less]
    cases x.negative with
    | true => exact ⟨.greatest true, by decide +kernel⟩
    | false => exact ⟨.greatest false, by decide +kernel⟩

theorem text_real_injective {x y : Binary64} (same : (real x).text = (real y).text) : x = y := by
  obtain ⟨written, read, _, nearest, _⟩ := exists_read_real x
  obtain ⟨written', read', _, nearest', _⟩ := exists_read_real y
  have chars : (real x).chars = (real y).chars := String.ofList_injective same
  rw [chars, read'] at read
  obtain rfl := (Prod.mk.inj (Option.some.inj read)).1
  exact Option.some.inj (nearest.symm.trans nearest')

end Number

namespace Sql

theorem canonicalReal?_eq_some_iff {text : String} {x : Binary64} :
    canonicalReal? text = some x ↔ (Number.real x).text = text := by
  constructor
  · intro found
    unfold canonicalReal? at found
    split at found
    · exact of_decide_eq_true (Option.filter_eq_some_iff.mp found).2
    · simp at found
  · rintro rfl
    obtain ⟨written, read, _, nearest, _⟩ := Number.exists_read_real x
    simp [canonicalReal?, Number.text, read, nearest]

namespace Expr

theorem integerValue_eq_real {n : Int} (fits : -2 ^ 63 ≤ n ∧ n < 2 ^ 64) (large : 2 ^ 63 ≤ n) :
    ∃ x, integerValue n = .real x := by
  have small : n.natAbs < 2 ^ 64 := by omega
  obtain ⟨x, found⟩ := Option.isSome_iff_exists.mp (WrittenDecimal.isSome_extended?_ofInt small)
  exact ⟨x, by rw [integerValue, if_neg (by omega), found, Value.ofOption]⟩

theorem point_mem_positional (d : Decimal) : '.' ∈ d.positional := by
  simp only [Decimal.positional]
  split
  · simp
  · split
    · simp
    · simp

theorem point_mem_scientific (d : Decimal) : '.' ∈ d.scientific realLayout := by
  simp only [Decimal.scientific, realLayout]
  cases digits : Nat.toDigits 10 d.digits with
  | nil => exact absurd digits Nat.toDigits_ne_nil
  | cons first rest =>
      cases rest with
      | nil => simp
      | cons second rest => simp

theorem point_mem_realText (x : Binary64) : '.' ∈ (realText x).toList := by
  have magnitude : '.' ∈ (if x.isZero then ['0', '.', '0']
      else (x.roundedDecimal 15).text realLayout) := by
    split
    · decide
    · unfold Decimal.text
      split
      · exact point_mem_positional _
      · exact point_mem_scientific _
  rw [realText, String.toList_ofList, Binary64.signed]
  split
  · exact List.mem_cons_of_mem _ magnitude
  · exact magnitude

theorem realText_ne_integer (x : Binary64) (n : Int) (fits : -2 ^ 63 ≤ n ∧ n < 2 ^ 64) :
    realText x ≠ (Number.integer n fits).text := by
  intro same
  have point := point_mem_realText x
  have digits := (Digits.toDigits n.natAbs).digit
  have none : '.' ∉ Nat.toDigits 10 n.natAbs := fun member => absurd (digits _ member) (by decide)
  rw [same, Number.text, String.toList_ofList, Number.chars, Number.integerChars] at point
  split at point
  · simp [none] at point
  · exact none point

end Expr

end Sql

end Docket
