import Docket.Decimal.Shortest
import Docket.Proofs.Decimal.Nearest
import Mathlib.Algebra.Order.Field.Power
import Mathlib.Algebra.Order.Field.Rat
import Mathlib.Data.Nat.Digits.Defs
import Mathlib.Tactic.FieldSimp
import Mathlib.Tactic.GCongr
import Mathlib.Tactic.Linarith
import Mathlib.Tactic.NormNum
/-!
What a decimal stands for.

Zeros that move from the digits to the power of ten change nothing, and which number a decimal is read
as goes by its value alone (`Binary64.ofDecimal?_of_value_eq`), to within half a step
(`Binary64.two_mul_value_le`). So the shortest decimal of a number is read as that number
(`Binary64.ofDecimal?_shortest`).
-/

namespace Docket

namespace Decimal

variable {d d' : Decimal}

def value (d : Decimal) : ℚ := d.digits * 10 ^ d.exponent

theorem value_mk {n : Nat} {exponent : Int} (digits : n = d.digits)
    (power : exponent = d.exponent) : value ⟨n, exponent⟩ = d.value := by
  rw [value, value, digits, power]

theorem value_nonneg (d : Decimal) : 0 ≤ d.value := by
  unfold value
  positivity

theorem value_eq_zero_iff : d.value = 0 ↔ d.digits = 0 := by
  have power : (10 : ℚ) ^ d.exponent ≠ 0 := by positivity
  simp [value, power]

theorem value_le_of_digits_le {n m : Nat} (less : n ≤ m) (exponent : Int) :
    value ⟨n, exponent⟩ ≤ value ⟨m, exponent⟩ := by
  have digits : (n : ℚ) ≤ m := by exact_mod_cast less
  exact mul_le_mul_of_nonneg_right digits (by positivity)

theorem value_zeros (n zeros : Nat) (exponent : Int) :
    value ⟨n * 10 ^ zeros, exponent⟩ = value ⟨n, exponent + zeros⟩ := by
  rw [value, value, zpow_add₀ (by norm_num), zpow_natCast]
  push_cast
  ring

theorem value_stripZeros (d : Decimal) (fuel : Nat) : (d.stripZeros fuel).value = d.value := by
  induction fuel generalizing d with
  | zero => rfl
  | succ fuel ih =>
      unfold stripZeros
      split
      · next zeros =>
          have tenth := Nat.div_mul_cancel (Nat.dvd_of_mod_eq_zero zeros.2)
          have shifted := value_zeros (d.digits / 10) 1 d.exponent
          rw [pow_one, tenth] at shifted
          exact (ih _).trans shifted.symm
      · rfl

theorem lt_digitCount (n : Nat) : n < 10 ^ Binary64.digitCount n :=
  (Nat.length_toDigits_le_iff (by decide) Nat.length_toDigits_pos).mp (Nat.le_refl _)

theorem digitCount_pos (n : Nat) : 0 < Binary64.digitCount n := Nat.length_toDigits_pos

theorem digitCount_le_of_lt {n k : Nat} (positive : 0 < k) (small : n < 10 ^ k) :
    Binary64.digitCount n ≤ k :=
  (Nat.length_toDigits_le_iff (by decide) positive).mpr small

theorem le_of_digitCount {n : Nat} (nonzero : n ≠ 0) : 10 ^ (Binary64.digitCount n - 1) ≤ n := by
  by_contra small
  rcases Nat.eq_zero_or_pos (Binary64.digitCount n - 1) with single | more
  · rw [single] at small
    omega
  · have fewer := digitCount_le_of_lt more (Nat.lt_of_not_le small)
    omega

theorem value_lt (d : Decimal) : d.value < 10 ^ (d.leadingPower + 1) := by
  have digits : (d.digits : ℚ) < 10 ^ (Binary64.digitCount d.digits : Int) := by
    exact_mod_cast lt_digitCount d.digits
  have power : d.leadingPower + 1 = Binary64.digitCount d.digits + d.exponent := by
    rw [leadingPower]
    omega
  rw [power, zpow_add₀ (by norm_num), value]
  exact mul_lt_mul_of_pos_right digits (by positivity)

theorem le_value (nonzero : d.digits ≠ 0) : 10 ^ d.leadingPower ≤ d.value := by
  have digits : (10 : ℚ) ^ ((Binary64.digitCount d.digits - 1 : Nat) : Int) ≤ d.digits := by
    exact_mod_cast le_of_digitCount nonzero
  have power : d.leadingPower
      = ((Binary64.digitCount d.digits - 1 : Nat) : Int) + d.exponent := by
    have some := digitCount_pos d.digits
    rw [leadingPower]
    omega
  rw [power, zpow_add₀ (by norm_num), value]
  exact mul_le_mul_of_nonneg_right digits (by positivity)

theorem leadingPower_lt (nonzero : d.digits ≠ 0) {power : Int} (small : d.value < 10 ^ power) :
    d.leadingPower < power := by
  have least := (le_value nonzero).trans_lt small
  exact (zpow_lt_zpow_iff_right₀ (by norm_num)).mp least

theorem le_leadingPower {power : Int} (large : 10 ^ power ≤ d.value) : power ≤ d.leadingPower := by
  have most := large.trans_lt d.value_lt
  have before := (zpow_lt_zpow_iff_right₀ (by norm_num)).mp most
  omega

theorem leadingPower_eq_of_value_eq (same : d.value = d'.value) (nonzero : d.digits ≠ 0) :
    d.leadingPower = d'.leadingPower := by
  have nonzero' : d'.digits ≠ 0 := by rwa [Ne, ← value_eq_zero_iff, ← same, value_eq_zero_iff]
  have upper := le_leadingPower (same ▸ le_value nonzero)
  have lower := le_leadingPower (same ▸ le_value nonzero')
  omega

def num (d : Decimal) : Nat := d.digits * 10 ^ d.exponent.toNat

def den (d : Decimal) : Nat := 10 ^ (-d.exponent).toNat

theorem den_pos (d : Decimal) : 0 < d.den := Nat.pow_pos (by decide)

theorem value_eq_div (d : Decimal) : d.value = d.num / d.den := by
  rw [value, num, den]
  rcases Int.le_total 0 d.exponent with whole | parts
  · obtain ⟨n, power⟩ := Int.eq_ofNat_of_zero_le whole
    simp [power]
  · obtain ⟨n, power⟩ := Int.eq_ofNat_of_zero_le (Int.neg_nonneg_of_nonpos parts)
    have negated : d.exponent = -(n : Int) := by omega
    simp [negated, div_eq_mul_inv]

end Decimal

theorem same_ratio_of_div_eq {num den num' den' : Nat} (positive : 0 < den) (positive' : 0 < den')
    (same : (num : ℚ) / den = num' / den') : num * den' = num' * den := by
  have den_ne : (den : ℚ) ≠ 0 := by exact_mod_cast positive.ne'
  have den_ne' : (den' : ℚ) ≠ 0 := by exact_mod_cast positive'.ne'
  rw [div_eq_div_iff den_ne den_ne'] at same
  exact_mod_cast same

namespace Binary64

variable {negative : Bool} {d d' : Decimal}

theorem ofDecimal?_eq (negative : Bool) (d : Decimal) :
    ofDecimal? negative d.digits d.exponent
      = if d.digits = 0 ∨ d.leadingPower + 1 < -400 then some (zero negative)
        else if 400 < d.leadingPower + 1 then none
        else nearest? negative d.num d.den := by
  have order : d.exponent + digitCount d.digits = d.leadingPower + 1 := by
    rw [Decimal.leadingPower]
    omega
  rw [ofDecimal?, order, Decimal.num, Decimal.den]
  by_cases whole : 0 ≤ d.exponent
  · have nothing : (-d.exponent).toNat = 0 := by omega
    simp only [whole, if_true, nothing, Nat.pow_zero]
  · have nothing : d.exponent.toNat = 0 := by omega
    simp only [whole, if_false, nothing, Nat.pow_zero, Nat.mul_one]

theorem ofDecimal?_of_value_eq (same : d.value = d'.value) :
    ofDecimal? negative d.digits d.exponent = ofDecimal? negative d'.digits d'.exponent := by
  rw [ofDecimal?_eq, ofDecimal?_eq]
  by_cases nothing : d.digits = 0
  · have nothing' : d'.digits = 0 := by
      rw [← Decimal.value_eq_zero_iff, ← same, Decimal.value_eq_zero_iff, nothing]
    simp [nothing, nothing']
  · have nonzero : d'.digits ≠ 0 := by
      rwa [Ne, ← Decimal.value_eq_zero_iff, ← same, Decimal.value_eq_zero_iff]
    rw [Decimal.value_eq_div, Decimal.value_eq_div] at same
    have ratio := same_ratio_of_div_eq d.den_pos d'.den_pos same
    rw [← Decimal.value_eq_div, ← Decimal.value_eq_div] at same
    simp only [nothing, nonzero, Decimal.leadingPower_eq_of_value_eq same nothing,
      nearest?_of_same_ratio d.den_pos d'.den_pos ratio]

theorem two_mul_value_le {x : Binary64}
    (read : ofDecimal? negative d.digits d.exponent = some x) :
    2 * (d.value * unitsPerOne) ≤ (2 * x.mantissa + 1) * 2 ^ x.scale := by
  rw [ofDecimal?_eq] at read
  split at read
  · next small =>
      obtain rfl := Option.some.inj read
      have less : 2 * (d.value * unitsPerOne) ≤ 1 := by
        rcases small with nothing | tiny
        · rw [Decimal.value_eq_zero_iff.mpr nothing, zero_mul, mul_zero]
          exact zero_le_one
        · obtain ⟨places, least, few⟩ : ∃ places : Nat, 2 * unitsPerOne ≤ 10 ^ places ∧ places ≤ 401 :=
            ⟨401, by decide +kernel, Nat.le_refl _⟩
          have least : 2 * (unitsPerOne : ℚ) ≤ 10 ^ places := by exact_mod_cast least
          have power : d.value ≤ (10 ^ places)⁻¹ := by
            rw [← zpow_natCast, ← zpow_neg]
            have order : d.leadingPower + 1 ≤ -(places : Int) := by omega
            exact d.value_lt.le.trans (zpow_le_zpow_right₀ (by norm_num) order)
          have positive : (0 : ℚ) ≤ unitsPerOne := Nat.cast_nonneg _
          generalize (unitsPerOne : ℚ) = unit at *
          calc 2 * (d.value * unit) = d.value * (2 * unit) := by ring
            _ ≤ (10 ^ places)⁻¹ * 10 ^ places := by gcongr
            _ = 1 := inv_mul_cancel₀ (by positivity)
      generalize (unitsPerOne : ℚ) = unit at less ⊢
      simpa [zero] using less
  · next some =>
      split at read
      · simp at read
      · have bound := le_of_nearest? d.den_pos read
        have cast : (2 : ℚ) * (d.num * unitsPerOne)
            ≤ (2 * x.mantissa + 1) * (d.den * 2 ^ x.scale) := by exact_mod_cast bound
        have positive : (0 : ℚ) < d.den := by exact_mod_cast d.den_pos
        rw [d.value_eq_div]
        generalize (unitsPerOne : ℚ) = unit at *
        calc 2 * ((d.num : ℚ) / d.den * unit) = 2 * (d.num * unit) / d.den := by ring
          _ ≤ (2 * x.mantissa + 1) * 2 ^ x.scale := by
              rw [div_le_iff₀ positive]
              linarith

def value (x : Binary64) : ℚ := x.units / unitsPerOne

variable {x : Binary64}

theorem eq_zero_of_isZero (nothing : x.isZero = true) : x = zero x.negative := by
  obtain ⟨negative, mantissa, scale, canonical⟩ := x
  obtain rfl : mantissa = 0 := by simpa [isZero] using nothing
  obtain rfl : scale = 0 := canonical.2.2.resolve_left (by decide)
  rfl

theorem units_pos (nonzero : x.isZero = false) : 0 < x.units := by
  have mantissa : x.mantissa ≠ 0 := by simpa [isZero] using nonzero
  exact Nat.mul_pos (Nat.pos_of_ne_zero mantissa) (Nat.two_pow_pos _)

theorem units_lt (x : Binary64) : x.units < 2 ^ 53 * 2 ^ greatestScale :=
  Nat.mul_lt_mul_of_lt_of_le x.canonical.1
    (Nat.pow_le_pow_right (by decide) x.canonical.2.1) (Nat.two_pow_pos _)

theorem cast_unitsPerOne_pos : (0 : ℚ) < unitsPerOne := by
  exact_mod_cast unitsPerOne_pos

theorem value_lt (x : Binary64) {places : Nat}
    (large : 2 ^ 53 * 2 ^ greatestScale ≤ 10 ^ places * unitsPerOne) :
    x.value < 10 ^ (places : Int) := by
  rw [value, div_lt_iff₀ cast_unitsPerOne_pos]
  exact_mod_cast x.units_lt.trans_le large

theorem le_value (nonzero : x.isZero = false) {places : Nat} (small : unitsPerOne ≤ 10 ^ places) :
    10 ^ (-(places : Int)) ≤ x.value := by
  have some := units_pos nonzero
  rw [value, le_div_iff₀ cast_unitsPerOne_pos, zpow_neg, inv_mul_le_iff₀ (by positivity)]
  exact_mod_cast small.trans (Nat.le_mul_of_pos_right _ some)

theorem value_pos (nonzero : x.isZero = false) : 0 < x.value := by
  have some : (0 : ℚ) < x.units := by exact_mod_cast units_pos nonzero
  exact div_pos some cast_unitsPerOne_pos

theorem value_exactDecimal (x : Binary64) : x.exactDecimal.value = x.value := by
  have places : ∀ n : Nat, ((x.units * 5 ^ n : Nat) : ℚ) * 10 ^ (-(n : Int))
      = x.units / (2 ^ n : Nat) := by
    intro n
    have factors : (10 : ℚ) ^ n = 5 ^ n * 2 ^ n := by
      rw [← mul_pow]
      norm_num
    rw [zpow_neg, zpow_natCast, factors]
    push_cast
    field_simp
  have all := places 1074
  rwa [← unitsPerOne] at all

theorem ofDecimal?_of_value (nonzero : x.isZero = false) (same : d.value = x.value) :
    ofDecimal? x.negative d.digits d.exponent = some x := by
  have digits : d.digits ≠ 0 := by
    rw [Ne, ← Decimal.value_eq_zero_iff, same]
    exact (value_pos nonzero).ne'
  have large : 2 ^ 53 * 2 ^ greatestScale ≤ 10 ^ 400 * unitsPerOne := by decide +kernel
  have small : unitsPerOne ≤ 10 ^ 401 := by decide +kernel
  have most := Decimal.leadingPower_lt digits (same ▸ x.value_lt large)
  have least := Decimal.le_leadingPower (same ▸ le_value nonzero small)
  rw [Decimal.value_eq_div, value] at same
  have ratio := same_ratio_of_div_eq d.den_pos unitsPerOne_pos same
  rw [ofDecimal?_eq, if_neg (by omega), if_neg (by omega),
    nearest?_of_same_ratio d.den_pos unitsPerOne_pos ratio, nearest?_units]

theorem ofDecimal?_of_decimalOf? {count : Nat} (found : x.decimalOf? count = some d) :
    ofDecimal? x.negative d.digits d.exponent = some x := by
  have reads : x.readsAs d = true := by
    simp only [decimalOf?] at found
    split at found
    · simp at found
    · next reads _ => exact Option.some.inj found ▸ reads
    · next _ reads => exact Option.some.inj found ▸ reads
    · next reads reads' =>
        split at found
        · exact Option.some.inj found ▸ reads
        · exact Option.some.inj found ▸ reads'
  simpa [readsAs] using reads

theorem ofDecimal?_shortest (nonzero : x.isZero = false) :
    ofDecimal? x.negative x.shortest.digits x.shortest.exponent = some x := by
  rw [shortest, ofDecimal?_of_value_eq (Decimal.value_stripZeros _ _)]
  cases found : (List.range 17).findSome? fun n => x.decimalOf? (n + 1) with
  | some d =>
      obtain ⟨n, _, decimal⟩ := List.exists_of_findSome?_eq_some found
      exact ofDecimal?_of_decimalOf? decimal
  | none => exact ofDecimal?_of_value nonzero x.value_exactDecimal

end Binary64

end Docket
