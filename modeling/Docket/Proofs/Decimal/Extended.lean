import Docket.Decimal.Extended
import Docket.Proofs.Decimal.Value
import Mathlib.Tactic.GCongr
/-!
Reading with 64 binary digits to spare comes to an end inside the numbers.

Each rounding to 64 digits adds at most one part in 2 ^ 64, and a decimal that has been read so is the
product of few factors (`Extended.value_scale_le`). Less than half a step below the greatest number
that is too little to go beyond it, so every such decimal is read as a number
(`Binary64.isSome_extended?`).
-/

namespace Docket

namespace Extended

def value (x : Extended) : ℚ := x.mantissa * 2 ^ x.exponent

theorem value_nonneg (x : Extended) : 0 ≤ x.value := by
  unfold value
  positivity

/-- What one rounding can add at most, as a factor. -/
def excessFactor : ℚ := 1 + 1 / 2 ^ 64

theorem one_le_excessFactor : 1 ≤ excessFactor := by norm_num [excessFactor]

theorem nearest_step {num : Nat} (some : 0 < num) (den : Nat) :
    den * 2 ^ (Nat.log2 (num * 2 ^ (Nat.log2 den + 66) / den) + 1 - 64) * 2 ^ 63
      ≤ num * 2 ^ (Nat.log2 den + 66) := by
  have split := Nat.mul_div_le (num * 2 ^ (Nat.log2 den + 66)) den
  have least : den * 2 ^ 63 ≤ num * 2 ^ (Nat.log2 den + 66) := by
    have size : den < 2 ^ (Nat.log2 den + 1) := Nat.lt_log2_self
    calc den * 2 ^ 63 ≤ 2 ^ (Nat.log2 den + 1) * 2 ^ 63 := Nat.mul_le_mul_right _ size.le
      _ = 2 ^ (Nat.log2 den + 64) := by rw [← Nat.pow_add]
      _ ≤ 2 ^ (Nat.log2 den + 66) := Nat.pow_le_pow_right (by decide) (by omega)
      _ ≤ num * 2 ^ (Nat.log2 den + 66) := Nat.le_mul_of_pos_left _ some
  generalize num * 2 ^ (Nat.log2 den + 66) = scaled at *
  by_cases short : Nat.log2 (scaled / den) ≤ 63
  · rwa [Nat.sub_eq_zero_of_le (by omega), Nat.pow_zero, Nat.mul_one]
  · have quotient : scaled / den ≠ 0 := by
      intro nothing
      simp [nothing] at short
    have digits : 2 ^ (Nat.log2 (scaled / den) + 1 - 64) * 2 ^ 63 ≤ scaled / den := by
      rw [← Nat.pow_add]
      exact (Nat.pow_le_pow_right (by decide) (by omega)).trans (Nat.log2_self_le quotient)
    rw [Nat.mul_assoc]
    exact (Nat.mul_le_mul_left den digits).trans split

theorem mantissa_nearest_le (num : Nat) {den : Nat} (positive : 0 < den) :
    (nearest num den).mantissa
        * (den * 2 ^ (Nat.log2 (num * 2 ^ (Nat.log2 den + 66) / den) + 1 - 64)) * 2 ^ 64
      ≤ num * 2 ^ (Nat.log2 den + 66) * (2 ^ 64 + 1) := by
  rcases Nat.eq_zero_or_pos num with rfl | some
  · have step : 0 < den * 2 ^ (Nat.log2 (0 * 2 ^ (Nat.log2 den + 66) / den) + 1 - 64) :=
      Nat.mul_pos positive (Nat.two_pow_pos _)
    have nothing : (nearest 0 den).mantissa = 0 := by
      simp only [nearest, Nat.zero_mul] at step ⊢
      simpa using roundHalfEven_mul_self 0 step
    rw [nothing, Nat.zero_mul, Nat.zero_mul]
    exact Nat.zero_le _
  · have small := nearest_step some den
    have half := two_mul_roundHalfEven_le (num * 2 ^ (Nat.log2 den + 66))
      (den * 2 ^ (Nat.log2 (num * 2 ^ (Nat.log2 den + 66) / den) + 1 - 64))
    simp only [nearest]
    generalize den * 2 ^ (Nat.log2 (num * 2 ^ (Nat.log2 den + 66) / den) + 1 - 64) = step at *
    generalize num * 2 ^ (Nat.log2 den + 66) = scaled at *
    generalize roundHalfEven scaled step * step = rounded at *
    linarith

theorem value_nearest_le (num : Nat) {den : Nat} (positive : 0 < den) :
    (nearest num den).value ≤ num / den * excessFactor := by
  have bound := mantissa_nearest_le num positive
  generalize scale : Nat.log2 (num * 2 ^ (Nat.log2 den + 66) / den) + 1 - 64 = excess at bound
  have exponent : (nearest num den).exponent = (excess : Int) - (Nat.log2 den + 66 : Nat) := by
    rw [← scale]
    rfl
  generalize Nat.log2 den + 66 = places at *
  generalize mantissaIs : (nearest num den).mantissa = mantissa at bound
  have den_pos : (0 : ℚ) < den := by exact_mod_cast positive
  have cast : (mantissa : ℚ) * (den * 2 ^ excess) * 2 ^ 64 ≤ num * 2 ^ places * (2 ^ 64 + 1) := by
    exact_mod_cast bound
  rw [value, mantissaIs, exponent, zpow_sub₀ (by norm_num), zpow_natCast, zpow_natCast,
    ← mul_div_assoc, excessFactor, div_mul_eq_mul_div,
    div_le_div_iff₀ (by positivity) den_pos]
  linarith

theorem value_times_le (x y : Extended) :
    (x.times y).value ≤ x.value * y.value * excessFactor := by
  have product := value_nearest_le (x.mantissa * y.mantissa) Nat.one_pos
  have powers : (0 : ℚ) ≤ 2 ^ (x.exponent + y.exponent) := by positivity
  have scaled := mul_le_mul_of_nonneg_right product powers
  calc (x.times y).value
      = (nearest (x.mantissa * y.mantissa) 1).value * 2 ^ (x.exponent + y.exponent) := by
        simp only [times, value, zpow_add₀ (two_ne_zero (α := ℚ))]
        ring
    _ ≤ ((x.mantissa * y.mantissa : Nat) : ℚ) / (1 : Nat) * excessFactor
          * 2 ^ (x.exponent + y.exponent) := scaled
    _ = x.value * y.value * excessFactor := by
        simp only [value, zpow_add₀ (two_ne_zero (α := ℚ))]
        push_cast
        ring

def steps (places : Nat) : Nat := places / 100 + places % 100 / 10 + places % 10

theorem value_repeat_le {factor : Extended} {exact : ℚ} (positive : 0 ≤ exact)
    (close : factor.value ≤ exact * excessFactor) (count : Nat) (x : Extended) :
    (Nat.repeat (fun x => x.times factor) count x).value
      ≤ x.value * exact ^ count * excessFactor ^ (2 * count) := by
  have spare : (0 : ℚ) ≤ excessFactor := zero_le_one.trans one_le_excessFactor
  induction count with
  | zero => simp [Nat.repeat]
  | succ count ih =>
      have before := (Nat.repeat (fun x => x.times factor) count x).value_nonneg
      calc (Nat.repeat (fun x => x.times factor) (count + 1) x).value
          ≤ (Nat.repeat (fun x => x.times factor) count x).value * factor.value
              * excessFactor := value_times_le _ _
        _ ≤ (x.value * exact ^ count * excessFactor ^ (2 * count)) * (exact * excessFactor)
              * excessFactor := by
            have own := x.value_nonneg
            gcongr
            exact factor.value_nonneg
        _ = x.value * exact ^ (count + 1) * excessFactor ^ (2 * (count + 1)) := by ring

theorem value_timesEach_le {power : Nat → Extended} {unit : ℚ} (positive : 0 ≤ unit)
    (close : ∀ size, (power size).value ≤ unit ^ size * excessFactor) (places : Nat)
    (x : Extended) :
    (timesEach power places x).value
      ≤ x.value * unit ^ places * excessFactor ^ (2 * steps places) := by
  have spare : (0 : ℚ) ≤ excessFactor := zero_le_one.trans one_le_excessFactor
  let hundreds := Nat.repeat (fun x => x.times (power 100)) (places / 100) x
  let tens := Nat.repeat (fun x => x.times (power 10)) (places % 100 / 10) hundreds
  have first := value_repeat_le (pow_nonneg positive 100) (close 100) (places / 100) x
  have second := value_repeat_le (pow_nonneg positive 10) (close 10) (places % 100 / 10) hundreds
  have third := value_repeat_le (pow_nonneg positive 1) (close 1) (places % 10) tens
  have parts : places = 100 * (places / 100) + 10 * (places % 100 / 10) + places % 10 := by omega
  calc (timesEach power places x).value
      ≤ tens.value * (unit ^ 1) ^ (places % 10) * excessFactor ^ (2 * (places % 10)) := third
    _ ≤ (x.value * (unit ^ 100) ^ (places / 100) * excessFactor ^ (2 * (places / 100))
          * (unit ^ 10) ^ (places % 100 / 10) * excessFactor ^ (2 * (places % 100 / 10)))
          * (unit ^ 1) ^ (places % 10) * excessFactor ^ (2 * (places % 10)) := by
        gcongr
        exact second.trans (by gcongr)
    _ = x.value * unit ^ (100 * (places / 100) + 10 * (places % 100 / 10) + places % 10)
          * excessFactor ^ (2 * steps places) := by
        simp only [steps, ← pow_mul, pow_add, Nat.mul_add]
        ring
    _ = x.value * unit ^ places * excessFactor ^ (2 * steps places) := by rw [← parts]

/-- The product of digits and a power of ten, as far as it may be above the exact one. -/
theorem value_scale_le (digits : Nat) (exponent : Int) :
    (scale digits exponent).value
      ≤ Decimal.value ⟨digits, exponent⟩ * excessFactor ^ (2 * steps exponent.natAbs) := by
  have own : value ⟨digits, 0⟩ = digits := by simp [value]
  unfold scale
  split
  · next whole =>
      have close : ∀ size, (nearest (10 ^ size) 1).value ≤ (10 : ℚ) ^ size * excessFactor := by
        intro size
        simpa using value_nearest_le (10 ^ size) Nat.one_pos
      have product := value_timesEach_le (by norm_num) close exponent.toNat ⟨digits, 0⟩
      have places : exponent.natAbs = exponent.toNat := by omega
      have power : (10 : ℚ) ^ exponent = 10 ^ exponent.toNat := by
        rw [← zpow_natCast, Int.toNat_of_nonneg whole]
      rw [own, ← power] at product
      rwa [Decimal.value, places]
  · next part =>
      have close : ∀ size, (nearest 1 (10 ^ size)).value ≤ (10⁻¹ : ℚ) ^ size * excessFactor := by
        intro size
        simpa using value_nearest_le 1 (Nat.pow_pos (n := size) (by decide : 0 < 10))
      have product := value_timesEach_le (by norm_num) close (-exponent).toNat ⟨digits, 0⟩
      have places : exponent.natAbs = (-exponent).toNat := by omega
      have power : (10 : ℚ) ^ exponent = 10⁻¹ ^ (-exponent).toNat := by
        rw [inv_pow, ← zpow_natCast, ← zpow_neg, Int.toNat_of_nonneg (by omega), neg_neg]
      rw [own, ← power] at product
      rwa [Decimal.value, places]

theorem isSome_toBinary64? (negative : Bool) {x : Extended}
    (small : 2 * (x.value * Binary64.unitsPerOne)
      < ((2 ^ 54 - 1 : Nat) : ℚ) * 2 ^ Binary64.greatestScale) :
    (x.toBinary64? negative).isSome = true := by
  have den : 0 < 2 ^ (-x.exponent).toNat := Nat.two_pow_pos _
  have fraction : x.value
      = ((x.mantissa * 2 ^ x.exponent.toNat : Nat) : ℚ) / (2 ^ (-x.exponent).toNat : Nat) := by
    rw [value]
    rcases Int.le_total 0 x.exponent with whole | parts
    · obtain ⟨n, power⟩ := Int.eq_ofNat_of_zero_le whole
      simp [power]
    · obtain ⟨n, power⟩ := Int.eq_ofNat_of_zero_le (Int.neg_nonneg_of_nonpos parts)
      have negated : x.exponent = -(n : Int) := by omega
      simp [negated, div_eq_mul_inv]
  apply Binary64.isSome_nearest? den
  generalize x.mantissa * 2 ^ x.exponent.toNat = num at *
  generalize 2 ^ (-x.exponent).toNat = parts at *
  generalize 2 ^ 54 - 1 = most at *
  generalize Binary64.unitsPerOne = unit at *
  generalize Binary64.greatestScale = scale at *
  have den' : (0 : ℚ) < parts := by exact_mod_cast den
  rw [fraction, div_mul_eq_mul_div, ← mul_div_assoc, div_lt_iff₀ den'] at small
  rw [Nat.mul_comm parts, ← Nat.mul_assoc, ← Nat.mul_assoc]
  rw [← mul_assoc] at small
  exact_mod_cast small

theorem fillZeros_spec (digits places : Nat) :
    (fillZeros digits places).value = Decimal.value ⟨digits, places⟩ ∧
      0 ≤ (fillZeros digits places).exponent ∧ (fillZeros digits places).exponent ≤ places := by
  induction places generalizing digits with
  | zero => exact ⟨rfl, Int.le_refl _, Int.le_refl _⟩
  | succ places ih =>
      unfold fillZeros
      split
      · obtain ⟨same, least, most⟩ := ih (10 * digits)
        have shifted := Decimal.value_zeros digits 1 places
        rw [pow_one, Nat.mul_comm] at shifted
        exact ⟨same.trans shifted, least, by omega⟩
      · exact ⟨rfl, Int.natCast_nonneg _, Int.le_refl _⟩

theorem exponent_stripZeros (d : Decimal) (fuel : Nat) :
    d.exponent ≤ (d.stripZeros fuel).exponent ∧
      (d.stripZeros fuel).exponent ≤ d.exponent + fuel := by
  induction fuel generalizing d with
  | zero => simp [Decimal.stripZeros]
  | succ fuel ih =>
      unfold Decimal.stripZeros
      split
      · have rest := ih ⟨d.digits / 10, d.exponent + 1⟩
        simp only at rest
        omega
      · omega

theorem settle_spec (d : Decimal) :
    (settle d).value = d.value ∧ (settle d).exponent.natAbs ≤ d.exponent.natAbs := by
  unfold settle
  split
  · next whole =>
      obtain ⟨same, least, most⟩ := fillZeros_spec d.digits d.exponent.toNat
      refine ⟨same.trans (Decimal.value_mk rfl (by omega)), by omega⟩
  · have power := exponent_stripZeros d (-d.exponent).toNat
    exact ⟨d.value_stripZeros _, by omega⟩

end Extended

namespace Binary64

theorem steps_le {places : Nat} (few : places ≤ 499) : Extended.steps places ≤ 22 := by
  unfold Extended.steps
  omega

theorem value_lt_of {d : Decimal}
    (small : 2 * (d.value * unitsPerOne) ≤ ((2 ^ 54 - 3 : Nat) : ℚ) * 2 ^ greatestScale) :
    d.value < 10 ^ ((400 : Nat) : Int) := by
  have large : (2 ^ 54 - 3) * 2 ^ greatestScale < 2 * (10 ^ 400 * unitsPerOne) := by decide +kernel
  generalize 2 ^ 54 - 3 = most at *
  generalize 400 = places at *
  have positive := cast_unitsPerOne_pos
  generalize greatestScale = scale at *
  generalize unitsPerOne = unit at *
  have cast : (most : ℚ) * 2 ^ scale < 2 * (10 ^ places * unit) := by exact_mod_cast large
  rw [zpow_natCast]
  nlinarith

/-- A decimal of at most twenty digits that is not beyond the middle above the greatest number but one
    is read as a number. -/
theorem isSome_extended? (negative : Bool) {d : Decimal} (few : digitCount d.digits ≤ 20)
    (small : 2 * (d.value * unitsPerOne) ≤ ((2 ^ 54 - 3 : Nat) : ℚ) * 2 ^ greatestScale) :
    (extended? negative d).isSome = true := by
  unfold extended?
  split
  · rfl
  · next some =>
      rw [not_or] at some
      have range : d.leadingPower < (400 : Nat) := Decimal.leadingPower_lt some.1 (value_lt_of small)
      have places : d.exponent.natAbs ≤ 499 := by
        have first : d.leadingPower = d.exponent + digitCount d.digits - 1 := rfl
        have positive := Decimal.digitCount_pos d.digits
        omega
      rw [if_neg (by omega)]
      obtain ⟨same, power⟩ := Extended.settle_spec d
      apply Extended.isSome_toBinary64?
      have product := Extended.value_scale_le (Extended.settle d).digits (Extended.settle d).exponent
      change _ ≤ (Extended.settle d).value * _ at product
      rw [same] at product
      have spare : Extended.excessFactor ^ (2 * Extended.steps (Extended.settle d).exponent.natAbs)
          ≤ Extended.excessFactor ^ 44 := by
        have few := steps_le (power.trans places)
        exact pow_le_pow_right₀ Extended.one_le_excessFactor (by omega)
      have most : ((2 ^ 54 - 3 : Nat) : ℚ) * Extended.excessFactor ^ 44 < (2 ^ 54 - 1 : Nat) := by
        norm_num [Extended.excessFactor]
      have positive := cast_unitsPerOne_pos
      have least : (0 : ℚ) < 2 ^ greatestScale := by positivity
      have one := Extended.one_le_excessFactor
      have own := d.value_nonneg
      generalize (unitsPerOne : ℚ) = unit at *
      generalize (2 : ℚ) ^ greatestScale = step at *
      calc 2 * ((Extended.scale (Extended.settle d).digits (Extended.settle d).exponent).value
              * unit)
          ≤ 2 * (d.value * Extended.excessFactor ^ 44 * unit) := by
            gcongr
            exact product.trans (by gcongr)
        _ = 2 * (d.value * unit) * Extended.excessFactor ^ 44 := by ring
        _ ≤ ((2 ^ 54 - 3 : Nat) : ℚ) * step * Extended.excessFactor ^ 44 := by gcongr
        _ = ((2 ^ 54 - 3 : Nat) : ℚ) * Extended.excessFactor ^ 44 * step := by ring
        _ < ((2 ^ 54 - 1 : Nat) : ℚ) * step := by gcongr

end Binary64

end Docket
