import Docket.Decimal.Binary64
import Mathlib.Data.Nat.Log
import Mathlib.Tactic.Positivity
import Mathlib.Tactic.Ring
/-!
Rounding a fraction to the nearest number.

The nearest number goes by the fraction alone, however it is written (`nearest?_of_same_ratio`), and a
number is the nearest one to itself (`nearest?_units`). A fraction lies at most half a step above its
nearest number (`le_of_nearest?`), and every fraction has one that lies less than half a step above
the greatest (`isSome_nearest?`).
-/

namespace Docket

section Round

variable {num den : Nat}

theorem roundHalfEven_mul (num den : Nat) {factor : Nat} (positive : 0 < factor) :
    roundHalfEven (num * factor) (den * factor) = roundHalfEven num den := by
  have quotient : num * factor / (den * factor) = num / den :=
    Nat.mul_div_mul_right num den positive
  have rest : num * factor % (den * factor) = num % den * factor := Nat.mul_mod_mul_right ..
  have below : 2 * (num % den * factor) < den * factor ↔ 2 * (num % den) < den := by
    rw [← Nat.mul_assoc, Nat.mul_lt_mul_right positive]
  have above : den * factor < 2 * (num % den * factor) ↔ den < 2 * (num % den) := by
    rw [← Nat.mul_assoc, Nat.mul_lt_mul_right positive]
  simp only [roundHalfEven, quotient, rest, below, above]

theorem roundHalfEven_mul_self (n : Nat) {den : Nat} (positive : 0 < den) :
    roundHalfEven (n * den) den = n := by
  simp [roundHalfEven, Nat.mul_div_cancel _ positive, positive]

theorem two_mul_roundHalfEven_le (num den : Nat) :
    2 * (roundHalfEven num den * den) ≤ 2 * num + den := by
  have parts := Nat.div_add_mod' num den
  unfold roundHalfEven
  generalize num / den = quotient at parts ⊢
  generalize num % den = rest at parts ⊢
  have next : (quotient + 1) * den = quotient * den + den := by ring
  simp only
  split_ifs
  · omega
  · rw [next]
    omega
  · omega
  · rw [next]
    omega

theorem two_mul_le_roundHalfEven (num : Nat) {den : Nat} (positive : 0 < den) :
    2 * num ≤ 2 * (roundHalfEven num den * den) + den := by
  have parts := Nat.div_add_mod' num den
  have small := Nat.mod_lt num positive
  unfold roundHalfEven
  generalize num / den = quotient at parts ⊢
  generalize num % den = rest at parts small ⊢
  have next : (quotient + 1) * den = quotient * den + den := by ring
  simp only
  split_ifs
  · omega
  · rw [next]
    omega
  · omega
  · rw [next]
    omega

theorem le_roundHalfEven {n : Nat} (positive : 0 < den) (enough : n * den ≤ num) :
    n ≤ roundHalfEven num den := by
  have quotient : n ≤ num / den := (Nat.le_div_iff_mul_le positive).mpr enough
  unfold roundHalfEven
  simp only
  split_ifs
  all_goals omega

end Round

namespace Binary64

variable {negative : Bool} {num den : Nat}

theorem unitsPerOne_pos : 0 < unitsPerOne := by
  unfold unitsPerOne
  exact Nat.two_pow_pos 1074

def greatestScale : Nat := 2045

def excess (whole : Nat) : Nat := if whole = 0 then 0 else Nat.log2 whole + 1 - 53

theorem lt_of_excess (whole : Nat) : whole < 2 ^ (excess whole + 53) := by
  unfold excess
  split
  · next nothing => simp [nothing]
  · have digits : whole < 2 ^ (Nat.log2 whole + 1) := Nat.lt_log2_self
    exact digits.trans_le (Nat.pow_le_pow_right (by decide) (by omega))

theorem le_of_excess (whole : Nat) : excess whole = 0 ∨ 2 ^ (excess whole + 52) ≤ whole := by
  unfold excess
  split
  · exact .inl rfl
  · next some =>
      by_cases short : Nat.log2 whole + 1 ≤ 53
      · exact .inl (by omega)
      · right
        have digits : 2 ^ Nat.log2 whole ≤ whole := Nat.log2_self_le some
        exact (Nat.pow_le_pow_right (by decide) (by omega)).trans digits

theorem excess_eq {whole scale : Nat} (small : whole < 2 ^ (scale + 53))
    (full : scale = 0 ∨ 2 ^ (scale + 52) ≤ whole) : excess whole = scale := by
  have upper := lt_of_excess whole
  have lower := le_of_excess whole
  have before : excess whole = 0 ∨ excess whole + 52 < scale + 53 :=
    lower.imp_right fun least => (Nat.pow_lt_pow_iff_right (by decide)).mp (least.trans_lt small)
  have after : scale = 0 ∨ scale + 52 < excess whole + 53 :=
    full.imp_right fun least => (Nat.pow_lt_pow_iff_right (by decide)).mp (least.trans_lt upper)
  omega

/-- The mantissa of the nearest number before a carry. -/
def rounded (num den : Nat) : Nat :=
  roundHalfEven (num * unitsPerOne) (den * 2 ^ excess (num * unitsPerOne / den))

theorem nearest?_eq (negative : Bool) (num den : Nat) :
    nearest? negative num den
      = if rounded num den = 2 ^ 53 then
          make? negative (2 ^ 52) (excess (num * unitsPerOne / den) + 1)
        else make? negative (rounded num den) (excess (num * unitsPerOne / den)) := rfl

theorem nearest?_mul (negative : Bool) (num den : Nat) {factor : Nat} (positive : 0 < factor) :
    nearest? negative (num * factor) (den * factor) = nearest? negative num den := by
  have whole : num * factor * unitsPerOne / (den * factor) = num * unitsPerOne / den := by
    rw [Nat.mul_right_comm, Nat.mul_div_mul_right _ _ positive]
  have same : rounded (num * factor) (den * factor) = rounded num den := by
    rw [rounded, whole, Nat.mul_right_comm num, Nat.mul_right_comm den,
      roundHalfEven_mul _ _ positive]
    rfl
  rw [nearest?_eq, nearest?_eq, whole, same]

theorem nearest?_of_same_ratio {num' den' : Nat} (positive : 0 < den) (positive' : 0 < den')
    (same : num * den' = num' * den) :
    nearest? negative num den = nearest? negative num' den' := by
  rw [← nearest?_mul negative num den positive', same, Nat.mul_comm den den',
    nearest?_mul negative num' den' positive]

theorem make?_self (x : Binary64) : make? x.negative x.mantissa x.scale = some x := by
  rw [make?, dif_pos x.canonical]

theorem excess_units (x : Binary64) : excess x.units = x.scale := by
  obtain ⟨small, _, full⟩ := x.canonical
  have positive : 0 < 2 ^ x.scale := Nat.two_pow_pos _
  apply excess_eq
  · rw [Nat.pow_add, Nat.mul_comm, units]
    exact Nat.mul_lt_mul_of_pos_right small positive
  · rcases full with full | least
    · right
      rw [Nat.pow_add, Nat.mul_comm, units]
      exact Nat.mul_le_mul_right _ full
    · exact .inl least

theorem nearest?_units (x : Binary64) : nearest? x.negative x.units unitsPerOne = some x := by
  have whole : x.units * unitsPerOne / unitsPerOne = x.units :=
    Nat.mul_div_cancel _ unitsPerOne_pos
  have mantissa : rounded x.units unitsPerOne = x.mantissa := by
    have step : 0 < unitsPerOne * 2 ^ x.scale := Nat.mul_pos unitsPerOne_pos (Nat.two_pow_pos _)
    have steps : x.units * unitsPerOne = x.mantissa * (unitsPerOne * 2 ^ x.scale) := by
      rw [units, Nat.mul_assoc, Nat.mul_comm (2 ^ x.scale)]
    rw [rounded, whole, excess_units, steps, roundHalfEven_mul_self _ step]
  have small : x.mantissa ≠ 2 ^ 53 := Nat.ne_of_lt x.canonical.1
  rw [nearest?_eq, whole, mantissa, excess_units, if_neg small, make?_self]

theorem eq_of_make? {mantissa scale : Nat} {x : Binary64}
    (made : make? negative mantissa scale = some x) :
    x.mantissa = mantissa ∧ x.scale = scale := by
  unfold make? at made
  split at made
  · obtain rfl := Option.some.inj made
    exact ⟨rfl, rfl⟩
  · simp at made

theorem le_of_nearest? (positive : 0 < den) {x : Binary64}
    (nearest : nearest? negative num den = some x) :
    2 * (num * unitsPerOne) ≤ (2 * x.mantissa + 1) * (den * 2 ^ x.scale) := by
  have step : 0 < den * 2 ^ excess (num * unitsPerOne / den) :=
    Nat.mul_pos positive (Nat.two_pow_pos _)
  have bound : 2 * (num * unitsPerOne) ≤ (2 * rounded num den + 1)
      * (den * 2 ^ excess (num * unitsPerOne / den)) := by
    have half := two_mul_le_roundHalfEven (num * unitsPerOne) step
    rw [Nat.add_mul, Nat.one_mul, Nat.mul_assoc]
    exact half
  rw [nearest?_eq] at nearest
  split at nearest
  · next carry =>
      -- The step above a carry is twice as great.
      obtain ⟨mantissa, scale⟩ := eq_of_make? nearest
      have twice : den * 2 ^ (excess (num * unitsPerOne / den) + 1)
          = 2 * (den * 2 ^ excess (num * unitsPerOne / den)) := by
        rw [Nat.pow_succ', Nat.mul_left_comm]
      rw [carry] at bound
      rw [mantissa, scale, twice]
      generalize den * 2 ^ excess (num * unitsPerOne / den) = below at bound ⊢
      omega
  · obtain ⟨mantissa, scale⟩ := eq_of_make? nearest
    rw [mantissa, scale]
    exact bound

theorem isSome_nearest? (positive : 0 < den)
    (small : 2 * (num * unitsPerOne) < (2 ^ 54 - 1) * (den * 2 ^ greatestScale)) :
    (nearest? negative num den).isSome = true := by
  have fits : ∀ {mantissa scale : Nat}, mantissa < 2 ^ 53 → scale ≤ greatestScale →
      2 ^ 52 ≤ mantissa ∨ scale = 0 → (make? negative mantissa scale).isSome = true := by
    intro mantissa scale low few full
    have canonical : mantissa < 2 ^ 53 ∧ scale ≤ 2045 ∧ (2 ^ 52 ≤ mantissa ∨ scale = 0) :=
      ⟨low, few, full⟩
    rw [make?, dif_pos canonical]
    rfl
  have lower := le_of_excess (num * unitsPerOne / den)
  have upper := lt_of_excess (num * unitsPerOne / den)
  have split := Nat.div_mul_le_self (num * unitsPerOne) den
  rw [Nat.div_lt_iff_lt_mul positive, Nat.pow_add] at upper
  have few : excess (num * unitsPerOne / den) ≤ greatestScale := by
    have less : num * unitsPerOne / den < 2 ^ (greatestScale + 53) := by
      rw [Nat.div_lt_iff_lt_mul positive, Nat.pow_add, Nat.mul_right_comm, Nat.mul_comm _ den]
      omega
    rcases lower with none | least
    · omega
    · have before := (Nat.pow_lt_pow_iff_right (by decide)).mp (least.trans_lt less)
      omega
  rw [nearest?_eq, rounded]
  generalize num * unitsPerOne / den = whole at *
  generalize num * unitsPerOne = n at *
  generalize scaled : excess whole = scale at *
  have step : 0 < den * 2 ^ scale := Nat.mul_pos positive (Nat.two_pow_pos _)
  have half := two_mul_roundHalfEven_le n (den * 2 ^ scale)
  have low : n < 2 ^ 53 * (den * 2 ^ scale) := by
    rwa [Nat.mul_right_comm, Nat.mul_comm (2 ^ scale), Nat.mul_comm _ (2 ^ 53)] at upper
  have least : 2 ^ 52 ≤ roundHalfEven n (den * 2 ^ scale) ∨ scale = 0 := by
    rcases lower with none | least
    · exact .inr none
    · left
      apply le_roundHalfEven step
      rw [Nat.pow_add, Nat.mul_comm (2 ^ scale)] at least
      calc 2 ^ 52 * (den * 2 ^ scale) = 2 ^ 52 * 2 ^ scale * den := by ring
        _ ≤ whole * den := Nat.mul_le_mul_right den least
        _ ≤ n := split
  have most : roundHalfEven n (den * 2 ^ scale) < 2 ^ 53 + 1 := by
    apply Nat.lt_of_mul_lt_mul_right (a := den * 2 ^ scale)
    generalize roundHalfEven n (den * 2 ^ scale) * (den * 2 ^ scale) = product at half ⊢
    omega
  split
  · next carry =>
      -- In the last range there is no carry.
      have inside : scale ≠ greatestScale := by
        rintro rfl
        rw [carry] at half
        omega
      exact fits (by decide) (by omega) (.inl (Nat.le_refl _))
  · next other => exact fits (by omega) few least

end Binary64

end Docket
