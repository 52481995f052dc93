import ThrevoActions.Money
import Mathlib.Algebra.Order.Field.Basic
import Mathlib.Algebra.Order.Field.Power
import Mathlib.Data.Rat.Cast.Order
import Mathlib.Tactic.LinearCombination
import Mathlib.Tactic.Positivity
import Mathlib.Tactic.Ring

/-!
# Decimals as numbers

The rational number a decimal stands for, and what the operations on decimals are on numbers. Two
decimals that are equal as numbers may still differ in their exponents.
-/

namespace ThrevoActions

namespace Decimal

/-- The number. -/
def value (d : Decimal) : ℚ := d.signed * (10 : ℚ) ^ d.exponent

theorem ten_zpow_pos (n : ℤ) : (0 : ℚ) < 10 ^ n := zpow_pos (by norm_num) n

/-- A negative power of ten and its reciprocal. -/
theorem zpow_mul_pow {n : ℤ} (h : n ≤ 0) : (10 : ℚ) ^ n * 10 ^ (-n).toNat = 1 := by
  rw [← zpow_natCast, ← zpow_add₀ (by norm_num), Int.toNat_of_nonneg (by omega)]
  simp

/-- The signed coefficient at a lower exponent stands for the same number. -/
theorem signedAt_value (d : Decimal) {exponent : ℤ} (h : exponent ≤ d.exponent) :
    (d.signedAt exponent : ℚ) * 10 ^ exponent = d.value := by
  have hsplit : (10 : ℚ) ^ d.exponent = 10 ^ (d.exponent - exponent).toNat * 10 ^ exponent := by
    rw [← zpow_natCast, ← zpow_add₀ (by norm_num)]
    congr 1
    omega
  rw [signedAt, value, hsplit]
  push_cast
  ring

theorem le_iff {a b : Decimal} : a.le b = true ↔ a.value ≤ b.value := by
  have ha := a.signedAt_value (min_le_left a.exponent b.exponent)
  have hb := b.signedAt_value (min_le_right a.exponent b.exponent)
  rw [le, decide_eq_true_iff, ← ha, ← hb, mul_le_mul_iff_of_pos_right (ten_zpow_pos _)]
  exact Int.cast_le.symm

theorem isPositive_iff {d : Decimal} : d.isPositive = true ↔ 0 < d.value := by
  rw [isPositive, decide_eq_true_iff, value, mul_pos_iff_of_pos_right (ten_zpow_pos _)]
  exact Int.cast_pos.symm

theorem scaleb_value (d : Decimal) (places : ℤ) :
    (d.scaleb places).value = d.value * 10 ^ places := by
  rw [value, value, scaleb, zpow_add₀ (by norm_num), mul_assoc]
  rfl

theorem natAbs_signed (d : Decimal) : d.signed.natAbs = d.coefficient := by
  rw [signed]
  split <;> simp

/-- An integral decimal is the integer its fraction is cut off to. -/
theorem toInt_value {d : Decimal} (h : d.isIntegral = true) : (d.toInt : ℚ) = d.value := by
  rw [toInt, value]
  by_cases hexponent : 0 ≤ d.exponent
  · rw [if_pos hexponent]
    push_cast
    rw [← zpow_natCast, Int.toNat_of_nonneg hexponent]
  · rw [if_neg hexponent]
    rw [isIntegral, Bool.or_eq_true, decide_eq_true_iff, beq_iff_eq] at h
    have hdvd : 10 ^ (-d.exponent).toNat ∣ d.coefficient :=
      Nat.dvd_of_mod_eq_zero (h.resolve_left hexponent)
    rw [← d.natAbs_signed] at hdvd
    obtain ⟨q, hq⟩ := Int.natAbs_dvd_natAbs.mp (by simpa using hdvd :
      (10 ^ (-d.exponent).toNat : ℤ).natAbs ∣ d.signed.natAbs)
    have hpower := zpow_mul_pow (le_of_not_ge hexponent)
    rw [hq, Int.mul_tdiv_cancel_left _ (by positivity)]
    push_cast
    linear_combination (-(q : ℚ)) * hpower

/-- Decimals that are integers are integral. -/
theorem isIntegral_of_value {d : Decimal} {n : ℤ} (h : d.value = n) : d.isIntegral = true := by
  rw [isIntegral, Bool.or_eq_true, decide_eq_true_iff, beq_iff_eq]
  by_cases hexponent : 0 ≤ d.exponent
  · exact Or.inl hexponent
  · have hpower := zpow_mul_pow (le_of_not_ge hexponent)
    have hsigned : d.signed = n * 10 ^ (-d.exponent).toNat := by
      have hcast : (d.signed : ℚ) = n * 10 ^ (-d.exponent).toNat := by
        rw [← h, value]
        linear_combination (-(d.signed : ℚ)) * hpower
      exact_mod_cast hcast
    refine Or.inr (Nat.mod_eq_zero_of_dvd ?_)
    rw [← d.natAbs_signed, hsigned, Int.natAbs_mul]
    exact Dvd.intro_left n.natAbs (by rw [Int.natAbs_pow]; rfl)

/-- The amounts that are whole numbers from one to `bound`. -/
theorem isPositiveUnits_iff {units : Decimal} {bound : ℕ} :
    units.isPositiveUnits bound = true ↔
      ∃ n : ℤ, units.value = n ∧ 1 ≤ n ∧ n ≤ bound := by
  have hbound : (⟨false, bound, 0⟩ : Decimal).value = bound := by simp [value, signed]
  rw [isPositiveUnits, Bool.and_eq_true, Bool.and_eq_true, isPositive_iff, le_iff, hbound]
  constructor
  · rintro ⟨⟨hpositive, hintegral⟩, hle⟩
    have hvalue := toInt_value hintegral
    rw [← hvalue] at hpositive hle
    exact ⟨units.toInt, hvalue.symm, Int.add_one_le_iff.mpr (by exact_mod_cast hpositive),
      by exact_mod_cast hle⟩
  · rintro ⟨n, hvalue, hone, hle⟩
    refine ⟨⟨?_, isIntegral_of_value hvalue⟩, ?_⟩
    · rw [hvalue]
      exact_mod_cast hone
    · rw [hvalue]
      exact_mod_cast hle

end Decimal

end ThrevoActions
