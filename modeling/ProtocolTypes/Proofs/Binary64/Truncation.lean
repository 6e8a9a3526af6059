import Mathlib.Data.Rat.Floor
import ProtocolTypes.Proofs.Binary64.Finite

/-!
# ProtocolTypes.Proofs.Binary64.Truncation

The integer part of a word is that of the number it stands for (`truncate_eq`), and what clamping
brings between two bounds.
-/

namespace ProtocolTypes

/-- A number without its fraction. -/
def towardZero (q : ℚ) : ℤ :=
  if 0 ≤ q then ⌊q⌋ else ⌈q⌉

namespace Binary64

/-- The number that a finite word stands for. -/
def toRat (x : Binary64) : ℚ :=
  (if x.isNegative then -1 else 1) * (x.significand * 2 ^ x.exponent)

theorem significand_mul_exponent (x : Binary64) :
    (x.significand * 2 ^ x.exponent : ℚ) = x.numerator / x.denominator := by
  have hexponent : x.exponent = (x.exponent.toNat : ℤ) - ((-x.exponent).toNat : ℤ) := by
    omega
  have hpower : (2 : ℚ) ^ x.exponent = 2 ^ x.exponent.toNat / 2 ^ (-x.exponent).toNat := by
    conv => lhs; rw [hexponent]
    rw [zpow_sub₀ two_ne_zero, zpow_natCast, zpow_natCast]
  rw [hpower, numerator, denominator, Nat.shiftLeft_eq, Nat.one_shiftLeft]
  push_cast
  exact mul_div_assoc' _ _ _

/-- The integer part of a word is the truncated number. -/
theorem truncate_eq (x : Binary64) : x.truncate = towardZero x.toRat := by
  have hfloor : ⌊(x.numerator / x.denominator : ℚ)⌋ = (x.numerator / x.denominator : Nat) :=
    Rat.floor_natCast_div_natCast x.numerator x.denominator
  have hnonneg : (0 : ℚ) ≤ x.numerator / x.denominator := by positivity
  rw [truncate, toRat, significand_mul_exponent, towardZero]
  cases x.isNegative with
  | false => simp [hnonneg, hfloor]
  | true =>
    by_cases hzero : (x.numerator / x.denominator : ℚ) = 0
    · rw [hzero, Int.floor_zero] at hfloor
      simp [hzero, ← hfloor]
    · have hneg : ¬ 0 ≤ -(x.numerator / x.denominator : ℚ) := by
        rw [not_le, neg_lt_zero]
        exact lt_of_le_of_ne hnonneg (Ne.symm hzero)
      simp [hneg, hfloor, Int.ceil_neg]

/-- A finite word is brought between the bounds as the number without its fraction is. -/
theorem clampTo_eq {x : Binary64} (h : x.isFinite = true) (lo hi : Int) :
    x.clampTo lo hi = max lo (min hi (towardZero x.toRat)) := by
  have hnumber : x.isNaN = false := by
    rw [isFinite, decide_eq_true_eq] at h
    rw [isNaN, decide_eq_false_iff_not]
    exact Nat.lt_asymm h
  rw [clampTo, hnumber, h, truncate_eq]
  rfl

end Binary64
end ProtocolTypes
