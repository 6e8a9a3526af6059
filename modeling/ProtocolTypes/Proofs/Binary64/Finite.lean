import ProtocolTypes.Proofs.Binary64.Integers

/-!
# ProtocolTypes.Proofs.Binary64.Finite

Which operations give finite words. A ratio below `2 ^ 1023` rounds to a finite word
(`isFinite_ofRatio`), so that halving any finite word, or dividing it by more, cannot leave the
finite range (`isFinite_div`).
-/

namespace ProtocolTypes
namespace Binary64

variable {num den : Nat} {x y : Binary64} {negative : Bool}

/-! ## Words by sign and magnitude -/

theorem magnitude_ofSignMagnitude {n : Nat} (h : n < 1 <<< 63) :
    (ofSignMagnitude negative n).magnitude = n := by
  have hsum : (if negative then 1 <<< 63 else 0) + n < UInt64.size := by
    have hsize : UInt64.size = 1 <<< 63 + 1 <<< 63 := by decide
    split <;> omega
  rw [magnitude, ofSignMagnitude, UInt64.toNat_ofNat_of_lt' hsum]
  split
  · rw [Nat.add_mod_left, Nat.mod_eq_of_lt h]
  · rw [Nat.zero_add, Nat.mod_eq_of_lt h]

theorem isFinite_ofSignMagnitude {n : Nat} (h : n < infinity) :
    (ofSignMagnitude negative n).isFinite = true := by
  have hlt : n < 1 <<< 63 := Nat.lt_trans h (by decide)
  rw [isFinite, magnitude_ofSignMagnitude hlt]
  exact decide_eq_true h

theorem isFinite_neg (h : x.isFinite = true) : x.neg.isFinite = true :=
  isFinite_ofSignMagnitude (of_decide_eq_true h)

/-! ## Rounding a ratio -/

theorem roundHalfEven_le {bound : Nat} (h : num < bound * den) : roundHalfEven num den ≤ bound := by
  have hq : num / den < bound := Nat.div_lt_of_lt_mul (Nat.mul_comm bound den ▸ h)
  have hmod : num / den % 2 ≤ 1 := Nat.le_of_lt_succ (Nat.mod_lt _ (by decide))
  rw [roundHalfEven]
  split
  · omega
  · split <;> omega

theorem shiftLeft_lt_shiftLeft {a b i j : Nat} (hb : b ≠ 0) (h : a.log2 + 1 + i ≤ b.log2 + j) :
    a <<< i < b <<< j := by
  rw [Nat.shiftLeft_eq, Nat.shiftLeft_eq]
  calc a * 2 ^ i < 2 ^ (a.log2 + 1) * 2 ^ i :=
        Nat.mul_lt_mul_of_pos_right Nat.lt_log2_self (Nat.two_pow_pos i)
    _ = 2 ^ (a.log2 + 1 + i) := (Nat.pow_add 2 _ _).symm
    _ ≤ 2 ^ (b.log2 + j) := Nat.pow_le_pow_right Nat.two_pos h
    _ = 2 ^ b.log2 * 2 ^ j := Nat.pow_add 2 _ _
    _ ≤ b * 2 ^ j := Nat.mul_le_mul_right _ (Nat.log2_self_le hb)

theorem shiftLeft_lt_of_shiftLeft_lt {a b i j p q : Nat} (h : a <<< p < b <<< q)
    (hle : i + q ≤ j + p) : a <<< i < b <<< j := by
  rw [Nat.shiftLeft_eq, Nat.shiftLeft_eq] at h ⊢
  refine Nat.lt_of_mul_lt_mul_right (a := 2 ^ p) ?_
  calc a * 2 ^ i * 2 ^ p = a * 2 ^ p * 2 ^ i := Nat.mul_right_comm _ _ _
    _ < b * 2 ^ q * 2 ^ i := Nat.mul_lt_mul_of_pos_right h (Nat.two_pow_pos i)
    _ = b * 2 ^ (i + q) := by rw [Nat.mul_assoc, ← Nat.pow_add, Nat.add_comm]
    _ ≤ b * 2 ^ (j + p) := Nat.mul_le_mul_left b (Nat.pow_le_pow_right Nat.two_pos hle)
    _ = b * 2 ^ j * 2 ^ p := by rw [Nat.pow_add, Nat.mul_assoc]

/-- The ratio is below each power of two beyond `ratioLog2`. -/
theorem shiftLeft_lt_of_ratioLog2 (hden : den ≠ 0) {i j : Nat}
    (h : ratioLog2 num den + 1 + i ≤ j) : num <<< i < den <<< j := by
  rw [ratioLog2] at h
  split at h
  · exact shiftLeft_lt_shiftLeft hden (by omega)
  · rename_i hlt
    exact shiftLeft_lt_of_shiftLeft_lt (Nat.not_le.mp hlt) (by omega)

theorem ratioLog2_lt (hnum : num ≠ 0) {k : Nat} (h : num < den <<< k) :
    ratioLog2 num den < k := by
  refine Int.not_le.mp fun hlog => ?_
  have hlt : num <<< 0 < den <<< k := h
  rw [ratioLog2] at hlog
  split at hlog
  · rename_i hle
    exact absurd (shiftLeft_lt_of_shiftLeft_lt hlt (by omega)) (Nat.not_lt.mpr hle)
  · exact absurd (shiftLeft_lt_shiftLeft hnum (by omega)) (Nat.lt_asymm hlt)

theorem isFinite_ofRatio (h : num < den <<< 1023) :
    (ofRatio negative num den).isFinite = true := by
  have hden : den ≠ 0 := by
    rintro rfl
    rw [Nat.zero_shiftLeft] at h
    exact absurd h (Nat.not_lt_zero num)
  rw [ofRatio]
  by_cases hnum : num = 0
  · rw [if_pos hnum]
    exact isFinite_ofSignMagnitude (by decide)
  · rw [if_neg hnum]
    have hlog := ratioLog2_lt hnum h
    let e : Int := max (-1074) (ratioLog2 num den - 52)
    have hround : roundHalfEven (num <<< (-e).toNat) (den <<< e.toNat) ≤ 1 <<< 53 := by
      refine roundHalfEven_le ?_
      rw [Nat.one_shiftLeft, Nat.mul_comm, ← Nat.shiftLeft_eq, ← Nat.shiftLeft_add]
      exact shiftLeft_lt_of_ratioLog2 hden (by omega)
    have hexponent : (e + 1074).toNat ≤ 2044 := by omega
    have hsum : (e + 1074).toNat <<< 52 + roundHalfEven (num <<< (-e).toNat) (den <<< e.toNat) <
        infinity := by
      have hinfinity : infinity = 2045 <<< 52 + 1 <<< 53 := by decide
      rw [Nat.shiftLeft_eq (e + 1074).toNat, hinfinity]
      omega
    refine isFinite_ofSignMagnitude ?_
    exact Nat.lt_of_le_of_lt (Nat.min_le_right _ _) hsum

theorem isFinite_ofNat {n : Nat} (h : n < 1 <<< 1023) : (ofNat n).isFinite = true :=
  isFinite_ofRatio h

theorem isFinite_ofInt {i : Int} (h : i.natAbs < 1 <<< 1023) : (ofInt i).isFinite = true :=
  isFinite_ofRatio h

/-! ## Quotients -/

theorem denominator_pos (x : Binary64) : 0 < x.denominator := by
  rw [denominator, Nat.one_shiftLeft]
  exact Nat.two_pow_pos _

theorem significand_lt (x : Binary64) : x.significand < 1 <<< 53 := by
  have hfraction := fraction_lt x
  have hdouble : 1 <<< 53 = (1 <<< 52) + (1 <<< 52) := by decide
  rw [significand]
  split <;> omega

theorem exponent_le (h : x.isFinite = true) : x.exponent ≤ 971 := by
  have hfinite : x.magnitude < infinity := of_decide_eq_true h
  have hfield : x.exponentField < 2047 := by
    rw [exponentField, Nat.shiftRight_eq_div_pow]
    exact Nat.div_lt_of_lt_mul hfinite
  rw [exponent]
  omega

theorem numerator_lt {k : Nat} (hx : x.isFinite = true) (hk : 1024 ≤ k) :
    x.numerator < 1 <<< k := by
  have hexponent := exponent_le hx
  have hsignificand : x.significand <<< 0 < 1 <<< 53 := x.significand_lt
  exact shiftLeft_lt_of_shiftLeft_lt hsignificand (by omega)

theorem numerator_mul_lt {k : Nat} (hx : x.isFinite = true) (hk : 1023 ≤ k)
    (hy : 2 * y.denominator ≤ y.numerator) :
    x.numerator * y.denominator < (x.denominator * y.numerator) <<< k := by
  have hnumerator : x.numerator < 2 * 2 ^ k := by
    rw [← Nat.pow_succ', ← Nat.one_shiftLeft]
    exact numerator_lt hx (Nat.succ_le_succ hk)
  rw [Nat.shiftLeft_eq]
  calc x.numerator * y.denominator < 2 * 2 ^ k * y.denominator :=
        Nat.mul_lt_mul_of_pos_right hnumerator y.denominator_pos
    _ = 2 * y.denominator * 2 ^ k := Nat.mul_right_comm _ _ _
    _ ≤ y.numerator * 2 ^ k := Nat.mul_le_mul_right _ hy
    _ ≤ x.denominator * (y.numerator * 2 ^ k) := Nat.le_mul_of_pos_left _ x.denominator_pos
    _ = x.denominator * y.numerator * 2 ^ k := (Nat.mul_assoc _ _ _).symm

/-- A finite word divided by two or more is finite. -/
theorem isFinite_div (hx : x.isFinite = true) (hy : 2 * y.denominator ≤ y.numerator) :
    (x.div y).isFinite = true :=
  isFinite_ofRatio (numerator_mul_lt hx (Nat.le_refl 1023) hy)

end Binary64
end ProtocolTypes
