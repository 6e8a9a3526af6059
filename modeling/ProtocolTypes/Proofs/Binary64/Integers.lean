import ProtocolTypes.Binary64.Basic

/-!
# ProtocolTypes.Proofs.Binary64.Integers

Integers of at most fifty-three bits are exact: the word nearest to the integer that a word stands
for is that word again (`ofInt_truncate`).
-/

namespace ProtocolTypes
namespace Binary64

/-- An integer of a magnitude up to `2 ^ 53`, and not minus zero. -/
structure IsExactInteger (x : Binary64) : Prop where
  finite : x.isFinite = true
  whole : x.denominator ∣ x.numerator
  bounded : x.numerator ≤ (1 <<< 53) * x.denominator
  notMinusZero : x.isZero = true → x.isNegative = false

instance : DecidablePred IsExactInteger := fun x =>
  decidable_of_iff (x.isFinite = true ∧ x.denominator ∣ x.numerator ∧
      x.numerator ≤ (1 <<< 53) * x.denominator ∧ (x.isZero = true → x.isNegative = false))
    ⟨fun ⟨finite, whole, bounded, notMinusZero⟩ => ⟨finite, whole, bounded, notMinusZero⟩,
      fun h => ⟨h.finite, h.whole, h.bounded, h.notMinusZero⟩⟩

/-! ## Fields of a word -/

theorem ofSignMagnitude_self (x : Binary64) : ofSignMagnitude x.isNegative x.magnitude = x := by
  have hlt : x.bits.toNat < 18446744073709551616 := x.bits.toNat_lt
  have hnat : (if x.isNegative then 1 <<< 63 else 0) + x.magnitude = x.bits.toNat := by
    simp only [isNegative, magnitude, decide_eq_true_eq,
      show 1 <<< 63 = 9223372036854775808 from rfl]
    split <;> omega
  rw [ofSignMagnitude, hnat, UInt64.ofNat_toNat]

theorem magnitude_eq (x : Binary64) :
    x.magnitude = x.exponentField * (1 <<< 52) + x.fraction := by
  rw [exponentField, fraction, Nat.shiftRight_eq_div_pow]
  exact (Nat.div_add_mod' x.magnitude (1 <<< 52)).symm

theorem fraction_lt (x : Binary64) : x.fraction < 1 <<< 52 :=
  Nat.mod_lt _ (by decide)

theorem natAbs_truncate (x : Binary64) : x.truncate.natAbs = x.numerator / x.denominator := by
  simp only [truncate]
  split <;> simp only [Int.natAbs_neg, Int.natAbs_natCast]

/-! ## Rounding what is exact -/

theorem roundHalfEven_mul {n d : Nat} (hd : 0 < d) : roundHalfEven (n * d) d = n := by
  rw [roundHalfEven, Nat.mul_div_cancel _ hd, Nat.mul_mod_left]
  exact if_pos hd

theorem ratioLog2_one {n : Nat} (hn : n ≠ 0) : ratioLog2 n 1 = n.log2 := by
  have hone : Nat.log2 1 = 0 := by decide
  have hle : 1 <<< n.log2 ≤ n := by
    rw [Nat.one_shiftLeft]
    exact Nat.log2_self_le hn
  rw [ratioLog2, hone]
  simp only [Int.ofNat_zero, Int.sub_zero, Int.toNat_natCast, Int.toNat_neg_natCast,
    Nat.shiftLeft_zero, if_pos hle]

theorem log2_shiftLeft {n : Nat} (hn : n ≠ 0) (k : Nat) : (n <<< k).log2 = n.log2 + k := by
  have hpos : 0 < 2 ^ k := Nat.two_pow_pos k
  have hne : n * 2 ^ k ≠ 0 := Nat.mul_ne_zero hn (Nat.ne_of_gt hpos)
  rw [Nat.shiftLeft_eq, Nat.log2_eq_iff hne, Nat.add_right_comm, Nat.pow_add, Nat.pow_add]
  exact ⟨Nat.mul_le_mul_right _ (Nat.log2_self_le hn),
    Nat.mul_lt_mul_of_pos_right Nat.lt_log2_self hpos⟩

section Normal

variable {m : Nat}

theorem log2_normal (lo : 1 <<< 52 ≤ m) (hi : m < 1 <<< 53) : m.log2 = 52 := by
  have hne : m ≠ 0 := fun h => absurd (h ▸ lo) (by decide)
  exact (Nat.log2_eq_iff hne).mpr ⟨lo, hi⟩

/-- An integer with a significand of fifty-three bits before further zeros. -/
theorem ofRatio_shiftLeft (negative : Bool) (lo : 1 <<< 52 ≤ m) (hi : m < 1 <<< 53) (k : Nat) :
    ofRatio negative (m <<< k) 1 =
      ofSignMagnitude negative (min infinity (((1074 + k) <<< 52) + m)) := by
  have hm : m ≠ 0 := fun h => absurd (h ▸ lo) (by decide)
  have hne : m <<< k ≠ 0 := by
    rw [Nat.shiftLeft_eq]
    exact Nat.mul_ne_zero hm (Nat.ne_of_gt (Nat.two_pow_pos k))
  have he : max (-1074) (ratioLog2 (m <<< k) 1 - 52) = (k : Int) := by
    rw [ratioLog2_one hne, log2_shiftLeft hm, log2_normal lo hi]
    omega
  have hround : roundHalfEven (m <<< k) (1 <<< k) = m := by
    rw [Nat.shiftLeft_eq, Nat.one_shiftLeft]
    exact roundHalfEven_mul (Nat.two_pow_pos k)
  rw [ofRatio, if_neg hne, he]
  simp only [Int.toNat_neg_natCast, Int.toNat_natCast, Nat.shiftLeft_zero, hround]
  rw [show ((k : Int) + 1074).toNat = 1074 + k by omega]

/-- An integer that is filled up with zeros to a significand of fifty-three bits. -/
theorem ofRatio_of_shiftLeft (negative : Bool) {n k : Nat} (hk : k ≤ 1074)
    (lo : 1 <<< 52 ≤ n <<< k) (hi : n <<< k < 1 <<< 53) :
    ofRatio negative n 1 =
      ofSignMagnitude negative (min infinity (((1074 - k) <<< 52) + n <<< k)) := by
  have hne : n ≠ 0 := by
    rintro rfl
    rw [Nat.zero_shiftLeft] at lo
    exact absurd lo (by decide)
  have he : max (-1074) (ratioLog2 n 1 - 52) = -(k : Int) := by
    have hlog : n.log2 + k = 52 := (log2_shiftLeft hne k).symm.trans (log2_normal lo hi)
    rw [ratioLog2_one hne]
    omega
  have hround : roundHalfEven (n <<< k) 1 = n <<< k := by
    simpa using roundHalfEven_mul (n := n <<< k) Nat.one_pos
  rw [ofRatio, if_neg hne, he]
  simp only [Int.neg_neg, Int.toNat_neg_natCast, Int.toNat_natCast, Nat.shiftLeft_zero, hround]
  rw [show (-(k : Int) + 1074).toNat = 1074 - k by omega]

end Normal

/-! ## Integers -/

namespace IsExactInteger

variable {x : Binary64}

theorem shiftLeft_52 (n : Nat) : n <<< 52 = n * (1 <<< 52) := by
  rw [Nat.shiftLeft_eq, Nat.one_shiftLeft]

/-- A word that is an integer and not zero has the hidden bit. -/
theorem significand_eq (h : IsExactInteger x) (hx : x.isZero = false) :
    1 ≤ x.exponentField ∧ x.significand = (1 <<< 52) + x.fraction := by
  have hmagnitude := magnitude_eq x
  have hfraction := fraction_lt x
  by_cases hfield : x.exponentField = 0
  · -- a subnormal number is too small for an integer
    have hnum : x.numerator = x.fraction := by
      simp [numerator, significand, exponent, hfield]
    have hden : x.denominator = 1 <<< 1074 := by
      simp [denominator, exponent, hfield]
    have hsmall : (1 <<< 52) < (1 <<< 1074) := by decide
    have hzero : x.fraction = 0 := by
      have hdvd := h.whole
      rw [hnum, hden] at hdvd
      exact Nat.eq_zero_of_dvd_of_lt hdvd (Nat.lt_trans hfraction hsmall)
    rw [hfield, hzero, Nat.zero_mul] at hmagnitude
    simp [isZero, hmagnitude] at hx
  · exact ⟨Nat.one_le_iff_ne_zero.mpr hfield, by rw [significand, if_neg hfield]⟩

/-- The word nearest to the absolute value of an exact integer. -/
theorem ofRatio_quotient (h : IsExactInteger x) (hx : x.isZero = false) (negative : Bool) :
    ofRatio negative (x.numerator / x.denominator) 1 = ofSignMagnitude negative x.magnitude := by
  obtain ⟨hfield, hsignificand⟩ := h.significand_eq hx
  have hfraction := fraction_lt x
  have hmagnitude := magnitude_eq x
  have hfinite : x.magnitude < infinity := by simpa [isFinite] using h.finite
  have lo : 1 <<< 52 ≤ x.significand := by omega
  have hi : x.significand < 1 <<< 53 := by
    have : 1 <<< 53 = (1 <<< 52) + (1 <<< 52) := by decide
    omega
  have hword {n : Nat} (hn : n + 1 = x.exponentField) :
      min infinity ((n <<< 52) + x.significand) = x.magnitude := by
    have hfields : x.magnitude = n * (1 <<< 52) + ((1 <<< 52) + x.fraction) := by
      rw [hmagnitude, ← hn, Nat.add_mul, Nat.one_mul, Nat.add_assoc]
    rw [shiftLeft_52, hsignificand, ← hfields]
    exact Nat.min_eq_right (Nat.le_of_lt hfinite)
  by_cases hlarge : 1075 ≤ x.exponentField
  · have hexponent : x.exponent = (x.exponentField - 1075 : Nat) := by
      rw [exponent]
      omega
    have hquotient : x.numerator / x.denominator = x.significand <<< (x.exponentField - 1075) := by
      rw [numerator, denominator, hexponent, Int.toNat_natCast, Int.toNat_neg_natCast,
        Nat.shiftLeft_zero, Nat.div_one]
    rw [hquotient, ofRatio_shiftLeft negative lo hi, hword (by omega)]
  · have hexponent : x.exponent = -(1075 - x.exponentField : Nat) := by
      rw [exponent]
      omega
    have hquotient :
        (x.numerator / x.denominator) <<< (1075 - x.exponentField) = x.significand := by
      have hnum : x.numerator = x.significand := by
        rw [numerator, hexponent, Int.toNat_neg_natCast, Nat.shiftLeft_zero]
      have hden : x.denominator = 1 <<< (1075 - x.exponentField) := by
        rw [denominator, hexponent, Int.neg_neg, Int.toNat_natCast]
      rw [Nat.shiftLeft_eq, ← Nat.one_shiftLeft, ← hden, Nat.div_mul_cancel h.whole, hnum]
    rw [ofRatio_of_shiftLeft negative (by omega) (hquotient ▸ lo) (hquotient ▸ hi), hquotient,
      hword (by omega)]

theorem numerator_pos (h : IsExactInteger x) (hx : x.isZero = false) : 0 < x.numerator := by
  obtain ⟨-, hsignificand⟩ := h.significand_eq hx
  have hpos : 0 < x.significand := by
    have : 0 < 1 <<< 52 := by decide
    omega
  rw [numerator, Nat.shiftLeft_eq]
  exact Nat.mul_pos hpos (Nat.two_pow_pos _)

theorem natAbs_truncate_le (h : IsExactInteger x) : x.truncate.natAbs ≤ 1 <<< 53 := by
  rw [natAbs_truncate]
  exact Nat.div_le_of_le_mul (Nat.mul_comm _ _ ▸ h.bounded)

/-- The word nearest to the integer that a word stands for is the word itself. -/
theorem ofInt_truncate (h : IsExactInteger x) : ofInt x.truncate = x := by
  by_cases hx : x.isZero = true
  · have hmagnitude : x.magnitude = 0 := by simpa [isZero] using hx
    have hnum : x.numerator = 0 := by
      simp [numerator, significand, exponentField, fraction, hmagnitude]
    have htruncate : x.truncate = 0 := by simp [truncate, hnum]
    have hself := ofSignMagnitude_self x
    rw [hmagnitude, h.notMinusZero hx] at hself
    rw [htruncate]
    exact hself
  · have hx : x.isZero = false := by simpa using hx
    have hpos : 0 < x.numerator / x.denominator :=
      Nat.div_pos (Nat.le_of_dvd (h.numerator_pos hx) h.whole)
        (by rw [denominator, Nat.one_shiftLeft]; exact Nat.two_pow_pos _)
    have hsign : decide (x.truncate < 0) = x.isNegative := by
      rw [truncate]
      cases x.isNegative <;> simp <;> omega
    rw [ofInt, hsign, natAbs_truncate, h.ofRatio_quotient hx, ofSignMagnitude_self]

end IsExactInteger

end Binary64
end ProtocolTypes
