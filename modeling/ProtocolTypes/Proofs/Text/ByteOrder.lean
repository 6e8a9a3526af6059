import Mathlib.Data.List.Lex

/-!
# ProtocolTypes.Proofs.Text.ByteOrder

The order of texts is the order of their encodings, octet by octet (`octets_lt_octets`).
-/

namespace ProtocolTypes
namespace Text

/-- The encoding of a text. -/
def octets (s : String) : List UInt8 :=
  s.toUTF8.data.toList

theorem octets_eq (s : String) : octets s = s.toList.flatMap String.utf8EncodeChar := by
  rw [octets, String.toUTF8_eq_toByteArray, ← String.utf8Encode_toList, List.utf8Encode,
    List.toList_data_toByteArray]

theorem toNat_ofNat_of_lt {n : Nat} (h : n < 256) : (UInt8.ofNat n).toNat = n := by
  simp [UInt8.toNat_ofNat', Nat.mod_eq_of_lt h]

theorem ofNat_cons_lt {a b : Nat} (ha : a < 256) (hb : b < 256) {xs ys : List UInt8} :
    UInt8.ofNat a :: xs < UInt8.ofNat b :: ys ↔ a < b ∨ a = b ∧ xs < ys := by
  rw [List.cons_lt_cons_iff, UInt8.lt_iff_toNat_lt, ← UInt8.toNat_inj, toNat_ofNat_of_lt ha,
    toNat_ofNat_of_lt hb]

theorem digit_lt {m n : Nat} (h : m < n) :
    m / 64 < n / 64 ∨ m / 64 = n / 64 ∧ m % 64 < n % 64 := by
  omega

theorem div_div_64 (m : Nat) : m / 64 / 64 = m / 4096 ∧ m / 4096 / 64 = m / 262144 := by
  omega

theorem toNat_lt (c : Char) : c.val.toNat < 0x110000 := by
  have h := c.valid
  simp only [UInt32.isValidChar, Nat.isValidChar] at h
  omega

/-- Of two characters the lesser is encoded first in order, whatever follows them. -/
theorem encoded_lt_encoded {c d : Char} (h : c < d) (xs ys : List UInt8) :
    String.utf8EncodeChar c ++ xs < String.utf8EncodeChar d ++ ys := by
  have hv : c.val.toNat < d.val.toNat := h
  have hc := toNat_lt c
  have hd := toNat_lt d
  unfold String.utf8EncodeChar
  generalize c.val.toNat = m at *
  generalize d.val.toNat = n at *
  -- digits to base 64: each comparison carries over to the next higher digit
  have h₁ := digit_lt hv
  have h₂ := @digit_lt (m / 64) (n / 64)
  have h₃ := @digit_lt (m / 4096) (n / 4096)
  have hm := div_div_64 m
  have hn := div_div_64 n
  rw [hm.1, hn.1] at h₂
  rw [hm.2, hn.2] at h₃
  have hm₈ : m / 262144 % 8 = m / 262144 := by omega
  have hn₈ : n / 262144 % 8 = n / 262144 := by omega
  simp only [hm₈, hn₈]
  split <;> split <;> (try split) <;> (try split) <;> (try split) <;> (try split) <;>
    simp (disch := omega) only [List.cons_append, List.nil_append, ofNat_cons_lt] <;> omega

theorem flatMap_lt_flatMap {cs ds : List Char} (h : cs < ds) :
    cs.flatMap String.utf8EncodeChar < ds.flatMap String.utf8EncodeChar := by
  induction h with
  | @nil d ds =>
    obtain ⟨x, xs, hx⟩ := List.exists_cons_of_ne_nil (String.utf8EncodeChar_ne_nil (c := d))
    rw [List.flatMap_nil, List.flatMap_cons, hx, List.cons_append]
    exact List.nil_lt_cons _ _
  | cons _ ih =>
    rw [List.flatMap_cons, List.flatMap_cons]
    exact List.append_left_lt ih
  | rel h =>
    rw [List.flatMap_cons, List.flatMap_cons]
    exact encoded_lt_encoded h _ _

theorem octets_mono {s t : String} (h : s < t) : octets s < octets t := by
  rw [octets_eq, octets_eq]
  exact flatMap_lt_flatMap h

theorem octets_lt_octets {s t : String} : octets s < octets t ↔ s < t := by
  refine ⟨fun h => ?_, octets_mono⟩
  by_cases hle : t ≤ s
  · -- then `t < s`, as the encodings differ, and the encodings of the two are in both orders
    have hne : s ≠ t := by rintro rfl; exact List.lt_irrefl _ h
    have hlt : t < s := String.not_le.mp fun h => hne (String.le_antisymm h hle)
    exact absurd h (List.lt_asymm (octets_mono hlt))
  · exact String.not_le.mp hle

end Text
end ProtocolTypes
