import Mathlib.Data.List.Nodup
import Mathlib.Data.List.Perm.Subperm

/-!
# ProtocolTypes.Proofs.Text.Numbering

Numbered names. Different numbers are written differently, so among enough numbered forms of a name
one is free. What is numbered ends in a digit.
-/

namespace ProtocolTypes
namespace Text

theorem repr_injective : Function.Injective Nat.repr := by
  intro m n h
  have hdigits : Nat.toDigits 10 m = Nat.toDigits 10 n := by
    rw [← Nat.toList_repr, ← Nat.toList_repr, h]
  have hvalue := congrArg (Nat.ofDigitChars 10 · 0) hdigits
  simpa only [Nat.ofDigitChars_toDigits (b := 10) (by decide) (by decide)] using hvalue

/-- One or more digits. -/
def IsDigits (s : String) : Prop :=
  s ≠ "" ∧ ∀ c ∈ s.toList, c.isDigit = true

theorem isDigits_repr (n : Nat) : IsDigits n.repr := by
  rw [IsDigits, ← String.toList_inj.ne, Nat.toList_repr]
  exact ⟨Nat.toDigits_ne_nil, fun c hc => Nat.isDigit_of_mem_toDigits (by decide) (by decide) hc⟩

theorem ne_append_of_isDigits {s t digits : String}
    (hlast : s.toList.getLast?.any Char.isDigit = false) (hdigits : IsDigits digits) :
    s ≠ t ++ digits := by
  rintro rfl
  have hne : digits.toList ≠ [] := mt String.toList_eq_nil_iff.mp hdigits.1
  have hend : (t ++ digits).toList.getLast? = some (digits.toList.getLast hne) := by
    rw [String.toList_append, List.getLast?_append_of_ne_nil _ hne, List.getLast?_eq_some_getLast hne]
  rw [hend, Option.any_some, hdigits.2 _ (List.getLast_mem hne)] at hlast
  cases hlast

/-- Of `xs.length + 1` different values one is not in `xs`. -/
theorem exists_not_mem_of_injective {α : Type} {f : Nat → α} (hf : Function.Injective f)
    (xs : List α) : ∃ k ≤ xs.length, f k ∉ xs := by
  by_contra h
  push Not at h
  have hsub : (List.range (xs.length + 1)).map f ⊆ xs := by
    intro x hx
    obtain ⟨k, hk, rfl⟩ := List.mem_map.mp hx
    exact h k (Nat.lt_succ_iff.mp (List.mem_range.mp hk))
  have hnodup : ((List.range (xs.length + 1)).map f).Nodup :=
    List.Nodup.map hf List.nodup_range
  have hle := (hnodup.subperm hsub).length_le
  rw [List.length_map, List.length_range] at hle
  omega

end Text
end ProtocolTypes
