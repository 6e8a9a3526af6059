import ProtocolTypes.Json.Reader
import ProtocolTypes.Proofs.Binary64.Finite
import ProtocolTypes.Proofs.Traversal

/-!
# ProtocolTypes.Proofs.Json.FiniteNumbers

The grammar of JSON has numbers of any size, and reading refuses those beyond the finite words: each
number that a scan returns is finite (`isFinite_scan`), and so is each number of a tree that was
read (`allFinite_read`), also where the text stops being JSON.
-/

namespace ProtocolTypes

/-- A finite word, or an integer of at most sixty-four bits. -/
def JsonNumber.IsFinite : JsonNumber → Prop
  | .integer i => i.natAbs < UInt64.size
  | .float x => x.isFinite = true

namespace Json
namespace NumberScan

open Binary64

/-! ## Values -/

theorem absorb_le {limit n : Nat} (h : n ≤ limit) (ds : List Nat) :
    (absorb limit n ds).1 ≤ limit := by
  induction ds generalizing n with
  | nil => exact h
  | cons d ds ih =>
    rw [absorb]
    by_cases hlimit : limit < n * 10 + d
    · rw [if_pos hlimit]
      exact h
    · rw [if_neg hlimit]
      exact ih (Nat.not_lt.mp hlimit)

theorem two_mul_denominator_powerOfTen_le : ∀ k ≤ largestFactor, k ≠ 0 →
    2 * (powerOfTen k).denominator ≤ (powerOfTen k).numerator := by
  decide +kernel

/-- Scaling up is refused beyond the finite range, and scaling down stays within it. -/
theorem isFinite_scale {fuel : Nat} {x y : Binary64} {exponent : Int} (hx : x.isFinite = true)
    (h : scale fuel x exponent = some y) : y.isFinite = true := by
  have hstep : ∀ k ≤ largestFactor, k ≠ 0 → (x.div (powerOfTen k)).isFinite = true :=
    fun k hk hne => isFinite_div hx (two_mul_denominator_powerOfTen_le k hk hne)
  unfold scale at h
  split at h
  · rename_i hsmall
    split at h
    · simp only at h
      split at h
      · cases h
        assumption
      · cases h
    · rename_i hdown
      cases h
      exact hstep exponent.natAbs hsmall (by omega)
  · split at h
    · cases h
      exact hx
    · split at h
      · cases h
      · cases fuel with
        | zero =>
          cases h
          exact hx
        | succ fuel =>
          exact isFinite_scale (hstep largestFactor (Nat.le_refl _) (by decide)) h

theorem isFinite_significand {s : Nat} (h : s ≤ significandLimit) : (ofNat s).isFinite = true := by
  have hlimit : significandLimit < 1 <<< 1023 := by decide
  exact isFinite_ofNat (Nat.lt_of_le_of_lt h hlimit)

theorem isFinite_float {negative : Bool} {s : Nat} {exponent : Int} {x : Binary64}
    (hs : s ≤ significandLimit) (h : float negative s exponent = some x) : x.isFinite = true := by
  obtain ⟨y, hy, rfl⟩ := Option.map_eq_some_iff.mp h
  have hfinite := isFinite_scale (isFinite_significand hs) hy
  cases negative with
  | false => exact hfinite
  | true => exact isFinite_neg hfinite

theorem isFinite_whole {s : Nat} (hs : s ≤ significandLimit) (negative : Bool) :
    (whole negative s).IsFinite := by
  have hsize : s < UInt64.size := Nat.lt_of_le_of_lt hs (by decide)
  rw [whole]
  split
  · split
    · exact isFinite_neg (isFinite_significand hs)
    · rw [JsonNumber.IsFinite, Int.natAbs_neg, Int.natAbs_natCast]
      exact hsize
  · exact hsize

/-! ## Scans -/

variable {negative : Bool} {s : Nat} {exponent : Int} {c after : Cursor} {n : JsonNumber}

theorem isFinite_finish (hs : s ≤ significandLimit)
    (h : finish negative s exponent c = .ok (n, after)) : n.IsFinite := by
  rw [finish] at h
  split at h
  · cases h
    exact isFinite_float hs ‹_›
  · cases h

theorem isFinite_scanExponent (hs : s ≤ significandLimit)
    (h : scanExponent negative s exponent c = .ok (n, after)) : n.IsFinite := by
  simp only [scanExponent] at h
  split at h
  · cases h
  · split at h
    · cases h
    · split at h
      · split at h
        · cases h
        · cases h
          exact isFinite_ofSignMagnitude (by decide)
      · exact isFinite_finish hs h

theorem isFinite_scanFraction (hs : s ≤ significandLimit)
    (h : scanFraction negative s exponent c = .ok (n, after)) : n.IsFinite := by
  simp only [scanFraction] at h
  split at h
  · cases h
  · split at h
    · exact isFinite_scanExponent (absorb_le hs _) h
    · exact isFinite_scanExponent (absorb_le hs _) h
    · exact isFinite_finish (absorb_le hs _) h

theorem isFinite_scan (h : scan negative c = .ok (n, after)) : n.IsFinite := by
  have hs : ∀ ds, (absorb significandLimit 0 ds).1 ≤ significandLimit := absorb_le (Nat.zero_le _)
  simp only [scan] at h
  split at h
  · cases h
  · split at h
    · cases h
    · cases h
    · split at h
      · exact isFinite_scanFraction (hs _) h
      · exact isFinite_scanExponent (hs _) h
      · exact isFinite_scanExponent (hs _) h
      · split at h
        · cases h
          exact isFinite_whole (hs _) negative
        · exact isFinite_finish (hs _) h

end NumberScan

/-! ## Trees -/

mutual

/-- Every number of the tree is finite. -/
def Tree.AllFinite : Tree → Prop
  | .number _ _ n => n.IsFinite
  | .array _ elements => elements.AllFinite
  | .object _ members => members.AllFinite
  | .broken _ _ | .skipped | .null _ _ | .bool _ _ _ | .string _ _ _ => True

def Elements.AllFinite : Elements → Prop
  | .element value _ rest => value.AllFinite ∧ rest.AllFinite
  | .closed _ | .broken _ => True

def Members.AllFinite : Members → Prop
  | .member _ value _ rest => value.AllFinite ∧ rest.AllFinite
  | .closed _ | .broken _ | .badKey _ | .badColon _ _ => True

end

namespace Reader

theorem allFinite_word {letters : List Char} {node : Nat → Nat → Tree} {c : Cursor}
    (h : ∀ start stop, (node start stop).AllFinite) : (word letters node c).1.AllFinite := by
  rw [word]
  split
  · exact h _ _
  · trivial

theorem allFinite_number (c : Cursor) : (number c).1.AllFinite := by
  simp only [number]
  split
  · exact NumberScan.isFinite_scan ‹_›
  · trivial

theorem allFinite_string (fuel : Nat) (c : Cursor) : (string fuel c).1.AllFinite := by
  rw [string]
  split <;> trivial

theorem allFinite_skip (fuel : Nat) (c : Cursor) : (skip fuel c).1.AllFinite := by
  rw [skip]
  split <;> trivial

/-- By induction on the fuel, for all three readers at once. -/
theorem allFinite_value (fuel : Nat) :
    (∀ room shape c, (value fuel room shape c).1.AllFinite) ∧
    (∀ room shapes first c, (elements fuel room shapes first c).1.AllFinite) ∧
    ∀ room shape first c, (members fuel room shape first c).1.AllFinite := by
  induction fuel with
  | zero =>
    refine ⟨fun room shape c => ?_, fun room shapes first c => ?_, fun room shape first c => ?_⟩
    · rw [value]
      trivial
    · rw [elements]
      trivial
    · rw [members]
      trivial
  | succ fuel ih =>
    obtain ⟨ihvalue, ihelements, ihmembers⟩ := ih
    refine ⟨fun room shape c => ?value, fun room shapes first c => ?elements,
      fun room shape first c => ?members⟩
    case value =>
      simp only [value]
      split
      · exact allFinite_word fun _ _ => trivial
      · exact allFinite_word fun _ _ => trivial
      · exact allFinite_word fun _ _ => trivial
      · exact allFinite_number _
      · exact allFinite_string _ _
      · cases room with
        | zero => trivial
        | succ room => exact ihelements room _ _ _
      · cases room with
        | zero => trivial
        | succ room => exact ihmembers room _ _ _
      · split
        · exact allFinite_number _
        · trivial
      · trivial
    case elements =>
      rw [elements]
      split
      · trivial
      · trivial
      · rename_i c _
        have hvalue := ihvalue room (shapes.head?.getD .anything) c
        split
        · rename_i hread
          rw [hread] at hvalue
          exact ⟨hvalue, trivial⟩
        · rename_i hread
          rw [hread] at hvalue
          exact ⟨hvalue, ihelements room _ _ _⟩
    case members =>
      rw [members]
      split
      · trivial
      · trivial
      · split
        · trivial
        · simp only
          split
          · trivial
          · split
            · trivial
            · split
              · refine ⟨?_, trivial⟩
                split
                · exact ihvalue room _ _
                · exact allFinite_skip fuel _
              · refine ⟨?_, ihmembers room _ _ _⟩
                split
                · exact ihvalue room _ _
                · exact allFinite_skip fuel _

end Reader

theorem allFinite_read (shape : Shape) (input : List Symbol) : (read shape input).1.AllFinite :=
  (Reader.allFinite_value _).1 _ _ _

end Json
end ProtocolTypes
