import Mathlib.Data.List.Basic
import ProtocolTypes.Identifier.Casing

/-!
# ProtocolTypes.Proofs.Identifier.Casing

Names of ASCII characters under the changes of case. Member names are words, of letters, digits and
underscores (`isWord_member`), and Pascal case stays within ASCII (`isAscii_pascal`). Replacing
other characters makes a word that opens like an identifier (`isName_sanitize`) and changes a word
only where it opens with a digit (`sanitize_of_isWord`).
-/

namespace ProtocolTypes

/-! ## ASCII -/

namespace Text

def IsAscii (s : String) : Prop :=
  ∀ c ∈ s.toList, isAscii c = true

instance (s : String) : Decidable (IsAscii s) :=
  List.decidableBAll (fun c => isAscii c = true) s.toList

theorem isAscii_append {s t : String} : IsAscii (s ++ t) ↔ IsAscii s ∧ IsAscii t := by
  simp only [IsAscii, String.toList_append, List.forall_mem_append]

/-- What holds of 128 characters holds of each ASCII character. -/
theorem forall_isAscii {P : Char → Prop} (h : ∀ n < 128, P (Char.ofNat n)) {c : Char}
    (hc : isAscii c = true) : P c := by
  have hlt : c.toNat < 128 := of_decide_eq_true hc
  rw [← Char.ofNat_toNat c]
  exact h c.toNat hlt

theorem isAscii_of_mem_toUpper {c d : Char} (hc : isAscii c = true) (hd : d ∈ toUpper c) :
    isAscii d = true := by
  refine List.all_eq_true.mp ?_ d hd
  exact forall_isAscii (P := fun c => (toUpper c).all isAscii = true) (by decide) hc

end Text

namespace Identifier

open Text

/-! ## Words -/

/-- ASCII letters, ASCII digits and the underscore. -/
def isWordChar (c : Char) : Bool :=
  isAsciiUpper c || isAsciiLower c || isAsciiDigit c || c = '_'

def IsWord (s : String) : Prop :=
  ∀ c ∈ s.toList, isWordChar c = true

instance (s : String) : Decidable (IsWord s) :=
  List.decidableBAll (fun c => isWordChar c = true) s.toList

/-- The name opens with a digit. -/
def opensWithDigit (s : String) : Bool :=
  s.toList.head?.any isAsciiDigit

/-- A word that opens like an identifier. -/
structure IsName (s : String) : Prop where
  word : IsWord s
  nonempty : s ≠ ""
  head : opensWithDigit s = false

instance (s : String) : Decidable (IsName s) :=
  decidable_of_iff (IsWord s ∧ s ≠ "" ∧ opensWithDigit s = false)
    ⟨fun ⟨hword, hne, hhead⟩ => ⟨hword, hne, hhead⟩, fun h => ⟨h.word, h.nonempty, h.head⟩⟩

theorem isWord_append {s t : String} : IsWord (s ++ t) ↔ IsWord s ∧ IsWord t := by
  simp only [IsWord, String.toList_append, List.forall_mem_append]

theorem IsName.append {s t : String} (hs : IsName s) (ht : IsWord t) : IsName (s ++ t) where
  word := isWord_append.mpr ⟨hs.word, ht⟩
  nonempty h := hs.nonempty (String.append_eq_empty_iff.mp h).1
  head := by
    have hhead := hs.head
    rw [opensWithDigit] at hhead ⊢
    rw [String.toList_append]
    cases hcs : s.toList with
    | nil => exact absurd (by simpa using hcs) hs.nonempty
    | cons c cs =>
      rw [hcs] at hhead
      exact hhead

theorem isAscii_of_isWordChar {c : Char} (h : isWordChar c = true) : isAscii c = true := by
  have below {d : Char} (hcd : c ≤ d) (hd : d.toNat < 128) : isAscii c = true :=
    decide_eq_true (Nat.lt_of_le_of_lt (UInt32.le_iff_toNat_le.mp hcd) hd)
  simp only [isWordChar, isAsciiUpper, isAsciiLower, isAsciiDigit, Bool.or_eq_true,
    Bool.and_eq_true, decide_eq_true_eq] at h
  obtain ((⟨_, h⟩ | ⟨_, h⟩) | ⟨_, h⟩) | rfl := h
  · exact below h (by decide)
  · exact below h (by decide)
  · exact below h (by decide)
  · decide

theorem isAlphanumeric_or_underscore {c : Char} (hc : isAscii c = true) :
    (isAlphanumeric c || decide (c = '_')) = isWordChar c := by
  rw [isAlphanumeric, if_pos hc, isWordChar]

theorem IsWord.isAscii {s : String} (h : IsWord s) : IsAscii s :=
  fun c hc => isAscii_of_isWordChar (h c hc)

theorem isWord_repr (n : Nat) : IsWord n.repr := by
  intro c hc
  rw [Nat.toList_repr] at hc
  have hdigit := Nat.isDigit_of_mem_toDigits (by decide) (Nat.le_refl 10) hc
  simp only [Char.isDigit, Bool.and_eq_true, decide_eq_true_eq] at hdigit
  have hascii : isAsciiDigit c = true := by
    rw [isAsciiDigit, Bool.and_eq_true, decide_eq_true_eq, decide_eq_true_eq]
    exact hdigit
  rw [isWordChar, hascii, Bool.or_true, Bool.true_or]

/-! ## Snake case -/

theorem isWordChar_of_mem_toLower {c d : Char} (hc : isAscii c = true)
    (hupper : isUppercase c = true) (hd : d ∈ toLower c) : isWordChar d = true := by
  refine List.all_eq_true.mp ?_ d hd
  exact forall_isAscii (P := fun c => isUppercase c = true → (toLower c).all isWordChar = true)
    (by decide) hc hupper

theorem isWordChar_of_mem_separate {out : List Char} (h : ∀ c ∈ out, isWordChar c = true) :
    ∀ c ∈ separate out, isWordChar c = true := by
  rw [separate]
  split
  · exact h
  · exact List.forall_mem_cons.mpr ⟨by decide, h⟩

theorem isWordChar_of_mem_snakeFrom {out cs : List Char} (prev : Option Char)
    (hout : ∀ c ∈ out, isWordChar c = true) (hcs : ∀ c ∈ cs, isAscii c = true) :
    ∀ c ∈ snakeFrom out prev cs, isWordChar c = true := by
  induction cs generalizing out prev with
  | nil => exact hout
  | cons c cs ih =>
    obtain ⟨hc, hcs⟩ := List.forall_mem_cons.mp hcs
    rw [snakeFrom]
    refine ih (some c) ?_ hcs
    split
    · rename_i hupper
      refine List.forall_mem_append.mpr ⟨fun d hd => ?_, ?_⟩
      · exact isWordChar_of_mem_toLower hc hupper (List.mem_reverse.mp hd)
      · split
        · exact isWordChar_of_mem_separate hout
        · exact hout
    · split
      · rename_i hword
        rw [isAlphanumeric_or_underscore hc] at hword
        exact List.forall_mem_cons.mpr ⟨hword, hout⟩
      · split
        · exact hout
        · exact isWordChar_of_mem_separate hout

theorem isWord_member {s : String} (h : IsAscii s) : IsWord (member s) := by
  have hsnake : IsWord (snake s) := by
    intro c hc
    rw [snake, String.toList_ofList, List.mem_reverse] at hc
    exact isWordChar_of_mem_snakeFrom none (fun _ hd => absurd hd List.not_mem_nil) h c hc
  rw [member]
  split
  · decide
  · exact hsnake

theorem member_ne_empty (s : String) : member s ≠ "" := by
  rw [member]
  split
  · decide
  · rename_i h
    simpa using h

/-! ## Pascal case -/

theorem isAscii_of_mem_pascalFrom {cs : List Char} (opening : Bool)
    (hcs : ∀ c ∈ cs, isAscii c = true) : ∀ c ∈ pascalFrom opening cs, isAscii c = true := by
  induction cs generalizing opening with
  | nil => exact fun _ hd => absurd hd List.not_mem_nil
  | cons c cs ih =>
    obtain ⟨hc, hcs⟩ := List.forall_mem_cons.mp hcs
    rw [pascalFrom]
    split
    · refine List.forall_mem_append.mpr ⟨fun d hd => ?_, ih false hcs⟩
      split at hd
      · exact isAscii_of_mem_toUpper hc hd
      · exact List.mem_singleton.mp hd ▸ hc
    · exact ih true hcs

theorem isAscii_pascal {s : String} (h : IsAscii s) : IsAscii (pascal s) := by
  intro c hc
  rw [pascal, String.toList_ofList] at hc
  have hpascal := isAscii_of_mem_pascalFrom true h
  split at hc
  · rcases List.mem_cons.mp hc with rfl | hc
    · decide
    · exact hpascal c hc
  · exact hpascal c hc

/-! ## Replaced characters -/

theorem isName_sanitize {s : String} (h : IsAscii s) : IsName (sanitize s) := by
  rw [sanitize]
  generalize hcs : (s.toList.map fun c => if isAlphanumeric c || c = '_' then c else '_') = cs
  have hword : ∀ c ∈ cs, isWordChar c = true := by
    intro c hc
    obtain ⟨d, hd, rfl⟩ := List.mem_map.mp (hcs ▸ hc)
    split
    · rename_i hkept
      rwa [isAlphanumeric_or_underscore (h d hd)] at hkept
    · decide
  split
  · refine ⟨?_, ?_, ?_⟩
    · intro c hc
      rw [String.toList_ofList] at hc
      exact List.forall_mem_cons.mpr ⟨by decide, hword⟩ c hc
    · exact fun hempty => by simpa using congrArg String.toList hempty
    · rw [opensWithDigit, String.toList_ofList]
      rfl
  · rename_i hopen
    rw [Bool.or_eq_true, not_or, Bool.not_eq_true, Bool.not_eq_true] at hopen
    refine ⟨?_, ?_, ?_⟩
    · intro c hc
      rw [String.toList_ofList] at hc
      exact hword c hc
    · intro hempty
      have hnil : cs = [] := by simpa using congrArg String.toList hempty
      rw [hnil] at hopen
      exact absurd hopen.1 (by decide)
    · rw [opensWithDigit, String.toList_ofList]
      exact hopen.2

/-- A word keeps its characters. -/
theorem sanitize_of_isWord {s : String} (h : IsWord s) (hne : s ≠ "") :
    sanitize s = if opensWithDigit s then "_" ++ s else s := by
  have hkept : (s.toList.map fun c => if isAlphanumeric c || c = '_' then c else '_') =
      s.toList := by
    conv => rhs; rw [← List.map_id s.toList]
    refine List.map_congr_left fun c hc => ?_
    rw [isAlphanumeric_or_underscore (isAscii_of_isWordChar (h c hc)), if_pos (h c hc), id_eq]
  have hfull : s.toList.isEmpty = false := by simpa using hne
  rw [sanitize, hkept, hfull, Bool.false_or, ← opensWithDigit]
  split
  · rw [← String.toList_inj, String.toList_ofList, String.toList_append]
    rfl
  · exact String.ofList_toList

end Identifier
end ProtocolTypes
