import ProtocolTypes.Proofs.Identifier.Casing
import ProtocolTypes.Source.Render

/-!
# ProtocolTypes.Proofs.Identifier.Spelling

How names are written. A name of ASCII characters can always be written (`ident_eq_ok`), and what is
written is an identifier of the generated language (`ident_valid`). Two names are written alike
exactly when they are `SpeltAlike`: they differ in characters that identifiers do not hold, or in the
underscore behind a keyword without a raw form (`ident_eq_iff`). Between words this leaves few pairs
(`speltAlike_iff_of_isWord`), and a name is written like a type of the language only where it is that
name (`ident_eq_builtin_iff`).
-/

namespace ProtocolTypes
namespace Identifier

open Text

/-! ## What is written -/

theorem isKeywordWithoutRawForm_iff {s : String} :
    isKeywordWithoutRawForm s = true ↔
      s = "_" ∨ s = "crate" ∨ s = "self" ∨ s = "Self" ∨ s = "super" := by
  simp [isKeywordWithoutRawForm, withoutRawForm]

/-- The name of the identifier that is written, without a raw prefix. -/
def written (s : String) : String :=
  if isKeywordWithoutRawForm (sanitize s) then sanitize s ++ "_" else sanitize s

theorem isWellFormed_of_isName {s : String} (h : IsName s) : isWellFormed s = true := by
  obtain ⟨hword, hne, hhead⟩ := h
  rw [isWellFormed]
  cases hs : s.toList with
  | nil => exact absurd (by simpa using hs) hne
  | cons c cs =>
    rw [IsWord, hs] at hword
    obtain ⟨hc, hcs⟩ := List.forall_mem_cons.mp hword
    have hdigit : isAsciiDigit c = false := by
      rw [opensWithDigit, hs] at hhead
      exact hhead
    have hstart : isIdentifierStart c = true := by
      rw [isIdentifierStart, if_pos (isAscii_of_isWordChar hc)]
      rwa [isWordChar, hdigit, Bool.or_false] at hc
    have hrest : cs.all isIdentifierContinue = true := by
      rw [List.all_eq_true]
      intro d hd
      rw [isIdentifierContinue, if_pos (isAscii_of_isWordChar (hcs d hd))]
      exact hcs d hd
    show (isIdentifierStart c && cs.all isIdentifierContinue) = true
    rw [hstart, hrest]
    rfl

theorem isName_written {s : String} (h : IsAscii s) : IsName (written s) := by
  have hclean := isName_sanitize h
  rw [written]
  split
  · exact hclean.append (by decide)
  · exact hclean

/-- An underscore behind a keyword without a raw form makes it no keyword. -/
theorem isKeyword_append {s : String} (h : isKeywordWithoutRawForm s = true) :
    isKeyword (s ++ "_") = false := by
  rcases isKeywordWithoutRawForm_iff.mp h with rfl | rfl | rfl | rfl | rfl <;> decide

/-- A name of ASCII characters is an identifier once its other characters were replaced. -/
theorem spell_eq_ok {s : String} (h : IsAscii s) :
    spell s = .ok ⟨isKeyword (written s), written s⟩ := by
  have hname := isWellFormed_of_isName (isName_written h)
  rw [spell]
  rw [written] at hname ⊢
  cases hraw : isKeywordWithoutRawForm (sanitize s) with
  | true =>
    rw [hraw] at hname
    simp only [if_true] at hname ⊢
    rw [if_pos hname, isKeyword_append hraw]
  | false =>
    rw [hraw] at hname
    simp only [Bool.false_eq_true, if_false] at hname ⊢
    rw [if_pos hname]

theorem not_isKeywordWithoutRawForm_written {s : String} (h : isKeyword (written s) = true) :
    isKeywordWithoutRawForm (written s) = false := by
  rw [written] at h ⊢
  cases hraw : isKeywordWithoutRawForm (sanitize s) with
  | true =>
    rw [if_pos hraw, isKeyword_append hraw] at h
    cases h
  | false => exact hraw

theorem ident_of_spell {s : String} {i : Ident} (h : spell s = .ok i) :
    Source.ident s = .ok i.spelling := by
  delta Source.ident
  rw [h]

theorem ident_eq_ok {s : String} (h : IsAscii s) :
    Source.ident s = .ok (if isKeyword (written s) then "r#" ++ written s else written s) := by
  rw [ident_of_spell (spell_eq_ok h), Ident.spelling]

/-! ## Valid identifiers -/

/-- A letter or an underscore, and then letters, digits and underscores. -/
def IsPlain (s : String) : Prop :=
  ∃ c cs, s.toList = c :: cs ∧ (c.isAlpha = true ∨ c = '_') ∧
    ∀ d ∈ cs, d.isAlphanum = true ∨ d = '_'

/-- The words that mean something of their own in the generated language, those of later editions
and those without a meaning so far included. -/
def reservedWords : List String :=
  ["as", "break", "const", "continue", "crate", "else", "enum", "extern", "false", "fn", "for",
    "if", "impl", "in", "let", "loop", "match", "mod", "move", "mut", "pub", "ref", "return",
    "self", "Self", "static", "struct", "super", "trait", "true", "type", "unsafe", "use", "where",
    "while", "_",
    "async", "await", "dyn", "try", "gen",
    "abstract", "become", "box", "do", "final", "macro", "override", "priv", "typeof", "unsized",
    "virtual", "yield"]

/-- A text that is an identifier of the generated language. Of the reserved words all but five have
a raw form. -/
inductive Valid : String → Prop where
  | plain {s : String} : IsPlain s → s ∉ reservedWords → Valid s
  | raw {s : String} : s ∈ reservedWords → s ∉ ["_", "crate", "self", "Self", "super"] →
      Valid ("r#" ++ s)

theorem isPlain_of_isName {s : String} (h : IsName s) : IsPlain s := by
  obtain ⟨hword, hne, hhead⟩ := h
  cases hs : s.toList with
  | nil => exact absurd (by simpa using hs) hne
  | cons c cs =>
    rw [IsWord, hs] at hword
    obtain ⟨hc, hcs⟩ := List.forall_mem_cons.mp hword
    have hdigit : isAsciiDigit c = false := by
      rw [opensWithDigit, hs] at hhead
      exact hhead
    refine ⟨c, cs, hs, ?_, fun d hd => ?_⟩
    · exact forall_isAscii (P := fun c => isWordChar c = true → isAsciiDigit c = false →
        c.isAlpha = true ∨ c = '_') (by decide) (isAscii_of_isWordChar hc) hc hdigit
    · have hd := hcs d hd
      exact forall_isAscii (P := fun c => isWordChar c = true → c.isAlphanum = true ∨ c = '_')
        (by decide) (isAscii_of_isWordChar hd) hd

theorem mem_reservedWords {s : String} : s ∈ reservedWords ↔ isKeyword s = true := by
  have hperm : reservedWords.Perm keywords := by decide
  rw [hperm.mem_iff, isKeyword, List.contains_iff_mem]

/-- A name of ASCII characters is written as a valid identifier. -/
theorem ident_valid {s : String} (h : IsAscii s) :
    ∃ text, Source.ident s = .ok text ∧ Valid text := by
  refine ⟨_, ident_eq_ok h, ?_⟩
  by_cases hkeyword : isKeyword (written s) = true
  · rw [if_pos hkeyword]
    refine .raw (mem_reservedWords.mpr hkeyword) fun hmem => ?_
    have hraw := not_isKeywordWithoutRawForm_written hkeyword
    rw [isKeywordWithoutRawForm_iff.mpr (by simpa using hmem)] at hraw
    cases hraw
  · rw [if_neg hkeyword]
    exact .plain (isPlain_of_isName (isName_written h)) fun hmem =>
      hkeyword (mem_reservedWords.mp hmem)

/-- A raw prefix is no part of a word. -/
theorem raw_ne_of_isWord {a b : String} (hb : IsWord b) : "r#" ++ a ≠ b := by
  intro heq
  have hmem : '#' ∈ b.toList := by
    rw [← heq, String.toList_append]
    exact List.mem_append_left _ (by decide)
  exact absurd (hb '#' hmem) (by decide)

/-! ## Names written alike -/

/-- The second name has the underscore that the first one gets for want of a raw form. -/
def Escaped (a b : String) : Prop :=
  isKeywordWithoutRawForm (sanitize a) = true ∧ sanitize b = sanitize a ++ "_"

/-- The names agree once other characters are replaced, or in the underscore that one of them gets
for want of a raw form. -/
def SpeltAlike (a b : String) : Prop :=
  sanitize a = sanitize b ∨ Escaped a b ∨ Escaped b a

theorem not_isKeywordWithoutRawForm_append {s : String} (h : isKeywordWithoutRawForm s = true) :
    isKeywordWithoutRawForm (s ++ "_") = false := by
  rcases isKeywordWithoutRawForm_iff.mp h with rfl | rfl | rfl | rfl | rfl <;> decide

theorem written_eq_iff {a b : String} : written a = written b ↔ SpeltAlike a b := by
  rw [written, written, SpeltAlike, Escaped, Escaped]
  generalize sanitize a = a, sanitize b = b
  cases ha : isKeywordWithoutRawForm a with
  | true =>
    have hae := not_isKeywordWithoutRawForm_append ha
    cases hb : isKeywordWithoutRawForm b with
    | true =>
      have hbe := not_isKeywordWithoutRawForm_append hb
      have hab : b ≠ a ++ "_" := by
        rintro rfl
        rw [hb] at hae
        cases hae
      have hba : a ≠ b ++ "_" := by
        rintro rfl
        rw [ha] at hbe
        cases hbe
      simp [hab, hba]
    | false =>
      have hne : a ≠ b := by
        rintro rfl
        rw [ha] at hb
        cases hb
      simp [hne, eq_comm]
  | false =>
    cases hb : isKeywordWithoutRawForm b with
    | true =>
      have hne : a ≠ b := by
        rintro rfl
        rw [ha] at hb
        cases hb
      simp [hne]
    | false => simp

theorem ident_eq_iff {a b : String} (ha : IsAscii a) (hb : IsAscii b) :
    Source.ident a = Source.ident b ↔ SpeltAlike a b := by
  rw [ident_eq_ok ha, ident_eq_ok hb, Except.ok.injEq, ← written_eq_iff]
  constructor
  · intro h
    split at h <;> split at h
    · exact (String.append_right_inj "r#").mp h
    · exact absurd h (raw_ne_of_isWord (isName_written hb).word)
    · exact absurd h.symm (raw_ne_of_isWord (isName_written ha).word)
    · exact h
  · intro h
    rw [h]

/-! ## Words written alike -/

/-- The second word is the first one with the underscore that it needs: in front of a digit, or for
want of a raw form. -/
def Underscored (a b : String) : Prop :=
  (opensWithDigit a = true ∧ b = "_" ++ a) ∨ (isKeywordWithoutRawForm a = true ∧ b = a ++ "_")

theorem opensWithDigit_underscore (s : String) : opensWithDigit ("_" ++ s) = false := by
  rw [opensWithDigit, String.toList_append]
  rfl

section Words

variable {a b : String}

/-- Of the keywords without a raw form only one opens with an underscore. -/
theorem underscore_of_isKeywordWithoutRawForm (h : isKeywordWithoutRawForm ("_" ++ a) = true) :
    a = "" := by
  rcases isKeywordWithoutRawForm_iff.mp h with h | h | h | h | h <;>
    simpa [String.toList_append] using congrArg String.toList h

theorem sanitize_eq_sanitize_iff (ha : IsWord a) (hane : a ≠ "") (hb : IsWord b) (hbne : b ≠ "") :
    sanitize a = sanitize b ↔
      a = b ∨ (opensWithDigit a = true ∧ b = "_" ++ a) ∨
        (opensWithDigit b = true ∧ a = "_" ++ b) := by
  rw [sanitize_of_isWord ha hane, sanitize_of_isWord hb hbne]
  constructor
  · intro h
    split at h <;> rename_i hda <;> split at h <;> rename_i hdb
    · exact .inl ((String.append_right_inj "_").mp h)
    · exact .inr (.inl ⟨hda, h.symm⟩)
    · exact .inr (.inr ⟨hdb, h⟩)
    · exact .inl h
  · rintro (rfl | ⟨hda, rfl⟩ | ⟨hdb, rfl⟩)
    · rfl
    · rw [if_pos hda, opensWithDigit_underscore]
      rfl
    · rw [if_pos hdb, opensWithDigit_underscore]
      rfl

theorem escaped_iff (ha : IsWord a) (hane : a ≠ "") (hb : IsWord b) (hbne : b ≠ "") :
    Escaped a b ↔ isKeywordWithoutRawForm a = true ∧ b = a ++ "_" := by
  rw [Escaped, sanitize_of_isWord ha hane, sanitize_of_isWord hb hbne]
  constructor
  · rintro ⟨hraw, heq⟩
    have hda : opensWithDigit a = false := by
      rw [Bool.eq_false_iff]
      intro hda
      rw [if_pos hda] at hraw
      rcases underscore_of_isKeywordWithoutRawForm hraw with rfl
      exact hane rfl
    rw [hda] at hraw heq
    refine ⟨hraw, ?_⟩
    split at heq
    · rename_i hdb
      simp only [Bool.false_eq_true, if_false] at hraw heq
      -- only the underscore itself could open like what is written for `b`
      rcases isKeywordWithoutRawForm_iff.mp hraw with rfl | rfl | rfl | rfl | rfl
      · obtain rfl := (String.append_right_inj "_").mp heq
        exact absurd hdb (by decide)
      all_goals exact absurd (congrArg String.toList heq) (by simp [String.toList_append])
    · exact heq
  · rintro ⟨hraw, rfl⟩
    rcases isKeywordWithoutRawForm_iff.mp hraw with rfl | rfl | rfl | rfl | rfl <;> decide

theorem speltAlike_iff_of_isWord (ha : IsWord a) (hane : a ≠ "") (hb : IsWord b) (hbne : b ≠ "") :
    SpeltAlike a b ↔ a = b ∨ Underscored a b ∨ Underscored b a := by
  rw [SpeltAlike, sanitize_eq_sanitize_iff ha hane hb hbne, escaped_iff ha hane hb hbne,
    escaped_iff hb hbne ha hane, Underscored, Underscored]
  grind

end Words

/-! ## Types of the language -/

/-- The underscore is the only character that replaces others. -/
theorem sanitize_of_not_mem {s : String} (h : '_' ∉ (sanitize s).toList) : sanitize s = s := by
  rw [sanitize] at h ⊢
  split at h
  · rw [String.toList_ofList] at h
    exact absurd List.mem_cons_self h
  · rename_i hopen
    rw [String.toList_ofList] at h
    rw [if_neg hopen, ← String.toList_inj, String.toList_ofList]
    conv => rhs; rw [← List.map_id s.toList]
    refine List.map_congr_left fun c hc => ?_
    have hne : (if isAlphanumeric c || c = '_' then c else '_') ≠ '_' := by
      intro heq
      exact h (List.mem_map.mpr ⟨c, hc, heq⟩)
    split at hne
    · rename_i hkept
      rw [if_pos hkept, id_eq]
    · exact absurd rfl hne

end Identifier

namespace Source

/-- The types and traits that are written without a path. -/
def builtins : List String :=
  ["bool", "i32", "u32", "f64", "String", "Vec", "Option", "Box", "Serialize", "Deserialize"]

end Source

namespace Identifier

theorem ident_eq_builtin_iff {s w : String} (hs : Text.IsAscii s) (hw : w ∈ Source.builtins) :
    Source.ident s = .ok w ↔ s = w := by
  have hall : ∀ w ∈ Source.builtins,
      IsWord w ∧ '_' ∉ w.toList ∧ Source.ident w = .ok w := by decide +kernel
  obtain ⟨hword, hplain, hself⟩ := hall w hw
  constructor
  · intro h
    rw [ident_eq_ok hs, Except.ok.injEq] at h
    split at h
    · exact absurd h (raw_ne_of_isWord hword)
    · rw [written] at h
      split at h
      · rw [← h, String.toList_append] at hplain
        exact absurd (List.mem_append_right _ List.mem_cons_self) hplain
      · rw [← h]
        exact (sanitize_of_not_mem (h ▸ hplain)).symm
  · rintro rfl
    exact hself

end Identifier
end ProtocolTypes
