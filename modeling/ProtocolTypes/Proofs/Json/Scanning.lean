import ProtocolTypes.Json.Skim
import ProtocolTypes.Proofs.Json.Spelling

/-!
# ProtocolTypes.Proofs.Json.Scanning

Scanners on written input. A scanner that stands before a blank, a word, a string or a number takes
exactly the characters that spell it. Offsets are left open; what matters is which characters come
next (`Cursor.At`).
-/

namespace ProtocolTypes
namespace Json

/-! ## Places in a text -/

namespace Cursor

/-- The input goes on with these characters and ends with them. -/
def At (c : Cursor) (cs : List Char) : Prop :=
  c.rest = cs.map .char

namespace At

variable {c : Cursor} {ch : Char} {cs w : List Char}

theorem next?_nil (h : c.At []) : c.next? = none := by
  rw [next?, h, List.map_nil]

theorem next?_cons (h : c.At (ch :: cs)) : c.next? = some ch := by
  rw [next?, h, List.map_cons]

theorem next?_eq (h : c.At cs) : c.next? = cs.head? := by
  cases cs with
  | nil => exact h.next?_nil
  | cons ch cs => exact h.next?_cons

theorem atEnd_cons (h : c.At (ch :: cs)) : c.atEnd = false := by
  rw [atEnd, h, List.map_cons, List.isEmpty_cons]

theorem advance (h : c.At (ch :: cs)) : c.advance.At cs := by
  rw [At, Cursor.advance, h, List.map_cons, List.drop_one, List.tail_cons]

end At

theorem skipBlanks_go_at {w cs : List Char} (hw : Blank w)
    (hcs : ∀ ch ∈ cs.head?, isBlank ch = false) (offset : Nat) :
    (skipBlanks.go offset ((w ++ cs).map .char)).At cs := by
  induction w generalizing offset with
  | nil =>
    cases cs with
    | nil => rfl
    | cons ch cs =>
      rw [List.nil_append, List.map_cons, skipBlanks.go, hcs ch rfl]
      rfl
  | cons b w ih =>
    rw [List.cons_append, List.map_cons, skipBlanks.go, if_pos (hw b List.mem_cons_self)]
    exact ih (fun c hc => hw c (List.mem_cons_of_mem _ hc)) (offset + 1)

theorem At.skipBlanks {c : Cursor} {w cs : List Char} (h : c.At (w ++ cs)) (hw : Blank w)
    (hcs : ∀ ch ∈ cs.head?, isBlank ch = false) : c.skipBlanks.At cs := by
  rw [Cursor.skipBlanks, h]
  exact skipBlanks_go_at hw hcs c.offset

@[simp]
theorem skipBlanks_skipBlanks (c : Cursor) : c.skipBlanks.skipBlanks = c.skipBlanks := by
  have go (offset : Nat) (rest : List Symbol) :
      (skipBlanks.go offset rest).skipBlanks = skipBlanks.go offset rest := by
    fun_induction skipBlanks.go offset rest with
    | case1 offset b rest hb ih => exact ih
    | case2 offset b rest hb => rw [Cursor.skipBlanks, skipBlanks.go, if_neg hb]
    | case3 offset rest hrest => rw [Cursor.skipBlanks, skipBlanks.go.eq_2 _ _ hrest]
  exact go c.offset c.rest

end Cursor

theorem blank_nil : Blank [] :=
  fun _ h => nomatch h

open Cursor

/-- A scanner gives a value and stops before the given characters, or it gives none. -/
def Yields {α : Type} (scan : Scan α) (value? : Option α) (cs : List Char) : Prop :=
  match value? with
  | some x => ∃ c, scan = .ok (x, c) ∧ c.At cs
  | none => ∃ f, scan = .error f

/-- A scanner that only looks at the form stops before the given characters. -/
def Passes (scan : Except SyntaxFault Cursor) (cs : List Char) : Prop :=
  ∃ c, scan = .ok c ∧ c.At cs

theorem passes_scanWord {letters cs : List Char} {c : Cursor} (h : c.At (letters ++ cs)) :
    Passes (scanWord letters c) cs := by
  induction letters generalizing c with
  | nil => exact ⟨c, rfl, h⟩
  | cons ch letters ih =>
    rw [scanWord, h, List.cons_append, List.map_cons]
    simpa using ih (At.advance h)

/-! ## Strings -/

namespace StringScan

variable {c : Cursor} {ch : Char} {n : Nat} {hs cs u : List Char}

theorem yields_scanHex (hn : hexValue? hs = some n) (h : c.At (hs ++ cs)) :
    Yields (scanHex c) (some n) cs := by
  unfold hexValue? at hn
  split at hn
  · rename_i h₁ h₂ h₃ h₄
    simp only [Option.bind_eq_bind, Option.bind_eq_some_iff, Option.pure_def,
      Option.some.injEq] at hn
    obtain ⟨n₁, e₁, n₂, e₂, n₃, e₃, n₄, e₄, rfl⟩ := hn
    refine ⟨⟨c.offset + 4, cs.map .char⟩, ?_, rfl⟩
    rw [scanHex, h]
    simp [e₁, e₂, e₃, e₄]
  · cases hn

theorem passes_expect (h : c.At (ch :: cs)) : Passes (expect ch c) cs := by
  rw [expect, h, List.map_cons]
  exact ⟨_, if_pos rfl, h.advance⟩

theorem yields_scanEscape (hu : CharSpelling ch ('\\' :: u)) (h : c.At (u ++ cs)) :
    Yields (scanEscape c) (some ch) cs := by
  cases hu with
  | plain visible noQuote noEscape => exact absurd rfl noEscape
  | @letter _ e named =>
    refine ⟨c.advance, ?_, At.advance h⟩
    have hne : e ≠ 'u' := by
      rintro rfl
      cases named
    rw [scanEscape, h]
    simp [*]
  | codePoint written noLead noTrail =>
    obtain ⟨c', hc', hat⟩ := yields_scanHex written (At.advance h)
    refine ⟨c', ?_, hat⟩
    rw [scanEscape, h]
    simp [scanCodePoint, hc', noLead, noTrail, bind, Except.bind]
  | @surrogates n m hs ls lead trail isLead isTrail =>
    have h' : c.advance.At (hs ++ ('\\' :: 'u' :: ls ++ cs)) := by
      simpa using At.advance (by simpa using h)
    obtain ⟨c₁, h₁, at₁⟩ := yields_scanHex lead h'
    obtain ⟨c₂, h₂, at₂⟩ := passes_expect at₁
    obtain ⟨c₃, h₃, at₃⟩ := passes_expect at₂
    obtain ⟨c₄, h₄, at₄⟩ := yields_scanHex trail at₃
    have noTrail : isTrailingSurrogate n = false := by
      simp only [isLeadingSurrogate, isTrailingSurrogate, Bool.and_eq_true, decide_eq_true_eq,
        Bool.and_eq_false_iff, decide_eq_false_iff_not] at isLead ⊢
      omega
    refine ⟨c₄, ?_, at₄⟩
    rw [scanEscape, h]
    simp [scanCodePoint, h₁, h₂, h₃, h₄, isLead, isTrail, noTrail, bind, Except.bind]

/-- One turn takes a character as it is spelled. -/
theorem scanBody_char {fuel : Nat} {acc : List Char} (hu : CharSpelling ch u)
    (h : c.At (u ++ cs)) :
    ∃ c', scanBody (fuel + 1) acc none c = scanBody fuel (ch :: acc) none c' ∧ c'.At cs := by
  have escaped {v : List Char} (hv : CharSpelling ch ('\\' :: v))
      (h : c.At ('\\' :: (v ++ cs))) :
      ∃ c', scanBody (fuel + 1) acc none c = scanBody fuel (ch :: acc) none c' ∧ c'.At cs := by
    obtain ⟨c', hc', hat⟩ := yields_scanEscape hv h.advance
    refine ⟨c', ?_, hat⟩
    rw [scanBody, h, List.map_cons]
    simp [hc']
  cases hu with
  | plain visible noQuote noEscape =>
    refine ⟨⟨c.offset + ch.utf8Size, cs.map .char⟩, ?_, rfl⟩
    rw [scanBody, h, List.singleton_append, List.map_cons]
    simp [*]
  | letter named => exact escaped (.letter named) h
  | codePoint written noLead noTrail => exact escaped (.codePoint written noLead noTrail) h
  | surrogates lead trail isLead isTrail =>
    exact escaped (.surrogates lead trail isLead isTrail) h

theorem yields_scanBody {s u : List Char} (hu : TextSpelling s u) {fuel : Nat} {acc : List Char}
    (h : c.At (u ++ '"' :: cs)) (hfuel : u.length < fuel) :
    Yields (scanBody fuel acc none c) (some (String.ofList (acc.reverse ++ s))) cs := by
  induction hu generalizing fuel acc c with
  | nil =>
    obtain ⟨fuel, rfl⟩ := Nat.exists_eq_add_of_lt hfuel
    refine ⟨c.advance, ?_, At.advance h⟩
    rw [scanBody, h]
    simp
  | @cons ch s v w hv _ ih =>
    have hlen : 0 < v.length := by cases hv <;> simp
    rw [List.length_append] at hfuel
    obtain ⟨fuel, rfl⟩ : ∃ n, fuel = n + 1 := ⟨fuel - 1, by omega⟩
    rw [List.append_assoc] at h
    obtain ⟨c', hc', hat⟩ : ∃ c', scanBody (fuel + 1) acc none c =
        scanBody fuel (ch :: acc) none c' ∧ c'.At (w ++ '"' :: cs) := scanBody_char hv h
    have hrest : Yields (scanBody fuel (ch :: acc) none c')
        (some (String.ofList ((ch :: acc).reverse ++ s))) cs := ih hat (by omega)
    rw [hc']
    simpa using hrest

theorem yields_scan {s : String} (hu : Quotes s ('"' :: u)) {fuel : Nat} (h : c.At (u ++ cs))
    (hfuel : u.length ≤ fuel) : Yields (scan fuel c) (some s) cs := by
  obtain ⟨v, hv, hu⟩ := hu
  obtain rfl := (List.cons.inj hu).2
  rw [List.append_assoc] at h
  have hbody :
      Yields (scanBody fuel [] none c) (some (String.ofList ([].reverse ++ s.toList))) cs :=
    yields_scanBody hv h (by rw [List.length_append, List.length_singleton] at hfuel; omega)
  unfold scan
  simpa using hbody

theorem skip_hexEscape (hn : hexValue? hs = some n) (h : c.At ('\\' :: 'u' :: (hs ++ cs)))
    (fuel : Nat) : ∃ c', skip (fuel + 1) c = skip fuel c' ∧ c'.At cs := by
  obtain ⟨c', hc', hat⟩ := yields_scanHex hn h.advance.advance
  refine ⟨c', ?_, hat⟩
  have hesc : skipEscape c.advance = .ok c' := by
    rw [skipEscape, h.advance, List.map_cons]
    simp [hc', Except.map]
  rw [skip, h, List.map_cons]
  simp [hesc]

/-- Some turns take a character as it is spelled. -/
theorem skip_char (hu : CharSpelling ch u) (h : c.At (u ++ cs)) {fuel : Nat}
    (hfuel : u.length < fuel) :
    ∃ fuel' c', skip fuel c = skip fuel' c' ∧ c'.At cs ∧ fuel ≤ fuel' + u.length := by
  obtain ⟨fuel, rfl⟩ : ∃ n, fuel = n + 1 := ⟨fuel - 1, by omega⟩
  cases hu with
  | plain visible noQuote noEscape =>
    refine ⟨fuel, ⟨c.offset + ch.utf8Size, cs.map .char⟩, ?_, rfl, by simp⟩
    rw [skip, h, List.singleton_append, List.map_cons]
    simp [*]
  | @letter _ e named =>
    have hne : e ≠ 'u' := by
      rintro rfl
      cases named
    have hesc : skipEscape c.advance = .ok c.advance.advance := by
      rw [skipEscape, At.advance h]
      simp [*]
    refine ⟨fuel, c.advance.advance, ?_, (At.advance h).advance, by simp⟩
    rw [skip, h]
    simp [hesc]
  | codePoint written =>
    obtain ⟨c', hc', hat⟩ := skip_hexEscape written h fuel
    exact ⟨fuel, c', hc', hat, by simp⟩
  | surrogates lead trail =>
    obtain ⟨fuel, rfl⟩ : ∃ n, fuel = n + 1 := ⟨fuel - 1, by simp at hfuel; omega⟩
    obtain ⟨c₁, h₁, at₁⟩ := skip_hexEscape lead (by simpa using h) (fuel + 1)
    obtain ⟨c₂, h₂, at₂⟩ := skip_hexEscape trail at₁ fuel
    refine ⟨fuel, c₂, h₁.trans h₂, at₂, ?_⟩
    simp only [List.length_append, List.length_cons]
    omega

theorem passes_skipBody {s u : List Char} (hu : TextSpelling s u) {fuel : Nat}
    (h : c.At (u ++ '"' :: cs)) (hfuel : u.length < fuel) : Passes (skip fuel c) cs := by
  induction hu generalizing fuel c with
  | nil =>
    obtain ⟨fuel, rfl⟩ := Nat.exists_eq_add_of_lt hfuel
    refine ⟨c.advance, ?_, At.advance h⟩
    rw [skip, h]
    simp
  | @cons ch s v w hv _ ih =>
    rw [List.length_append] at hfuel
    rw [List.append_assoc] at h
    have hv_lt : v.length < fuel := by omega
    obtain ⟨fuel', c', hc', hat, hle⟩ := skip_char hv h hv_lt
    rw [hc']
    exact ih hat (by omega)

theorem passes_skip {s : String} (hu : Quotes s ('"' :: u)) {fuel : Nat} (h : c.At (u ++ cs))
    (hfuel : u.length ≤ fuel) : Passes (skip fuel c) cs := by
  obtain ⟨v, hv, hu⟩ := hu
  obtain rfl := (List.cons.inj hu).2
  rw [List.append_assoc] at h
  exact passes_skipBody hv h (by rw [List.length_append, List.length_singleton] at hfuel; omega)

end StringScan

/-! ## Numbers -/

/-- What follows is no part of a number. -/
def NumberEnds (cs : List Char) : Prop :=
  ∀ ch ∈ cs.head?, isDigit ch = false ∧ ch ≠ '.' ∧ ch ≠ 'e' ∧ ch ≠ 'E'

theorem digits_go_append {ds : List Char} (hds : ∀ d ∈ ds, isDigit d = true) {cs : List Char}
    (hcs : ∀ ch ∈ cs.head?, isDigit ch = false) (offset : Nat) (acc : List Nat) :
    ∃ c, digits.go offset acc ((ds ++ cs).map .char) =
      (acc.reverse ++ ds.map fun d => d.toNat - 48, c) ∧ c.At cs := by
  induction ds generalizing offset acc with
  | nil =>
    cases cs with
    | nil => exact ⟨⟨offset, []⟩, by simp [digits.go], rfl⟩
    | cons ch cs =>
      refine ⟨⟨offset, (ch :: cs).map .char⟩, ?_, rfl⟩
      rw [List.nil_append, List.map_cons, digits.go, hcs ch rfl]
      simp
  | cons d ds ih =>
    obtain ⟨c, hc, hat⟩ := ih (fun d hd => hds d (List.mem_cons_of_mem _ hd)) (offset + 1)
      ((d.toNat - 48) :: acc)
    refine ⟨c, ?_, hat⟩
    rw [List.cons_append, List.map_cons, digits.go, if_pos (hds d List.mem_cons_self), hc]
    simp

theorem Cursor.At.digits {c : Cursor} {r : DigitRun} {cs : List Char} (h : c.At (r.chars ++ cs))
    (hcs : ∀ ch ∈ cs.head?, isDigit ch = false) :
    ∃ c', c.digits = (r.values, c') ∧ c'.At cs := by
  rw [Cursor.digits, h]
  simpa [DigitRun.values] using digits_go_append r.digits hcs c.offset []

theorem DigitRun.exists_cons (r : DigitRun) :
    ∃ d ds, r.chars = d :: ds ∧ isDigit d = true := by
  obtain ⟨d, ds, h⟩ := List.exists_cons_of_ne_nil r.nonempty
  exact ⟨d, ds, h, r.digits d (h ▸ List.mem_cons_self)⟩

theorem DigitRun.values_ne_nil (r : DigitRun) : r.values ≠ [] := by
  rw [DigitRun.values, Ne, List.map_eq_nil_iff]
  exact r.nonempty

namespace NumberScan

variable {c : Cursor} {cs : List Char}

theorem yields_finish (negative : Bool) (significand : Nat) (exponent : Int) (h : c.At cs) :
    Yields (finish negative significand exponent c)
      ((float negative significand exponent).map .float) cs := by
  rw [finish]
  cases float negative significand exponent with
  | none => exact ⟨_, rfl⟩
  | some x => exact ⟨c, rfl, h⟩

theorem exponentSign_at (e : Exponent) (h : c.At (e.sign ++ (e.run.chars ++ cs))) :
    ∃ c', exponentSign c = (decide (e.sign? = some true), c') ∧ c'.At (e.run.chars ++ cs) := by
  rw [Exponent.sign] at h
  rw [exponentSign]
  split at h <;> rename_i hsign
  · obtain ⟨d, ds, hr, hd⟩ := e.run.exists_cons
    refine ⟨c, ?_, h⟩
    rw [List.nil_append, hr, List.cons_append] at h
    rw [h.next?_cons, hsign]
    split
    · rename_i heq
      cases heq
      cases hd
    · rename_i heq
      cases heq
      cases hd
    · rfl
  · exact ⟨c.advance, by rw [At.next?_cons h, hsign]; rfl, At.advance h⟩
  · exact ⟨c.advance, by rw [At.next?_cons h, hsign]; rfl, At.advance h⟩

/-- What is read of an exponent does not depend on what stands behind it. -/
theorem exists_yields_scanExponent (negative : Bool) (significand : Nat) (exponent : Int)
    (e : Exponent) :
    ∃ value?, ∀ c cs, NumberEnds cs → c.At (e.sign ++ (e.run.chars ++ cs)) →
      Yields (scanExponent negative significand exponent c) value? cs := by
  obtain ⟨d, ds, hds⟩ := List.exists_cons_of_ne_nil e.run.values_ne_nil
  rcases hpower : absorb exponentLimit 0 (d :: ds) with ⟨power, taken⟩
  let down := decide (e.sign? = some true)
  refine ⟨if taken < (d :: ds).length then
      if significand ≠ 0 && !down then none
      else some (.float (Binary64.ofSignMagnitude negative 0))
    else (float negative significand
      (if down then exponent - power else exponent + power)).map .float,
    fun c cs hends h => ?_⟩
  obtain ⟨c₁, h₁, at₁⟩ := exponentSign_at e h
  obtain ⟨c₂, h₂, at₂⟩ := at₁.digits fun ch hch => (hends ch hch).1
  obtain ⟨s, rest, hrest⟩ : ∃ s rest, c₁.rest = s :: rest := by
    obtain ⟨d, ds, hr, -⟩ := e.run.exists_cons
    exact ⟨.char d, _, by rw [at₁, hr]; rfl⟩
  rw [hds] at h₂
  rw [scanExponent, h₁]
  simp only [hrest, h₂, hpower]
  split_ifs
  · exact ⟨_, rfl⟩
  · exact ⟨c₂, rfl, at₂⟩
  · exact yields_finish _ _ _ at₂
  · exact yields_finish _ _ _ at₂

theorem letter_eq (e : Exponent) : e.letter = 'e' ∨ e.letter = 'E' := by
  rw [Exponent.letter]
  split
  · exact .inr rfl
  · exact .inl rfl

theorem isDigit_text_head (e? : Option Exponent) (hends : NumberEnds cs) :
    ∀ ch ∈ ((e?.map Exponent.text).getD [] ++ cs).head?, isDigit ch = false := by
  cases e? with
  | none => exact fun ch hch => (hends ch hch).1
  | some e =>
    intro ch hch
    cases hch
    obtain h | h := letter_eq e <;> rw [h] <;> rfl

/-- What is read from the point on does not depend on what stands behind the number. -/
theorem exists_yields_scanFraction (negative : Bool) (significand : Nat) (exponent : Int)
    (r : DigitRun) (e? : Option Exponent) :
    ∃ value?, ∀ c cs, NumberEnds cs →
      c.At (r.chars ++ ((e?.map Exponent.text).getD [] ++ cs)) →
        Yields (scanFraction negative significand exponent c) value? cs := by
  obtain ⟨d, ds, hds⟩ := List.exists_cons_of_ne_nil r.values_ne_nil
  rcases habsorb : absorb significandLimit significand (d :: ds) with ⟨s, taken⟩
  cases e? with
  | none =>
    refine ⟨(float negative s (exponent - taken)).map .float, fun c cs hends h => ?_⟩
    obtain ⟨c₁, h₁, at₁⟩ := h.digits (isDigit_text_head none hends)
    rw [hds] at h₁
    rw [scanFraction, h₁]
    simp only [habsorb, at₁.next?_eq]
    split <;> rename_i hnext
    · exact absurd rfl (hends _ hnext).2.2.1
    · exact absurd rfl (hends _ hnext).2.2.2
    · exact yields_finish _ _ _ at₁
  | some e =>
    obtain ⟨v?, hv⟩ := exists_yields_scanExponent negative s (exponent - taken) e
    refine ⟨v?, fun c cs hends h => ?_⟩
    obtain ⟨c₁, h₁, at₁⟩ := h.digits (isDigit_text_head (some e) hends)
    rw [hds] at h₁
    rw [scanFraction, h₁]
    have hexp := hv c₁.advance cs hends (by simpa using At.advance at₁)
    simp only [habsorb, At.next?_cons at₁]
    obtain hl | hl := letter_eq e <;> rw [hl] <;> exact hexp

theorem eq_zero_of_isDigit {ch : Char} (h : isDigit ch = true) (hzero : ch.toNat - 48 = 0) :
    ch = '0' := by
  simp only [isDigit, Bool.and_eq_true, decide_eq_true_eq] at h
  have hle : (48 : Nat) ≤ ch.toNat := h.1
  exact Char.toNat_inj.mp (by simp; omega)

theorem values_ne_zero_cons (n : Numeral) (d : Nat) (ds : List Nat) :
    n.whole.values ≠ 0 :: d :: ds := by
  intro h
  obtain ⟨ch, chs, hchars, hdigit⟩ := n.whole.exists_cons
  rw [DigitRun.values, hchars, List.map_cons] at h
  obtain ⟨hzero, htail⟩ := List.cons.inj h
  have hlen := n.noLeadingZero (by rw [hchars, eq_zero_of_isDigit hdigit hzero]; rfl)
  rw [hchars, List.length_cons] at hlen
  rw [List.eq_nil_of_length_eq_zero (Nat.succ.inj hlen)] at htail
  cases htail

theorem isDigit_unsigned_head (n : Numeral) (hends : NumberEnds cs) :
    ∀ ch ∈ (n.fractionText ++ (n.exponentText ++ cs)).head?, isDigit ch = false := by
  rw [Numeral.fractionText]
  cases n.fraction with
  | none => exact isDigit_text_head n.exponent hends
  | some r =>
    intro ch hch
    cases hch
    rfl

/-- From after the digits before the point. -/
def scanRest (negative : Bool) (ds : List Nat) (after : Cursor) : Scan JsonNumber :=
  let (s, taken) := absorb significandLimit 0 ds
  let exponent : Int := (ds.length - taken : Nat)
  match after.next? with
  | some '.' => scanFraction negative s exponent after.advance
  | some 'e' | some 'E' => scanExponent negative s exponent after.advance
  | _ =>
    if exponent = 0 then .ok (whole negative s, after)
    else finish negative s exponent after

theorem scan_at (n : Numeral) (hends : NumberEnds cs) (h : c.At (n.unsigned ++ cs)) :
    ∃ after : Cursor, after.At (n.fractionText ++ (n.exponentText ++ cs)) ∧
      scan n.negative c = scanRest n.negative n.whole.values after := by
  rw [Numeral.unsigned, List.append_assoc, List.append_assoc] at h
  obtain ⟨after, hafter, hat⟩ := h.digits (isDigit_unsigned_head n hends)
  refine ⟨after, hat, ?_⟩
  obtain ⟨sym, rest, hrest⟩ : ∃ sym rest, c.rest = sym :: rest := by
    obtain ⟨d, ds, hr, -⟩ := n.whole.exists_cons
    exact ⟨.char d, _, by rw [h, hr]; rfl⟩
  rw [scan, hrest]
  simp only [hafter]
  split <;> rename_i heq
  · exact absurd (congrArg Prod.fst heq) n.whole.values_ne_nil
  · exact absurd (congrArg Prod.fst heq) (values_ne_zero_cons n _ _)
  · cases heq
    rfl

/-- What is read of a number does not depend on what stands behind it. -/
theorem exists_yields_scan (n : Numeral) :
    ∃ value?, ∀ c cs, NumberEnds cs → c.At (n.unsigned ++ cs) →
      Yields (scan n.negative c) value? cs := by
  rcases habsorb : absorb significandLimit 0 n.whole.values with ⟨s, taken⟩
  let exponent : Int := (n.whole.values.length - taken : Nat)
  cases hfraction : n.fraction with
  | some r =>
    obtain ⟨value?, hvalue⟩ := exists_yields_scanFraction n.negative s exponent r n.exponent
    refine ⟨value?, fun c cs hends h => ?_⟩
    obtain ⟨after, hat, hscan⟩ := scan_at n hends h
    rw [Numeral.fractionText, hfraction] at hat
    rw [hscan, scanRest, habsorb]
    simp only [At.next?_cons hat]
    exact hvalue _ cs hends (At.advance hat)
  | none =>
    cases hexponent : n.exponent with
    | some e =>
      obtain ⟨value?, hvalue⟩ := exists_yields_scanExponent n.negative s exponent e
      refine ⟨value?, fun c cs hends h => ?_⟩
      obtain ⟨after, hat, hscan⟩ := scan_at n hends h
      rw [Numeral.fractionText, hfraction, Numeral.exponentText, hexponent] at hat
      have hexp := hvalue after.advance cs hends (by simpa using At.advance hat)
      rw [hscan, scanRest, habsorb]
      simp only [At.next?_cons hat]
      obtain hl | hl := letter_eq e <;> rw [hl] <;> exact hexp
    | none =>
      refine ⟨if exponent = 0 then some (whole n.negative s)
        else (float n.negative s exponent).map .float, fun c cs hends h => ?_⟩
      obtain ⟨after, hat, hscan⟩ := scan_at n hends h
      rw [Numeral.fractionText, hfraction, Numeral.exponentText, hexponent] at hat
      have hat : after.At cs := hat
      rw [hscan, scanRest, habsorb]
      simp only [hat.next?_eq]
      split <;> rename_i hnext
      · exact absurd rfl (hends _ hnext).2.1
      · exact absurd rfl (hends _ hnext).2.2.1
      · exact absurd rfl (hends _ hnext).2.2.2
      · split_ifs
        · exact ⟨after, rfl, hat⟩
        · exact yields_finish _ _ _ hat

/-- A number has the value that it has when it stands alone. -/
theorem yields_scan (n : Numeral) (hends : NumberEnds cs) (h : c.At (n.unsigned ++ cs)) :
    Yields (scan n.negative c) n.value? cs := by
  obtain ⟨value?, hvalue⟩ := exists_yields_scan n
  have halone : n.value? = value? := by
    have hv := hvalue (.ofSymbols (n.unsigned.map .char)) [] nofun
      (by rw [List.append_nil]; rfl)
    rw [Numeral.value?]
    cases value? with
    | none =>
      obtain ⟨f, hf⟩ := hv
      rw [hf]
      rfl
    | some v =>
      obtain ⟨c', hc', -⟩ := hv
      rw [hc']
      rfl
  exact halone ▸ hvalue c cs hends h

/-! A number is skipped as it is read, without its value. -/

theorem passes_skipExponent (e : Exponent) (hends : NumberEnds cs)
    (h : c.At (e.sign ++ (e.run.chars ++ cs))) : Passes (skipExponent c) cs := by
  obtain ⟨c₁, h₁, at₁⟩ := exponentSign_at e h
  obtain ⟨c₂, h₂, at₂⟩ := at₁.digits fun ch hch => (hends ch hch).1
  obtain ⟨d, ds, hds⟩ := List.exists_cons_of_ne_nil e.run.values_ne_nil
  rw [hds] at h₂
  exact ⟨c₂, by simp only [skipExponent, h₁, h₂], at₂⟩

theorem passes_skipFraction (r : DigitRun) (e? : Option Exponent) (hends : NumberEnds cs)
    (h : c.At (r.chars ++ ((e?.map Exponent.text).getD [] ++ cs))) :
    Passes (skipFraction c) cs := by
  obtain ⟨d, ds, hds⟩ := List.exists_cons_of_ne_nil r.values_ne_nil
  obtain ⟨c₁, h₁, at₁⟩ := h.digits (isDigit_text_head e? hends)
  rw [hds] at h₁
  rw [skipFraction, h₁]
  cases e? with
  | none =>
    have at₁ : c₁.At cs := at₁
    simp only [at₁.next?_eq]
    split <;> rename_i hnext
    · exact absurd rfl (hends _ hnext).2.2.1
    · exact absurd rfl (hends _ hnext).2.2.2
    · exact ⟨c₁, rfl, at₁⟩
  | some e =>
    have hexp := passes_skipExponent e hends (c := c₁.advance) (by simpa using At.advance at₁)
    simp only [At.next?_cons at₁]
    obtain hl | hl := letter_eq e <;> rw [hl] <;> exact hexp

theorem passes_skip (n : Numeral) (hends : NumberEnds cs) (h : c.At (n.unsigned ++ cs)) :
    Passes (skip c) cs := by
  rw [Numeral.unsigned, List.append_assoc, List.append_assoc] at h
  obtain ⟨after, hafter, hat⟩ := h.digits (isDigit_unsigned_head n hends)
  rw [skip, hafter]
  split <;> rename_i heq
  · exact absurd (congrArg Prod.fst heq) n.whole.values_ne_nil
  · exact absurd (congrArg Prod.fst heq) (values_ne_zero_cons n _ _)
  · cases heq
    rw [Numeral.fractionText, Numeral.exponentText] at hat
    cases hfraction : n.fraction with
    | some r =>
      rw [hfraction] at hat
      simp only [At.next?_cons hat]
      exact passes_skipFraction r n.exponent hends (At.advance hat)
    | none =>
      cases hexponent : n.exponent with
      | some e =>
        rw [hfraction, hexponent] at hat
        have hexp := passes_skipExponent e hends (c := after.advance)
          (by simpa using At.advance hat)
        simp only [At.next?_cons hat]
        obtain hl | hl := letter_eq e <;> rw [hl] <;> exact hexp
      | none =>
        rw [hfraction, hexponent] at hat
        have hat : after.At cs := hat
        simp only [hat.next?_eq]
        split <;> rename_i hnext
        · exact absurd rfl (hends _ hnext).2.1
        · exact absurd rfl (hends _ hnext).2.2.1
        · exact absurd rfl (hends _ hnext).2.2.2
        · exact ⟨after, rfl, hat⟩

end NumberScan
end Json
end ProtocolTypes
