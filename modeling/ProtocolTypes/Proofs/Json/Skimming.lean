import ProtocolTypes.Proofs.Json.Scanning

/-!
# ProtocolTypes.Proofs.Json.Skimming

Skipping a written document. However a document is written, skipping gets over its text and stands
behind it (`Skim.value_spells`), whatever numbers it holds and however deep it is.
-/

namespace ProtocolTypes
namespace Json

open Cursor

/-! ## What stands next to a document -/

theorem ne_of_isDigit {ch x : Char} (h : isDigit ch = true) (hx : isDigit x = false) : ch ≠ x := by
  rintro rfl
  exact absurd h (by simp [hx])

theorem isBlank_of_isDigit {ch : Char} (h : isDigit ch = true) : isBlank ch = false := by
  have hne (x : Char) (hx : isDigit x = false) : ch ≠ x := ne_of_isDigit h hx
  simp [isBlank, hne ' ' rfl, hne '\n' rfl, hne '\t' rfl, hne '\r' rfl]

theorem NumberEnds.blank_append {w cs : List Char} (hw : Blank w) (hcs : NumberEnds cs) :
    NumberEnds (w ++ cs) := by
  cases w with
  | nil => exact hcs
  | cons b w =>
    intro ch hch
    cases hch
    have hb := hw b List.mem_cons_self
    simp only [isBlank, Bool.or_eq_true, decide_eq_true_eq] at hb
    obtain ((rfl | rfl) | rfl) | rfl := hb <;> exact ⟨rfl, by decide, by decide, by decide⟩

theorem Numeral.exists_unsigned (n : Numeral) :
    ∃ ch v, n.unsigned = ch :: v ∧ isDigit ch = true := by
  obtain ⟨ch, v, hr, hd⟩ := n.whole.exists_cons
  exact ⟨ch, _, by rw [Numeral.unsigned, hr]; rfl, hd⟩

theorem Gap.length_pos {first : Bool} {g : List Char} (hg : Gap first g) :
    0 < 2 * g.length + first.toNat := by
  cases first with
  | true => simp
  | false =>
    obtain ⟨w, w', -, -, rfl⟩ := hg
    simp

theorem Quotes.exists_cons {s : String} {k : List Char} (h : Quotes s k) :
    ∃ v, k = '"' :: v := by
  obtain ⟨u, -, rfl⟩ := h
  exact ⟨_, rfl⟩

namespace Document

theorem Spells.exists_cons {d : Document} {u : List Char} (h : d.Spells u) :
    ∃ ch v, u = ch :: v ∧ isBlank ch = false ∧ ch ≠ ']' := by
  cases d with
  | null =>
    cases h
    exact ⟨_, _, rfl, rfl, by decide⟩
  | bool b => cases b <;> cases h <;> exact ⟨_, _, rfl, rfl, by decide⟩
  | number v =>
    obtain ⟨n, -, rfl⟩ := h
    rw [Numeral.text]
    split
    · exact ⟨_, _, rfl, rfl, by decide⟩
    · obtain ⟨ch, v, hn, hd⟩ := n.exists_unsigned
      exact ⟨ch, v, hn, isBlank_of_isDigit hd, ne_of_isDigit hd rfl⟩
  | string s =>
    obtain ⟨v, rfl⟩ := Quotes.exists_cons h
    exact ⟨_, _, rfl, rfl, by decide⟩
  | array ds =>
    obtain ⟨v, -, rfl⟩ := h
    exact ⟨_, _, rfl, rfl, by decide⟩
  | object ms =>
    obtain ⟨v, -, rfl⟩ := h
    exact ⟨_, _, rfl, rfl, by decide⟩
  | unread => cases h

/-- A number may stand before what is left of an array. -/
theorem SpellsElements.numberEnds {ds : List Document} {v : List Char}
    (h : SpellsElements false ds v) (cs : List Char) : NumberEnds (v ++ cs) := by
  cases ds with
  | nil =>
    obtain ⟨w, hw, rfl⟩ := h
    rw [List.append_assoc]
    exact .blank_append hw fun ch hch => by cases hch; exact ⟨rfl, by decide, by decide, by decide⟩
  | cons d ds =>
    obtain ⟨g, u, v, ⟨w, w', hw, -, rfl⟩, -, -, rfl⟩ := h
    rw [List.append_assoc, List.append_assoc]
    exact .blank_append hw fun ch hch => by cases hch; exact ⟨rfl, by decide, by decide, by decide⟩

/-- A number may stand before what is left of an object. -/
theorem SpellsMembers.numberEnds {ms : List (String × Document)} {v : List Char}
    (h : SpellsMembers false ms v) (cs : List Char) : NumberEnds (v ++ cs) := by
  cases ms with
  | nil =>
    obtain ⟨w, hw, rfl⟩ := h
    rw [List.append_assoc]
    exact .blank_append hw fun ch hch => by cases hch; exact ⟨rfl, by decide, by decide, by decide⟩
  | cons m ms =>
    obtain ⟨g, k, w₁, w₂, u, v, ⟨w, w', hw, -, rfl⟩, -, -, -, -, -, rfl⟩ := h
    rw [List.append_assoc, List.append_assoc]
    exact .blank_append hw fun ch hch => by cases hch; exact ⟨rfl, by decide, by decide, by decide⟩

end Document

/-! ## Skipping -/

namespace Skim

/-- Some turns, at most as many as the cost, skip what stands before the given characters. -/
def Skips (fuel cost : Nat) (due : Due) (frames outer : List Bracket) (c : Cursor)
    (cs : List Char) : Prop :=
  ∃ fuel' c', run fuel due frames c = run fuel' (.inside true) outer c' ∧ c'.At cs ∧
    fuel ≤ fuel' + cost

variable {c : Cursor} {ch : Char} {w k g cs : List Char} {fuel : Nat} {frames outer : List Bracket}

theorem passes_skimKey {key : String} {w' : List Char} (hw : Blank w) (hk : Quotes key k)
    (hw' : Blank w') (h : c.At (w ++ (k ++ (w' ++ ':' :: cs)))) (hfuel : k.length ≤ fuel) :
    Passes (skimKey fuel c) cs := by
  obtain ⟨u, rfl⟩ := hk.exists_cons
  have at₁ : c.skipBlanks.At ('"' :: (u ++ (w' ++ ':' :: cs))) :=
    h.skipBlanks hw fun ch hch => by cases hch; rfl
  have hlen : u.length ≤ fuel := by
    rw [List.length_cons] at hfuel
    omega
  obtain ⟨c₂, h₂, at₂⟩ := StringScan.passes_skip hk at₁.advance hlen
  have at₃ : c₂.skipBlanks.At (':' :: cs) :=
    at₂.skipBlanks hw' fun ch hch => by cases hch; rfl
  refine ⟨c₂.skipBlanks.advance, ?_, at₃.advance⟩
  rw [skimKey]
  simp [at₁.atEnd_cons, at₁.next?_cons, h₂, at₃.atEnd_cons, at₃.next?_cons, bind, Except.bind]

/-- The turn before an item: blanks are skipped, and a comma unless the item is the first. -/
theorem run_inside {first : Bool} {frame : Bracket} (hg : Gap first g)
    (h : c.At (g ++ ch :: cs)) (hblank : isBlank ch = false) (hclosing : ch ≠ frame.closing)
    (hcomma : frame.closing ≠ ',') :
    ∃ w c', Blank w ∧ c'.At (w ++ ch :: cs) ∧
      run (fuel + 1) (.inside !first) (frame :: outer) c =
        match frame with
        | .list => run fuel .value (frame :: outer) c'
        | .object => skimKey fuel c' >>= run fuel .value (frame :: outer) := by
  cases first with
  | true =>
    have at₁ : c.skipBlanks.At (ch :: cs) :=
      h.skipBlanks hg fun _ hch => by cases hch; exact hblank
    refine ⟨[], c.skipBlanks, blank_nil, at₁, ?_⟩
    rw [run]
    cases frame <;>
      simp only [at₁.atEnd_cons, at₁.next?_cons, Bool.not_true, Bool.false_and, Option.some.injEq,
        hclosing, Bool.false_eq_true, if_false]
  | false =>
    obtain ⟨w, w', hw, hw', rfl⟩ := hg
    rw [List.append_assoc] at h
    have at₁ : c.skipBlanks.At (',' :: (w' ++ ch :: cs)) :=
      h.skipBlanks hw fun _ hch => by cases hch; rfl
    refine ⟨w', c.skipBlanks.advance, hw', at₁.advance, ?_⟩
    rw [run]
    cases frame <;>
      simp only [at₁.atEnd_cons, at₁.next?_cons, Option.some.injEq, hcomma.symm, ne_eq,
        not_true_eq_false, decide_false, Bool.and_false, Bool.not_false, Bool.false_eq_true,
        if_false, if_true]

theorem run_closing {frame : Bracket} {comma : Bool} (hw : Blank w)
    (h : c.At (w ++ frame.closing :: cs)) :
    ∃ c', run (fuel + 1) (.inside comma) (frame :: outer) c = run fuel (.inside true) outer c' ∧
      c'.At cs := by
  have at₁ : c.skipBlanks.At (frame.closing :: cs) :=
    h.skipBlanks hw fun _ hch => by cases hch; cases frame <;> rfl
  refine ⟨c.skipBlanks.advance, ?_, at₁.advance⟩
  rw [run]
  simp [at₁.atEnd_cons, at₁.next?_cons]

theorem run_digit (h : c.skipBlanks.next? = some ch) (hd : isDigit ch = true) :
    run (fuel + 1) .value frames c =
      NumberScan.skip c.skipBlanks >>= run fuel (.inside true) frames := by
  rw [run]
  simp only [h]
  split <;> rename_i heq <;> cases heq
  all_goals first | exact absurd hd (by decide) | exact if_pos hd

theorem Skips.trans {fuel' cost cost' : Nat} {due due' : Due} {frames' outer : List Bracket}
    {c' : Cursor} (h : run fuel due frames c = run fuel' due' frames' c')
    (hle : fuel ≤ fuel' + cost) (h' : Skips fuel' cost' due' frames' outer c' cs) :
    Skips fuel (cost + cost') due frames outer c cs := by
  obtain ⟨fuel'', c'', hrun, hat, hle'⟩ := h'
  exact ⟨fuel'', c'', h.trans hrun, hat, by omega⟩

theorem Skips.mono {cost cost' : Nat} {due : Due} (h : Skips fuel cost due frames outer c cs)
    (hle : cost ≤ cost') : Skips fuel cost' due frames outer c cs := by
  obtain ⟨fuel', c', hrun, hat, hcost⟩ := h
  exact ⟨fuel', c', hrun, hat, by omega⟩

/-- A value whose scanner takes it in one turn. -/
theorem Skips.ofPasses {cost : Nat} {scan : Except SyntaxFault Cursor}
    (hrun : run (fuel + 1) .value frames c = scan >>= run fuel (.inside true) frames)
    (h : Passes scan cs) (hcost : 0 < cost) :
    Skips (fuel + 1) cost .value frames frames c cs := by
  obtain ⟨c', rfl, hat⟩ := h
  exact ⟨fuel, c', hrun, hat, by omega⟩

open Document

mutual

theorem skips_value : ∀ (d : Document) {u : List Char} {fuel : Nat} {frames : List Bracket}
    {c : Cursor} {w cs : List Char}, d.Spells u → Blank w → NumberEnds cs →
      c.At (w ++ (u ++ cs)) → 2 * u.length < fuel →
        Skips fuel (2 * u.length) .value frames frames c cs
  | .null, u, fuel + 1, frames, c, w, cs, hu, hw, _, h, _ => by
    obtain rfl := hu
    have at₁ := h.skipBlanks hw fun _ hch => by cases hch; rfl
    have hword : Passes (scanWord ['u', 'l', 'l'] c.skipBlanks.advance) cs :=
      passes_scanWord at₁.advance
    refine .ofPasses ?_ hword (by simp)
    rw [run]
    simp only [at₁.next?_cons]
  | .bool true, u, fuel + 1, frames, c, w, cs, hu, hw, _, h, _ => by
    obtain rfl := hu
    have at₁ := h.skipBlanks hw fun _ hch => by cases hch; rfl
    have hword : Passes (scanWord ['r', 'u', 'e'] c.skipBlanks.advance) cs :=
      passes_scanWord at₁.advance
    refine .ofPasses ?_ hword (by simp)
    rw [run]
    simp only [at₁.next?_cons]
  | .bool false, u, fuel + 1, frames, c, w, cs, hu, hw, _, h, _ => by
    obtain rfl := hu
    have at₁ := h.skipBlanks hw fun _ hch => by cases hch; rfl
    have hword : Passes (scanWord ['a', 'l', 's', 'e'] c.skipBlanks.advance) cs :=
      passes_scanWord at₁.advance
    refine .ofPasses ?_ hword (by simp)
    rw [run]
    simp only [at₁.next?_cons]
  | .number v, u, fuel + 1, frames, c, w, cs, hu, hw, hends, h, _ => by
    obtain ⟨n, -, rfl⟩ := hu
    obtain ⟨ch, rest, hn, hd⟩ := n.exists_unsigned
    by_cases hneg : n.negative = true
    · rw [Numeral.text, if_pos hneg] at h ⊢
      have at₁ := h.skipBlanks hw fun _ hch => by cases hch; rfl
      refine .ofPasses ?_ (NumberScan.passes_skip n hends at₁.advance) (by simp)
      rw [run]
      simp only [at₁.next?_cons]
    · rw [Numeral.text, if_neg hneg] at h ⊢
      have at₁ := h.skipBlanks hw fun _ hch => by
        rw [hn] at hch
        cases hch
        exact isBlank_of_isDigit hd
      refine .ofPasses ?_ (NumberScan.passes_skip n hends at₁) (by simp [hn])
      exact run_digit (by rw [at₁.next?_eq, hn]; rfl) hd
  | .string s, u, fuel + 1, frames, c, w, cs, hu, hw, _, h, hfuel => by
    obtain ⟨v, rfl⟩ := Quotes.exists_cons hu
    have at₁ := h.skipBlanks hw fun _ hch => by cases hch; rfl
    rw [List.length_cons] at hfuel
    have hskip : Passes (StringScan.skip fuel c.skipBlanks.advance) cs :=
      StringScan.passes_skip hu at₁.advance (by omega)
    refine .ofPasses ?_ hskip (by simp)
    rw [run]
    simp only [at₁.next?_cons]
  | .array ds, u, fuel + 1, frames, c, w, cs, hu, hw, _, h, hfuel => by
    obtain ⟨v, hv, rfl⟩ := hu
    have at₁ := h.skipBlanks hw fun _ hch => by cases hch; rfl
    have hrun : run (fuel + 1) .value frames c =
        run fuel (.inside false) (.list :: frames) c.skipBlanks.advance := by
      rw [run]
      simp only [at₁.next?_cons]
    rw [List.length_cons] at hfuel ⊢
    have hbody : Skips fuel (2 * v.length + 1) (.inside false) (.list :: frames) frames _ cs :=
      skips_elements ds hv at₁.advance (by simp; omega)
    exact (Skips.trans hrun le_rfl hbody).mono (by omega)
  | .object ms, u, fuel + 1, frames, c, w, cs, hu, hw, _, h, hfuel => by
    obtain ⟨v, hv, rfl⟩ := hu
    have at₁ := h.skipBlanks hw fun _ hch => by cases hch; rfl
    have hrun : run (fuel + 1) .value frames c =
        run fuel (.inside false) (.object :: frames) c.skipBlanks.advance := by
      rw [run]
      simp only [at₁.next?_cons]
    rw [List.length_cons] at hfuel ⊢
    have hbody : Skips fuel (2 * v.length + 1) (.inside false) (.object :: frames) frames _ cs :=
      skips_members ms hv at₁.advance (by simp; omega)
    exact (Skips.trans hrun le_rfl hbody).mono (by omega)

/-- The elements of an array are skipped up to its end. -/
theorem skips_elements : ∀ (ds : List Document) {first : Bool} {v : List Char} {fuel : Nat}
    {frames : List Bracket} {c : Cursor} {cs : List Char}, SpellsElements first ds v →
      c.At (v ++ cs) → 2 * v.length + first.toNat < fuel →
        Skips fuel (2 * v.length + first.toNat) (.inside !first) (.list :: frames) frames c cs
  | [], first, v, fuel + 1, frames, c, cs, hv, h, _ => by
    obtain ⟨w, hw, rfl⟩ := hv
    rw [List.append_assoc] at h
    have hclosing : ∃ c', run (fuel + 1) (.inside !first) (.list :: frames) c =
        run fuel (.inside true) frames c' ∧ c'.At cs := run_closing hw h
    obtain ⟨c', hrun, hat⟩ := hclosing
    exact ⟨fuel, c', hrun, hat, by simp; omega⟩
  | d :: ds, first, v, fuel + 1, frames, c, cs, hv, h, hfuel => by
    obtain ⟨g, u, v, hg, hu, hv, rfl⟩ := hv
    obtain ⟨ch, u, rfl, hblank, hclosing⟩ := hu.exists_cons
    have hpos := Gap.length_pos hg
    simp only [List.append_assoc, List.length_append] at h hfuel ⊢
    have hinside : ∃ w c₁, Blank w ∧ c₁.At (w ++ ch :: (u ++ (v ++ cs))) ∧
        run (fuel + 1) (.inside !first) (.list :: frames) c =
          run fuel .value (.list :: frames) c₁ := run_inside hg h hblank hclosing (by decide)
    obtain ⟨w, c₁, hw, at₁, h₁⟩ := hinside
    have hvalue : Skips fuel (2 * (ch :: u).length) .value (.list :: frames) (.list :: frames) c₁
        (v ++ cs) := skips_value d hu hw (hv.numberEnds cs) at₁ (by omega)
    obtain ⟨fuel₂, c₂, h₂, at₂, hle⟩ := hvalue
    have hrest : Skips fuel₂ (2 * v.length + 0) (.inside true) (.list :: frames) frames c₂ cs :=
      skips_elements ds hv at₂ (by simp; omega)
    have hcost : fuel + 1 ≤ fuel₂ + (2 * (ch :: u).length + 1) := by omega
    exact (Skips.trans (h₁.trans h₂) hcost hrest).mono (by omega)

/-- The members of an object are skipped up to its end. -/
theorem skips_members : ∀ (ms : List (String × Document)) {first : Bool} {v : List Char}
    {fuel : Nat} {frames : List Bracket} {c : Cursor} {cs : List Char},
      SpellsMembers first ms v → c.At (v ++ cs) → 2 * v.length + first.toNat < fuel →
        Skips fuel (2 * v.length + first.toNat) (.inside !first) (.object :: frames) frames c cs
  | [], first, v, fuel + 1, frames, c, cs, hv, h, _ => by
    obtain ⟨w, hw, rfl⟩ := hv
    rw [List.append_assoc] at h
    have hclosing : ∃ c', run (fuel + 1) (.inside !first) (.object :: frames) c =
        run fuel (.inside true) frames c' ∧ c'.At cs := run_closing hw h
    obtain ⟨c', hrun, hat⟩ := hclosing
    exact ⟨fuel, c', hrun, hat, by simp; omega⟩
  | (key, d) :: ms, first, v, fuel + 1, frames, c, cs, hv, h, hfuel => by
    obtain ⟨g, k, w, w', u, v, hg, hk, hw, hw', hu, hv, rfl⟩ := hv
    obtain ⟨k', rfl⟩ := hk.exists_cons
    have hpos := Gap.length_pos hg
    simp only [List.append_assoc, List.length_append, List.length_cons, List.cons_append]
      at h hfuel ⊢
    have hinside : ∃ w₁ c₁, Blank w₁ ∧
        c₁.At (w₁ ++ '"' :: (k' ++ (w ++ ':' :: (w' ++ (u ++ (v ++ cs)))))) ∧
        run (fuel + 1) (.inside !first) (.object :: frames) c =
          skimKey fuel c₁ >>= run fuel .value (.object :: frames) :=
      run_inside hg h rfl (by decide) (by decide)
    obtain ⟨w₁, c₁, hw₁, at₁, h₁⟩ := hinside
    have hkey : Passes (skimKey fuel c₁) (w' ++ (u ++ (v ++ cs))) :=
      passes_skimKey hw₁ hk hw at₁ (by simp; omega)
    obtain ⟨c₂, h₂, at₂⟩ := hkey
    rw [h₂] at h₁
    have hvalue : Skips fuel (2 * u.length) .value (.object :: frames) (.object :: frames) c₂
        (v ++ cs) := skips_value d hu hw' (hv.numberEnds cs) at₂ (by omega)
    obtain ⟨fuel₃, c₃, h₃, at₃, hle⟩ := hvalue
    have hrest : Skips fuel₃ (2 * v.length + 0) (.inside true) (.object :: frames) frames c₃ cs :=
      skips_members ms hv at₃ (by simp; omega)
    have hcost : fuel + 1 ≤ fuel₃ + (2 * u.length + 1) := by omega
    exact (Skips.trans (h₁.trans h₃) hcost hrest).mono (by omega)

end

/-- Skipping a document leads behind it, and past the blanks there. -/
theorem value_spells {d : Document} {u : List Char} (hu : d.Spells u) (hw : Blank w)
    (hends : NumberEnds cs) (h : c.At (w ++ (u ++ cs))) (hfuel : 2 * u.length < fuel) :
    ∃ c' : Cursor, value fuel c = .ok c'.skipBlanks ∧ c'.At cs := by
  obtain ⟨fuel', c', hrun, hat, hle⟩ : Skips fuel (2 * u.length) .value [] [] c cs :=
    skips_value d hu hw hends h hfuel
  obtain ⟨fuel', rfl⟩ : ∃ n, fuel' = n + 1 := ⟨fuel' - 1, by omega⟩
  exact ⟨c', by rw [value, hrun, run], hat⟩

end Skim
end Json
end ProtocolTypes
