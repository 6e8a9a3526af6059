import ProtocolTypes.Json.Reader
import ProtocolTypes.Proofs.Json.Skimming

/-!
# ProtocolTypes.Proofs.Json.Reading

Reading a written document. However a document is written, the reader sees in the text what there
is to see in the document, and stands behind it afterwards (`reads_value`, `document?_read`).
-/

namespace ProtocolTypes
namespace Json

open Cursor

/-- As `At`, up to blanks. -/
def Cursor.Near (c : Cursor) (cs : List Char) : Prop :=
  ∃ c' : Cursor, c'.At cs ∧ c.skipBlanks = c'.skipBlanks

namespace Cursor

variable {c : Cursor} {w cs : List Char}

theorem At.near (h : c.At cs) : c.Near cs :=
  ⟨c, h, rfl⟩

theorem At.near_skipBlanks (h : c.At cs) : c.skipBlanks.Near cs :=
  ⟨c, h, skipBlanks_skipBlanks c⟩

theorem Near.skipBlanks (h : c.Near (w ++ cs)) (hw : Blank w)
    (hcs : ∀ ch ∈ cs.head?, isBlank ch = false) : c.skipBlanks.At cs := by
  obtain ⟨c', hat, heq⟩ := h
  exact heq ▸ hat.skipBlanks hw hcs

end Cursor

namespace Reader

/-! ## What is due -/

variable {c : Cursor} {ch : Char} {w g cs : List Char} {first : Bool}

theorem elementDue_element (hg : Gap first g) (h : c.Near (g ++ ch :: cs))
    (hblank : isBlank ch = false) (hclosing : ch ≠ ']') :
    ∃ c' : Cursor, elementDue first c = .element c' ∧ c'.At (ch :: cs) := by
  cases first with
  | true =>
    have at₁ := h.skipBlanks hg fun _ hch => by cases hch; exact hblank
    exact ⟨c.skipBlanks, by simp [elementDue, at₁.atEnd_cons, at₁.next?_cons, hclosing], at₁⟩
  | false =>
    obtain ⟨w, w', hw, hw', rfl⟩ := hg
    rw [List.append_assoc] at h
    have at₁ := h.skipBlanks hw fun _ hch => by cases hch; rfl
    have at₂ := at₁.advance.skipBlanks hw' fun _ hch => by cases hch; exact hblank
    refine ⟨c.skipBlanks.advance.skipBlanks, ?_, at₂⟩
    simp [elementDue, at₁.atEnd_cons, at₁.next?_cons, at₂.atEnd_cons, at₂.next?_cons, hclosing]

theorem elementDue_closed (hw : Blank w) (h : c.Near (w ++ ']' :: cs)) :
    ∃ c' : Cursor, elementDue first c = .closed c' ∧ c'.At cs := by
  have at₁ := h.skipBlanks hw fun _ hch => by cases hch; rfl
  exact ⟨c.skipBlanks.advance, by simp [elementDue, at₁.atEnd_cons, at₁.next?_cons], at₁.advance⟩

theorem memberDue_key (hg : Gap first g) (h : c.Near (g ++ '"' :: cs)) :
    ∃ c' : Cursor, memberDue first c = .key c' ∧ c'.At cs := by
  cases first with
  | true =>
    have at₁ := h.skipBlanks hg fun _ hch => by cases hch; rfl
    exact ⟨c.skipBlanks.advance, by simp [memberDue, at₁.atEnd_cons, at₁.next?_cons], at₁.advance⟩
  | false =>
    obtain ⟨w, w', hw, hw', rfl⟩ := hg
    rw [List.append_assoc] at h
    have at₁ := h.skipBlanks hw fun _ hch => by cases hch; rfl
    have at₂ := at₁.advance.skipBlanks hw' fun _ hch => by cases hch; rfl
    refine ⟨c.skipBlanks.advance.skipBlanks.advance, ?_, at₂.advance⟩
    simp [memberDue, at₁.atEnd_cons, at₁.next?_cons, at₂.atEnd_cons, at₂.next?_cons]

theorem memberDue_closed (hw : Blank w) (h : c.Near (w ++ '\x7d' :: cs)) :
    ∃ c' : Cursor, memberDue first c = .closed c' ∧ c'.At cs := by
  have at₁ := h.skipBlanks hw fun _ hch => by cases hch; rfl
  exact ⟨c.skipBlanks.advance, by simp [memberDue, at₁.atEnd_cons, at₁.next?_cons], at₁.advance⟩

/-! ## Nodes -/

/-- A reading shows what is to be seen. If that is something, reading goes on before the given
characters, and otherwise it has stopped. -/
structure Reads {α β : Type} (reading : Reading α) (view : α → Option β) (seen : Option β)
    (cs : List Char) : Prop where
  view_eq : view reading.1 = seen
  stops : seen = none → reading.2 = none
  goesOn : seen ≠ none → ∃ c, reading.2 = some c ∧ c.Near cs

variable {fuel room : Nat} {shape : Shape}

theorem Reads.of_some {α β : Type} {reading : Reading α} {view : α → Option β} {x : β}
    (hview : view reading.1 = some x) (h : ∃ c, reading.2 = some c ∧ c.Near cs) :
    Reads reading view (some x) cs :=
  ⟨hview, nofun, fun _ => h⟩

theorem Reads.of_none {α β : Type} {reading : Reading α} {view : α → Option β}
    (hview : view reading.1 = none) (h : reading.2 = none) : Reads reading view none cs :=
  ⟨hview, fun _ => h, fun hne => absurd rfl hne⟩

theorem Reads.map {α β γ δ : Type} {reading : Reading α} {view : α → Option β} {seen : Option β}
    {node : α → γ} {view' : γ → Option δ} {f : β → δ} (h : Reads reading view seen cs)
    (hview : ∀ x, view' (node x) = (view x).map f) :
    Reads (node reading.1, reading.2) view' (seen.map f) cs where
  view_eq := by rw [hview, h.view_eq]
  stops hnone := h.stops (Option.map_eq_none_iff.mp hnone)
  goesOn hsome := h.goesOn fun hnone => hsome (hnone ▸ rfl)

/-- A word behind blanks, told by its first letter. -/
theorem reads_word {letters : List Char} (hw : Blank w) (hblank : isBlank ch = false)
    (h : c.Near (w ++ (ch :: letters ++ cs))) :
    c.skipBlanks.next? = some ch ∧
      ∀ (node : Nat → Nat → Tree) (d : Document),
        (∀ start stop, (node start stop).document? = some d) →
          Reads (word letters node c.skipBlanks) Tree.document? (some d) cs := by
  have at₁ := h.skipBlanks hw fun _ hch => by cases hch; exact hblank
  have hword : Passes (scanWord letters c.skipBlanks.advance) cs := passes_scanWord at₁.advance
  obtain ⟨c', hc', hat⟩ := hword
  refine ⟨at₁.next?_cons, fun node d hnode => ?_⟩
  rw [word, hc']
  exact .of_some (hnode _ _) ⟨c', rfl, hat.near⟩

theorem reads_number {n : Numeral} (hends : NumberEnds cs) (h : c.At (n.text ++ cs)) :
    Reads (number c) Tree.document? (n.value?.map fun v => .number (some v)) cs := by
  have hscan : Yields (NumberScan.scan (c.next? = some '-')
      (if c.next? = some '-' then c.advance else c)) n.value? cs := by
    rw [Numeral.text] at h
    by_cases hneg : n.negative = true
    · rw [if_pos hneg] at h
      simpa [At.next?_cons h, hneg] using NumberScan.yields_scan n hends (At.advance h)
    · rw [if_neg hneg] at h
      obtain ⟨ch, rest, hn, hd⟩ := n.exists_unsigned
      have hne : ch ≠ '-' := ne_of_isDigit hd rfl
      have hnext : c.next? = some ch := by rw [h.next?_eq, hn]; rfl
      simpa [hnext, hne, hneg] using NumberScan.yields_scan n hends h
  rw [number]
  cases hv : n.value? with
  | none =>
    rw [hv] at hscan
    obtain ⟨f, hf⟩ := hscan
    simp only [hf]
    exact .of_none rfl rfl
  | some v =>
    rw [hv] at hscan
    obtain ⟨c', hc', hat⟩ := hscan
    simp only [hc']
    exact .of_some rfl ⟨c', rfl, hat.near⟩

theorem reads_string {s : String} {u : List Char} (hu : Quotes s ('"' :: u))
    (h : c.At ('"' :: (u ++ cs))) (hfuel : u.length ≤ fuel) :
    Reads (string fuel c) Tree.document? (some (.string s)) cs := by
  obtain ⟨c', hc', hat⟩ := StringScan.yields_scan hu h.advance hfuel
  rw [string, hc']
  exact .of_some rfl ⟨c', rfl, hat.near⟩

theorem reads_skip {d : Document} {u : List Char} (hu : d.Spells u) (hw : Blank w)
    (hends : NumberEnds cs) (h : c.At (w ++ (u ++ cs))) (hfuel : 2 * u.length < fuel) :
    Reads (skip fuel c) Tree.document? (some .unread) cs := by
  obtain ⟨c', hc', hat⟩ := Skim.value_spells hu hw hends h hfuel
  rw [skip, hc']
  exact .of_some rfl ⟨_, rfl, hat.near_skipBlanks⟩

theorem value_digit (h : c.skipBlanks.next? = some ch) (hd : isDigit ch = true) :
    value (fuel + 1) room shape c = number c.skipBlanks := by
  rw [value.eq_def]
  simp only [h]
  split <;> rename_i heq <;> cases heq
  all_goals first | exact absurd hd (by decide) | exact if_pos hd

/-- An element and those behind it. -/
theorem Reads.element {reading : Reading Tree} {seen : Option Document} {cs' : List Char}
    (h : Reads reading Tree.document? seen cs') {next : Cursor → Reading Elements}
    {rest : Option (List Document)}
    (hrest : ∀ c : Cursor, c.Near cs' → Reads (next c) Elements.documents? rest cs) :
    Reads
      (match reading with
        | (v, none) => (.element v 0 (.closed 0), none)
        | (v, some c) => (.element v (arrayLanding c) (next c).1, (next c).2))
      Elements.documents? (seen.bind fun e => rest.map (e :: ·)) cs := by
  obtain ⟨v, after⟩ := reading
  cases seen with
  | none =>
    cases h.stops rfl
    exact .of_none (by rw [Elements.documents?, h.view_eq, Option.bind_none]) rfl
  | some e =>
    obtain ⟨c, hafter, hc⟩ := h.goesOn nofun
    cases hafter
    rw [Option.bind_some]
    exact (hrest c hc).map fun _ => by rw [Elements.documents?, h.view_eq, Option.bind_some]

/-- A member and those behind it. -/
theorem Reads.member {reading : Reading Tree} {seen : Option Document} {cs' : List Char}
    (h : Reads reading Tree.document? seen cs') (key : Key) {next : Cursor → Reading Members}
    {rest : Option (List (String × Document))}
    (hrest : ∀ c : Cursor, c.Near cs' → Reads (next c) Members.documents? rest cs) :
    Reads
      (match reading.2 with
        | none => (.member key reading.1 0 (.closed 0), none)
        | some c => (.member key reading.1 (objectLanding c) (next c).1, (next c).2))
      Members.documents? (seen.bind fun e => rest.map ((key.text, e) :: ·)) cs := by
  cases seen with
  | none =>
    rw [h.stops rfl]
    exact .of_none (by rw [Members.documents?, h.view_eq, Option.bind_none]) rfl
  | some e =>
    obtain ⟨c, hafter, hc⟩ := h.goesOn nofun
    rw [hafter, Option.bind_some]
    exact (hrest c hc).map fun _ => by rw [Members.documents?, h.view_eq, Option.bind_some]

open Document

mutual

/-- The reader sees in the text of a document what there is to see in the document. -/
theorem reads_value : ∀ (d : Document) {u : List Char} {fuel room : Nat} {shape : Shape}
    {c : Cursor} {w cs : List Char}, d.Spells u → Blank w → NumberEnds cs →
      c.Near (w ++ (u ++ cs)) → 2 * u.length < fuel →
        Reads (value fuel room shape c) Tree.document? (d.read room shape) cs
  | .null, u, fuel + 1, room, shape, c, w, cs, hu, hw, _, h, _ => by
    obtain rfl := hu
    obtain ⟨hnext, hword⟩ := reads_word hw rfl h
    rw [value.eq_def]
    simp only [hnext]
    exact hword _ _ fun _ _ => rfl
  | .bool true, u, fuel + 1, room, shape, c, w, cs, hu, hw, _, h, _ => by
    obtain rfl := hu
    obtain ⟨hnext, hword⟩ := reads_word hw rfl h
    rw [value.eq_def]
    simp only [hnext]
    exact hword _ _ fun _ _ => rfl
  | .bool false, u, fuel + 1, room, shape, c, w, cs, hu, hw, _, h, _ => by
    obtain rfl := hu
    obtain ⟨hnext, hword⟩ := reads_word hw rfl h
    rw [value.eq_def]
    simp only [hnext]
    exact hword _ _ fun _ _ => rfl
  | .number v, u, fuel + 1, room, shape, c, w, cs, hu, hw, hends, h, _ => by
    obtain ⟨n, rfl, rfl⟩ := hu
    have hseen : (Document.number n.value?).read room shape =
        n.value?.map fun v => .number (some v) := by
      cases n.value? <;> rfl
    rw [hseen]
    by_cases hneg : n.negative = true
    · have htext : n.text = '-' :: n.unsigned := if_pos hneg
      have at₁ := h.skipBlanks hw fun _ hch => by
        rw [htext] at hch
        cases hch
        rfl
      rw [value.eq_def]
      simp only [at₁.next?_eq, htext, List.cons_append, List.head?_cons]
      exact reads_number hends at₁
    · have htext : n.text = n.unsigned := if_neg hneg
      obtain ⟨ch, rest, hn, hd⟩ := n.exists_unsigned
      have at₁ := h.skipBlanks hw fun _ hch => by
        rw [htext, hn] at hch
        cases hch
        exact isBlank_of_isDigit hd
      rw [value_digit (by rw [at₁.next?_eq, htext, hn]; rfl) hd]
      exact reads_number hends at₁
  | .string s, u, fuel + 1, room, shape, c, w, cs, hu, hw, _, h, hfuel => by
    obtain ⟨v, rfl⟩ := Quotes.exists_cons hu
    have at₁ := h.skipBlanks hw fun _ hch => by cases hch; rfl
    rw [List.length_cons] at hfuel
    rw [value.eq_def]
    simp only [at₁.next?_cons]
    exact reads_string hu at₁ (by omega)
  | .array ds, u, fuel + 1, room, shape, c, w, cs, hu, hw, _, h, hfuel => by
    obtain ⟨v, hv, rfl⟩ := hu
    have at₁ := h.skipBlanks hw fun _ hch => by cases hch; rfl
    rw [List.length_cons] at hfuel
    rw [value.eq_def]
    simp only [at₁.next?_cons]
    cases room with
    | zero =>
      rw [read_array_zero]
      exact .of_none rfl rfl
    | succ room =>
      rw [read_array_succ]
      have hbody : Reads (elements fuel room shape.elements true c.skipBlanks.advance)
          Elements.documents? (readItems room shape.elements ds) cs :=
        reads_elements ds hv at₁.advance.near (by simp; omega)
      exact hbody.map fun _ => rfl
  | .object ms, u, fuel + 1, room, shape, c, w, cs, hu, hw, _, h, hfuel => by
    obtain ⟨v, hv, rfl⟩ := hu
    have at₁ := h.skipBlanks hw fun _ hch => by cases hch; rfl
    rw [List.length_cons] at hfuel
    rw [value.eq_def]
    simp only [at₁.next?_cons]
    cases room with
    | zero =>
      rw [read_object_zero]
      exact .of_none rfl rfl
    | succ room =>
      rw [read_object_succ]
      have hbody : Reads (members fuel room shape true c.skipBlanks.advance)
          Members.documents? (readMembers room shape ms) cs :=
        reads_members ms hv at₁.advance.near (by simp; omega)
      exact hbody.map fun _ => rfl
  | .unread, u, fuel + 1, room, shape, c, w, cs, hu, hw, hends, h, hfuel => nomatch hu

theorem reads_elements : ∀ (ds : List Document) {first : Bool} {v : List Char} {fuel room : Nat}
    {shapes : List Shape} {c : Cursor} {cs : List Char}, SpellsElements first ds v →
      c.Near (v ++ cs) → 2 * v.length + first.toNat < fuel →
        Reads (elements fuel room shapes first c) Elements.documents?
          (readItems room shapes ds) cs
  | [], first, v, fuel + 1, room, shapes, c, cs, hv, h, _ => by
    obtain ⟨w, hw, rfl⟩ := hv
    rw [List.append_assoc] at h
    have hclosed : ∃ c' : Cursor, elementDue first c = .closed c' ∧ c'.At cs :=
      elementDue_closed hw h
    obtain ⟨c', hdue, hat⟩ := hclosed
    rw [elements, hdue]
    exact .of_some rfl ⟨c', rfl, hat.near⟩
  | d :: ds, first, v, fuel + 1, room, shapes, c, cs, hv, h, hfuel => by
    obtain ⟨g, u, v, hg, hu, hv, rfl⟩ := hv
    obtain ⟨ch, u, rfl, hblank, hclosing⟩ := hu.exists_cons
    have hpos := Gap.length_pos hg
    simp only [List.append_assoc, List.length_append] at h hfuel
    obtain ⟨c₁, hdue, at₁⟩ := elementDue_element hg h hblank hclosing
    have hvalue : Reads (value fuel room (shapes.head?.getD .anything) c₁) Tree.document?
        (d.read room (shapes.head?.getD .anything)) (v ++ cs) :=
      reads_value d hu blank_nil (hv.numberEnds cs) at₁.near (by omega)
    have hrest (c : Cursor) (hc : c.Near (v ++ cs)) :
        Reads (elements fuel room (shapes.drop 1) false c) Elements.documents?
          (readItems room (shapes.drop 1) ds) cs :=
      reads_elements ds hv hc (by simp; omega)
    rw [elements, hdue, readItems]
    exact hvalue.element hrest

theorem reads_members : ∀ (ms : List (String × Document)) {first : Bool} {v : List Char}
    {fuel room : Nat} {shape : Shape} {c : Cursor} {cs : List Char}, SpellsMembers first ms v →
      c.Near (v ++ cs) → 2 * v.length + first.toNat < fuel →
        Reads (members fuel room shape first c) Members.documents? (readMembers room shape ms) cs
  | [], first, v, fuel + 1, room, shape, c, cs, hv, h, _ => by
    obtain ⟨w, hw, rfl⟩ := hv
    rw [List.append_assoc] at h
    have hclosed : ∃ c' : Cursor, memberDue first c = .closed c' ∧ c'.At cs :=
      memberDue_closed hw h
    obtain ⟨c', hdue, hat⟩ := hclosed
    rw [members, hdue]
    exact .of_some rfl ⟨c', rfl, hat.near⟩
  | (key, d) :: ms, first, v, fuel + 1, room, shape, c, cs, hv, h, hfuel => by
    obtain ⟨g, k, w, w', u, v, hg, hk, hw, hw', hu, hv, rfl⟩ := hv
    obtain ⟨k, rfl⟩ := hk.exists_cons
    have hpos := Gap.length_pos hg
    simp only [List.append_assoc, List.length_append, List.length_cons, List.cons_append]
      at h hfuel
    obtain ⟨c₁, hdue, at₁⟩ := memberDue_key hg h
    obtain ⟨c₂, hkey, at₂⟩ := StringScan.yields_scan hk at₁ (by omega : k.length ≤ fuel)
    have at₃ := at₂.skipBlanks hw fun _ hch => by cases hch; rfl
    have hrest (c : Cursor) (hc : c.Near (v ++ cs)) :
        Reads (members fuel room shape false c) Members.documents? (readMembers room shape ms) cs :=
      reads_members ms hv hc (by simp; omega)
    rw [members, hdue, readMembers]
    simp only [hkey, at₃.atEnd_cons, at₃.next?_cons, ne_eq, not_true_eq_false, if_false,
      Bool.false_eq_true]
    cases shape.member? key with
    | some s =>
      have hvalue : Reads (value fuel room s c₂.skipBlanks.advance) Tree.document?
          (d.read room s) (v ++ cs) :=
        reads_value d hu hw' (hv.numberEnds cs) at₃.advance.near (by omega)
      exact hvalue.member _ hrest
    | none =>
      have hvalue : Reads (skip fuel c₂.skipBlanks.advance) Tree.document? (some .unread)
          (v ++ cs) :=
        reads_skip hu hw' (hv.numberEnds cs) at₃.advance (by omega)
      exact hvalue.member _ hrest

end

end Reader

/-- The tree of a text stands for what there is to see in the document that is written there. -/
theorem document?_read {d : Document} {text : String} (h : d.WrittenAs text) (shape : Shape) :
    (read shape (Symbol.ofText text)).1.document? = d.read maxDepth shape := by
  obtain ⟨w, u, w', hw, hu, hw', htext⟩ := h
  have hnil : NumberEnds [] := nofun
  have hends : NumberEnds w' := by simpa using NumberEnds.blank_append hw' hnil
  have hat : (Cursor.ofSymbols (Symbol.ofText text)).At (w ++ (u ++ w')) :=
    congrArg (List.map Symbol.char) htext
  have hlen : (Symbol.ofText text).length = w.length + (u.length + w'.length) := by
    simp [Symbol.ofText, htext]
  exact (Reader.reads_value d hu hw hends hat.near (by omega)).view_eq

end Json
end ProtocolTypes
