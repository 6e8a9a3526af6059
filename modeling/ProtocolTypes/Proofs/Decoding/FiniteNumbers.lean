import ProtocolTypes.Decoding.Document
import ProtocolTypes.Proofs.Json.FiniteNumbers

/-!
# ProtocolTypes.Proofs.Decoding.FiniteNumbers

The numbers of a decoded meta model. What every put into a record keeps holds of the record that is
decoded (`Record.Keeps.decode`); carried through entries, enumerations and the model, this makes the
numbers of enumerations finite, whatever document they were read from (`hasFiniteNumbers_of_parse`).
-/

namespace ProtocolTypes

open Json

/-! ## Models with finite numbers -/

def EnumerationValue.IsFinite : EnumerationValue → Prop
  | .number x => x.isFinite = true
  | .string _ => True

def Enumeration.HasFiniteNumbers (e : Enumeration) : Prop :=
  ∀ entry ∈ e.values, entry.value.IsFinite

def MetaModel.HasFiniteNumbers (m : MetaModel) : Prop :=
  ∀ e ∈ m.enumerations, e.HasFiniteNumbers

namespace Decoding

/-! ## Records -/

namespace Record

variable {σ α : Type} {r : Record σ α} {I : σ → Prop}

/-- Putting a member with finite numbers keeps the invariant. -/
def Keeps (r : Record σ α) (I : σ → Prop) : Prop :=
  ∀ p key t p', I p → t.AllFinite → r.put p key t = .ok p' → I p'

theorem Keeps.collect (h : r.Keeps I) : ∀ (ms : Members) {p p' : σ} {stop : Nat},
    ms.AllFinite → I p → r.collect p ms = .ok (p', stop) → I p'
  | .closed _, _, _, _, _, hp, hcollect => by
    cases hcollect
    exact hp
  | .broken _, _, _, _, _, _, hcollect => by cases hcollect
  | .badKey _, _, _, _, _, _, hcollect => by cases hcollect
  | .badColon _ _, _, _, _, _, _, hcollect => by
    rw [Record.collect] at hcollect
    split at hcollect <;> cases hcollect
  | .member key t _ rest, p, p', stop, hms, hp, hcollect => by
    rw [Record.collect] at hcollect
    split at hcollect
    · cases hcollect
    · split at hcollect
      · cases hcollect
      · rename_i hput
        exact h.collect rest hms.2 (h _ _ _ _ hp hms.1 hput) hcollect

theorem Keeps.ofElements (h : r.Keeps I) : ∀ (fields : List String) (i landing : Nat) {p : σ}
    (es : Elements) {x : α}, es.AllFinite → I p → r.ofElements fields i landing p es = .ok x →
    ∃ p', I p' ∧ r.finish p' = .ok x
  | [], i, landing, p, es, x, _, hp, hx => by
    rw [Record.ofElements] at hx
    split at hx
    · cases hx
    · split at hx
      · cases hx
        exact ⟨p, hp, ‹_›⟩
      · cases hx
  | _ :: _, i, landing, p, .closed stop, x, _, hp, hx => by
    rw [Record.ofElements] at hx
    split at hx
    · cases hx
      exact ⟨p, hp, ‹_›⟩
    · cases hx
  | _ :: _, i, landing, p, .broken f, x, _, _, hx => by
    rw [Record.ofElements] at hx
    cases hx
  | _ :: fields, i, landing, p, .element t landing' rest, x, hes, hp, hx => by
    rw [Record.ofElements] at hx
    split at hx
    · cases hx
    · rename_i hput
      exact h.ofElements fields (i + 1) landing' rest hes.2 (h _ _ _ _ hp hes.1 hput) hx

theorem Keeps.decode (h : r.Keeps I) (hstart : I r.start) {t : Tree} {x : α} (ht : t.AllFinite)
    (hx : r.decode t = .ok x) : ∃ p, I p ∧ r.finish p = .ok x := by
  cases t with
  | object start ms =>
    rw [Record.decode, ofMembers] at hx
    split at hx
    · cases hx
    · rename_i p stop hcollect
      split at hx
      · cases hx
        exact ⟨p, h.collect ms ht hstart hcollect, ‹_›⟩
      · cases hx
  | _ => cases hx

theorem Keeps.decodeEither (h : r.Keeps I) (hstart : I r.start) {fields : List String} {t : Tree}
    {x : α} (ht : t.AllFinite) (hx : r.decodeEither fields t = .ok x) :
    ∃ p, I p ∧ r.finish p = .ok x := by
  cases t with
  | array start es => exact h.ofElements fields 0 0 es ht hstart hx
  | _ => exact h.decode hstart ht hx

end Record

/-- Each item of a decoded list was decoded from an element. -/
theorem forall_mem_of_decode {α : Type} {item : Tree → Decoded α} {P : α → Prop}
    (h : ∀ t x, t.AllFinite → item t = .ok x → P x) : ∀ (es : Elements) {i : Nat} {xs : List α},
    es.AllFinite → es.decode item i = .ok xs → ∀ x ∈ xs, P x
  | .closed _, _, _, _, hxs => by
    cases hxs
    simp
  | .broken _, _, _, _, hxs => by cases hxs
  | .element t _ rest, i, xs, hes, hxs => by
    rw [Elements.decode] at hxs
    split at hxs
    · cases hxs
    · rename_i x hx
      split at hxs
      · rename_i ys hys
        cases hxs
        exact List.forall_mem_cons.mpr ⟨h t x hes.1 hx, forall_mem_of_decode h rest hes.2 hys⟩
      · cases hxs

theorem forall_mem_of_toList {α : Type} {item : Tree → Decoded α} {P : α → Prop} {t : Tree}
    {xs : List α} (h : ∀ t x, t.AllFinite → item t = .ok x → P x) (ht : t.AllFinite)
    (hxs : t.toList item = .ok xs) : ∀ x ∈ xs, P x := by
  cases t with
  | array start es => exact forall_mem_of_decode h es ht hxs
  | _ => cases hxs

/-! ## Enumerations -/

theorem isFinite_of_via {t : Tree} {v : EnumerationValue} (ht : t.AllFinite)
    (hv : t.via enumerationValue = .ok v) : v.IsFinite := by
  have hlarge : UInt64.size < 1 <<< 1023 := by decide
  cases t with
  | number start stop n =>
    cases n with
    | integer i =>
      cases hv
      exact Binary64.isFinite_ofInt (Nat.lt_trans ht hlarge)
    | float x =>
      cases hv
      exact ht
  | string start stop s =>
    cases hv
    trivial
  | array start es | object start ms =>
    rw [Tree.via, Tree.toJson] at hv
    split at hv
    · cases hv
    · rename_i hjson
      split at hjson
      · cases hjson
        cases hv
      · cases hjson
  | _ => cases hv

theorem isFinite_of_entry {t : Tree} {entry : EnumerationEntry} (ht : t.AllFinite)
    (h : entryRecord.decode t = .ok entry) : entry.value.IsFinite := by
  have hkeeps : entryRecord.Keeps fun p => ∀ v, p.value = some v → v.IsFinite := by
    intro p key t p' hp ht hput
    simp only [entryRecord] at hput
    split at hput
    · obtain ⟨s, hs, rfl⟩ := map_eq_ok.mp hput
      exact hp
    · obtain ⟨v, hv, rfl⟩ := map_eq_ok.mp hput
      intro v' hv'
      cases hv'
      exact isFinite_of_via ht hv
    · obtain ⟨others, _, rfl⟩ := map_eq_ok.mp hput
      exact hp
  obtain ⟨p, hp, hfinish⟩ := hkeeps.decode (by simp [entryRecord]) ht h
  simp only [entryRecord] at hfinish
  split at hfinish
  · cases hfinish
  · cases hfinish
  · rename_i hvalue
    obtain ⟨a, _, rfl⟩ := map_eq_ok.mp hfinish
    exact hp _ hvalue

theorem hasFiniteNumbers_of_enumeration {t : Tree} {e : Enumeration} (ht : t.AllFinite)
    (h : enumerationRecord.decode t = .ok e) : e.HasFiniteNumbers := by
  have hkeeps : enumerationRecord.Keeps fun p =>
      ∀ vs, p.values = some vs → ∀ entry ∈ vs, entry.value.IsFinite := by
    intro p key t p' hp ht hput
    simp only [enumerationRecord] at hput
    split at hput
    · obtain ⟨s, _, rfl⟩ := map_eq_ok.mp hput
      exact hp
    · obtain ⟨type, _, rfl⟩ := map_eq_ok.mp hput
      exact hp
    · obtain ⟨vs, hvs, rfl⟩ := map_eq_ok.mp hput
      intro vs' heq
      cases heq
      exact forall_mem_of_toList (fun t entry ht => isFinite_of_entry ht) ht hvs
    · obtain ⟨b, _, rfl⟩ := map_eq_ok.mp hput
      exact hp
    · obtain ⟨others, _, rfl⟩ := map_eq_ok.mp hput
      exact hp
  obtain ⟨p, hp, hfinish⟩ := hkeeps.decode (by simp [enumerationRecord]) ht h
  simp only [enumerationRecord] at hfinish
  split at hfinish
  · cases hfinish
  · cases hfinish
  · obtain ⟨a, _, rfl⟩ := map_eq_ok.mp hfinish
    intro entry hentry
    cases hvalues : p.values with
    | none => simp [hvalues] at hentry
    | some vs =>
      rw [hvalues] at hentry
      exact hp vs hvalues entry hentry

theorem hasFiniteNumbers_of_metaModel {t : Tree} {m : MetaModel} (ht : t.AllFinite)
    (h : metaModel t = .ok m) : m.HasFiniteNumbers := by
  have hkeeps : metaModelRecord.Keeps fun p =>
      ∀ es, p.enumerations = some es → ∀ e ∈ es, e.HasFiniteNumbers := by
    intro p key t p' hp ht hput
    simp only [metaModelRecord] at hput
    split at hput
    case h_5 =>
      obtain ⟨es, hes, rfl⟩ := map_eq_ok.mp hput
      intro es' heq
      cases heq
      exact forall_mem_of_toList (fun t e ht => hasFiniteNumbers_of_enumeration ht) ht hes
    all_goals
      obtain ⟨x, _, rfl⟩ := map_eq_ok.mp hput
      exact hp
  obtain ⟨p, hp, hfinish⟩ := hkeeps.decodeEither (by simp [metaModelRecord]) ht h
  cases hfinish
  intro e he
  cases hes : p.enumerations with
  | none => simp [hes] at he
  | some es =>
    rw [hes] at he
    exact hp es hes e he

end Decoding

/-- Whatever the document, the numbers that a meta model holds are finite. -/
theorem MetaModel.hasFiniteNumbers_of_parse {input : List Symbol} {m : MetaModel}
    (h : parse input = .ok m) : m.HasFiniteNumbers := by
  rw [parse] at h
  split at h
  · rename_i hdecode
    cases h
    exact Decoding.hasFiniteNumbers_of_metaModel (allFinite_read _ input) hdecode
  · cases h

end ProtocolTypes
