import ProtocolTypes.Proofs.Model.Declared
import ProtocolTypes.Proofs.Traversal

/-!
# ProtocolTypes.Proofs.Model.Inheritance

Successful flattening. The properties found depend neither on the structures passed on the way nor
on the fuel (`flattenFrom_weaken`); they are those of the bases and the ones that a record with bases
keeps (`exists_parts_of_flattenFrom`).
-/

namespace ProtocolTypes

namespace MetaModel

variable {m : MetaModel}

/-! ## Parents -/

/-- The structure that an entry refers to. -/
def structure? (m : MetaModel) (t : TypeExpr) : Option Structure :=
  match t.reference?.bind m.find? with
  | some (.struct p) => some p
  | _ => none

theorem structure?_eq_some {t : TypeExpr} {p : Structure} (h : m.structure? t = some p) :
    m.find? p.name = some (.struct p) := by
  rw [structure?] at h
  split at h
  · rename_i q hq
    cases h
    obtain ⟨name, _, hfind⟩ := Option.bind_eq_some_iff.mp hq
    have hname : p.name = name := find?_name hfind
    rw [hname, hfind]
  · cases h

theorem parent_eq_ok {s p : Structure} {relation : Relation} {position : Nat} {t : TypeExpr} :
    m.parent s relation position t = .ok p ↔ m.structure? t = some p := by
  rw [parent, structure?]
  cases t.reference? with
  | none => simp
  | some name =>
    simp only [Option.bind_some, resolve]
    cases m.find? name with
    | none => simp
    | some d => cases d <;> simp

theorem visitParents_eq_ok {α : Type} {visit : Structure → Except ReferenceError α}
    {s : Structure} {relation : Relation} {xs : List α} :
    m.visitParents visit s relation = .ok xs ↔
      List.Forall₂ (fun t x => ∃ p, m.structure? t = some p ∧ visit p = .ok x)
        (s.entries relation) xs := by
  rw [visitParents, mapM_eq_ok_iff]
  simp only [bind_eq_ok, parent_eq_ok]
  exact forall₂_zipIdx (R := fun t x => ∃ p, m.structure? t = some p ∧ visit p = .ok x) 0

theorem visitParents_mono {α : Type} {visit visit' : Structure → Except ReferenceError α}
    (hvisit : ∀ p x, visit p = .ok x → visit' p = .ok x) {s : Structure} {relation : Relation}
    {xs : List α} (h : m.visitParents visit s relation = .ok xs) :
    m.visitParents visit' s relation = .ok xs := by
  rw [visitParents_eq_ok] at h ⊢
  exact h.imp fun _ _ ⟨p, hp, hx⟩ => ⟨p, hp, hvisit p _ hx⟩

theorem baseNames_eq_ok {s : Structure} {names : List String} :
    m.baseNames s = .ok names ↔
      List.Forall₂ (fun t name => ∃ p, m.structure? t = some p ∧ p.name = name) s.bases names := by
  rw [baseNames, visitParents_eq_ok]
  simp only [Except.ok.injEq]
  exact Iff.rfl

theorem find?_of_mem_baseNames {s : Structure} {names : List String}
    (h : m.baseNames s = .ok names) {name : String} (hn : name ∈ names) :
    ∃ p, m.find? name = some (.struct p) := by
  obtain ⟨t, _, p, hp, rfl⟩ := exists_of_forall₂_right (baseNames_eq_ok.mp h) hn
  exact ⟨p, structure?_eq_some hp⟩

/-- Entries that name structures have names, and the names lead to the same structures. -/
theorem exists_names_of_entries {α : Type} {R : Structure → α → Prop} {ts : List TypeExpr}
    {xs : List α} (h : List.Forall₂ (fun t x => ∃ p, m.structure? t = some p ∧ R p x) ts xs) :
    ∃ names,
      List.Forall₂ (fun t name => ∃ p, m.structure? t = some p ∧ p.name = name) ts names ∧
      List.Forall₂ (fun name x => ∃ p, m.find? name = some (.struct p) ∧ R p x) names xs := by
  induction h with
  | nil => exact ⟨[], .nil, .nil⟩
  | cons hx _ ih =>
    obtain ⟨p, hp, hR⟩ := hx
    obtain ⟨names, hts, hxs⟩ := ih
    exact ⟨p.name :: names, .cons ⟨p, hp, rfl⟩ hts, .cons ⟨p, structure?_eq_some hp, hR⟩ hxs⟩

/-! ## Flattening -/

theorem flattenFrom_succ_eq_ok {fuel : Nat} {chain : List String} {s : Structure}
    {ps : List OwnedProperty} :
    m.flattenFrom (fuel + 1) chain s = .ok ps ↔
      s.name ∉ chain ∧ ∃ bases mixins,
        m.visitParents (m.flattenFrom fuel (chain ++ [s.name])) s .base = .ok bases ∧
        m.visitParents (m.flattenFrom fuel (chain ++ [s.name])) s .mixin = .ok mixins ∧
        ps = bases.flatten ++ mixins.flatten ++ s.ownProperties := by
  rw [flattenFrom]
  by_cases hmem : s.name ∈ chain
  · simp [hmem]
  · simp only [List.contains_eq_mem, hmem, decide_false, Bool.false_eq_true, if_false, bind_eq_ok,
      pure_eq_ok, not_false_eq_true, true_and]
    constructor
    · rintro ⟨bases, hb, mixins, hm, rfl⟩
      exact ⟨bases, mixins, hb, hm, rfl⟩
    · rintro ⟨bases, mixins, hb, hm, rfl⟩
      exact ⟨bases, hb, mixins, hm, rfl⟩

/-- More fuel and fewer structures on the way give the same properties. -/
theorem flattenFrom_weaken {fuel fuel' : Nat} (hle : fuel ≤ fuel') {chain chain' : List String}
    (hsub : chain' ⊆ chain) {s : Structure} {ps : List OwnedProperty}
    (h : m.flattenFrom fuel chain s = .ok ps) : m.flattenFrom fuel' chain' s = .ok ps := by
  induction fuel generalizing fuel' chain chain' s ps with
  | zero => cases h
  | succ fuel ih =>
    obtain ⟨k, rfl⟩ : ∃ k, fuel' = k + 1 := ⟨fuel' - 1, by omega⟩
    rw [flattenFrom_succ_eq_ok] at h ⊢
    obtain ⟨hnot, bases, mixins, hb, hm, rfl⟩ := h
    have hsub' : chain' ++ [s.name] ⊆ chain ++ [s.name] :=
      List.append_subset.mpr ⟨fun _ h => List.mem_append_left _ (hsub h),
        List.subset_append_right _ _⟩
    have hvisit : ∀ p ps, m.flattenFrom fuel (chain ++ [s.name]) p = .ok ps →
        m.flattenFrom k (chain' ++ [s.name]) p = .ok ps :=
      fun p ps hp => ih (by omega) hsub' hp
    exact ⟨fun hmem => hnot (hsub hmem), bases, mixins, visitParents_mono hvisit hb,
      visitParents_mono hvisit hm, rfl⟩

/-- All properties are those of the bases, by their names, and those a record with bases keeps. -/
theorem exists_parts_of_flattenFrom {fuel : Nat} (hle : fuel ≤ m.chainBound)
    {chain : List String} {s : Structure} {ps : List OwnedProperty}
    (h : m.flattenFrom (fuel + 1) chain s = .ok ps) :
    ∃ names inherited mixed, m.baseNames s = .ok names ∧ m.flattenMixins s = .ok mixed ∧
      List.Forall₂ (fun name qs => ∃ p, m.find? name = some (.struct p) ∧
        m.flattenFrom fuel (chain ++ [s.name]) p = .ok qs) names inherited ∧
      ps = inherited.flatten ++ (mixed ++ s.ownProperties) := by
  obtain ⟨_, bases, mixins, hb, hm, rfl⟩ := flattenFrom_succ_eq_ok.mp h
  obtain ⟨names, hnames, hbases⟩ := exists_names_of_entries (visitParents_eq_ok.mp hb)
  have hmixins : m.visitParents (m.flattenFrom m.chainBound [s.name]) s .mixin = .ok mixins :=
    visitParents_mono (fun _ _ => flattenFrom_weaken hle (List.subset_append_right _ _)) hm
  refine ⟨names, bases, mixins.flatten, baseNames_eq_ok.mpr hnames, ?_, hbases,
    List.append_assoc _ _ _⟩
  rw [flattenMixins, hmixins]
  rfl

end MetaModel
end ProtocolTypes
