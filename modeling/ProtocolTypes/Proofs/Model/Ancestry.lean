import Mathlib.Data.List.Perm.Subperm
import Mathlib.Logic.Relation
import ProtocolTypes.Proofs.Model.Inheritance

/-!
# ProtocolTypes.Proofs.Model.Ancestry

When flattening succeeds. A structure inherits from those that its bases and mixins refer to
(`Inherits`); its ancestry is sound when every entry on the way refers to a structure and no
structure on the way inherits from itself. Flattening succeeds on sound ancestries only
(`soundAncestry_of_flatten`) and on all of them, since its bound on chains is never reached
(`exists_flattenFrom`). Every property found belongs to the structure or to its ancestry
(`ancestor_of_mem_flattenFrom`).
-/

open Relation (ReflTransGen TransGen)

namespace ProtocolTypes
namespace MetaModel

/-- `t` refers to `p`, and `p` is what its name stands for. -/
def RefersTo (m : MetaModel) (t : TypeExpr) (p : Structure) : Prop :=
  t = .reference p.name ∧ m.Indexes (.struct p)

/-- An entry of the bases or mixins of `s` refers to `p`. -/
def Inherits (m : MetaModel) (s p : Structure) : Prop :=
  ∃ t ∈ s.bases ++ s.mixins, m.RefersTo t p

/-- The structure and all that it inherits from refer to structures only, without a cycle. -/
structure SoundAncestry (m : MetaModel) (s : Structure) : Prop where
  refers : ∀ p, ReflTransGen m.Inherits s p →
    ∀ t ∈ p.bases ++ p.mixins, ∃ q, m.RefersTo t q
  acyclic : ∀ p, ReflTransGen m.Inherits s p → ¬ TransGen m.Inherits p p

variable {m : MetaModel} {s p : Structure}

theorem mem_entries_iff {t : TypeExpr} :
    (∃ relation, t ∈ s.entries relation) ↔ t ∈ s.bases ++ s.mixins := by
  rw [List.mem_append]
  constructor
  · rintro ⟨_ | _, ht⟩
    · exact .inl ht
    · exact .inr ht
  · rintro (ht | ht)
    · exact ⟨.base, ht⟩
    · exact ⟨.mixin, ht⟩

theorem SoundAncestry.of_inherits (h : m.SoundAncestry s) (hp : m.Inherits s p) :
    m.SoundAncestry p where
  refers q hq := h.refers q (hq.head hp)
  acyclic q hq := h.acyclic q (hq.head hp)

theorem structure?_iff_refersTo {t : TypeExpr} : m.structure? t = some p ↔ m.RefersTo t p := by
  constructor
  · intro h
    have hfind := structure?_eq_some h
    refine ⟨?_, indexes_iff.mpr (mem_primaries.mpr hfind)⟩
    cases t with
    | reference name =>
      rw [structure?] at h
      split at h
      · rename_i q hq
        have hname : q.name = name := find?_name hq
        cases h
        rw [hname]
      · cases h
    | _ => cases h
  · rintro ⟨rfl, hlast⟩
    have hfind : m.find? p.name = some (.struct p) := mem_primaries.mp (indexes_iff.mp hlast)
    simp [structure?, TypeExpr.reference?, hfind]

theorem inherits_iff :
    m.Inherits s p ↔ ∃ relation, ∃ t ∈ s.entries relation, m.structure? t = some p := by
  simp only [Inherits, structure?_iff_refersTo, ← mem_entries_iff]
  tauto

theorem find?_of_inherits (h : m.Inherits s p) : m.find? p.name = some (.struct p) := by
  obtain ⟨_, _, _, hstruct⟩ := inherits_iff.mp h
  exact structure?_eq_some hstruct

/-! ## Owners of properties -/

/-- A property belongs to the structure itself or to one that it inherits from. -/
theorem ancestor_of_mem_flattenFrom {fuel : Nat} {chain : List String} {ps : List OwnedProperty}
    (h : m.flattenFrom fuel chain s = .ok ps) {q : OwnedProperty} (hq : q ∈ ps) :
    ∃ a, ReflTransGen m.Inherits s a ∧ q ∈ a.ownProperties := by
  induction fuel generalizing chain s ps with
  | zero => cases h
  | succ fuel ih =>
    obtain ⟨_, bases, mixins, hb, hm, rfl⟩ := flattenFrom_succ_eq_ok.mp h
    have inherited : ∀ {relation : Relation} {xs : List (List OwnedProperty)},
        m.visitParents (m.flattenFrom fuel (chain ++ [s.name])) s relation = .ok xs →
        q ∈ xs.flatten → ∃ a, ReflTransGen m.Inherits s a ∧ q ∈ a.ownProperties := by
      intro relation xs hxs hmem
      obtain ⟨qs, hqs, hq⟩ := List.mem_flatten.mp hmem
      obtain ⟨t, ht, p, hp, hflat⟩ := exists_of_forall₂_right (visitParents_eq_ok.mp hxs) hqs
      obtain ⟨a, hpa, hown⟩ := ih hflat hq
      exact ⟨a, hpa.head (inherits_iff.mpr ⟨relation, t, ht, hp⟩), hown⟩
    rcases List.mem_append.mp hq with hq | hq
    · rcases List.mem_append.mp hq with hq | hq
      · exact inherited hb hq
      · exact inherited hm hq
    · exact ⟨s, .refl, hq⟩

/-- Structures that properties are inherited from are the declarations of their names. -/
theorem owner_of_mem_flattenFrom {fuel : Nat} {chain : List String} {ps : List OwnedProperty}
    (h : m.flattenFrom fuel chain s = .ok ps) {q : OwnedProperty} (hq : q ∈ ps) :
    ∃ a, (a = s ∨ m.find? a.name = some (.struct a)) ∧ q ∈ a.ownProperties := by
  obtain ⟨a, hsa, hown⟩ := ancestor_of_mem_flattenFrom h hq
  refine ⟨a, ?_, hown⟩
  cases hsa with
  | refl => exact .inl rfl
  | tail _ ha => exact .inr (find?_of_inherits ha)

/-! ## Ancestries that can be flattened -/

theorem exists_visitParents_iff {α : Type} {visit : Structure → Except ReferenceError α}
    {relation : Relation} :
    (∃ xs, m.visitParents visit s relation = .ok xs) ↔
      ∀ t ∈ s.entries relation, ∃ p, m.structure? t = some p ∧ ∃ x, visit p = .ok x := by
  constructor
  · rintro ⟨xs, hxs⟩ t ht
    obtain ⟨x, _, p, hp, hx⟩ := exists_of_forall₂ (visitParents_eq_ok.mp hxs) ht
    exact ⟨p, hp, x, hx⟩
  · intro h
    have hitems : ∀ e ∈ (s.entries relation).zipIdx,
        ∃ x, (m.parent s relation e.2 e.1 >>= visit) = .ok x := by
      rintro ⟨t, position⟩ he
      obtain ⟨p, hp, x, hx⟩ := h t (List.fst_mem_of_mem_zipIdx he)
      exact ⟨x, bind_eq_ok.mpr ⟨p, parent_eq_ok.mpr hp, hx⟩⟩
    exact exists_mapM_eq_ok_iff.mpr hitems

theorem visitParents_congr {α : Type} {visit visit' : Structure → Except ReferenceError α}
    {relation : Relation} (h : ∀ p, m.Inherits s p → visit p = visit' p) :
    m.visitParents visit s relation = m.visitParents visit' s relation := by
  refine mapM_congr_mem ?_
  rintro ⟨t, position⟩ hmem
  change (m.parent s relation position t >>= visit) = (m.parent s relation position t >>= visit')
  cases hparent : m.parent s relation position t with
  | error e => rfl
  | ok p =>
    refine h p (inherits_iff.mpr ⟨relation, t, List.fst_mem_of_mem_zipIdx hmem, ?_⟩)
    exact parent_eq_ok.mp hparent

/-- Flattening a structure flattens what its entries refer to, below it on the chain. -/
theorem flattenFrom_entries {fuel : Nat} {chain : List String} {ps : List OwnedProperty}
    (h : m.flattenFrom fuel chain s = .ok ps) (relation : Relation) :
    s.name ∉ chain ∧ ∀ t ∈ s.entries relation, ∃ p, m.structure? t = some p ∧
      ∃ fuel' qs, m.flattenFrom fuel' (chain ++ [s.name]) p = .ok qs := by
  cases fuel with
  | zero => cases h
  | succ fuel =>
    obtain ⟨hnot, bases, mixins, hb, hm, _⟩ := flattenFrom_succ_eq_ok.mp h
    have hvisit : ∃ xs,
        m.visitParents (m.flattenFrom fuel (chain ++ [s.name])) s relation = .ok xs := by
      cases relation with
      | base => exact ⟨bases, hb⟩
      | mixin => exact ⟨mixins, hm⟩
    refine ⟨hnot, fun t ht => ?_⟩
    obtain ⟨p, hp, qs, hqs⟩ := exists_visitParents_iff.mp hvisit t ht
    exact ⟨p, hp, fuel, qs, hqs⟩

/-- Every structure on the way down is flattened, with the names passed since on its chain. -/
theorem flattenFrom_descend (hsp : TransGen m.Inherits s p) {fuel : Nat} {chain : List String}
    {ps : List OwnedProperty} (h : m.flattenFrom fuel chain s = .ok ps) :
    ∃ fuel' chain' qs, chain ++ [s.name] ⊆ chain' ∧ m.flattenFrom fuel' chain' p = .ok qs := by
  induction hsp with
  | single hp =>
    obtain ⟨relation, t, ht, hstruct⟩ := inherits_iff.mp hp
    obtain ⟨q, hq, fuel', qs, hqs⟩ := (flattenFrom_entries h relation).2 t ht
    rw [hstruct] at hq
    cases hq
    exact ⟨fuel', _, qs, List.Subset.refl _, hqs⟩
  | tail _ hp ih =>
    obtain ⟨fuel₁, chain₁, qs₁, hsub, h₁⟩ := ih
    obtain ⟨relation, t, ht, hstruct⟩ := inherits_iff.mp hp
    obtain ⟨q, hq, fuel', qs, hqs⟩ := (flattenFrom_entries h₁ relation).2 t ht
    rw [hstruct] at hq
    cases hq
    exact ⟨fuel', _, qs, fun name hname => List.mem_append_left _ (hsub hname), hqs⟩

theorem soundAncestry_of_flatten {fuel : Nat} {chain : List String} {ps : List OwnedProperty}
    (h : m.flattenFrom fuel chain s = .ok ps) : m.SoundAncestry s := by
  have hreached : ∀ p, ReflTransGen m.Inherits s p →
      ∃ fuel' chain' qs, m.flattenFrom fuel' chain' p = .ok qs := by
    intro p hp
    rcases Relation.reflTransGen_iff_eq_or_transGen.mp hp with rfl | hp
    · exact ⟨fuel, chain, ps, h⟩
    · obtain ⟨fuel', chain', qs, _, hqs⟩ := flattenFrom_descend hp h
      exact ⟨fuel', chain', qs, hqs⟩
  refine ⟨fun p hp t ht => ?refers, fun p hp hcycle => ?acyclic⟩
  case refers =>
    obtain ⟨_, _, _, hqs⟩ := hreached p hp
    obtain ⟨relation, ht⟩ := mem_entries_iff.mpr ht
    obtain ⟨q, hq, _⟩ := (flattenFrom_entries hqs relation).2 t ht
    exact ⟨q, structure?_iff_refersTo.mp hq⟩
  case acyclic =>
    obtain ⟨_, _, _, hqs⟩ := hreached p hp
    -- the cycle leads back to `p` with `p` on the chain
    obtain ⟨_, chain', _, hsub, hagain⟩ := flattenFrom_descend hcycle hqs
    exact (flattenFrom_entries hagain .base).1 (hsub (by simp))

/-! ## Flattening sound ancestries -/

theorem mem_structures_of_find? (h : m.find? s.name = some (.struct s)) :
    s.name ∈ m.structures.map (·.name) := by
  have hmem := (Declared.last?_eq_some h).1
  simp only [declarations, List.mem_append, List.mem_map, Declared.struct.injEq, reduceCtorEq,
    and_false, exists_false, or_false, exists_eq_right] at hmem
  exact List.mem_map.mpr ⟨s, hmem, rfl⟩

/-- A chain of structures that lead to `s`, each passed once. -/
structure LeadsTo (m : MetaModel) (chain : List String) (s : Structure) : Prop where
  distinct : chain.Nodup
  structures : chain ⊆ m.structures.map (·.name)
  inherits : ∀ name ∈ chain, ∃ a, m.find? name = some (.struct a) ∧ TransGen m.Inherits a s

namespace LeadsTo

variable {chain : List String}

theorem nil (m : MetaModel) (s : Structure) : m.LeadsTo [] s where
  distinct := List.nodup_nil
  structures := List.nil_subset _
  inherits _ h := absurd h List.not_mem_nil

theorem length_le (h : m.LeadsTo chain s) : chain.length ≤ m.structures.length := by
  have hle := (List.subperm_of_subset h.distinct h.structures).length_le
  rwa [List.length_map] at hle

/-- A structure that does not inherit from itself was not passed before. -/
theorem name_not_mem (h : m.LeadsTo chain s) (hs : m.find? s.name = some (.struct s))
    (hacyclic : ¬ TransGen m.Inherits s s) : s.name ∉ chain := by
  intro hmem
  obtain ⟨a, ha, has⟩ := h.inherits s.name hmem
  rw [hs] at ha
  cases ha
  exact hacyclic has

theorem snoc (h : m.LeadsTo chain s) (hs : m.find? s.name = some (.struct s))
    (hnot : s.name ∉ chain) (hp : m.Inherits s p) : m.LeadsTo (chain ++ [s.name]) p where
  distinct := by
    rw [List.nodup_append]
    refine ⟨h.distinct, List.nodup_singleton _, ?_⟩
    intro a ha b hb hab
    rw [List.mem_singleton.mp hb] at hab
    exact hnot (hab ▸ ha)
  structures := by
    intro name hname
    rcases List.mem_append.mp hname with hname | hname
    · exact h.structures hname
    · rw [List.mem_singleton.mp hname]
      exact mem_structures_of_find? hs
  inherits := by
    intro name hname
    rcases List.mem_append.mp hname with hname | hname
    · obtain ⟨a, ha, has⟩ := h.inherits name hname
      exact ⟨a, ha, has.tail hp⟩
    · rw [List.mem_singleton.mp hname]
      exact ⟨s, hs, .single hp⟩

end LeadsTo

/-- There are fewer structures on a chain than the fuel allows, so it does not run out. -/
theorem exists_flattenFrom {fuel : Nat} {chain : List String}
    (hs : m.find? s.name = some (.struct s)) (hsound : m.SoundAncestry s)
    (hchain : m.LeadsTo chain s) (hfuel : m.structures.length < fuel + chain.length) :
    ∃ ps, m.flattenFrom fuel chain s = .ok ps := by
  induction fuel generalizing chain s with
  | zero =>
    have hle := hchain.length_le
    omega
  | succ fuel ih =>
    have hnot := hchain.name_not_mem hs (hsound.acyclic s .refl)
    have hparents : ∀ relation, ∃ xs,
        m.visitParents (m.flattenFrom fuel (chain ++ [s.name])) s relation = .ok xs := by
      intro relation
      rw [exists_visitParents_iff]
      intro t ht
      obtain ⟨p, hp⟩ := hsound.refers s .refl t (mem_entries_iff.mp ⟨relation, ht⟩)
      have hstruct := structure?_iff_refersTo.mpr hp
      have hinherits : m.Inherits s p := inherits_iff.mpr ⟨relation, t, ht, hstruct⟩
      have hlen : m.structures.length < fuel + (chain ++ [s.name]).length := by
        simp only [List.length_append, List.length_singleton]
        omega
      exact ⟨p, hstruct, ih (structure?_eq_some hstruct) (hsound.of_inherits hinherits)
        (hchain.snoc hs hnot hinherits) hlen⟩
    obtain ⟨bases, hb⟩ := hparents .base
    obtain ⟨mixins, hm⟩ := hparents .mixin
    exact ⟨_, flattenFrom_succ_eq_ok.mpr ⟨hnot, bases, mixins, hb, hm, rfl⟩⟩

/-- The properties of a declared structure can be listed exactly when its ancestry is sound. -/
theorem exists_flatten_iff (hs : m.find? s.name = some (.struct s)) :
    (∃ ps, m.flatten s = .ok ps) ↔ m.SoundAncestry s := by
  constructor
  · rintro ⟨ps, h⟩
    exact soundAncestry_of_flatten h
  · intro h
    refine exists_flattenFrom hs h (.nil m s) ?_
    simp only [chainBound, List.length_nil]
    omega

end MetaModel
end ProtocolTypes
