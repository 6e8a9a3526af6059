import Mathlib.Data.List.Nodup
import Mathlib.Logic.Relation
import ProtocolTypes.Proofs.Target.Occurrence

/-!
# ProtocolTypes.Proofs.Target.Containment

Boxing leaves no type of infinite size. The search for the declarations that lead back to an owner
finds exactly those with a path of one or more steps to it (`mem_leadingTo`), so what remains in
place in a record or union does not lead back to it (`boxed_acyclic`).
-/

namespace ProtocolTypes
namespace Target

/-! ## Type declarations of a list -/

/-- The type declarations of a list. -/
def typeDecls (ds : List Decl) : List TypeDecl :=
  ds.filterMap fun
    | .type d => some d
    | .constants _ => none

theorem mem_typeDecls {ds : List Decl} {d : TypeDecl} : d ∈ typeDecls ds ↔ .type d ∈ ds := by
  rw [typeDecls, List.mem_filterMap]
  constructor
  · rintro ⟨_ | _, h, he⟩
    · cases he; exact h
    · cases he
  · exact fun h => ⟨_, h, rfl⟩

/-- No name is declared as a type twice. -/
def DistinctTypes (ds : List Decl) : Prop :=
  ((typeDecls ds).map (·.ident)).Nodup

theorem DistinctTypes.eq {ds : List Decl} (h : DistinctTypes ds) {d e : TypeDecl}
    (hd : .type d ∈ ds) (he : .type e ∈ ds) (hde : d.ident = e.ident) : d = e :=
  List.inj_on_of_nodup_map h (mem_typeDecls.mpr hd) (mem_typeDecls.mpr he) hde

/-- A value of the declaration `owner` can hold a value of the declaration `name` in place. -/
def ContainsByValue (ds : List Decl) (owner name : String) : Prop :=
  ∃ d, .type d ∈ ds ∧ d.ident = owner ∧ ∃ t ∈ d.spec.types, t.Holds name

/-! ## Reachability -/

namespace Containment

def Edge (g : Containment) (a b : String) : Prop :=
  ∃ names, (a, names) ∈ g ∧ b ∈ names

variable {g : Containment}

theorem mem_containing {names : List String} {a : String} :
    a ∈ g.containing names ↔ ∃ b ∈ names, g.Edge a b := by
  simp only [containing, List.mem_map, List.mem_filter, List.any_eq_true, List.contains_eq_mem,
    decide_eq_true_eq]
  constructor
  · rintro ⟨⟨_, contained⟩, ⟨hg, b, hb, hn⟩, rfl⟩
    exact ⟨b, hn, contained, hg, hb⟩
  · rintro ⟨b, hn, contained, hg, hb⟩
    exact ⟨(a, contained), ⟨hg, b, hb, hn⟩, rfl⟩

/-- What one round adds. -/
def discovered (g : Containment) (known : List String) : List String :=
  (g.containing known).filter fun name => !known.contains name

theorem mem_discovered {known : List String} {a : String} :
    a ∈ g.discovered known ↔ a ∈ g.containing known ∧ a ∉ known := by
  simp [discovered]

theorem saturate_succ (rounds : Nat) (known : List String) :
    g.saturate (rounds + 1) known =
      if g.discovered known = [] then known
      else g.saturate rounds (known ++ g.discovered known) := by
  rw [saturate, discovered]
  split <;> rename_i h
  · rw [if_pos h]
  · rw [if_neg h]

theorem subset_saturate (rounds : Nat) (known : List String) :
    known ⊆ g.saturate rounds known := by
  induction rounds generalizing known with
  | zero => exact fun _ h => h
  | succ rounds ih =>
    rw [saturate_succ]
    split
    · exact fun _ h => h
    · exact fun _ h => ih _ (List.mem_append_left _ h)

/-- What holds of the known names and passes to those that contain one holds of all names found. -/
theorem saturate_induction {P : String → Prop} (step : ∀ a b, g.Edge a b → P b → P a)
    {rounds : Nat} {known : List String} (start : ∀ a ∈ known, P a) :
    ∀ a ∈ g.saturate rounds known, P a := by
  induction rounds generalizing known with
  | zero => exact start
  | succ rounds ih =>
    rw [saturate_succ]
    split
    · exact start
    · apply ih
      intro a ha
      rcases List.mem_append.mp ha with ha | ha
      · exact start a ha
      · obtain ⟨b, hb, hab⟩ := mem_containing.mp (mem_discovered.mp ha).1
        exact step a b hab (start b hb)

/-- The declarations that are not known yet. -/
def unknown (g : Containment) (known : List String) : List (String × List String) :=
  g.filter fun p => !known.contains p.1

theorem mem_unknown {known : List String} {p : String × List String} :
    p ∈ g.unknown known ↔ p ∈ g ∧ p.1 ∉ known := by
  simp [unknown]

/-- A round that finds something leaves fewer declarations unknown. -/
theorem unknown_append_lt {known found : List String} {a : String} (hf : a ∈ found)
    (hk : a ∉ known) (hg : ∃ p ∈ g, p.1 = a) :
    (g.unknown (known ++ found)).length < (g.unknown known).length := by
  obtain ⟨p, hp, rfl⟩ := hg
  have hsub : g.unknown (known ++ found) = (g.unknown known).filter fun q => !found.contains q.1 := by
    simp only [unknown, List.filter_filter]
    congr 1
    funext q
    simp [Bool.and_comm]
  rw [hsub]
  exact List.length_filter_lt_length_iff_exists.mpr ⟨p, mem_unknown.mpr ⟨hp, hk⟩, by simpa using hf⟩

/-- With a round for each unknown declaration the search ends in a closed set. -/
theorem containing_saturate_subset {rounds : Nat} {known : List String}
    (h : (g.unknown known).length ≤ rounds) :
    g.containing (g.saturate rounds known) ⊆ g.saturate rounds known := by
  induction rounds generalizing known with
  | zero =>
    intro a ha
    obtain ⟨b, _, names, hg, _⟩ := mem_containing.mp ha
    have hnil : g.unknown known = [] := List.length_eq_zero_iff.mp (Nat.le_zero.mp h)
    by_contra hk
    have hmem : (a, names) ∈ g.unknown known := mem_unknown.mpr ⟨hg, hk⟩
    rw [hnil] at hmem
    cases hmem
  | succ rounds ih =>
    rw [saturate_succ]
    split
    · rename_i hnil
      intro a ha
      by_contra hk
      have hmem : a ∈ g.discovered known := mem_discovered.mpr ⟨ha, hk⟩
      rw [hnil] at hmem
      cases hmem
    · rename_i hne
      apply ih
      obtain ⟨a, ha⟩ := List.exists_mem_of_ne_nil _ hne
      obtain ⟨hc, hk⟩ := mem_discovered.mp ha
      obtain ⟨b, _, names, hg, _⟩ := mem_containing.mp hc
      have hlt := unknown_append_lt ha hk ⟨(a, names), hg, rfl⟩
      omega

theorem mem_leadingTo {a owner : String} :
    a ∈ g.leadingTo owner ↔ Relation.TransGen g.Edge a owner := by
  constructor
  · refine saturate_induction (P := fun a => Relation.TransGen g.Edge a owner)
      (fun a b hab hb => hb.head hab) ?_ a
    intro a ha
    obtain ⟨b, hb, hab⟩ := mem_containing.mp ha
    rw [List.mem_singleton.mp hb] at hab
    exact .single hab
  · intro h
    induction h using Relation.TransGen.head_induction_on with
    | single hab =>
      exact subset_saturate _ _ (mem_containing.mpr ⟨owner, List.mem_singleton_self _, hab⟩)
    | head hab _ ih =>
      exact containing_saturate_subset (List.length_filter_le _ _) (mem_containing.mpr ⟨_, ih, hab⟩)

/-! ## The graph of a list of declarations -/

theorem exists_of_mem_ofDecls {ds : List Decl} {p : String × List String} (h : p ∈ ofDecls ds) :
    ∃ d, .type d ∈ ds ∧ p = (d.ident, d.spec.contained) := by
  induction ds with
  | nil => cases h
  | cons e ds ih =>
    have later : p ∈ ofDecls ds → ∃ d, .type d ∈ e :: ds ∧ p = (d.ident, d.spec.contained) :=
      fun hp => (ih hp).imp fun _ hd => ⟨List.mem_cons_of_mem _ hd.1, hd.2⟩
    cases e with
    | constants b => exact later h
    | type d =>
      rw [ofDecls] at h
      split at h
      · exact later h
      · rcases List.mem_cons.mp h with rfl | h
        · exact ⟨d, List.mem_cons_self, rfl⟩
        · exact later h

theorem mem_ofDecls {ds : List Decl} (hds : DistinctTypes ds) {d : TypeDecl} (h : .type d ∈ ds) :
    (d.ident, d.spec.contained) ∈ ofDecls ds := by
  induction ds with
  | nil => cases h
  | cons e ds ih =>
    cases e with
    | constants b =>
      exact ih hds ((List.mem_cons.mp h).resolve_left nofun)
    | type e =>
      have hnodup : e.ident ∉ (typeDecls ds).map (·.ident) ∧ DistinctTypes ds :=
        List.nodup_cons.mp hds
      have hnone : ds.any (declares e.ident) = false := by
        rw [List.any_eq_false]
        rintro (f | b) hf hd
        · exact hnodup.1 (List.mem_map.mpr ⟨f, mem_typeDecls.mpr hf, by simpa [declares] using hd⟩)
        · cases hd
      rw [ofDecls, hnone]
      rcases List.mem_cons.mp h with hd | hd
      · cases hd; exact List.mem_cons_self
      · exact List.mem_cons_of_mem _ (ih hnodup.2 hd)

theorem edge_ofDecls {ds : List Decl} (hds : DistinctTypes ds) {a b : String} :
    (ofDecls ds).Edge a b ↔ ContainsByValue ds a b := by
  constructor
  · rintro ⟨names, hg, hb⟩
    obtain ⟨d, hd, he⟩ := exists_of_mem_ofDecls hg
    obtain ⟨rfl, rfl⟩ := Prod.mk.inj he
    exact ⟨d, hd, rfl, TypeSpec.mem_contained.mp hb⟩
  · rintro ⟨d, hd, rfl, hb⟩
    exact ⟨d.spec.contained, mem_ofDecls hds hd, TypeSpec.mem_contained.mpr hb⟩

end Containment

/-! ## Boxed declarations -/

/-- A type declaration with the parts that lead back to it on the heap. -/
def TypeDecl.box (g : Containment) (d : TypeDecl) : TypeDecl :=
  { d with spec := d.spec.box (g.leadingTo d.ident) }

theorem TypeDecl.isComposite_box (g : Containment) (d : TypeDecl) :
    (d.box g).spec.isComposite = d.spec.isComposite :=
  TypeSpec.isComposite_box _ d.spec

theorem typeDecls_boxed (ds : List Decl) :
    typeDecls (boxed ds) = (typeDecls ds).map (TypeDecl.box (.ofDecls ds)) := by
  rw [boxed, typeDecls, typeDecls, List.filterMap_map, List.map_filterMap]
  congr 1
  funext e
  cases e <;> rfl

theorem type_mem_boxed {ds : List Decl} {d : TypeDecl} :
    .type d ∈ boxed ds ↔ ∃ e, .type e ∈ ds ∧ e.box (.ofDecls ds) = d := by
  rw [← mem_typeDecls, typeDecls_boxed, List.mem_map]
  simp only [mem_typeDecls]

theorem DistinctTypes.boxed {ds : List Decl} (h : DistinctTypes ds) :
    DistinctTypes (boxed ds) := by
  rw [DistinctTypes, typeDecls_boxed, List.map_map]
  exact h

/-- Boxing adds no containment. -/
theorem ContainsByValue.of_boxed {ds : List Decl} {a b : String}
    (h : ContainsByValue (boxed ds) a b) : ContainsByValue ds a b := by
  obtain ⟨d, hd, rfl, hb⟩ := h
  obtain ⟨e, he, rfl⟩ := type_mem_boxed.mp hd
  refine ⟨e, he, rfl, TypeSpec.mem_contained.mp ?_⟩
  exact TypeSpec.contained_box_subset _ e.spec (TypeSpec.mem_contained.mpr hb)

/-- No record or union of distinct declarations contains itself by value, once they are boxed. -/
theorem boxed_acyclic {ds : List Decl} (hds : DistinctTypes ds) {d : TypeDecl}
    (hd : .type d ∈ boxed ds) (hs : d.spec.isComposite) :
    ¬ Relation.TransGen (ContainsByValue (boxed ds)) d.ident d.ident := by
  intro h
  obtain ⟨n, ⟨d', hd', hid, ht⟩, hback⟩ := Relation.TransGen.head'_iff.mp h
  obtain rfl := hds.boxed.eq hd' hd hid
  obtain ⟨e, he, rfl⟩ := type_mem_boxed.mp hd
  have hs' : e.spec.isComposite := by rwa [TypeDecl.isComposite_box] at hs
  -- a part that stays in place does not lead back to the declaration
  obtain ⟨hn, hfree⟩ := (TypeSpec.mem_contained_box hs').mp (TypeSpec.mem_contained.mpr ht)
  have hedge : ContainsByValue ds e.ident n := ⟨e, he, rfl, TypeSpec.mem_contained.mp hn⟩
  have hpath : Relation.ReflTransGen (ContainsByValue ds) n e.ident :=
    Relation.ReflTransGen.mono (fun _ _ => ContainsByValue.of_boxed) _ _ hback
  have hcycle : Relation.TransGen (ContainsByValue ds) n e.ident := by
    rcases Relation.reflTransGen_iff_eq_or_transGen.mp hpath with heq | hpath
    · rw [← heq] at hedge ⊢
      exact .single hedge
    · exact hpath
  have hfound : Relation.TransGen (Containment.Edge (.ofDecls ds)) n e.ident :=
    Relation.TransGen.mono (fun _ _ => (Containment.edge_ofDecls hds).mpr) _ _ hcycle
  exact hfree (Containment.mem_leadingTo.mpr hfound)

end Target
end ProtocolTypes
