import Mathlib.Data.List.Chain
import ProtocolTypes.Proofs.Model.Ancestry

/-!
# ProtocolTypes.Proofs.Model.Lineage

What flattening a structure comes to.

* `Flattens` is flattening without a bound on how far it goes. It ends, and the bound of `flatten`
  is never reached (`flattens_flattenFrom`), so both have the same result.
* `AllProperties` says which properties a structure has. Flattening finds exactly these
  (`flatten_eq_ok_iff`).
* A circle that is reported is there: the path leads from the structure step by step to one that is
  on it already (`Flattens.leadsBack`).

`lineage_law` puts this together.
-/

open Relation (ReflTransGen TransGen)

namespace ProtocolTypes
namespace MetaModel

variable {m : MetaModel} {s p start : Structure}

/-! ## Flattening without a bound -/

/-- The properties of a structure from those that `visit` finds for its bases and mixins. -/
def gather (m : MetaModel) (visit : Structure → Except ReferenceError (List OwnedProperty))
    (s : Structure) : Except ReferenceError (List OwnedProperty) := do
  let bases ← m.visitParents visit s .base
  let mixins ← m.visitParents visit s .mixin
  return bases.flatten ++ mixins.flatten ++ s.ownProperties

/-- Flattening `s` behind the structures of `chain` ends with a result. A structure of the chain
ends it at once, any other one when it has ended for the bases and mixins. -/
inductive Flattens (m : MetaModel) :
    List String → Structure → Except ReferenceError (List OwnedProperty) → Prop where
  | circular {chain : List String} {s : Structure} : s.name ∈ chain →
      Flattens m chain s (.error (.circular (chain ++ [s.name])))
  | parents {chain : List String} {s : Structure}
      {visit : Structure → Except ReferenceError (List OwnedProperty)} : s.name ∉ chain →
      (∀ p, m.Inherits s p → Flattens m (chain ++ [s.name]) p (visit p)) →
      Flattens m chain s (m.gather visit s)

theorem gather_congr {visit visit' : Structure → Except ReferenceError (List OwnedProperty)}
    (h : ∀ p, m.Inherits s p → visit p = visit' p) : m.gather visit s = m.gather visit' s := by
  rw [gather, gather, visitParents_congr h, visitParents_congr h]

theorem Flattens.unique {chain : List String} {x y : Except ReferenceError (List OwnedProperty)}
    (hx : m.Flattens chain s x) (hy : m.Flattens chain s y) : x = y := by
  induction hx generalizing y with
  | circular hmem =>
    cases hy with
    | circular _ => rfl
    | parents hnot _ => exact absurd hmem hnot
  | parents hnot _ ih =>
    cases hy with
    | circular hmem => exact absurd hmem hnot
    | parents _ hvisit => exact gather_congr fun p hp => ih p hp (hvisit p hp)

theorem flattenFrom_succ (fuel : Nat) (chain : List String) (s : Structure) :
    m.flattenFrom (fuel + 1) chain s =
      if s.name ∈ chain then .error (.circular (chain ++ [s.name]))
      else m.gather (m.flattenFrom fuel (chain ++ [s.name])) s := by
  simp only [flattenFrom, List.contains_eq_mem, decide_eq_true_eq]
  rfl

/-- A chain is shorter than the bound, so flattening with the bound is flattening. -/
theorem flattens_flattenFrom {fuel : Nat} {chain : List String}
    (hs : m.find? s.name = some (.struct s)) (hchain : m.LeadsTo chain s)
    (hfuel : m.structures.length < fuel + chain.length) :
    m.Flattens chain s (m.flattenFrom fuel chain s) := by
  induction fuel generalizing chain s with
  | zero =>
    have hle := hchain.length_le
    omega
  | succ fuel ih =>
    rw [flattenFrom_succ]
    by_cases hmem : s.name ∈ chain
    · rw [if_pos hmem]
      exact .circular hmem
    · rw [if_neg hmem]
      refine .parents hmem fun p hp => ?_
      refine ih (find?_of_inherits hp) (hchain.snoc hs hmem hp) ?_
      rw [List.length_append, List.length_singleton]
      omega

theorem flattens_iff (hs : m.find? s.name = some (.struct s))
    {x : Except ReferenceError (List OwnedProperty)} : m.Flattens [] s x ↔ m.flatten s = x := by
  have hflattens : m.Flattens [] s (m.flatten s) := by
    refine flattens_flattenFrom hs (.nil m s) ?_
    rw [chainBound, List.length_nil]
    omega
  constructor
  · exact hflattens.unique
  · rintro rfl
    exact hflattens

/-! ## The properties of a structure -/

/-- `ps` are all properties of `s`: those of the structures that its bases refer to, those of the
ones that its mixins refer to, and its own. Each is listed as often as it is met. -/
inductive AllProperties (m : MetaModel) : Structure → List OwnedProperty → Prop where
  | intro {s : Structure} {bases mixins : List Structure}
      {properties : Structure → List OwnedProperty} :
      List.Forall₂ m.RefersTo s.bases bases → List.Forall₂ m.RefersTo s.mixins mixins →
      (∀ p, m.Inherits s p → AllProperties m p (properties p)) →
      AllProperties m s (bases.flatMap properties ++ mixins.flatMap properties ++ s.ownProperties)

theorem RefersTo.unique {t : TypeExpr} {p q : Structure} (hp : m.RefersTo t p)
    (hq : m.RefersTo t q) : p = q := by
  rw [← structure?_iff_refersTo] at hp hq
  rw [hp] at hq
  exact Option.some.inj hq

theorem eq_of_refersTo {ts : List TypeExpr} {ps qs : List Structure}
    (hp : List.Forall₂ m.RefersTo ts ps) (hq : List.Forall₂ m.RefersTo ts qs) : ps = qs := by
  induction hp generalizing qs with
  | nil =>
    cases hq
    rfl
  | cons hp _ ih =>
    cases hq with
    | cons hq hqs => rw [hp.unique hq, ih hqs]

theorem inherits_of_mem (relation : Relation) {parents : List Structure}
    (h : List.Forall₂ m.RefersTo (s.entries relation) parents) (hp : p ∈ parents) :
    m.Inherits s p := by
  obtain ⟨t, ht, hrefers⟩ := exists_of_forall₂_right h hp
  exact ⟨t, mem_entries_iff.mp ⟨relation, ht⟩, hrefers⟩

/-- Entries that were visited refer to structures, each of which was visited. -/
theorem exists_parents_of_visitParents {α : Type} {visit : Structure → Except ReferenceError α}
    {relation : Relation} {xs : List α} (h : m.visitParents visit s relation = .ok xs) :
    ∃ parents, List.Forall₂ m.RefersTo (s.entries relation) parents ∧
      List.Forall₂ (fun p x => visit p = .ok x) parents xs := by
  rw [visitParents_eq_ok] at h
  generalize s.entries relation = ts at h ⊢
  induction h with
  | nil => exact ⟨[], .nil, .nil⟩
  | cons hx _ ih =>
    obtain ⟨p, hp, hvisit⟩ := hx
    obtain ⟨parents, hrefers, hvisits⟩ := ih
    exact ⟨p :: parents, .cons (structure?_iff_refersTo.mp hp) hrefers, .cons hvisit hvisits⟩

namespace AllProperties

variable {ps qs : List OwnedProperty}

theorem unique (hp : m.AllProperties s ps) (hq : m.AllProperties s qs) : ps = qs := by
  induction hp generalizing qs with
  | @intro s bases mixins properties hbases hmixins _ ih =>
    cases hq with
    | @intro _ bases' mixins' properties' hbases' hmixins' hparents' =>
      obtain rfl := eq_of_refersTo hbases hbases'
      obtain rfl := eq_of_refersTo hmixins hmixins'
      have hsame : ∀ p, m.Inherits s p → properties p = properties' p :=
        fun p hp => ih p hp (hparents' p hp)
      rw [List.flatMap_congr fun p hp => hsame p (inherits_of_mem .base hbases hp),
        List.flatMap_congr fun p hp => hsame p (inherits_of_mem .mixin hmixins hp)]

theorem of_inherits (h : m.AllProperties s ps) (hp : m.Inherits s p) :
    ∃ qs, m.AllProperties p qs := by
  cases h with
  | intro _ _ hparents => exact ⟨_, hparents p hp⟩

theorem of_reflTransGen (h : m.AllProperties s ps) (hsp : ReflTransGen m.Inherits s p) :
    ∃ qs, m.AllProperties p qs := by
  induction hsp with
  | refl => exact ⟨ps, h⟩
  | tail _ hp ih =>
    obtain ⟨_, hqs⟩ := ih
    exact hqs.of_inherits hp

theorem refers (h : m.AllProperties s ps) {t : TypeExpr} (ht : t ∈ s.bases ++ s.mixins) :
    ∃ p, m.RefersTo t p := by
  cases h with
  | intro hbases hmixins _ =>
    rcases List.mem_append.mp ht with ht | ht
    · obtain ⟨p, _, hp⟩ := exists_of_forall₂ hbases ht
      exact ⟨p, hp⟩
    · obtain ⟨p, _, hp⟩ := exists_of_forall₂ hmixins ht
      exact ⟨p, hp⟩

/-- What has all its properties listed is no part of a circle: a circle could be turned to start at
any structure on it. -/
theorem acyclic (h : m.AllProperties s ps) : ¬ TransGen m.Inherits s s := by
  induction h with
  | @intro s _ _ _ _ _ _ ih =>
    intro hcycle
    obtain ⟨p, hp, hback⟩ := TransGen.head'_iff.mp hcycle
    exact ih p hp (TransGen.tail' hback hp)

theorem soundAncestry (h : m.AllProperties s ps) : m.SoundAncestry s where
  refers p hsp t ht := by
    obtain ⟨_, hp⟩ := h.of_reflTransGen hsp
    exact hp.refers ht
  acyclic p hsp := by
    obtain ⟨_, hp⟩ := h.of_reflTransGen hsp
    exact hp.acyclic

/-- What is found for the bases and mixins makes up all properties. -/
theorem of_gather {visit : Structure → Except ReferenceError (List OwnedProperty)}
    (h : m.gather visit s = .ok ps)
    (hvisit : ∀ p qs, visit p = .ok qs → m.AllProperties p qs) : m.AllProperties s ps := by
  obtain ⟨_, hbases, _, hmixins, rfl⟩ : ∃ xs, m.visitParents visit s .base = .ok xs ∧
      ∃ ys, m.visitParents visit s .mixin = .ok ys ∧
        xs.flatten ++ ys.flatten ++ s.ownProperties = ps := by
    simpa only [gather, bind_eq_ok, pure_eq_ok] using h
  have hparents : ∀ p, m.Inherits s p → m.AllProperties p ((visit p).toOption.getD []) := by
    rintro p ⟨t, ht, hp⟩
    obtain ⟨relation, ht⟩ := mem_entries_iff.mpr ht
    have hall : ∃ xs, m.visitParents visit s relation = .ok xs := by
      cases relation with
      | base => exact ⟨_, hbases⟩
      | mixin => exact ⟨_, hmixins⟩
    obtain ⟨q, hq, qs, hqs⟩ := exists_visitParents_iff.mp hall t ht
    obtain rfl := hp.unique (structure?_iff_refersTo.mp hq)
    rw [hqs]
    exact hvisit p qs hqs
  -- what each visit found, as a function of the structure
  have hfound : ∀ {parents : List Structure} {xs : List (List OwnedProperty)},
      List.Forall₂ (fun p x => visit p = .ok x) parents xs →
      xs.flatten = parents.flatMap fun p => (visit p).toOption.getD [] := by
    intro parents xs hxs
    have heq := map_eq_map_of_forall₂ (f := fun p => (visit p).toOption.getD []) (g := id) hxs
      fun p x hx => by rw [hx]; rfl
    rw [List.flatMap_def, heq, List.map_id]
  obtain ⟨bases, hrefers, hxs⟩ := exists_parents_of_visitParents hbases
  obtain ⟨mixins, hrefers', hys⟩ := exists_parents_of_visitParents hmixins
  rw [hfound hxs, hfound hys]
  exact .intro hrefers hrefers' hparents

theorem of_flattenFrom {fuel : Nat} {chain : List String}
    (h : m.flattenFrom fuel chain s = .ok ps) : m.AllProperties s ps := by
  induction fuel generalizing chain s ps with
  | zero => cases h
  | succ fuel ih =>
    rw [flattenFrom_succ] at h
    split at h
    · cases h
    · exact of_gather h fun _ _ => ih

end AllProperties

theorem flatten_eq_ok_iff (hs : m.find? s.name = some (.struct s)) {ps : List OwnedProperty} :
    m.flatten s = .ok ps ↔ m.AllProperties s ps := by
  constructor
  · exact AllProperties.of_flattenFrom
  · intro h
    obtain ⟨qs, hqs⟩ := (exists_flatten_iff hs).mpr h.soundAncestry
    rw [hqs, (AllProperties.of_flattenFrom hqs).unique h]

/-- What a sound structure extends and gets from its mixins are the parts of what it inherits. -/
theorem SoundAncestry.parts (h : m.SoundAncestry s) (hs : m.find? s.name = some (.struct s)) :
    ∃ bases mixins mixed, List.Forall₂ m.RefersTo s.bases bases ∧
      List.Forall₂ m.RefersTo s.mixins mixins ∧ List.Forall₂ m.AllProperties mixins mixed ∧
      m.baseNames s = .ok (bases.map (·.name)) ∧ m.flattenMixins s = .ok mixed.flatten := by
  obtain ⟨ps, hps⟩ := (exists_flatten_iff hs).mpr h
  -- the bound is one more than what the entries are flattened with
  obtain ⟨names, _, all, hnames, hall, _⟩ := exists_parts_of_flattenFrom (Nat.le_succ _) hps
  obtain ⟨bases, hbases, heq⟩ := exists_parents_of_visitParents hnames
  obtain ⟨mixed, hmixed, rfl⟩ := map_eq_ok.mp hall
  obtain ⟨mixins, hmixins, hfound⟩ := exists_parents_of_visitParents hmixed
  have hbaseNames : bases.map (·.name) = names.map id :=
    map_eq_map_of_forall₂ heq fun _ _ => Except.ok.inj
  rw [List.map_id] at hbaseNames
  refine ⟨bases, mixins, mixed, hbases, hmixins, ?_, hbaseNames ▸ hnames, hall⟩
  exact hfound.imp fun _ _ => AllProperties.of_flattenFrom

/-! ## Circles -/

/-- The structures of `passed` lead from `start` to `s`, each to the next one. -/
structure Trail (m : MetaModel) (start : Structure) (passed : List Structure) (s : Structure) :
    Prop where
  head : (passed ++ [s]).head? = some start
  steps : (passed ++ [s]).IsChain m.Inherits

/-- `path` leads from `start` to a structure that is on it before. -/
def LeadsBack (m : MetaModel) (start : Structure) (path : List String) : Prop :=
  ∃ passed p, m.Trail start passed p ∧ p ∈ passed ∧ path = (passed ++ [p]).map (·.name)

namespace Trail

variable {passed : List Structure}

theorem nil (m : MetaModel) (s : Structure) : m.Trail s [] s where
  head := rfl
  steps := .singleton s

theorem snoc (h : m.Trail start passed s) (hp : m.Inherits s p) :
    m.Trail start (passed ++ [s]) p where
  head := by
    rw [List.head?_append, h.head]
    rfl
  steps := by
    refine h.steps.append (.singleton p) fun x hx y hy => ?_
    rw [List.getLast?_concat, Option.mem_some_iff] at hx
    rw [List.head?_cons, Option.mem_some_iff] at hy
    exact hx ▸ hy ▸ hp

theorem transGen (h : m.Trail start passed s) :
    (passed ++ [s]).Pairwise (TransGen m.Inherits) :=
  (h.steps.imp fun _ _ => TransGen.single).pairwise

theorem reaches (h : m.Trail start passed s) {q : Structure} (hq : q ∈ passed ++ [s]) :
    ReflTransGen m.Inherits start q := by
  obtain ⟨rest, hrest⟩ := List.head?_eq_some_iff.mp h.head
  have hpairs := h.transGen
  rw [hrest] at hq hpairs
  rcases List.mem_cons.mp hq with rfl | hq
  · exact .refl
  · exact ((List.pairwise_cons.mp hpairs).1 q hq).to_reflTransGen

/-- Structures that a trail passes are what their names stand for, as the first one is. -/
theorem find?_eq_some (h : m.Trail start passed s)
    (hstart : m.find? start.name = some (.struct start)) {q : Structure}
    (hq : q ∈ passed ++ [s]) : m.find? q.name = some (.struct q) := by
  cases h.reaches hq with
  | refl => exact hstart
  | tail _ hinherits => exact find?_of_inherits hinherits

end Trail

theorem LeadsBack.exists_cycle {path : List String} (h : m.LeadsBack start path) :
    ∃ p, ReflTransGen m.Inherits start p ∧ TransGen m.Inherits p p := by
  obtain ⟨passed, p, htrail, hmem, _⟩ := h
  refine ⟨p, htrail.reaches (List.mem_append_left _ hmem), ?_⟩
  exact (List.pairwise_append.mp htrail.transGen).2.2 p hmem p List.mem_cons_self

theorem parent_ne_circular {relation : Relation} {position : Nat} {t : TypeExpr}
    {path : List String} : m.parent s relation position t ≠ .error (.circular path) := by
  rw [parent]
  cases t.reference? with
  | none => simp
  | some name =>
    simp only [resolve]
    cases m.find? name with
    | none => simp
    | some d => cases d <;> simp

/-- A circle that a structure is refused for was met while one of its entries was visited. -/
theorem exists_of_visitParents_circular {α : Type} {visit : Structure → Except ReferenceError α}
    {relation : Relation} {path : List String}
    (h : m.visitParents visit s relation = .error (.circular path)) :
    ∃ p, m.Inherits s p ∧ visit p = .error (.circular path) := by
  obtain ⟨⟨t, position⟩, he, herr⟩ := exists_of_mapM_eq_error h
  rcases bind_eq_error.mp herr with herr | ⟨p, hp, hvisit⟩
  · exact absurd herr parent_ne_circular
  · exact ⟨p, inherits_iff.mpr ⟨relation, t, List.fst_mem_of_mem_zipIdx he, parent_eq_ok.mp hp⟩,
      hvisit⟩

theorem exists_of_gather_circular
    {visit : Structure → Except ReferenceError (List OwnedProperty)} {path : List String}
    (h : m.gather visit s = .error (.circular path)) :
    ∃ p, m.Inherits s p ∧ visit p = .error (.circular path) := by
  rw [gather] at h
  rcases bind_eq_error.mp h with h | ⟨_, _, h⟩
  · exact exists_of_visitParents_circular h
  · rcases bind_eq_error.mp h with h | ⟨_, _, h⟩
    · exact exists_of_visitParents_circular h
    · cases h

/-- The path of a circle goes on from the structures that were passed. -/
theorem Flattens.leadsBack {chain : List String}
    {x : Except ReferenceError (List OwnedProperty)} (h : m.Flattens chain s x)
    (hstart : m.find? start.name = some (.struct start)) {passed : List Structure}
    (htrail : m.Trail start passed s) (hchain : chain = passed.map (·.name))
    {path : List String} (hx : x = .error (.circular path)) : m.LeadsBack start path := by
  induction h generalizing passed with
  | @circular chain s hmem =>
    cases hx
    subst hchain
    obtain ⟨q, hq, hname⟩ := List.mem_map.mp hmem
    -- two structures of one name on the trail are the one that the name stands for
    have hfind := htrail.find?_eq_some hstart (List.mem_append_left _ hq)
    rw [hname, htrail.find?_eq_some hstart (List.mem_append_right _ (List.mem_singleton_self s))]
      at hfind
    obtain rfl := Declared.struct.inj (Option.some.inj hfind)
    exact ⟨passed, s, htrail, hq, by rw [List.map_append]; rfl⟩
  | @parents chain s visit hnot hparents ih =>
    obtain ⟨p, hp, hvisit⟩ := exists_of_gather_circular hx
    refine ih p hp (htrail.snoc hp) ?_ hvisit
    rw [hchain, List.map_append]
    rfl

theorem leadsBack_of_flatten (hs : m.find? s.name = some (.struct s)) {path : List String}
    (h : m.flatten s = .error (.circular path)) : m.LeadsBack s path :=
  ((flattens_iff hs).mpr h).leadsBack hs (.nil m s) rfl rfl

theorem leadsBack_of_flattenMixins (hs : m.find? s.name = some (.struct s)) {path : List String}
    (h : m.flattenMixins s = .error (.circular path)) : m.LeadsBack s path := by
  obtain ⟨p, hp, hvisit⟩ := exists_of_visitParents_circular (map_eq_error.mp h)
  have hflattens : m.Flattens [s.name] p (m.flattenFrom m.chainBound [s.name] p) := by
    refine flattens_flattenFrom (find?_of_inherits hp)
      ((LeadsTo.nil m s).snoc hs List.not_mem_nil hp) ?_
    rw [chainBound, List.length_singleton]
    omega
  exact hflattens.leadsBack hs ((Trail.nil m s).snoc hp) rfl hvisit

theorem baseNames_ne_circular {path : List String} :
    m.baseNames s ≠ .error (.circular path) := by
  intro h
  obtain ⟨_, _, hname⟩ := exists_of_visitParents_circular h
  cases hname

/-- Flattening a declared structure ends, and it succeeds on sound ancestries with all properties
of the structure. What the structure extends and what its mixins have is then found as well. A
circle is reported only where there is one, by a path that leads there from the structure. -/
theorem lineage_law (hs : m.find? s.name = some (.struct s)) :
    (∀ x, m.Flattens [] s x ↔ m.flatten s = x) ∧
    ((∃ ps, m.flatten s = .ok ps) ↔ m.SoundAncestry s) ∧
    (∀ ps, m.flatten s = .ok ps ↔ m.AllProperties s ps) ∧
    (m.SoundAncestry s → ∃ bases mixins mixed, List.Forall₂ m.RefersTo s.bases bases ∧
      List.Forall₂ m.RefersTo s.mixins mixins ∧ List.Forall₂ m.AllProperties mixins mixed ∧
      m.baseNames s = .ok (bases.map (·.name)) ∧ m.flattenMixins s = .ok mixed.flatten) ∧
    ∀ path, m.flatten s = .error (.circular path) ∨ m.flattenMixins s = .error (.circular path) ∨
      m.baseNames s = .error (.circular path) →
      m.LeadsBack s path ∧ ∃ p, ReflTransGen m.Inherits s p ∧ TransGen m.Inherits p p := by
  refine ⟨fun x => flattens_iff hs, exists_flatten_iff hs, fun ps => flatten_eq_ok_iff hs,
    fun hsound => hsound.parts hs, fun path h => ?_⟩
  have hback : m.LeadsBack s path := by
    rcases h with h | h | h
    · exact leadsBack_of_flatten hs h
    · exact leadsBack_of_flattenMixins hs h
    · exact absurd h baseNames_ne_circular
  exact ⟨hback, hback.exists_cycle⟩

def bottomStructure : Structure where
  name := "Bottom"
  properties := [⟨"end", .base "string", false, {}⟩]
  bases := [.reference "Left", .reference "Right"]
  mixins := [.reference "Mark"]
  annotations := {}

def entryStructure : Structure where
  name := "Entry"
  properties := []
  bases := [.reference "Top"]
  mixins := [.reference "Even"]
  annotations := {}

/-- A structure with two ways to the top, and an entry to a circle of a base and a mixin. -/
def lineages : MetaModel where
  version := "1"
  requests := []
  notifications := []
  structures := [
    bottomStructure,
    ⟨"Left", [], [.reference "Top"], [], {}⟩,
    ⟨"Right", [⟨"side", .base "string", true, {}⟩], [.reference "Top"], [], {}⟩,
    ⟨"Top", [⟨"id", .base "integer", false, {}⟩], [], [], {}⟩,
    ⟨"Mark", [⟨"id", .base "string", false, {}⟩], [], [], {}⟩,
    entryStructure,
    ⟨"Even", [], [.reference "Odd"], [], {}⟩,
    ⟨"Odd", [], [], [.reference "Even"], {}⟩]
  enumerations := []
  typeAliases := []

theorem lineages_flattened :
    (∃ ps, lineages.AllProperties bottomStructure ps ∧
      ps.map (fun p => (p.owner, p.property.name)) =
        [("Top", "id"), ("Top", "id"), ("Right", "side"), ("Mark", "id"), ("Bottom", "end")]) ∧
    lineages.LeadsBack entryStructure ["Entry", "Even", "Odd", "Even"] := by
  have hbottom : lineages.find? "Bottom" = some (.struct bottomStructure) := rfl
  have hentry : lineages.find? "Entry" = some (.struct entryStructure) := rfl
  obtain ⟨ps, hflat, hps⟩ : ∃ ps, lineages.flatten bottomStructure = .ok ps ∧
      ps.map (fun p => (p.owner, p.property.name)) =
        [("Top", "id"), ("Top", "id"), ("Right", "side"), ("Mark", "id"), ("Bottom", "end")] :=
    map_eq_ok.mp (by decide +kernel)
  have hcircle : lineages.flattenMixins entryStructure =
      .error (.circular ["Entry", "Even", "Odd", "Even"]) := rfl
  obtain ⟨_, _, hall, _, _⟩ := lineage_law (s := bottomStructure) hbottom
  obtain ⟨_, _, _, _, hcircular⟩ := lineage_law (s := entryStructure) hentry
  exact ⟨⟨ps, (hall ps).mp hflat, hps⟩, (hcircular _ (.inr (.inl hcircle))).1⟩

end MetaModel
end ProtocolTypes
