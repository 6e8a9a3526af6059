import Mathlib.Data.List.Pairwise
import ProtocolTypes.Proofs.Identifier.Casing
import ProtocolTypes.Proofs.Mapping.Reordering

/-!
# ProtocolTypes.Proofs.Mapping.Constants

The names of constants. A constant is named after its enumeration and its entry, one name behind the
other, and all constants stand in one module with the wrappers of the enumerations. Which names can
meet there follows from how one text can be split in two ways (`Text.append_eq_append_iff`):

* `targetDecls_constantNames`: constants have distinct names exactly when no two enumerations
  overlap, and none has the name of an enumeration exactly when no enumeration is named like an
  entry of another.
* `constants_clash`: either can happen in a model of distinct names.
-/

namespace ProtocolTypes

open Target

/-- Two texts put together in two ways: one first part goes on where the other ends. -/
theorem Text.append_eq_append_iff {a b c d : String} :
    a ++ b = c ++ d ↔
      (∃ rest, c = a ++ rest ∧ b = rest ++ d) ∨ ∃ rest, a = c ++ rest ∧ d = rest ++ b := by
  simp only [← String.toList_inj, String.toList_append, List.append_eq_append_iff]
  constructor
  · rintro (⟨cs, hc, hb⟩ | ⟨cs, ha, hd⟩)
    · exact .inl ⟨String.ofList cs, by simpa using hc, by simpa using hb⟩
    · exact .inr ⟨String.ofList cs, by simpa using ha, by simpa using hd⟩
  · rintro (⟨rest, hc, hb⟩ | ⟨rest, ha, hd⟩)
    · exact .inl ⟨rest.toList, hc, hb⟩
    · exact .inr ⟨rest.toList, ha, hd⟩

/-- A named type is never declared as a wrapper. -/
theorem TypeExpr.specForm_ne_newtype (t : TypeExpr) : t.specForm ≠ .newtype := by
  intro h
  cases t with
  | or items =>
    rw [specForm] at h
    split at h <;> cases h
  | _ => cases h

/-! ## Names in the output -/

namespace Target

/-- The names of all constants, in order. -/
def constantIdents (ds : List Decl) : List String :=
  (constBlocks ds).flatMap fun b => b.constants.map (·.ident)

/-- The names of the wrappers of primitives. -/
def wrapperIdents (ds : List Decl) : List String :=
  ((typeDecls ds).filter fun t => t.spec.form = .newtype).map (·.ident)

end Target

namespace Enumeration

variable {e e' : Enumeration}

/-- The names of the constants of an enumeration. -/
def constantNames (e : Enumeration) : List String :=
  e.values.map fun x => e.name ++ x.name

/-- The name of `e'` goes on where that of `e` ends, and an entry of `e` begins with what it adds
and goes on like an entry of `e'`. -/
def Overlaps (e e' : Enumeration) : Prop :=
  ∃ rest, rest ≠ "" ∧ e'.name = e.name ++ rest ∧
    ∃ x ∈ e.values, ∃ x' ∈ e'.values, x.name = rest ++ x'.name

theorem idents_of_declare {documented : Bool} {t : TypeDecl} {b : ConstBlock}
    (h : e.declare documented = .ok (t, b)) : b.constants.map (·.ident) = e.constantNames := by
  rw [declare] at h
  split at h
  · cases h
  · obtain ⟨constants, hconstants, heq⟩ := bind_eq_ok.mp h
    cases heq
    refine (map_eq_map_of_forall₂ (mapM_eq_ok_iff.mp hconstants) fun x c hc => ?_).symm
    rw [mapEntry] at hc
    split at hc <;> cases hc
    rfl

theorem nodup_constantNames (h : (e.values.map (·.name)).Nodup) : e.constantNames.Nodup := by
  have hmap : e.constantNames = (e.values.map (·.name)).map (e.name ++ ·) := by
    rw [constantNames, List.map_map]
    rfl
  rw [hmap]
  exact h.map fun _ _ => (String.append_right_inj e.name).mp

/-- Enumerations of different names have a constant of one name exactly when one of them overlaps
the other. -/
theorem disjoint_constantNames_iff (hne : e.name ≠ e'.name) :
    List.Disjoint e.constantNames e'.constantNames ↔ ¬ e.Overlaps e' ∧ ¬ e'.Overlaps e := by
  have hshared : (∃ n ∈ e.constantNames, n ∈ e'.constantNames) ↔ e.Overlaps e' ∨ e'.Overlaps e := by
    simp only [constantNames, List.mem_map]
    constructor
    · rintro ⟨_, ⟨x, hx, rfl⟩, x', hx', heq⟩
      obtain ⟨rest, hname, hentry⟩ | ⟨rest, hname, hentry⟩ := Text.append_eq_append_iff.mp heq
      · refine .inr ⟨rest, ?_, hname, x', hx', x, hx, hentry⟩
        rintro rfl
        exact hne (by simpa using hname)
      · refine .inl ⟨rest, ?_, hname, x, hx, x', hx', hentry⟩
        rintro rfl
        exact hne (by simpa using hname.symm)
    · rintro (⟨rest, _, hname, x, hx, x', hx', hentry⟩ | ⟨rest, _, hname, x', hx', x, hx, hentry⟩)
      · exact ⟨_, ⟨x, hx, rfl⟩, x', hx', by rw [hname, hentry, String.append_assoc]⟩
      · exact ⟨_, ⟨x, hx, rfl⟩, x', hx', by rw [hname, hentry, String.append_assoc]⟩
  rw [← not_or, ← hshared, List.Disjoint]
  push Not
  rfl

end Enumeration

namespace MetaModel

variable {m : MetaModel} {o : MappingOptions}

/-! ## Constants of the enumerations -/

/-- The enumerations that names stand for. -/
def enumerated (m : MetaModel) : List Enumeration :=
  m.primaries.filterMap Declared.enumeration?

theorem mem_enumerated {e : Enumeration} :
    e ∈ m.enumerated ↔ m.Indexes (.enumeration e) := by
  rw [enumerated, List.mem_filterMap, indexes_iff]
  constructor
  · rintro ⟨d, hd, heq⟩
    cases d <;> cases heq
    exact hd
  · intro he
    exact ⟨_, he, rfl⟩

theorem nodup_enumerated (m : MetaModel) : (m.enumerated.map (·.name)).Nodup := by
  have hnames : (m.primaries.map Declared.name).Nodup := m.nodup_names
  rw [List.Nodup, List.pairwise_map] at hnames
  rw [List.Nodup, List.pairwise_map, enumerated, List.pairwise_filterMap]
  refine hnames.imp ?_
  intro d d' hne e he e' he'
  cases d <;> cases he
  cases d' <;> cases he'
  exact hne

/-- The constants of different enumerations have different names where no enumeration overlaps
another. -/
theorem nodup_constantNames_iff (hentries : ∀ e ∈ m.enumerated, (e.values.map (·.name)).Nodup) :
    (m.enumerated.flatMap Enumeration.constantNames).Nodup ↔
      ∀ e ∈ m.enumerated, ∀ e' ∈ m.enumerated, ¬ e.Overlaps e' := by
  have hinj := List.inj_on_of_nodup_map m.nodup_enumerated
  have hown : ∀ e ∈ m.enumerated, e.constantNames.Nodup :=
    fun e he => Enumeration.nodup_constantNames (hentries e he)
  have hsymm : Std.Symm (Function.onFun List.Disjoint Enumeration.constantNames) :=
    ⟨fun _ _ h _ hn hn' => h hn' hn⟩
  rw [List.nodup_flatMap]
  constructor
  · rintro ⟨_, hdisjoint⟩ e he e' he' hoverlap
    by_cases heq : e = e'
    · -- nothing follows the name of an enumeration in that name
      obtain ⟨rest, hrest, hname, _⟩ := hoverlap
      rw [heq] at hname
      exact hrest (by simpa using hname.symm)
    · have hne : e.name ≠ e'.name := fun hname => heq (hinj he he' hname)
      exact ((Enumeration.disjoint_constantNames_iff hne).mp
        (hdisjoint.forall he he' heq)).1 hoverlap
  · intro h
    refine ⟨hown, m.nodup_enumerated.of_map _ |>.pairwise_of_forall_ne fun e he e' he' heq => ?_⟩
    have hne : e.name ≠ e'.name := fun hname => heq (hinj he he' hname)
    exact (Enumeration.disjoint_constantNames_iff hne).mpr ⟨h e he e' he', h e' he' e he⟩

namespace Generated

variable {ds : List Decl} {set : DeclSet} {ps : List (Declared × Shape)} {r : Registry}
  {dss : List (List Decl)}

/-- The output has the constants of all enumerations, those of each one together. -/
theorem constantIdents_perm (h : Generated m o ds set ps r dss) :
    (constantIdents ds).Perm (m.enumerated.flatMap Enumeration.constantNames) := by
  refine (h.constBlocks_perm.flatMap_right _).trans (.of_eq ?_)
  rw [enumerated, List.filterMap_eq_flatMap_toList, List.filterMap_eq_flatMap_toList,
    List.flatMap_assoc, List.flatMap_assoc]
  refine List.flatMap_congr fun d hd => ?_
  cases d with
  | struct | typeAlias => rfl
  | enumeration e =>
    obtain ⟨_, s, _, hs, _⟩ := h.exists_type hd
    obtain ⟨t, b, hdeclare⟩ := exists_declare hs
    rw [Declared.block?_eq_some.mpr ⟨e, t, rfl, hdeclare⟩, Declared.enumeration?,
      Option.toList_some, Option.toList_some, List.flatMap_singleton, List.flatMap_singleton,
      Enumeration.idents_of_declare hdeclare]

theorem mem_constantIdents_iff (h : Generated m o ds set ps r dss) {n : String} :
    n ∈ constantIdents ds ↔ ∃ e ∈ m.enumerated, ∃ x ∈ e.values, n = e.name ++ x.name := by
  rw [h.constantIdents_perm.mem_iff, List.mem_flatMap]
  simp only [Enumeration.constantNames, List.mem_map, eq_comm]

/-- Only enumerations become wrappers. -/
theorem mem_wrapperIdents_iff (h : Generated m o ds set ps r dss) {n : String} :
    n ∈ wrapperIdents ds ↔ ∃ e ∈ m.enumerated, e.name = n := by
  simp only [wrapperIdents, List.mem_map, List.mem_filter, mem_typeDecls, decide_eq_true_eq]
  constructor
  · rintro ⟨t, ⟨ht, hform⟩, rfl⟩
    rcases h.type_cases ht with hname | ⟨u, hu, rfl⟩
    · obtain ⟨d, hd, hident⟩ := List.mem_map.mp hname
      obtain ⟨t', _, ht', _, hident', _, hform', _⟩ := h.exists_type hd
      obtain rfl := h.distinct.eq ht ht' (hident.symm.trans hident'.symm)
      rw [hform] at hform'
      cases d with
      | enumeration e => exact ⟨e, mem_enumerated.mpr (indexes_iff.mpr hd), hident⟩
      | struct s => cases hform'
      | typeAlias a => exact absurd hform'.symm a.type.specForm_ne_newtype
    · have hcomposite := h.collected.fits.wellFormed.composite u hu
      have hu : u.spec.form = .newtype := (TypeSpec.form_box _ u.spec).symm.trans hform
      cases hspec : u.spec <;> rw [hspec] at hu hcomposite
      · cases hu
      · cases hu
      · cases hu
      · cases hcomposite
  · rintro ⟨e, he, rfl⟩
    have hd := indexes_iff.mp (mem_enumerated.mp he)
    obtain ⟨t, _, ht, _, hident, _, hform, _⟩ := h.exists_type hd
    exact ⟨t, ⟨ht, hform⟩, hident⟩

end Generated

/-! ## Names of constants -/

/-- Which names the constants of a model have, and when two of them meet. -/
structure ConstantNames (m : MetaModel) (ds : List Decl) : Prop where
  mem_iff : ∀ n, n ∈ constantIdents ds ↔ ∃ e, m.Indexes (.enumeration e) ∧
    ∃ x ∈ e.values, n = e.name ++ x.name
  wrapper_iff : ∀ n, n ∈ wrapperIdents ds ↔
    ∃ e, m.Indexes (.enumeration e) ∧ e.name = n
  /-- Two constants have one name only where one enumeration overlaps another. -/
  distinct_iff : (constantIdents ds).Nodup ↔
    ∀ e, m.Indexes (.enumeration e) →
    ∀ e', m.Indexes (.enumeration e') → ¬ e.Overlaps e'
  /-- A constant has the name of an enumeration only where this is named like an entry of another
  one. -/
  apart_iff : (∀ n ∈ constantIdents ds, n ∉ wrapperIdents ds) ↔
    ∀ e, m.Indexes (.enumeration e) →
    ∀ e', m.Indexes (.enumeration e') →
    ∀ x ∈ e.values, e'.name ≠ e.name ++ x.name
  /-- Neither happens where no enumeration's name begins with that of another one. -/
  unambiguous :
    (∀ e, m.Indexes (.enumeration e) → ∀ x ∈ e.values, x.name ≠ "") →
    (∀ e, m.Indexes (.enumeration e) →
      ∀ e', m.Indexes (.enumeration e') →
      ∀ rest, e'.name = e.name ++ rest → rest = "") →
    (constantIdents ds).Nodup ∧ ∀ n ∈ constantIdents ds, n ∉ wrapperIdents ds

theorem targetDecls_constantNames {ds : List Decl}
    (hentries : ∀ e, m.Indexes (.enumeration e) →
      (e.values.map (·.name)).Nodup)
    (h : m.targetDecls o = .ok ds) : ConstantNames m ds := by
  obtain ⟨set, ps, r, dss, hg⟩ := generated_of_targetDecls h
  have hdistinct : (constantIdents ds).Nodup ↔
      ∀ e, m.Indexes (.enumeration e) →
      ∀ e', m.Indexes (.enumeration e') → ¬ e.Overlaps e' := by
    rw [hg.constantIdents_perm.nodup_iff]
    simp only [← mem_enumerated] at hentries ⊢
    exact nodup_constantNames_iff hentries
  have hapart : (∀ n ∈ constantIdents ds, n ∉ wrapperIdents ds) ↔
      ∀ e, m.Indexes (.enumeration e) →
      ∀ e', m.Indexes (.enumeration e') →
      ∀ x ∈ e.values, e'.name ≠ e.name ++ x.name := by
    simp only [hg.mem_constantIdents_iff, hg.mem_wrapperIdents_iff, ← mem_enumerated]
    constructor
    · intro h e he e' he' x hx hname
      exact h _ ⟨e, he, x, hx, rfl⟩ ⟨e', he', hname⟩
    · rintro h _ ⟨e, he, x, hx, rfl⟩ ⟨e', he', hname⟩
      exact h e he e' he' x hx hname
  refine ⟨fun n => ?mem, fun n => ?wrapper, hdistinct, hapart, fun hnonempty hbegins => ⟨?_, ?_⟩⟩
  case mem => simp only [hg.mem_constantIdents_iff, mem_enumerated]
  case wrapper => simp only [hg.mem_wrapperIdents_iff, mem_enumerated]
  · rw [hdistinct]
    rintro e he e' he' ⟨rest, hrest, hname, _⟩
    exact hrest (hbegins e he e' he' rest hname)
  · rw [hapart]
    intro e he e' he' x hx hname
    exact hnonempty e he x hx (hbegins e he e' he' x.name hname)

/-! ## Names that meet -/

/-- Two enumerations, the name of one of which begins with that of the other. -/
def kindsWith (entries : List String) : MetaModel where
  version := "1"
  requests := []
  notifications := []
  structures := []
  enumerations := [
    ⟨"Item", .base "string", entries.map fun name => ⟨name, .string name, {}⟩, false, {}⟩,
    ⟨"ItemKind", .base "string", [⟨"Plain", .string "plain", {}⟩], false, {}⟩]
  typeAliases := []

def kindsDecls (entries : List String) : List Decl := [
  .type ⟨"Item", {}, .newtype .string⟩,
  .constants ⟨"Item", entries.map fun name => ⟨"Item" ++ name, .text name, {}⟩⟩,
  .type ⟨"ItemKind", {}, .newtype .string⟩,
  .constants ⟨"ItemKind", [⟨"ItemKindPlain", .text "plain", {}⟩]⟩]

theorem kinds_constantNames :
    (∀ e, (kindsWith ["Plain"]).Indexes (.enumeration e) →
        (e.values.map (·.name)).Nodup) ∧
      (kindsWith ["Plain"]).targetDecls {} = .ok (kindsDecls ["Plain"]) ∧
      ConstantNames (kindsWith ["Plain"]) (kindsDecls ["Plain"]) := by
  have hentries : ∀ e, (kindsWith ["Plain"]).Indexes (.enumeration e) →
      (e.values.map (·.name)).Nodup := by
    simp only [← mem_enumerated]
    decide
  have hdecls : (kindsWith ["Plain"]).targetDecls {} = .ok (kindsDecls ["Plain"]) :=
    targetDecls_of_collect (by decide +kernel)
  exact ⟨hentries, hdecls, targetDecls_constantNames hentries hdecls⟩

/-- Names are identifiers, and none is given twice in the model or in an enumeration. -/
structure ProperNames (m : MetaModel) : Prop where
  distinct : m.DistinctNames
  entries : ∀ e ∈ m.enumerations, (e.values.map (·.name)).Nodup
  declared : ∀ d ∈ m.declarations, Identifier.IsName d.name
  entry : ∀ e ∈ m.enumerations, ∀ x ∈ e.values, Identifier.IsName x.name

/-- The entry `KindPlain` of `Item` has the constant of the entry `Plain` of `ItemKind`, and the
constant of the entry `Kind` has the name of that enumeration. -/
theorem constants_clash :
    ProperNames (kindsWith ["Kind", "KindPlain"]) ∧
      (kindsWith ["Kind", "KindPlain"]).targetDecls {} = .ok (kindsDecls ["Kind", "KindPlain"]) ∧
      ¬ (constantIdents (kindsDecls ["Kind", "KindPlain"])).Nodup ∧
      ¬ ∀ n ∈ constantIdents (kindsDecls ["Kind", "KindPlain"]),
        n ∉ wrapperIdents (kindsDecls ["Kind", "KindPlain"]) := by
  refine ⟨⟨?distinct, by decide, by decide, by decide⟩, ?decls, by decide, by decide⟩
  case distinct =>
    unfold DistinctNames
    decide
  case decls => exact targetDecls_of_collect (by decide +kernel)

end MetaModel
end ProtocolTypes
