import ProtocolTypes.Proofs.Mapping.Meaning
import ProtocolTypes.Proofs.Mapping.Success

/-!
# ProtocolTypes.Proofs.Mapping.Defects

Errors tell the truth. `Defect` says for each error what is wrong in the model: names mean their
last declarations, and what is said to occur under a name may stand in a structure that it inherits
from, since inherited properties are mapped in its context. A reported error is always such a defect
(`defect_of_targetDecls`).
-/

open Relation (ReflTransGen TransGen)

namespace ProtocolTypes

open Target

/-! ## Occurrences -/

/-- The types that stand in a declaration. -/
def Declared.types : Declared → List TypeExpr
  | .struct s => s.bases ++ s.mixins ++ s.properties.map (·.type)
  | .enumeration e => [e.type]
  | .typeAlias a => [a.type]

/-- `u` stands in the declaration, at any depth. -/
def Declared.Contains (d : Declared) (u : TypeExpr) : Prop :=
  ∃ t ∈ d.types, TypeExpr.Part u t

namespace MetaModel

/-- `u` stands in what the name is declared as, or in a structure that this inherits from. -/
inductive OccursUnder (m : MetaModel) (name : String) (u : TypeExpr) : Prop where
  | own {d : Declared} : m.Indexes d → d.name = name → d.Contains u →
      OccursUnder m name u
  | inherited {s p : Structure} : m.Indexes (.struct s) → s.name = name →
      TransGen m.Inherits s p → (Declared.struct p).Contains u → OccursUnder m name u

/-! ## Defects -/

/-- What an error says is wrong in the model. -/
def Defect (m : MetaModel) : MappingError → Prop
  | .reference (.unknown name context) =>
    (∀ d ∈ m.declarations, d.name ≠ name) ∧ m.OccursUnder context (.reference name)
  | .reference (.notReference owner relation position) =>
    ∃ s, m.Indexes (.struct s) ∧ s.name = owner ∧
      ∃ t, (s.entries relation)[position]? = some t ∧ ∀ name, t ≠ .reference name
  | .reference (.notStructure name owner) =>
    ∃ s, m.Indexes (.struct s) ∧ s.name = owner ∧
      (∃ relation, .reference name ∈ s.entries relation) ∧
      ∃ d : Declared, m.Indexes d ∧ d.name = name ∧
        ((∃ e, d = .enumeration e) ∨ ∃ a, d = .typeAlias a)
  | .reference (.circular path) =>
    ∃ s chain, path = chain ++ [s.name] ∧ s.name ∈ chain ∧
      m.Indexes (.struct s) ∧ TransGen m.Inherits s s
  | .unknownBase name context =>
    name ∉ TypeExpr.knownBases ∧ m.OccursUnder context (.base name)
  | .enumerationBase enumeration base =>
    ∃ e, m.Indexes (.enumeration e) ∧ e.name = enumeration ∧
      e.baseName = base ∧ ∀ b ∈ ["integer", "uinteger", "number", "string"], e.type ≠ .base b
  | .entryMismatch enumeration entry base =>
    ∃ e, m.Indexes (.enumeration e) ∧ e.name = enumeration ∧
      base ∈ ["integer", "uinteger", "number", "string"] ∧ e.type = .base base ∧
      ∃ x ∈ e.values, x.name = entry ∧ ¬ x.value.Fits base

variable {m : MetaModel} {documented : Bool} {context : String} {s : Structure}

/-! ## Ancestries -/

theorem contains_of_mem_entries {relation : Relation} {t : TypeExpr}
    (ht : t ∈ s.entries relation) : (Declared.struct s).Contains t := by
  refine ⟨t, List.mem_append_left _ ?_, .self⟩
  cases relation with
  | base => exact List.mem_append_left _ ht
  | mixin => exact List.mem_append_right _ ht

/-- An entry that leads to no structure is no reference, or what it refers to is at fault. -/
theorem defect_of_parent (hs : m.find? s.name = some (.struct s)) {relation : Relation}
    {position : Nat} {t : TypeExpr} (ht : (s.entries relation)[position]? = some t)
    {e : ReferenceError} (h : m.parent s relation position t = .error e) :
    m.Defect (.reference e) := by
  have hlast : m.Indexes (.struct s) :=
    indexes_iff.mpr (mem_primaries.mpr hs)
  have hmem := List.mem_of_getElem? ht
  cases t with
  | reference name =>
    simp only [parent, TypeExpr.reference?, resolve] at h
    cases hfind : m.find? name with
    | none =>
      rw [hfind] at h
      cases h
      refine ⟨fun d hd hname => ?_, .own hlast rfl (contains_of_mem_entries hmem)⟩
      obtain ⟨d, hd⟩ := exists_find?_iff.mpr ⟨d, hd, hname⟩
      rw [hfind] at hd
      cases hd
    | some d =>
      have hd := indexes_iff.mpr (mem_primaries_of_find? hfind)
      have hname := find?_name hfind
      rw [hfind] at h
      cases d with
      | struct p => cases h
      | enumeration e =>
        cases h
        exact ⟨s, hlast, rfl, ⟨relation, hmem⟩, _, hd, hname, .inl ⟨e, rfl⟩⟩
      | typeAlias a =>
        cases h
        exact ⟨s, hlast, rfl, ⟨relation, hmem⟩, _, hd, hname, .inr ⟨a, rfl⟩⟩
  | _ =>
    cases h
    exact ⟨s, hlast, rfl, _, ht, fun _ href => by cases href⟩

theorem visitParents_eq_error {α : Type} {visit : Structure → Except ReferenceError α}
    {relation : Relation} {e : ReferenceError} (h : m.visitParents visit s relation = .error e) :
    (∃ t position, (s.entries relation)[position]? = some t ∧
        m.parent s relation position t = .error e) ∨
      ∃ p, m.Inherits s p ∧ visit p = .error e := by
  obtain ⟨⟨t, position⟩, hmem, h⟩ := exists_of_mapM_eq_error h
  obtain h | ⟨p, hp, h⟩ := bind_eq_error.mp h
  · exact .inl ⟨t, position, List.mem_zipIdx_iff_getElem?.mp hmem, h⟩
  · refine .inr ⟨p, inherits_iff.mpr ⟨relation, t, ?_, parent_eq_ok.mp hp⟩, h⟩
    exact List.fst_mem_of_mem_zipIdx hmem

/-- Flattening fails at an entry of a structure on the way, or at a structure that is passed a
second time. The fuel does not run out, since no chain is as long. -/
theorem defect_of_flattenFrom {fuel : Nat} {chain : List String}
    (hs : m.find? s.name = some (.struct s)) (hchain : m.LeadsTo chain s)
    (hfuel : m.structures.length < fuel + chain.length) {e : ReferenceError}
    (h : m.flattenFrom fuel chain s = .error e) : m.Defect (.reference e) := by
  induction fuel generalizing chain s with
  | zero =>
    have hle := hchain.length_le
    omega
  | succ fuel ih =>
    rw [flattenFrom] at h
    by_cases hmem : s.name ∈ chain
    · rw [if_pos (by simpa using hmem)] at h
      cases h
      obtain ⟨a, ha, hcycle⟩ := hchain.inherits s.name hmem
      rw [hs] at ha
      cases ha
      exact ⟨s, chain, rfl, hmem, indexes_iff.mpr (mem_primaries.mpr hs), hcycle⟩
    · rw [if_neg (by simpa using hmem)] at h
      have parents : ∀ relation,
          m.visitParents (m.flattenFrom fuel (chain ++ [s.name])) s relation = .error e →
          m.Defect (.reference e) := by
        intro relation h
        obtain ⟨t, position, ht, h⟩ | ⟨p, hp, h⟩ := visitParents_eq_error h
        · exact defect_of_parent hs ht h
        · refine ih (find?_of_inherits hp) (hchain.snoc hs hmem hp) ?_ h
          rw [List.length_append, List.length_singleton]
          omega
      simp only [bind_eq_error] at h
      obtain h | ⟨bases, _, h | ⟨mixins, _, h⟩⟩ := h
      · exact parents .base h
      · exact parents .mixin h
      · cases h

theorem defect_of_parts {flattenBases : Bool} (hs : m.find? s.name = some (.struct s))
    {e : ReferenceError} (h : m.parts flattenBases s = .error e) : m.Defect (.reference e) := by
  cases hall : m.flatten s with
  | ok all =>
    obtain ⟨names, properties, hparts, _⟩ := exists_parts_of_flatten flattenBases hall
    rw [hparts] at h
    cases h
  | error e' =>
    rw [parts, hall] at h
    cases h
    refine defect_of_flattenFrom hs (.nil m s) ?_ hall
    simp only [chainBound, List.length_nil]
    omega

/-! ## Types -/

/-- The error names a base type or a reference that stands in the type and that is not known. -/
inductive Unresolved (m : MetaModel) (context : String) (t : TypeExpr) : MappingError → Prop where
  | base {name : String} : name ∉ TypeExpr.knownBases → TypeExpr.Part (.base name) t →
      Unresolved m context t (.unknownBase name context)
  | reference {name : String} : (∀ d ∈ m.declarations, d.name ≠ name) →
      TypeExpr.Part (.reference name) t →
      Unresolved m context t (.reference (.unknown name context))

theorem Unresolved.child {t c : TypeExpr} {e : MappingError} (hc : c ∈ t.children)
    (h : m.Unresolved context c e) : m.Unresolved context t e := by
  cases h with
  | base hname hpart => exact .base hname (.child hc hpart)
  | reference hname hpart => exact .reference hname (.child hc hpart)

/-- A declaration is to blame for what stands in a type of it. -/
theorem Unresolved.defect {t : TypeExpr} {e : MappingError} (h : m.Unresolved context t e)
    (hoccurs : ∀ u, TypeExpr.Part u t → m.OccursUnder context u) : m.Defect e := by
  cases h with
  | base hname hpart => exact ⟨hname, hoccurs _ hpart⟩
  | reference hname hpart => exact ⟨hname, hoccurs _ hpart⟩

theorem unresolved_of_ofBase {name : String} {e : MappingError}
    (h : Primitive.ofBase name context = .error e) : m.Unresolved context (.base name) e := by
  have hunknown : name ∉ TypeExpr.knownBases := by
    rw [← Primitive.exists_ofBase_iff name context, h]
    rintro ⟨p, hp⟩
    cases hp
  rw [Primitive.ofBase] at h
  split at h
  · cases h
  · cases h
    exact .base hunknown .self

theorem unresolved_of_symbol {name : String} {e : MappingError}
    (h : m.symbol name context = .error e) : m.Unresolved context (.reference name) e := by
  have hunknown : ∀ d ∈ m.declarations, d.name ≠ name := by
    rintro d hd rfl
    obtain ⟨u, hu⟩ := (exists_symbol_iff m d.name context).mpr (Declared.exists_isLast hd)
    rw [h] at hu
    cases hu
  rw [symbol, resolve] at h
  cases hfind : m.find? name with
  | some d => rw [hfind] at h; cases h
  | none =>
    rw [hfind] at h
    cases h
    exact .reference hunknown .self

/-- A type by itself cannot be translated where the name that it is is not known. -/
theorem unresolved_of_outcomeShape {ss : List Shape} {t : TypeExpr} {e : MappingError}
    (h : (m.outcomeShape documented context ss t).shape = .error e) : m.Unresolved context t e := by
  cases t with
  | base name => exact unresolved_of_ofBase (map_eq_error.mp h)
  | reference name => exact unresolved_of_symbol (map_eq_error.mp h)
  | or items =>
    rw [outcomeShape] at h
    cases hform : TypeExpr.unionForm items <;> rw [hform] at h <;> cases h
  | _ => cases h

/-- What is made of the parts of a type fails as a part does, or as the type by itself does. -/
theorem unresolved_of_parts {hint : String} {t : TypeExpr}
    {f : List Shape → Except MappingError Shape} {e : MappingError}
    (hparts : ∀ p ∈ t.parts hint,
      m.translate documented context p.2 = .error e → m.Unresolved context p.2 e)
    (hf : ∀ ss, f ss = .error e → (m.outcomeShape documented context ss t).shape = .error e)
    (h : ((t.parts hint).mapM (fun p => m.translate documented context p.2) >>= f) = .error e) :
    m.Unresolved context t e := by
  obtain h | ⟨ss, _, h⟩ := bind_eq_error.mp h
  · obtain ⟨p, hp, h⟩ := exists_of_mapM_eq_error h
    exact .child (TypeExpr.mem_children_of_mem_parts hp) (hparts p hp h)
  · exact unresolved_of_outcomeShape (hf ss h)

theorem unresolved_of_translate {t : TypeExpr} {e : MappingError}
    (h : m.translate documented context t = .error e) : m.Unresolved context t e := by
  induction t using TypeExpr.induct with
  | step t ih =>
    rw [translate_eq m documented context ""] at h
    exact unresolved_of_parts (fun p hp => ih p.2 (TypeExpr.mem_children_of_mem_parts hp))
      (fun _ => id) h

theorem unresolved_of_translateSpec {t : TypeExpr} {e : MappingError}
    (h : m.translateSpec documented context t = .error e) : m.Unresolved context t e := by
  rw [translateSpec_eq m documented context ""] at h
  exact unresolved_of_parts (fun _ _ => unresolved_of_translate)
    (fun _ => Outcome.declaredShape_eq_error_iff.mp) h

/-! ## Declarations -/

variable {o : MappingOptions}

/-- A property that a record cannot have may be inherited; it is mapped in the context of the record
all the same. -/
theorem defect_of_translateStructure (hs : m.find? s.name = some (.struct s)) {e : MappingError}
    (h : m.translateStructure o s = .error e) : m.Defect e := by
  simp only [translateStructure, bind_eq_error, mapError_eq_error] at h
  obtain ⟨e, h, rfl⟩ | ⟨⟨names, properties⟩, hparts, h | ⟨fields, _, h⟩⟩ := h
  · exact defect_of_parts hs h
  · obtain ⟨q, hq, h⟩ := exists_of_mapM_eq_error h
    rw [translateProperty_eq, map_eq_error] at h
    obtain ⟨all, hall⟩ := (parts_eq_ok (mapError_eq_ok.mp hparts)).1
    obtain ⟨names', properties', hparts', hsub, _⟩ := exists_parts_of_flatten o.flattenBases hall
    rw [mapError_eq_ok.mp hparts] at hparts'
    cases hparts'
    obtain ⟨a, hsa, hown⟩ := ancestor_of_mem_flattenFrom hall (hsub hq)
    obtain ⟨p, hp, rfl⟩ := List.mem_map.mp hown
    have hcontains : ∀ u, TypeExpr.Part u p.type → (Declared.struct a).Contains u := by
      intro u hu
      exact ⟨p.type, List.mem_append_right _ (List.mem_map_of_mem hp), hu⟩
    have hlast : m.Indexes (.struct s) :=
      indexes_iff.mpr (mem_primaries.mpr hs)
    refine (unresolved_of_translate h).defect fun u hu => ?_
    rcases Relation.reflTransGen_iff_eq_or_transGen.mp hsa with rfl | hsa
    · exact .own hlast rfl (hcontains u hu)
    · exact .inherited hlast rfl hsa (hcontains u hu)
  · cases h

theorem defect_of_enumeration {e : Enumeration}
    (he : m.Indexes (.enumeration e)) {err : MappingError}
    (h : m.translateDeclared o (.enumeration e) = .error err) : m.Defect err := by
  rw [translateDeclared] at h
  cases hcarrier : Enumeration.carrierOf? e.baseName with
  | none =>
    rw [hcarrier] at h
    cases h
    refine ⟨e, he, rfl, rfl, fun base hbase htype => ?_⟩
    obtain ⟨carrier, hc⟩ := Enumeration.exists_carrierOf?_iff.mpr hbase
    rw [Enumeration.carrierOf?_baseName_iff.mpr ⟨base, htype, hc⟩] at hcarrier
    cases hcarrier
  | some carrier =>
    simp only [hcarrier, bind_eq_error] at h
    obtain h | ⟨constants, _, h⟩ := h
    · obtain ⟨x, hx, h⟩ := exists_of_mapM_eq_error h
      obtain ⟨base, htype, hc⟩ := Enumeration.carrierOf?_baseName_iff.mp hcarrier
      have hfits := Enumeration.exists_constant?_iff hc x.value
      rw [Enumeration.mapEntry] at h
      split at h
      · cases h
      · rename_i hnone
        cases h
        rw [hnone] at hfits
        have hbase : e.baseName = base := by rw [Enumeration.baseName, htype]; rfl
        refine ⟨e, he, rfl, ?_, hbase ▸ htype, x, hx, rfl, ?_⟩
        · exact hbase ▸ Enumeration.exists_carrierOf?_iff.mp ⟨carrier, hc⟩
        · rw [hbase, ← hfits]
          rintro ⟨v, hv⟩
          cases hv
    · cases h

theorem defect_of_translateDeclared {d : Declared} (hd : d ∈ m.primaries) {e : MappingError}
    (h : m.translateDeclared o d = .error e) : m.Defect e := by
  cases d with
  | struct s =>
    rw [translateDeclared, map_eq_error] at h
    exact defect_of_translateStructure (mem_primaries.mp hd) h
  | enumeration e => exact defect_of_enumeration (indexes_iff.mpr hd) h
  | typeAlias a =>
    refine (unresolved_of_translateSpec h).defect fun u hu => ?_
    exact .own (indexes_iff.mpr hd) rfl ⟨a.type, List.mem_singleton_self _, hu⟩

/-- Whatever the error that a model is refused with, the model has the defect that it names. -/
theorem defect_of_targetDecls {e : MappingError} (h : m.targetDecls o = .error e) :
    m.Defect e := by
  have hagree := collect_agree m o
  rw [map_eq_error.mp h] at hagree
  have htranslate : m.translatePrimaries o = .error e := hagree.eq_error
  obtain ⟨d, hd, h⟩ := exists_of_mapM_eq_error htranslate
  obtain h | ⟨s, _, h⟩ := bind_eq_error.mp h
  · exact defect_of_translateDeclared hd h
  · cases h

/-- `Item` inherits from `Base`, the first declaration of which is shadowed. -/
def undated : MetaModel where
  version := "1"
  requests := []
  notifications := []
  structures := [
    ⟨"Item", [⟨"kind", .base "string", false, {}⟩], [.reference "Base"], [], {}⟩,
    ⟨"Base", [⟨"id", .reference "Lost", false, {}⟩], [.reference "Base"], [], {}⟩,
    ⟨"Base", [⟨"since", .array (.base "date"), false, {}⟩], [], [], {}⟩]
  enumerations := []
  typeAliases := []

/-- The shadowed declaration is not to blame, and what `Item` inherits is. -/
theorem undated_defect :
    undated.targetDecls ⟨true, true⟩ = .error (.unknownBase "date" "Item") ∧
      undated.Defect (.unknownBase "date" "Item") := by
  have herror : undated.targetDecls ⟨true, true⟩ = .error (.unknownBase "date" "Item") :=
    map_eq_error.mpr (by decide +kernel)
  exact ⟨herror, defect_of_targetDecls herror⟩

end MetaModel
end ProtocolTypes
