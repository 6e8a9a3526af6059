import ProtocolTypes.Proofs.Mapping.Flattening
import ProtocolTypes.Proofs.Model.Ancestry
import ProtocolTypes.Proofs.Model.TypeExpr

/-!
# ProtocolTypes.Proofs.Mapping.Success

When a meta model has declarations. Types can be translated when the base types in them are known
and the references in them lead somewhere (`exists_translate_iff`), structures when also their
ancestry is sound, enumerations when their values fit their base type. `targetDecls_exist_iff`: a
model has declarations exactly when this holds of what its names stand for. Neither the options
nor declarations that are shadowed have a part in it.
-/

open Relation (TransGen)

namespace ProtocolTypes

open Target

/-! ## Sound models -/

/-- The base types that have a primitive. -/
def TypeExpr.knownBases : List String :=
  ["string", "URI", "DocumentUri", "RegExp", "integer", "uinteger", "decimal", "number", "boolean",
    "null"]

/-- The base types in `t` are known and the references in it lead to declarations. -/
structure MetaModel.Resolves (m : MetaModel) (t : TypeExpr) : Prop where
  base : ∀ name, TypeExpr.Part (.base name) t → name ∈ TypeExpr.knownBases
  reference : ∀ name, TypeExpr.Part (.reference name) t → ∃ d, m.Indexes d ∧ d.name = name

/-- Numbers have the numeric base types and strings the base type of strings. -/
def EnumerationValue.Fits (base : String) : EnumerationValue → Prop
  | .number _ => base ∈ ["integer", "uinteger", "number"]
  | .string _ => base = "string"

/-- The type is a base type that enumerations may have, and all values fit it. -/
def Enumeration.Sound (e : Enumeration) : Prop :=
  ∃ base ∈ ["integer", "uinteger", "number", "string"], e.type = .base base ∧
    ∀ entry ∈ e.values, entry.value.Fits base

/-- What a declaration needs to be mapped when its name stands for it. -/
def Declared.Sound (m : MetaModel) : Declared → Prop
  | .struct s => m.SoundAncestry s ∧ ∀ p ∈ s.properties, m.Resolves p.type
  | .enumeration e => e.Sound
  | .typeAlias a => m.Resolves a.type

/-! ## Types -/

theorem Target.Primitive.exists_ofBase_iff (name context : String) :
    (∃ p, Primitive.ofBase name context = .ok p) ↔ name ∈ TypeExpr.knownBases := by
  have hknown : (∃ p, Primitive.ofBase? name = some p) ↔ name ∈ TypeExpr.knownBases := by
    rw [Primitive.ofBase?.eq_def]
    split <;> simp_all [TypeExpr.knownBases]
  simp only [← hknown, MetaModel.ofBase_eq_ok_iff]

namespace MetaModel

variable {m : MetaModel} {documented : Bool} {context : String}

theorem exists_symbol_iff (m : MetaModel) (name context : String) :
    (∃ t, m.symbol name context = .ok t) ↔ ∃ d, m.Indexes d ∧ d.name = name := by
  simp only [symbol_eq_ok_iff, exists_eq_right', mem_names_iff_indexed]

/-- A type resolves when it does so itself and all its children do. -/
theorem resolves_iff {t : TypeExpr} :
    m.Resolves t ↔
      (∀ name, t = .base name → name ∈ TypeExpr.knownBases) ∧
      (∀ name, t = .reference name → ∃ d, m.Indexes d ∧ d.name = name) ∧
      ∀ c ∈ t.children, m.Resolves c := by
  constructor
  · rintro ⟨hbase, hreference⟩
    refine ⟨fun name ht => hbase name (ht ▸ .self), fun name ht => hreference name (ht ▸ .self), ?_⟩
    intro c hc
    exact ⟨fun name h => hbase name (.child hc h), fun name h => hreference name (.child hc h)⟩
  · rintro ⟨hbase, hreference, hchildren⟩
    constructor
    · intro name h
      rcases TypeExpr.part_iff.mp h with ht | ⟨c, hc, hpart⟩
      · exact hbase name ht.symm
      · exact (hchildren c hc).base name hpart
    · intro name h
      rcases TypeExpr.part_iff.mp h with ht | ⟨c, hc, hpart⟩
      · exact hreference name ht.symm
      · exact (hchildren c hc).reference name hpart

theorem resolves_of_isNull {t : TypeExpr} (h : t.isNull = true) : m.Resolves t := by
  cases t with
  | base name =>
    obtain rfl : name = "null" := by simpa [TypeExpr.isNull, TypeExpr.base?] using h
    refine resolves_iff.mpr ⟨fun name hname => ?_, fun name hname => ?_, fun c hc => ?_⟩
    · cases hname
      decide
    · cases hname
    · exact absurd hc List.not_mem_nil
  | _ => simp [TypeExpr.isNull, TypeExpr.base?] at h

theorem resolves_of_literal {t : TypeExpr} {v : LiteralValue} (h : t.literal? = some v) :
    m.Resolves t := by
  rw [resolves_iff]
  cases t with
  | stringLiteral | integerLiteral | booleanLiteral => simp [TypeExpr.children]
  | _ => cases h

/-- Children that are not parts are null or literals, and need no name. -/
theorem resolves_children_iff (hint : String) {t : TypeExpr} :
    (∀ c ∈ t.children, m.Resolves c) ↔ ∀ p ∈ t.parts hint, m.Resolves p.2 := by
  constructor
  · exact fun h p hp => h p.2 (TypeExpr.mem_children_of_mem_parts hp)
  · intro h c hc
    obtain hnull | ⟨v, hv⟩ | hmem := TypeExpr.mem_parts_of_mem_children hint hc
    · exact resolves_of_isNull hnull
    · exact resolves_of_literal hv
    · obtain ⟨p, hp, rfl⟩ := List.mem_map.mp hmem
      exact h p hp

/-- A type by itself can be translated when the name that it is, if it is one, is known. -/
theorem exists_outcomeShape_iff {ss : List Shape} {t : TypeExpr} :
    (∃ s, (m.outcomeShape documented context ss t).shape = .ok s) ↔
      (∀ name, t = .base name → name ∈ TypeExpr.knownBases) ∧
        ∀ name, t = .reference name → ∃ d, m.Indexes d ∧ d.name = name := by
  cases t with
  | base name =>
    have hbase := Primitive.exists_ofBase_iff name context
    simp [outcomeShape, Outcome.shape, ← hbase]
  | reference name =>
    have hsymbol := exists_symbol_iff m name context
    simp [outcomeShape, Outcome.shape, ← hsymbol]
  | or items =>
    rw [outcomeShape]
    cases TypeExpr.unionForm items <;> simp [Outcome.shape]
  | _ => simp [outcomeShape, Outcome.shape]

/-- What is made of the parts of a type exists where the parts and the type by itself resolve. -/
theorem exists_of_parts_iff {hint : String} {t : TypeExpr}
    {f : List Shape → Except MappingError Shape}
    (hparts : ∀ p ∈ t.parts hint,
      ((∃ s, m.translate documented context p.2 = .ok s) ↔ m.Resolves p.2))
    (hf : ∀ ss, (∃ s, f ss = .ok s) ↔
      ∃ s, (m.outcomeShape documented context ss t).shape = .ok s) :
    (∃ s, ((t.parts hint).mapM (fun p => m.translate documented context p.2) >>= f) = .ok s) ↔
      m.Resolves t := by
  rw [resolves_iff, resolves_children_iff hint, ← and_assoc, and_comm, ← forall₂_congr hparts,
    ← exists_mapM_eq_ok_iff]
  simp only [exists_outcomeShape_iff] at hf
  simp only [bind_eq_ok]
  constructor
  · rintro ⟨s, ss, hss, hs⟩
    exact ⟨⟨ss, hss⟩, (hf ss).mp ⟨s, hs⟩⟩
  · rintro ⟨⟨ss, hss⟩, hown⟩
    obtain ⟨s, hs⟩ := (hf ss).mpr hown
    exact ⟨s, ss, hss, hs⟩

/-- A type can be translated exactly when all names in it are known. -/
theorem exists_translate_iff {t : TypeExpr} :
    (∃ s, m.translate documented context t = .ok s) ↔ m.Resolves t := by
  induction t using TypeExpr.induct with
  | step t ih =>
    rw [translate_eq m documented context ""]
    exact exists_of_parts_iff (fun p hp => ih p.2 (TypeExpr.mem_children_of_mem_parts hp))
      fun ss => .rfl

/-- A declared union has a variant for null as well, which needs no name. -/
theorem exists_translateSpec_iff {t : TypeExpr} :
    (∃ s, m.translateSpec documented context t = .ok s) ↔ m.Resolves t := by
  rw [translateSpec_eq m documented context ""]
  exact exists_of_parts_iff (fun p _ => exists_translate_iff) fun ss =>
    Outcome.exists_declaredShape_iff _

theorem exists_translateProperty_iff {p : Property} :
    (∃ f, m.translateProperty documented context p = .ok f) ↔
      ∃ s, m.translate documented context p.type = .ok s := by
  simp [translateProperty_eq]

/-! ## Declarations -/

/-- What becomes fields of a record is among all properties, and its own are among them. -/
theorem exists_parts_of_flatten (flattenBases : Bool) {s : Structure} {all : List OwnedProperty}
    (h : m.flatten s = .ok all) :
    ∃ names properties, m.parts flattenBases s = .ok (names, properties) ∧
      properties ⊆ all ∧ s.ownProperties ⊆ properties := by
  obtain ⟨names, inherited, mixed, hparts, rfl⟩ := parts_false_of_flatten h
  cases flattenBases with
  | true =>
    refine ⟨[], _, parts_true h, List.Subset.refl _, ?_⟩
    intro p hp
    exact List.mem_append_right _ (List.mem_append_right _ hp)
  | false =>
    exact ⟨names, _, hparts, List.subset_append_right _ _, List.subset_append_right _ _⟩

theorem exists_translateDeclared_struct_iff {o : MappingOptions} {s : Structure} :
    (∃ shape, m.translateDeclared o (.struct s) = .ok shape) ↔
      ∃ names properties, m.parts o.flattenBases s = .ok (names, properties) ∧
        ∀ p ∈ properties, m.Resolves p.property.type := by
  rw [exists_translateStructure_iff]
  simp only [exists_translateProperty_iff, exists_translate_iff]

theorem sound_of_translateDeclared {o : MappingOptions} {s : Structure}
    (hs : m.find? s.name = some (.struct s))
    (h : ∃ shape, m.translateDeclared o (.struct s) = .ok shape) :
    (Declared.struct s).Sound m := by
  obtain ⟨names, properties, hparts, hproperties⟩ := exists_translateDeclared_struct_iff.mp h
  obtain ⟨all, hall⟩ := (parts_eq_ok hparts).1
  obtain ⟨names', properties', hparts', _, hown⟩ :=
    exists_parts_of_flatten o.flattenBases hall
  rw [hparts] at hparts'
  cases hparts'
  refine ⟨(exists_flatten_iff hs).mp ⟨all, hall⟩, fun p hp => ?_⟩
  exact hproperties ⟨s.name, p⟩ (hown (List.mem_map_of_mem hp))

/-- Inherited properties are those of structures that are sound as well. -/
theorem exists_translateDeclared_of_sound {o : MappingOptions}
    (hsound : ∀ d ∈ m.primaries, d.Sound m) {s : Structure} (hs : .struct s ∈ m.primaries) :
    ∃ shape, m.translateDeclared o (.struct s) = .ok shape := by
  obtain ⟨all, hall⟩ := (exists_flatten_iff (mem_primaries.mp hs)).mpr (hsound _ hs).1
  obtain ⟨names, properties, hparts, hsub, _⟩ :=
    exists_parts_of_flatten o.flattenBases hall
  refine exists_translateDeclared_struct_iff.mpr ⟨names, properties, hparts, fun p hp => ?_⟩
  obtain ⟨s', hs', hown⟩ := owner_of_mem_flattenFrom hall (hsub hp)
  have hprimary : .struct s' ∈ m.primaries := by
    rcases hs' with rfl | hfind
    · exact hs
    · exact mem_primaries.mpr hfind
  obtain ⟨q, hq, rfl⟩ := List.mem_map.mp hown
  exact (hsound _ hprimary).2 q hq

end MetaModel

namespace Enumeration

variable {e : Enumeration} {documented : Bool}

theorem exists_mapEntry_iff {carrier : Primitive} {entry : EnumerationEntry} :
    (∃ c, e.mapEntry documented carrier entry = .ok c) ↔
      ∃ v, constant? carrier entry.value = some v := by
  rw [mapEntry]
  cases constant? carrier entry.value <;> simp

/-- The carrier of a base type holds exactly the values that fit the base type. -/
theorem exists_constant?_iff {base : String} {carrier : Primitive}
    (h : carrierOf? base = some carrier) (value : EnumerationValue) :
    (∃ v, constant? carrier value = some v) ↔ value.Fits base := by
  rw [carrierOf?.eq_def] at h
  split at h <;> cases h <;> cases value <;> simp [constant?, EnumerationValue.Fits]

/-- A carrier shows that the type is a base type. -/
theorem carrierOf?_baseName_iff {carrier : Primitive} :
    carrierOf? e.baseName = some carrier ↔
      ∃ base, e.type = .base base ∧ carrierOf? base = some carrier := by
  rw [baseName]
  cases e.type with
  | base name => simp [TypeExpr.base?]
  | _ => simp [TypeExpr.base?, TypeExpr.kind, TypeKind.name, carrierOf?]

theorem exists_carrierOf?_iff {base : String} :
    (∃ carrier, carrierOf? base = some carrier) ↔
      base ∈ ["integer", "uinteger", "number", "string"] := by
  rw [carrierOf?.eq_def]
  split <;> simp_all

end Enumeration

namespace MetaModel

variable {m : MetaModel} {o : MappingOptions}

theorem exists_translateDeclared_enumeration_iff {e : Enumeration} :
    (∃ s, m.translateDeclared o (.enumeration e) = .ok s) ↔ e.Sound := by
  have hentries : ∀ carrier, (∃ cs, e.values.mapM (e.mapEntry o.documented carrier) = .ok cs) ↔
      ∀ entry ∈ e.values, ∃ v, Enumeration.constant? carrier entry.value = some v := by
    intro carrier
    rw [exists_mapM_eq_ok_iff]
    simp only [Enumeration.exists_mapEntry_iff]
  rw [translateDeclared]
  constructor
  · rintro ⟨s, hs⟩
    split at hs
    · cases hs
    · rename_i carrier hcarrier
      obtain ⟨base, htype, hbase⟩ := Enumeration.carrierOf?_baseName_iff.mp hcarrier
      simp only [bind_eq_ok] at hs
      obtain ⟨cs, hcs, _⟩ := hs
      refine ⟨base, Enumeration.exists_carrierOf?_iff.mp ⟨carrier, hbase⟩, htype, ?_⟩
      intro entry hentry
      exact (Enumeration.exists_constant?_iff hbase _).mp
        ((hentries carrier).mp ⟨cs, hcs⟩ entry hentry)
  · rintro ⟨base, hmem, htype, hvalues⟩
    obtain ⟨carrier, hbase⟩ := Enumeration.exists_carrierOf?_iff.mpr hmem
    have hcarrier := Enumeration.carrierOf?_baseName_iff.mpr ⟨base, htype, hbase⟩
    obtain ⟨cs, hcs⟩ := (hentries carrier).mpr fun entry hentry =>
      (Enumeration.exists_constant?_iff hbase _).mpr (hvalues entry hentry)
    simp [hcarrier, hcs]

theorem exists_targetDecls_iff_sound :
    (∃ ds, m.targetDecls o = .ok ds) ↔ ∀ d ∈ m.primaries, d.Sound m := by
  rw [exists_targetDecls_iff]
  constructor
  · intro h d hd
    cases d with
    | struct s => exact sound_of_translateDeclared (mem_primaries.mp hd) (h _ hd)
    | enumeration e => exact exists_translateDeclared_enumeration_iff.mp (h _ hd)
    | typeAlias a => exact exists_translateSpec_iff.mp (h _ hd)
  · intro h d hd
    cases d with
    | struct s => exact exists_translateDeclared_of_sound h hd
    | enumeration e => exact exists_translateDeclared_enumeration_iff.mpr (h _ hd)
    | typeAlias a => exact exists_translateSpec_iff.mpr (h _ hd)

/-- A model has declarations exactly when each of its names stands for a sound declaration, with
bases kept or copied, documented or not. -/
theorem targetDecls_exist_iff (m : MetaModel) (o : MappingOptions) :
    (∃ ds, m.targetDecls o = .ok ds) ↔
      ∀ d : Declared, m.Indexes d → d.Sound m := by
  simp only [indexes_iff]
  exact exists_targetDecls_iff_sound

def baseStructure (mixins : List TypeExpr) : Structure where
  name := "Base"
  properties := [⟨"id", .base "integer", false, {}⟩]
  bases := []
  mixins := mixins
  annotations := {}

def derivedStructure : Structure where
  name := "Item"
  properties := [⟨"kind", .reference "ItemKind", false, {}⟩]
  bases := [.reference "Base"]
  mixins := []
  annotations := {}

/-- The first declaration of the base is shadowed: it refers to nothing and is its own base. -/
def derivation (mixins : List TypeExpr) : MetaModel where
  version := "1"
  requests := []
  notifications := []
  structures := [
    ⟨"Base", [⟨"id", .reference "Lost", false, {}⟩], [.reference "Base"], [], {}⟩,
    baseStructure mixins, derivedStructure]
  enumerations := [⟨"ItemKind", .base "string", [⟨"Plain", .string "plain", {}⟩], false, {}⟩]
  typeAliases := []

def derivationDecls : List Decl := [
  .type ⟨"Base", {}, .record [] [⟨"id", "id", .primitive .int32, false, {}⟩]⟩,
  .type ⟨"Item", {}, .record [⟨"base", .symbol "Base"⟩]
    [⟨"kind", "kind", .symbol "ItemKind", false, {}⟩]⟩,
  .type ⟨"ItemKind", {}, .newtype .string⟩,
  .constants ⟨"ItemKind", [⟨"ItemKindPlain", .text "plain", {}⟩]⟩]

/-- With `Item` as a mixin, the base of `Item` inherits from itself. -/
theorem derivation_circular :
    TransGen (derivation [.reference "Item"]).Inherits (baseStructure [.reference "Item"])
      (baseStructure [.reference "Item"]) := by
  have hitem : (derivation [.reference "Item"]).Inherits (baseStructure [.reference "Item"])
      derivedStructure :=
    inherits_iff.mpr ⟨.mixin, .reference "Item", List.mem_cons_self, rfl⟩
  have hbase : (derivation [.reference "Item"]).Inherits derivedStructure
      (baseStructure [.reference "Item"]) :=
    inherits_iff.mpr ⟨.base, .reference "Base", List.mem_cons_self, rfl⟩
  exact .tail (.single hitem) hbase

/-- Without mixins the model has declarations, with any options. With the circle it has none. -/
theorem derivation_targetDecls :
    (derivation []).targetDecls {} = .ok derivationDecls ∧
      (∀ d, (derivation []).Indexes d → d.Sound (derivation [])) ∧
      (∀ o, ∃ ds, (derivation []).targetDecls o = .ok ds) ∧
      (derivation [.reference "Item"]).targetDecls {} =
        .error (.reference (.circular ["Base", "Item", "Base"])) ∧
      ¬ (Declared.struct (baseStructure [.reference "Item"])).Sound
        (derivation [.reference "Item"]) ∧
      ∀ o, ¬ ∃ ds, (derivation [.reference "Item"]).targetDecls o = .ok ds := by
  have hdecls : (derivation []).targetDecls {} = .ok derivationDecls :=
    targetDecls_of_collect (by decide +kernel)
  have hsound := (targetDecls_exist_iff (derivation []) {}).mp ⟨_, hdecls⟩
  have hcircular : ¬ (Declared.struct (baseStructure [.reference "Item"])).Sound
      (derivation [.reference "Item"]) := by
    rintro ⟨hancestry, _⟩
    exact hancestry.acyclic _ .refl derivation_circular
  have hindexed : (derivation [.reference "Item"]).Indexes
      (.struct (baseStructure [.reference "Item"])) :=
    indexes_iff.mpr (mem_primaries.mpr rfl)
  refine ⟨hdecls, hsound, fun o => ?_, map_eq_error.mpr (by decide +kernel), hcircular, ?_⟩
  · exact (targetDecls_exist_iff (derivation []) o).mpr hsound
  · intro o hexists
    exact hcircular ((targetDecls_exist_iff _ o).mp hexists _ hindexed)

end MetaModel
end ProtocolTypes
