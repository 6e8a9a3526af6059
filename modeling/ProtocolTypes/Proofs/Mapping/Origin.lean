import ProtocolTypes.Proofs.Mapping.Keeping
import ProtocolTypes.Proofs.Mapping.Meaning
import ProtocolTypes.Proofs.Mapping.Success

/-!
# ProtocolTypes.Proofs.Mapping.Origin

Where declarations come from, said without a registry. `Mapped` relates a type expression to the
types it can be mapped to, and `Made` to the declarations that can be made for it; `Step` and
`Place` follow the names that type expressions ask for through the model. `mapType_keeps` says that
mapping stays within these relations, and `Generated.origin` that each type of the output does: but
for the heap it is what a name of the model states, or was made for a type expression at a place.
-/

namespace ProtocolTypes

open Target

/-! ## Types and declarations that mapping makes -/

/-- What a type can be mapped to. Of a type that gets a declaration only the name remains, which is
one of those that were `given` to declarations. -/
inductive MetaModel.Mapped (m : MetaModel) (given : String → Prop) :
    TypeExpr → TargetType → Prop where
  | base {name : String} {p : Primitive} :
      Primitive.ofBase? name = some p → Mapped m given (.base name) (.primitive p)
  | reference {name : String} : name ∈ m.names → Mapped m given (.reference name) (.symbol name)
  | array {element : TypeExpr} {u : TargetType} :
      Mapped m given element u → Mapped m given (.array element) (.list u)
  | map {key value : TypeExpr} {k v : TargetType} :
      Mapped m given key k → Mapped m given value v → Mapped m given (.map key value) (.map k v)
  | tuple {items : List TypeExpr} {us : List TargetType} :
      List.Forall₂ (Mapped m given) items us → Mapped m given (.tuple items) (.tuple us)
  | stringLiteral {s : String} : Mapped m given (.stringLiteral s) (TypeExpr.only (.text s))
  | integerLiteral {i : Int64} : Mapped m given (.integerLiteral i) (TypeExpr.only (.integer i))
  | booleanLiteral {b : Bool} : Mapped m given (.booleanLiteral b) (TypeExpr.only (.boolean b))
  | intersection {items : List TypeExpr} {name : String} :
      given name → Mapped m given (.and items) (.symbol name)
  | literal {l : StructLiteral} {name : String} :
      given name → Mapped m given (.literal l) (.symbol name)
  | nothing {items : List TypeExpr} : TypeExpr.alternatives items = [] →
      Mapped m given (.or items)
        ((TargetType.primitive .unit).optionalIf (TypeExpr.hasNull items))
  | single {items : List TypeExpr} {t : TypeExpr} {u : TargetType} :
      TypeExpr.alternatives items = [t] → Mapped m given t u →
      Mapped m given (.or items) (u.optionalIf (TypeExpr.hasNull items))
  | limited {items : List TypeExpr} {u : TargetType} : TypeExpr.unionForm items = .literals u →
      Mapped m given (.or items) (u.optionalIf (TypeExpr.hasNull items))
  | union {items : List TypeExpr} {name : String} : TypeExpr.unionForm items = .variants →
      given name →
      Mapped m given (.or items) ((TargetType.symbol name).optionalIf (TypeExpr.hasNull items))

namespace MetaModel

/-- The field of a property, when the type of the property is mapped. -/
def MappedField (m : MetaModel) (documented : Bool) (given : String → Prop) (p : Property)
    (f : Field) : Prop :=
  ∃ u, m.Mapped given p.type u ∧ f = p.field documented u

/-- The variants for types in a row, which are the items of a union that are not null. -/
structure MappedVariants (m : MetaModel) (given : String → Prop) (taken : List String)
    (position : Nat) (ts : List TypeExpr) (vs : List Variant) : Prop where
  idents : vs.map (·.ident) = TypeExpr.variantIdents taken position ts
  types : List.Forall₂ (fun t v => ∃ u, v.type = some u ∧ m.Mapped given t u) ts vs

theorem MappedVariants.cons {m : MetaModel} {given : String → Prop} {taken : List String}
    {position : Nat} {t : TypeExpr} {ts : List TypeExpr} {u : TargetType} {vs : List Variant}
    (hu : m.Mapped given t u)
    (hvs : m.MappedVariants given (t.variantIdent taken position :: taken) (position + 1) ts vs) :
    m.MappedVariants given taken position (t :: ts)
      (⟨t.variantIdent taken position, some u⟩ :: vs) where
  idents := by rw [List.map_cons, hvs.idents, TypeExpr.variantIdents]
  types := .cons ⟨u, rfl, hu⟩ hvs.types

theorem mappedVariants_of_forall₂ {m : MetaModel} {given : String → Prop} {ts : List TypeExpr}
    {us : List TargetType} (h : List.Forall₂ (m.Mapped given) ts us) (taken : List String)
    (position : Nat) :
    m.MappedVariants given taken position ts
      (List.zipWith (fun ident u => ⟨ident, some u⟩) (TypeExpr.variantIdents taken position ts)
        us) := by
  induction h generalizing taken position with
  | nil => exact ⟨rfl, .nil⟩
  | cons hu _ ih => exact .cons hu (ih _ _)

theorem mappedFields_of_forall₂ {m : MetaModel} {given : String → Prop} (documented : Bool)
    {ps : List Property} {us : List TargetType}
    (h : List.Forall₂ (m.Mapped given) (ps.map (·.type)) us) :
    List.Forall₂ (m.MappedField documented given) ps
      (List.zipWith (Property.field documented) ps us) := by
  have hps := List.forall₂_map_left_iff.mp h
  clear h
  induction hps with
  | nil => exact .nil
  | cons hu _ ih => exact .cons ⟨_, hu, rfl⟩ ih

/-- The declarations that can be made for a type. -/
inductive Made (m : MetaModel) (documented : Bool) (given : String → Prop) :
    TypeExpr → TypeSpec → Prop where
  | union {items : List TypeExpr} {vs : List Variant} : TypeExpr.unionForm items = .variants →
      m.MappedVariants given [] 0 (TypeExpr.alternatives items) vs →
      Made m documented given (.or items) (.union vs)
  | intersection {items : List TypeExpr} {us : List TargetType} :
      List.Forall₂ (m.Mapped given) items us →
      Made m documented given (.and items) (MetaModel.intersection us)
  | literal {l : StructLiteral} {fields : List Field} :
      List.Forall₂ (m.MappedField documented given) l.properties fields →
      Made m documented given (.literal l) (inlineRecord fields)

/-- What a declared type can be stated as. The null of a union is a variant. -/
inductive Stated (m : MetaModel) (documented : Bool) (given : String → Prop) :
    TypeExpr → TypeSpec → Prop where
  | union {items : List TypeExpr} {vs : List Variant} : TypeExpr.unionForm items = .variants →
      m.MappedVariants given [] 0 (TypeExpr.alternatives items) vs →
      Stated m documented given (.or items) (.union (vs ++ nullVariant items))
  | intersection {items : List TypeExpr} {us : List TargetType} :
      List.Forall₂ (m.Mapped given) items us →
      Stated m documented given (.and items) (MetaModel.intersection us)
  | literal {l : StructLiteral} {fields : List Field} :
      List.Forall₂ (m.MappedField documented given) l.properties fields →
      Stated m documented given (.literal l) (inlineRecord fields)
  | synonym {t : TypeExpr} {u : TargetType} : t.specForm = .synonym → m.Mapped given t u →
      Stated m documented given t (.synonym u)

/-- The record for a structure. -/
def structRecord (names : List String) (fields : List Field) : TypeSpec :=
  .record (Members.distinct ⟨basesOf names, fields⟩).bases
    (Members.distinct ⟨basesOf names, fields⟩).fields

/-- What a name of the model can be declared as. -/
inductive Forms (m : MetaModel) (o : MappingOptions) (given : String → Prop) :
    Declared → TypeSpec → Prop where
  | struct {s : Structure} {names : List String} {properties : List OwnedProperty}
      {fields : List Field} : m.parts o.flattenBases s = .ok (names, properties) →
      List.Forall₂ (fun p => m.MappedField o.documented given p.property) properties fields →
      Forms m o given (.struct s) (structRecord names fields)
  | enumeration {e : Enumeration} {carrier : Primitive} :
      Enumeration.carrierOf? e.baseName = some carrier →
      Forms m o given (.enumeration e) (.newtype carrier)
  | typeAlias {a : TypeAlias} {spec : TypeSpec} : m.Stated o.documented given a.type spec →
      Forms m o given (.typeAlias a) spec

end MetaModel

/-! ## Names asked for -/

namespace Mapping

/-- Names and types that follow by a step belong to `P` as well. -/
def Closed (P : String → TypeExpr → Prop) : Prop :=
  ∀ ⦃hint hint' t t'⦄, P hint t → Step hint t hint' t' → P hint' t'

/-- The name was asked for by a type of `P` that needs a declaration. -/
def Given (P : String → TypeExpr → Prop) (name : String) : Prop :=
  ∃ hint t k, P hint t ∧ t.specForm ≠ .synonym ∧ name = Registry.candidate hint k

end Mapping

namespace MetaModel

/-- The declaration was made for a type of `P`, under a candidate for the name it asks for. -/
def MadeFor (m : MetaModel) (documented : Bool) (P : String → TypeExpr → Prop)
    (d : TypeDecl) : Prop :=
  ∃ hint t k, P hint t ∧ d.ident = Registry.candidate hint k ∧ d.docs = {} ∧
    m.Made documented (Mapping.Given P) t d.spec

/-- Where types stand in the model, and the names they ask for there. -/
inductive Place (m : MetaModel) : String → TypeExpr → Prop where
  | property {s : Structure} {p : Property} : .struct s ∈ m.primaries → p ∈ s.properties →
      Place m (s.name ++ Identifier.pascal p.name) p.type
  | typeAlias {a : TypeAlias} : .typeAlias a ∈ m.primaries → Place m a.name a.type
  | step {hint hint' : String} {t t' : TypeExpr} :
      Place m hint t → Mapping.Step hint t hint' t' → Place m hint' t'

variable {m : MetaModel} {documented : Bool} {given : String → Prop} {t : TypeExpr}

theorem closed_place : Mapping.Closed m.Place :=
  fun _ _ _ _ => .step

theorem Made.specForm {spec : TypeSpec} (h : m.Made documented given t spec) :
    t.specForm ≠ .synonym := by
  intro hsynonym
  cases h with
  | union hform _ =>
    rw [TypeExpr.specForm, hform] at hsynonym
    cases hsynonym
  | intersection _ => cases hsynonym
  | literal _ => cases hsynonym

/-! ## What mapping keeps -/

section Keeping

variable {P : String → TypeExpr → Prop} {context : String}

/-- A declaration is made and its name given. -/
theorem synthesize_keeps {hint : String} {spec : TypeSpec} (ht : P hint t)
    (hspec : m.Made documented (Mapping.Given P) t spec) :
    Keeps (m.MadeFor documented P) (Mapping.synthesize hint spec)
      fun u => ∃ name, Mapping.Given P name ∧ u = .symbol name := by
  refine .synthesize (fun k => ⟨hint, t, k, ht, rfl, rfl, hspec⟩) fun k => ?_
  exact ⟨_, ⟨hint, t, k, ht, hspec.specForm, rfl⟩, rfl⟩

/-- The outcome is what can become of the type. -/
inductive Settled (m : MetaModel) (documented : Bool) (given : String → Prop) (t : TypeExpr) :
    Outcome TargetType TypeSpec → Prop where
  | type {x : Except MappingError TargetType} : t.specForm = .synonym →
      (∀ u, x = .ok u → m.Mapped given t u) → Settled m documented given t (.type x)
  | declaration {spec : TypeSpec} {nullable : Bool} : m.Made documented given t spec →
      (∀ name, given name → m.Mapped given t ((TargetType.symbol name).optionalIf nullable)) →
      m.Stated documented given t (spec.orNull nullable) →
      Settled m documented given t (.declaration spec nullable)

theorem Settled.ok {u : TargetType} (hform : t.specForm = .synonym) (hu : m.Mapped given t u) :
    m.Settled documented given t (.type (.ok u)) :=
  .type hform fun _ hv => Except.ok.inj hv ▸ hu

theorem outcome_settled {hint : String} {us : List TargetType}
    (h : List.Forall₂ (m.Mapped given) ((t.parts hint).map Prod.snd) us) :
    m.Settled documented given t (m.outcome documented context us t) := by
  cases t with
  | base name =>
    refine .type rfl fun u hu => ?_
    obtain ⟨p, hp, rfl⟩ := map_eq_ok.mp hu
    exact .base (ofBase_eq_ok_iff.mp hp)
  | reference name =>
    refine .type rfl fun u hu => ?_
    obtain ⟨hname, rfl⟩ := symbol_eq_ok_iff.mp hu
    exact .reference hname
  | array element =>
    cases h with
    | cons hu hnil =>
      cases hnil
      exact .ok rfl (.array hu)
  | map key value =>
    cases h with
    | cons hk htail =>
      cases htail with
      | cons hv hnil =>
        cases hnil
        exact .ok rfl (.map hk hv)
  | tuple items =>
    rw [TypeExpr.parts, TypeExpr.map_snd_numbered] at h
    exact .ok rfl (.tuple h)
  | stringLiteral s => exact .ok rfl .stringLiteral
  | integerLiteral i => exact .ok rfl .integerLiteral
  | booleanLiteral b => exact .ok rfl .booleanLiteral
  | or items =>
    rw [TypeExpr.parts] at h
    rw [outcome]
    cases hform : TypeExpr.unionForm items with
    | single =>
      refine .ok (by rw [TypeExpr.specForm, hform]) ?_
      simp only [hform, List.map_map, Function.comp_def, List.map_id'] at h
      obtain halt | ⟨t, halt⟩ := TypeExpr.alternatives_of_single hform <;> rw [halt] at h
      · cases h
        exact .nothing halt
      · cases h with
        | cons hu _ => exact .single halt hu
    | literals u => exact .ok (by rw [TypeExpr.specForm, hform]) (.limited hform)
    | variants =>
      simp only [hform, TypeExpr.map_snd_named] at h
      have hvs := mappedVariants_of_forall₂ h [] 0
      exact .declaration (.union hform hvs) (fun name hname => .union hform hname)
        (.union hform hvs)
  | and items =>
    rw [TypeExpr.parts, TypeExpr.map_snd_numbered] at h
    exact .declaration (.intersection h) (fun name hname => .intersection hname)
      (.intersection h)
  | literal l =>
    rw [TypeExpr.parts, List.map_map] at h
    have hfields := mappedFields_of_forall₂ documented h
    exact .declaration (.literal hfields) (fun name hname => .literal hname) (.literal hfields)

theorem settle_keeps {hint : String} (ht : P hint t) {x : Outcome TargetType TypeSpec}
    (hx : m.Settled documented (Mapping.Given P) t x) :
    Keeps (m.MadeFor documented P) (Mapping.settle hint x) (m.Mapped (Mapping.Given P) t) := by
  cases hx with
  | type _ hmapped => exact .ofExcept hmapped
  | declaration hmade hmapped _ =>
    refine (synthesize_keeps ht hmade).map fun u hu => ?_
    obtain ⟨name, hname, rfl⟩ := hu
    exact hmapped name hname

theorem specify_keeps {D : TypeDecl → Prop} {x : Outcome TargetType TypeSpec}
    (hx : m.Settled documented given t x) :
    Keeps D (Mapping.specify x) (m.Stated documented given t) := by
  cases hx with
  | type hform hmapped => exact (Keeps.ofExcept hmapped).map fun u hu => .synonym hform hu
  | declaration _ _ hstated => exact .pure hstated

/-- Parts that are mapped one after another are related to their types one by one. -/
theorem parts_keep {D : TypeDecl → Prop} {ps : List (String × TypeExpr)}
    (h : ∀ p ∈ ps, Keeps D (m.mapPart documented context p) (m.Mapped given p.2)) :
    Keeps D (ps.mapM (m.mapPart documented context))
      (List.Forall₂ (m.Mapped given) (ps.map Prod.snd)) :=
  (Keeps.mapM h).mono fun _ => List.forall₂_map_left_iff.mpr

theorem mapType_keeps (hP : Mapping.Closed P) (hint : String) (t : TypeExpr) (ht : P hint t) :
    Keeps (m.MadeFor documented P) (m.mapType documented context hint t)
      (m.Mapped (Mapping.Given P) t) := by
  induction t using TypeExpr.induct generalizing hint with
  | step t ih =>
    rw [mapType_eq]
    refine (parts_keep fun p hp => ?part).bind fun us hus => settle_keeps ht (outcome_settled hus)
    case part =>
      exact ih p.2 (TypeExpr.mem_children_of_mem_parts hp) p.1
        (hP ht (Mapping.step_of_mem_parts hp))

theorem mapProperty_keeps (hP : Mapping.Closed P) (owner : String) (p : Property)
    (hp : P (owner ++ Identifier.pascal p.name) p.type) :
    Keeps (m.MadeFor documented P) (m.mapProperty documented context owner p)
      (m.MappedField documented (Mapping.Given P) p) := by
  rw [mapProperty_eq]
  exact (mapType_keeps hP _ p.type hp).map fun u hu => ⟨u, hu, rfl⟩

/-- A declared type follows the same steps as one without a name, and registers nothing else. -/
theorem mapSpec_keeps (hP : Mapping.Closed P) {name : String} (ht : P name t) :
    Keeps (m.MadeFor documented P) (m.mapSpec documented name t)
      (m.Stated documented (Mapping.Given P) t) := by
  rw [mapSpec_eq]
  refine (parts_keep fun p hp => ?part).bind fun us hus => specify_keeps (outcome_settled hus)
  case part => exact mapType_keeps hP p.1 p.2 (hP ht (Mapping.step_of_mem_parts hp))

end Keeping

/-! ## Declarations of names -/

variable {o : MappingOptions}

/-- Properties of a record are declared by structures that names stand for. -/
theorem owner_of_mem_parts {s : Structure} (hs : .struct s ∈ m.primaries) {names : List String}
    {properties : List OwnedProperty} (h : m.parts o.flattenBases s = .ok (names, properties))
    {p : OwnedProperty} (hp : p ∈ properties) :
    ∃ s', .struct s' ∈ m.primaries ∧ p ∈ s'.ownProperties := by
  obtain ⟨all, hall⟩ := (parts_eq_ok h).1
  obtain ⟨names', properties', h', hsub, _⟩ := exists_parts_of_flatten o.flattenBases hall
  rw [h] at h'
  cases h'
  obtain ⟨s', hs', hown⟩ := owner_of_mem_flattenFrom hall (hsub hp)
  rcases hs' with rfl | hfind
  · exact ⟨_, hs, hown⟩
  · exact ⟨s', mem_primaries.mpr hfind, hown⟩

theorem place_of_mem_parts {s : Structure} (hs : .struct s ∈ m.primaries) {names : List String}
    {properties : List OwnedProperty} (h : m.parts o.flattenBases s = .ok (names, properties))
    {p : OwnedProperty} (hp : p ∈ properties) :
    m.Place (p.owner ++ Identifier.pascal p.property.name) p.property.type := by
  obtain ⟨s', hs', hown⟩ := owner_of_mem_parts hs h hp
  obtain ⟨q, hq, rfl⟩ := List.mem_map.mp hown
  exact .property hs' hq

/-- It matters that the properties of the record are in `P`, not where the structure stands. -/
theorem mapStructure_keeps_of {P : String → TypeExpr → Prop} (hP : Mapping.Closed P) {s : Structure}
    (hproperties : ∀ names properties, m.parts o.flattenBases s = .ok (names, properties) →
      ∀ p ∈ properties, P (p.owner ++ Identifier.pascal p.property.name) p.property.type) :
    Keeps (m.MadeFor o.documented P) (m.mapStructure o s) fun d =>
      d.ident = s.name ∧ m.Forms o (Mapping.Given P) (.struct s) d.spec := by
  rw [mapStructure, recordParts_eq]
  refine (Keeps.ofResolution (Q := fun p => ∃ names,
    m.parts o.flattenBases s = .ok (names, p.2) ∧ p.1 = basesOf names) fun p hp => ?_).bind ?_
  · obtain ⟨⟨names, properties⟩, hparts, rfl⟩ := map_eq_ok.mp hp
    exact ⟨names, hparts, rfl⟩
  · rintro ⟨_, properties⟩ ⟨names, hparts, rfl⟩
    refine (Keeps.mapM fun p hp => mapProperty_keeps hP p.owner p.property
      (hproperties names properties hparts p hp)).bind fun fields hfields => ?_
    exact .pure ⟨rfl, .struct hparts hfields⟩

theorem mapStructure_keeps {s : Structure} (hs : .struct s ∈ m.primaries) :
    Keeps (m.MadeFor o.documented m.Place) (m.mapStructure o s) fun d =>
      d.ident = s.name ∧ m.Forms o (Mapping.Given m.Place) (.struct s) d.spec :=
  mapStructure_keeps_of closed_place fun _ _ hparts _ hp => place_of_mem_parts hs hparts hp

/-- A name gets one type, of a form that the name can be declared as. -/
theorem mapDeclared_keeps {d : Declared} (hd : d ∈ m.primaries) :
    Keeps (m.MadeFor o.documented m.Place) (m.mapDeclared o d) fun ds =>
      ∀ t ∈ typeDecls ds, t.ident = d.name ∧ m.Forms o (Mapping.Given m.Place) d t.spec := by
  cases d with
  | struct s =>
    rw [mapDeclared]
    refine (mapStructure_keeps hd).bind fun t ht => .pure fun t' ht' => ?_
    obtain rfl := List.mem_singleton.mp ht'
    exact ht
  | enumeration e =>
    rw [mapDeclared]
    refine (Keeps.ofExcept (Q := fun p => p.1.ident = e.name ∧
      m.Forms o (Mapping.Given m.Place) (.enumeration e) p.1.spec) fun p hp => ?_).bind
      fun p hp => .pure fun t' ht' => ?_
    · rw [Enumeration.declare] at hp
      split at hp
      · cases hp
      · rename_i carrier hcarrier
        obtain ⟨constants, _, heq⟩ := bind_eq_ok.mp hp
        cases heq
        exact ⟨rfl, .enumeration hcarrier⟩
    · obtain rfl := List.mem_singleton.mp ht'
      exact hp
  | typeAlias a =>
    rw [mapDeclared, mapAlias, declare]
    have hspec : Keeps (m.MadeFor o.documented m.Place) (m.mapSpec o.documented a.name a.type)
        (m.Stated o.documented (Mapping.Given m.Place) a.type) :=
      mapSpec_keeps closed_place (.typeAlias hd)
    refine (hspec.bind (R := fun t => t.ident = a.name ∧
      m.Forms o (Mapping.Given m.Place) (.typeAlias a) t.spec)
      fun spec hspec => .pure ⟨rfl, .typeAlias hspec⟩).bind fun t ht => .pure fun t' ht' => ?_
    obtain rfl := List.mem_singleton.mp ht'
    exact ht

theorem mapPrimaries_keeps (m : MetaModel) (o : MappingOptions) :
    Keeps (m.MadeFor o.documented m.Place) (m.mapPrimaries o) fun ds =>
      ∀ t ∈ typeDecls ds, ∃ d ∈ m.primaries,
        t.ident = d.name ∧ m.Forms o (Mapping.Given m.Place) d t.spec := by
  rw [mapPrimaries]
  refine (Keeps.mapM fun d hd => mapDeclared_keeps hd).bind fun dss hdss => .pure fun t ht => ?_
  rw [mem_typeDecls, List.mem_flatten] at ht
  obtain ⟨ds, hds, ht⟩ := ht
  obtain ⟨d, hd, h⟩ := exists_of_forall₂_right hdss hds
  exact ⟨d, hd, h t (mem_typeDecls.mpr ht)⟩

/-! ## All declarations -/

/-- What a declaration was before its parts moved to the heap: that of a name of the model, or one
made for a type without a name. -/
def Origin (m : MetaModel) (o : MappingOptions) (u : TypeDecl) : Prop :=
  (∃ d ∈ m.primaries, u.ident = d.name ∧ m.Forms o (Mapping.Given m.Place) d u.spec) ∨
    u.ident ∉ m.names ∧ m.MadeFor o.documented m.Place u

theorem Generated.origin {ds : List Decl} {set : DeclSet} {ps : List (Declared × Shape)}
    {r : Registry} {dss : List (List Decl)} (h : Generated m o ds set ps r dss) {t : TypeDecl}
    (ht : .type t ∈ ds) : ∃ u g, u.box g = t ∧ m.Origin o u := by
  obtain ⟨u, hu, rfl⟩ := h.exists_of_type_mem ht
  refine ⟨u, _, rfl, ?_⟩
  obtain ⟨hmade, hforms⟩ := mapPrimaries_keeps m o (.empty m.names) fun d hd => by cases hd
  rw [h.collected.run] at hmade hforms
  rcases List.mem_append.mp hu with hu | hu
  · exact .inl (hforms _ rfl u hu)
  · refine .inr ⟨?_, hmade u hu⟩
    exact h.collected.fits.reserved ▸ h.collected.fits.wellFormed.fresh u hu

end MetaModel
end ProtocolTypes
