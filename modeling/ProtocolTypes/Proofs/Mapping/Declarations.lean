import ProtocolTypes.Mapping.Declarations
import ProtocolTypes.Proofs.Mapping.Translation
import ProtocolTypes.Proofs.Model.Inheritance

/-!
# ProtocolTypes.Proofs.Mapping.Declarations

What is declared for the names of a model. Each name is translated by itself (`translateDeclared`),
and collecting the declarations simulates that (`collect_agree`): whether there are any, and what
they mean, does not depend on what was registered before.
-/

namespace ProtocolTypes

open Target

namespace MetaModel

/-! ## Structures -/

/-- The names of the bases of a record and the properties that become its fields. -/
def parts (m : MetaModel) (flattenBases : Bool) (s : Structure) :
    Except ReferenceError (List String × List OwnedProperty) := do
  let all ← m.flatten s
  if flattenBases then return ([], all)
  else do
    let names ← m.baseNames s
    let mixed ← m.flattenMixins s
    return (names, mixed ++ s.ownProperties)

def basesOf (names : List String) : List Base :=
  names.map fun name => Base.ofType (.symbol name)

theorem idents_basesOf (names : List String) :
    (basesOf names).map (·.ident) = names.map Identifier.member := by
  simp only [basesOf, Base.ofType, TargetType.symbol?, Option.getD_some, List.map_map,
    Function.comp_def]

theorem recordParts_eq (m : MetaModel) (flattenBases : Bool) (s : Structure) :
    m.recordParts flattenBases s =
      (m.parts flattenBases s).map fun p => (basesOf p.1, p.2) := by
  rw [recordParts, parts]
  cases m.flatten s with
  | error e => rfl
  | ok all =>
    cases flattenBases with
    | true => rfl
    | false =>
      cases m.baseNames s with
      | error e => rfl
      | ok names => cases m.flattenMixins s <;> rfl

theorem parts_true {m : MetaModel} {s : Structure} {all : List OwnedProperty}
    (h : m.flatten s = .ok all) : m.parts true s = .ok ([], all) := by
  rw [parts, h]
  rfl

theorem parts_false {m : MetaModel} {s : Structure} {all mixed : List OwnedProperty}
    {names : List String} (h : m.flatten s = .ok all) (hn : m.baseNames s = .ok names)
    (hm : m.flattenMixins s = .ok mixed) :
    m.parts false s = .ok (names, mixed ++ s.ownProperties) := by
  rw [parts, h, hn, hm]
  rfl

/-- Inheritance is sound wherever a record has parts, and its bases are structures. -/
theorem parts_eq_ok {m : MetaModel} {flattenBases : Bool} {s : Structure} {names : List String}
    {properties : List OwnedProperty} (h : m.parts flattenBases s = .ok (names, properties)) :
    (∃ all, m.flatten s = .ok all) ∧
      ∀ name ∈ names, ∃ p, m.find? name = some (.struct p) := by
  simp only [parts, bind_eq_ok] at h
  obtain ⟨all, hall, h⟩ := h
  refine ⟨⟨all, hall⟩, fun name hname => ?_⟩
  cases flattenBases with
  | true =>
    cases h
    cases hname
  | false =>
    simp only [Bool.false_eq_true, if_false, bind_eq_ok, pure_eq_ok] at h
    obtain ⟨bases, hbases, mixed, _, heq⟩ := h
    cases heq
    exact find?_of_mem_baseNames hbases hname

/-- What the record for a structure means: the names of its bases and its fields, before members
of one name are told apart. -/
def translateStructure (m : MetaModel) (o : MappingOptions) (s : Structure) :
    Except MappingError (List String × List FieldShape) := do
  let (names, properties) ← (m.parts o.flattenBases s).mapError .reference
  let fields ← properties.mapM fun p => m.translateProperty o.documented s.name p.property
  return (names, fields)

theorem translateStructure_eq_ok {m : MetaModel} {o : MappingOptions} {s : Structure}
    {names : List String} {fs : List FieldShape} :
    m.translateStructure o s = .ok (names, fs) ↔
      ∃ properties, m.parts o.flattenBases s = .ok (names, properties) ∧
        properties.mapM (fun p => m.translateProperty o.documented s.name p.property) = .ok fs := by
  simp only [translateStructure, bind_eq_ok, mapError_eq_ok, pure_eq_ok, Prod.exists, Prod.mk.injEq]
  constructor
  · rintro ⟨_, properties, hparts, _, hfs, rfl, rfl⟩
    exact ⟨properties, hparts, hfs⟩
  · rintro ⟨properties, hparts, hfs⟩
    exact ⟨names, properties, hparts, fs, hfs, rfl, rfl⟩

theorem Simulates.ofResolution {α β : Type} {m : MetaModel} {r : Registry} (hr : r.Fits m)
    (y : Except ReferenceError α) (f : α → β) :
    Simulates m r (Mapping.ofResolution (y.map f)) (y.mapError .reference)
      fun _ b a => b = f a ∧ y = .ok a := by
  cases y with
  | ok a => exact .pure hr ⟨rfl, rfl⟩
  | error e => exact ⟨hr, .refl r, rfl⟩

variable {m : MetaModel} {r : Registry} {o : MappingOptions}

theorem shape_basesOf (hr : r.Fits m) {names : List String}
    (h : ∀ name ∈ names, ∃ p, m.find? name = some (.struct p)) :
    ((basesOf names).map (·.type)).mapM (TargetType.shape r.meaning) =
      some (names.map .symbol) := by
  rw [basesOf, List.map_map, List.mapM_map, mapM_eq_some_iff, List.forall₂_map_right_iff,
    List.forall₂_same]
  intro name hn
  obtain ⟨p, hp⟩ := h name hn
  exact Registry.meaning_of_reserved (hr.reserved ▸ mem_names.mpr ⟨_, hp⟩)

/-- A type declaration under a name, of a form, and in the registry of the shape. -/
structure TypeDenotes (name : String) (docs : Docs) (form : SpecForm) (r : Registry)
    (t : TypeDecl) (s : Shape) : Prop where
  ident : t.ident = name
  docs : t.docs = docs
  form : t.spec.form = form
  shape : t.spec.shape r.meaning = some s

theorem TypeDenotes.mono {name : String} {docs : Docs} {form : SpecForm} {r' : Registry}
    (hext : r.Extends r') {t : TypeDecl} {s : Shape} (h : TypeDenotes name docs form r t s) :
    TypeDenotes name docs form r' t s :=
  ⟨h.ident, h.docs, h.form, TypeSpec.shape_mono hext.meaning h.shape⟩

theorem mapStructure_simulates (hr : r.Fits m) (s : Structure) :
    Simulates m r (m.mapStructure o s)
      ((fun p => Shape.ofMembers p.1 p.2) <$> m.translateStructure o s)
      (TypeDenotes s.name (Docs.ofAnnotations o.documented s.annotations) .record) := by
  rw [mapStructure, translateStructure, recordParts_eq, map_bind]
  refine (Simulates.ofResolution hr _ _).bind ?_
  rintro r₁ _ ⟨names, properties⟩ hr₁ _ ⟨rfl, hparts⟩
  rw [map_bind]
  have hfields := Simulates.mapM (R := FieldDenotes) hr₁
    (fun _ _ _ _ hext => FieldDenotes.mono hext)
    fun (p : OwnedProperty) (_ : p ∈ properties) r' hr' =>
      @mapProperty_simulates m o.documented s.name r' p.owner p.property hr'
  refine hfields.bind fun r₂ fields fs hr₂ _ h => .pure hr₂ ⟨rfl, rfl, rfl, ?_⟩
  have hshape : fields.mapM (Field.shape r₂.meaning) = some fs := mapM_eq_some_iff.mpr h
  rw [TypeSpec.shape, TargetType.shapes_eq, Members.types_bases_distinct,
    shape_basesOf hr₂ (parts_eq_ok hparts).2, Members.mapM_shape_fields_distinct hshape,
    idents_basesOf]
  rfl

/-! ## Declared names -/

end MetaModel

theorem Enumeration.declare_of_carrier (documented : Bool) {e : Enumeration} {carrier : Primitive}
    (h : carrierOf? e.baseName = some carrier) :
    e.declare documented = (e.values.mapM (e.mapEntry documented carrier)).map fun constants =>
      (⟨e.name, Docs.ofAnnotations documented e.annotations, .newtype carrier⟩,
        ⟨e.name, constants⟩) := by
  rw [declare, h]
  dsimp only
  cases e.values.mapM (e.mapEntry documented carrier) <;> rfl

namespace Declared

def annotations : Declared → Annotations
  | .struct s => s.annotations
  | .enumeration e => e.annotations
  | .typeAlias a => a.annotations

/-- The constants of an enumeration. -/
def block? (documented : Bool) : Declared → Option ConstBlock
  | .enumeration e => (e.declare documented).toOption.map Prod.snd
  | .struct _ | .typeAlias _ => none

theorem block?_eq_some {documented : Bool} {d : Declared} {b : ConstBlock} :
    d.block? documented = some b ↔
      ∃ e t, d = .enumeration e ∧ e.declare documented = .ok (t, b) := by
  cases d with
  | enumeration e =>
    rw [block?]
    cases h : e.declare documented with
    | error err => simp [Except.toOption, h]
    | ok p => simp [Except.toOption, h, Prod.ext_iff]
  | struct | typeAlias => simp [block?]

theorem owner_of_block? {documented : Bool} {d : Declared} {b : ConstBlock}
    (h : d.block? documented = some b) : b.owner = d.name := by
  obtain ⟨e, t, rfl, hdeclare⟩ := block?_eq_some.mp h
  cases hc : Enumeration.carrierOf? e.baseName with
  | none => rw [Enumeration.declare, hc] at hdeclare; cases hdeclare
  | some carrier =>
    rw [Enumeration.declare_of_carrier documented hc] at hdeclare
    cases hv : e.values.mapM (e.mapEntry documented carrier) with
    | error err => rw [hv] at hdeclare; cases hdeclare
    | ok constants => rw [hv] at hdeclare; cases hdeclare; rfl

/-- Constants belong to names, each name has at most one block, and the order is that of names. -/
theorem owners_sublist (documented : Bool) (ds : List Declared) :
    ((ds.filterMap (block? documented)).map (·.owner)).Sublist (ds.map name) := by
  induction ds with
  | nil => exact .slnil
  | cons d ds ih =>
    cases hb : d.block? documented with
    | none => rw [List.filterMap_cons_none hb]; exact ih.cons _
    | some b =>
      rw [List.filterMap_cons_some hb, List.map_cons, List.map_cons, owner_of_block? hb]
      exact ih.cons_cons _

/-- Structures become records and enumerations wrappers of their base type. -/
def form : Declared → SpecForm
  | .struct _ => .record
  | .enumeration _ => .newtype
  | .typeAlias a => a.type.specForm

end Declared

namespace MetaModel

variable {m : MetaModel} {r : Registry} {o : MappingOptions}

/-- What the declaration of a name means. -/
def translateDeclared (m : MetaModel) (o : MappingOptions) : Declared → Except MappingError Shape
  | .struct s => (fun p => .ofMembers p.1 p.2) <$> m.translateStructure o s
  | .enumeration e =>
    match Enumeration.carrierOf? e.baseName with
    | none => .error (.enumerationBase e.name e.baseName)
    | some carrier => do
      let _ ← e.values.mapM (e.mapEntry o.documented carrier)
      return .newtype carrier
  | .typeAlias a => m.translateSpec o.documented a.name a.type

theorem exists_declare {e : Enumeration} {s : Shape}
    (h : m.translateDeclared o (.enumeration e) = .ok s) :
    ∃ t b, e.declare o.documented = .ok (t, b) := by
  rw [translateDeclared] at h
  cases hc : Enumeration.carrierOf? e.baseName with
  | none => rw [hc] at h; cases h
  | some carrier =>
    simp only [hc, bind_eq_ok] at h
    obtain ⟨constants, hconstants, _⟩ := h
    rw [Enumeration.declare_of_carrier o.documented hc, hconstants]
    exact ⟨_, _, rfl⟩

/-- All declarations for a name: the type and the constants. -/
def DeclaredDenotes (o : MappingOptions) (d : Declared) (r : Registry) (ds : List Decl)
    (s : Shape) : Prop :=
  ∃ t, ds = .type t :: (d.block? o.documented).toList.map .constants ∧
    TypeDenotes d.name (Docs.ofAnnotations o.documented d.annotations) d.form r t s

theorem DeclaredDenotes.mono {d : Declared} {r' : Registry} (hext : r.Extends r') {ds : List Decl}
    {s : Shape} (h : DeclaredDenotes o d r ds s) : DeclaredDenotes o d r' ds s :=
  h.imp fun _ ht => ⟨ht.1, ht.2.mono hext⟩

theorem declare_simulates {documented : Bool} (hr : r.Fits m) (name : String) (t : TypeExpr)
    (docs : Docs) :
    Simulates m r (m.declare documented name t docs) (m.translateSpec documented name t)
      (TypeDenotes name docs t.specForm) := by
  rw [declare, ← bind_pure (m.translateSpec documented name t)]
  refine (mapSpec_simulates name t hr).bind fun r' spec s hr' _ h => ?_
  exact .pure hr' ⟨rfl, rfl, h.2, h.1⟩

theorem mapAlias_simulates (hr : r.Fits m) (a : TypeAlias) :
    Simulates m r (m.mapAlias o a) (m.translateSpec o.documented a.name a.type)
      (TypeDenotes a.name (Docs.ofAnnotations o.documented a.annotations) a.type.specForm) :=
  declare_simulates hr a.name a.type _

theorem mapDeclared_simulates (hr : r.Fits m) (d : Declared) :
    Simulates m r (m.mapDeclared o d) (m.translateDeclared o d) (DeclaredDenotes o d) := by
  cases d with
  | struct s =>
    rw [mapDeclared, translateDeclared, ← bind_pure (_ <$> _)]
    refine (mapStructure_simulates hr s).bind fun r' t s hr' _ h => ?_
    exact .pure hr' ⟨t, rfl, h⟩
  | enumeration e =>
    rw [mapDeclared, translateDeclared]
    cases hc : Enumeration.carrierOf? e.baseName with
    | none =>
      rw [show e.declare o.documented = _ by rw [Enumeration.declare, hc]]
      exact ⟨hr, .refl r, rfl⟩
    | some carrier =>
      have hdeclare := Enumeration.declare_of_carrier o.documented hc
      cases hv : e.values.mapM (e.mapEntry o.documented carrier) with
      | error err =>
        rw [hv] at hdeclare
        dsimp only
        rw [hdeclare, hv]
        exact ⟨hr, .refl r, rfl⟩
      | ok constants =>
        rw [hv] at hdeclare
        dsimp only
        rw [hdeclare, hv]
        exact .pure hr ⟨_, by rw [Declared.block?, hdeclare]; rfl, rfl, rfl, rfl, rfl⟩
  | typeAlias a =>
    rw [mapDeclared, translateDeclared, ← bind_pure (m.translateSpec _ _ _)]
    refine (mapAlias_simulates hr a).bind fun r' t s hr' _ h => ?_
    exact .pure hr' ⟨t, rfl, h⟩

/-! ## All declarations -/

/-- What the declarations of all names mean, each with what the name stands for. -/
def translatePrimaries (m : MetaModel) (o : MappingOptions) :
    Except MappingError (List (Declared × Shape)) :=
  m.primaries.mapM fun d => do return (d, ← m.translateDeclared o d)

theorem translatePrimaries_eq_ok {ps : List (Declared × Shape)} :
    m.translatePrimaries o = .ok ps ↔
      List.Forall₂ (fun d p => p.1 = d ∧ m.translateDeclared o d = .ok p.2) m.primaries ps := by
  have hone : ∀ d p, (do return (d, ← m.translateDeclared o d)) = Except.ok p ↔
      p.1 = d ∧ m.translateDeclared o d = .ok p.2 := by
    rintro d ⟨d', s⟩
    simp only [bind_eq_ok, pure_eq_ok, Prod.mk.injEq]
    constructor
    · rintro ⟨_, h, rfl, rfl⟩
      exact ⟨rfl, h⟩
    · rintro ⟨rfl, h⟩
      exact ⟨s, h, rfl, rfl⟩
  rw [translatePrimaries, mapM_eq_ok_iff]
  simp only [hone]

/-- A set of declarations from one run: those of the names, by what they mean in the registry that
the run leaves behind, and those of that registry. -/
structure Collected (m : MetaModel) (o : MappingOptions) (set : DeclSet)
    (ps : List (Declared × Shape)) (r : Registry) (dss : List (List Decl)) : Prop where
  run : (m.mapPrimaries o).run (.empty m.names) = (.ok dss.flatten, r)
  decls : set.decls = dss.flatten ++ r.decls.map .type
  fits : r.Fits m
  denotes : List.Forall₂ (fun ds p => DeclaredDenotes o p.1 r ds p.2) dss ps

/-- Names that are mapped one after another mean what each of them means. -/
theorem mapM_mapDeclared_simulates (hr : r.Fits m) (ds : List Declared) :
    Simulates m r (ds.mapM (m.mapDeclared o))
      (ds.mapM fun d => do return (d, ← m.translateDeclared o d))
      fun r => List.Forall₂ fun ds p => DeclaredDenotes o p.1 r ds p.2 := by
  refine .mapM (R := fun r ds (p : Declared × Shape) => DeclaredDenotes o p.1 r ds p.2) hr
    (fun _ _ _ _ hext => DeclaredDenotes.mono hext) fun d _ r hr => ?_
  rw [← bind_pure (m.mapDeclared o d)]
  exact (mapDeclared_simulates hr d).bind fun r' ds s hr' _ h => .pure hr' h

theorem collect_agree (m : MetaModel) (o : MappingOptions) :
    Agree (fun set ps => ∃ r dss, Collected m o set ps r dss) (m.collect o)
      (m.translatePrimaries o) := by
  obtain ⟨hfits, _, hagree⟩ : Simulates m (.empty m.names) (m.primaries.mapM (m.mapDeclared o))
      (m.translatePrimaries o) _ := mapM_mapDeclared_simulates (.empty m) m.primaries
  rcases hrun : (m.primaries.mapM (m.mapDeclared o)).run (.empty m.names) with ⟨e | dss, r⟩ <;>
    rw [hrun] at hfits hagree
  · have herror : (m.mapPrimaries o).run (.empty m.names) = (.error e, r) := by
      rw [mapPrimaries, Mapping.run_bind, hrun]
    rw [collect, herror]
    cases hps : m.translatePrimaries o with
    | error e' => rwa [hps] at hagree
    | ok ps => rw [hps] at hagree; cases hagree
  · have hok : (m.mapPrimaries o).run (.empty m.names) = (.ok dss.flatten, r) := by
      rw [mapPrimaries, Mapping.run_bind, hrun]
      rfl
    obtain ⟨ps, hps, hdenotes⟩ := hagree.exists_of_ok
    rw [collect, hok, hps]
    exact ⟨r, dss, hok, rfl, hfits, hdenotes⟩

end MetaModel
end ProtocolTypes
