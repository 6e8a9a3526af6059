import ProtocolTypes.Proofs.Mapping.Parts
import ProtocolTypes.Proofs.Mapping.Simulation
import ProtocolTypes.Proofs.Model.Declared
import ProtocolTypes.Proofs.Target.Members

/-!
# ProtocolTypes.Proofs.Mapping.Translation

The translation of type expressions to shapes, without a registry. Mapping simulates it from every
registry (`mapType_simulates`): it fails with the same error, and else the type it gives stands for
the translation. `mapSpec_simulates` says so for the declarations of named types. As mapping does,
translation goes by the parts of a type (`translate_eq`), so that it is enough to compare what
becomes of a type whose parts are known (`outcome_denotes`).
-/

namespace ProtocolTypes

open Target

/-! ## The translation -/

/-- The forms of declarations. -/
inductive SpecForm where
  | record
  | union
  | synonym
  | newtype
deriving DecidableEq, Repr

def Target.TypeSpec.form : TypeSpec → SpecForm
  | .record _ _ => .record
  | .union _ => .union
  | .synonym _ => .synonym
  | .newtype _ => .newtype

theorem Target.TypeSpec.form_box (cycle : List String) (spec : TypeSpec) :
    (spec.box cycle).form = spec.form := by
  cases spec <;> rfl

namespace TypeExpr

/-- The form of the declaration of a named type. -/
def specForm : TypeExpr → SpecForm
  | .or items =>
    match unionForm items with
    | .variants => .union
    | _ => .synonym
  | .and _ | .literal _ => .record
  | _ => .synonym

/-- The values of the literals among the items. -/
def literalValues (items : List TypeExpr) : List LiteralValue :=
  items.filterMap literal?

end TypeExpr

namespace Target.Shape

/-- The primitive of the first value, limited to the values. -/
def limited : List LiteralValue → Shape
  | [] => .primitive .unit
  | v :: vs => .constrained v.primitive (v :: vs)

/-- The shape of a record with bases of the given names. Members of one name are told apart, those
of the bases first. -/
def ofMembers (bases : List String) (fields : List FieldShape) : Shape :=
  .record (bases.map .symbol)
    (FieldShape.named
      (Members.fieldNames (bases.map Identifier.member) (fields.map (·.ident))) fields)

end Target.Shape

/-- The shape of the field for a property whose type has a shape. A notice of deprecation is kept
where documentation is not wanted. -/
def Property.fieldShape (documented : Bool) (p : Property) (s : Shape) : FieldShape where
  ident := Identifier.member p.name
  wireName := p.name
  type := s.optionalIf p.optional
  optional := p.optional
  docs := {
    text := if documented then p.annotations.documentation else none
    since := if documented then p.annotations.since else none
    proposed := documented && p.annotations.proposed
    deprecated := p.annotations.deprecated }

/-- The union of the shapes of types, with a variant for each. -/
def Target.Shape.ofVariants (ts : List TypeExpr) (ss : List Shape) : Shape :=
  .union (List.zipWith (fun ident s => ⟨ident, some s⟩) (TypeExpr.variantIdents [] 0 ts) ss)

namespace MetaModel

section Translation

variable (m : MetaModel) (documented : Bool) (context : String)

mutual

/-- What a type expression means. Errors mention the declaration `context`. -/
def translate : TypeExpr → Except MappingError Shape
  | .base name => return .primitive (← Primitive.ofBase name context)
  | .reference name => do
    let _ ← m.symbol name context
    return .symbol name
  | .array element => return .list (← translate element)
  | .map key value => do
    let k ← translate key
    let v ← translate value
    return .map k v
  | .tuple items => return .tuple (← translateItems items)
  | .stringLiteral s => return .limited [.text s]
  | .integerLiteral i => return .limited [.integer i]
  | .booleanLiteral b => return .limited [.boolean b]
  | .or items => do
    let s ←
      match TypeExpr.unionForm items with
      | .single => translateSingle items
      | .literals _ => pure (.limited (TypeExpr.literalValues items))
      | .variants => do
        let vs ← translateVariants [] 0 items
        pure (.union vs)
    return s.optionalIf (TypeExpr.hasNull items)
  | .and items => return .record (← translateItems items) []
  | .literal l => return .ofMembers [] (← translateLiteral l)

def translateItems : List TypeExpr → Except MappingError (List Shape)
  | [] => return []
  | t :: rest => do
    let s ← translate t
    return s :: (← translateItems rest)

def translateSingle : List TypeExpr → Except MappingError Shape
  | [] => return .primitive .unit
  | t :: rest => if t.isNull then translateSingle rest else translate t

def translateVariants (taken : List String) (position : Nat) :
    List TypeExpr → Except MappingError (List VariantShape)
  | [] => return []
  | t :: rest =>
    if t.isNull then translateVariants taken position rest
    else do
      let ident := t.variantIdent taken position
      let s ← translate t
      let vs ← translateVariants (ident :: taken) (position + 1) rest
      return ⟨ident, some s⟩ :: vs

def translateLiteral : StructLiteral → Except MappingError (List FieldShape)
  | ⟨properties, _⟩ => translateProperties properties

def translateProperties : List Property → Except MappingError (List FieldShape)
  | [] => return []
  | p :: rest => do
    let f ← translateProperty p
    return f :: (← translateProperties rest)

def translateProperty : Property → Except MappingError FieldShape
  | ⟨name, type, optional, annotations⟩ => do
    let s ← translate type
    return ⟨Identifier.member name, name, s.optionalIf optional, optional,
      Docs.ofAnnotations documented annotations⟩

end

/-- What the declaration of a named type means. The null of a declared union is a variant of it. -/
def translateSpec (t : TypeExpr) : Except MappingError Shape :=
  match t with
  | .or items =>
    match TypeExpr.unionForm items with
    | .variants => do
      let nulls := if TypeExpr.hasNull items then [⟨"Null", none⟩] else []
      return .union ((← m.translateVariants documented context [] 0 items) ++ nulls)
    | _ => m.translate documented context t
  | _ => m.translate documented context t

end Translation
end MetaModel

/-! ## Forms of unions -/

theorem TypeExpr.literal?_of_isNull {t : TypeExpr} (h : t.isNull = true) : t.literal? = none := by
  cases t <;> first | rfl | simp [isNull, base?] at h

theorem TypeExpr.literalValues_alternatives (items : List TypeExpr) :
    literalValues (alternatives items) = literalValues items := by
  induction items with
  | nil => rfl
  | cons t items ih =>
    rw [alternatives, literalValues, literalValues] at ih ⊢
    by_cases h : t.isNull = true
    · rw [List.filter_cons_of_neg (by simp [h]), List.filterMap_cons_none (literal?_of_isNull h),
        ih]
    · rw [List.filter_cons_of_pos (by simpa using h), List.filterMap_cons, List.filterMap_cons, ih]

theorem TypeExpr.literalValues_of_mapM {items : List TypeExpr} {vs : List LiteralValue}
    (h : items.mapM literal? = some vs) : literalValues items = vs := by
  rw [mapM_eq_some_iff] at h
  induction h with
  | nil => rfl
  | cons hv _ ih => rw [literalValues, List.filterMap_cons_some hv, ← ih, literalValues]

/-- A union of literals is the primitive limited to their values. -/
theorem TypeExpr.shape_of_unionForm {items : List TypeExpr} {t : TargetType}
    (h : unionForm items = .literals t) (μ : Meaning) :
    t.shape μ = some (.limited (literalValues items)) ∧ t.isOption = false := by
  obtain ⟨v, vs, hvalues, rfl⟩ := exists_literals_of_unionForm h
  rw [← literalValues_alternatives, literalValues_of_mapM hvalues]
  exact ⟨rfl, rfl⟩

/-! ## Base types and references -/

namespace MetaModel

theorem ofBase_eq_ok_iff {name context : String} {p : Primitive} :
    Primitive.ofBase name context = .ok p ↔ Primitive.ofBase? name = some p := by
  rw [Primitive.ofBase]
  cases Primitive.ofBase? name <;> simp

theorem symbol_eq_ok_iff {m : MetaModel} {name context : String} {t : TargetType} :
    m.symbol name context = .ok t ↔ name ∈ m.names ∧ .symbol name = t := by
  rw [symbol, mem_names, resolve]
  cases m.find? name <;> simp

end MetaModel

/-- Documentation is kept or left out as a whole, but for the notice of deprecation. -/
theorem Target.Docs.ofAnnotations_eq (wanted : Bool) (a : Annotations) :
    ofAnnotations wanted a =
      ⟨if wanted then a.documentation else none, if wanted then a.since else none,
        wanted && a.proposed, a.deprecated⟩ := by
  cases wanted <;> rfl

/-! ## Lists of types -/

namespace MetaModel

section Lists

variable (m : MetaModel) (documented : Bool) (context : String)

theorem translateItems_eq (ts : List TypeExpr) :
    m.translateItems documented context ts = ts.mapM (m.translate documented context) := by
  induction ts with
  | nil => rfl
  | cons t ts ih => rw [translateItems, List.mapM_cons, ih]

theorem translateProperties_eq (ps : List Property) :
    m.translateProperties documented context ps =
      ps.mapM (m.translateProperty documented context) := by
  induction ps with
  | nil => rfl
  | cons p ps ih => rw [translateProperties, List.mapM_cons, ih]

/-- The first item that is not null stands for all. -/
theorem translateSingle_eq (ts : List TypeExpr) :
    m.translateSingle documented context ts =
      match TypeExpr.alternatives ts with
      | [] => .ok (.primitive .unit)
      | t :: _ => m.translate documented context t := by
  induction ts with
  | nil => rfl
  | cons t ts ih =>
    rw [translateSingle, TypeExpr.alternatives_cons]
    split
    · exact ih
    · rfl

/-- Items that are not null are translated one by one and named. -/
theorem translateVariants_eq (taken : List String) (position : Nat) (ts : List TypeExpr) :
    m.translateVariants documented context taken position ts =
      (TypeExpr.alternatives ts).mapM (m.translate documented context) >>= fun ss =>
        pure (List.zipWith (fun ident s => ⟨ident, some s⟩)
          (TypeExpr.variantIdents taken position (TypeExpr.alternatives ts)) ss) := by
  induction ts generalizing taken position with
  | nil => rfl
  | cons t ts ih =>
    rw [translateVariants, TypeExpr.alternatives_cons]
    split
    · exact ih taken position
    · simp only [ih, List.mapM_cons, TypeExpr.variantIdents]
      cases m.translate documented context t with
      | error e => rfl
      | ok s =>
        cases (TypeExpr.alternatives ts).mapM (m.translate documented context) <;> rfl

theorem translateProperty_eq (p : Property) :
    m.translateProperty documented context p =
      p.fieldShape documented <$> m.translate documented context p.type := by
  obtain ⟨name, type, optional, annotations⟩ := p
  rw [translateProperty, Docs.ofAnnotations_eq]
  cases m.translate documented context type <;> rfl

/-- The fields of an inline structure are translated by the types of its properties. -/
theorem translateLiteral_eq (l : StructLiteral) :
    m.translateLiteral documented context l =
      (l.properties.map (·.type)).mapM (m.translate documented context) >>= fun ss =>
        pure (List.zipWith (Property.fieldShape documented) l.properties ss) := by
  obtain ⟨properties, annotations⟩ := l
  rw [translateLiteral, translateProperties_eq, ← mapM_map_eq_zipWith,
    funext (translateProperty_eq m documented context)]

end Lists
end MetaModel

/-! ## Translation by parts -/

/-- A union that may be null has a variant for it. -/
def Target.Shape.orNull (nullable : Bool) : Shape → Shape
  | .union vs => .union (vs ++ if nullable then [⟨"Null", none⟩] else [])
  | s => s

theorem Target.TypeSpec.form_orNull (nullable : Bool) (spec : TypeSpec) :
    (spec.orNull nullable).form = spec.form := by
  cases spec <;> rfl

namespace Outcome

/-- The form of the declaration when the type is a named one. -/
def form {τ : Type} : Outcome τ TypeSpec → SpecForm
  | .type _ => .synonym
  | .declaration spec _ => spec.form

/-- The shape of a type in another type. -/
def shape : Outcome Shape Shape → Except MappingError Shape
  | .type u => u
  | .declaration s nullable => pure (s.optionalIf nullable)

/-- The shape of a named type. -/
def declaredShape : Outcome Shape Shape → Except MappingError Shape
  | .type u => u
  | .declaration s nullable => pure (s.orNull nullable)

theorem exists_declaredShape_iff (x : Outcome Shape Shape) :
    (∃ s, x.declaredShape = .ok s) ↔ ∃ s, x.shape = .ok s := by
  cases x <;> simp [declaredShape, shape]

theorem declaredShape_eq_error_iff {x : Outcome Shape Shape} {e : MappingError} :
    x.declaredShape = .error e ↔ x.shape = .error e := by
  cases x with
  | type => rfl
  | declaration => simp [declaredShape, shape, pure, Except.pure]

end Outcome

theorem MetaModel.form_outcome (m : MetaModel) (documented : Bool) (context : String)
    (us : List TargetType) (t : TypeExpr) :
    (m.outcome documented context us t).form = t.specForm := by
  cases t with
  | or items =>
    rw [outcome, TypeExpr.specForm]
    cases TypeExpr.unionForm items <;> rfl
  | _ => rfl

namespace MetaModel

section Parts

variable (m : MetaModel) (documented : Bool) (context : String)

/-- What becomes of a type whose parts have the shapes `ss`. -/
def outcomeShape (ss : List Shape) : TypeExpr → Outcome Shape Shape
  | .base name => .type (.primitive <$> Primitive.ofBase name context)
  | .reference name => .type ((fun _ => .symbol name) <$> m.symbol name context)
  | .array _ => .type (.ok (.list (ss.headD (.primitive .unit))))
  | .map _ _ => .type (.ok (.map (ss.headD (.primitive .unit)) (ss.tail.headD (.primitive .unit))))
  | .tuple _ => .type (.ok (.tuple ss))
  | .stringLiteral s => .type (.ok (.limited [.text s]))
  | .integerLiteral i => .type (.ok (.limited [.integer i]))
  | .booleanLiteral b => .type (.ok (.limited [.boolean b]))
  | .or items =>
    match TypeExpr.unionForm items with
    | .single =>
      .type (.ok ((ss.headD (.primitive .unit)).optionalIf (TypeExpr.hasNull items)))
    | .literals _ =>
      .type (.ok ((Shape.limited (TypeExpr.literalValues items)).optionalIf
        (TypeExpr.hasNull items)))
    | .variants =>
      .declaration (.ofVariants (TypeExpr.alternatives items) ss) (TypeExpr.hasNull items)
  | .and _ => .declaration (.record ss []) false
  | .literal l =>
    .declaration (.ofMembers [] (List.zipWith (Property.fieldShape documented) l.properties ss))
      false

theorem mapM_translate_parts (hint : String) (t : TypeExpr) :
    (t.parts hint).mapM (fun p => m.translate documented context p.2) =
      ((t.parts hint).map Prod.snd).mapM (m.translate documented context) :=
  (List.mapM_map (f := Prod.snd) (g := m.translate documented context)).symm

theorem translate_eq (hint : String) (t : TypeExpr) :
    m.translate documented context t =
      (t.parts hint).mapM (fun p => m.translate documented context p.2) >>= fun ss =>
        (m.outcomeShape documented context ss t).shape := by
  rw [mapM_translate_parts]
  cases t with
  | base name =>
    rw [translate, TypeExpr.parts, List.map_nil, List.mapM_nil, pure_bind, outcomeShape]
    cases Primitive.ofBase name context <;> rfl
  | reference name =>
    rw [translate, TypeExpr.parts, List.map_nil, List.mapM_nil, pure_bind, outcomeShape]
    cases m.symbol name context <;> rfl
  | array element =>
    rw [translate]
    simp only [TypeExpr.parts, List.map_cons, List.map_nil, List.mapM_cons, List.mapM_nil,
      bind_assoc, pure_bind]
    rfl
  | map key value =>
    rw [translate]
    simp only [TypeExpr.parts, List.map_cons, List.map_nil, List.mapM_cons, List.mapM_nil,
      bind_assoc, pure_bind]
    rfl
  | tuple items =>
    rw [translate, translateItems_eq, TypeExpr.parts, TypeExpr.map_snd_numbered]
    rfl
  | stringLiteral | integerLiteral | booleanLiteral => rfl
  | or items =>
    rw [translate, TypeExpr.parts]
    cases hform : TypeExpr.unionForm items with
    | single =>
      simp only [outcomeShape, hform, translateSingle_eq]
      obtain halt | ⟨t, halt⟩ := TypeExpr.alternatives_of_single hform <;> rw [halt]
      · rfl
      · simp only [List.map_cons, List.map_nil, List.mapM_cons, List.mapM_nil, bind_assoc,
          pure_bind]
        rfl
    | literals _ =>
      simp only [outcomeShape, hform]
      rfl
    | variants =>
      simp only [outcomeShape, hform, translateVariants_eq, bind_assoc, pure_bind,
        TypeExpr.map_snd_named]
      rfl
  | and items =>
    rw [translate, translateItems_eq, TypeExpr.parts, TypeExpr.map_snd_numbered]
    rfl
  | literal l =>
    rw [translate, translateLiteral_eq, bind_assoc, TypeExpr.parts, List.map_map]
    rfl

theorem translateSpec_eq (hint : String) (t : TypeExpr) :
    m.translateSpec documented context t =
      (t.parts hint).mapM (fun p => m.translate documented context p.2) >>= fun ss =>
        (m.outcomeShape documented context ss t).declaredShape := by
  have synonym := m.translate_eq documented context hint t
  cases t with
  | or items =>
    rw [translateSpec]
    cases hform : TypeExpr.unionForm items with
    | single | literals =>
      refine synonym.trans ?_
      simp only [outcomeShape, hform]
      rfl
    | variants =>
      rw [mapM_translate_parts]
      simp only [TypeExpr.parts, outcomeShape, hform, translateVariants_eq, bind_assoc, pure_bind,
        TypeExpr.map_snd_named]
      rfl
  | _ => exact synonym

end Parts
end MetaModel

/-! ## Mapping simulates translation -/

namespace MetaModel

theorem symbol_denotes {m : MetaModel} {r : Registry} (hr : r.Fits m) {name context : String}
    {t : TargetType} (h : m.symbol name context = .ok t) : Denotes r t (.symbol name) := by
  rw [symbol] at h
  split at h
  · rename_i d hd
    cases h
    refine ⟨Registry.meaning_of_reserved ?_, rfl⟩
    rw [hr.reserved]
    exact mem_names.mpr ⟨d, resolve_eq_ok.mp hd⟩
  · cases h

/-- In the registry the field has the shape. -/
def FieldDenotes (r : Registry) (f : Field) (s : FieldShape) : Prop :=
  f.shape r.meaning = some s

theorem FieldDenotes.mono {r r' : Registry} (h : r.Extends r') {f : Field} {s : FieldShape}
    (hf : FieldDenotes r f s) : FieldDenotes r' f s :=
  Field.shape_mono h.meaning hf

theorem field_denotes {r : Registry} {u : TargetType} {s : Shape} (h : Denotes r u s)
    (documented : Bool) (p : Property) :
    FieldDenotes r (p.field documented u) (p.fieldShape documented s) := by
  rw [FieldDenotes, Field.shape, Property.field, (h.optionalIf p.optional).shape,
    Docs.ofAnnotations_eq]
  rfl

/-- In the registry the variant has the shape. -/
def VariantDenotes (r : Registry) (v : Variant) (s : VariantShape) : Prop :=
  v.shape r.meaning = some s

theorem intersection_shape {r : Registry} {parts : List TargetType} {ss : List Shape}
    (h : List.Forall₂ (Denotes r) parts ss) :
    (intersection parts).shape r.meaning = some (.record ss []) := by
  have htypes : ∀ ts : List TargetType, (ts.map Base.ofType).map (·.type) = ts := by
    intro ts
    rw [List.map_map]
    exact List.map_id ts
  rw [intersection, TypeSpec.shape, TargetType.shapes_eq, Members.types_bases_distinct, htypes,
    Denotes.mapM_shape h]
  rfl

theorem inlineRecord_shape {μ : Meaning} {fields : List Field} {fs : List FieldShape}
    (h : fields.mapM (Field.shape μ) = some fs) :
    (inlineRecord fields).shape μ = some (.ofMembers [] fs) := by
  rw [inlineRecord, TypeSpec.shape, Members.mapM_shape_fields_distinct h]
  rfl

theorem nullVariant_denotes (nullable : Bool) (r : Registry) :
    List.Forall₂ (VariantDenotes r) (if nullable then [⟨"Null", none⟩] else [])
      (if nullable then [⟨"Null", none⟩] else []) := by
  cases nullable with
  | false => exact .nil
  | true => exact .cons rfl .nil

/-- A declared union and its shape get the same variant for null. -/
theorem orNull_shape {r : Registry} {spec : TypeSpec} {s : Shape}
    (hspec : spec.isComposite = true) (h : spec.shape r.meaning = some s) (nullable : Bool) :
    (spec.orNull nullable).shape r.meaning = some (s.orNull nullable) := by
  cases spec with
  | record bases fields =>
    have hs : s.orNull nullable = s := by
      rw [TypeSpec.shape] at h
      simp only [Option.bind_eq_bind, Option.bind_eq_some_iff, Option.pure_def] at h
      obtain ⟨_, _, _, _, heq⟩ := h
      cases heq
      rfl
    rw [hs]
    exact h
  | union vs =>
    obtain ⟨ss, hss, rfl⟩ := Option.map_eq_some_iff.mp h
    have hnull := nullVariant_denotes nullable r
    rw [TypeSpec.orNull, TypeSpec.shape,
      mapM_eq_some_iff.mpr (List.rel_append (mapM_eq_some_iff.mp hss) hnull)]
    rfl
  | newtype | synonym => cases hspec

/-- In the registry the outcome of mapping has the shape that the outcome of translation is. -/
inductive OutcomeDenotes (r : Registry) :
    Outcome TargetType TypeSpec → Outcome Shape Shape → Prop where
  | type {x : Except MappingError TargetType} {y : Except MappingError Shape} :
      Agree (Denotes r) x y → OutcomeDenotes r (.type x) (.type y)
  | declaration {spec : TypeSpec} {s : Shape} {nullable : Bool} : spec.isComposite = true →
      spec.shape r.meaning = some s →
      OutcomeDenotes r (.declaration spec nullable) (.declaration s nullable)

section Simulation

variable {m : MetaModel} {documented : Bool} {context : String} {r : Registry}
  {x : Outcome TargetType TypeSpec} {y : Outcome Shape Shape}

theorem settle_simulates (hr : r.Fits m) (h : OutcomeDenotes r x y) (hint : String) :
    Simulates m r (Mapping.settle hint x) y.shape Denotes := by
  cases h with
  | type h => exact .ofExcept hr h
  | declaration hspec hs =>
    exact (Simulates.synthesize hr hint hspec hs).map fun _ _ _ h => h.optionalIf _

theorem specify_simulates (hr : r.Fits m) (h : OutcomeDenotes r x y) :
    Simulates m r (Mapping.specify x) y.declaredShape
      fun r spec s => spec.shape r.meaning = some s ∧ spec.form = x.form := by
  cases h with
  | @type x y h =>
    rw [Mapping.specify, Outcome.declaredShape, ← id_map y]
    exact (Simulates.ofExcept hr h).map fun r' u s h => ⟨h.shape, rfl⟩
  | declaration hspec hs => exact .pure hr ⟨orNull_shape hspec hs _, TypeSpec.form_orNull _ _⟩

theorem headD_denotes {us : List TargetType} {ss : List Shape}
    (h : List.Forall₂ (Denotes r) us ss) :
    Denotes r (us.headD (.primitive .unit)) (ss.headD (.primitive .unit)) := by
  cases h with
  | nil => exact ⟨rfl, rfl⟩
  | cons hhead _ => exact hhead

theorem outcome_denotes (hr : r.Fits m) {us : List TargetType} {ss : List Shape}
    (h : List.Forall₂ (Denotes r) us ss) (t : TypeExpr) :
    OutcomeDenotes r (m.outcome documented context us t)
      (m.outcomeShape documented context ss t) := by
  cases t with
  | base name =>
    rw [outcome, outcomeShape]
    cases Primitive.ofBase name context with
    | error e => exact .type rfl
    | ok p => exact .type ⟨rfl, rfl⟩
  | reference name =>
    rw [outcome, outcomeShape]
    cases hsymbol : m.symbol name context with
    | error e => exact .type rfl
    | ok u => exact .type (symbol_denotes hr hsymbol)
  | array element =>
    exact .type ⟨by rw [TargetType.shape, (headD_denotes h).shape, Option.map_some], rfl⟩
  | map key value =>
    have hvalue : Denotes r (us.tail.headD (.primitive .unit))
        (ss.tail.headD (.primitive .unit)) := by
      cases h with
      | nil => exact ⟨rfl, rfl⟩
      | cons _ htail => exact headD_denotes htail
    refine .type ⟨?_, rfl⟩
    rw [TargetType.shape, (headD_denotes h).shape, hvalue.shape]
    rfl
  | tuple items =>
    refine .type ⟨?_, rfl⟩
    rw [TargetType.shape, TargetType.shapes_eq, Denotes.mapM_shape h, Option.map_some]
  | stringLiteral | integerLiteral | booleanLiteral => exact .type ⟨rfl, rfl⟩
  | or items =>
    rw [outcome, outcomeShape]
    cases hform : TypeExpr.unionForm items with
    | single => exact .type ((headD_denotes h).optionalIf _)
    | literals u =>
      have hu : Denotes r u (.limited (TypeExpr.literalValues items)) := by
        obtain ⟨hshape, hoption⟩ := TypeExpr.shape_of_unionForm hform r.meaning
        refine ⟨hshape, hoption.trans ?_⟩
        cases TypeExpr.literalValues items <;> rfl
      exact .type (hu.optionalIf _)
    | variants =>
      refine .declaration rfl ?_
      have hvariant (ident : String) (u : TargetType) (s : Shape) (hus : Denotes r u s) :
          VariantDenotes r ⟨ident, some u⟩ ⟨ident, some s⟩ := by
        rw [VariantDenotes, Variant.shape_some, hus.shape, Option.map_some]
      have hvariants := forall₂_zipWith h hvariant
        (TypeExpr.variantIdents [] 0 (TypeExpr.alternatives items))
      rw [TypeSpec.shape, mapM_eq_some_iff.mpr hvariants]
      rfl
  | and items => exact .declaration rfl (intersection_shape h)
  | literal l =>
    refine .declaration rfl (inlineRecord_shape (mapM_eq_some_iff.mpr ?_))
    exact forall₂_zipWith h (fun p u s hus => field_denotes hus documented p) l.properties

/-- Parts that simulate their translations do so one after another. -/
theorem parts_simulates (hr : r.Fits m) {ps : List (String × TypeExpr)}
    (h : ∀ p ∈ ps, ∀ r', r'.Fits m → Simulates m r' (m.mapPart documented context p)
      (m.translate documented context p.2) Denotes) :
    Simulates m r (ps.mapM (m.mapPart documented context))
      (ps.mapM fun p => m.translate documented context p.2) fun r' => List.Forall₂ (Denotes r') :=
  .mapM hr (fun _ _ _ _ hext hus => hus.mono hext) h

/-- Mapping a type ends as translating it does: with the same error, or with a type that stands for
the translation. -/
theorem mapType_simulates (hint : String) (t : TypeExpr) (hr : r.Fits m) :
    Simulates m r (m.mapType documented context hint t) (m.translate documented context t)
      Denotes := by
  induction t using TypeExpr.induct generalizing hint r with
  | step t ih =>
    rw [mapType_eq, translate_eq m documented context hint]
    refine (parts_simulates hr fun p hp r' hr' => ?part).bind fun r' us ss hr' _ h => ?settled
    case part => exact ih p.2 (TypeExpr.mem_children_of_mem_parts hp) p.1 hr'
    case settled => exact settle_simulates hr' (outcome_denotes hr' h t) hint

theorem mapProperty_simulates (owner : String) (p : Property) (hr : r.Fits m) :
    Simulates m r (m.mapProperty documented context owner p)
      (m.translateProperty documented context p) FieldDenotes := by
  rw [mapProperty_eq, translateProperty_eq]
  exact (mapType_simulates _ p.type hr).map fun r' u s h => field_denotes h documented p

/-- The form of the declaration is that of the type. -/
theorem mapSpec_simulates (name : String) (t : TypeExpr) (hr : r.Fits m) :
    Simulates m r (m.mapSpec documented name t) (m.translateSpec documented name t)
      fun r spec s => spec.shape r.meaning = some s ∧ spec.form = t.specForm := by
  rw [mapSpec_eq, translateSpec_eq m documented name name]
  refine (parts_simulates hr fun p _ r' hr' => mapType_simulates p.1 p.2 hr').bind
    fun r' us ss hr' _ h => ?_
  rw [← m.form_outcome documented name us t]
  exact specify_simulates hr' (outcome_denotes hr' h t)

end Simulation
end MetaModel
end ProtocolTypes
