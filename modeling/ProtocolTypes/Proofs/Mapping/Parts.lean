import ProtocolTypes.Mapping.TypeExpr
import ProtocolTypes.Proofs.Model.TypeExpr
import ProtocolTypes.Proofs.Traversal

/-!
# ProtocolTypes.Proofs.Mapping.Parts

How mapping goes through a type, whatever its kind. The parts of a type are mapped first, in order,
each under a name of its own (`TypeExpr.parts`), and what they are mapped to settles what becomes of
the type (`MetaModel.outcome`): a type, or a declaration. `mapType_eq` says so of types in other
types, which refer to their declarations, and `mapSpec_eq` of named types, which are the
declarations. What holds of mapping follows by induction on the parts, from what holds of outcomes.
-/

namespace ProtocolTypes

open Target

/-! ## Parts of types -/

namespace TypeExpr

/-- The names of the variants for types in a row. -/
def variantIdents (taken : List String) (position : Nat) : List TypeExpr → List String
  | [] => []
  | t :: rest =>
    let ident := t.variantIdent taken position
    ident :: variantIdents (ident :: taken) (position + 1) rest

theorem length_variantIdents (taken : List String) (position : Nat) (ts : List TypeExpr) :
    (variantIdents taken position ts).length = ts.length := by
  induction ts generalizing taken position with
  | nil => rfl
  | cons t ts ih => rw [variantIdents, List.length_cons, List.length_cons, ih]

theorem alternatives_cons (t : TypeExpr) (ts : List TypeExpr) :
    alternatives (t :: ts) = if t.isNull then alternatives ts else t :: alternatives ts := by
  rw [alternatives, alternatives, List.filter_cons]
  cases t.isNull <;> rfl

theorem unionForm_of_cons_cons {items rest : List TypeExpr} {t u : TypeExpr}
    (h : alternatives items = t :: u :: rest) :
    unionForm items = (commonPrimitive? (t :: u :: rest)).elim .variants .literals := by
  simp only [unionForm, h]
  cases commonPrimitive? (t :: u :: rest) <;> rfl

/-- A union with several items is not a single one. -/
theorem alternatives_of_single {items : List TypeExpr} (h : unionForm items = .single) :
    alternatives items = [] ∨ ∃ t, alternatives items = [t] := by
  rcases halt : alternatives items with _ | ⟨t, _ | ⟨u, rest⟩⟩
  · exact .inl rfl
  · exact .inr ⟨t, rfl⟩
  · rw [unionForm_of_cons_cons halt] at h
    cases hcommon : commonPrimitive? (t :: u :: rest) <;> rw [hcommon] at h <;> cases h

theorem commonPrimitive?_of_unionForm {items : List TypeExpr} {t : TargetType}
    (h : unionForm items = .literals t) : commonPrimitive? (alternatives items) = some t := by
  rw [unionForm] at h
  split at h
  · cases h
  · cases h
  · split at h
    · cases h; assumption
    · cases h

/-- A union of literals is the primitive of the first one, limited to them all. -/
theorem exists_literals_of_unionForm {items : List TypeExpr} {u : TargetType}
    (h : unionForm items = .literals u) :
    ∃ v vs, (alternatives items).mapM literal? = some (v :: vs) ∧
      u = .constrained v.primitive (v :: vs) := by
  have hcommon := commonPrimitive?_of_unionForm h
  rw [commonPrimitive?] at hcommon
  split at hcommon
  · rename_i v vs hvalues
    split at hcommon
    · cases hcommon
      exact ⟨v, vs, hvalues, rfl⟩
    · cases hcommon
  · cases hcommon

/-- Types in a row, each under a hint followed by its position. -/
def numbered (hint : String) (position : Nat) : List TypeExpr → List (String × TypeExpr)
  | [] => []
  | t :: rest => (hint ++ toString position, t) :: numbered hint (position + 1) rest

theorem map_snd_numbered (hint : String) (position : Nat) (ts : List TypeExpr) :
    (numbered hint position ts).map Prod.snd = ts := by
  induction ts generalizing position with
  | nil => rfl
  | cons t ts ih => rw [numbered, List.map_cons, ih]

theorem mem_numbered {hint : String} {position : Nat} {ts : List TypeExpr}
    {p : String × TypeExpr} (hp : p ∈ numbered hint position ts) :
    p.2 ∈ ts ∧ ∃ k : Nat, p.1 = hint ++ toString k := by
  induction ts generalizing position with
  | nil => cases hp
  | cons t ts ih =>
    rcases List.mem_cons.mp hp with rfl | hp
    · exact ⟨List.mem_cons_self, position, rfl⟩
    · exact (ih hp).imp_left (List.mem_cons_of_mem t)

/-- Types in a row, each under a hint followed by the name of its variant. -/
def named (hint : String) (taken : List String) (position : Nat) (ts : List TypeExpr) :
    List (String × TypeExpr) :=
  ((variantIdents taken position ts).zip ts).map fun (ident, t) => (hint ++ ident, t)

/-- The types that are mapped before the type itself, and the names that they ask for. -/
def parts (hint : String) : TypeExpr → List (String × TypeExpr)
  | .array element => [(hint ++ "Item", element)]
  | .map key value => [(hint ++ "Key", key), (hint ++ "Value", value)]
  | .tuple items => numbered hint 0 items
  | .and items => numbered (hint ++ "Part") 0 items
  | .or items =>
    match unionForm items with
    | .single => (alternatives items).map fun t => (hint, t)
    | .literals _ => []
    | .variants => named hint [] 0 (alternatives items)
  | .literal l => l.properties.map fun p => (hint ++ Identifier.pascal p.name, p.type)
  | .base _ | .reference _ | .stringLiteral _ | .integerLiteral _ | .booleanLiteral _ => []

theorem map_snd_named (hint : String) (taken : List String) (position : Nat)
    (ts : List TypeExpr) : (named hint taken position ts).map Prod.snd = ts := by
  rw [named, List.map_map]
  exact List.map_snd_zip (Nat.le_of_eq (length_variantIdents taken position ts).symm)

theorem mem_named {hint : String} {taken : List String} {position : Nat} {ts : List TypeExpr}
    {p : String × TypeExpr} (hp : p ∈ named hint taken position ts) :
    p.2 ∈ ts ∧ ∃ taken k, p.1 = hint ++ p.2.variantIdent taken k := by
  induction ts generalizing taken position with
  | nil => cases hp
  | cons t ts ih =>
    rcases List.mem_cons.mp hp with rfl | hp
    · exact ⟨List.mem_cons_self, taken, position, rfl⟩
    · exact (ih hp).imp_left (List.mem_cons_of_mem t)

end TypeExpr

namespace Mapping

/-- A type that asks for one name is mapped by mapping a part of it that asks for another one. -/
inductive Step : String → TypeExpr → String → TypeExpr → Prop where
  | element {hint : String} {element : TypeExpr} :
      Step hint (.array element) (hint ++ "Item") element
  | key {hint : String} {key value : TypeExpr} : Step hint (.map key value) (hint ++ "Key") key
  | value {hint : String} {key value : TypeExpr} :
      Step hint (.map key value) (hint ++ "Value") value
  | item {hint : String} {items : List TypeExpr} {t : TypeExpr} (position : Nat) :
      t ∈ items → Step hint (.tuple items) (hint ++ toString position) t
  | part {hint : String} {items : List TypeExpr} {t : TypeExpr} (position : Nat) :
      t ∈ items → Step hint (.and items) (hint ++ "Part" ++ toString position) t
  | single {hint : String} {items : List TypeExpr} {t : TypeExpr} :
      t ∈ TypeExpr.alternatives items → Step hint (.or items) hint t
  | variant {hint : String} {items : List TypeExpr} {t : TypeExpr} (taken : List String)
      (position : Nat) : t ∈ TypeExpr.alternatives items →
      Step hint (.or items) (hint ++ t.variantIdent taken position) t
  | property {hint : String} {l : StructLiteral} {p : Property} : p ∈ l.properties →
      Step hint (.literal l) (hint ++ Identifier.pascal p.name) p.type

/-- A step leads to a part of the type. -/
theorem Step.mem_children {hint hint' : String} {t u : TypeExpr} (h : Step hint t hint' u) :
    u ∈ t.children := by
  cases h with
  | element => exact List.mem_cons_self
  | key => exact List.mem_cons_self
  | value => exact List.mem_cons_of_mem _ List.mem_cons_self
  | item _ ht => exact ht
  | part _ ht => exact ht
  | single ht => exact (List.mem_filter.mp ht).1
  | variant _ _ ht => exact (List.mem_filter.mp ht).1
  | property hp => exact List.mem_map_of_mem hp

/-- Parts are mapped under the names that a step leads to. -/
theorem step_of_mem_parts {hint : String} {t : TypeExpr} {p : String × TypeExpr}
    (hp : p ∈ t.parts hint) : Step hint t p.1 p.2 := by
  obtain ⟨hint', u⟩ := p
  cases t with
  | array element =>
    cases List.mem_singleton.mp hp
    exact .element
  | map key value =>
    rcases List.mem_cons.mp hp with heq | hp
    · cases heq
      exact .key
    · cases List.mem_singleton.mp hp
      exact .value
  | tuple items =>
    obtain ⟨hu, position, rfl⟩ := TypeExpr.mem_numbered hp
    exact .item position hu
  | and items =>
    obtain ⟨hu, position, rfl⟩ := TypeExpr.mem_numbered hp
    exact .part position hu
  | or items =>
    rw [TypeExpr.parts] at hp
    split at hp
    · obtain ⟨t, ht, heq⟩ := List.mem_map.mp hp
      cases heq
      exact .single ht
    · cases hp
    · obtain ⟨hu, taken, position, hhint⟩ := TypeExpr.mem_named hp
      dsimp only at hhint
      subst hhint
      exact .variant taken position hu
  | literal l =>
    obtain ⟨q, hq, heq⟩ := List.mem_map.mp hp
    cases heq
    exact .property hq
  | base | reference | stringLiteral | integerLiteral | booleanLiteral => cases hp

end Mapping

theorem TypeExpr.mem_children_of_mem_parts {hint : String} {t : TypeExpr} {p : String × TypeExpr}
    (hp : p ∈ t.parts hint) : p.2 ∈ t.children :=
  (Mapping.step_of_mem_parts hp).mem_children

/-- Children that are not mapped are null or literals. -/
theorem TypeExpr.mem_parts_of_mem_children (hint : String) {t c : TypeExpr} (hc : c ∈ t.children) :
    c.isNull = true ∨ (∃ v, c.literal? = some v) ∨ c ∈ (t.parts hint).map Prod.snd := by
  cases t with
  | array | map => exact .inr (.inr hc)
  | tuple items | and items =>
    rw [parts, map_snd_numbered]
    exact .inr (.inr hc)
  | literal l =>
    rw [parts, List.map_map]
    exact .inr (.inr hc)
  | or items =>
    by_cases hnull : c.isNull = true
    · exact .inl hnull
    · have halt : c ∈ alternatives items := List.mem_filter.mpr ⟨hc, by simpa using hnull⟩
      rw [parts]
      refine .inr ?_
      cases hform : unionForm items with
      | single =>
        simp only [List.map_map, Function.comp_def, List.map_id']
        exact .inr halt
      | literals u =>
        obtain ⟨v, vs, hvalues, _⟩ := exists_literals_of_unionForm hform
        exact .inl (exists_of_mapM hvalues halt)
      | variants =>
        simp only [map_snd_named]
        exact .inr halt
  | base | reference | stringLiteral | integerLiteral | booleanLiteral => cases hc

/-! ## Outcomes -/

/-- The field for a property whose type is mapped to a type. -/
def Property.field (documented : Bool) (p : Property) (u : TargetType) : Field :=
  ⟨Identifier.member p.name, p.name, u.optionalIf p.optional, p.optional,
    Docs.ofAnnotations documented p.annotations⟩

/-- A union that may be null has a variant for it. -/
def Target.TypeSpec.orNull (nullable : Bool) : TypeSpec → TypeSpec
  | .union vs => .union (vs ++ if nullable then [⟨"Null", none⟩] else [])
  | spec => spec

/-- What becomes of a type whose parts are known. -/
inductive Outcome (τ σ : Type) where
  | type (u : Except MappingError τ)
  /-- The type needs a declaration, and may be null beside. -/
  | declaration (spec : σ) (nullable : Bool)

namespace Mapping

/-- A type in another type refers to its declaration. -/
def settle (hint : String) : Outcome TargetType TypeSpec → Mapping TargetType
  | .type u => liftM u
  | .declaration spec nullable => (·.optionalIf nullable) <$> synthesize hint spec

/-- A named type is its declaration. -/
def specify : Outcome TargetType TypeSpec → Mapping TypeSpec
  | .type u => .synonym <$> liftM u
  | .declaration spec nullable => pure (spec.orNull nullable)

end Mapping

namespace MetaModel

/-- What becomes of a type whose parts are mapped to `us`. -/
def outcome (m : MetaModel) (documented : Bool) (context : String) (us : List TargetType) :
    TypeExpr → Outcome TargetType TypeSpec
  | .base name => .type (.primitive <$> Primitive.ofBase name context)
  | .reference name => .type (m.symbol name context)
  | .array _ => .type (.ok (.list (us.headD (.primitive .unit))))
  | .map _ _ => .type (.ok (.map (us.headD (.primitive .unit)) (us.tail.headD (.primitive .unit))))
  | .tuple _ => .type (.ok (.tuple us))
  | .stringLiteral s => .type (.ok (TypeExpr.only (.text s)))
  | .integerLiteral i => .type (.ok (TypeExpr.only (.integer i)))
  | .booleanLiteral b => .type (.ok (TypeExpr.only (.boolean b)))
  | .or items =>
    match TypeExpr.unionForm items with
    -- a union of nothing but null is of the unit type
    | .single =>
      .type (.ok ((us.headD (.primitive .unit)).optionalIf (TypeExpr.hasNull items)))
    | .literals u => .type (.ok (u.optionalIf (TypeExpr.hasNull items)))
    | .variants =>
      .declaration (.union (List.zipWith (fun ident u => ⟨ident, some u⟩)
        (TypeExpr.variantIdents [] 0 (TypeExpr.alternatives items)) us)) (TypeExpr.hasNull items)
  | .and _ => .declaration (intersection us) false
  | .literal l =>
    .declaration (inlineRecord (List.zipWith (Property.field documented) l.properties us)) false

/-! ## Mapping by parts -/

variable (m : MetaModel) (documented : Bool) (context : String)

/-- A part is mapped under its name. -/
def mapPart (p : String × TypeExpr) : Mapping TargetType :=
  m.mapType documented context p.1 p.2

theorem mapItems_eq (hint : String) (position : Nat) (ts : List TypeExpr) :
    m.mapItems documented context hint position ts =
      (TypeExpr.numbered hint position ts).mapM (m.mapPart documented context) := by
  induction ts generalizing position with
  | nil => rw [mapItems, TypeExpr.numbered, List.mapM_nil]
  | cons t ts ih =>
    rw [mapItems, TypeExpr.numbered, List.mapM_cons]
    simp only [ih]
    rfl

theorem mapSingle_eq (hint : String) (ts : List TypeExpr) :
    m.mapSingle documented context hint ts =
      match TypeExpr.alternatives ts with
      | [] => pure (.primitive .unit)
      | t :: _ => m.mapType documented context hint t := by
  induction ts with
  | nil => rw [mapSingle]; rfl
  | cons t ts ih =>
    rw [mapSingle, TypeExpr.alternatives_cons]
    split
    · exact ih
    · rfl

theorem mapVariants_eq (hint : String) (taken : List String) (position : Nat)
    (ts : List TypeExpr) :
    m.mapVariants documented context hint taken position ts =
      (TypeExpr.named hint taken position (TypeExpr.alternatives ts)).mapM
          (m.mapPart documented context) >>= fun us =>
        pure (List.zipWith (fun ident u => ⟨ident, some u⟩)
          (TypeExpr.variantIdents taken position (TypeExpr.alternatives ts)) us) := by
  induction ts generalizing taken position with
  | nil => rw [mapVariants]; rfl
  | cons t ts ih =>
    rw [mapVariants, TypeExpr.alternatives_cons]
    split
    · exact ih taken position
    · simp only [ih, TypeExpr.named, TypeExpr.variantIdents, List.zip_cons_cons, List.map_cons,
        List.mapM_cons, bind_assoc, pure_bind]
      rfl

theorem mapProperty_eq (owner : String) (p : Property) :
    m.mapProperty documented context owner p =
      p.field documented <$>
        m.mapType documented context (owner ++ Identifier.pascal p.name) p.type := by
  obtain ⟨name, type, optional, annotations⟩ := p
  rw [mapProperty, map_eq_pure_bind]
  rfl

theorem mapLiteral_eq (owner : String) (l : StructLiteral) :
    m.mapLiteral documented context owner l =
      ((TypeExpr.literal l).parts owner).mapM (m.mapPart documented context) >>= fun us =>
        pure (List.zipWith (Property.field documented) l.properties us) := by
  have hproperties : ∀ ps : List Property, m.mapProperties documented context owner ps =
      ps.mapM (m.mapProperty documented context owner) := by
    intro ps
    induction ps with
    | nil => rw [mapProperties, List.mapM_nil]
    | cons p ps ih => rw [mapProperties, List.mapM_cons]; simp only [ih]
  obtain ⟨properties, annotations⟩ := l
  rw [mapLiteral, hproperties, funext (m.mapProperty_eq documented context owner)]
  exact mapM_map_eq_zipWith (f := m.mapPart documented context)
    (fun p : Property => (owner ++ Identifier.pascal p.name, p.type)) _ properties

/-- A type is mapped by its parts. -/
theorem mapType_eq (hint : String) (t : TypeExpr) :
    m.mapType documented context hint t =
      (t.parts hint).mapM (m.mapPart documented context) >>= fun us =>
        Mapping.settle hint (m.outcome documented context us t) := by
  cases t with
  | base name =>
    rw [mapType, TypeExpr.parts, List.mapM_nil, pure_bind, outcome]
    cases Primitive.ofBase name context <;> rfl
  | reference name =>
    rw [mapType, TypeExpr.parts, List.mapM_nil, pure_bind]
    rfl
  | array element =>
    rw [mapType, TypeExpr.parts]
    simp only [List.mapM_cons, List.mapM_nil, bind_assoc, pure_bind]
    rfl
  | map key value =>
    rw [mapType, TypeExpr.parts]
    simp only [List.mapM_cons, List.mapM_nil, bind_assoc, pure_bind]
    rfl
  | tuple items =>
    rw [mapType, mapItems_eq]
    rfl
  | stringLiteral | integerLiteral | booleanLiteral =>
    rw [mapType, TypeExpr.parts, List.mapM_nil, pure_bind]
    rfl
  | or items =>
    rw [mapType, TypeExpr.parts]
    cases hform : TypeExpr.unionForm items with
    | single =>
      simp only [outcome, hform, mapSingle_eq]
      obtain halt | ⟨t, halt⟩ := TypeExpr.alternatives_of_single hform <;> rw [halt]
      · rfl
      · simp only [List.map_cons, List.map_nil, List.mapM_cons, List.mapM_nil, bind_assoc,
          pure_bind]
        rfl
    | literals u =>
      simp only [outcome, hform]
      rfl
    | variants =>
      simp only [outcome, hform, mapVariants_eq, bind_assoc, pure_bind, Mapping.settle,
        map_eq_pure_bind]
  | and items =>
    rw [mapType, mapItems_eq]
    refine congrArg _ (funext fun us => ?_)
    exact (id_map _).symm
  | literal l =>
    rw [mapType, mapLiteral_eq, bind_assoc]
    refine congrArg _ (funext fun us => ?_)
    rw [pure_bind]
    exact (id_map _).symm

/-- A named type is mapped as any other, but for the declaration that it is. -/
theorem mapSpec_eq (name : String) (t : TypeExpr) :
    m.mapSpec documented name t =
      (t.parts name).mapM (m.mapPart documented name) >>= fun us =>
        Mapping.specify (m.outcome documented name us t) := by
  have synonym : TypeSpec.synonym <$> m.mapType documented name name t =
      (t.parts name).mapM (m.mapPart documented name) >>= fun us =>
        TypeSpec.synonym <$> Mapping.settle name (m.outcome documented name us t) := by
    rw [mapType_eq, map_bind]
  cases t with
  | or items =>
    rw [mapSpec]
    cases hform : TypeExpr.unionForm items with
    | single | literals =>
      refine synonym.trans ?_
      simp only [outcome, hform]
      rfl
    | variants =>
      simp only [TypeExpr.parts, outcome, hform, mapVariants_eq, bind_assoc, pure_bind]
      rfl
  | and items =>
    rw [mapSpec, mapItems_eq]
    rfl
  | literal l =>
    rw [mapSpec, mapLiteral_eq, bind_assoc]
    rfl
  | base | reference | array | map | tuple | stringLiteral | integerLiteral | booleanLiteral =>
    exact synonym

end MetaModel
end ProtocolTypes
