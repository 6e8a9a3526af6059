import ProtocolTypes.Proofs.Mapping.Declarations
import ProtocolTypes.Proofs.Target.Gather

/-!
# ProtocolTypes.Proofs.Mapping.Gathering

What mapping does with the leaves of types, whichever they are. `Gathers I S x Q` says of a mapping
`x` that it passes on a relation `I` between registries and sets of leaves. A relation can be passed
on when it is a `Tally`: it lets names of the model be added, and trades the leaves of a declaration
for its name when the declaration is registered. Then the leaves that the result of a run has come
from the types of the model (`Tally.mapType`, `Tally.mapPrimaries`).
-/

namespace ProtocolTypes

open Target

/-! ## Mappings that pass on a relation -/

/-- Where `x` succeeds, from a registry that `I` relates to `S` it leaves one that `I` relates to
the set `Q` of its value. -/
def Gathers {α β : Type} (I : Registry → Set α → Prop) (S : Set α) (x : Mapping β)
    (Q : β → Set α) : Prop :=
  ∀ r, I r S → ∀ b r', x.run r = (.ok b, r') → I r' (Q b)

namespace Gathers

variable {α β γ : Type} {I : Registry → Set α → Prop} {S S' : Set α} {Q : β → Set α}
  {R : γ → Set α}

theorem of_eq {x : Mapping β} (h : S = S') (hx : Gathers I S' x Q) : Gathers I S x Q :=
  h ▸ hx

protected theorem pure {b : β} (h : S = Q b) : Gathers I S (pure b) Q := by
  intro r hr c r' hrun
  cases hrun
  exact h ▸ hr

theorem ofExcept {y : Except MappingError β} (h : ∀ b, y = .ok b → ∀ r, I r S → I r (Q b)) :
    Gathers I S (liftM y) Q := by
  intro r hr b r' hrun
  rw [Mapping.run_ofExcept] at hrun
  cases hrun
  exact h b rfl r hr

theorem ofResolution {y : Except ReferenceError β} (h : ∀ b, y = .ok b → ∀ r, I r S → I r (Q b)) :
    Gathers I S (Mapping.ofResolution y) Q := by
  intro r hr b r' hrun
  cases y with
  | error e => cases hrun
  | ok c =>
    cases hrun
    exact h _ rfl r hr

protected theorem bind {x : Mapping β} {f : β → Mapping γ} (hx : Gathers I S x Q)
    (hf : ∀ b, (∃ r r', x.run r = (.ok b, r')) → Gathers I (Q b) (f b) R) :
    Gathers I S (x >>= f) R := by
  intro r hr c r' hrun
  obtain ⟨b, r₁, hb, hc⟩ := Mapping.run_bind_eq_ok.mp hrun
  exact hf b ⟨r, r₁, hb⟩ r₁ (hx r hr b r₁ hb) c r' hc

protected theorem map {x : Mapping β} {f : β → γ} (hx : Gathers I S x Q)
    (h : ∀ b, Q b = R (f b)) : Gathers I S (f <$> x) R := by
  rw [map_eq_pure_bind]
  exact hx.bind fun b _ => .pure (h b)

/-- What is mapped first leaves alone what is gathered later. -/
protected theorem mapM {ι : Type} {xs : List ι} {f : ι → Mapping β} {L : ι → Set α}
    (h : ∀ x ∈ xs, ∀ S, Gathers I (S ∪ L x) (f x) fun b => S ∪ Q b) :
    Gathers I (S ∪ {a | ∃ x ∈ xs, a ∈ L x}) (xs.mapM f) fun bs => S ∪ {a | ∃ b ∈ bs, a ∈ Q b} := by
  induction xs generalizing S with
  | nil => exact .pure (by simp)
  | cons x xs ih =>
    have hxs : {a | ∃ z ∈ x :: xs, a ∈ L z} = {a | ∃ z ∈ xs, a ∈ L z} ∪ L x := by
      ext a
      simp [or_comm]
    rw [List.mapM_cons, hxs, ← Set.union_assoc]
    refine (h x List.mem_cons_self _).bind fun b _ => .of_eq (Set.union_right_comm _ _ _) ?_
    refine (ih fun z hz => h z (List.mem_cons_of_mem _ hz)).bind fun bs _ => .pure ?_
    ext a
    simp [or_assoc]

end Gathers

/-! ## Tallies -/

/-- The types that literals become: those of a literal, or of a union of literals. -/
def TypeExpr.literalTypes : TypeExpr → List TargetType
  | .stringLiteral s => [only (.text s)]
  | .integerLiteral i => [only (.integer i)]
  | .booleanLiteral b => [only (.boolean b)]
  | .or items =>
    match unionForm items with
    | .literals u => [u]
    | .single | .variants => []
  | .base _ | .reference _ | .array _ | .map _ _ | .tuple _ | .and _ | .literal _ => []

/-- A relation between registries and sets of leaves that mapping passes on; `source` are the leaves
that the types of the model have to begin with. -/
structure Tally {α : Type} (m : MetaModel) (l : Leaf α) (source : TypeExpr → Set α)
    (I : Registry → Set α → Prop) : Prop where
  /-- Names of the model can be mentioned at any time. -/
  symbol : ∀ {r S name}, name ∈ m.names → I r S → I r (S ∪ (TargetType.symbol name).gather l)
  /-- A declaration stands for its leaves once it is registered. -/
  register : ∀ {r S} (d : TypeDecl), I r (S ∪ d.spec.gather l) →
    I (r.register d).2 (S ∪ (TargetType.symbol (r.register d).1).gather l)
  /-- A type has the leaves that its literals become, and those of its parts. -/
  source_eq : ∀ hint t,
    source t = gatherIn l t.literalTypes ∪ {a | ∃ p ∈ t.parts hint, a ∈ source p.2}

variable {α : Type} {m : MetaModel} {l : Leaf α} {source : TypeExpr → Set α}
  {I : Registry → Set α → Prop} {S : Set α} {documented : Bool} {context : String}

/-! ## Outcomes -/

/-- An outcome has the leaves `B`, and it may mention a name of the model. -/
inductive Brings (m : MetaModel) (l : Leaf α) (B : Set α) : Outcome TargetType TypeSpec → Prop where
  | type {x : Except MappingError TargetType} :
      (∀ u, x = .ok u → u.gather l = B ∨
        ∃ name ∈ m.names, u.gather l = B ∪ (TargetType.symbol name).gather l) →
      Brings m l B (.type x)
  | declaration {spec : TypeSpec} {nullable : Bool} : spec.gather l = B →
      Brings m l B (.declaration spec nullable)

theorem Brings.ok {B : Set α} {u : TargetType} (h : u.gather l = B) :
    Brings m l B (.type (.ok u)) :=
  .type fun _ hv => .inl (Except.ok.inj hv ▸ h)

theorem gatherIn_zipWith {β : Type} {f : β → TargetType → TargetType}
    (hf : ∀ b u, (f b u).gather l = u.gather l) {bs : List β} {us : List TargetType}
    (h : us.length ≤ bs.length) : gatherIn l (List.zipWith f bs us) = gatherIn l us := by
  induction us generalizing bs with
  | nil => rw [List.zipWith_nil_right]
  | cons u us ih =>
    cases bs with
    | nil => exact absurd h (Nat.not_succ_le_zero _)
    | cons b bs =>
      rw [List.zipWith_cons_cons, gatherIn_cons, gatherIn_cons, hf, ih (Nat.le_of_succ_le_succ h)]

theorem gather_union {idents : List String} {us : List TargetType}
    (h : us.length ≤ idents.length) :
    (TypeSpec.union (List.zipWith (fun ident u => ⟨ident, some u⟩) idents us)).gather l =
      gatherIn l us := by
  induction us generalizing idents with
  | nil => rw [List.zipWith_nil_right, TypeSpec.gather, TypeSpec.types, List.filterMap_nil]
  | cons u us ih =>
    cases idents with
    | nil => exact absurd h (Nat.not_succ_le_zero _)
    | cons ident idents =>
      rw [gatherIn_cons, ← ih (Nat.le_of_succ_le_succ h)]
      exact gatherIn_cons l u _

/-- The variant for null has no leaves. -/
theorem gather_orNull (nullable : Bool) (spec : TypeSpec) :
    (spec.orNull nullable).gather l = spec.gather l := by
  cases spec with
  | union vs =>
    rw [TypeSpec.orNull, TypeSpec.gather, TypeSpec.gather, TypeSpec.types, TypeSpec.types,
      List.filterMap_append, gatherIn_append]
    cases nullable <;> simp
  | record | newtype | synonym => rfl

namespace MetaModel

theorem gather_intersection (us : List TargetType) :
    (intersection us).gather l = gatherIn l us := by
  rw [intersection, TypeSpec.gather, TypeSpec.types, Members.types_bases_distinct]
  simp [Base.ofType, Function.comp_def]

theorem gather_inlineRecord {ps : List Property} {us : List TargetType}
    (h : us.length ≤ ps.length) :
    (inlineRecord (List.zipWith (Property.field documented) ps us)).gather l = gatherIn l us := by
  have hfields := TypeSpec.gather_distinct l ⟨[], List.zipWith (Property.field documented) ps us⟩
  rw [List.map_nil, gatherIn_nil, Set.empty_union, List.map_zipWith] at hfields
  exact hfields.trans (gatherIn_zipWith (f := fun p u => (p.field documented u).type)
    (fun p u => u.gather_optionalIf l p.optional) h)

/-- An outcome has the leaves of the parts and those that literals become. -/
theorem outcome_brings {hint : String} {t : TypeExpr} {us : List TargetType}
    (hlen : us.length = (t.parts hint).length) :
    Brings m l (gatherIn l t.literalTypes ∪ gatherIn l us)
      (m.outcome documented context us t) := by
  have nothing (ht : t.parts hint = []) : us = [] := by
    rw [ht] at hlen
    exact List.length_eq_zero_iff.mp hlen
  cases t with
  | base name =>
    obtain rfl := nothing rfl
    refine .type fun u hu => .inl ?_
    obtain ⟨p, _, rfl⟩ := map_eq_ok.mp hu
    simp [TypeExpr.literalTypes]
  | reference name =>
    obtain rfl := nothing rfl
    refine .type fun u hu => .inr ?_
    obtain ⟨hname, rfl⟩ := symbol_eq_ok_iff.mp hu
    exact ⟨name, hname, by simp [TypeExpr.literalTypes]⟩
  | array element =>
    obtain ⟨u, rfl⟩ := List.length_eq_one_iff.mp hlen
    exact .ok (by simp [TypeExpr.literalTypes])
  | map key value =>
    obtain ⟨k, v, rfl⟩ := List.length_eq_two.mp hlen
    exact .ok (by simp [TypeExpr.literalTypes])
  | tuple items =>
    exact .ok (by simp [TypeExpr.literalTypes])
  | stringLiteral | integerLiteral | booleanLiteral =>
    obtain rfl := nothing rfl
    exact .ok (by simp [TypeExpr.literalTypes])
  | or items =>
    rw [TypeExpr.parts] at hlen
    rw [outcome, TypeExpr.literalTypes]
    cases hform : TypeExpr.unionForm items with
    | single =>
      simp only [hform, List.length_map] at hlen
      refine .ok ?_
      rw [TargetType.gather_optionalIf]
      obtain halt | ⟨t, halt⟩ := TypeExpr.alternatives_of_single hform <;> rw [halt] at hlen
      · obtain rfl := List.length_eq_zero_iff.mp hlen
        simp
      · obtain ⟨u, rfl⟩ := List.length_eq_one_iff.mp hlen
        simp
    | literals u =>
      simp only [hform, List.length_nil] at hlen
      obtain rfl := List.length_eq_zero_iff.mp hlen
      exact .ok (by simp)
    | variants =>
      simp only [hform, ← List.length_map (f := Prod.snd), TypeExpr.map_snd_named] at hlen
      refine .declaration ?_
      rw [gatherIn_nil, Set.empty_union, gather_union]
      rw [TypeExpr.length_variantIdents, hlen]
  | and items =>
    refine .declaration ?_
    rw [gather_intersection, TypeExpr.literalTypes, gatherIn_nil, Set.empty_union]
  | literal l =>
    rw [TypeExpr.parts, List.length_map] at hlen
    refine .declaration ?_
    rw [gather_inlineRecord hlen.le, TypeExpr.literalTypes, gatherIn_nil, Set.empty_union]

end MetaModel

namespace Tally

variable (h : Tally m l source I) {B : Set α} {x : Outcome TargetType TypeSpec}

include h

theorem type_ok {y : Except MappingError TargetType} (hy : Brings m l B (.type y)) (u : TargetType)
    (hu : y = .ok u) (r : Registry) (hr : I r (S ∪ B)) : I r (S ∪ u.gather l) := by
  cases hy with
  | type hy =>
    rcases hy u hu with heq | ⟨name, hname, heq⟩
    · exact heq ▸ hr
    · rw [heq, ← Set.union_assoc]
      exact h.symbol hname hr

theorem settle (hint : String) (hx : Brings m l B x) :
    Gathers I (S ∪ B) (Mapping.settle hint x) fun u => S ∪ u.gather l := by
  cases x with
  | type y => exact .ofExcept fun u hu r hr => h.type_ok hx u hu r hr
  | declaration spec nullable =>
    cases hx with
    | declaration hspec =>
      intro r hr u r' hrun
      obtain ⟨t, ht, rfl⟩ := Mapping.run_map_eq_ok.mp hrun
      rw [Mapping.run_synthesize, Prod.mk.injEq, Except.ok.injEq] at ht
      obtain ⟨rfl, rfl⟩ := ht
      have hregister := h.register ⟨hint, {}, spec⟩ (hspec ▸ hr)
      rwa [← TargetType.gather_optionalIf l nullable] at hregister

theorem specify (hx : Brings m l B x) :
    Gathers I (S ∪ B) (Mapping.specify x) fun spec => S ∪ spec.gather l := by
  cases x with
  | type y =>
    refine Gathers.map (.ofExcept fun u hu r hr => h.type_ok hx u hu r hr) fun u => ?_
    rw [TypeSpec.gather, TypeSpec.types, gatherIn_cons, gatherIn_nil, Set.union_empty]
  | declaration spec nullable =>
    cases hx with
    | declaration hspec => exact .pure (by rw [gather_orNull, hspec])

/-- The parts of a type come before the type itself. -/
theorem parts {β : Type} {hint : String} {t : TypeExpr}
    (hparts : ∀ p ∈ t.parts hint, ∀ S, Gathers I (S ∪ source p.2)
      (m.mapPart documented context p) fun u => S ∪ u.gather l)
    {f : List TargetType → Mapping β} {Q : β → Set α}
    (hf : ∀ us, us.length = (t.parts hint).length →
      Gathers I (S ∪ (gatherIn l t.literalTypes ∪ gatherIn l us)) (f us) Q) :
    Gathers I (S ∪ source t) ((t.parts hint).mapM (m.mapPart documented context) >>= f) Q := by
  rw [h.source_eq hint t, ← Set.union_assoc]
  refine (Gathers.mapM hparts).bind fun us hus => ?_
  obtain ⟨_, _, hrun⟩ := hus
  refine .of_eq ?_ (hf us (Mapping.length_of_run_mapM hrun))
  rw [Set.union_assoc]
  rfl

/-- Mapping a type gathers the leaves that the type has to begin with. -/
theorem mapType (hint : String) (t : TypeExpr) (S : Set α) :
    Gathers I (S ∪ source t) (m.mapType documented context hint t) fun u => S ∪ u.gather l := by
  induction t using TypeExpr.induct generalizing hint S with
  | step t ih =>
    rw [MetaModel.mapType_eq]
    refine h.parts (fun p hp S => ?part) fun us hlen => ?settled
    case part => exact ih p.2 (TypeExpr.mem_children_of_mem_parts hp) p.1 S
    case settled => exact h.settle hint (MetaModel.outcome_brings hlen)

theorem mapProperty (owner : String) (p : Property) (S : Set α) :
    Gathers I (S ∪ source p.type) (m.mapProperty documented context owner p)
      fun f => S ∪ f.type.gather l := by
  rw [MetaModel.mapProperty_eq]
  refine (h.mapType _ p.type S).map fun u => ?_
  rw [Property.field, TargetType.gather_optionalIf]

theorem mapSpec (name : String) (t : TypeExpr) (S : Set α) :
    Gathers I (S ∪ source t) (m.mapSpec documented name t) fun spec => S ∪ spec.gather l := by
  rw [MetaModel.mapSpec_eq]
  exact h.parts (fun p _ S => h.mapType p.1 p.2 S) fun us hlen =>
    h.specify (MetaModel.outcome_brings hlen)

end Tally

/-! ## Declarations of names -/

/-- The leaves that the declaration of a name has to begin with; a structure has those of the
properties that become fields of its record. -/
def Declared.sources (m : MetaModel) (o : MappingOptions) (source : TypeExpr → Set α) :
    Declared → Set α
  | .struct s => {a | ∃ names properties, m.parts o.flattenBases s = .ok (names, properties) ∧
      ∃ p ∈ properties, a ∈ source p.property.type}
  | .enumeration _ => ∅
  | .typeAlias a => source a.type

/-- Where no type has leaves to begin with, no declaration has. -/
theorem Declared.sources_empty (m : MetaModel) (o : MappingOptions) (d : Declared) :
    d.sources m o (fun _ => (∅ : Set α)) = ∅ := by
  cases d <;> simp [Declared.sources]

namespace Tally

variable (h : Tally m l source I) {o : MappingOptions}

include h

/-- The names of bases can be mentioned. -/
theorem bases {names : List String} (hnames : ∀ name ∈ names, name ∈ m.names) {r : Registry}
    (hr : I r S) : I r (S ∪ gatherIn l ((MetaModel.basesOf names).map (·.type))) := by
  induction names generalizing S with
  | nil => simpa [MetaModel.basesOf] using hr
  | cons name names ih =>
    have hr := h.symbol (hnames name List.mem_cons_self) hr
    have hrest := ih (fun n hn => hnames n (List.mem_cons_of_mem _ hn)) hr
    rw [Set.union_assoc, ← gatherIn_cons] at hrest
    exact hrest

theorem mapStructure (s : Structure) (S : Set α) :
    Gathers I (S ∪ (Declared.struct s).sources m o source) (m.mapStructure o s)
      fun d => S ∪ d.spec.gather l := by
  rw [MetaModel.mapStructure, MetaModel.recordParts_eq]
  have hparts : Gathers I (S ∪ (Declared.struct s).sources m o source)
      (Mapping.ofResolution ((m.parts o.flattenBases s).map fun p => (MetaModel.basesOf p.1, p.2)))
      fun p => S ∪ gatherIn l (p.1.map (·.type)) ∪
        {a | ∃ q ∈ p.2, a ∈ source q.property.type} := by
    refine .ofResolution fun p hp r hr => ?_
    obtain ⟨⟨names, properties⟩, hparts, rfl⟩ := map_eq_ok.mp hp
    have hnames : ∀ name ∈ names, name ∈ m.names := by
      intro name hname
      obtain ⟨q, hq⟩ := (MetaModel.parts_eq_ok hparts).2 name hname
      exact MetaModel.mem_names.mpr ⟨_, hq⟩
    have hsource : (Declared.struct s).sources m o source =
        {a | ∃ q ∈ properties, a ∈ source q.property.type} := by
      ext a
      simp [Declared.sources, hparts]
    rw [hsource] at hr
    have hbases := h.bases hnames hr
    rwa [Set.union_right_comm] at hbases
  refine hparts.bind ?_
  rintro ⟨bases, properties⟩ -
  refine (Gathers.mapM fun p _ S => h.mapProperty p.owner p.property S).bind fun fields _ =>
    .pure ?_
  rw [TypeSpec.gather_distinct, Set.union_assoc]
  congr 2
  ext a
  simp [gatherIn]

/-- Enumerations have no leaves. -/
theorem mapDeclared (d : Declared) (S : Set α) :
    Gathers I (S ∪ d.sources m o source) (m.mapDeclared o d)
      fun ds => S ∪ gatherOf l (typeDecls ds) := by
  have single (t : TypeDecl) : S ∪ t.spec.gather l = S ∪ gatherOf l (typeDecls [.type t]) := by
    rw [← gatherOf_singleton]
    rfl
  cases d with
  | struct s =>
    rw [MetaModel.mapDeclared]
    exact (h.mapStructure s S).bind fun t _ => .pure (single t)
  | enumeration e =>
    rw [MetaModel.mapDeclared]
    refine (Gathers.ofExcept (Q := fun p => S ∪ p.1.spec.gather l) fun p hp r hr => ?_).bind
      fun p _ => .pure (single p.1)
    rw [Enumeration.declare] at hp
    split at hp
    · cases hp
    · obtain ⟨constants, _, heq⟩ := bind_eq_ok.mp hp
      cases heq
      simpa [Declared.sources, TypeSpec.gather, TypeSpec.types] using hr
  | typeAlias a =>
    rw [MetaModel.mapDeclared, MetaModel.mapAlias, MetaModel.declare]
    refine Gathers.bind (Q := fun t : TypeDecl => S ∪ t.spec.gather l) ?_
      fun t _ => .pure (single t)
    exact (h.mapSpec a.name a.type S).bind fun spec _ => .pure rfl

/-- The leaves of all declarations are those that the names of the model have to begin with. -/
theorem mapPrimaries (o : MappingOptions) :
    Gathers I {a | ∃ d ∈ m.primaries, a ∈ d.sources m o source} (m.mapPrimaries o)
      fun ds => gatherOf l (typeDecls ds) := by
  rw [MetaModel.mapPrimaries]
  refine .of_eq (Set.empty_union _).symm ?_
  refine (Gathers.mapM fun d _ S => h.mapDeclared d S).bind fun dss _ => .pure ?_
  ext a
  simp only [gatherOf, Set.empty_union, mem_typeDecls, List.mem_flatten]
  constructor
  · rintro ⟨ds, hds, t, ht, ha⟩
    exact ⟨t, ⟨ds, hds, ht⟩, ha⟩
  · rintro ⟨t, ⟨ds, hds, ht⟩, ha⟩
    exact ⟨ds, hds, t, ht, ha⟩

end Tally
end ProtocolTypes
