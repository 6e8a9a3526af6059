import ProtocolTypes.Proofs.Generation
import ProtocolTypes.Proofs.Mapping.Gathering
import ProtocolTypes.Proofs.Mapping.Optionality
import ProtocolTypes.Proofs.Target.Limits

/-!
# ProtocolTypes.Proofs.Mapping.Limits

What becomes of literals. A literal, or a choice between literals of one kind, limits a primitive to
values (`TypeExpr.LimitedTo`), and mapping neither loses nor makes up a limit: those in the registry
together with those of the types that are left stay the same (`limiting`). So the declarations of a
model set exactly the limits that the model sets (`Generated.standsIn_iff`). `targetDecls_limits`
says what this means for their values: all are literals of the limited primitive, but integers may
be beyond it, since they are read with 64 bits and carried with 32 (`limit_beyond_carrier`).
-/

namespace ProtocolTypes

open Target

/-! ## Limits in type expressions -/

namespace TypeExpr

/-- The types that a value of the type has to be of one of, apart from null. -/
def choices : TypeExpr → List TypeExpr
  | .or items => alternatives items
  | t => [t]

/-- The type is a literal, or a choice between literals of one primitive. -/
def LimitedTo (p : Primitive) (vs : List LiteralValue) (t : TypeExpr) : Prop :=
  t.choices ≠ [] ∧ LiteralsOf p t.choices vs

/-- The type sets a limit by itself, or else a type in it does. -/
inductive Limits (p : Primitive) (vs : List LiteralValue) : TypeExpr → Prop where
  | self {t : TypeExpr} : LimitedTo p vs t → Limits p vs t
  | child {t c : TypeExpr} : (∀ q ws, ¬ LimitedTo q ws t) → c ∈ t.children → Limits p vs c →
      Limits p vs t

/-- The limits that a type sets. -/
def limits (t : TypeExpr) : Set Limit :=
  {c | t.Limits c.1 c.2}

/-- The limits that types in a row set. -/
def limitsIn (ts : List TypeExpr) : Set Limit :=
  {c | ∃ t ∈ ts, c ∈ t.limits}

@[simp] theorem limitsIn_nil : limitsIn [] = ∅ := by
  simp [limitsIn]

@[simp] theorem limitsIn_cons (t : TypeExpr) (ts : List TypeExpr) :
    limitsIn (t :: ts) = t.limits ∪ limitsIn ts := by
  ext c
  simp [limitsIn]

variable {t : TypeExpr} {items : List TypeExpr} {p : Primitive} {vs : List LiteralValue}

theorem LimitedTo.limits_eq (h : LimitedTo p vs t) : t.limits = {(p, vs)} := by
  ext ⟨q, ws⟩
  rw [Set.mem_singleton_iff]
  constructor
  · intro hlimits
    cases hlimits with
    | self hself =>
      obtain ⟨rfl, rfl⟩ := hself.2.unique h.2 h.1
      rfl
    | child hnot _ _ => exact absurd h (hnot p vs)
  · intro heq
    cases heq
    exact .self h

theorem limits_eq_limitsIn (h : ∀ q ws, ¬ LimitedTo q ws t) : t.limits = limitsIn t.children := by
  ext ⟨q, ws⟩
  constructor
  · intro hlimits
    cases hlimits with
    | self hself => exact absurd hself (h q ws)
    | child _ hc hlimits => exact ⟨_, hc, hlimits⟩
  · rintro ⟨c, hc, hlimits⟩
    exact .child h hc hlimits

theorem limitedTo_of_literal {v : LiteralValue} (hv : t.literal? = some v) :
    LimitedTo v.primitive [v] t := by
  have hchoices : t.choices = [t] := by
    cases t with
    | or items => cases hv
    | _ => rfl
  refine ⟨?_, ?_⟩ <;> rw [hchoices]
  · exact List.cons_ne_nil _ _
  · exact List.Forall₂.cons (isLiteral_iff.mpr ⟨hv, rfl⟩) .nil

theorem limits_of_literal {v : LiteralValue} (hv : t.literal? = some v) :
    t.limits = {(v.primitive, [v])} :=
  (limitedTo_of_literal hv).limits_eq

/-- Types that are neither literals nor unions set the limits that the types in them set. -/
theorem limits_of_no_literal (hchoices : t.choices = [t]) (hnone : t.literal? = none) :
    t.limits = limitsIn t.children := by
  refine limits_eq_limitsIn fun q ws h => ?_
  obtain ⟨_, hliterals⟩ := h
  rw [hchoices] at hliterals
  cases (literalsOf_iff.mp hliterals).1 with
  | cons hv _ => rw [hnone] at hv; cases hv

@[simp] theorem limits_base (name : String) : (base name).limits = ∅ := by
  rw [limits_of_no_literal rfl rfl, children, limitsIn_nil]

@[simp] theorem limits_reference (name : String) : (reference name).limits = ∅ := by
  rw [limits_of_no_literal rfl rfl, children, limitsIn_nil]

@[simp] theorem limits_array (t : TypeExpr) : (array t).limits = t.limits := by
  rw [limits_of_no_literal rfl rfl, children, limitsIn_cons, limitsIn_nil, Set.union_empty]

@[simp] theorem limits_map (k v : TypeExpr) : (map k v).limits = k.limits ∪ v.limits := by
  rw [limits_of_no_literal rfl rfl, children, limitsIn_cons, limitsIn_cons, limitsIn_nil,
    Set.union_empty]

@[simp] theorem limits_tuple (items : List TypeExpr) : (tuple items).limits = limitsIn items :=
  limits_of_no_literal rfl rfl

@[simp] theorem limits_and (items : List TypeExpr) : (and items).limits = limitsIn items :=
  limits_of_no_literal rfl rfl

@[simp] theorem limits_literal (l : StructLiteral) :
    (literal l).limits = limitsIn (l.properties.map (·.type)) :=
  limits_of_no_literal rfl rfl

/-! ## Limits in unions -/

theorem limits_of_isNull (h : t.isNull = true) : t.limits = ∅ := by
  rw [isNull_iff.mp h, limits_base]

theorem limitsIn_alternatives (items : List TypeExpr) :
    limitsIn (alternatives items) = limitsIn items := by
  induction items with
  | nil => rfl
  | cons t items ih =>
    rw [alternatives_cons]
    split
    · rename_i hnull
      rw [ih, limitsIn_cons, limits_of_isNull hnull, Set.empty_union]
    · rw [limitsIn_cons, limitsIn_cons, ih]

/-- Where no literals are found, the limits are those of the items. -/
theorem limits_or_of_none (h : commonPrimitive? (alternatives items) = none) :
    (or items).limits = limitsIn (alternatives items) := by
  rw [limitsIn_alternatives]
  refine limits_eq_limitsIn fun q ws hlimited => ?_
  have hsome := (commonPrimitive?_eq_some_iff hlimited.1).mpr ⟨q, ws, hlimited.2, rfl⟩
  rw [choices, h] at hsome
  cases hsome

theorem limits_or_of_literals {u : TargetType} (h : unionForm items = .literals u) :
    (or items).limits = u.gather .limit := by
  have hsome := commonPrimitive?_of_unionForm h
  have hne : alternatives items ≠ [] := by
    intro hnil
    rw [unionForm, hnil] at h
    cases h
  obtain ⟨p, vs, hvs, rfl⟩ := (commonPrimitive?_eq_some_iff hne).mp hsome
  rw [TargetType.gather_limit_constrained]
  exact LimitedTo.limits_eq ⟨hne, hvs⟩

theorem limits_or_of_variants (h : unionForm items = .variants) :
    (or items).limits = limitsIn (alternatives items) := by
  refine limits_or_of_none ?_
  rcases halt : alternatives items with _ | ⟨t, _ | ⟨u, ts⟩⟩
  · rfl
  · rw [unionForm, halt] at h
    cases h
  · rw [unionForm_of_cons_cons halt] at h
    cases hcommon : commonPrimitive? (t :: u :: ts) with
    | none => rfl
    | some w => rw [hcommon] at h; cases h

/-- A single alternative sets its limits whether it is a literal or not. -/
theorem limits_or_of_single (h : unionForm items = .single) :
    (or items).limits = limitsIn (alternatives items) := by
  cases hcommon : commonPrimitive? (alternatives items) with
  | none => exact limits_or_of_none hcommon
  | some w =>
    have hne : alternatives items ≠ [] := by
      intro hnil
      rw [hnil] at hcommon
      cases hcommon
    obtain ⟨p, vs, hvs, rfl⟩ := (commonPrimitive?_eq_some_iff hne).mp hcommon
    obtain ⟨t, halt⟩ := (alternatives_of_single h).resolve_left hne
    have hlimited : LimitedTo p vs (or items) := ⟨hne, hvs⟩
    rw [hlimited.limits_eq, halt, limitsIn_cons, limitsIn_nil, Set.union_empty]
    rw [halt] at hvs
    obtain ⟨hvalues, hprimitive⟩ := literalsOf_iff.mp hvs
    cases hvalues with
    | @cons _ v _ _ hv hnil =>
      cases hnil
      rw [limits_of_literal hv, hprimitive v List.mem_cons_self]

end TypeExpr

/-! ## Values of limits -/

namespace TypeExpr

variable {t u : TypeExpr} {p : Primitive} {vs : List LiteralValue} {v : LiteralValue}

/-- A limit has values, and all are literals of the primitive. -/
theorem Limits.values (h : t.Limits p vs) : vs ≠ [] ∧ ∀ v ∈ vs, v.primitive = p := by
  induction h with
  | self hself =>
    obtain ⟨hne, hliterals⟩ := hself
    obtain ⟨hvalues, hprimitive⟩ := literalsOf_iff.mp hliterals
    refine ⟨?_, hprimitive⟩
    rintro rfl
    exact hne (List.forall₂_nil_right_iff.mp hvalues)
  | child _ _ _ ih => exact ih

theorem part_of_literal (hv : t.literal? = some v) : Part u t ↔ u = t := by
  have hchildren : t.children = [] := by
    cases t with
    | stringLiteral | integerLiteral | booleanLiteral => rfl
    | _ => cases hv
  rw [part_iff, hchildren]
  simp

/-- The literals in a union are literals in its alternatives. -/
theorem exists_literal_of_or {items : List TypeExpr} (h : Part u (.or items))
    (hu : u.literal? = some v) : ∃ c ∈ alternatives items, Part u c := by
  obtain rfl | ⟨c, hc, hpart⟩ := part_iff.mp h
  · cases hu
  · refine ⟨c, List.mem_filter.mpr ⟨hc, ?_⟩, hpart⟩
    rw [Bool.not_eq_true', ← Bool.not_eq_true]
    intro hnull
    rw [isNull_iff.mp hnull] at hpart
    obtain rfl | ⟨_, hc, _⟩ := part_iff.mp hpart
    · cases hu
    · cases hc

/-- The values of a limited type are the literals in it. -/
theorem LimitedTo.mem_iff (h : LimitedTo p vs t) :
    v ∈ vs ↔ ∃ u, Part u t ∧ u.literal? = some v := by
  obtain ⟨hvalues, _⟩ := literalsOf_iff.mp h.2
  have hchoice : v ∈ vs ↔ ∃ c ∈ t.choices, c.literal? = some v := by
    constructor
    · intro hv
      exact exists_of_forall₂_right hvalues hv
    · rintro ⟨c, hc, hv⟩
      obtain ⟨w, hw, hcw⟩ := exists_of_forall₂ hvalues hc
      rw [hv] at hcw
      cases hcw
      exact hw
  rw [hchoice]
  constructor
  · rintro ⟨c, hc, hv⟩
    refine ⟨c, ?_, hv⟩
    cases t with
    | or items => exact .child (List.mem_filter.mp hc).1 .self
    | _ => exact List.mem_singleton.mp hc ▸ .self
  · rintro ⟨u, hu, hv⟩
    obtain ⟨c, hc, hpart⟩ : ∃ c ∈ t.choices, Part u c := by
      cases t with
      | or items => exact exists_literal_of_or hu hv
      | _ => exact ⟨_, List.mem_singleton_self _, hu⟩
    obtain ⟨w, _, hw⟩ := exists_of_forall₂ hvalues hc
    exact ⟨c, hc, (part_of_literal hw).mp hpart ▸ hv⟩

/-- Every literal in a type is a value of a limit that the type sets. -/
theorem exists_limits_iff :
    (∃ p vs, t.Limits p vs ∧ v ∈ vs) ↔ ∃ u, Part u t ∧ u.literal? = some v := by
  induction t using induct with
  | step t ih =>
    by_cases hlimited : ∃ p vs, LimitedTo p vs t
    · obtain ⟨p, vs, h⟩ := hlimited
      rw [← h.mem_iff]
      constructor
      · rintro ⟨q, ws, hlimits, hv⟩
        have hmem : (q, ws) ∈ t.limits := hlimits
        rw [h.limits_eq] at hmem
        cases hmem
        exact hv
      · intro hv
        exact ⟨p, vs, .self h, hv⟩
    · have hnot : ∀ q ws, ¬ LimitedTo q ws t := fun q ws h => hlimited ⟨q, ws, h⟩
      constructor
      · rintro ⟨p, vs, hlimits, hv⟩
        cases hlimits with
        | self hself => exact absurd hself (hnot p vs)
        | child _ hc hlimits =>
          obtain ⟨u, hu, hliteral⟩ := (ih _ hc).mp ⟨p, vs, hlimits, hv⟩
          exact ⟨u, .child hc hu, hliteral⟩
      · rintro ⟨u, hu, hliteral⟩
        cases hu with
        | self => exact absurd (limitedTo_of_literal hliteral) (hnot _ _)
        | child hc hpart =>
          obtain ⟨p, vs, hlimits, hv⟩ := (ih _ hc).mpr ⟨u, hpart, hliteral⟩
          exact ⟨p, vs, .child hnot hc hlimits, hv⟩

theorem literal?_eq_integer {i : Int64} :
    u.literal? = some (.integer i) ↔ u = .integerLiteral i := by
  cases u <;> simp [literal?]

end TypeExpr

/-! ## What mapping gathers -/

namespace TypeExpr

/-- A type sets the limits that literals become, and those that its parts set. -/
theorem limits_eq_parts (hint : String) (t : TypeExpr) :
    t.limits = gatherIn .limit t.literalTypes ∪ limitsIn ((t.parts hint).map Prod.snd) := by
  cases t with
  | base | reference | array | map => simp [literalTypes, parts]
  | stringLiteral | integerLiteral | booleanLiteral =>
    rw [limits_of_literal rfl]
    simp [literalTypes, only, parts, LiteralValue.primitive]
  | tuple items | and items =>
    rw [parts, map_snd_numbered]
    simp [literalTypes]
  | literal l => simp [literalTypes, parts, Function.comp_def]
  | or items =>
    rw [literalTypes, parts]
    cases hform : unionForm items with
    | single => simp [limits_or_of_single hform, Function.comp_def]
    | literals u => simp [limits_or_of_literals hform]
    | variants => simp [limits_or_of_variants hform, map_snd_named]

end TypeExpr

/-- A declaration that is shared sets the limits already. -/
theorem Registry.limits_register (r : Registry) (d : TypeDecl) :
    gatherOf .limit (r.register d).2.decls = gatherOf .limit r.decls ∪ d.spec.gather .limit := by
  obtain ⟨-, ⟨e, hfind, hspec, heq⟩ | ⟨-, heq⟩⟩ := r.register_cases d <;> rw [heq]
  · refine (Set.union_eq_left.mpr fun c hc => ?_).symm
    exact ⟨e, (declared?_eq_some hfind).1, hspec ▸ hc⟩
  · rw [add, gatherOf_append, gatherOf_singleton]

namespace MetaModel

variable {m : MetaModel} {o : MappingOptions}

/-- The limits in the registry and those that types set are `C` from the first type to the last. -/
theorem limiting (m : MetaModel) (C : Set Limit) :
    Tally m .limit TypeExpr.limits fun r P => gatherOf .limit r.decls ∪ P = C where
  symbol _ hr := by
    rwa [TargetType.gather_limit_symbol, Set.union_empty]
  register d hr := by
    rw [TargetType.gather_limit_symbol, Set.union_empty, Registry.limits_register, ← hr]
    simp [Set.union_assoc, Set.union_comm (TypeSpec.gather _ _)]
  source_eq hint t := by
    rw [t.limits_eq_parts hint]
    simp only [TypeExpr.limitsIn, List.mem_map, exists_exists_and_eq_and]

/-! ## All declarations -/

namespace Generated

variable {ds : List Decl} {set : DeclSet} {ps : List (Declared × Shape)} {r : Registry}
  {dss : List (List Decl)}

/-- Moving parts to the heap and sorting leave the limits of a run as they are. -/
theorem limits_eq (h : Generated m o ds set ps r dss) :
    gatherOf .limit (typeDecls ds) =
      {c | ∃ d ∈ m.primaries, c ∈ d.sources m o TypeExpr.limits} := by
  have hgathered := (limiting m _).mapPrimaries o (.empty m.names) rfl _ _ h.collected.run
  rw [h.boxed, gatherOf_boxed, gatherOf_perm .limit set.typeDecls_sorted_perm, h.typeDecls_set,
    gatherOf_append, Set.union_comm, hgathered, Registry.empty, gatherOf_nil, Set.empty_union]

end Generated
end MetaModel

/-- The types that the values under a name are made of. -/
def Declared.valueTypes : Declared → List TypeExpr
  | .struct s => s.properties.map (·.type)
  | .enumeration _ => []
  | .typeAlias a => [a.type]

/-- The type stands in a type of a declaration, at any depth. -/
def Target.TargetType.StandsIn (u : TargetType) (ds : List Decl) : Prop :=
  ∃ d, .type d ∈ ds ∧ ∃ t ∈ d.spec.types, TargetType.Part u t

theorem Target.standsIn_iff {p : Primitive} {vs : List LiteralValue} {ds : List Decl} :
    (TargetType.constrained p vs).StandsIn ds ↔
      (p, vs) ∈ gatherOf .limit (typeDecls ds) := by
  simp only [TargetType.StandsIn, ← mem_typeDecls]
  rfl

namespace MetaModel

variable {m : MetaModel} {o : MappingOptions}

/-- The type stands in what a name is declared as, at any depth. -/
def States (m : MetaModel) (u : TypeExpr) : Prop :=
  ∃ d : Declared, m.Indexes d ∧ ∃ t ∈ d.valueTypes, TypeExpr.Part u t

/-- What a name is declared as limits a primitive to values. -/
def Limits (m : MetaModel) (p : Primitive) (vs : List LiteralValue) : Prop :=
  ∃ d : Declared, m.Indexes d ∧ ∃ t ∈ d.valueTypes, t.Limits p vs

theorem exists_limits_iff {v : LiteralValue} :
    (∃ p vs, m.Limits p vs ∧ v ∈ vs) ↔ ∃ u, m.States u ∧ u.literal? = some v := by
  constructor
  · rintro ⟨p, vs, ⟨d, hd, t, ht, hlimits⟩, hv⟩
    obtain ⟨u, hu, hliteral⟩ := TypeExpr.exists_limits_iff.mp ⟨p, vs, hlimits, hv⟩
    exact ⟨u, ⟨d, hd, t, ht, hu⟩, hliteral⟩
  · rintro ⟨u, ⟨d, hd, t, ht, hu⟩, hliteral⟩
    obtain ⟨p, vs, hlimits, hv⟩ := TypeExpr.exists_limits_iff.mpr ⟨u, hu, hliteral⟩
    exact ⟨p, vs, ⟨d, hd, t, ht, hlimits⟩, hv⟩

/-- Inherited properties set their limits where they are declared as well. -/
theorem Generated.standsIn_iff {ds : List Decl} {set : DeclSet} {ps : List (Declared × Shape)}
    {r : Registry} {dss : List (List Decl)} (h : Generated m o ds set ps r dss) {p : Primitive}
    {vs : List LiteralValue} :
    (TargetType.constrained p vs).StandsIn ds ↔ m.Limits p vs := by
  rw [Target.standsIn_iff, h.limits_eq]
  constructor
  · rintro ⟨d, hd, hc⟩
    cases d with
    | struct s =>
      obtain ⟨names, properties, hparts, q, hq, hc⟩ := hc
      obtain ⟨s', hs', hown⟩ := owner_of_mem_parts hd hparts hq
      obtain ⟨p, hp, rfl⟩ := List.mem_map.mp hown
      exact ⟨_, indexes_iff.mpr hs', p.type, List.mem_map_of_mem hp, hc⟩
    | enumeration e => exact absurd hc (Set.notMem_empty _)
    | typeAlias a => exact ⟨_, indexes_iff.mpr hd, a.type, List.mem_singleton_self _, hc⟩
  · rintro ⟨d, hd, t, ht, hc⟩
    refine ⟨d, indexes_iff.mp hd, ?_⟩
    cases d with
    | struct s =>
      obtain ⟨_, shape, _, hshape, _⟩ := h.exists_type (indexes_iff.mp hd)
      obtain ⟨names, properties, hparts, _⟩ :=
        exists_translateDeclared_struct_iff.mp ⟨shape, hshape⟩
      obtain ⟨all, hall⟩ := (parts_eq_ok hparts).1
      obtain ⟨names, properties, hparts, _, hown⟩ := exists_parts_of_flatten o.flattenBases hall
      obtain ⟨q, hq, rfl⟩ := List.mem_map.mp ht
      exact ⟨names, properties, hparts, _, hown (List.mem_map_of_mem hq), hc⟩
    | enumeration e => cases ht
    | typeAlias a =>
      obtain rfl := List.mem_singleton.mp ht
      exact hc

/-- How the declarations of a model limit primitives to values. -/
structure FaithfulLimits (m : MetaModel) (ds : List Decl) : Prop where
  /-- They set the limits that the model sets, and no others. -/
  limits : ∀ p vs, (TargetType.constrained p vs).StandsIn ds ↔ m.Limits p vs
  nonempty : ∀ p vs, (TargetType.constrained p vs).StandsIn ds → vs ≠ []
  primitive : ∀ p vs, (TargetType.constrained p vs).StandsIn ds → ∀ v ∈ vs, v.primitive = p
  /-- The primitive has the value, but for integers that need more than 32 bits. -/
  carried : ∀ p vs, (TargetType.constrained p vs).StandsIn ds → ∀ v ∈ vs,
    (p.Carries v ↔ ∀ i, v = .integer i → -2147483648 ≤ i.toInt ∧ i.toInt ≤ 2147483647)
  /-- So all values are carried exactly when the model states no such integer. -/
  carried_iff :
    (∀ p vs, (TargetType.constrained p vs).StandsIn ds → ∀ v ∈ vs, p.Carries v) ↔
      ∀ i, m.States (.integerLiteral i) → -2147483648 ≤ i.toInt ∧ i.toInt ≤ 2147483647

theorem targetDecls_limits {ds : List Decl} (h : m.targetDecls o = .ok ds) :
    m.FaithfulLimits ds := by
  obtain ⟨set, ps, r, dss, hg⟩ := generated_of_targetDecls h
  have values {p : Primitive} {vs : List LiteralValue}
      (hp : (TargetType.constrained p vs).StandsIn ds) : vs ≠ [] ∧ ∀ v ∈ vs, v.primitive = p := by
    obtain ⟨d, _, t, _, hlimits⟩ := hg.standsIn_iff.mp hp
    exact hlimits.values
  have carried {p : Primitive} {vs : List LiteralValue}
      (hp : (TargetType.constrained p vs).StandsIn ds) {v : LiteralValue} (hv : v ∈ vs) :
      p.Carries v ↔ ∀ i, v = .integer i → -2147483648 ≤ i.toInt ∧ i.toInt ≤ 2147483647 := by
    rw [← (values hp).2 v hv]
    exact Target.carries_iff
  refine ⟨fun p vs => hg.standsIn_iff, fun p vs hp => (values hp).1, fun p vs hp => (values hp).2,
    fun p vs hp v hv => carried hp hv, ?_⟩
  constructor
  · intro hall i hi
    obtain ⟨p, vs, hlimits, hv⟩ :=
      exists_limits_iff.mpr ⟨_, hi, TypeExpr.literal?_eq_integer.mpr rfl⟩
    have hp := hg.standsIn_iff.mpr hlimits
    exact (carried hp hv).mp (hall p vs hp _ hv) i rfl
  · intro hrange p vs hp v hv
    refine (carried hp hv).mpr fun i hi => ?_
    obtain ⟨u, hu, hliteral⟩ := exists_limits_iff.mp ⟨p, vs, hg.standsIn_iff.mp hp, hv⟩
    rw [hi, TypeExpr.literal?_eq_integer] at hliteral
    exact hrange i (hliteral ▸ hu)

/-- Literals by themselves, beside null, among other types, and in a union that has a name. -/
def switches : MetaModel where
  version := "1"
  requests := []
  notifications := []
  structures := [⟨"Switch", [
    ⟨"kind", .stringLiteral "switch", false, {}⟩,
    ⟨"states", .array (.or [.stringLiteral "on", .stringLiteral "off", .base "null"]), true, {}⟩,
    ⟨"level", .or [.integerLiteral (-1), .booleanLiteral true], false, {}⟩], [], [], {}⟩]
  enumerations := []
  typeAliases := [⟨"SwitchCount", .or [.integerLiteral 1, .integerLiteral 2], {}⟩]

def switchesDecls : List Decl := [
  .type ⟨"Switch", {}, .record [] [
    ⟨"kind", "kind", .constrained .string [.text "switch"], false, {}⟩,
    ⟨"states", "states", .option (.list (.option (.constrained .string
      [.text "on", .text "off"]))), true, {}⟩,
    ⟨"level", "level", .symbol "SwitchLevel", false, {}⟩]⟩,
  .type ⟨"SwitchCount", {}, .synonym (.constrained .int32 [.integer 1, .integer 2])⟩,
  .type ⟨"SwitchLevel", {}, .union [
    ⟨"ValueMinus1", some (.constrained .int32 [.integer (-1)])⟩,
    ⟨"True", some (.constrained .bool [.boolean true])⟩]⟩]

theorem switches_limits :
    switches.targetDecls {} = .ok switchesDecls ∧ switches.FaithfulLimits switchesDecls := by
  have hdecls : switches.targetDecls {} = .ok switchesDecls :=
    targetDecls_of_collect (by decide +kernel)
  exact ⟨hdecls, targetDecls_limits hdecls⟩

/-- An alias for a number that does not fit into 32 bits. -/
def large : MetaModel where
  version := "1"
  requests := []
  notifications := []
  structures := []
  enumerations := []
  typeAliases := [⟨"Large", .integerLiteral 3000000000, {}⟩]

theorem parse_large : parseText (.ofList large.document.compact) = .ok large := by
  have hexact : ∀ e ∈ large.enumerations, ∀ v ∈ e.values, v.value.IsExact := by
    decide +kernel
  exact parseText_of_writtenAs hexact (by decide +kernel)
    (Json.Document.writtenAs_compact (whole_document hexact))

/-- A decoded integer can be beyond the primitive that is limited to it. -/
theorem limit_beyond_carrier :
    ¬ ∀ (text : String) (m : MetaModel) (o : MappingOptions) (ds : List Decl),
      parseText text = .ok m → m.targetDecls o = .ok ds →
      ∀ p vs, (TargetType.constrained p vs).StandsIn ds →
        vs ≠ [] ∧ ∀ v ∈ vs, v.primitive = p ∧ p.Carries v := by
  intro h
  have hdecls : large.targetDecls {} = .ok [.type ⟨"Large", {},
      .synonym (.constrained .int32 [.integer 3000000000])⟩] :=
    targetDecls_of_collect (by decide +kernel)
  have hcarried := (h _ _ _ _ parse_large hdecls .int32 [.integer 3000000000]
    ⟨_, List.mem_singleton_self _, _, List.mem_singleton_self _, .self⟩).2
    (.integer 3000000000) (List.mem_singleton_self _)
  have hrange := exists_int32_iff.mp hcarried.2
  exact absurd hrange.2 (by decide)

end MetaModel
end ProtocolTypes
