import Mathlib.Data.Option.Basic
import ProtocolTypes.Proofs.Target.Containment
import ProtocolTypes.Proofs.Traversal

/-!
# ProtocolTypes.Proofs.Target.Boxing

What boxing does to declarations.

* `Moved` relates types, members and declarations before and after, by the declarations whose values
  go to the heap. Boxing moves exactly what a path of containment leads back from to the owner, and
  counts it; the order of the declarations has no part in this (`boxing_exact`).
* Boxed declarations stay as they are when they are boxed again, also where a name is declared
  twice or not at all (`boxing_settled`).
-/

open Relation (ReflTransGen TransGen)

namespace ProtocolTypes
namespace Target

/-! ## Types -/

namespace TargetType

/-- The second type is the first one with the values of the declarations `P` that it holds in place
moved to the heap. -/
inductive Moved (P : String → Prop) : TargetType → TargetType → Prop where
  | moved {name : String} : P name → Moved P (.symbol name) (.boxed (.symbol name))
  | kept {name : String} : ¬ P name → Moved P (.symbol name) (.symbol name)
  | option {t u : TargetType} : Moved P t u → Moved P (.option t) (.option u)
  | tuple {ts us : List TargetType} : List.Forall₂ (Moved P) ts us → Moved P (.tuple ts) (.tuple us)
  | primitive (p : Primitive) : Moved P (.primitive p) (.primitive p)
  | list (element : TargetType) : Moved P (.list element) (.list element)
  | map (key value : TargetType) : Moved P (.map key value) (.map key value)
  | boxed (inner : TargetType) : Moved P (.boxed inner) (.boxed inner)
  | constrained (base : Primitive) (values : List LiteralValue) :
      Moved P (.constrained base values) (.constrained base values)

variable {P : String → Prop} {cycle : List String} {t u : TargetType}

theorem moved_iff (h : ∀ name, t.Holds name → (P name ↔ name ∈ cycle)) :
    t.Moved P u ↔ t.box cycle = u := by
  induction t generalizing u with
  | symbol name =>
    have hname := h name .symbol
    rw [box, List.contains_eq_mem]
    by_cases hP : P name
    · rw [if_pos (by simpa using hname.mp hP)]
      exact ⟨fun hu => by cases hu with | moved _ => rfl | kept hnot => exact absurd hP hnot,
        fun hu => hu ▸ .moved hP⟩
    · rw [if_neg (by simpa using fun hmem => hP (hname.mpr hmem))]
      exact ⟨fun hu => by cases hu with | moved hmem => exact absurd hmem hP | kept _ => rfl,
        fun hu => hu ▸ .kept hP⟩
  | option t ih =>
    have hinner : ∀ v, t.Moved P v ↔ t.box cycle = v :=
      fun v => ih fun name hname => h name (.option hname)
    rw [box]
    constructor
    · rintro (_ | _ | hv)
      rw [(hinner _).mp hv]
    · rintro rfl
      exact .option ((hinner _).mpr rfl)
  | tuple ts ih =>
    have hitems : ∀ us, List.Forall₂ (Moved P) ts us ↔ ts.map (box cycle) = us := by
      intro us
      exact forall₂_iff_map fun t ht u => ih t ht fun name hname => h name (.item ht hname)
    rw [box, boxAll_eq]
    constructor
    · rintro (_ | _ | _ | hus)
      rw [(hitems _).mp hus]
    · rintro rfl
      exact .tuple ((hitems _).mpr rfl)
  | primitive | list | map | boxed | constrained =>
    constructor
    · intro hu
      cases hu
      rfl
    · rintro rfl
      rw [box]
      constructor

theorem box_nil (t : TargetType) : t.box [] = t := by
  induction t with
  | symbol name => rfl
  | option t ih => rw [box, ih]
  | tuple ts ih => rw [box, boxAll_eq, List.map_congr_left ih, List.map_id']
  | primitive | list | map | boxed | constrained => rfl

mutual

/-- How many values are on the heap, as the type is written. -/
def boxes : TargetType → Nat
  | .primitive _ | .symbol _ | .constrained _ _ => 0
  | .list element => element.boxes
  | .map key value => key.boxes + value.boxes
  | .tuple items => boxesAll items
  | .option inner => inner.boxes
  | .boxed inner => inner.boxes + 1

def boxesAll : List TargetType → Nat
  | [] => 0
  | t :: rest => t.boxes + boxesAll rest

end

theorem boxesAll_boxAll {ts : List TargetType}
    (h : ∀ t ∈ ts, (t.box cycle).boxes = t.boxes + t.contained.countP cycle.contains) :
    boxesAll (boxAll cycle ts) = boxesAll ts + (containedAll ts).countP cycle.contains := by
  induction ts with
  | nil => rfl
  | cons t ts ih =>
    rw [boxAll, boxesAll, boxesAll, containedAll, List.countP_append, h t List.mem_cons_self,
      ih fun u hu => h u (List.mem_cons_of_mem _ hu)]
    omega

theorem boxes_box (t : TargetType) :
    (t.box cycle).boxes = t.boxes + t.contained.countP cycle.contains := by
  induction t with
  | symbol name =>
    rw [box, contained, List.countP_singleton]
    split <;> rfl
  | option t ih => rw [box, boxes, boxes, contained, ih]
  | tuple ts ih => rw [box, boxes, boxes, contained, boxesAll_boxAll ih]
  | primitive | list | map | boxed | constrained => rfl

end TargetType

/-! ## Declarations -/

/-- Of what a declaration contains in place, the search finds what a path leads back from. -/
theorem mem_leadingTo_iff {ds : List Decl} (hds : DistinctTypes ds) {d : TypeDecl}
    (hd : .type d ∈ ds) {name : String} (hname : name ∈ d.spec.contained) :
    name ∈ (Containment.ofDecls ds).leadingTo d.ident ↔
      ReflTransGen (ContainsByValue ds) name d.ident := by
  have hedge : Containment.Edge (.ofDecls ds) = ContainsByValue ds :=
    funext fun a => funext fun b => propext (Containment.edge_ofDecls hds)
  rw [Containment.mem_leadingTo, hedge]
  constructor
  · exact TransGen.to_reflTransGen
  · intro hpath
    rcases Relation.reflTransGen_iff_eq_or_transGen.mp hpath with rfl | hpath
    -- a declaration that contains itself leads back in one step
    · exact .single ⟨d, hd, rfl, TypeSpec.mem_contained.mp hname⟩
    · exact hpath

section Moved

variable (P : String → Prop)

/-- The bases differ in the type at most, and that is moved. -/
structure Base.Moved (b c : Base) : Prop where
  type : b.type.Moved P c.type
  rest : c = { b with type := c.type }

structure Field.Moved (f g : Field) : Prop where
  type : f.type.Moved P g.type
  rest : g = { f with type := g.type }

structure Variant.Moved (v w : Variant) : Prop where
  type : Option.Rel (TargetType.Moved P) v.type w.type
  rest : w = { v with type := w.type }

/-- The members of records and unions are moved, other declarations stay as they are. -/
inductive TypeSpec.Moved : TypeSpec → TypeSpec → Prop where
  | record {bases bases' : List Base} {fields fields' : List Field} :
      List.Forall₂ (Base.Moved P) bases bases' → List.Forall₂ (Field.Moved P) fields fields' →
      TypeSpec.Moved (.record bases fields) (.record bases' fields')
  | union {variants variants' : List Variant} :
      List.Forall₂ (Variant.Moved P) variants variants' →
      TypeSpec.Moved (.union variants) (.union variants')
  | synonym (t : TargetType) : TypeSpec.Moved (.synonym t) (.synonym t)
  | newtype (p : Primitive) : TypeSpec.Moved (.newtype p) (.newtype p)

end Moved

/-- In a declaration those values move that lead back to it: values of the declaration itself and
of any with a path of containment to it. -/
inductive Decl.Moved (contains : String → String → Prop) : Decl → Decl → Prop where
  | type {ident : String} {docs : Docs} {spec spec' : TypeSpec} :
      spec.Moved (fun name => ReflTransGen contains name ident) spec' →
      Decl.Moved contains (.type ⟨ident, docs, spec⟩) (.type ⟨ident, docs, spec'⟩)
  | constants (b : ConstBlock) : Decl.Moved contains (.constants b) (.constants b)

section Members

variable {P : String → Prop} {cycle : List String}

theorem Base.moved_iff {b c : Base} (h : ∀ u, b.type.Moved P u ↔ b.type.box cycle = u) :
    b.Moved P c ↔ { b with type := b.type.box cycle } = c := by
  constructor
  · rintro ⟨hc, hrest⟩
    rw [hrest, (h _).mp hc]
  · rintro rfl
    exact ⟨(h _).mpr rfl, rfl⟩

theorem Field.moved_iff {f g : Field} (h : ∀ u, f.type.Moved P u ↔ f.type.box cycle = u) :
    f.Moved P g ↔ { f with type := f.type.box cycle } = g := by
  constructor
  · rintro ⟨hg, hrest⟩
    rw [hrest, (h _).mp hg]
  · rintro rfl
    exact ⟨(h _).mpr rfl, rfl⟩

theorem Variant.moved_iff {v w : Variant}
    (h : ∀ t ∈ v.type, ∀ u, t.Moved P u ↔ t.box cycle = u) :
    v.Moved P w ↔ { v with type := v.type.map (·.box cycle) } = w := by
  have hrel : ∀ o, Option.Rel (TargetType.Moved P) v.type o ↔ v.type.map (·.box cycle) = o := by
    intro o
    cases ht : v.type with
    | none =>
      constructor
      · rintro ⟨⟩
        rfl
      · rintro rfl
        exact .none
    | some t =>
      constructor
      · rintro ⟨hu⟩
        rw [Option.map_some, (h t ht _).mp hu]
      · rintro rfl
        exact .some ((h t ht _).mpr rfl)
  constructor
  · rintro ⟨hw, hrest⟩
    rw [hrest, (hrel _).mp hw]
  · rintro rfl
    exact ⟨(hrel _).mpr rfl, rfl⟩

end Members

namespace TypeSpec

variable {P : String → Prop} {cycle cycle' : List String} {spec spec' : TypeSpec}

theorem moved_iff (h : ∀ name ∈ spec.contained, P name ↔ name ∈ cycle) :
    spec.Moved P spec' ↔ spec.box cycle = spec' := by
  have htypes : ∀ t ∈ spec.types, ∀ u, t.Moved P u ↔ t.box cycle = u := fun t ht u =>
    TargetType.moved_iff fun name hname => h name (mem_contained.mpr ⟨t, ht, hname⟩)
  cases spec with
  | record bases fields =>
    have hbases : ∀ bases', List.Forall₂ (Base.Moved P) bases bases' ↔
        bases.map (fun b => { b with type := b.type.box cycle }) = bases' := fun _ =>
      forall₂_iff_map fun b hb _ =>
        Base.moved_iff (htypes b.type (List.mem_append_left _ (List.mem_map_of_mem hb)))
    have hfields : ∀ fields', List.Forall₂ (Field.Moved P) fields fields' ↔
        fields.map (fun f => { f with type := f.type.box cycle }) = fields' := fun _ =>
      forall₂_iff_map fun f hf _ =>
        Field.moved_iff (htypes f.type (List.mem_append_right _ (List.mem_map_of_mem hf)))
    rw [box]
    constructor
    · rintro ⟨hb, hf⟩
      rw [(hbases _).mp hb, (hfields _).mp hf]
    · rintro rfl
      exact .record ((hbases _).mpr rfl) ((hfields _).mpr rfl)
  | union variants =>
    have hvariants : ∀ variants', List.Forall₂ (Variant.Moved P) variants variants' ↔
        variants.map (fun v => { v with type := v.type.map (·.box cycle) }) = variants' := fun _ =>
      forall₂_iff_map fun v hv _ =>
        Variant.moved_iff fun t ht => htypes t (List.mem_filterMap.mpr ⟨v, hv, ht⟩)
    rw [box]
    constructor
    · rintro (_ | hv)
      rw [(hvariants _).mp hv]
    · rintro rfl
      exact .union ((hvariants _).mpr rfl)
  | synonym | newtype =>
    constructor
    · intro hs
      cases hs
      rfl
    · rintro rfl
      rw [box]
      constructor

theorem box_congr (h : ∀ name ∈ spec.contained, name ∈ cycle ↔ name ∈ cycle') :
    spec.box cycle' = spec.box cycle :=
  (moved_iff h).mp ((moved_iff fun _ _ => Iff.rfl).mpr rfl)

theorem box_nil (spec : TypeSpec) : spec.box [] = spec := by
  cases spec with
  | record bases fields => simp [box, TargetType.box_nil]
  | union variants => simp [box, TargetType.box_nil]
  | synonym | newtype => rfl

/-- How many values are on the heap in the types of a declaration. -/
def boxes (spec : TypeSpec) : Nat :=
  TargetType.boxesAll spec.types

theorem boxes_box (cycle : List String) (spec : TypeSpec) :
    (spec.box cycle).boxes = spec.boxes + spec.boxedCount cycle := by
  cases hs : spec.isComposite with
  | false =>
    rw [box_of_not_composite cycle hs]
    cases spec with
    | record | union => cases hs
    | synonym | newtype => rfl
  | true =>
    have hmembers : spec.members = spec.types := by
      cases spec with
      | record | union => rfl
      | synonym | newtype => cases hs
    rw [boxes, boxes, boxedCount, hmembers, types_box cycle hs, ← TargetType.boxAll_eq]
    exact TargetType.boxesAll_boxAll fun t _ => TargetType.boxes_box t

/-- What is boxed already stays as it is when fewer names lead back. -/
theorem box_box_of_subset (h : cycle' ⊆ cycle) (spec : TypeSpec) :
    (spec.box cycle).box cycle' = spec.box cycle := by
  cases hs : spec.isComposite with
  | false => rw [box_of_not_composite cycle hs, box_of_not_composite cycle' hs]
  | true =>
    have hnone : ∀ name ∈ (spec.box cycle).contained, name ∈ ([] : List String) ↔ name ∈ cycle' :=
      fun name hname => iff_of_false List.not_mem_nil fun hmem =>
        ((mem_contained_box hs).mp hname).2 (h hmem)
    rw [box_congr hnone, box_nil]

end TypeSpec

namespace Decl

variable {ds : List Decl} {e e' : Decl}

/-- How many values are on the heap in a declaration. -/
def boxes : Decl → Nat
  | .type d => d.spec.boxes
  | .constants _ => 0

theorem boxes_box (g : Containment) (e : Decl) : (e.box g).boxes = e.boxes + e.boxedCount g := by
  cases e with
  | type d => exact TypeSpec.boxes_box _ d.spec
  | constants b => rfl

theorem moved_iff (hds : DistinctTypes ds) (he : e ∈ ds) :
    e.Moved (ContainsByValue ds) e' ↔ e.box (.ofDecls ds) = e' := by
  cases e with
  | constants b =>
    constructor
    · rintro ⟨⟩
      rfl
    · rintro rfl
      exact .constants b
  | type d =>
    have hspec : ∀ spec', d.spec.Moved
        (fun name => ReflTransGen (ContainsByValue ds) name d.ident) spec' ↔
          d.spec.box ((Containment.ofDecls ds).leadingTo d.ident) = spec' := fun _ =>
      TypeSpec.moved_iff fun name hname => (mem_leadingTo_iff hds he hname).symm
    constructor
    · rintro (h | _)
      rw [box, (hspec _).mp h]
    · rintro rfl
      exact .type ((hspec _).mpr rfl)

end Decl

/-! ## Lists of declarations -/

variable {ds ds' : List Decl}

/-- How many values are on the heap in a list of declarations. -/
def boxes (ds : List Decl) : Nat :=
  (ds.map Decl.boxes).foldr (· + ·) 0

theorem boxes_perm (h : ds'.Perm ds) : boxes ds' = boxes ds :=
  (h.map Decl.boxes).sum_nat

theorem boxes_boxed (ds : List Decl) : boxes (boxed ds) = boxes ds + boxedCount ds := by
  rw [boxed, boxedCount]
  generalize Containment.ofDecls ds = g
  induction ds with
  | nil => rfl
  | cons e ds ih =>
    simp only [boxes, List.map_cons, List.foldr_cons, Decl.boxes_box] at ih ⊢
    omega

theorem moved_iff_boxed (hds : DistinctTypes ds) {es : List Decl} :
    List.Forall₂ (Decl.Moved (ContainsByValue ds)) ds es ↔ boxed ds = es :=
  forall₂_iff_map fun _ he _ => Decl.moved_iff hds he

theorem distinctTypes_perm (h : ds'.Perm ds) : DistinctTypes ds' ↔ DistinctTypes ds :=
  ((h.filterMap _).map _).nodup_iff

theorem containsByValue_perm (h : ds'.Perm ds) : ContainsByValue ds' = ContainsByValue ds := by
  funext a b
  simp only [ContainsByValue, h.mem_iff]

/-- In another order each declaration becomes what it became. -/
theorem boxed_perm (hds : DistinctTypes ds) (h : ds'.Perm ds) :
    boxed ds' = ds'.map (Decl.box (.ofDecls ds)) := by
  rw [← moved_iff_boxed ((distinctTypes_perm h).mpr hds), containsByValue_perm h]
  have hmoved : ∀ e ∈ ds', ∀ e', e.Moved (ContainsByValue ds) e' ↔ e.box (.ofDecls ds) = e' :=
    fun _ he _ => Decl.moved_iff hds (h.mem_iff.mp he)
  exact (forall₂_iff_map hmoved).mpr rfl

theorem boxedCount_perm (hds : DistinctTypes ds) (h : ds'.Perm ds) :
    boxedCount ds' = boxedCount ds := by
  have hboxed : (boxed ds').Perm (boxed ds) := by
    rw [boxed_perm hds h]
    exact h.map _
  have hafter := boxes_perm hboxed
  rw [boxes_boxed, boxes_boxed, boxes_perm h] at hafter
  exact Nat.add_left_cancel hafter

/-- Boxing distinct declarations moves the values that lead back to their owner, and nothing else.
The count tells how many are on the heap since then, and what becomes of a declaration does not
depend on the order. -/
theorem boxing_exact (hds : DistinctTypes ds) :
    (∀ es, List.Forall₂ (Decl.Moved (ContainsByValue ds)) ds es ↔ boxed ds = es) ∧
    boxes (boxed ds) = boxes ds + boxedCount ds ∧
    ∃ move : Decl → Decl, ∀ ds' : List Decl, ds'.Perm ds →
      boxed ds' = ds'.map move ∧ boxedCount ds' = boxedCount ds :=
  ⟨fun _ => moved_iff_boxed hds, boxes_boxed ds, .box (.ofDecls ds),
    fun _ h => ⟨boxed_perm hds h, boxedCount_perm hds h⟩⟩

/-- A tree is a node, one kind of node has a subtree, and a subtree may be a tree. -/
def forest : List Decl := [
  .type ⟨"Leaf", {}, .newtype .string⟩,
  .type ⟨"Node", {}, .union [⟨"Leaf", some (.symbol "Leaf")⟩,
    ⟨"Pair", some (.tuple [.symbol "Subtree", .option (.symbol "Leaf")])⟩, ⟨"Null", none⟩]⟩,
  .type ⟨"Subtree", {}, .synonym (.option (.symbol "Tree"))⟩,
  .type ⟨"Tree", {}, .record [⟨"node", .symbol "Node"⟩]
    [⟨"others", "others", .list (.symbol "Tree"), false, {}⟩,
      ⟨"parent", "parent", .option (.symbol "Tree"), true, {}⟩]⟩]

def boxedForest : List Decl := [
  .type ⟨"Leaf", {}, .newtype .string⟩,
  .type ⟨"Node", {}, .union [⟨"Leaf", some (.symbol "Leaf")⟩,
    ⟨"Pair", some (.tuple [.boxed (.symbol "Subtree"), .option (.symbol "Leaf")])⟩,
    ⟨"Null", none⟩]⟩,
  .type ⟨"Subtree", {}, .synonym (.option (.symbol "Tree"))⟩,
  .type ⟨"Tree", {}, .record [⟨"node", .boxed (.symbol "Node")⟩]
    [⟨"others", "others", .list (.symbol "Tree"), false, {}⟩,
      ⟨"parent", "parent", .option (.boxed (.symbol "Tree")), true, {}⟩]⟩]

theorem forest_boxed : DistinctTypes forest ∧
    List.Forall₂ (Decl.Moved (ContainsByValue forest)) forest boxedForest ∧
    boxed forest.reverse = boxedForest.reverse ∧ boxedCount forest.reverse = 3 := by
  have hdistinct : DistinctTypes forest := by
    rw [DistinctTypes]
    decide +kernel
  have hboxed : boxed forest = boxedForest := by decide +kernel
  have hcount : boxedCount forest = 3 := by decide +kernel
  obtain ⟨hmoved, _, move, hmove⟩ := boxing_exact hdistinct
  obtain ⟨hsame, _⟩ := hmove forest (List.Perm.refl _)
  obtain ⟨hback, hcount'⟩ := hmove forest.reverse forest.reverse_perm
  refine ⟨hdistinct, (hmoved _).mpr hboxed, ?_, hcount'.trans hcount⟩
  rw [hback, List.map_reverse, ← hsame, hboxed]

/-! ## Boxing again -/

theorem any_declares_map_box (g : Containment) (name : String) (ds : List Decl) :
    (ds.map (Decl.box g)).any (Containment.declares name) = ds.any (Containment.declares name) := by
  rw [List.any_map]
  congr 1
  funext e
  cases e <;> rfl

/-- The last declaration of a name is the same one after boxing, and it contains no more. -/
theorem edge_of_map_box {g : Containment} {a b : String}
    (h : Containment.Edge (.ofDecls (ds.map (Decl.box g))) a b) :
    Containment.Edge (.ofDecls ds) a b := by
  induction ds with
  | nil => exact h
  | cons e ds ih =>
    cases e with
    | constants block => exact ih h
    | type d =>
      obtain ⟨names, hmem, hb⟩ := h
      rw [List.map_cons, Decl.box, Containment.ofDecls, any_declares_map_box] at hmem
      rw [Containment.ofDecls]
      by_cases hlater : ds.any (Containment.declares d.ident) = true
      · rw [if_pos hlater] at hmem ⊢
        exact ih ⟨names, hmem, hb⟩
      · rw [if_neg hlater] at hmem ⊢
        rcases List.mem_cons.mp hmem with heq | hmem
        · obtain ⟨rfl, rfl⟩ := Prod.mk.inj heq
          exact ⟨d.spec.contained, List.mem_cons_self, TypeSpec.contained_box_subset _ _ hb⟩
        · obtain ⟨names, hmem, hb⟩ := ih ⟨names, hmem, hb⟩
          exact ⟨names, List.mem_cons_of_mem _ hmem, hb⟩

theorem leadingTo_boxed_subset (ds : List Decl) (owner : String) :
    (Containment.ofDecls (boxed ds)).leadingTo owner ⊆
      (Containment.ofDecls ds).leadingTo owner := by
  intro name hname
  rw [Containment.mem_leadingTo] at hname ⊢
  exact TransGen.mono (fun _ _ => edge_of_map_box) _ _ hname

theorem boxed_boxed (ds : List Decl) : boxed (boxed ds) = boxed ds := by
  have hsettled : ∀ e ∈ ds, (e.box (.ofDecls ds)).box (.ofDecls (boxed ds)) =
      e.box (.ofDecls ds) := by
    rintro (d | b) _
    · rw [Decl.box, Decl.box, TypeSpec.box_box_of_subset (leadingTo_boxed_subset ds d.ident)]
    · rfl
  calc boxed (boxed ds)
      = ds.map (Decl.box (.ofDecls (boxed ds)) ∘ Decl.box (.ofDecls ds)) := by
        rw [boxed, boxed, List.map_map]
    _ = boxed ds := List.map_congr_left hsettled

theorem boxing_settled (ds : List Decl) :
    boxed (boxed ds) = boxed ds ∧ boxedCount (boxed ds) = 0 := by
  refine ⟨boxed_boxed ds, ?_⟩
  have hboxes := boxes_boxed (boxed ds)
  rw [boxed_boxed] at hboxes
  omega

end Target
end ProtocolTypes
