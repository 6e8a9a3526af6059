import Mathlib.Data.List.Basic
import ProtocolTypes.Target.Boxing

/-!
# ProtocolTypes.Proofs.Target.Occurrence

Where the names of declarations stand in types: anywhere (`Mentions`), or where a value of the type
holds a value of the declaration itself (`Holds`). `mem_contained` ties the second to the names
that boxing collects; moving parts to the heap removes the chosen names from it (`contained_box`).
-/

namespace ProtocolTypes
namespace Target

namespace TargetType

/-- Induction on types; the items of a tuple come with the hypothesis each. -/
@[induction_eliminator]
theorem induct {P : TargetType → Prop} (primitive : ∀ p, P (.primitive p))
    (symbol : ∀ name, P (.symbol name)) (list : ∀ element, P element → P (.list element))
    (map : ∀ key value, P key → P value → P (.map key value))
    (tuple : ∀ items, (∀ t ∈ items, P t) → P (.tuple items))
    (option : ∀ inner, P inner → P (.option inner)) (boxed : ∀ inner, P inner → P (.boxed inner))
    (constrained : ∀ base values, P (.constrained base values)) : ∀ t, P t :=
  TargetType.rec primitive symbol list map tuple option boxed constrained
    (fun _ h => absurd h List.not_mem_nil)
    (fun _ _ head tail => List.forall_mem_cons.mpr ⟨head, tail⟩)

/-! ## Occurrences -/

/-- The type mentions a declaration, at any depth. -/
inductive Mentions (name : String) : TargetType → Prop where
  | symbol : Mentions name (.symbol name)
  | list {t : TargetType} : Mentions name t → Mentions name (.list t)
  | key {k v : TargetType} : Mentions name k → Mentions name (.map k v)
  | value {k v : TargetType} : Mentions name v → Mentions name (.map k v)
  | item {ts : List TargetType} {t : TargetType} :
      t ∈ ts → Mentions name t → Mentions name (.tuple ts)
  | option {t : TargetType} : Mentions name t → Mentions name (.option t)
  | boxed {t : TargetType} : Mentions name t → Mentions name (.boxed t)

/-- A value of the type can hold a value of a declaration in place, not on the heap. -/
inductive Holds (name : String) : TargetType → Prop where
  | symbol : Holds name (.symbol name)
  | option {t : TargetType} : Holds name t → Holds name (.option t)
  | item {ts : List TargetType} {t : TargetType} : t ∈ ts → Holds name t → Holds name (.tuple ts)

theorem containedAll_eq (ts : List TargetType) : containedAll ts = ts.flatMap contained := by
  induction ts with
  | nil => rfl
  | cons t ts ih => rw [containedAll, List.flatMap_cons, ih]

theorem boxAll_eq (cycle : List String) (ts : List TargetType) :
    boxAll cycle ts = ts.map (box cycle) := by
  induction ts with
  | nil => rfl
  | cons t ts ih => rw [boxAll, List.map_cons, ih]

theorem mem_contained {name : String} {t : TargetType} : name ∈ t.contained ↔ t.Holds name := by
  induction t with
  | symbol n =>
    rw [contained, List.mem_singleton]
    exact ⟨fun h => h ▸ .symbol, fun h => by cases h; rfl⟩
  | option t ih =>
    rw [contained, ih]
    exact ⟨.option, fun h => by cases h; assumption⟩
  | tuple ts ih =>
    rw [contained, containedAll_eq, List.mem_flatMap]
    constructor
    · rintro ⟨t, ht, hn⟩
      exact .item ht ((ih t ht).mp hn)
    · rintro (_ | _ | ⟨ht, hn⟩)
      exact ⟨_, ht, (ih _ ht).mpr hn⟩
  | primitive | list | map | boxed | constrained => exact ⟨fun h => by simp [contained] at h, nofun⟩

/-! ## Boxing -/

theorem contained_box (cycle : List String) (t : TargetType) :
    (t.box cycle).contained = t.contained.filter fun name => !cycle.contains name := by
  induction t with
  | symbol n =>
    rw [box]
    split
    · rename_i h
      rw [contained, contained, List.filter_cons_of_neg (by rw [h]; simp), List.filter_nil]
    · rename_i h
      rw [contained, List.filter_cons_of_pos (by simp only [h]; rfl), List.filter_nil]
  | option t ih => rw [box, contained, contained, ih]
  | tuple ts ih =>
    rw [box, contained, contained, containedAll_eq, containedAll_eq, boxAll_eq]
    induction ts with
    | nil => rfl
    | cons t ts iht =>
      rw [List.map_cons, List.flatMap_cons, List.flatMap_cons, List.filter_append,
        ih t List.mem_cons_self, iht fun u hu => ih u (List.mem_cons_of_mem _ hu)]
  | primitive | list | map | boxed | constrained => rfl

end TargetType

/-! ## Declarations -/

namespace TypeSpec

/-- The types that stand in a declaration. -/
def types : TypeSpec → List TargetType
  | .record bases fields => bases.map (·.type) ++ fields.map (·.type)
  | .union variants => variants.filterMap (·.type)
  | .synonym t => [t]
  | .newtype _ => []

/-- Records and unions have members of their own. -/
def isComposite : TypeSpec → Bool
  | .record _ _ | .union _ => true
  | .synonym _ | .newtype _ => false

theorem contained_eq (spec : TypeSpec) :
    spec.contained = spec.types.flatMap TargetType.contained := by
  cases spec with
  | synonym t => rw [contained, types, List.flatMap_singleton]
  | record | union | newtype => exact TargetType.containedAll_eq _

theorem mem_contained {name : String} {spec : TypeSpec} :
    name ∈ spec.contained ↔ ∃ t ∈ spec.types, t.Holds name := by
  simp only [contained_eq, List.mem_flatMap, TargetType.mem_contained]

theorem types_box (cycle : List String) {spec : TypeSpec} (h : spec.isComposite) :
    (spec.box cycle).types = spec.types.map (TargetType.box cycle) := by
  cases spec with
  | record bases fields => simp [box, types, List.map_map, Function.comp_def]
  | union variants => simp [box, types, List.map_filterMap, List.filterMap_map]
  | synonym t => cases h
  | newtype p => cases h

theorem mem_contained_box {cycle : List String} {spec : TypeSpec} {name : String}
    (h : spec.isComposite) :
    name ∈ (spec.box cycle).contained ↔ name ∈ spec.contained ∧ name ∉ cycle := by
  rw [contained_eq, contained_eq, types_box cycle h, List.flatMap_map, List.mem_flatMap,
    List.mem_flatMap]
  simp only [TargetType.contained_box, List.mem_filter, Bool.not_eq_true', List.contains_eq_mem,
    decide_eq_false_iff_not]
  exact ⟨fun ⟨t, ht, hn⟩ => ⟨⟨t, ht, hn.1⟩, hn.2⟩, fun ⟨⟨t, ht, hn⟩, hc⟩ => ⟨t, ht, hn, hc⟩⟩

theorem box_of_not_composite (cycle : List String) {spec : TypeSpec} (h : spec.isComposite = false) :
    spec.box cycle = spec := by
  cases spec with
  | record | union => cases h
  | synonym | newtype => rfl

theorem isComposite_box (cycle : List String) (spec : TypeSpec) :
    (spec.box cycle).isComposite = spec.isComposite := by
  cases spec <;> rfl

/-- Boxing adds nothing to what a declaration contains by value. -/
theorem contained_box_subset (cycle : List String) (spec : TypeSpec) :
    (spec.box cycle).contained ⊆ spec.contained := by
  intro name hname
  cases hs : spec.isComposite with
  | false => rwa [box_of_not_composite cycle hs] at hname
  | true => exact ((mem_contained_box hs).mp hname).1

theorem exists_record_of_box {cycle : List String} {spec : TypeSpec} {bases : List Base}
    {fields : List Field} (h : spec.box cycle = .record bases fields) :
    ∃ bs fs, spec = .record bs fs ∧
      bases = bs.map (fun b => { b with type := b.type.box cycle }) ∧
      fields = fs.map fun f => { f with type := f.type.box cycle } := by
  cases spec with
  | record bs fs =>
    cases h
    exact ⟨bs, fs, rfl, rfl, rfl⟩
  | union | synonym | newtype => cases h

end TypeSpec
end Target
end ProtocolTypes
