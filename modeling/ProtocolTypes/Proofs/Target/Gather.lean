import Mathlib.Data.Set.Insert
import ProtocolTypes.Proofs.Target.Containment
import ProtocolTypes.Proofs.Target.Members
import ProtocolTypes.Proofs.Target.Optional

/-!
# ProtocolTypes.Proofs.Target.Gather

What stands in types and declarations at any depth, as sets. Types without parts stand for names and
for limits (`Leaf`), and either are gathered alike. Telling members apart, making types optional and
moving parts to the heap change nothing about what is gathered (`gather_distinct`,
`gather_optionalIf`, `gather_box`).
-/

namespace ProtocolTypes
namespace Target

/-- A name, or a primitive limited to values. -/
def TargetType.isLeaf : TargetType → Bool
  | .symbol _ | .constrained _ _ => true
  | _ => false

/-- Things that types stand for by themselves. -/
structure Leaf (α : Type) where
  type : α → TargetType
  isLeaf : ∀ a, (type a).isLeaf = true

variable {α : Type} (l : Leaf α)

/-! ## Types -/

namespace TargetType

/-- The leaves in a type, at any depth. -/
def gather (t : TargetType) : Set α :=
  {a | Part (l.type a) t}

end TargetType

/-- The leaves in types in a row. -/
def gatherIn (ts : List TargetType) : Set α :=
  {a | ∃ t ∈ ts, a ∈ t.gather l}

@[simp] theorem gatherIn_nil : gatherIn l [] = ∅ := by
  simp [gatherIn]

@[simp] theorem gatherIn_cons (t : TargetType) (ts : List TargetType) :
    gatherIn l (t :: ts) = t.gather l ∪ gatherIn l ts := by
  ext a
  simp [gatherIn]

theorem gatherIn_append (ts us : List TargetType) :
    gatherIn l (ts ++ us) = gatherIn l ts ∪ gatherIn l us := by
  ext a
  simp [gatherIn, or_and_right, exists_or]

theorem gatherIn_map {β : Type} {xs : List β} {f g : β → TargetType}
    (h : ∀ x ∈ xs, (f x).gather l = (g x).gather l) :
    gatherIn l (xs.map f) = gatherIn l (xs.map g) := by
  ext a
  simp only [gatherIn, List.mem_map, Set.mem_ofPred_eq, exists_exists_and_eq_and]
  exact exists_congr fun x => and_congr_right fun hx => by rw [h x hx]

namespace TargetType

theorem gather_of_isLeaf {t : TargetType} (h : t.isLeaf = true) :
    t.gather l = {a | l.type a = t} := by
  have hchildren : t.children = [] := by
    cases t with
    | symbol | constrained => rfl
    | _ => cases h
  ext a
  rw [gather, Set.mem_ofPred_eq, part_iff, hchildren]
  simp

/-- Any other type has the leaves that stand in its parts. -/
theorem gather_eq {t : TargetType} (h : t.isLeaf = false) : t.gather l = gatherIn l t.children := by
  ext a
  have hne : l.type a ≠ t := by
    rintro rfl
    rw [l.isLeaf] at h
    cases h
  rw [gather, Set.mem_ofPred_eq, part_iff, or_iff_right hne]
  rfl

@[simp] theorem gather_primitive (p : Primitive) : (primitive p).gather l = ∅ := by
  rw [gather_eq l rfl, children, gatherIn_nil]

@[simp] theorem gather_list (t : TargetType) : (list t).gather l = t.gather l := by
  rw [gather_eq l rfl, children, gatherIn_cons, gatherIn_nil, Set.union_empty]

@[simp] theorem gather_option (t : TargetType) : (option t).gather l = t.gather l := by
  rw [gather_eq l rfl, children, gatherIn_cons, gatherIn_nil, Set.union_empty]

@[simp] theorem gather_boxed (t : TargetType) : (boxed t).gather l = t.gather l := by
  rw [gather_eq l rfl, children, gatherIn_cons, gatherIn_nil, Set.union_empty]

@[simp] theorem gather_map (k v : TargetType) : (map k v).gather l = k.gather l ∪ v.gather l := by
  rw [gather_eq l rfl, children, gatherIn_cons, gatherIn_cons, gatherIn_nil, Set.union_empty]

@[simp] theorem gather_tuple (ts : List TargetType) : (tuple ts).gather l = gatherIn l ts :=
  gather_eq l rfl

@[simp] theorem gather_optionalIf (wanted : Bool) (t : TargetType) :
    (t.optionalIf wanted).gather l = t.gather l := by
  cases wanted with
  | false => rfl
  | true =>
    rw [optionalIf, if_pos rfl, optional]
    split
    · rfl
    · exact gather_option l t

@[simp] theorem gather_box (cycle : List String) (t : TargetType) :
    (t.box cycle).gather l = t.gather l := by
  induction t with
  | symbol name =>
    rw [box]
    split
    · exact gather_boxed l _
    · rfl
  | option t ih => rw [box, gather_option, gather_option, ih]
  | tuple ts ih =>
    rw [box, boxAll_eq, gather_tuple, gather_tuple, gatherIn_map (g := id) l ih, List.map_id]
  | primitive | list | map | boxed | constrained => rfl

end TargetType

/-! ## Declarations -/

namespace TypeSpec

/-- The leaves in a declaration. -/
def gather (spec : TypeSpec) : Set α :=
  gatherIn l spec.types

theorem gather_distinct (m : Members) :
    (record m.distinct.bases m.distinct.fields).gather l =
      gatherIn l (m.bases.map (·.type)) ∪ gatherIn l (m.fields.map (·.type)) := by
  rw [gather, types, m.types_bases_distinct, m.types_fields_distinct, gatherIn_append]

theorem gather_box (cycle : List String) (spec : TypeSpec) :
    (spec.box cycle).gather l = spec.gather l := by
  by_cases h : spec.isComposite = true
  · rw [gather, types_box cycle h, gatherIn_map (g := id) l fun t _ => t.gather_box l cycle,
      List.map_id, gather]
  · rw [box_of_not_composite cycle (by simpa using h)]

end TypeSpec

/-- The leaves in declarations. -/
def gatherOf (ds : List TypeDecl) : Set α :=
  {a | ∃ d ∈ ds, a ∈ d.spec.gather l}

@[simp] theorem gatherOf_nil : gatherOf l [] = ∅ := by
  simp [gatherOf]

theorem gatherOf_append (ds es : List TypeDecl) :
    gatherOf l (ds ++ es) = gatherOf l ds ∪ gatherOf l es := by
  ext a
  simp [gatherOf, or_and_right, exists_or]

theorem gatherOf_singleton (d : TypeDecl) : gatherOf l [d] = d.spec.gather l := by
  simp [gatherOf]

theorem gatherOf_perm {ds es : List TypeDecl} (h : ds.Perm es) : gatherOf l ds = gatherOf l es := by
  ext a
  simp [gatherOf, h.mem_iff]

theorem gatherOf_boxed (ds : List Decl) :
    gatherOf l (typeDecls (boxed ds)) = gatherOf l (typeDecls ds) := by
  ext a
  simp [gatherOf, typeDecls_boxed, TypeDecl.box, TypeSpec.gather_box]

end Target
end ProtocolTypes
