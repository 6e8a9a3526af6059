import ProtocolTypes.Proofs.Target.Shape

/-!
# ProtocolTypes.Proofs.Target.Optional

Optional types. A type is `Undoubled` when no optional type in it, at any depth, is optional twice.
Making a type optional keeps this (`Undoubled.optionalIf`), and so does moving parts of it to the
heap (`Undoubled.box`), which leaves optional types optional (`isOption_box`). Types are optional
as their shapes are (`isOption_of_shape`).
-/

namespace ProtocolTypes
namespace Target

namespace TargetType

/-- The types that stand directly in a type, in order. -/
def children : TargetType → List TargetType
  | .list element => [element]
  | .map key value => [key, value]
  | .tuple items => items
  | .option inner | .boxed inner => [inner]
  | .primitive _ | .symbol _ | .constrained _ _ => []

/-- `u` is `t` or stands in `t`, at any depth. -/
inductive Part (u : TargetType) : TargetType → Prop where
  | self : Part u u
  | child {t c : TargetType} : c ∈ t.children → Part u c → Part u t

theorem part_iff {u t : TargetType} : Part u t ↔ u = t ∨ ∃ c ∈ t.children, Part u c := by
  constructor
  · intro h
    cases h with
    | self => exact .inl rfl
    | child hc hu => exact .inr ⟨_, hc, hu⟩
  · rintro (rfl | ⟨c, hc, hu⟩)
    · exact .self
    · exact .child hc hu

/-- No part is an optional type of an optional type. -/
def Undoubled (t : TargetType) : Prop :=
  ∀ u, ¬ Part (.option (.option u)) t

theorem undoubled_iff {t : TargetType} :
    t.Undoubled ↔ (∀ u, t ≠ .option (.option u)) ∧ ∀ c ∈ t.children, c.Undoubled := by
  constructor
  · intro h
    refine ⟨fun u hu => h u (hu ▸ .self), fun c hc u hu => h u (.child hc hu)⟩
  · rintro ⟨hself, hchildren⟩ u hu
    cases hu with
    | self => exact hself u rfl
    | child hc hpart => exact hchildren _ hc u hpart

theorem undoubled_of_not_option {t : TargetType} (h : t.isOption = false)
    (hchildren : ∀ c ∈ t.children, c.Undoubled) : t.Undoubled := by
  refine undoubled_iff.mpr ⟨fun u hu => ?_, hchildren⟩
  rw [hu] at h
  cases h

theorem undoubled_option_iff {t : TargetType} :
    (option t).Undoubled ↔ t.isOption = false ∧ t.Undoubled := by
  rw [undoubled_iff]
  simp only [children, List.mem_singleton, forall_eq, ne_eq, option.injEq]
  refine and_congr_left fun _ => ?_
  cases t <;> simp [isOption]

@[simp] theorem isOption_optionalIf (wanted : Bool) (t : TargetType) :
    (t.optionalIf wanted).isOption = (wanted || t.isOption) := by
  cases wanted with
  | false => rfl
  | true =>
    rw [optionalIf, if_pos rfl, optional]
    cases h : t.isOption with
    | true => exact h
    | false => rfl

theorem Undoubled.optionalIf {t : TargetType} (h : t.Undoubled) (wanted : Bool) :
    (t.optionalIf wanted).Undoubled := by
  cases wanted with
  | false => exact h
  | true =>
    rw [TargetType.optionalIf, if_pos rfl, optional]
    split
    · exact h
    · rename_i hoption
      exact undoubled_option_iff.mpr ⟨by simpa using hoption, h⟩

theorem symbol?_of_optionalIf {t : TargetType} {wanted : Bool} {name : String}
    (h : (t.optionalIf wanted).symbol? = some name) : t.symbol? = some name := by
  cases wanted with
  | false => exact h
  | true =>
    rw [TargetType.optionalIf, if_pos rfl, optional] at h
    split at h
    · exact h
    · cases h

/-! ## Boxing -/

def isBoxed : TargetType → Bool
  | .boxed _ => true
  | _ => false

theorem isBoxed_optionalIf {t : TargetType} (h : t.isBoxed = false) (wanted : Bool) :
    (t.optionalIf wanted).isBoxed = false := by
  cases wanted with
  | false => exact h
  | true =>
    rw [TargetType.optionalIf, if_pos rfl, optional]
    split
    · exact h
    · rfl

@[simp] theorem isOption_box (cycle : List String) (t : TargetType) :
    (t.box cycle).isOption = t.isOption := by
  cases t with
  | symbol name =>
    rw [box]
    split <;> rfl
  | _ => rfl

theorem Undoubled.box {t : TargetType} (h : t.Undoubled) (cycle : List String) :
    (t.box cycle).Undoubled := by
  induction t with
  | symbol name =>
    rw [TargetType.box]
    split
    · exact undoubled_of_not_option rfl (List.forall_mem_singleton.mpr h)
    · exact h
  | option t ih =>
    obtain ⟨hoption, ht⟩ := undoubled_option_iff.mp h
    exact undoubled_option_iff.mpr ⟨(isOption_box cycle t).trans hoption, ih ht⟩
  | tuple ts ih =>
    refine undoubled_of_not_option rfl fun c hc => ?_
    rw [TargetType.box, children, boxAll_eq] at hc
    obtain ⟨t, ht, rfl⟩ := List.mem_map.mp hc
    exact ih t ht ((undoubled_iff.mp h).2 t ht)
  | primitive | list | map | boxed | constrained => exact h

/-- Where no name stands for an optional shape, a type in place is optional as its shape is. -/
theorem isOption_of_shape {μ : Meaning} (hμ : ∀ name s, μ name = some s → s.isOption = false)
    {t : TargetType} (ht : t.isBoxed = false) {s : Shape} (hs : t.shape μ = some s) :
    t.isOption = s.isOption := by
  cases t with
  | primitive | constrained =>
    cases hs
    rfl
  | symbol name => exact (hμ name s hs).symm
  | list t | tuple ts | option t =>
    obtain ⟨_, -, rfl⟩ := Option.map_eq_some_iff.mp hs
    rfl
  | map k v =>
    simp only [shape, Option.pure_def, Option.bind_eq_bind, Option.bind_eq_some_iff] at hs
    obtain ⟨_, -, _, -, hs⟩ := hs
    cases hs
    rfl
  | boxed t => cases ht

end TargetType

@[simp] theorem Shape.isOption_optionalIf (wanted : Bool) (s : Shape) :
    (s.optionalIf wanted).isOption = (wanted || s.isOption) := by
  cases wanted with
  | false => rfl
  | true =>
    rw [optionalIf, if_pos rfl, optional]
    cases h : s.isOption with
    | true => exact h
    | false => rfl

/-- The types in a declaration with parts on the heap are types of the declaration, each with
parts on the heap or as it was. -/
theorem TypeSpec.exists_of_mem_types_box {cycle : List String} {spec : TypeSpec} {t : TargetType}
    (ht : t ∈ (spec.box cycle).types) : ∃ u ∈ spec.types, t = u.box cycle ∨ t = u := by
  cases hs : spec.isComposite with
  | true =>
    rw [types_box cycle hs] at ht
    obtain ⟨u, hu, rfl⟩ := List.mem_map.mp ht
    exact ⟨u, hu, .inl rfl⟩
  | false =>
    rw [box_of_not_composite cycle hs] at ht
    exact ⟨t, ht, .inr rfl⟩

end Target
end ProtocolTypes
