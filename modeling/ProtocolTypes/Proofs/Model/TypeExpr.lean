import ProtocolTypes.Model.TypeExpr

/-!
# ProtocolTypes.Proofs.Model.TypeExpr

The parts of type expressions. `children` are the types that stand directly in a type, `Part` is
any depth, and `induct` is the induction that follows them.
-/

namespace ProtocolTypes
namespace TypeExpr

/-- The types that stand directly in a type, in order. -/
def children : TypeExpr → List TypeExpr
  | .array element => [element]
  | .map key value => [key, value]
  | .and items | .or items | .tuple items => items
  | .literal l => l.properties.map (·.type)
  | .base _ | .reference _ | .stringLiteral _ | .integerLiteral _ | .booleanLiteral _ => []

/-- A property of types that passes from the children of a type to the type holds of all types. -/
theorem induct {P : TypeExpr → Prop} (step : ∀ t, (∀ c ∈ t.children, P c) → P t) : ∀ t, P t := by
  have leaf : ∀ t : TypeExpr, t.children = [] → P t := by
    intro t ht
    apply step
    rw [ht]
    exact fun c hc => absurd hc List.not_mem_nil
  intro t
  refine @TypeExpr.rec P (fun p => P p.type) (fun l => ∀ p ∈ l.properties, P p.type)
    (fun ts => ∀ t ∈ ts, P t) (fun ps => ∀ p ∈ ps, P p.type)
    (fun _ => leaf _ rfl) (fun _ => leaf _ rfl) ?array ?map (fun items ih => step _ ih)
    (fun items ih => step _ ih) (fun items ih => step _ ih) ?literal (fun _ => leaf _ rfl)
    (fun _ => leaf _ rfl) (fun _ => leaf _ rfl) (fun _ _ _ _ h => h) (fun _ _ h => h)
    (fun _ h => absurd h List.not_mem_nil)
    (fun _ _ head tail => List.forall_mem_cons.mpr ⟨head, tail⟩)
    (fun _ h => absurd h List.not_mem_nil)
    (fun _ _ head tail => List.forall_mem_cons.mpr ⟨head, tail⟩) t
  case array =>
    intro element ih
    exact step _ (List.forall_mem_singleton.mpr ih)
  case map =>
    intro key value ihk ihv
    exact step _ (List.forall_mem_cons.mpr ⟨ihk, List.forall_mem_singleton.mpr ihv⟩)
  case literal =>
    intro l ih
    apply step
    intro c hc
    obtain ⟨p, hp, rfl⟩ := List.mem_map.mp hc
    exact ih p hp

/-- `u` is `t` or stands in `t`, at any depth. -/
inductive Part (u : TypeExpr) : TypeExpr → Prop where
  | self : Part u u
  | child {t c : TypeExpr} : c ∈ t.children → Part u c → Part u t

theorem part_iff {u t : TypeExpr} : Part u t ↔ u = t ∨ ∃ c ∈ t.children, Part u c := by
  constructor
  · intro h
    cases h with
    | self => exact .inl rfl
    | child hc hu => exact .inr ⟨_, hc, hu⟩
  · rintro (rfl | ⟨c, hc, hu⟩)
    · exact .self
    · exact .child hc hu

end TypeExpr
end ProtocolTypes
