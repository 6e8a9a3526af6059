import ProtocolTypes.Mapping.Structure
import ProtocolTypes.Proofs.Mapping.Registration
import ProtocolTypes.Proofs.Mapping.Simulation

/-!
# ProtocolTypes.Proofs.Mapping.Keeping

What mappings register. `Keeps D x Q` says of a mapping `x`: from a registry whose declarations all
satisfy `D` it leaves such a registry, with or without success, and where it succeeds its value
satisfies `Q`. The rules follow the way mappings are put together.
-/

namespace ProtocolTypes

open Target

def Keeps {α : Type} (D : TypeDecl → Prop) (x : Mapping α) (Q : α → Prop) : Prop :=
  ∀ r, (∀ d ∈ r.decls, D d) →
    (∀ d ∈ (x.run r).2.decls, D d) ∧ ∀ a, (x.run r).1 = .ok a → Q a

namespace Keeps

variable {α β : Type} {D : TypeDecl → Prop} {P Q : α → Prop} {R : β → Prop}

protected theorem pure {a : α} (h : Q a) : Keeps D (pure a) Q := by
  intro r hr
  refine ⟨hr, fun b hb => ?_⟩
  cases hb
  exact h

theorem mono {x : Mapping α} (hx : Keeps D x P) (h : ∀ a, P a → Q a) : Keeps D x Q := by
  intro r hr
  obtain ⟨hr', hP⟩ := hx r hr
  exact ⟨hr', fun a ha => h a (hP a ha)⟩

theorem ofExcept {y : Except MappingError α} (h : ∀ a, y = .ok a → Q a) :
    Keeps D (liftM y) Q := by
  intro r hr
  rw [Mapping.run_ofExcept]
  exact ⟨hr, h⟩

theorem ofResolution {y : Except ReferenceError α} (h : ∀ a, y = .ok a → Q a) :
    Keeps D (Mapping.ofResolution y) Q := by
  cases y with
  | ok a => exact .pure (h a rfl)
  | error e =>
    intro r hr
    refine ⟨hr, fun a ha => ?_⟩
    cases ha

protected theorem bind {x : Mapping α} {f : α → Mapping β} (hx : Keeps D x P)
    (hf : ∀ a, P a → Keeps D (f a) R) : Keeps D (x >>= f) R := by
  intro r hr
  obtain ⟨hr', hP⟩ := hx r hr
  rw [Mapping.run_bind]
  rcases hrun : x.run r with ⟨e | a, r'⟩ <;> rw [hrun] at hr' hP
  · refine ⟨hr', fun b hb => ?_⟩
    cases hb
  · exact hf a (hP a rfl) r' hr'

protected theorem map {x : Mapping α} {f : α → β} (hx : Keeps D x P) (h : ∀ a, P a → R (f a)) :
    Keeps D (f <$> x) R := by
  rw [map_eq_pure_bind]
  exact hx.bind fun a ha => .pure (h a ha)

/-- Items that are mapped one after another are related to their results one by one. -/
protected theorem mapM {ι : Type} {xs : List ι} {f : ι → Mapping α} {S : ι → α → Prop}
    (h : ∀ x ∈ xs, Keeps D (f x) (S x)) : Keeps D (xs.mapM f) (List.Forall₂ S xs) := by
  induction xs with
  | nil => exact .pure .nil
  | cons x xs ih =>
    rw [List.mapM_cons]
    refine (h x List.mem_cons_self).bind fun a ha => ?_
    refine (ih fun z hz => h z (List.mem_cons_of_mem _ hz)).bind fun as has => ?_
    exact .pure (.cons ha has)

/-- A declaration is shared or added under a candidate for its name. -/
theorem synthesize {name : String} {spec : TypeSpec} {Q : TargetType → Prop}
    (hD : ∀ k, D ⟨Registry.candidate name k, {}, spec⟩)
    (hQ : ∀ k, Q (.symbol (Registry.candidate name k))) :
    Keeps D (Mapping.synthesize name spec) Q := by
  intro r hr
  obtain ⟨k, hk, -, -⟩ := r.nameFor_spec ⟨name, {}, spec⟩
  have hident : (r.register ⟨name, {}, spec⟩).1 = Registry.candidate name k :=
    (r.register_fst _).trans hk
  rw [Mapping.run_synthesize]
  refine ⟨?_, ?_⟩
  · rcases r.register_grows ⟨name, {}, spec⟩ with heq | heq <;> rw [heq]
    · exact hr
    · intro d hd
      rcases Registry.mem_add.mp hd with hd | rfl
      · exact hr d hd
      · rw [hident]
        exact hD k
  · intro a ha
    cases ha
    rw [hident]
    exact hQ k

end Keeps
end ProtocolTypes
