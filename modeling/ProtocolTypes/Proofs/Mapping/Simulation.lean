import ProtocolTypes.Mapping.TypeExpr
import ProtocolTypes.Proofs.Mapping.Registry

/-!
# ProtocolTypes.Proofs.Mapping.Simulation

Mappings compared with plain computations. `Simulates m r x y R` says that `x`, run from the
registry `r`, ends as `y` does: with the same error, or with values that `R` relates in the registry
it leaves behind. Either way that registry extends `r` and is well formed. The rules follow the way
mappings are put together (`pure`, `bind`, `map`, `mapM`, `synthesize`).
-/

namespace ProtocolTypes

open Target

/-! ## Running mappings -/

namespace Mapping

variable {α β γ δ : Type}

theorem run_ofExcept (y : Except MappingError α) (r : Registry) :
    run (liftM y : Mapping α) r = (y, r) := rfl

theorem run_synthesize (name : String) (spec : TypeSpec) (r : Registry) :
    (synthesize name spec).run r =
      (.ok (.symbol (r.register ⟨name, {}, spec⟩).1), (r.register ⟨name, {}, spec⟩).2) := rfl

theorem run_bind (x : Mapping α) (f : α → Mapping β) (r : Registry) :
    run (x >>= f) r =
      match x.run r with
      | (.ok a, r') => (f a).run r'
      | (.error e, r') => (.error e, r') := by
  have h : run (x >>= f) r = (ExceptT.bindCont f (x.run r).1 : StateM Registry _) (x.run r).2 := rfl
  rw [h]
  rcases x.run r with ⟨_ | _, _⟩ <;> rfl

theorem run_bind_eq_ok {x : Mapping α} {f : α → Mapping β} {r r' : Registry} {b : β} :
    run (x >>= f) r = (.ok b, r') ↔
      ∃ a r₁, x.run r = (.ok a, r₁) ∧ (f a).run r₁ = (.ok b, r') := by
  rw [run_bind]
  rcases x.run r with ⟨e | a, r₁⟩ <;> simp

theorem run_map_eq_ok {x : Mapping α} {f : α → β} {r r' : Registry} {b : β} :
    run (f <$> x) r = (.ok b, r') ↔ ∃ a, x.run r = (.ok a, r') ∧ f a = b := by
  rw [map_eq_pure_bind, run_bind_eq_ok]
  constructor
  · rintro ⟨a, r₁, hx, hpure⟩
    cases hpure
    exact ⟨a, hx, rfl⟩
  · rintro ⟨a, hx, rfl⟩
    exact ⟨a, r', hx, rfl⟩

theorem length_of_run_mapM {ι : Type} {f : ι → Mapping α} {xs : List ι} {r r' : Registry}
    {as : List α} (h : run (xs.mapM f) r = (.ok as, r')) : as.length = xs.length := by
  induction xs generalizing r as with
  | nil =>
    cases h
    rfl
  | cons x xs ih =>
    rw [List.mapM_cons] at h
    obtain ⟨a, r₁, _, h⟩ := run_bind_eq_ok.mp h
    obtain ⟨bs, r₂, hbs, h⟩ := run_bind_eq_ok.mp h
    cases h
    rw [List.length_cons, List.length_cons, ih hbs]

end Mapping

/-! ## Simulation -/

/-- The registry is well formed and keeps the names of the model free. -/
structure Registry.Fits (r : Registry) (m : MetaModel) : Prop where
  wellFormed : r.WellFormed
  reserved : r.reserved = m.names

theorem Registry.Fits.empty (m : MetaModel) : (Registry.empty m.names).Fits m :=
  ⟨.empty _, rfl⟩

/-- Results agree: the same error, or related values. -/
def Agree {α β : Type} (R : α → β → Prop) : Except MappingError α → Except MappingError β → Prop
  | .ok a, .ok b => R a b
  | .error e, .error e' => e = e'
  | _, _ => False

theorem Agree.exists_of_ok {α β : Type} {R : α → β → Prop} {a : α} {y : Except MappingError β}
    (h : Agree R (.ok a) y) : ∃ b, y = .ok b ∧ R a b := by
  cases y with
  | error e => cases h
  | ok b => exact ⟨b, rfl, h⟩

theorem Agree.exists_of_ok_right {α β : Type} {R : α → β → Prop} {x : Except MappingError α}
    {b : β} (h : Agree R x (.ok b)) : ∃ a, x = .ok a ∧ R a b := by
  cases x with
  | error e => cases h
  | ok a => exact ⟨a, rfl, h⟩

theorem Agree.eq_error {α β : Type} {R : α → β → Prop} {e : MappingError}
    {y : Except MappingError β} (h : Agree R (.error e) y) : y = .error e := by
  cases y with
  | ok b => cases h
  | error e' => rw [show e = e' from h]

structure Simulates {α β : Type} (m : MetaModel) (r : Registry) (x : Mapping α)
    (y : Except MappingError β) (R : Registry → α → β → Prop) : Prop where
  fits : (x.run r).2.Fits m
  grows : r.Extends (x.run r).2
  agree : Agree (R (x.run r).2) (x.run r).1 y

namespace Simulates

variable {α β γ δ : Type} {m : MetaModel} {r : Registry}
  {R : Registry → α → β → Prop} {Q : Registry → γ → δ → Prop}

protected theorem pure {a : α} {b : β} (hr : r.Fits m) (h : R r a b) :
    Simulates m r (pure a) (pure b) R :=
  ⟨hr, .refl r, h⟩

theorem ofExcept (hr : r.Fits m) {x : Except MappingError α} {y : Except MappingError β}
    (h : Agree (R r) x y) : Simulates m r (liftM x) y R :=
  ⟨hr, .refl r, h⟩

protected theorem bind {x : Mapping α} {y : Except MappingError β} {f : α → Mapping γ}
    {g : β → Except MappingError δ} (hx : Simulates m r x y R)
    (hf : ∀ r' a b, r'.Fits m → r.Extends r' → R r' a b → Simulates m r' (f a) (g b) Q) :
    Simulates m r (x >>= f) (y >>= g) Q := by
  obtain ⟨hfits, hext, hagree⟩ := hx
  rcases hrun : x.run r with ⟨e | a, r'⟩ <;> rw [hrun] at hfits hext hagree
  · -- the first part fails, and the second is not run
    cases y with
    | ok b => exact absurd hagree id
    | error e' =>
      obtain rfl : e = e' := hagree
      exact ⟨by rwa [Mapping.run_bind, hrun], by rwa [Mapping.run_bind, hrun],
        by rw [Mapping.run_bind, hrun]; rfl⟩
  · cases y with
    | error e' => exact absurd hagree id
    | ok b =>
      obtain ⟨hfits', hext', hagree'⟩ := hf r' a b hfits hext hagree
      exact ⟨by rwa [Mapping.run_bind, hrun],
        by rw [Mapping.run_bind, hrun]; exact hext.trans hext',
        by rw [Mapping.run_bind, hrun]; exact hagree'⟩

protected theorem map {x : Mapping α} {y : Except MappingError β} {f : α → γ} {g : β → δ}
    (hx : Simulates m r x y R) (h : ∀ r' a b, R r' a b → Q r' (f a) (g b)) :
    Simulates m r (f <$> x) (g <$> y) Q := by
  rw [map_eq_pure_bind, map_eq_pure_bind]
  exact hx.bind fun r' a b hr' _ hab => .pure hr' (h r' a b hab)

/-- Lists are mapped item by item, when what is related stays so in greater registries. -/
protected theorem mapM {ι : Type} {xs : List ι} {f : ι → Mapping α} {g : ι → Except MappingError β}
    (hr : r.Fits m)
    (hR : ∀ r r' a b, Registry.Extends r r' → R r a b → R r' a b)
    (h : ∀ x ∈ xs, ∀ r', r'.Fits m → Simulates m r' (f x) (g x) R) :
    Simulates m r (xs.mapM f) (xs.mapM g) fun r' => List.Forall₂ (R r') := by
  induction xs generalizing r with
  | nil => exact .pure hr .nil
  | cons x xs ih =>
    rw [List.mapM_cons, List.mapM_cons]
    refine (h x List.mem_cons_self r hr).bind fun r₁ a b hr₁ _ hab => ?_
    refine (ih hr₁ fun z hz => h z (List.mem_cons_of_mem _ hz)).bind
      fun r₂ as bs hr₂ hext habs => ?_
    exact .pure hr₂ (.cons (hR _ _ _ _ hext hab) habs)

end Simulates

/-! ## Types and their shapes -/

/-- In the registry the type stands for the shape, and both are optional or neither is. -/
structure Denotes (r : Registry) (t : TargetType) (s : Shape) : Prop where
  shape : t.shape r.meaning = some s
  isOption : t.isOption = s.isOption

namespace Denotes

variable {r r' : Registry} {t : TargetType} {s : Shape}

theorem mono (h : r.Extends r') (hts : Denotes r t s) : Denotes r' t s :=
  ⟨TargetType.shape_mono h.meaning hts.shape, hts.isOption⟩

theorem optionalIf (wanted : Bool) (h : Denotes r t s) :
    Denotes r (t.optionalIf wanted) (s.optionalIf wanted) := by
  obtain ⟨hshape, hoption⟩ := h
  cases wanted with
  | false => exact ⟨hshape, hoption⟩
  | true =>
    simp only [TargetType.optionalIf, Shape.optionalIf, TargetType.optional, Shape.optional,
      if_true, hoption]
    split
    · exact ⟨hshape, hoption⟩
    · exact ⟨by rw [TargetType.shape, hshape, Option.map_some], rfl⟩

theorem mapM_shape {ts : List TargetType} {ss : List Shape} (h : List.Forall₂ (Denotes r) ts ss) :
    ts.mapM (TargetType.shape r.meaning) = some ss :=
  mapM_eq_some_iff.mpr (h.imp fun _ _ hts => hts.shape)

end Denotes

theorem Simulates.synthesize {m : MetaModel} {r : Registry} (hr : r.Fits m) (name : String)
    {spec : TypeSpec} (hspec : spec.isComposite) {s : Shape} (hs : spec.shape r.meaning = some s) :
    Simulates m r (Mapping.synthesize name spec) (pure s) Denotes := by
  obtain ⟨hwf, hext, hmeaning⟩ := hr.wellFormed.register (d := ⟨name, {}, spec⟩) hspec hs
  refine ⟨⟨hwf, hext.reserved.trans hr.reserved⟩, hext, hmeaning, ?_⟩
  rw [Shape.isOption_of_composite (TypeSpec.isComposite_shape hspec hs)]
  rfl

end ProtocolTypes
