import ProtocolTypes.Mapping.Registry
import ProtocolTypes.Proofs.Target.Shape
import ProtocolTypes.Proofs.Text.Numbering

/-!
# ProtocolTypes.Proofs.Mapping.Registry

What registering a declaration does. The search ends at the first candidate that serves the shape
(`nameFor_spec`); the declaration is shared or added behind the others (`register_cases`). A
registry stays well formed and every name keeps its meaning (`WellFormed.register`).
-/

namespace ProtocolTypes

open Target

namespace Registry

/-! ## The search for a name -/

theorem candidate_injective (name : String) : Function.Injective (candidate name) := by
  have hne : ∀ n, candidate name (n + 1) ≠ name := by
    intro n h
    have hlen := congrArg String.length h
    rw [candidate, String.length_append, Nat.toString_eq_repr] at hlen
    have := Nat.length_repr_pos (n := n + 2)
    omega
  intro m n h
  cases m with
  | zero =>
    cases n with
    | zero => rfl
    | succ n => exact absurd h.symm (hne n)
  | succ m =>
    cases n with
    | zero => exact absurd h (hne m)
    | succ n =>
      have hnum : m + 2 = n + 2 := Text.repr_injective ((String.append_right_inj name).mp h)
      omega

variable {r : Registry}

theorem serves_of_not_mem {spec : TypeSpec} {name : String}
    (h : name ∉ r.reserved ++ r.decls.map (·.ident)) : r.serves spec name = true := by
  rw [List.mem_append, not_or] at h
  have hnone : r.find? name = none := by
    rw [find?, List.find?_eq_none]
    intro d hd hname
    exact h.2 (List.mem_map.mpr ⟨d, hd, by simpa using hname⟩)
  simp [serves, hnone, h.1]

/-- With enough fuel for one candidate to serve, the search finds the first that does. -/
theorem firstServing_spec {spec : TypeSpec} {name : String} (fuel n : Nat)
    (h : ∃ k, n ≤ k ∧ k ≤ n + fuel ∧ r.serves spec (candidate name k) = true) :
    ∃ k, n ≤ k ∧ r.firstServing spec name fuel n = candidate name k ∧
      r.serves spec (candidate name k) = true ∧
      ∀ j, n ≤ j → j < k → r.serves spec (candidate name j) = false := by
  induction fuel generalizing n with
  | zero =>
    obtain ⟨k, hnk, hkn, hs⟩ := h
    obtain rfl : k = n := by omega
    exact ⟨k, hnk, rfl, hs, fun j hj hjk => absurd hjk (by omega)⟩
  | succ fuel ih =>
    rw [firstServing]
    by_cases hn : r.serves spec (candidate name n) = true
    · rw [if_pos hn]
      exact ⟨n, Nat.le_refl n, rfl, hn, fun j hj hjn => absurd hjn (by omega)⟩
    · rw [if_neg hn]
      obtain ⟨k, hnk, hkn, hs⟩ := h
      have hne : k ≠ n := by rintro rfl; exact hn hs
      obtain ⟨k, hk, heq, hserves, hbefore⟩ := ih (n + 1) ⟨k, by omega, by omega, hs⟩
      refine ⟨k, by omega, heq, hserves, fun j hj hjk => ?_⟩
      by_cases hjn : j = n
      · subst hjn; simpa using hn
      · exact hbefore j (by omega) hjk

/-- A declaration gets the first candidate that serves its shape. -/
theorem nameFor_spec (r : Registry) (d : TypeDecl) :
    ∃ k, r.nameFor d = candidate d.ident k ∧ r.serves d.spec (candidate d.ident k) = true ∧
      ∀ j < k, r.serves d.spec (candidate d.ident j) = false := by
  obtain ⟨k, hk, hfree⟩ := Text.exists_not_mem_of_injective (candidate_injective d.ident)
    (r.reserved ++ r.decls.map (·.ident))
  rw [List.length_append, List.length_map] at hk
  obtain ⟨k, _, heq, hserves, hbefore⟩ := firstServing_spec
    (r.reserved.length + r.decls.length) 0 ⟨k, Nat.zero_le k, by omega, serves_of_not_mem hfree⟩
  exact ⟨k, heq, hserves, fun j hj => hbefore j (Nat.zero_le j) hj⟩

theorem serves_iff {spec : TypeSpec} {name : String} :
    r.serves spec name = true ↔
      name ∉ r.reserved ∧ ∀ d, r.find? name = some d → d.spec = spec := by
  rw [serves, Bool.and_eq_true]
  cases r.find? name <;> simp

/-- The registry with a declaration behind the others. -/
def add (r : Registry) (d : TypeDecl) : Registry :=
  { r with decls := r.decls ++ [d] }

theorem mem_add {d e : TypeDecl} : e ∈ (r.add d).decls ↔ e ∈ r.decls ∨ e = d := by
  simp [add]

/-- A declaration of the same shape is shared, else the new one is added. -/
theorem register_cases (r : Registry) (d : TypeDecl) :
    r.nameFor d ∉ r.reserved ∧
      ((∃ e, r.find? (r.nameFor d) = some e ∧ e.spec = d.spec ∧
          r.register d = (r.nameFor d, r)) ∨
        (r.find? (r.nameFor d) = none ∧
          r.register d = (r.nameFor d, r.add { d with ident := r.nameFor d }))) := by
  obtain ⟨k, hname, hserves, _⟩ := r.nameFor_spec d
  rw [← hname, serves_iff] at hserves
  refine ⟨hserves.1, ?_⟩
  rw [register]
  cases hfind : r.find? (r.nameFor d) with
  | some e => exact .inl ⟨e, rfl, hserves.2 e hfind, rfl⟩
  | none => exact .inr ⟨rfl, rfl⟩

theorem register_of_find? {d e : TypeDecl} (h : r.find? (r.nameFor d) = some e) :
    r.register d = (r.nameFor d, r) := by
  rw [register]
  simp only [h]

/-! ## Growing registries -/

/-- `r'` holds the declarations of `r` and perhaps more behind them. -/
structure Extends (r r' : Registry) : Prop where
  reserved : r'.reserved = r.reserved
  decls : r.decls <+: r'.decls

namespace Extends

theorem refl (r : Registry) : r.Extends r :=
  ⟨rfl, List.prefix_rfl⟩

theorem trans {r₁ r₂ r₃ : Registry} (h₁ : r₁.Extends r₂) (h₂ : r₂.Extends r₃) : r₁.Extends r₃ :=
  ⟨h₂.reserved.trans h₁.reserved, h₁.decls.trans h₂.decls⟩

theorem add (r : Registry) (d : TypeDecl) : r.Extends (r.add d) :=
  ⟨rfl, List.prefix_append _ _⟩

theorem find? {r r' : Registry} (h : r.Extends r') {name : String} {d : TypeDecl}
    (hd : r.find? name = some d) : r'.find? name = some d := by
  obtain ⟨more, hmore⟩ := h.decls
  rw [Registry.find?, ← hmore, List.find?_append]
  rw [Registry.find?] at hd
  rw [hd, Option.some_or]

end Extends

/-- What the names of a registry stand for. -/
def meaning (r : Registry) : Meaning :=
  meaningIn r.reserved r.decls r.decls.length

theorem meaning_of_reserved {name : String} (h : name ∈ r.reserved) :
    r.meaning name = some (.symbol name) :=
  meaningIn_of_mem h

theorem Extends.meaningIn {r r' : Registry} (h : r.Extends r') {depth depth' : Nat}
    (hle : depth ≤ depth') :
    (meaningIn r.reserved r.decls depth).Extends (meaningIn r'.reserved r'.decls depth') := by
  rw [h.reserved]
  exact meaningIn_extends (fun _ d hd => ⟨d, h.find? hd, fun _ => rfl⟩) hle

theorem Extends.meaning {r r' : Registry} (h : r.Extends r') : r.meaning.Extends r'.meaning :=
  h.meaningIn h.decls.length_le

/-! ## Sound registries -/

/-- Names are distinct and none is reserved. -/
structure Sound (r : Registry) : Prop where
  distinct : (r.decls.map (·.ident)).Nodup
  fresh : ∀ d ∈ r.decls, d.ident ∉ r.reserved

theorem Sound.empty (names : List String) : (empty names).Sound where
  distinct := List.nodup_nil
  fresh _ hd := absurd hd List.not_mem_nil

theorem Sound.add (h : r.Sound) {d : TypeDecl} (hres : d.ident ∉ r.reserved)
    (hnew : r.find? d.ident = none) : (r.add d).Sound := by
  refine ⟨?distinct, ?fresh⟩
  case distinct =>
    rw [Registry.add, List.map_append, List.nodup_append]
    refine ⟨h.distinct, List.nodup_singleton _, ?_⟩
    rintro name hname _ hlast rfl
    obtain ⟨e, he, hident⟩ := List.mem_map.mp hname
    rw [List.mem_singleton.mp hlast] at hident
    rw [Registry.find?, List.find?_eq_none] at hnew
    exact hnew e he (by simpa using hident)
  case fresh =>
    intro e he
    rcases mem_add.mp he with he | rfl
    · exact h.fresh e he
    · exact hres

theorem find?_add {d : TypeDecl} (hnew : r.find? d.ident = none) :
    (r.add d).find? d.ident = some d := by
  rw [find?, add, List.find?_append, ← find?, hnew, Option.none_or]
  simp

/-! ## Well-formed registries -/

/-- Names are distinct and none is reserved; the declarations are records and unions, and all names
that they mention have a meaning. -/
structure WellFormed (r : Registry) : Prop where
  distinct : (r.decls.map (·.ident)).Nodup
  fresh : ∀ d ∈ r.decls, d.ident ∉ r.reserved
  composite : ∀ d ∈ r.decls, d.spec.isComposite
  closed : ∀ d ∈ r.decls, ∃ s, r.meaning d.ident = some s

theorem WellFormed.empty (names : List String) : (empty names).WellFormed where
  distinct := List.nodup_nil
  fresh _ hd := absurd hd List.not_mem_nil
  composite _ hd := absurd hd List.not_mem_nil
  closed _ hd := absurd hd List.not_mem_nil

namespace WellFormed

theorem sound (h : r.WellFormed) : r.Sound :=
  ⟨h.distinct, h.fresh⟩

theorem find?_eq (h : r.WellFormed) {d : TypeDecl} (hd : d ∈ r.decls) :
    r.find? d.ident = some d :=
  declared?_of_mem h.distinct hd

/-- The meaning of a registered name is the shape of its declaration. -/
theorem meaning_eq (h : r.WellFormed) {d : TypeDecl} (hd : d ∈ r.decls) {s : Shape}
    (hs : r.meaning d.ident = some s) : d.spec.shape r.meaning = some s := by
  obtain ⟨k, hk⟩ : ∃ k, r.decls.length = k + 1 :=
    ⟨r.decls.length - 1, by have := List.length_pos_of_mem hd; omega⟩
  rw [meaning, hk, meaningIn_succ (h.fresh d hd), declared?, ← Registry.find?, h.find?_eq hd] at hs
  exact TypeSpec.shape_mono (meaningIn_mono (by omega)) hs

theorem shape_of_mem (h : r.WellFormed) {d : TypeDecl} (hd : d ∈ r.decls) :
    ∃ s, d.spec.shape r.meaning = some s := by
  obtain ⟨s, hs⟩ := h.closed d hd
  exact ⟨s, h.meaning_eq hd hs⟩

theorem add_meaning {d : TypeDecl} (hres : d.ident ∉ r.reserved) (hnew : r.find? d.ident = none)
    {s : Shape} (hs : d.spec.shape r.meaning = some s) :
    (r.add d).meaning d.ident = some s := by
  have hfind : declared? (r.add d).decls d.ident = some d := find?_add hnew
  rw [meaning, add, List.length_append, List.length_singleton, meaningIn_succ hres, ← add, hfind]
  exact TypeSpec.shape_mono ((Extends.add r d).meaningIn (Nat.le_refl _)) hs

/-- A new record or union whose names have a meaning keeps the registry well formed. -/
theorem add (h : r.WellFormed) {d : TypeDecl} (hres : d.ident ∉ r.reserved)
    (hnew : r.find? d.ident = none) (hd : d.spec.isComposite) {s : Shape}
    (hs : d.spec.shape r.meaning = some s) : (r.add d).WellFormed := by
  have hsound := h.sound.add hres hnew
  refine ⟨hsound.distinct, hsound.fresh, ?composite, ?closed⟩
  case composite =>
    intro e he
    rcases mem_add.mp he with he | rfl
    · exact h.composite e he
    · exact hd
  case closed =>
    intro e he
    rcases mem_add.mp he with he | rfl
    · obtain ⟨u, hu⟩ := h.closed e he
      exact ⟨u, (Extends.add r d).meaning _ _ hu⟩
    · exact ⟨s, add_meaning hres hnew hs⟩

/-- Registering a declaration whose names have a meaning gives its name its shape. -/
theorem register (h : r.WellFormed) {d : TypeDecl} (hd : d.spec.isComposite) {s : Shape}
    (hs : d.spec.shape r.meaning = some s) :
    (r.register d).2.WellFormed ∧ r.Extends (r.register d).2 ∧
      (r.register d).2.meaning (r.register d).1 = some s := by
  obtain ⟨hres, ⟨e, hfind, hspec, heq⟩ | ⟨hnew, heq⟩⟩ := r.register_cases d
  · rw [heq]
    obtain ⟨he, hident⟩ := declared?_eq_some hfind
    obtain ⟨u, hu⟩ := h.closed e he
    have hshape := h.meaning_eq he hu
    rw [hspec, hs] at hshape
    rw [hident, ← hshape] at hu
    exact ⟨h, .refl r, hu⟩
  · rw [heq]
    exact ⟨h.add hres hnew hd hs, .add r _,
      add_meaning (d := { d with ident := r.nameFor d }) hres hnew hs⟩

end WellFormed
end Registry
end ProtocolTypes
