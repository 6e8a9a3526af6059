import ProtocolTypes.Proofs.Target.Mention
import ProtocolTypes.Source.Render

/-!
# ProtocolTypes.Proofs.Source.Rendering

When declarations can be rendered. Rendering can fail in two ways only, at a name that is no
identifier and at a constant that is not finite; so a file is made exactly when every name that its
declarations write can be spelt and every constant of theirs is finite (`succeeds_file_iff`).
-/

namespace ProtocolTypes
namespace Target

/-! ## Written names -/

/-- The names of the members of a record or of the variants of a union. -/
def TypeSpec.memberNames : TypeSpec → List String
  | .record bases fields => bases.map (·.ident) ++ fields.map (·.ident)
  | .union variants => variants.map (·.ident)
  | .synonym _ | .newtype _ => []

theorem TypeSpec.memberNames_box (cycle : List String) (spec : TypeSpec) :
    (spec.box cycle).memberNames = spec.memberNames := by
  cases spec <;> simp [box, memberNames, Function.comp_def]

/-- The name is written in the declaration: its own name, one of a member, or one that a type in it
mentions. -/
def Decl.Writes : Decl → String → Prop
  | .type d, n => n = d.ident ∨ n ∈ d.spec.memberNames ∨ ∃ t ∈ d.spec.types, t.Mentions n
  | .constants b, n => n = b.owner ∨ ∃ c ∈ b.constants, n = c.ident

def ConstValue.IsFinite : ConstValue → Prop
  | .float x => x.isFinite = true
  | .int _ | .uint _ | .text _ => True

def Decl.HasFiniteConstants : Decl → Prop
  | .type _ => True
  | .constants b => ∀ c ∈ b.constants, c.value.IsFinite

end Target

namespace Source

open Target

/-! ## Steps that may fail -/

def Succeeds {α : Type} (x : Rendered α) : Prop :=
  ∃ a, x = .ok a

section Succeeds

variable {α β : Type}

@[simp] theorem succeeds_pure (a : α) : Succeeds (pure a : Rendered α) :=
  ⟨a, rfl⟩

theorem succeeds_map {f : α → β} {x : Rendered α} : Succeeds (f <$> x) ↔ Succeeds x := by
  simp [Succeeds]

/-- Where the second step fails or not whatever the first one returns. -/
theorem succeeds_bind {x : Rendered α} {f : α → Rendered β} {P : Prop}
    (h : ∀ a, Succeeds (f a) ↔ P) : Succeeds (x >>= f) ↔ Succeeds x ∧ P := by
  cases x with
  | error e => simp [Succeeds]
  | ok a =>
    have hok : Succeeds (.ok a : Rendered α) := ⟨a, rfl⟩
    rw [and_iff_right hok, ← h a]
    simp [Succeeds]

theorem succeeds_bind_pure {x : Rendered α} {f : α → β} :
    Succeeds (x >>= fun a => pure (f a)) ↔ Succeeds x := by
  rw [succeeds_bind (P := True) fun a => iff_true_intro (succeeds_pure (f a)), and_true]

theorem succeeds_mapM {f : α → Rendered β} {xs : List α} :
    Succeeds (xs.mapM f) ↔ ∀ x ∈ xs, Succeeds (f x) :=
  exists_mapM_eq_ok_iff

end Succeeds

/-! ## Types -/

theorem types_eq (ts : List TargetType) : types ts = ts.mapM type := by
  induction ts with
  | nil => rfl
  | cons t ts ih => rw [types, List.mapM_cons, ih]

theorem succeeds_type_iff {t : TargetType} :
    Succeeds (type t) ↔ ∀ n, t.Mentions n → Succeeds (ident n) := by
  induction t with
  | primitive p => simp [type, TargetType.not_mentions_primitive]
  | constrained p vs => simp [type, TargetType.not_mentions_constrained]
  | symbol name =>
    rw [type, succeeds_bind_pure]
    simp
  | list t ih =>
    rw [type, succeeds_bind_pure, ih]
    simp only [TargetType.mentions_list]
  | option t ih =>
    rw [type, succeeds_bind_pure, ih]
    simp only [TargetType.mentions_option]
  | boxed t ih =>
    rw [type, succeeds_bind_pure, ih]
    simp only [TargetType.mentions_boxed]
  | map k v ihk ihv =>
    rw [type, succeeds_bind fun _ => succeeds_bind_pure, ihk, ihv]
    simp only [TargetType.mentions_map, or_imp, forall_and]
  | tuple ts ih =>
    rw [type, succeeds_bind_pure, types_eq, succeeds_mapM]
    simp only [TargetType.mentions_tuple]
    constructor
    · rintro h n ⟨t, ht, hn⟩
      exact (ih t ht).mp (h t ht) n hn
    · intro h t ht
      exact (ih t ht).mpr fun n hn => h n ⟨t, ht, hn⟩

/-! ## Members -/

theorem succeeds_base_iff {b : Base} :
    Succeeds (base b) ↔ Succeeds (ident b.ident) ∧ Succeeds (type b.type) := by
  rw [base, succeeds_bind fun _ => succeeds_bind_pure]

theorem succeeds_field_iff {f : Field} :
    Succeeds (field f) ↔ Succeeds (ident f.ident) ∧ Succeeds (type f.type) := by
  rw [field, succeeds_bind fun _ => succeeds_bind_pure]

theorem succeeds_variant_iff {v : Variant} :
    Succeeds (variant v) ↔ Succeeds (ident v.ident) ∧ ∀ t, v.type = some t → Succeeds (type t) := by
  rw [variant]
  cases v.type with
  | none => simp [succeeds_map]
  | some t =>
    rw [succeeds_bind fun _ => succeeds_bind_pure]
    simp

/-! ## Items -/

theorem succeeds_literal_iff {name : String} {v : ConstValue} :
    Succeeds (literal name v) ↔ v.IsFinite := by
  cases v with
  | float x =>
    rw [literal, ConstValue.IsFinite]
    cases x.isFinite <;> simp [Succeeds]
  | int | uint | text => simp [literal, ConstValue.IsFinite]

theorem succeeds_constant_iff {owner : String} {c : ConstDecl} :
    Succeeds (constant owner c) ↔ Succeeds (ident c.ident) ∧ c.value.IsFinite := by
  rw [constant, succeeds_bind fun _ => succeeds_bind_pure, succeeds_literal_iff]

theorem succeeds_types_iff {spec : TypeSpec} :
    (∀ n, (∃ t ∈ spec.types, t.Mentions n) → Succeeds (ident n)) ↔
      ∀ t ∈ spec.types, Succeeds (type t) := by
  simp only [succeeds_type_iff]
  constructor
  · intro h t ht n hn
    exact h n ⟨t, ht, hn⟩
  · rintro h n ⟨t, ht, hn⟩
    exact h t ht n hn

theorem succeeds_typeItem_iff {d : TypeDecl} :
    Succeeds (typeItem d) ↔ ∀ n, (Decl.type d).Writes n → Succeeds (ident n) := by
  simp only [Decl.Writes, or_imp, forall_and, forall_eq, succeeds_types_iff]
  obtain ⟨name, docs, spec⟩ := d
  cases spec with
  | record bases fields =>
    simp only [typeItem]
    rw [succeeds_bind fun _ => succeeds_bind fun _ => succeeds_bind_pure]
    simp only [succeeds_mapM, succeeds_base_iff, succeeds_field_iff, TypeSpec.memberNames,
      TypeSpec.types, List.forall_mem_append, List.forall_mem_map, forall_and]
    rw [and_and_and_comm]
  | union variants =>
    simp only [typeItem]
    rw [succeeds_bind fun _ => succeeds_bind_pure]
    simp only [succeeds_mapM, succeeds_variant_iff, TypeSpec.memberNames, TypeSpec.types,
      List.forall_mem_map, forall_and, List.mem_filterMap]
    refine and_congr_right fun _ => and_congr_right fun _ => ?_
    constructor
    · rintro h t ⟨v, hv, ht⟩
      exact h v hv t ht
    · exact fun h v hv t ht => h t ⟨v, hv, ht⟩
  | synonym t =>
    simp only [typeItem]
    rw [succeeds_bind fun _ => succeeds_bind_pure]
    simp [TypeSpec.memberNames, TypeSpec.types]
  | newtype p =>
    simp only [typeItem]
    rw [succeeds_bind_pure]
    simp [TypeSpec.memberNames, TypeSpec.types]

theorem succeeds_declItems_iff {d : Decl} : Succeeds (declItems d) ↔
    (∀ n, d.Writes n → Succeeds (ident n)) ∧ d.HasFiniteConstants := by
  cases d with
  | type d =>
    rw [declItems, succeeds_bind_pure, succeeds_typeItem_iff, Decl.HasFiniteConstants, and_true]
  | constants b =>
    have hconstants : ∀ owner, Succeeds (b.constants.mapM (constant owner)) ↔
        ∀ c ∈ b.constants, Succeeds (ident c.ident) ∧ c.value.IsFinite := by
      intro owner
      rw [succeeds_mapM]
      simp only [succeeds_constant_iff]
    rw [declItems, succeeds_bind hconstants, Decl.HasFiniteConstants]
    constructor
    · rintro ⟨howner, h⟩
      refine ⟨?_, fun c hc => (h c hc).2⟩
      rintro n (rfl | ⟨c, hc, rfl⟩)
      · exact howner
      · exact (h c hc).1
    · rintro ⟨hnames, hfinite⟩
      exact ⟨hnames _ (.inl rfl), fun c hc => ⟨hnames _ (.inr ⟨c, hc, rfl⟩), hfinite c hc⟩⟩

theorem succeeds_file_iff {version : String} {header : Option String} {ds : List Decl} :
    Succeeds (file version header ds) ↔
      ∀ d ∈ ds, (∀ n, d.Writes n → Succeeds (ident n)) ∧ d.HasFiniteConstants := by
  rw [file, succeeds_bind_pure, items, succeeds_map, succeeds_mapM]
  simp only [succeeds_declItems_iff]

end Source
end ProtocolTypes
