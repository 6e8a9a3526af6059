import ProtocolTypes.Proofs.Target.Occurrence
import ProtocolTypes.Proofs.Traversal
import ProtocolTypes.Target.Members

/-!
# ProtocolTypes.Proofs.Target.Shape

Types with the names of made-up declarations replaced by what the names stand for. `shape` replaces
the names by a given meaning, `meaningIn` gives each name the shape of its declaration. The heap is
not part of a shape (`shape_box`), and a declaration added or more depth keeps every shape found so
far (`meaningIn_extends`, `shape_mono`).
-/

namespace ProtocolTypes
namespace Target

/-! ## Shapes -/

mutual

/-- A type whose names are those of the meta model only. -/
inductive Shape where
  | primitive (p : Primitive)
  | symbol (name : String)
  | list (element : Shape)
  | map (key value : Shape)
  | tuple (items : List Shape)
  | option (inner : Shape)
  | constrained (base : Primitive) (values : List LiteralValue)
  | record (bases : List Shape) (fields : List FieldShape)
  | union (variants : List VariantShape)
  | newtype (carrier : Primitive)

structure FieldShape where
  ident : String
  wireName : String
  type : Shape
  optional : Bool
  docs : Docs

structure VariantShape where
  ident : String
  type : Option Shape

end

namespace Shape

def isOption : Shape → Bool
  | .option _ => true
  | _ => false

def optional (s : Shape) : Shape :=
  if s.isOption then s else .option s

def optionalIf (wanted : Bool) (s : Shape) : Shape :=
  if wanted then s.optional else s

/-- Records and unions. -/
def isComposite : Shape → Bool
  | .record _ _ | .union _ => true
  | _ => false

theorem isOption_of_composite {s : Shape} (h : s.isComposite) : s.isOption = false := by
  cases s <;> first | rfl | cases h

end Shape

/-- What names stand for. -/
abbrev Meaning := String → Option Shape

mutual

/-- The shape of a type, if all its names have a meaning. -/
def TargetType.shape (μ : Meaning) : TargetType → Option Shape
  | .primitive p => some (.primitive p)
  | .symbol name => μ name
  | .list element => (element.shape μ).map .list
  | .map key value => do return .map (← key.shape μ) (← value.shape μ)
  | .tuple items => (TargetType.shapes μ items).map .tuple
  | .option inner => (inner.shape μ).map .option
  | .boxed inner => inner.shape μ
  | .constrained base values => some (.constrained base values)

def TargetType.shapes (μ : Meaning) : List TargetType → Option (List Shape)
  | [] => some []
  | t :: rest => do return (← t.shape μ) :: (← TargetType.shapes μ rest)

end

def Field.shape (μ : Meaning) (f : Field) : Option FieldShape :=
  (f.type.shape μ).map fun s => ⟨f.ident, f.wireName, s, f.optional, f.docs⟩

def Variant.shape (μ : Meaning) (v : Variant) : Option VariantShape :=
  match v.type with
  | none => some ⟨v.ident, none⟩
  | some t => (t.shape μ).map fun s => ⟨v.ident, some s⟩

theorem Variant.shape_some (μ : Meaning) (ident : String) (t : TargetType) :
    Variant.shape μ ⟨ident, some t⟩ = (t.shape μ).map fun s => ⟨ident, some s⟩ := rfl

/-- The shape of a declaration; bases count by their types, not by their names. -/
def TypeSpec.shape (μ : Meaning) : TypeSpec → Option Shape
  | .record bases fields => do
    return .record (← TargetType.shapes μ (bases.map (·.type))) (← fields.mapM (Field.shape μ))
  | .union variants => (variants.mapM (Variant.shape μ)).map .union
  | .synonym t => t.shape μ
  | .newtype p => some (.newtype p)

/-- The first declaration of a name. -/
def declared? (ds : List TypeDecl) (name : String) : Option TypeDecl :=
  ds.find? fun d => d.ident = name

theorem declared?_eq_some {ds : List TypeDecl} {name : String} {d : TypeDecl}
    (h : declared? ds name = some d) : d ∈ ds ∧ d.ident = name :=
  ⟨List.mem_of_find?_eq_some h, by simpa using List.find?_some h⟩

theorem declared?_of_mem {ds : List TypeDecl} (hds : (ds.map (·.ident)).Nodup) {d : TypeDecl}
    (hd : d ∈ ds) : declared? ds d.ident = some d := by
  cases hfind : declared? ds d.ident with
  | none =>
    rw [declared?, List.find?_eq_none] at hfind
    exact absurd (hfind d hd) (by simp)
  | some e =>
    obtain ⟨he, hident⟩ := declared?_eq_some hfind
    rw [List.inj_on_of_nodup_map hds he hd hident]

/-- The meaning of names among declarations: a name of the model stands for itself, any other one
for the shape of its declaration. Names in that declaration are followed up to `depth`. -/
def meaningIn (names : List String) (ds : List TypeDecl) (depth : Nat) : Meaning := fun name =>
  if names.contains name then some (.symbol name)
  else
    match depth with
    | 0 => none
    | depth + 1 => (declared? ds name).bind fun d => d.spec.shape (meaningIn names ds depth)

@[simp] theorem TargetType.shapes_eq (μ : Meaning) (ts : List TargetType) :
    TargetType.shapes μ ts = ts.mapM (TargetType.shape μ) := by
  induction ts with
  | nil => rfl
  | cons t ts ih => simp only [TargetType.shapes, List.mapM_cons, ih]

theorem TypeSpec.isComposite_shape {μ : Meaning} {spec : TypeSpec} {s : Shape}
    (h : spec.isComposite) (hs : spec.shape μ = some s) : s.isComposite := by
  cases spec with
  | record bases fields =>
    simp only [shape, Option.pure_def, Option.bind_eq_bind, Option.bind_eq_some_iff] at hs
    obtain ⟨_, _, _, _, hs⟩ := hs
    cases hs
    rfl
  | union variants =>
    obtain ⟨_, _, rfl⟩ := Option.map_eq_some_iff.mp hs
    rfl
  | synonym t => cases h
  | newtype p => cases h

/-- A type that stands for a name of the model is that name, in place or on the heap. -/
theorem TargetType.symbol?_of_shape {μ : Meaning} {name : String}
    (hμ : ∀ n, μ n = some (.symbol name) → n = name) {t : TargetType}
    (h : t.shape μ = some (.symbol name)) : t.symbol? = some name := by
  induction t with
  | symbol n => rw [symbol?, hμ n h]
  | boxed t ih => exact ih h
  | primitive | constrained => cases h
  | list t | option t | tuple ts =>
    obtain ⟨_, _, hs⟩ := Option.map_eq_some_iff.mp h
    cases hs
  | map k v =>
    simp only [shape, Option.pure_def, Option.bind_eq_bind, Option.bind_eq_some_iff] at h
    obtain ⟨_, _, _, _, hs⟩ := h
    cases hs

/-! ## Boxing -/

theorem TargetType.shape_box (μ : Meaning) (cycle : List String) (t : TargetType) :
    (t.box cycle).shape μ = t.shape μ := by
  induction t with
  | symbol name =>
    rw [box]
    split <;> rfl
  | option t ih => rw [box, shape, shape, ih]
  | tuple ts ih =>
    rw [box, shape, shape, boxAll_eq, shapes_eq, shapes_eq]
    congr 1
    induction ts with
    | nil => rfl
    | cons t ts iht =>
      rw [List.map_cons, List.mapM_cons, List.mapM_cons, ih t List.mem_cons_self,
        iht fun u hu => ih u (List.mem_cons_of_mem _ hu)]
  | primitive | list | map | boxed | constrained => rfl

theorem Field.shape_box (μ : Meaning) (cycle : List String) (f : Field) :
    Field.shape μ { f with type := f.type.box cycle } = f.shape μ := by
  simp only [Field.shape, TargetType.shape_box]

theorem TypeSpec.shape_box (μ : Meaning) (cycle : List String) (spec : TypeSpec) :
    (spec.box cycle).shape μ = spec.shape μ := by
  cases spec with
  | record bases fields =>
    have hbases : ((bases.map fun b => { b with type := b.type.box cycle }).map (·.type)).mapM
        (TargetType.shape μ) = (bases.map (·.type)).mapM (TargetType.shape μ) := by
      rw [List.map_map, List.mapM_map, List.mapM_map]
      exact congrArg (List.mapM · bases) (funext fun b => TargetType.shape_box μ cycle b.type)
    simp only [box, shape, TargetType.shapes_eq, hbases, mapM_map_eq (Field.shape_box μ cycle)]
  | union variants =>
    have hvariant : ∀ v : Variant, Variant.shape μ { v with type := v.type.map (·.box cycle) } =
        v.shape μ := by
      rintro ⟨ident, _ | t⟩
      · rfl
      · rw [Option.map_some, Variant.shape_some, Variant.shape_some, TargetType.shape_box]
    simp only [box, shape, mapM_map_eq hvariant]
  | synonym | newtype => rfl

/-! ## More meanings -/

/-- `ν` gives every name the meaning it has in `μ`, and may give a meaning to others. -/
def Meaning.Extends (μ ν : Meaning) : Prop :=
  ∀ name s, μ name = some s → ν name = some s

section Extends

variable {μ ν : Meaning}

theorem TargetType.shape_mono (h : μ.Extends ν) {t : TargetType} {s : Shape}
    (ht : t.shape μ = some s) : t.shape ν = some s := by
  induction t generalizing s with
  | symbol name => exact h name s ht
  | list t ih | option t ih =>
    rw [shape] at ht ⊢
    obtain ⟨u, hu, rfl⟩ := Option.map_eq_some_iff.mp ht
    rw [ih hu, Option.map_some]
  | map k v ihk ihv =>
    simp only [shape, Option.pure_def, Option.bind_eq_bind, Option.bind_eq_some_iff] at ht ⊢
    obtain ⟨a, ha, b, hb, he⟩ := ht
    exact ⟨a, ihk ha, b, ihv hb, he⟩
  | tuple ts ih =>
    rw [shape, shapes_eq] at ht ⊢
    obtain ⟨us, hus, rfl⟩ := Option.map_eq_some_iff.mp ht
    rw [mapM_mono (fun t htm s => ih t htm) hus, Option.map_some]
  | boxed t ih => exact ih ht
  | primitive | constrained => exact ht

theorem Field.shape_mono (h : μ.Extends ν) {f : Field} {s : FieldShape}
    (hf : f.shape μ = some s) : f.shape ν = some s := by
  rw [Field.shape] at hf ⊢
  obtain ⟨u, hu, rfl⟩ := Option.map_eq_some_iff.mp hf
  rw [TargetType.shape_mono h hu, Option.map_some]

theorem Variant.shape_mono (h : μ.Extends ν) {v : Variant} {s : VariantShape}
    (hv : v.shape μ = some s) : v.shape ν = some s := by
  obtain ⟨ident, _ | t⟩ := v
  · exact hv
  · rw [Variant.shape_some] at hv ⊢
    obtain ⟨u, hu, rfl⟩ := Option.map_eq_some_iff.mp hv
    rw [TargetType.shape_mono h hu, Option.map_some]

theorem TypeSpec.shape_mono (h : μ.Extends ν) {spec : TypeSpec} {s : Shape}
    (hs : spec.shape μ = some s) : spec.shape ν = some s := by
  cases spec with
  | record bases fields =>
    simp only [shape, TargetType.shapes_eq, Option.pure_def, Option.bind_eq_bind,
      Option.bind_eq_some_iff] at hs ⊢
    obtain ⟨bs, hbs, fs, hfs, he⟩ := hs
    exact ⟨bs, mapM_mono (fun _ _ _ => TargetType.shape_mono h) hbs, fs,
      mapM_mono (fun _ _ _ => Field.shape_mono h) hfs, he⟩
  | union variants =>
    rw [shape] at hs ⊢
    obtain ⟨vs, hvs, rfl⟩ := Option.map_eq_some_iff.mp hs
    rw [mapM_mono (fun _ _ _ => Variant.shape_mono h) hvs, Option.map_some]
  | synonym t => exact TargetType.shape_mono h hs
  | newtype p => exact hs

end Extends

/-! ## The meaning of declared names -/

section Declared

variable {names : List String} {ds es : List TypeDecl}

theorem meaningIn_of_mem {depth : Nat} {name : String} (h : name ∈ names) :
    meaningIn names ds depth name = some (.symbol name) := by
  unfold meaningIn
  rw [if_pos (by simpa using h)]

theorem meaningIn_succ {depth : Nat} {name : String} (h : name ∉ names) :
    meaningIn names ds (depth + 1) name =
      (declared? ds name).bind fun d => d.spec.shape (meaningIn names ds depth) := by
  conv => lhs; unfold meaningIn
  rw [if_neg (by simpa using h)]

/-- Declarations of the same shapes and more, followed at least as deep, keep every meaning. -/
theorem meaningIn_extends
    (h : ∀ name d, declared? ds name = some d →
      ∃ e, declared? es name = some e ∧ ∀ μ, e.spec.shape μ = d.spec.shape μ)
    {depth depth' : Nat} (hle : depth ≤ depth') :
    (meaningIn names ds depth).Extends (meaningIn names es depth') := by
  induction depth generalizing depth' with
  | zero =>
    intro name s hs
    unfold meaningIn at hs ⊢
    split at hs
    · rename_i hn
      rw [if_pos hn, hs]
    · cases hs
  | succ depth ih =>
    obtain ⟨k, rfl⟩ : ∃ k, depth' = k + 1 := ⟨depth' - 1, by omega⟩
    intro name s hs
    by_cases hn : name ∈ names
    · rwa [meaningIn_of_mem hn] at hs ⊢
    · rw [meaningIn_succ hn] at hs ⊢
      obtain ⟨d, hd, hsd⟩ := Option.bind_eq_some_iff.mp hs
      obtain ⟨e, he, hshape⟩ := h name d hd
      rw [he, Option.bind_some, hshape]
      exact TypeSpec.shape_mono (ih (by omega)) hsd

theorem meaningIn_mono {depth depth' : Nat} (hle : depth ≤ depth') :
    (meaningIn names ds depth).Extends (meaningIn names ds depth') :=
  meaningIn_extends (fun _ d hd => ⟨d, hd, fun _ => rfl⟩) hle

/-- Only names of the model and declared names have a meaning. -/
theorem mem_or_declared_of_meaningIn {depth : Nat} {name : String} {s : Shape}
    (h : meaningIn names ds depth name = some s) :
    name ∈ names ∨ ∃ d ∈ ds, d.ident = name := by
  unfold meaningIn at h
  split at h
  · rename_i hn
    exact .inl (by simpa using hn)
  · cases depth with
    | zero => cases h
    | succ depth =>
      obtain ⟨d, hd, _⟩ := Option.bind_eq_some_iff.mp h
      exact .inr ⟨d, declared?_eq_some hd⟩

end Declared

/-! ## Names in shapes -/

theorem TargetType.exists_meaning_of_mentions {μ : Meaning} {t : TargetType} {s : Shape}
    {name : String} (hm : t.Mentions name) (ht : t.shape μ = some s) : ∃ u, μ name = some u := by
  induction hm generalizing s with
  | symbol => exact ⟨s, ht⟩
  | list _ ih | option _ ih =>
    rw [shape] at ht
    obtain ⟨u, hu, _⟩ := Option.map_eq_some_iff.mp ht
    exact ih hu
  | key _ ih =>
    simp only [shape, Option.pure_def, Option.bind_eq_bind, Option.bind_eq_some_iff] at ht
    obtain ⟨a, ha, _⟩ := ht
    exact ih ha
  | value _ ih =>
    simp only [shape, Option.pure_def, Option.bind_eq_bind, Option.bind_eq_some_iff] at ht
    obtain ⟨_, _, b, hb, _⟩ := ht
    exact ih hb
  | item hu _ ih =>
    rw [shape, shapes_eq] at ht
    obtain ⟨us, hus, _⟩ := Option.map_eq_some_iff.mp ht
    obtain ⟨_, hs⟩ := exists_of_mapM hus hu
    exact ih hs
  | boxed _ ih => exact ih ht

theorem TypeSpec.exists_shape_of_mem_types {μ : Meaning} {spec : TypeSpec} {s : Shape}
    (hs : spec.shape μ = some s) {t : TargetType} (ht : t ∈ spec.types) :
    ∃ u, t.shape μ = some u := by
  cases spec with
  | record bases fields =>
    simp only [shape, TargetType.shapes_eq, Option.pure_def, Option.bind_eq_bind,
      Option.bind_eq_some_iff] at hs
    obtain ⟨bs, hbs, fs, hfs, _⟩ := hs
    rcases List.mem_append.mp ht with ht | ht
    · exact exists_of_mapM hbs ht
    · obtain ⟨f, hf, rfl⟩ := List.mem_map.mp ht
      obtain ⟨_, hfield⟩ := exists_of_mapM hfs hf
      obtain ⟨u, hu, _⟩ := Option.map_eq_some_iff.mp hfield
      exact ⟨u, hu⟩
  | union variants =>
    rw [shape] at hs
    obtain ⟨vs, hvs, _⟩ := Option.map_eq_some_iff.mp hs
    obtain ⟨v, hv, hvt⟩ := List.mem_filterMap.mp ht
    obtain ⟨_, hvariant⟩ := exists_of_mapM hvs hv
    rw [Variant.shape, hvt] at hvariant
    obtain ⟨u, hu, _⟩ := Option.map_eq_some_iff.mp hvariant
    exact ⟨u, hu⟩
  | synonym t' =>
    rw [List.mem_singleton.mp ht]
    exact ⟨s, hs⟩
  | newtype p => cases ht

end Target
end ProtocolTypes
