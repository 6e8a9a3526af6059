import Mathlib.Logic.Relation
import ProtocolTypes.Proofs.Target.Gather

/-!
# ProtocolTypes.Proofs.Target.Mention

The names that types and declarations mention. They are leaves of types, so that they are gathered
as other leaves are (`mem_gather_name`). `Mentioning` is the graph that they make of declarations;
boxing leaves it as it is (`mentioning_boxed`).
-/

namespace ProtocolTypes
namespace Target

/-! ## Names in types -/

namespace TargetType

variable {t k v : TargetType} {ts : List TargetType} {n : String}

theorem not_mentions_primitive (p : Primitive) : ¬ (primitive p).Mentions n := by
  intro h
  cases h

theorem not_mentions_constrained (p : Primitive) (vs : List LiteralValue) :
    ¬ (constrained p vs).Mentions n := by
  intro h
  cases h

@[simp] theorem mentions_symbol {name : String} : (symbol name).Mentions n ↔ n = name := by
  constructor
  · intro h
    cases h
    rfl
  · rintro rfl
    exact .symbol

theorem mentions_list : (list t).Mentions n ↔ t.Mentions n := by
  constructor
  · intro h
    cases h
    assumption
  · exact .list

theorem mentions_option : (option t).Mentions n ↔ t.Mentions n := by
  constructor
  · intro h
    cases h
    assumption
  · exact .option

theorem mentions_boxed : (boxed t).Mentions n ↔ t.Mentions n := by
  constructor
  · intro h
    cases h
    assumption
  · exact .boxed

theorem mentions_map : (map k v).Mentions n ↔ k.Mentions n ∨ v.Mentions n := by
  constructor
  · intro h
    cases h with
    | key hk => exact .inl hk
    | value hv => exact .inr hv
  · rintro (hk | hv)
    · exact .key hk
    · exact .value hv

theorem mentions_tuple : (tuple ts).Mentions n ↔ ∃ t ∈ ts, t.Mentions n := by
  constructor
  · intro h
    cases h with
    | item ht hn => exact ⟨_, ht, hn⟩
  · rintro ⟨t, ht, hn⟩
    exact .item ht hn

theorem mentions_of_part (h : Part (symbol n) t) : t.Mentions n := by
  induction h with
  | self => exact .symbol
  | @child t c hc _ ih =>
    cases t with
    | list | option | boxed =>
      obtain rfl := List.mem_singleton.mp hc
      constructor
      exact ih
    | map k v =>
      rcases List.mem_cons.mp hc with rfl | hc
      · exact .key ih
      · obtain rfl := List.mem_singleton.mp hc
        exact .value ih
    | tuple ts => exact .item hc ih
    | primitive | symbol | constrained => cases hc

theorem part_of_mentions (h : t.Mentions n) : Part (symbol n) t := by
  induction h with
  | symbol => exact .self
  | list _ ih | option _ ih | boxed _ ih | key _ ih => exact .child List.mem_cons_self ih
  | value _ ih => exact .child (List.mem_cons_of_mem _ List.mem_cons_self) ih
  | item ht _ ih => exact .child ht ih

end TargetType

/-- Names are leaves. -/
def Leaf.name : Leaf String where
  type := .symbol
  isLeaf _ := rfl

namespace TargetType

theorem mem_gather_name {t : TargetType} {n : String} : n ∈ t.gather .name ↔ t.Mentions n :=
  ⟨mentions_of_part, part_of_mentions⟩

@[simp] theorem gather_name_symbol (name : String) : (symbol name).gather .name = {name} :=
  Set.ext fun _ => mem_gather_name.trans mentions_symbol

@[simp] theorem gather_name_constrained (p : Primitive) (vs : List LiteralValue) :
    (constrained p vs).gather .name = ∅ :=
  Set.eq_empty_of_forall_notMem fun _ h => not_mentions_constrained p vs (mem_gather_name.mp h)

end TargetType

theorem TypeSpec.mem_gather_name {spec : TypeSpec} {n : String} :
    n ∈ spec.gather .name ↔ ∃ t ∈ spec.types, t.Mentions n := by
  simp only [gather, gatherIn, Set.mem_ofPred_eq, TargetType.mem_gather_name]

/-! ## Names in declarations -/

/-- The declaration `a` mentions the name `b`. -/
def Mentioning (ds : List TypeDecl) (a b : String) : Prop :=
  ∃ d ∈ ds, d.ident = a ∧ ∃ t ∈ d.spec.types, t.Mentions b

theorem Mentioning.mono {ds es : List TypeDecl} (h : ds ⊆ es) {a b : String}
    (hab : Mentioning ds a b) : Mentioning es a b := by
  obtain ⟨d, hd, hab⟩ := hab
  exact ⟨d, h hd, hab⟩

theorem mentioning_iff_gather {ds : List TypeDecl} {a b : String} :
    Mentioning ds a b ↔ ∃ d ∈ ds, d.ident = a ∧ b ∈ d.spec.gather .name := by
  simp only [Mentioning, TypeSpec.mem_gather_name]

theorem mentioning_boxed {ds : List Decl} {a b : String} :
    Mentioning (typeDecls (boxed ds)) a b ↔ Mentioning (typeDecls ds) a b := by
  simp [mentioning_iff_gather, typeDecls_boxed, TypeDecl.box, TypeSpec.gather_box]

end Target
end ProtocolTypes
