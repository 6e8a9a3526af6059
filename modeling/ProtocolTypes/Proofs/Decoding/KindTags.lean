import ProtocolTypes.Proofs.Decoding.TypeNodes

/-!
# ProtocolTypes.Proofs.Decoding.KindTags

Which JSON values are type expressions. An object is one only with the name of a kind under `kind`,
and the type then is of that kind; beyond objects there are three arrays, each of which holds the
name of a kind and nothing else (`typeExpr_array_eq_ok_iff`). An array of types is therefore a list
of its items or one of these three, and never both (`decoded_forms`).
-/

namespace ProtocolTypes

open Json

theorem TypeKind.ofName?_eq_some {name : String} {kind : TypeKind} :
    ofName? name = some kind ↔ name = kind.name := by
  constructor
  · intro h
    rw [ofName?] at h
    simpa [eq_comm] using List.find?_some h
  · rintro rfl
    exact ofName?_name kind

namespace Decoding

/-! ## Kinds -/

theorem kindOfName_eq_ok {name : String} {kind : TypeKind} :
    kindOfName name = .ok kind ↔ name = kind.name := by
  rw [kindOfName, ← TypeKind.ofName?_eq_some]
  cases TypeKind.ofName? name <;> simp

theorem kindOfMembers_eq_ok {members : List (String × Json)} {kind : TypeKind} :
    kindOfMembers members = .ok kind ↔ member? "kind" members = some (.string kind.name) := by
  rw [kindOfMembers, required]
  cases member? "kind" members with
  | none => simp
  | some v =>
    cases v with
    | string name => simp [toText, kindOfName_eq_ok]
    | _ => simp [toText, reject]

theorem kindOfList_eq_ok {items : List Json} {kind : TypeKind} :
    kindOfList items = .ok kind ↔ items = [.string kind.name] := by
  cases items with
  | nil => simp [kindOfList]
  | cons first rest =>
    rw [kindOfList]
    cases first with
    | string name =>
      cases rest with
      | nil => simp [toText, kindOfName_eq_ok]
      | cons _ _ => simp [toText]
    | _ => simp [toText, reject]

/-! ## Nodes -/

/-- The value is an object that names the kind of the type. -/
def KindTagged (v : Json) (t : TypeExpr) : Prop :=
  ∃ members, v = .object members ∧ member? "kind" members = some (.string t.kind.name)

/-- The types for which the name of their kind is also all they hold. -/
def selfNamed : List TypeExpr :=
  [.base "base", .reference "reference", .stringLiteral "stringLiteral"]

/-- The value is an array of the name of a kind, which says all about the type. -/
def SelfNamed (v : Json) (t : TypeExpr) : Prop :=
  t ∈ selfNamed ∧ v = .array [.string t.kind.name]

theorem ofKindName_eq_ok {kind : TypeKind} {t : TypeExpr} :
    ofKindName kind = .ok t ↔ t ∈ selfNamed ∧ t.kind = kind := by
  constructor
  · intro h
    cases kind <;> cases h <;> exact ⟨by simp [selfNamed, TypeKind.name], rfl⟩
  · rintro ⟨hself, rfl⟩
    simp only [selfNamed, List.mem_cons, List.not_mem_nil, or_false] at hself
    rcases hself with rfl | rfl | rfl <;> rfl

theorem typeExpr_array_eq_ok_iff {items : List Json} {t : TypeExpr} :
    typeExpr (.array items) = .ok t ↔ SelfNamed (.array items) t := by
  rw [typeExpr, SelfNamed, Json.array.injEq]
  cases hkind : kindOfList items with
  | error e =>
    have hitems : items ≠ [.string t.kind.name] := by
      intro h
      rw [kindOfList_eq_ok.mpr h] at hkind
      cases hkind
    simp [hitems]
  | ok kind =>
    obtain rfl := kindOfList_eq_ok.mp hkind
    simp only [ofKindName_eq_ok, List.cons.injEq, Json.string.injEq, and_true]
    refine and_congr_right fun _ => ⟨fun h => h ▸ rfl, fun h => ?_⟩
    exact Option.some.inj ((TypeKind.ofName?_name t.kind).symm.trans
      (TypeKind.ofName?_eq_some.mpr h.symm))

/-- A payload makes a type of the kind that it was decoded for. -/
theorem kindTagged_of_object {members : List (String × Json)} {t : TypeExpr}
    (h : typeExpr (.object members) = .ok t) : KindTagged (.object members) t := by
  rw [typeExpr] at h
  cases hkind : kindOfMembers members with
  | error e => rw [hkind] at h; cases h
  | ok kind =>
    suffices t.kind = kind from ⟨members, rfl, this ▸ kindOfMembers_eq_ok.mp hkind⟩
    rw [hkind] at h
    cases kind with
    | array =>
      simp only at h
      split at h <;> cases h
      rfl
    | map =>
      simp only at h
      split at h
      · cases h
      · split at h <;> cases h
        rfl
    | _ =>
      obtain ⟨payload, _, rfl⟩ := map_eq_ok.mp h
      rfl

theorem tagged_of_typeExpr {v : Json} {t : TypeExpr} (h : typeExpr v = .ok t) :
    KindTagged v t ∨ SelfNamed v t := by
  cases v with
  | array items => exact .inr (typeExpr_array_eq_ok_iff.mp h)
  | object members => exact .inl (kindTagged_of_object h)
  | null | bool _ | number _ | string _ => simp [typeExpr, reject] at h

/-! ## One type or several -/

/-- An array that could be taken for a type has an item that is none. -/
theorem oneOrMore_array_eq_ok_iff {items : List Json} {ts : OneOrMore TypeExpr} :
    oneOrMore typeExpr (.array items) = .ok ts ↔
      List.Forall₂ (fun v t => typeExpr v = .ok t) items ts.toList ∨
        ∃ t, SelfNamed (.array items) t ∧ ts = ⟨t, []⟩ := by
  rw [oneOrMore]
  constructor
  · intro h
    cases hitems : items.mapM typeExpr with
    | error e =>
      simp only [hitems] at h
      split at h
      · rename_i t ht
        cases h
        exact .inr ⟨t, typeExpr_array_eq_ok_iff.mp ht, rfl⟩
      · cases h
    | ok us =>
      cases us with
      | nil => rw [hitems] at h; cases h
      | cons u us =>
        rw [hitems] at h
        cases h
        exact .inl (mapM_eq_ok_iff.mp hitems)
  · rintro (hitems | ⟨t, hself, rfl⟩)
    · rw [mapM_eq_ok_iff.mpr hitems]
      rfl
    · have hname : [Json.string t.kind.name].mapM typeExpr =
          (Json.string t.kind.name).reject "struct TypeDisc" := by
        rw [List.mapM_cons, typeExpr]
        · rfl
        all_goals simp
      rw [typeExpr_array_eq_ok_iff.mpr hself, (Json.array.inj hself.2), hname]
      rfl

/-- A value that decodes as a type is an object that names its kind, unless it is one of the arrays
that name a kind and nothing else, which all decode; an array decodes as several types where its
items do, and otherwise only as the single type of such an array. -/
theorem decoded_forms (v : Json) :
    (∀ t, typeExpr v = .ok t → (KindTagged v t ↔ ¬ SelfNamed v t)) ∧
      (∀ t, SelfNamed v t → typeExpr v = .ok t) ∧
      ∀ items ts, v = .array items → (oneOrMore typeExpr v = .ok ts ↔
        List.Forall₂ (fun v t => typeExpr v = .ok t) items ts.toList ∨
          ∃ t, SelfNamed v t ∧ ts = ⟨t, []⟩) := by
  refine ⟨?_, ?_, ?_⟩
  · intro t h
    constructor
    · rintro ⟨members, rfl, _⟩ ⟨_, harray⟩
      cases harray
    · exact (tagged_of_typeExpr h).resolve_right
  · intro t hself
    obtain ⟨_, rfl⟩ := id hself
    exact typeExpr_array_eq_ok_iff.mpr hself
  · rintro items ts rfl
    exact oneOrMore_array_eq_ok_iff

def textNode : Json :=
  .object [("kind", .string "base"), ("name", .string "string")]

theorem decoded_textNode :
    typeExpr textNode = .ok (.base "string") ∧ KindTagged textNode (.base "string") ∧
      typeExpr (.array [.string "base"]) = .ok (.base "base") ∧
      oneOrMore typeExpr (.array [.string "base"]) = .ok ⟨.base "base", []⟩ := by
  have hself : SelfNamed (.array [.string "base"]) (.base "base") :=
    ⟨List.mem_cons_self, rfl⟩
  have hnode : typeExpr textNode = .ok (.base "string") := by
    have hkind : kindOfMembers [("kind", .string "base"), ("name", .string "string")] =
        .ok .base := kindOfMembers_eq_ok.mpr rfl
    rw [textNode, typeExpr, hkind]
    rfl
  obtain ⟨hforms, _, _⟩ := decoded_forms textNode
  obtain ⟨_, harrays, hlists⟩ := decoded_forms (.array [.string "base"])
  have hobject : ¬ SelfNamed textNode (.base "string") := by
    rintro ⟨_, harray⟩
    cases harray
  exact ⟨hnode, (hforms _ hnode).mpr hobject, harrays _ hself,
    (hlists _ _ rfl).mpr (.inr ⟨_, hself, rfl⟩)⟩

/-- An array with the name of a kind is a type without being an object, and a list of types without
having a type for an item. -/
theorem kindName_decodes :
    (¬ ∀ v t, typeExpr v = .ok t → KindTagged v t) ∧
      ¬ ∀ items ts, oneOrMore typeExpr (.array items) = .ok ts →
        items ≠ [] ∧ List.Forall₂ (fun v t => typeExpr v = .ok t) items ts.toList := by
  have hself : SelfNamed (.array [.string "base"]) (.base "base") :=
    ⟨List.mem_cons_self, rfl⟩
  constructor
  · intro h
    obtain ⟨members, hobject, _⟩ := h _ _ (typeExpr_array_eq_ok_iff.mpr hself)
    cases hobject
  · intro h
    obtain ⟨_, hitems⟩ := h _ _ (oneOrMore_array_eq_ok_iff.mpr (.inr ⟨_, hself, rfl⟩))
    have hitem := (List.forall₂_cons.mp hitems).1
    simp [typeExpr, reject] at hitem

end Decoding
end ProtocolTypes
