import ProtocolTypes.Proofs.Identifier.Casing
import ProtocolTypes.Proofs.Mapping.Origin
import ProtocolTypes.Proofs.Target.Optional

/-!
# ProtocolTypes.Proofs.Mapping.AsciiNames

Meta models whose names are ASCII. Whatever asks for a name at a place of such a model asks for an
ASCII name, or needs no declaration (`Place.isAscii`), so types are declared under ASCII names only
(`Origin.isAscii`), and the members of records are named after words (`Origin.named`).
-/

namespace ProtocolTypes

open Target Text

/-! ## Types -/

namespace TypeExpr

/-- The properties of inline structures in the type have ASCII names, at any depth. -/
def AsciiProperties (t : TypeExpr) : Prop :=
  ∀ l, Part (.literal l) t → ∀ p ∈ l.properties, IsAscii p.name

theorem AsciiProperties.child {t c : TypeExpr} (h : t.AsciiProperties) (hc : c ∈ t.children) :
    c.AsciiProperties :=
  fun l hl => h l (.child hc hl)

theorem asciiProperties_of_children {t : TypeExpr}
    (hself : ∀ l, t = .literal l → ∀ p ∈ l.properties, IsAscii p.name)
    (hchildren : ∀ c ∈ t.children, c.AsciiProperties) : t.AsciiProperties := by
  intro l hl
  rcases part_iff.mp hl with heq | ⟨c, hc, hpart⟩
  · exact hself l heq.symm
  · exact hchildren c hc l hpart

/-- Nothing in the type asks for a name. -/
def isAtomic : TypeExpr → Bool
  | .base _ | .reference _ | .stringLiteral _ | .integerLiteral _ | .booleanLiteral _ => true
  | .array element => element.isAtomic
  | .map _ _ | .and _ | .or _ | .tuple _ | .literal _ => false

theorem asciiProperties_of_isAtomic {t : TypeExpr} (h : t.isAtomic = true) :
    t.AsciiProperties := by
  induction t using TypeExpr.induct with
  | step t ih =>
    refine asciiProperties_of_children (fun l hl => ?_) fun c hc => ?_
    · rw [hl] at h
      cases h
    · cases t with
      | array element =>
        obtain rfl := List.mem_singleton.mp hc
        exact ih _ hc h
      | base | reference | stringLiteral | integerLiteral | booleanLiteral => cases hc
      | map | and | or | tuple | literal => cases h

theorem isAtomic_of_specForm {t : TypeExpr} (h : t.specForm ≠ .synonym) : t.isAtomic = false := by
  cases t <;> first | rfl | exact absurd rfl h

/-- A type that may ask for names gives its variant an ASCII name. -/
theorem isAscii_variantName {t : TypeExpr} (h : t.isAtomic = false) : IsAscii t.variantName := by
  induction t using TypeExpr.induct with
  | step t ih =>
    cases t with
    | array element =>
      rw [variantName, isAscii_append]
      exact ⟨ih element List.mem_cons_self h, by decide⟩
    | map | and | or | tuple | literal =>
      rw [variantName]
      decide
    | base | reference | stringLiteral | integerLiteral | booleanLiteral => cases h

theorem isAscii_variantIdent {t : TypeExpr} (h : IsAscii t.variantName) (taken : List String)
    (position : Nat) : IsAscii (t.variantIdent taken position) := by
  rw [variantIdent]
  split
  · exact isAscii_append.mpr ⟨h, (Identifier.isWord_repr position).isAscii⟩
  · exact h

end TypeExpr

namespace MetaModel

/-- Declared names and names of properties are ASCII. -/
structure AsciiNames (m : MetaModel) : Prop where
  declared : ∀ d ∈ m.declarations, IsAscii d.name
  properties : ∀ s ∈ m.structures, ∀ p ∈ s.properties, IsAscii p.name ∧ p.type.AsciiProperties
  aliases : ∀ a ∈ m.typeAliases, a.type.AsciiProperties

variable {m : MetaModel} {o : MappingOptions}

theorem mem_declarations_of_mem_primaries {d : Declared} (h : d ∈ m.primaries) :
    d ∈ m.declarations :=
  (Declared.last?_eq_some (mem_primaries.mp h)).1

theorem mem_structures_of_mem_primaries {s : Structure} (h : .struct s ∈ m.primaries) :
    s ∈ m.structures := by
  have hmem := mem_declarations_of_mem_primaries h
  simpa [declarations] using hmem

theorem mem_typeAliases_of_mem_primaries {a : TypeAlias} (h : .typeAlias a ∈ m.primaries) :
    a ∈ m.typeAliases := by
  have hmem := mem_declarations_of_mem_primaries h
  simpa [declarations] using hmem

namespace AsciiNames

/-- Where nothing in types asks for names, the names of the properties are all there is. -/
theorem of_atomic (hdeclared : ∀ d ∈ m.declarations, IsAscii d.name)
    (hproperties : ∀ s ∈ m.structures, ∀ p ∈ s.properties,
      IsAscii p.name ∧ p.type.isAtomic = true)
    (haliases : ∀ a ∈ m.typeAliases, a.type.isAtomic = true) : m.AsciiNames where
  declared := hdeclared
  properties s hs p hp :=
    ⟨(hproperties s hs p hp).1,
      TypeExpr.asciiProperties_of_isAtomic (hproperties s hs p hp).2⟩
  aliases a ha := TypeExpr.asciiProperties_of_isAtomic (haliases a ha)

theorem of_mem_names (hm : m.AsciiNames) {name : String} (h : name ∈ m.names) : IsAscii name := by
  obtain ⟨d, hd, rfl⟩ := List.mem_map.mp h
  exact hm.declared d (mem_declarations_of_mem_primaries hd)

theorem property (hm : m.AsciiNames) {s : Structure} (hs : .struct s ∈ m.primaries) {p : Property}
    (hp : p ∈ s.properties) : IsAscii p.name ∧ p.type.AsciiProperties :=
  hm.properties s (mem_structures_of_mem_primaries hs) p hp

end AsciiNames

/-! ## Names asked for -/

/-- A type at a place asks for an ASCII name, unless nothing in it asks for a name. -/
theorem Place.isAscii (hm : m.AsciiNames) {hint : String} {t : TypeExpr} (h : m.Place hint t) :
    t.AsciiProperties ∧ (t.isAtomic = false → IsAscii hint) := by
  induction h with
  | @property s p hs hp =>
    obtain ⟨hname, htype⟩ := hm.property hs hp
    refine ⟨htype, fun _ => isAscii_append.mpr ⟨?_, Identifier.isAscii_pascal hname⟩⟩
    exact hm.declared _ (mem_declarations_of_mem_primaries hs)
  | @typeAlias a ha =>
    refine ⟨hm.aliases a (mem_typeAliases_of_mem_primaries ha), fun _ => ?_⟩
    exact hm.declared _ (mem_declarations_of_mem_primaries ha)
  | step _ hstep ih =>
    obtain ⟨htype, hhint⟩ := ih
    refine ⟨htype.child hstep.mem_children, fun hatomic => ?_⟩
    have hdigits (n : Nat) : IsAscii (toString n) := (Identifier.isWord_repr n).isAscii
    cases hstep with
    | element => exact isAscii_append.mpr ⟨hhint hatomic, by decide⟩
    | key => exact isAscii_append.mpr ⟨hhint rfl, by decide⟩
    | value => exact isAscii_append.mpr ⟨hhint rfl, by decide⟩
    | item position _ => exact isAscii_append.mpr ⟨hhint rfl, hdigits position⟩
    | part position _ =>
      exact isAscii_append.mpr ⟨isAscii_append.mpr ⟨hhint rfl, by decide⟩, hdigits position⟩
    | single _ => exact hhint rfl
    | variant taken position _ =>
      have hname := TypeExpr.isAscii_variantName hatomic
      exact isAscii_append.mpr ⟨hhint rfl, TypeExpr.isAscii_variantIdent hname taken position⟩
    | property hp =>
      exact isAscii_append.mpr ⟨hhint rfl, Identifier.isAscii_pascal (htype _ .self _ hp)⟩

theorem isAscii_candidate {name : String} (h : IsAscii name) (k : Nat) :
    IsAscii (Registry.candidate name k) := by
  cases k with
  | zero => exact h
  | succ k => exact isAscii_append.mpr ⟨h, (Identifier.isWord_repr (k + 2)).isAscii⟩

theorem isAscii_of_given (hm : m.AsciiNames) {name : String} (h : Mapping.Given m.Place name) :
    IsAscii name := by
  obtain ⟨hint, t, k, hplace, hform, rfl⟩ := h
  exact isAscii_candidate ((hplace.isAscii hm).2 (TypeExpr.isAtomic_of_specForm hform)) k

/-- Types are declared under ASCII names. -/
theorem Origin.isAscii (hm : m.AsciiNames) {d : TypeDecl} (h : m.Origin o d) :
    IsAscii d.ident := by
  obtain ⟨e, he, hident, _⟩ | ⟨_, hint, t, k, hplace, hident, _, hmade⟩ := h
  · rw [hident]
    exact hm.declared e (mem_declarations_of_mem_primaries he)
  · exact isAscii_of_given hm ⟨hint, t, k, hplace, hmade.specForm, hident⟩

/-! ## Members -/

/-- A type names a name of the model or one that was given to a declaration. -/
theorem Mapped.mem_or_given {given : String → Prop} {t : TypeExpr} {u : TargetType}
    (h : m.Mapped given t u) {name : String} (hname : u.symbol? = some name) :
    name ∈ m.names ∨ given name := by
  induction t using TypeExpr.induct generalizing u with
  | step t ih =>
    cases h with
    | reference hmem =>
      cases hname
      exact .inl hmem
    | intersection hgiven | literal hgiven =>
      cases hname
      exact .inr hgiven
    | nothing _ => cases TargetType.symbol?_of_optionalIf hname
    | @single items t u halt hu =>
      have ht : t ∈ items := (List.mem_filter.mp (halt ▸ List.mem_singleton_self t)).1
      exact ih t ht hu (TargetType.symbol?_of_optionalIf hname)
    | limited hform =>
      obtain ⟨v, vs, _, rfl⟩ := TypeExpr.exists_literals_of_unionForm hform
      cases TargetType.symbol?_of_optionalIf hname
    | union _ hgiven =>
      cases TargetType.symbol?_of_optionalIf hname
      exact .inr hgiven
    | base | array | map | tuple | stringLiteral | integerLiteral | booleanLiteral => cases hname

/-- The name that a member gets for an ASCII name. -/
def MemberName (n : String) : Prop :=
  ∃ s, IsAscii s ∧ n = Identifier.member s

theorem memberName_ofType {u : TargetType} (h : IsAscii (u.symbol?.getD "base")) :
    MemberName (Base.ofType u).ident := by
  refine ⟨u.symbol?.getD "base", h, ?_⟩
  rw [Base.ofType]

theorem MappedField.memberName {documented : Bool} {given : String → Prop} {p : Property}
    {f : Field} (h : m.MappedField documented given p f) (hp : IsAscii p.name) :
    MemberName f.ident := by
  obtain ⟨u, _, rfl⟩ := h
  refine ⟨p.name, hp, ?_⟩
  rw [Property.field]

theorem memberName_of_mapped (hm : m.AsciiNames) {items : List TypeExpr} {us : List TargetType}
    (h : List.Forall₂ (m.Mapped (Mapping.Given m.Place)) items us) :
    ∀ b ∈ us.map Base.ofType, MemberName b.ident := by
  intro b hb
  obtain ⟨u, hu, rfl⟩ := List.mem_map.mp hb
  obtain ⟨t, _, ht⟩ := exists_of_forall₂_right h hu
  refine memberName_ofType ?_
  cases hname : u.symbol? with
  | none =>
    rw [Option.getD_none]
    decide
  | some name =>
    rw [Option.getD_some]
    rcases ht.mem_or_given hname with hmem | hgiven
    · exact hm.of_mem_names hmem
    · exact isAscii_of_given hm hgiven

theorem memberName_of_mappedField {documented : Bool} {given : String → Prop} {ps : List Property}
    {fields : List Field} (h : List.Forall₂ (m.MappedField documented given) ps fields)
    (hps : ∀ p ∈ ps, IsAscii p.name) : ∀ f ∈ fields, MemberName f.ident := by
  intro f hf
  obtain ⟨p, hp, hfield⟩ := exists_of_forall₂_right h hf
  exact hfield.memberName (hps p hp)

/-- The record holds members named after ASCII names, told apart. -/
def Named (spec : TypeSpec) : Prop :=
  ∀ bases fields, spec = .record bases fields → ∃ members : Members,
    members.distinct = ⟨bases, fields⟩ ∧ ∀ n ∈ members.names, MemberName n

theorem named_record (members : Members) (hbases : ∀ b ∈ members.bases, MemberName b.ident)
    (hfields : ∀ f ∈ members.fields, MemberName f.ident) :
    Named (.record members.distinct.bases members.distinct.fields) := by
  intro bases fields heq
  cases heq
  refine ⟨members, rfl, List.forall_mem_append.mpr ⟨?_, ?_⟩⟩
  · exact List.forall_mem_map.mpr hbases
  · exact List.forall_mem_map.mpr hfields

theorem named_intersection (hm : m.AsciiNames) {items : List TypeExpr} {us : List TargetType}
    (h : List.Forall₂ (m.Mapped (Mapping.Given m.Place)) items us) :
    Named (MetaModel.intersection us) :=
  named_record ⟨us.map Base.ofType, []⟩ (memberName_of_mapped hm h)
    fun _ hf => absurd hf List.not_mem_nil

theorem named_inlineRecord {documented : Bool} {given : String → Prop} {l : StructLiteral}
    {fields : List Field} (h : List.Forall₂ (m.MappedField documented given) l.properties fields)
    (hl : (TypeExpr.literal l).AsciiProperties) : Named (inlineRecord fields) :=
  named_record ⟨[], fields⟩ (fun _ hb => absurd hb List.not_mem_nil)
    (memberName_of_mappedField h (hl l .self))

theorem Forms.named (hm : m.AsciiNames) {d : Declared} (hd : d ∈ m.primaries) {spec : TypeSpec}
    (h : m.Forms o (Mapping.Given m.Place) d spec) : Named spec := by
  cases h with
  | @struct s names properties fields hparts hfs =>
    refine named_record ⟨basesOf names, fields⟩ (fun b hb => ?_) (fun f hf => ?_)
    · obtain ⟨name, hname, rfl⟩ := List.mem_map.mp hb
      obtain ⟨p, hp⟩ := (parts_eq_ok hparts).2 name hname
      refine memberName_ofType (u := .symbol name) ?_
      exact hm.of_mem_names (mem_names.mpr ⟨_, hp⟩)
    · obtain ⟨p, hp, hfield⟩ := exists_of_forall₂_right hfs hf
      obtain ⟨s', hs', hown⟩ := owner_of_mem_parts hd hparts hp
      obtain ⟨q, hq, rfl⟩ := List.mem_map.mp hown
      exact hfield.memberName (hm.property hs' hq).1
  | enumeration _ => exact fun _ _ heq => by cases heq
  | @typeAlias a _ hstated =>
    have htype := hm.aliases a (mem_typeAliases_of_mem_primaries hd)
    generalize a.type = t at hstated htype
    cases hstated with
    | union _ _ | synonym _ _ => exact fun _ _ heq => by cases heq
    | intersection hus => exact named_intersection hm hus
    | literal hfs => exact named_inlineRecord hfs htype

theorem Made.named (hm : m.AsciiNames) {documented : Bool} {t : TypeExpr}
    (ht : t.AsciiProperties) {spec : TypeSpec}
    (h : m.Made documented (Mapping.Given m.Place) t spec) : Named spec := by
  cases h with
  | union _ _ => exact fun _ _ heq => by cases heq
  | intersection hus => exact named_intersection hm hus
  | literal hfs => exact named_inlineRecord hfs ht

theorem Origin.named (hm : m.AsciiNames) {d : TypeDecl} (h : m.Origin o d) : Named d.spec := by
  obtain ⟨e, he, _, hforms⟩ | ⟨_, hint, t, _, hplace, _, _, hmade⟩ := h
  · exact hforms.named hm he
  · exact hmade.named hm (hplace.isAscii hm).1

end MetaModel
end ProtocolTypes
