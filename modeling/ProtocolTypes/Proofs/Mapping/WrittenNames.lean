import ProtocolTypes.Proofs.Decoding.FiniteNumbers
import ProtocolTypes.Proofs.Source.MemberNames
import ProtocolTypes.Proofs.Source.Rendering

/-!
# ProtocolTypes.Proofs.Mapping.WrittenNames

What the declarations of a meta model write. In a model of ASCII names and literals each name that
is written anywhere is ASCII (`Generated.isAscii_of_writes`), and constants are finite where the
numbers of the model are (`Generated.hasFiniteConstants`).
-/

namespace ProtocolTypes

open Target Text

/-! ## Literals -/

/-- The literals of text in the type are ASCII, at any depth. -/
def TypeExpr.AsciiLiterals (t : TypeExpr) : Prop :=
  ∀ s, Part (.stringLiteral s) t → IsAscii s

theorem TypeExpr.AsciiLiterals.child {t c : TypeExpr} (h : t.AsciiLiterals) (hc : c ∈ t.children) :
    c.AsciiLiterals :=
  fun s hs => h s (.child hc hs)

theorem TypeExpr.isAscii_integerName (i : Int) : IsAscii (integerName i) := by
  have hdigits : IsAscii (toString i.natAbs) := (Identifier.isWord_repr i.natAbs).isAscii
  rw [integerName]
  split
  · exact isAscii_append.mpr ⟨by decide, hdigits⟩
  · exact isAscii_append.mpr ⟨by decide, hdigits⟩

theorem isAscii_of_ofBase? {name : String} {p : Primitive} (h : Primitive.ofBase? name = some p) :
    IsAscii name := by
  unfold Primitive.ofBase? at h
  split at h
  all_goals first | decide | cases h

namespace MetaModel

/-- Declared names, the names of properties and entries, and literals of text are ASCII. -/
structure AsciiTexts (m : MetaModel) : Prop extends m.AsciiNames where
  entries : ∀ e ∈ m.enumerations, ∀ entry ∈ e.values, IsAscii entry.name
  propertyLiterals : ∀ s ∈ m.structures, ∀ p ∈ s.properties, p.type.AsciiLiterals
  aliasLiterals : ∀ a ∈ m.typeAliases, a.type.AsciiLiterals

variable {m : MetaModel} {o : MappingOptions} {given : String → Prop}

theorem Place.asciiLiterals (hm : m.AsciiTexts) {hint : String} {t : TypeExpr}
    (h : m.Place hint t) : t.AsciiLiterals := by
  induction h with
  | property hs hp => exact hm.propertyLiterals _ (mem_structures_of_mem_primaries hs) _ hp
  | typeAlias ha => exact hm.aliasLiterals _ (mem_typeAliases_of_mem_primaries ha)
  | step _ hstep ih => exact ih.child hstep.mem_children

/-! ## Variants -/

theorem Mapped.isAscii_variantName (hm : m.AsciiTexts) {t : TypeExpr} {u : TargetType}
    (h : m.Mapped given t u) (ht : t.AsciiLiterals) : IsAscii t.variantName := by
  induction t using TypeExpr.induct generalizing u with
  | step t ih =>
    cases h with
    | base hp => exact Identifier.isAscii_pascal (isAscii_of_ofBase? hp)
    | reference hname => exact hm.of_mem_names hname
    | @array element u hu =>
      have hmem : element ∈ (TypeExpr.array element).children := List.mem_cons_self
      exact isAscii_append.mpr ⟨ih element hmem hu (ht.child hmem), by decide⟩
    | @stringLiteral s =>
      rw [TypeExpr.variantName]
      split
      · decide
      · exact Identifier.isAscii_pascal (ht s .self)
    | @integerLiteral i => exact TypeExpr.isAscii_integerName i.toInt
    | @booleanLiteral b => cases b <;> decide
    | map | tuple | intersection | literal | nothing | single | limited | union =>
      rw [TypeExpr.variantName]
      decide

theorem isAscii_variantIdents {taken : List String} {position : Nat} {ts : List TypeExpr}
    (h : ∀ t ∈ ts, IsAscii t.variantName) :
    ∀ n ∈ TypeExpr.variantIdents taken position ts, IsAscii n := by
  induction ts generalizing taken position with
  | nil => exact fun n hn => absurd hn List.not_mem_nil
  | cons t ts ih =>
    obtain ⟨hhead, htail⟩ := List.forall_mem_cons.mp h
    rw [TypeExpr.variantIdents]
    exact List.forall_mem_cons.mpr ⟨TypeExpr.isAscii_variantIdent hhead taken position, ih htail⟩

theorem MappedVariants.isAscii (hm : m.AsciiTexts) {taken : List String} {position : Nat}
    {ts : List TypeExpr} {vs : List Variant} (h : m.MappedVariants given taken position ts vs)
    (hts : ∀ t ∈ ts, t.AsciiLiterals) : ∀ n ∈ vs.map (·.ident), IsAscii n := by
  rw [h.idents]
  refine isAscii_variantIdents fun t ht => ?_
  obtain ⟨v, _, u, _, hu⟩ := exists_of_forall₂ h.types ht
  exact hu.isAscii_variantName hm (hts t ht)

/-! ## Members -/

/-- Of a union the variants have ASCII names. -/
def AsciiVariants (spec : TypeSpec) : Prop :=
  ∀ vs, spec = .union vs → ∀ n ∈ vs.map (·.ident), IsAscii n

theorem asciiLiterals_of_mem_alternatives {items : List TypeExpr}
    (h : (TypeExpr.or items).AsciiLiterals) :
    ∀ t ∈ TypeExpr.alternatives items, t.AsciiLiterals :=
  fun _ ht => h.child (List.mem_filter.mp ht).1

theorem Made.asciiVariants (hm : m.AsciiTexts) {documented : Bool} {t : TypeExpr}
    (ht : t.AsciiLiterals) {spec : TypeSpec} (h : m.Made documented given t spec) :
    AsciiVariants spec := by
  intro vs heq
  cases h with
  | union _ hvs =>
    cases heq
    exact hvs.isAscii hm (asciiLiterals_of_mem_alternatives ht)
  | intersection _ | literal _ => cases heq

theorem Stated.asciiVariants (hm : m.AsciiTexts) {documented : Bool} {t : TypeExpr}
    (ht : t.AsciiLiterals) {spec : TypeSpec} (h : m.Stated documented given t spec) :
    AsciiVariants spec := by
  intro vs heq
  cases h with
  | @union items vs _ hvs =>
    cases heq
    rw [List.map_append]
    refine List.forall_mem_append.mpr
      ⟨hvs.isAscii hm (asciiLiterals_of_mem_alternatives ht), ?_⟩
    rw [nullVariant]
    split
    · decide
    · exact fun n hn => absurd hn List.not_mem_nil
  | intersection _ | literal _ | synonym _ _ => cases heq

theorem Origin.asciiVariants (hm : m.AsciiTexts) {d : TypeDecl} (h : m.Origin o d) :
    AsciiVariants d.spec := by
  obtain ⟨e, he, _, hforms⟩ | ⟨_, hint, t, _, hplace, _, _, hmade⟩ := h
  · generalize d.spec = spec at hforms
    cases hforms with
    | struct _ _ | enumeration _ => exact fun vs heq => by cases heq
    | typeAlias hstated =>
      exact hstated.asciiVariants hm (hm.aliasLiterals _ (mem_typeAliases_of_mem_primaries he))
  · exact hmade.asciiVariants hm (hplace.asciiLiterals hm)

theorem Origin.isAscii_memberNames (hm : m.AsciiTexts) {d : TypeDecl} (h : m.Origin o d) :
    ∀ n ∈ d.spec.memberNames, IsAscii n := by
  have hnamed := h.named hm.toAsciiNames
  have hvariants := h.asciiVariants hm
  cases hspec : d.spec with
  | record bases fields =>
    obtain ⟨members, hdistinct, hnames⟩ := hnamed bases fields hspec
    intro n hn
    have hmem : n ∈ members.distinct.names := by
      rw [hdistinct]
      exact hn
    exact (isWord_of_mem_distinct hnames n hmem).1.isAscii
  | union vs => exact hvariants vs hspec
  | synonym | newtype => exact fun n hn => absurd hn List.not_mem_nil

/-! ## Constants -/

theorem constant_of_declare {documented : Bool} {e : Enumeration} {t : TypeDecl} {b : ConstBlock}
    (h : e.declare documented = .ok (t, b)) : b.owner = e.name ∧
      ∀ c ∈ b.constants, ∃ entry ∈ e.values, c.ident = e.name ++ entry.name ∧
        ∃ carrier, Enumeration.constant? carrier entry.value = some c.value := by
  rw [Enumeration.declare] at h
  split at h
  · cases h
  · obtain ⟨constants, hconstants, heq⟩ := bind_eq_ok.mp h
    cases heq
    refine ⟨rfl, fun c hc => ?_⟩
    obtain ⟨entry, hentry, hmap⟩ := exists_of_forall₂_right (mapM_eq_ok_iff.mp hconstants) hc
    rw [Enumeration.mapEntry] at hmap
    split at hmap
    · cases hmap
      exact ⟨entry, hentry, rfl, _, ‹_›⟩
    · cases hmap

theorem isFinite_of_constant? {carrier : Primitive} {value : EnumerationValue} {v : ConstValue}
    (hvalue : value.IsFinite) (h : Enumeration.constant? carrier value = some v) : v.IsFinite := by
  unfold Enumeration.constant? at h
  split at h
  all_goals cases h
  case h_3 => exact hvalue
  all_goals trivial

/-! ## Declarations -/

namespace Generated

variable {ds : List Decl} {set : DeclSet} {ps : List (Declared × Shape)} {r : Registry}
  {dss : List (List Decl)}

theorem exists_constants (h : Generated m o ds set ps r dss) {b : ConstBlock}
    (hb : .constants b ∈ ds) : ∃ e ∈ m.enumerations, b.owner = e.name ∧
      ∀ c ∈ b.constants, ∃ entry ∈ e.values, c.ident = e.name ++ entry.name ∧
        ∃ carrier, Enumeration.constant? carrier entry.value = some c.value := by
  obtain ⟨d, hd, hblock⟩ := h.mem_constBlocks_iff.mp (mem_constBlocks.mpr hb)
  obtain ⟨e, t, rfl, hdeclare⟩ := Declared.block?_eq_some.mp hblock
  refine ⟨e, ?_, constant_of_declare hdeclare⟩
  have hmem := mem_declarations_of_mem_primaries hd
  simpa [declarations] using hmem

theorem isAscii_of_mentions (h : Generated m o ds set ps r dss) (hm : m.AsciiNames)
    {d : TypeDecl} (hd : .type d ∈ ds) {t : TargetType} (ht : t ∈ d.spec.types) {n : String}
    (hn : t.Mentions n) : IsAscii n := by
  obtain ⟨s, hs⟩ := h.exists_shape hd
  obtain ⟨u, hu⟩ := TypeSpec.exists_shape_of_mem_types hs ht
  obtain ⟨v, hv⟩ := TargetType.exists_meaning_of_mentions hn hu
  rcases mem_or_declared_of_meaningIn hv with hmem | ⟨e, he, rfl⟩
  · exact hm.of_mem_names hmem
  · obtain ⟨e, g, rfl, horigin⟩ := h.origin (mem_typeDecls.mp he)
    exact horigin.isAscii hm

theorem isAscii_of_writes (h : Generated m o ds set ps r dss) (hm : m.AsciiTexts) {d : Decl}
    (hd : d ∈ ds) {n : String} (hn : d.Writes n) : IsAscii n := by
  cases d with
  | type d =>
    obtain ⟨u, g, rfl, horigin⟩ := h.origin hd
    rcases hn with rfl | hmember | ⟨t, ht, hmentions⟩
    · exact horigin.isAscii hm.toAsciiNames
    · have hsame : (u.box g).spec.memberNames = u.spec.memberNames :=
        TypeSpec.memberNames_box _ u.spec
      exact horigin.isAscii_memberNames hm n (hsame ▸ hmember)
    · exact h.isAscii_of_mentions hm.toAsciiNames hd ht hmentions
  | constants b =>
    obtain ⟨e, he, howner, hconstants⟩ := h.exists_constants hd
    have hname : IsAscii e.name := hm.declared (.enumeration e) (by simp [declarations, he])
    rcases hn with rfl | ⟨c, hc, rfl⟩
    · rw [howner]
      exact hname
    · obtain ⟨entry, hentry, hident, -⟩ := hconstants c hc
      rw [hident]
      exact isAscii_append.mpr ⟨hname, hm.entries e he entry hentry⟩

theorem hasFiniteConstants (h : Generated m o ds set ps r dss) (hm : m.HasFiniteNumbers) {d : Decl}
    (hd : d ∈ ds) : d.HasFiniteConstants := by
  cases d with
  | type d => trivial
  | constants b =>
    intro c hc
    obtain ⟨e, he, _, hconstants⟩ := h.exists_constants hd
    obtain ⟨entry, hentry, _, carrier, hvalue⟩ := hconstants c hc
    exact isFinite_of_constant? (hm e he entry hentry) hvalue

end Generated
end MetaModel
end ProtocolTypes
