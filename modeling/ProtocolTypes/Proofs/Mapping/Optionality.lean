import ProtocolTypes.Proofs.Mapping.Origin
import ProtocolTypes.Proofs.Target.Optional
import ProtocolTypes.Source.Render

/-!
# ProtocolTypes.Proofs.Mapping.Optionality

Which fields are optional types. Null enters a type by the flag of a property and by unions, which
may nest; `Nullable` says when a type expression lets null in. Main result:
`targetDecls_optionality`, for the declarations of a meta model after parts of them moved to the
heap: no optional type is optional twice, a field is an optional type exactly when its property is
flagged or its type is nullable, and exactly the fields of flagged properties are skipped where they
have no value.
-/

namespace ProtocolTypes

open Target

/-! ## Nullable types -/

namespace TypeExpr

/-- Null is a value of the type: it is among the items of a union, or of the only other item. -/
inductive Nullable : TypeExpr → Prop where
  | null {items : List TypeExpr} : .base "null" ∈ items → Nullable (.or items)
  | single {items : List TypeExpr} {t : TypeExpr} :
      (items.filter fun t => !t.isNull) = [t] → Nullable t → Nullable (.or items)

theorem nullable_or_iff {items : List TypeExpr} :
    (TypeExpr.or items).Nullable ↔
      hasNull items = true ∨ ∃ t, alternatives items = [t] ∧ t.Nullable := by
  constructor
  · intro h
    cases h with
    | null hmem => exact .inl (hasNull_iff.mpr hmem)
    | single halt ht => exact .inr ⟨_, halt, ht⟩
  · rintro (hnull | ⟨t, halt, ht⟩)
    · exact .null (hasNull_iff.mp hnull)
    · exact .single halt ht

/-- A union with a form of its own has more than one item that is not null. -/
theorem nullable_or_iff_of_several {items : List TypeExpr} (h : unionForm items ≠ .single) :
    (TypeExpr.or items).Nullable ↔ hasNull items = true := by
  rw [nullable_or_iff]
  refine or_iff_left ?_
  rintro ⟨t, halt, -⟩
  exact h (by rw [unionForm, halt])

end TypeExpr

/-! ## Types and shapes -/

namespace MetaModel

variable {m : MetaModel} {documented : Bool} {given : String → Prop} {t : TypeExpr}
  {u : TargetType}

theorem Mapped.isOption_iff (h : m.Mapped given t u) : u.isOption = true ↔ t.Nullable := by
  induction t using TypeExpr.induct generalizing u with
  | step t ih =>
    cases h with
    | @nothing items halt =>
      have hunit : (TargetType.primitive .unit).isOption = false := rfl
      simp [TypeExpr.nullable_or_iff, halt, hunit]
    | @single items t u halt hu =>
      have ht : t ∈ items := (List.mem_filter.mp (halt ▸ List.mem_singleton_self t)).1
      simp [TypeExpr.nullable_or_iff, halt, ih t ht hu]
    | @limited items u hform =>
      have hu := (TypeExpr.shape_of_unionForm hform fun _ => none).2
      rw [TypeExpr.nullable_or_iff_of_several (by rw [hform]; nofun)]
      simp [hu]
    | @union items name hform _ =>
      have hname : (TargetType.symbol name).isOption = false := rfl
      rw [TypeExpr.nullable_or_iff_of_several (by rw [hform]; nofun)]
      simp [hname]
    | base | reference | array | map | tuple | stringLiteral | integerLiteral | booleanLiteral
    | intersection | literal => exact ⟨nofun, nofun⟩

theorem Mapped.undoubled (h : m.Mapped given t u) : u.Undoubled := by
  induction t using TypeExpr.induct generalizing u with
  | step t ih =>
    have leaf {u : TargetType} (hu : u.isOption = false) (hchildren : u.children = []) :
        u.Undoubled :=
      TargetType.undoubled_of_not_option hu fun c hc => by
        rw [hchildren] at hc
        cases hc
    cases h with
    | array hu =>
      refine TargetType.undoubled_of_not_option rfl fun c hc => ?_
      obtain rfl := List.mem_singleton.mp hc
      exact ih _ List.mem_cons_self hu
    | map hk hv =>
      refine TargetType.undoubled_of_not_option rfl (List.forall_mem_cons.mpr ⟨?_, ?_⟩)
      · exact ih _ List.mem_cons_self hk
      · exact List.forall_mem_singleton.mpr
          (ih _ (List.mem_cons_of_mem _ List.mem_cons_self) hv)
    | tuple hus =>
      refine TargetType.undoubled_of_not_option rfl fun c hc => ?_
      obtain ⟨t, ht, hc⟩ := exists_of_forall₂_right hus hc
      exact ih t ht hc
    | nothing _ => exact (leaf rfl rfl).optionalIf _
    | @single items t u halt hu =>
      have ht : t ∈ items := (List.mem_filter.mp (halt ▸ List.mem_singleton_self t)).1
      exact (ih t ht hu).optionalIf _
    | limited hform =>
      obtain ⟨v, vs, _, rfl⟩ := TypeExpr.exists_literals_of_unionForm hform
      exact (leaf rfl rfl).optionalIf _
    | union _ _ => exact (leaf rfl rfl).optionalIf _
    | base | reference | stringLiteral | integerLiteral | booleanLiteral | intersection | literal =>
      exact leaf rfl rfl

/-- Nothing is on the heap when it is mapped. -/
theorem Mapped.isBoxed (h : m.Mapped given t u) : u.isBoxed = false := by
  induction t using TypeExpr.induct generalizing u with
  | step t ih =>
    cases h with
    | nothing _ => exact TargetType.isBoxed_optionalIf rfl _
    | @single items t u halt hu =>
      have ht : t ∈ items := (List.mem_filter.mp (halt ▸ List.mem_singleton_self t)).1
      exact TargetType.isBoxed_optionalIf (ih t ht hu) _
    | limited hform =>
      obtain ⟨v, vs, _, rfl⟩ := TypeExpr.exists_literals_of_unionForm hform
      exact TargetType.isBoxed_optionalIf rfl _
    | union _ _ => exact TargetType.isBoxed_optionalIf rfl _
    | base | reference | array | map | tuple | stringLiteral | integerLiteral | booleanLiteral
    | intersection | literal => rfl

theorem Means.isOption_iff {s : Shape} (h : m.Means documented t s) :
    s.isOption = true ↔ t.Nullable := by
  induction t using TypeExpr.induct generalizing s with
  | step t ih =>
    cases h with
    | @or items s nullable hnull hchoice =>
      rw [TypeExpr.besidesNull_eq] at hchoice
      rw [TypeExpr.nullable_or_iff, Shape.isOption_optionalIf, Bool.or_eq_true, hnull,
        ← TypeExpr.hasNull_iff]
      refine or_congr_right ?_
      generalize halt : TypeExpr.alternatives items = ts at hchoice ⊢
      cases hchoice with
      | none => exact ⟨nofun, nofun⟩
      | @single t s ht =>
        have hmem : t ∈ items := (List.mem_filter.mp (halt ▸ List.mem_singleton_self t)).1
        simp [ih t hmem ht]
      | literals _ => exact ⟨nofun, nofun⟩
      | variants _ _ => exact ⟨nofun, nofun⟩
    | base | reference | array | map | tuple | stringLiteral | integerLiteral | booleanLiteral
    | and | literal => exact ⟨nofun, nofun⟩

/-! ## Types of declarations -/

variable {o : MappingOptions}

/-- A type as it was mapped, made optional or not. -/
def Taken (m : MetaModel) (v : TargetType) : Prop :=
  ∃ t u wanted, m.Mapped (Mapping.Given m.Place) t u ∧ v = u.optionalIf wanted

theorem Mapped.taken (h : m.Mapped (Mapping.Given m.Place) t u) : m.Taken u :=
  ⟨t, u, false, h, rfl⟩

theorem Taken.undoubled {v : TargetType} (h : m.Taken v) : v.Undoubled := by
  obtain ⟨t, u, wanted, hu, rfl⟩ := h
  exact hu.undoubled.optionalIf wanted

theorem Taken.isBoxed {v : TargetType} (h : m.Taken v) : v.isBoxed = false := by
  obtain ⟨t, u, wanted, hu, rfl⟩ := h
  exact TargetType.isBoxed_optionalIf hu.isBoxed wanted

theorem MappedField.taken {p : Property} {f : Field}
    (h : m.MappedField documented (Mapping.Given m.Place) p f) : m.Taken f.type := by
  obtain ⟨u, hu, rfl⟩ := h
  exact ⟨p.type, u, p.optional, hu, rfl⟩

theorem taken_of_mem_record (bases : List Base) (fields : List Field)
    (hbases : ∀ b ∈ bases, m.Taken b.type) (hfields : ∀ f ∈ fields, m.Taken f.type) :
    ∀ v ∈ (TypeSpec.record (Members.distinct ⟨bases, fields⟩).bases
      (Members.distinct ⟨bases, fields⟩).fields).types, m.Taken v := by
  intro v hv
  rw [TypeSpec.types, List.mem_append, Members.types_bases_distinct] at hv
  rcases hv with hv | hv
  · obtain ⟨b, hb, rfl⟩ := List.mem_map.mp hv
    exact hbases b hb
  · obtain ⟨f, hf, rfl⟩ := List.mem_map.mp hv
    obtain ⟨g, hg, heq⟩ := Members.exists_of_mem_fields_distinct hf
    exact heq ▸ hfields g hg

theorem taken_intersection {items : List TypeExpr} {us : List TargetType}
    (h : List.Forall₂ (m.Mapped (Mapping.Given m.Place)) items us) :
    ∀ v ∈ (MetaModel.intersection us).types, m.Taken v := by
  refine taken_of_mem_record _ [] (fun b hb => ?_) (fun f hf => by cases hf)
  obtain ⟨u, hu, rfl⟩ := List.mem_map.mp hb
  obtain ⟨t, -, ht⟩ := exists_of_forall₂_right h hu
  exact ht.taken

theorem taken_inlineRecord {ps : List Property} {fields : List Field}
    (h : List.Forall₂ (m.MappedField documented (Mapping.Given m.Place)) ps fields) :
    ∀ v ∈ (inlineRecord fields).types, m.Taken v := by
  refine taken_of_mem_record [] _ (fun b hb => by cases hb) (fun f hf => ?_)
  obtain ⟨p, -, hp⟩ := exists_of_forall₂_right h hf
  exact hp.taken

theorem MappedVariants.taken {taken : List String} {position : Nat} {ts : List TypeExpr}
    {vs : List Variant} (h : m.MappedVariants (Mapping.Given m.Place) taken position ts vs) :
    ∀ v ∈ vs, ∀ u, v.type = some u → m.Taken u := by
  intro v hv u hu
  obtain ⟨t, -, w, hw, ht⟩ := exists_of_forall₂_right h.types hv
  rw [hu] at hw
  cases hw
  exact ht.taken

theorem Made.taken {spec : TypeSpec} (h : m.Made documented (Mapping.Given m.Place) t spec) :
    ∀ v ∈ spec.types, m.Taken v := by
  cases h with
  | union _ hvs =>
    intro v hv
    obtain ⟨w, hw, hv⟩ := List.mem_filterMap.mp hv
    exact hvs.taken w hw v hv
  | intersection hus => exact taken_intersection hus
  | literal hfs => exact taken_inlineRecord hfs

theorem Stated.taken {spec : TypeSpec} (h : m.Stated documented (Mapping.Given m.Place) t spec) :
    ∀ v ∈ spec.types, m.Taken v := by
  cases h with
  | @union items vs _ hvs =>
    intro v hv
    obtain ⟨w, hw, hv⟩ := List.mem_filterMap.mp hv
    rcases List.mem_append.mp hw with hw | hw
    · exact hvs.taken w hw v hv
    · rw [nullVariant] at hw
      split at hw
      · obtain rfl := List.mem_singleton.mp hw
        cases hv
      · cases hw
  | intersection hus => exact taken_intersection hus
  | literal hfs => exact taken_inlineRecord hfs
  | synonym _ hu => exact List.forall_mem_singleton.mpr hu.taken

theorem Forms.taken {d : Declared} {spec : TypeSpec}
    (h : m.Forms o (Mapping.Given m.Place) d spec) : ∀ v ∈ spec.types, m.Taken v := by
  cases h with
  | struct hparts hfs =>
    refine taken_of_mem_record _ _ (fun b hb => ?_) (fun f hf => ?_)
    · obtain ⟨name, hname, rfl⟩ := List.mem_map.mp hb
      obtain ⟨p, hp⟩ := (parts_eq_ok hparts).2 name hname
      exact (Mapped.reference (mem_names.mpr ⟨_, hp⟩)).taken
    · obtain ⟨p, -, hp⟩ := exists_of_forall₂_right hfs hf
      exact hp.taken
  | enumeration _ => exact fun v hv => by cases hv
  | typeAlias hspec => exact hspec.taken

theorem Origin.taken {d : TypeDecl} (h : m.Origin o d) : ∀ v ∈ d.spec.types, m.Taken v := by
  obtain ⟨_, _, _, hforms⟩ | ⟨_, _, _, _, _, _, _, hmade⟩ := h
  · exact hforms.taken
  · exact hmade.taken

/-! ## Fields and their properties -/

end MetaModel

/-- A field that was made from a property, under whatever name: it is an optional type exactly when
the property may be absent or its type is nullable. -/
structure Property.Makes (documented : Bool) (p : Property) (f : Field) : Prop where
  wireName : f.wireName = p.name
  optional : f.optional = p.optional
  docs : f.docs = Docs.ofAnnotations documented p.annotations
  isOption : f.type.isOption = true ↔ p.optional = true ∨ p.type.Nullable

namespace Property

variable {documented : Bool}

theorem Makes.named {p : Property} {f : Field} (h : p.Makes documented f) (name : String) :
    p.Makes documented { f with ident := name } :=
  ⟨h.wireName, h.optional, h.docs, h.isOption⟩

theorem Makes.box {p : Property} {f : Field} (h : p.Makes documented f) (cycle : List String) :
    p.Makes documented { f with type := f.type.box cycle } :=
  ⟨h.wireName, h.optional, h.docs, by rw [TargetType.isOption_box]; exact h.isOption⟩

theorem makes_distinct {ps : List Property} {bases : List Base} {fields : List Field}
    (h : List.Forall₂ (Makes documented) ps fields) :
    List.Forall₂ (Makes documented) ps (Members.distinct ⟨bases, fields⟩).fields :=
  Members.forall₂_fields_distinct (m := ⟨bases, fields⟩) (fun _ _ name hf => hf.named name) h

theorem makes_box {ps : List Property} {fields : List Field}
    (h : List.Forall₂ (Makes documented) ps fields) (cycle : List String) :
    List.Forall₂ (Makes documented) ps
      (fields.map fun f => { f with type := f.type.box cycle }) :=
  List.forall₂_map_right_iff.mpr (h.imp fun _ _ hf => hf.box cycle)

end Property

namespace MetaModel

variable {m : MetaModel} {documented : Bool} {given : String → Prop} {o : MappingOptions}

theorem MappedField.makes {p : Property} {f : Field} (h : m.MappedField documented given p f) :
    p.Makes documented f := by
  obtain ⟨u, hu, rfl⟩ := h
  refine ⟨rfl, rfl, rfl, ?_⟩
  rw [Property.field, TargetType.isOption_optionalIf, Bool.or_eq_true, hu.isOption_iff]

theorem makes_of_mapped {ps : List Property} {fields : List Field} {bases : List Base}
    (h : List.Forall₂ (m.MappedField documented given) ps fields) :
    List.Forall₂ (Property.Makes documented) ps (Members.distinct ⟨bases, fields⟩).fields :=
  Property.makes_distinct (h.imp fun _ _ => MappedField.makes)

/-- The record for a structure is made from its own properties and those copied into it. -/
theorem Forms.makes_struct {s : Structure} {spec : TypeSpec}
    (h : m.Forms o given (.struct s) spec) :
    ∃ names properties bases fields, m.parts o.flattenBases s = .ok (names, properties) ∧
      spec = .record bases fields ∧
      List.Forall₂ (Property.Makes o.documented) (properties.map (·.property)) fields := by
  cases h with
  | struct hparts hfs =>
    exact ⟨_, _, _, _, hparts, rfl, makes_of_mapped (List.forall₂_map_left_iff.mpr hfs)⟩

theorem Forms.makes_literal {a : TypeAlias} {l : StructLiteral} {spec : TypeSpec}
    (h : m.Forms o given (.typeAlias a) spec) (ha : a.type = .literal l) :
    ∃ fields, spec = .record [] fields ∧
      List.Forall₂ (Property.Makes o.documented) l.properties fields := by
  cases h with
  | typeAlias hspec =>
    rw [ha] at hspec
    cases hspec with
    | literal hfs => exact ⟨_, rfl, makes_of_mapped hfs⟩
    | synonym hform _ => cases hform

theorem Forms.exists_makes {d : Declared} {spec : TypeSpec} (h : m.Forms o given d spec)
    {bases : List Base} {fields : List Field} (hspec : spec = .record bases fields) :
    ∃ ps, List.Forall₂ (Property.Makes o.documented) ps fields := by
  cases h with
  | struct _ hfs =>
    cases hspec
    exact ⟨_, makes_of_mapped (List.forall₂_map_left_iff.mpr hfs)⟩
  | enumeration _ => cases hspec
  | @typeAlias a _ hstated =>
    generalize a.type = t at hstated
    cases hstated with
    | union _ _ | synonym _ _ => cases hspec
    | intersection _ =>
      cases hspec
      exact ⟨[], .nil⟩
    | literal hfs =>
      cases hspec
      exact ⟨_, makes_of_mapped hfs⟩

/-- A record made for a type without a name has bases only or the fields of an inline structure. -/
theorem Made.makes {t : TypeExpr} {spec : TypeSpec} (h : m.Made documented given t spec)
    {bases : List Base} {fields : List Field} (hspec : spec = .record bases fields) :
    (∃ items, t = .and items ∧ fields = []) ∨
      ∃ l, t = .literal l ∧ List.Forall₂ (Property.Makes documented) l.properties fields := by
  cases h with
  | union _ _ => cases hspec
  | intersection _ =>
    cases hspec
    exact .inl ⟨_, rfl, rfl⟩
  | literal hfs =>
    cases hspec
    exact .inr ⟨_, rfl, makes_of_mapped hfs⟩

/-- Fields that look like the meaning of properties, and are optional as their shapes are, are
those for the properties. -/
theorem makes_of_outlines {μ : Meaning} {ps : List Property} {ss : List Shape}
    (hss : List.Forall₂ (m.Means documented) (ps.map (·.type)) ss) {fields : List Field}
    (hoption : ∀ f ∈ fields, ∀ s, f.type.shape μ = some s → f.type.isOption = s.isOption)
    (hfs : List.Forall₂ (fun f g => f.outline μ = some g) fields
      ((List.zipWith (Property.fieldShape documented) ps ss).map FieldShape.outline)) :
    List.Forall₂ (Property.Makes documented) ps fields := by
  induction ps generalizing ss fields with
  | nil =>
    cases hss
    cases hfs
    exact .nil
  | cons p ps ih =>
    cases hss with
    | @cons _ s _ ss hs hss =>
    cases hfs with
    | @cons f _ fields _ hf hfs =>
    refine .cons ?_ (ih hss (fun g hg => hoption g (List.mem_cons_of_mem _ hg)) hfs)
    obtain ⟨u, hu, heq⟩ := Option.map_eq_some_iff.mp hf
    rw [FieldShape.outline, Property.fieldShape, Outline.mk.injEq] at heq
    obtain ⟨hwire, rfl, hoptional, hdocs⟩ := heq
    refine ⟨hwire, hoptional, hdocs.trans (Docs.ofAnnotations_eq _ _).symm, ?_⟩
    rw [hoption f List.mem_cons_self _ hu, Shape.isOption_optionalIf, Bool.or_eq_true,
      hs.isOption_iff]

/-! ## Records of the output -/

namespace Generated

variable {m : MetaModel} {o : MappingOptions} {ds : List Decl} {set : DeclSet}
  {ps : List (Declared × Shape)} {r : Registry} {dss : List (List Decl)} {t : TypeDecl}

theorem undoubled (h : Generated m o ds set ps r dss) (ht : .type t ∈ ds) :
    ∀ v ∈ t.spec.types, v.Undoubled := by
  intro v hv
  obtain ⟨u, g, rfl, horigin⟩ := h.origin ht
  obtain ⟨w, hw, rfl | rfl⟩ := TypeSpec.exists_of_mem_types_box hv
  · exact (horigin.taken w hw).undoubled.box _
  · exact (horigin.taken v hw).undoubled

/-- The declaration under a name of the model has a form of that name. -/
theorem forms_of_ident (h : Generated m o ds set ps r dss) (ht : .type t ∈ ds) {d : Declared}
    (hd : d ∈ m.primaries) (hident : t.ident = d.name) :
    ∃ spec cycle, t.spec = spec.box cycle ∧ m.Forms o (Mapping.Given m.Place) d spec := by
  obtain ⟨u, g, rfl, ⟨d', hd', hname, hforms⟩ | ⟨hfresh, _⟩⟩ := h.origin ht
  · have hsame : d'.name = d.name := hname.symm.trans hident
    have hfind := mem_primaries.mp hd'
    rw [hsame, mem_primaries.mp hd, Option.some.injEq] at hfind
    exact ⟨u.spec, _, rfl, hfind ▸ hforms⟩
  · exact absurd (List.mem_map.mpr ⟨d, hd, hident.symm⟩) hfresh

theorem makes_struct (h : Generated m o ds set ps r dss) (ht : .type t ∈ ds) {s : Structure}
    (hs : .struct s ∈ m.primaries) (hident : t.ident = s.name) :
    ∃ names properties bases fields, m.parts o.flattenBases s = .ok (names, properties) ∧
      t.spec = .record bases fields ∧
      List.Forall₂ (Property.Makes o.documented) (properties.map (·.property)) fields := by
  obtain ⟨spec, cycle, hspec, hforms⟩ := h.forms_of_ident ht hs hident
  obtain ⟨names, properties, bases, fields, hparts, rfl, hfs⟩ := hforms.makes_struct
  exact ⟨names, properties, _, _, hparts, hspec, Property.makes_box hfs cycle⟩

theorem makes_literal (h : Generated m o ds set ps r dss) (ht : .type t ∈ ds) {a : TypeAlias}
    (ha : .typeAlias a ∈ m.primaries) (hident : t.ident = a.name) {l : StructLiteral}
    (hl : a.type = .literal l) :
    ∃ fields, t.spec = .record [] fields ∧
      List.Forall₂ (Property.Makes o.documented) l.properties fields := by
  obtain ⟨spec, cycle, hspec, hforms⟩ := h.forms_of_ident ht ha hident
  obtain ⟨fields, rfl, hfs⟩ := hforms.makes_literal hl
  exact ⟨_, hspec, Property.makes_box hfs cycle⟩

/-- A record under a new name was made for an intersection or an inline structure at a place. -/
theorem makes_synthesized (h : Generated m o ds set ps r dss) (ht : .type t ∈ ds)
    (hfresh : t.ident ∉ m.names) {bases : List Base} {fields : List Field}
    (hspec : t.spec = .record bases fields) :
    (∃ hint items, m.Place hint (.and items) ∧ fields = []) ∨
      ∃ hint l, m.Place hint (.literal l) ∧
        List.Forall₂ (Property.Makes o.documented) l.properties fields := by
  obtain ⟨u, g, rfl, ⟨d, hd, hname, _⟩ | ⟨_, hint, t, _, hplace, _, _, hmade⟩⟩ := h.origin ht
  · exact absurd (List.mem_map.mpr ⟨d, hd, hname.symm⟩) hfresh
  · obtain ⟨bs, fs, hu, rfl, rfl⟩ := TypeSpec.exists_record_of_box hspec
    obtain ⟨items, rfl, rfl⟩ | ⟨l, rfl, hfs⟩ := hmade.makes hu
    · exact .inl ⟨hint, items, hplace, rfl⟩
    · exact .inr ⟨hint, l, hplace, Property.makes_box hfs _⟩

/-- No name stands for an optional shape. -/
theorem isOption_meaning (h : Generated m o ds set ps r dss) {name : String} {s : Shape}
    (hs : m.meaning ds name = some s) : s.isOption = false := by
  rw [meaning] at hs
  by_cases hname : name ∈ m.names
  · rw [meaningIn_of_mem hname] at hs
    cases hs
    rfl
  · cases hlen : ds.length with
    | zero =>
      rw [hlen, meaningIn, if_neg (by simpa using hname)] at hs
      cases hs
    | succ depth =>
      rw [hlen, meaningIn_succ hname] at hs
      obtain ⟨d, hd, hshape⟩ := Option.bind_eq_some_iff.mp hs
      obtain ⟨hmem, rfl⟩ := declared?_eq_some hd
      obtain hin | ⟨u, hu, rfl⟩ := h.type_cases (mem_typeDecls.mp hmem)
      · exact absurd hin hname
      · have hcomposite := h.collected.fits.wellFormed.composite u hu
        rw [← TypeSpec.isComposite_box] at hcomposite
        exact Shape.isOption_of_composite (TypeSpec.isComposite_shape hcomposite hshape)

/-- A type in the output is optional as its shape is. -/
theorem isOption_of_shape (h : Generated m o ds set ps r dss) (ht : .type t ∈ ds) {v : TargetType}
    (hv : v ∈ t.spec.types) {s : Shape} (hs : v.shape (m.meaning ds) = some s) :
    v.isOption = s.isOption := by
  obtain ⟨u, g, rfl, horigin⟩ := h.origin ht
  have hμ := fun name s => @isOption_meaning m o ds set ps r dss h name s
  obtain ⟨w, hw, rfl | rfl⟩ := TypeSpec.exists_of_mem_types_box hv
  · rw [TargetType.shape_box] at hs
    rw [TargetType.isOption_box]
    exact TargetType.isOption_of_shape hμ (horigin.taken w hw).isBoxed hs
  · exact TargetType.isOption_of_shape hμ (horigin.taken v hw).isBoxed hs

/-- Whatever inline structure a record means, its fields are those for the properties. -/
theorem makes_of_means (h : Generated m o ds set ps r dss) (ht : .type t ∈ ds) {bases : List Base}
    {fields : List Field} (hspec : t.spec = .record bases fields) {l : StructLiteral} {s : Shape}
    (hl : m.Means o.documented (.literal l) s) (hs : t.spec.shape (m.meaning ds) = some s) :
    List.Forall₂ (Property.Makes o.documented) l.properties fields := by
  cases hl with
  | literal hss =>
    simp only [hspec, TypeSpec.shape, Option.pure_def, Option.bind_eq_bind,
      Option.bind_eq_some_iff] at hs
    obtain ⟨_, -, fs, hfs, heq⟩ := hs
    cases heq
    have houtlines := Field.mapM_outline hfs
    rw [FieldShape.map_outline_named (by rw [Members.length_fieldNames, List.length_map]),
      mapM_eq_some_iff] at houtlines
    refine makes_of_outlines hss (fun f hf s hs => h.isOption_of_shape ht ?_ hs) houtlines
    rw [hspec]
    exact List.mem_append_right _ (List.mem_map_of_mem hf)

/-- Every field of a record was made from a property. -/
theorem exists_makes (h : Generated m o ds set ps r dss) (ht : .type t ∈ ds) {bases : List Base}
    {fields : List Field} (hspec : t.spec = .record bases fields) :
    ∃ ps, List.Forall₂ (Property.Makes o.documented) ps fields := by
  obtain ⟨u, g, rfl, horigin⟩ := h.origin ht
  obtain ⟨bs, fs, hu, rfl, rfl⟩ := TypeSpec.exists_record_of_box hspec
  suffices hmakes : ∃ ps, List.Forall₂ (Property.Makes o.documented) ps fs by
    obtain ⟨ps, hps⟩ := hmakes
    exact ⟨ps, Property.makes_box hps _⟩
  obtain ⟨d, _, _, hforms⟩ | ⟨_, _, _, _, _, _, _, hmade⟩ := horigin
  · exact hforms.exists_makes hu
  · obtain ⟨_, _, rfl⟩ | ⟨l, _, hfs⟩ := hmade.makes hu
    · exact ⟨[], .nil⟩
    · exact ⟨l.properties, hfs⟩

theorem isOption_of_optional (h : Generated m o ds set ps r dss) (ht : .type t ∈ ds)
    {bases : List Base} {fields : List Field} (hspec : t.spec = .record bases fields) {f : Field}
    (hf : f ∈ fields) (hoptional : f.optional = true) : f.type.isOption = true := by
  obtain ⟨ps, hps⟩ := h.exists_makes ht hspec
  obtain ⟨p, _, hp⟩ := exists_of_forall₂_right hps hf
  exact hp.isOption.mpr (.inl (hp.optional ▸ hoptional))

end Generated
end MetaModel

/-! ## Rendered fields -/

namespace Source

/-- The mark of a field that is left out of a message where it has no value. -/
def skipAbsent : Attribute :=
  .list "serde" [.text "default", .text "skip_serializing_if = \"Option::is_none\""]

theorem absence_eq (f : Field) :
    absence f = if f.optional && f.type.isOption then [skipAbsent] else [] := by
  have htext : "skip_serializing_if" ++ " = " ++ Text.Quoted.literal "Option::is_none" =
      "skip_serializing_if = \"Option::is_none\"" := by decide +kernel
  rw [absence, setting, htext]
  rfl

/-- No other attribute of a field is the mark. -/
theorem skipAbsent_mem_iff {f : Field} {member : Member} (h : field f = .ok member) :
    skipAbsent ∈ member.attributes ↔ f.optional = true ∧ f.type.isOption = true := by
  rw [field] at h
  obtain ⟨name, _, h⟩ := bind_eq_ok.mp h
  obtain ⟨t, _, h⟩ := bind_eq_ok.mp h
  cases h
  have hdocs : skipAbsent ∉ documentation (fieldDocs f) := by
    intro hmem
    rcases List.mem_append.mp hmem with hmem | hmem
    · obtain ⟨line, _, hline⟩ := List.mem_map.mp hmem
      cases hline
    · split at hmem
      · have hname := (Attribute.list.inj (List.mem_singleton.mp hmem)).1
        exact absurd hname (by decide)
      · cases hmem
  have hrename : skipAbsent ≠ codec [setting "rename" f.wireName] := by
    intro heq
    have harguments : 2 = 1 := congrArg List.length (Attribute.list.inj heq).2
    omega
  rw [List.mem_append, List.mem_cons, absence_eq, or_iff_right hdocs, or_iff_right hrename]
  cases f.optional <;> cases f.type.isOption <;> simp

/-- The item of a record has the members of its fields behind those of its bases. -/
theorem members_of_typeItem {t : TypeDecl} {bases : List Base} {fields : List Field}
    (hspec : t.spec = .record bases fields) {item : Item} (h : typeItem t = .ok item) :
    ∃ attributes head inherited members, item = .braced attributes head (inherited ++ members) ∧
      List.Forall₂ (fun f member => field f = .ok member) fields members := by
  rw [typeItem] at h
  obtain ⟨name, _, h⟩ := bind_eq_ok.mp h
  rw [hspec] at h
  obtain ⟨inherited, _, h⟩ := bind_eq_ok.mp h
  obtain ⟨members, hmembers, h⟩ := bind_eq_ok.mp h
  cases h
  exact ⟨_, _, inherited, members, rfl, mapM_eq_ok_iff.mp hmembers⟩

end Source

/-! ## The output -/

namespace MetaModel

/-- Which types among the declarations of a model are optional. -/
structure Optionality (m : MetaModel) (o : MappingOptions) (ds : List Decl) : Prop where
  /-- No optional type is optional twice, at any depth. -/
  undoubled : ∀ t, .type t ∈ ds → ∀ v ∈ t.spec.types, v.Undoubled
  /-- The record for a structure is made from its own properties and those copied into it. -/
  struct : ∀ s, m.Indexes (.struct s) → ∀ t, .type t ∈ ds → t.ident = s.name →
    ∃ names properties bases fields, m.parts o.flattenBases s = .ok (names, properties) ∧
      t.spec = .record bases fields ∧
      List.Forall₂ (Property.Makes o.documented) (properties.map (·.property)) fields
  /-- The record for an inline structure that has a name. -/
  literal : ∀ a, m.Indexes (.typeAlias a) → ∀ l, a.type = .literal l →
    ∀ t, .type t ∈ ds → t.ident = a.name → ∃ fields, t.spec = .record [] fields ∧
      List.Forall₂ (Property.Makes o.documented) l.properties fields
  /-- A record that means an inline structure, also one that several of them share. -/
  inline : ∀ l s, m.Means o.documented (.literal l) s → ∀ t, .type t ∈ ds →
    t.spec.shape (m.meaning ds) = some s → ∀ bases fields, t.spec = .record bases fields →
      List.Forall₂ (Property.Makes o.documented) l.properties fields
  /-- A record under a new name was made where an intersection or an inline structure stands. -/
  synthesized : ∀ t, .type t ∈ ds → t.ident ∉ m.names →
    ∀ bases fields, t.spec = .record bases fields →
      (∃ hint items, m.Place hint (.and items) ∧ fields = []) ∨
        ∃ hint l, m.Place hint (.literal l) ∧
          List.Forall₂ (Property.Makes o.documented) l.properties fields
  flagged : ∀ t, .type t ∈ ds → ∀ bases fields, t.spec = .record bases fields →
    ∀ f ∈ fields, f.optional = true → f.type.isOption = true
  rendered : ∀ t, .type t ∈ ds → ∀ bases fields, t.spec = .record bases fields →
    ∀ item, Source.typeItem t = .ok item → ∃ attributes head inherited members,
      item = .braced attributes head (inherited ++ members) ∧
      List.Forall₂ (fun f member => Source.field f = .ok member ∧
        (Source.skipAbsent ∈ member.attributes ↔ f.optional = true)) fields members

variable {m : MetaModel} {o : MappingOptions}

theorem targetDecls_optionality {ds : List Decl} (h : m.targetDecls o = .ok ds) :
    m.Optionality o ds := by
  obtain ⟨set, ps, r, dss, hg⟩ := generated_of_targetDecls h
  refine ⟨fun t ht => hg.undoubled ht, ?struct, ?literal, ?inline, ?synthesized, ?flagged,
    ?rendered⟩
  case struct =>
    intro s hs t ht hident
    exact hg.makes_struct ht (indexes_iff.mp hs) hident
  case literal =>
    intro a ha l hl t ht hident
    exact hg.makes_literal ht (indexes_iff.mp ha) hident hl
  case inline =>
    intro l s hl t ht hs bases fields hspec
    exact hg.makes_of_means ht hspec hl hs
  case synthesized =>
    intro t ht hfresh bases fields hspec
    exact hg.makes_synthesized ht hfresh hspec
  case flagged =>
    intro t ht bases fields hspec f hf
    exact hg.isOption_of_optional ht hspec hf
  case rendered =>
    intro t ht bases fields hspec item hitem
    obtain ⟨attributes, head, inherited, members, rfl, hmembers⟩ :=
      Source.members_of_typeItem hspec hitem
    refine ⟨attributes, head, inherited, members, rfl, ?_⟩
    rw [List.forall₂_iff_get] at hmembers ⊢
    refine ⟨hmembers.1, fun i hi hi' => ⟨hmembers.2 i hi hi', ?_⟩⟩
    rw [Source.skipAbsent_mem_iff (hmembers.2 i hi hi'), and_iff_left_iff_imp]
    exact hg.isOption_of_optional ht hspec (List.get_mem _ _)

/-- Null in a union within a union, behind a flag, in front of a cycle, and below a list. -/
def notes : MetaModel where
  version := "1"
  requests := []
  notifications := []
  structures := [⟨"Note", [
    ⟨"text", .or [.or [.base "string", .base "null"]], false, {}⟩,
    ⟨"parent", .or [.reference "Note", .base "null"], true, {}⟩,
    ⟨"author", .literal ⟨[
      ⟨"name", .base "string", true, {}⟩,
      ⟨"marks", .array (.or [.base "uinteger", .base "null"]), false, {}⟩], {}⟩, true, {}⟩],
    [], [], {}⟩]
  enumerations := []
  typeAliases := []

def notesDecls : List Decl := [
  .type ⟨"Note", {}, .record [] [
    ⟨"text", "text", .option (.primitive .string), false, {}⟩,
    ⟨"parent", "parent", .option (.boxed (.symbol "Note")), true, {}⟩,
    ⟨"author", "author", .option (.symbol "NoteAuthor"), true, {}⟩]⟩,
  .type ⟨"NoteAuthor", {}, .record [] [
    ⟨"name", "name", .option (.primitive .string), true, {}⟩,
    ⟨"marks", "marks", .list (.option (.primitive .uint32)), false, {}⟩]⟩]

theorem notes_optionality :
    notes.targetDecls {} = .ok notesDecls ∧ notes.Optionality {} notesDecls := by
  have hdecls : notes.targetDecls {} = .ok notesDecls := targetDecls_of_collect (by decide +kernel)
  exact ⟨hdecls, targetDecls_optionality hdecls⟩

end MetaModel
end ProtocolTypes
