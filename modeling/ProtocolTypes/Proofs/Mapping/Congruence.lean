import ProtocolTypes.Proofs.Mapping.Reordering
import ProtocolTypes.Proofs.Model.Annotations

/-!
# ProtocolTypes.Proofs.Mapping.Congruence

What mapping does not read. Of a model it reads what names stand for, and of annotations only what
documentation is made of (`mapDeclared_congr`); errors are the same as well. So where documentation
is not wanted, models that differ in documentation only give the same source, or the same error
(`generate_eq_of_undocumented_eq`).
-/

namespace ProtocolTypes

open Target

/-- Only the deprecation notice remains. -/
def Annotations.undocumented (a : Annotations) : Annotations :=
  { deprecated := a.deprecated }

namespace MetaModel

variable {m m' : MetaModel} {documented : Bool} {f : Annotations → Annotations}

/-! ## Types -/

section Parts

variable (f : Annotations → Annotations)

theorem numbered_mapAnnotations (hint : String) (position : Nat) (ts : List TypeExpr) :
    TypeExpr.numbered hint position (ts.map (TypeExpr.mapAnnotations f)) =
      (TypeExpr.numbered hint position ts).map (Prod.map id (TypeExpr.mapAnnotations f)) := by
  induction ts generalizing position with
  | nil => rfl
  | cons t ts ih =>
    rw [List.map_cons, TypeExpr.numbered, TypeExpr.numbered, List.map_cons, ih]
    rfl

theorem variantIdents_mapAnnotations (taken : List String) (position : Nat)
    (ts : List TypeExpr) :
    TypeExpr.variantIdents taken position (ts.map (TypeExpr.mapAnnotations f)) =
      TypeExpr.variantIdents taken position ts := by
  induction ts generalizing taken position with
  | nil => rfl
  | cons t ts ih =>
    rw [List.map_cons, TypeExpr.variantIdents, TypeExpr.variantIdents]
    simp only [TypeExpr.variantIdent_mapAnnotations, ih]

theorem named_mapAnnotations (hint : String) (taken : List String) (position : Nat)
    (ts : List TypeExpr) :
    TypeExpr.named hint taken position (ts.map (TypeExpr.mapAnnotations f)) =
      (TypeExpr.named hint taken position ts).map
        (Prod.map id (TypeExpr.mapAnnotations f)) := by
  rw [TypeExpr.named, TypeExpr.named, variantIdents_mapAnnotations, List.zip_map_right,
    List.map_map, List.map_map]
  rfl

/-- The same names are asked for. -/
theorem parts_mapAnnotations (hint : String) (t : TypeExpr) :
    (t.mapAnnotations f).parts hint =
      (t.parts hint).map (Prod.map id (TypeExpr.mapAnnotations f)) := by
  cases t with
  | tuple items | and items =>
    rw [TypeExpr.mapAnnotations, TypeExpr.mapAllAnnotations_eq, TypeExpr.parts, TypeExpr.parts,
      numbered_mapAnnotations]
  | or items =>
    rw [TypeExpr.mapAnnotations, TypeExpr.parts, TypeExpr.parts, TypeExpr.unionForm_mapAnnotations,
      TypeExpr.mapAllAnnotations_eq, TypeExpr.alternatives_mapAnnotations]
    cases TypeExpr.unionForm items with
    | single =>
      rw [List.map_map, List.map_map]
      rfl
    | literals _ => rfl
    | variants => exact named_mapAnnotations f hint [] 0 _
  | literal l =>
    obtain ⟨properties, annotations⟩ := l
    rw [TypeExpr.mapAnnotations, StructLiteral.mapAnnotations, Property.mapAllAnnotations_eq,
      TypeExpr.parts, TypeExpr.parts, List.map_map, List.map_map]
    refine List.map_congr_left fun p _ => ?_
    cases p
    rfl
  | _ => rfl

end Parts

section Types

variable {context : String} (hsymbol : m'.symbol = m.symbol)
  (hf : ∀ a, Docs.ofAnnotations documented (f a) = Docs.ofAnnotations documented a)

include hf

theorem field_mapAnnotations (p : Property) :
    (p.mapAnnotations f).field documented = p.field documented := by
  obtain ⟨name, type, optional, annotations⟩ := p
  funext u
  rw [Property.mapAnnotations, Property.field, Property.field, hf]

include hsymbol

theorem outcome_congr (us : List TargetType) (t : TypeExpr) :
    m'.outcome documented context us (t.mapAnnotations f) =
      m.outcome documented context us t := by
  cases t with
  | reference name => rw [TypeExpr.mapAnnotations, outcome, outcome, hsymbol]
  | or items =>
    rw [TypeExpr.mapAnnotations, outcome, outcome, TypeExpr.unionForm_mapAnnotations,
      TypeExpr.hasNull_mapAnnotations, TypeExpr.mapAllAnnotations_eq,
      TypeExpr.alternatives_mapAnnotations, variantIdents_mapAnnotations]
  | literal l =>
    obtain ⟨properties, annotations⟩ := l
    rw [TypeExpr.mapAnnotations, StructLiteral.mapAnnotations, Property.mapAllAnnotations_eq,
      outcome, outcome, List.zipWith_map_left, funext (field_mapAnnotations hf)]
  | _ => rfl

theorem mapType_congr (hint : String) (t : TypeExpr) :
    m'.mapType documented context hint (t.mapAnnotations f) =
      m.mapType documented context hint t := by
  induction t using TypeExpr.induct generalizing hint with
  | step t ih =>
    have hpart : ∀ p ∈ t.parts hint,
        (m'.mapPart documented context ∘ Prod.map id (TypeExpr.mapAnnotations f)) p =
          m.mapPart documented context p :=
      fun p hp => ih p.2 (TypeExpr.mem_children_of_mem_parts hp) p.1
    rw [mapType_eq, mapType_eq, parts_mapAnnotations, List.mapM_map, mapM_congr_mem hpart]
    simp only [outcome_congr hsymbol hf]

theorem mapProperty_congr (owner : String) (p : Property) :
    m'.mapProperty documented context owner (p.mapAnnotations f) =
      m.mapProperty documented context owner p := by
  rw [mapProperty_eq, mapProperty_eq, field_mapAnnotations hf, ← mapType_congr hsymbol hf]
  obtain ⟨name, type, optional, annotations⟩ := p
  rfl

theorem mapSpec_congr (name : String) (t : TypeExpr) :
    m'.mapSpec documented name (t.mapAnnotations f) = m.mapSpec documented name t := by
  have hpart : ∀ p ∈ t.parts name,
      (m'.mapPart documented name ∘ Prod.map id (TypeExpr.mapAnnotations f)) p =
        m.mapPart documented name p :=
    fun p _ => mapType_congr hsymbol hf p.1 p.2
  rw [mapSpec_eq, mapSpec_eq, parts_mapAnnotations, List.mapM_map, mapM_congr_mem hpart]
  simp only [outcome_congr hsymbol hf]

end Types

/-! ## Declarations -/

theorem mapStructure_congr {o : MappingOptions} (hsymbol : m'.symbol = m.symbol)
    (hf : ∀ a, Docs.ofAnnotations o.documented (f a) = Docs.ofAnnotations o.documented a)
    {s : Structure} (hparts : m'.recordParts o.flattenBases (s.mapAnnotations f) =
      Prod.map id (List.map (OwnedProperty.mapAnnotations f)) <$>
        m.recordParts o.flattenBases s) :
    m'.mapStructure o (s.mapAnnotations f) = m.mapStructure o s := by
  have hfields : ∀ ps : List OwnedProperty,
      (ps.map (OwnedProperty.mapAnnotations f)).mapM (fun p =>
        m'.mapProperty o.documented s.name p.owner p.property) =
      ps.mapM fun p => m.mapProperty o.documented s.name p.owner p.property := by
    intro ps
    rw [List.mapM_map]
    exact congrArg ps.mapM (funext fun p => mapProperty_congr hsymbol hf p.owner p.property)
  have hname : (s.mapAnnotations f).name = s.name := rfl
  have hdocs : Docs.ofAnnotations o.documented (s.mapAnnotations f).annotations =
      Docs.ofAnnotations o.documented s.annotations := hf _
  rw [mapStructure, mapStructure, hparts]
  cases m.recordParts o.flattenBases s with
  | error e => rfl
  | ok parts =>
    obtain ⟨bases, properties⟩ := parts
    have hmapped : Prod.map id (List.map (OwnedProperty.mapAnnotations f)) <$>
        (Except.ok (bases, properties) : Except ReferenceError _) =
        .ok (bases, properties.map (OwnedProperty.mapAnnotations f)) := rfl
    rw [hmapped]
    simp only [Mapping.ofResolution, pure_bind, hname, hdocs, hfields]

theorem declare_mapAnnotations
    (hf : ∀ a, Docs.ofAnnotations documented (f a) = Docs.ofAnnotations documented a)
    (e : Enumeration) : (e.mapAnnotations f).declare documented = e.declare documented := by
  have hbase := e.baseName_mapAnnotations f
  have hentries : ∀ carrier,
      (e.mapAnnotations f).values.mapM ((e.mapAnnotations f).mapEntry documented carrier) =
        e.values.mapM (e.mapEntry documented carrier) := by
    intro carrier
    have hvalues : (e.mapAnnotations f).values =
        e.values.map (EnumerationEntry.mapAnnotations f) := rfl
    rw [hvalues, List.mapM_map]
    refine congrArg e.values.mapM (funext fun entry => ?_)
    rw [Function.comp_apply, Enumeration.mapEntry, Enumeration.mapEntry, hbase,
      EnumerationEntry.mapAnnotations, hf]
    rfl
  have hdocs : Docs.ofAnnotations documented (e.mapAnnotations f).annotations =
      Docs.ofAnnotations documented e.annotations := hf _
  rw [Enumeration.declare, Enumeration.declare, hbase]
  simp only [hentries, hdocs]
  rfl

/-- Two models in which names stand for the same give the same declarations for a name, when the
properties of its structure differ in annotations that are not read. -/
theorem mapDeclared_congr {o : MappingOptions} (hsymbol : m'.symbol = m.symbol)
    (hf : ∀ a, Docs.ofAnnotations o.documented (f a) = Docs.ofAnnotations o.documented a)
    {d : Declared} (hparts : ∀ s, d = .struct s →
      m'.recordParts o.flattenBases (s.mapAnnotations f) =
        Prod.map id (List.map (OwnedProperty.mapAnnotations f)) <$>
          m.recordParts o.flattenBases s) :
    m'.mapDeclared o (d.mapAnnotations f) = m.mapDeclared o d := by
  cases d with
  | struct s =>
    rw [Declared.mapAnnotations, mapDeclared, mapDeclared,
      mapStructure_congr hsymbol hf (hparts s rfl)]
  | enumeration e =>
    rw [Declared.mapAnnotations, mapDeclared, mapDeclared, declare_mapAnnotations hf]
  | typeAlias a =>
    have hspec := mapSpec_congr hsymbol hf a.name a.type
    rw [Declared.mapAnnotations, mapDeclared, mapDeclared, mapAlias, mapAlias, declare, declare]
    simp only [TypeAlias.mapAnnotations, hspec, hf]

/-! ## Other annotations -/

theorem symbol_mapAnnotations (f : Annotations → Annotations) (m : MetaModel) :
    (m.mapAnnotations f).symbol = m.symbol := by
  funext name context
  rw [symbol, symbol, resolve_mapAnnotations]
  cases m.resolve name context <;> rfl

theorem recordParts_mapAnnotations (f : Annotations → Annotations) (m : MetaModel)
    (flattenBases : Bool) (s : Structure) :
    (m.mapAnnotations f).recordParts flattenBases (s.mapAnnotations f) =
      Prod.map id (List.map (OwnedProperty.mapAnnotations f)) <$>
        m.recordParts flattenBases s := by
  have hbound : (m.mapAnnotations f).chainBound = m.chainBound := by
    rw [chainBound, chainBound, mapAnnotations, List.length_map]
  have hname : (s.mapAnnotations f).name = s.name := rfl
  have hall : (m.mapAnnotations f).flatten (s.mapAnnotations f) =
      List.map (OwnedProperty.mapAnnotations f) <$> m.flatten s := by
    rw [flatten, flatten, hbound, flattenFrom_mapAnnotations]
  have hbases : (m.mapAnnotations f).baseNames (s.mapAnnotations f) =
      List.map id <$> m.baseNames s :=
    visitParents_mapAnnotations f m (fun _ => rfl) s .base
  have hmixins : (m.mapAnnotations f).flattenMixins (s.mapAnnotations f) =
      List.map (OwnedProperty.mapAnnotations f) <$> m.flattenMixins s := by
    rw [flattenMixins, flattenMixins, hbound, hname,
      visitParents_mapAnnotations f m (flattenFrom_mapAnnotations f m _ _) s .mixin]
    cases m.visitParents (m.flattenFrom m.chainBound [s.name]) s .mixin with
    | error e => rfl
    | ok mixins => exact congrArg Except.ok List.map_flatten.symm
  rw [recordParts, recordParts, hall, hbases, hmixins, ownProperties_mapAnnotations]
  cases m.flatten s with
  | error e => rfl
  | ok all =>
    cases flattenBases with
    | true => rfl
    | false =>
      cases m.baseNames s with
      | error e => rfl
      | ok names =>
        cases m.flattenMixins s with
        | error e => rfl
        | ok mixed =>
          refine congrArg Except.ok ?_
          simp only [Prod.map_apply, List.map_append, List.map_id, id_eq]

/-- The source, or the error, is the same with other annotations that give the same
documentation. -/
theorem generate_mapAnnotations (m : MetaModel) {o : Options}
    (hf : ∀ a, Docs.ofAnnotations o.documented (f a) = Docs.ofAnnotations o.documented a) :
    (m.mapAnnotations f).generate o = m.generate o := by
  have hdeclared : (m.mapAnnotations f).mapDeclared o.toMappingOptions ∘ Declared.mapAnnotations f =
      m.mapDeclared o.toMappingOptions :=
    funext fun d => mapDeclared_congr (symbol_mapAnnotations f m) hf fun s _ =>
      recordParts_mapAnnotations f m o.flattenBases s
  have hprimaries : (m.mapAnnotations f).mapPrimaries o.toMappingOptions =
      m.mapPrimaries o.toMappingOptions := by
    rw [mapPrimaries, mapPrimaries, primaries_mapAnnotations, List.mapM_map, hdeclared]
  rw [generate, generate, targetDecls, targetDecls, collect, collect, hprimaries,
    names_mapAnnotations]
  rfl

/-! ## No documentation -/

/-- The model without documentation, versions and proposal marks. -/
def undocumented (m : MetaModel) : MetaModel :=
  m.mapAnnotations Annotations.undocumented

/-- Models that agree without documentation give the same source, or the same error, where
documentation is not wanted. -/
theorem generate_eq_of_undocumented_eq {m m' : MetaModel} (h : m.undocumented = m'.undocumented)
    (flattenBases : Bool) (header : Option String) :
    m.generate ⟨⟨flattenBases, false⟩, header⟩ = m'.generate ⟨⟨flattenBases, false⟩, header⟩ := by
  have hundocumented : ∀ m : MetaModel, m.undocumented.generate ⟨⟨flattenBases, false⟩, header⟩ =
      m.generate ⟨⟨flattenBases, false⟩, header⟩ :=
    fun m => m.generate_mapAnnotations fun _ => rfl
  rw [← hundocumented m, h, hundocumented m']

/-- Inline structures that want one name, and that differ in documentation only in one model. -/
theorem generate_labels_undocumented :
    (labels (textProperty "In the menu.") (textProperty "In the list.")).undocumented =
        (labels (textProperty none) (textProperty none)).undocumented ∧
      (labels (textProperty "In the menu.") (textProperty "In the list.")).generate
          ⟨⟨false, false⟩, none⟩ =
        (labels (textProperty none) (textProperty none)).generate ⟨⟨false, false⟩, none⟩ := by
  have h : (labels (textProperty "In the menu.") (textProperty "In the list.")).undocumented =
      (labels (textProperty none) (textProperty none)).undocumented := rfl
  exact ⟨h, generate_eq_of_undocumented_eq h false none⟩

end MetaModel
end ProtocolTypes
