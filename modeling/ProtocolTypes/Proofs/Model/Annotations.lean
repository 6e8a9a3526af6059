import ProtocolTypes.Mapping.Enumeration
import ProtocolTypes.Mapping.Union
import ProtocolTypes.Proofs.Model.Declared
import ProtocolTypes.Proofs.Model.TypeExpr
import ProtocolTypes.Proofs.Traversal

/-!
# ProtocolTypes.Proofs.Model.Annotations

Meta models with other annotations. Annotations decide nothing: names stand for the same
declarations (`find?_mapAnnotations`), structures inherit the same properties
(`flattenFrom_mapAnnotations`), and types keep their form (`unionForm_mapAnnotations`).
-/

namespace ProtocolTypes

/-! ## Other annotations -/

mutual

def TypeExpr.mapAnnotations (f : Annotations → Annotations) : TypeExpr → TypeExpr
  | .base name => .base name
  | .reference name => .reference name
  | .array element => .array (element.mapAnnotations f)
  | .map key value => .map (key.mapAnnotations f) (value.mapAnnotations f)
  | .and items => .and (TypeExpr.mapAllAnnotations f items)
  | .or items => .or (TypeExpr.mapAllAnnotations f items)
  | .tuple items => .tuple (TypeExpr.mapAllAnnotations f items)
  | .literal value => .literal (value.mapAnnotations f)
  | .stringLiteral value => .stringLiteral value
  | .integerLiteral value => .integerLiteral value
  | .booleanLiteral value => .booleanLiteral value

def TypeExpr.mapAllAnnotations (f : Annotations → Annotations) : List TypeExpr → List TypeExpr
  | [] => []
  | t :: ts => t.mapAnnotations f :: TypeExpr.mapAllAnnotations f ts

def StructLiteral.mapAnnotations (f : Annotations → Annotations) : StructLiteral → StructLiteral
  | ⟨properties, annotations⟩ => ⟨Property.mapAllAnnotations f properties, f annotations⟩

def Property.mapAnnotations (f : Annotations → Annotations) : Property → Property
  | ⟨name, type, optional, annotations⟩ =>
    ⟨name, type.mapAnnotations f, optional, f annotations⟩

def Property.mapAllAnnotations (f : Annotations → Annotations) : List Property → List Property
  | [] => []
  | p :: ps => p.mapAnnotations f :: Property.mapAllAnnotations f ps

end

section Declarations

variable (f : Annotations → Annotations)

def Structure.mapAnnotations (s : Structure) : Structure where
  name := s.name
  properties := s.properties.map (Property.mapAnnotations f)
  bases := s.bases.map (TypeExpr.mapAnnotations f)
  mixins := s.mixins.map (TypeExpr.mapAnnotations f)
  annotations := f s.annotations

def EnumerationEntry.mapAnnotations (e : EnumerationEntry) : EnumerationEntry :=
  { e with annotations := f e.annotations }

def Enumeration.mapAnnotations (e : Enumeration) : Enumeration where
  name := e.name
  type := e.type.mapAnnotations f
  values := e.values.map (EnumerationEntry.mapAnnotations f)
  supportsCustomValues := e.supportsCustomValues
  annotations := f e.annotations

def TypeAlias.mapAnnotations (a : TypeAlias) : TypeAlias :=
  ⟨a.name, a.type.mapAnnotations f, f a.annotations⟩

def Declared.mapAnnotations : Declared → Declared
  | .struct s => .struct (s.mapAnnotations f)
  | .enumeration e => .enumeration (e.mapAnnotations f)
  | .typeAlias a => .typeAlias (a.mapAnnotations f)

def OneOrMore.map {α β : Type} (g : α → β) (xs : OneOrMore α) : OneOrMore β :=
  ⟨g xs.head, xs.tail.map g⟩

def Request.mapAnnotations (r : Request) : Request where
  method := r.method
  result := r.result.mapAnnotations f
  params := r.params.map (OneOrMore.map (TypeExpr.mapAnnotations f))
  partialResult := r.partialResult.map (TypeExpr.mapAnnotations f)
  errorData := r.errorData.map (TypeExpr.mapAnnotations f)
  registrationMethod := r.registrationMethod
  registrationOptions := r.registrationOptions.map (TypeExpr.mapAnnotations f)
  messageDirection := r.messageDirection
  annotations := f r.annotations

def Notification.mapAnnotations (n : Notification) : Notification where
  method := n.method
  params := n.params.map (OneOrMore.map (TypeExpr.mapAnnotations f))
  registrationMethod := n.registrationMethod
  registrationOptions := n.registrationOptions.map (TypeExpr.mapAnnotations f)
  messageDirection := n.messageDirection
  annotations := f n.annotations

def MetaModel.mapAnnotations (m : MetaModel) : MetaModel where
  version := m.version
  requests := m.requests.map (Request.mapAnnotations f)
  notifications := m.notifications.map (Notification.mapAnnotations f)
  structures := m.structures.map (Structure.mapAnnotations f)
  enumerations := m.enumerations.map (Enumeration.mapAnnotations f)
  typeAliases := m.typeAliases.map (TypeAlias.mapAnnotations f)

def OwnedProperty.mapAnnotations (p : OwnedProperty) : OwnedProperty :=
  ⟨p.owner, p.property.mapAnnotations f⟩

end Declarations

/-! ## Types -/

theorem Property.mapAllAnnotations_eq (f : Annotations → Annotations) (ps : List Property) :
    mapAllAnnotations f ps = ps.map (mapAnnotations f) := by
  induction ps with
  | nil => rfl
  | cons p ps ih => rw [mapAllAnnotations, ih, List.map_cons]

namespace TypeExpr

variable (f : Annotations → Annotations) (t : TypeExpr) (items : List TypeExpr)

theorem mapAllAnnotations_eq : mapAllAnnotations f items = items.map (mapAnnotations f) := by
  induction items with
  | nil => rfl
  | cons t ts ih => rw [mapAllAnnotations, ih, List.map_cons]

@[simp] theorem kind_mapAnnotations : (t.mapAnnotations f).kind = t.kind := by
  cases t <;> rfl

@[simp] theorem base?_mapAnnotations : (t.mapAnnotations f).base? = t.base? := by
  cases t <;> rfl

@[simp] theorem reference?_mapAnnotations : (t.mapAnnotations f).reference? = t.reference? := by
  cases t <;> rfl

@[simp] theorem isNull_mapAnnotations : (t.mapAnnotations f).isNull = t.isNull := by
  rw [isNull, isNull, base?_mapAnnotations]

@[simp] theorem literal?_mapAnnotations : (t.mapAnnotations f).literal? = t.literal? := by
  cases t <;> rfl

@[simp] theorem variantName_mapAnnotations :
    (t.mapAnnotations f).variantName = t.variantName := by
  induction t using TypeExpr.induct with
  | step t ih =>
    cases t with
    | array element =>
      rw [mapAnnotations, variantName, variantName, ih element List.mem_cons_self]
    | _ => rfl

@[simp] theorem variantIdent_mapAnnotations (taken : List String) (position : Nat) :
    (t.mapAnnotations f).variantIdent taken position = t.variantIdent taken position := by
  rw [variantIdent, variantIdent, variantName_mapAnnotations]

@[simp] theorem hasNull_mapAnnotations : hasNull (mapAllAnnotations f items) = hasNull items := by
  rw [mapAllAnnotations_eq, hasNull, hasNull, List.any_map]
  exact congrArg items.any (funext (isNull_mapAnnotations f))

theorem alternatives_mapAnnotations :
    alternatives (items.map (mapAnnotations f)) = (alternatives items).map (mapAnnotations f) := by
  have hpred : ((fun t : TypeExpr => !t.isNull) ∘ mapAnnotations f) = fun t => !t.isNull :=
    funext fun t => congrArg (!·) (isNull_mapAnnotations f t)
  rw [alternatives, alternatives, List.filter_map, hpred]

theorem commonPrimitive?_mapAnnotations :
    commonPrimitive? (items.map (mapAnnotations f)) = commonPrimitive? items := by
  have hliterals : (items.map (mapAnnotations f)).mapM literal? = items.mapM literal? := by
    rw [List.mapM_map]
    exact congrArg items.mapM (funext (literal?_mapAnnotations f))
  rw [commonPrimitive?, commonPrimitive?, hliterals]

@[simp] theorem unionForm_mapAnnotations :
    unionForm (mapAllAnnotations f items) = unionForm items := by
  rw [mapAllAnnotations_eq, unionForm, unionForm, alternatives_mapAnnotations]
  match alternatives items with
  | [] | [_] => rfl
  | a :: b :: rest =>
    have hcommon := commonPrimitive?_mapAnnotations f (a :: b :: rest)
    simp only [List.map_cons] at hcommon ⊢
    rw [hcommon]

end TypeExpr

theorem Enumeration.baseName_mapAnnotations (f : Annotations → Annotations) (e : Enumeration) :
    (e.mapAnnotations f).baseName = e.baseName := by
  rw [baseName, baseName, mapAnnotations, TypeExpr.base?_mapAnnotations,
    TypeExpr.kind_mapAnnotations]

/-! ## Names -/

namespace Declared

variable (f : Annotations → Annotations)

@[simp] theorem name_mapAnnotations (d : Declared) : (d.mapAnnotations f).name = d.name := by
  cases d <;> rfl

theorem last?_mapAnnotations (name : String) (ds : List Declared) :
    last? name (ds.map (mapAnnotations f)) = (last? name ds).map (mapAnnotations f) := by
  induction ds with
  | nil => rfl
  | cons d ds ih =>
    rw [List.map_cons, last?, last?, ih, name_mapAnnotations]
    cases last? name ds with
    | some e => rfl
    | none => split <;> rfl

theorem primaries_mapAnnotations (ds : List Declared) :
    primaries (ds.map (mapAnnotations f)) = (primaries ds).map (mapAnnotations f) := by
  induction ds with
  | nil => rfl
  | cons d ds ih =>
    have hshadowed :
        (d.mapAnnotations f).isShadowedBy (ds.map (mapAnnotations f)) = d.isShadowedBy ds := by
      simp [isShadowedBy, Function.comp_def]
    rw [List.map_cons, primaries, primaries, hshadowed, ih]
    split <;> rfl

end Declared

namespace MetaModel

variable (f : Annotations → Annotations) (m : MetaModel)

theorem declarations_mapAnnotations :
    (m.mapAnnotations f).declarations = m.declarations.map (Declared.mapAnnotations f) := by
  simp only [declarations, mapAnnotations, List.map_append, List.map_map]
  rfl

theorem find?_mapAnnotations (name : String) :
    (m.mapAnnotations f).find? name = (m.find? name).map (Declared.mapAnnotations f) := by
  rw [find?, find?, declarations_mapAnnotations, Declared.last?_mapAnnotations]

theorem primaries_mapAnnotations :
    (m.mapAnnotations f).primaries = m.primaries.map (Declared.mapAnnotations f) := by
  rw [primaries, primaries, declarations_mapAnnotations, Declared.primaries_mapAnnotations]

theorem names_mapAnnotations : (m.mapAnnotations f).names = m.names := by
  rw [names, names, primaries_mapAnnotations, List.map_map]
  exact congrArg m.primaries.map (funext (Declared.name_mapAnnotations f))

theorem resolve_mapAnnotations (name context : String) :
    (m.mapAnnotations f).resolve name context =
      Declared.mapAnnotations f <$> m.resolve name context := by
  rw [resolve, resolve, find?_mapAnnotations]
  cases m.find? name <;> rfl

/-! ## Inherited properties -/

theorem parent_mapAnnotations (s : Structure) (relation : Relation) (position : Nat)
    (t : TypeExpr) :
    (m.mapAnnotations f).parent (s.mapAnnotations f) relation position (t.mapAnnotations f) =
      Structure.mapAnnotations f <$> m.parent s relation position t := by
  rw [parent, parent, TypeExpr.reference?_mapAnnotations]
  cases t.reference? with
  | none => rfl
  | some name =>
    have hname : (s.mapAnnotations f).name = s.name := rfl
    simp only [hname, resolve_mapAnnotations]
    cases m.resolve name s.name with
    | error e => rfl
    | ok d => cases d <;> rfl

theorem visitParents_mapAnnotations {α β : Type} {visit : Structure → Except ReferenceError α}
    {visit' : Structure → Except ReferenceError β} {g : α → β}
    (hvisit : ∀ p, visit' (p.mapAnnotations f) = g <$> visit p) (s : Structure)
    (relation : Relation) :
    (m.mapAnnotations f).visitParents visit' (s.mapAnnotations f) relation =
      List.map g <$> m.visitParents visit s relation := by
  have hentries : (s.mapAnnotations f).entries relation =
      (s.entries relation).map (TypeExpr.mapAnnotations f) := by
    cases relation <;> rfl
  rw [visitParents, visitParents, hentries, List.zipIdx_map]
  refine mapM_map_eq_map ?_ _
  rintro ⟨t, position⟩
  simp only [Prod.map_apply, id_eq, parent_mapAnnotations]
  cases m.parent s relation position t with
  | error e => rfl
  | ok p => exact hvisit p

theorem ownProperties_mapAnnotations (s : Structure) :
    (s.mapAnnotations f).ownProperties =
      s.ownProperties.map (OwnedProperty.mapAnnotations f) := by
  rw [Structure.ownProperties, Structure.ownProperties, Structure.mapAnnotations, List.map_map,
    List.map_map]
  rfl

theorem flattenFrom_mapAnnotations (fuel : Nat) (chain : List String) (s : Structure) :
    (m.mapAnnotations f).flattenFrom fuel chain (s.mapAnnotations f) =
      List.map (OwnedProperty.mapAnnotations f) <$> m.flattenFrom fuel chain s := by
  induction fuel generalizing chain s with
  | zero => rfl
  | succ fuel ih =>
    have hvisit := visitParents_mapAnnotations f m (ih (chain ++ [s.name])) s
    have hname : (s.mapAnnotations f).name = s.name := rfl
    simp only [flattenFrom, hname, hvisit, ownProperties_mapAnnotations]
    split
    · rfl
    · cases m.visitParents (m.flattenFrom fuel (chain ++ [s.name])) s .base with
      | error e => rfl
      | ok bases =>
        cases m.visitParents (m.flattenFrom fuel (chain ++ [s.name])) s .mixin with
        | error e => rfl
        | ok mixins =>
          refine congrArg Except.ok ?_
          simp only [List.map_append, List.map_flatten]

end MetaModel

/-! ## The same annotations -/

mutual

theorem TypeExpr.mapAnnotations_id : ∀ t : TypeExpr, t.mapAnnotations id = t
  | .base _ | .reference _ | .stringLiteral _ | .integerLiteral _ | .booleanLiteral _ => rfl
  | .array element => by rw [TypeExpr.mapAnnotations, element.mapAnnotations_id]
  | .map key value => by
    rw [TypeExpr.mapAnnotations, key.mapAnnotations_id, value.mapAnnotations_id]
  | .and items => by rw [TypeExpr.mapAnnotations, TypeExpr.mapAllAnnotations_id items]
  | .or items => by rw [TypeExpr.mapAnnotations, TypeExpr.mapAllAnnotations_id items]
  | .tuple items => by rw [TypeExpr.mapAnnotations, TypeExpr.mapAllAnnotations_id items]
  | .literal l => by rw [TypeExpr.mapAnnotations, l.mapAnnotations_id]

theorem TypeExpr.mapAllAnnotations_id :
    ∀ ts : List TypeExpr, TypeExpr.mapAllAnnotations id ts = ts
  | [] => rfl
  | t :: ts => by
    rw [TypeExpr.mapAllAnnotations, t.mapAnnotations_id, TypeExpr.mapAllAnnotations_id ts]

theorem StructLiteral.mapAnnotations_id : ∀ l : StructLiteral, l.mapAnnotations id = l
  | ⟨properties, _⟩ => by
    rw [StructLiteral.mapAnnotations, Property.mapAllAnnotations_id properties, id]

theorem Property.mapAnnotations_id : ∀ p : Property, p.mapAnnotations id = p
  | ⟨_, type, _, _⟩ => by rw [Property.mapAnnotations, type.mapAnnotations_id, id]

theorem Property.mapAllAnnotations_id :
    ∀ ps : List Property, Property.mapAllAnnotations id ps = ps
  | [] => rfl
  | p :: ps => by
    rw [Property.mapAllAnnotations, p.mapAnnotations_id, Property.mapAllAnnotations_id ps]

end

theorem OwnedProperty.mapAnnotations_id (p : OwnedProperty) : p.mapAnnotations id = p := by
  rw [mapAnnotations, p.property.mapAnnotations_id]

theorem Structure.mapAnnotations_id (s : Structure) : s.mapAnnotations id = s := by
  rw [mapAnnotations, List.map_id'' Property.mapAnnotations_id,
    List.map_id'' TypeExpr.mapAnnotations_id, List.map_id'' TypeExpr.mapAnnotations_id, id]

theorem Declared.mapAnnotations_id (d : Declared) : d.mapAnnotations id = d := by
  cases d with
  | struct s => rw [mapAnnotations, s.mapAnnotations_id]
  | enumeration e =>
    have hvalues : e.values.map (EnumerationEntry.mapAnnotations id) = e.values :=
      List.map_id'' (fun _ => rfl) _
    rw [mapAnnotations, Enumeration.mapAnnotations, e.type.mapAnnotations_id, hvalues, id]
  | typeAlias a => rw [mapAnnotations, TypeAlias.mapAnnotations, a.type.mapAnnotations_id, id]

end ProtocolTypes
