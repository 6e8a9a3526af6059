import ProtocolTypes.Proofs.Binary64.Integers
import ProtocolTypes.Proofs.Decoding.Fields

/-!
# ProtocolTypes.Proofs.Decoding.ModelDocument

The document that spells a model. A type expression is an object with its kind and the members of
that kind; members whose value is absent or a default are left out, and a single parameter stands
without an array around it.
-/

namespace ProtocolTypes

open Json

/-! ## Objects with optional members -/

namespace Json
namespace Document

/-- The members that are there. -/
def present (fs : List (String × Option Document)) : List (String × Document) :=
  fs.filterMap fun f => f.2.map fun d => (f.1, d)

def text (s : Option String) : Option Document :=
  s.map .string

/-- A flag is written when it is set. -/
def flag (b : Bool) : Option Document :=
  if b then some (.bool true) else none

/-- A list is written when it has items. -/
def items (ds : List Document) : Option Document :=
  if ds.isEmpty then none else some (.array ds)

def integer (i : Int) : Document :=
  .number (some (.integer i))

/-- A type node with the members of its kind. -/
def node (kind : TypeKind) (payload : List (String × Document)) : Document :=
  .object (("kind", .string kind.name) :: payload)

end Document
end Json

open Document

/-! ## Type expressions -/

def Annotations.members (a : Annotations) : List (String × Option Document) :=
  [("documentation", text a.documentation), ("since", text a.since),
    ("proposed", flag a.proposed), ("deprecated", text a.deprecated)]

def propertyMembers (name : String) (type : Document) (optional : Bool)
    (annotations : Annotations) : List (String × Option Document) :=
  ("name", some (.string name)) :: ("type", some type) :: ("optional", flag optional) ::
    annotations.members

def literalMembers (properties : List Document) (annotations : Annotations) :
    List (String × Option Document) :=
  ("properties", items properties) :: annotations.members

mutual

def TypeExpr.document : TypeExpr → Document
  | .base name => node .base [("name", .string name)]
  | .reference name => node .reference [("name", .string name)]
  | .array element => node .array [("element", element.document)]
  | .map key value => node .map [("key", key.document), ("value", value.document)]
  | .and items => node .and [("items", .array (TypeExpr.documents items))]
  | .or items => node .or [("items", .array (TypeExpr.documents items))]
  | .tuple items => node .tuple [("items", .array (TypeExpr.documents items))]
  | .literal value => node .literal [("value", value.document)]
  | .stringLiteral value => node .stringLiteral [("value", .string value)]
  | .integerLiteral value => node .integerLiteral [("value", integer value.toInt)]
  | .booleanLiteral value => node .booleanLiteral [("value", .bool value)]

def TypeExpr.documents : List TypeExpr → List Document
  | [] => []
  | t :: ts => t.document :: TypeExpr.documents ts

def StructLiteral.document : StructLiteral → Document
  | ⟨properties, annotations⟩ =>
    .object (present (literalMembers (Property.documents properties) annotations))

def Property.document : Property → Document
  | ⟨name, type, optional, annotations⟩ =>
    .object (present (propertyMembers name type.document optional annotations))

def Property.documents : List Property → List Document
  | [] => []
  | p :: ps => p.document :: Property.documents ps

end

def Property.members (p : Property) : List (String × Option Document) :=
  propertyMembers p.name p.type.document p.optional p.annotations

def StructLiteral.members (l : StructLiteral) : List (String × Option Document) :=
  literalMembers (l.properties.map Property.document) l.annotations

theorem Property.document_eq (p : Property) : p.document = .object (present p.members) := by
  obtain ⟨name, type, optional, annotations⟩ := p
  rw [Property.document]
  rfl

theorem Property.documents_eq (ps : List Property) :
    Property.documents ps = ps.map Property.document := by
  induction ps with
  | nil => rw [Property.documents, List.map_nil]
  | cons p ps ih => rw [Property.documents, List.map_cons, ih]

theorem StructLiteral.document_eq (l : StructLiteral) :
    l.document = .object (present l.members) := by
  obtain ⟨properties, annotations⟩ := l
  rw [StructLiteral.document, Property.documents_eq]
  rfl

theorem TypeExpr.documents_eq (ts : List TypeExpr) :
    TypeExpr.documents ts = ts.map TypeExpr.document := by
  induction ts with
  | nil => rw [TypeExpr.documents, List.map_nil]
  | cons t ts ih => rw [TypeExpr.documents, List.map_cons, ih]

theorem TypeExpr.document_eq_object (t : TypeExpr) : ∃ ms, t.document = .object ms := by
  cases t <;> rw [TypeExpr.document] <;> exact ⟨_, rfl⟩

/-! ## Declarations -/

def Structure.members (s : Structure) : List (String × Option Document) :=
  ("name", some (.string s.name)) :: ("properties", items (s.properties.map Property.document)) ::
    ("extends", items (s.bases.map TypeExpr.document)) ::
    ("mixins", items (s.mixins.map TypeExpr.document)) :: s.annotations.members

def Structure.document (s : Structure) : Document :=
  .object (present s.members)

/-- A number is written as the integer that it stands for. -/
def EnumerationValue.document : EnumerationValue → Document
  | .number x => integer x.truncate
  | .string s => .string s

/-- Numbers are integers that can be represented, texts are any. -/
def EnumerationValue.IsExact : EnumerationValue → Prop
  | .number x => x.IsExactInteger
  | .string _ => True

instance : DecidablePred EnumerationValue.IsExact
  | .number x => inferInstanceAs (Decidable x.IsExactInteger)
  | .string _ => inferInstanceAs (Decidable True)

def EnumerationEntry.members (e : EnumerationEntry) : List (String × Option Document) :=
  ("name", some (.string e.name)) :: ("value", some e.value.document) :: e.annotations.members

def EnumerationEntry.document (e : EnumerationEntry) : Document :=
  .object (present e.members)

def Enumeration.members (e : Enumeration) : List (String × Option Document) :=
  ("name", some (.string e.name)) :: ("type", some e.type.document) ::
    ("values", items (e.values.map EnumerationEntry.document)) ::
    ("supportsCustomValues", flag e.supportsCustomValues) :: e.annotations.members

def Enumeration.document (e : Enumeration) : Document :=
  .object (present e.members)

def TypeAlias.members (a : TypeAlias) : List (String × Option Document) :=
  ("name", some (.string a.name)) :: ("type", some a.type.document) :: a.annotations.members

def TypeAlias.document (a : TypeAlias) : Document :=
  .object (present a.members)

/-! ## Messages -/

def MessageDirection.document (d : MessageDirection) : Document :=
  .string d.name

/-- A single parameter stands for itself, several are an array. -/
def OneOrMore.document (ts : OneOrMore TypeExpr) : Document :=
  if ts.tail.isEmpty then ts.head.document else .array (ts.toList.map TypeExpr.document)

def Request.members (r : Request) : List (String × Option Document) :=
  ("method", some (.string r.method)) :: ("result", some r.result.document) ::
    ("params", r.params.map OneOrMore.document) ::
    ("partialResult", r.partialResult.map TypeExpr.document) ::
    ("errorData", r.errorData.map TypeExpr.document) ::
    ("registrationMethod", text r.registrationMethod) ::
    ("registrationOptions", r.registrationOptions.map TypeExpr.document) ::
    ("messageDirection", some r.messageDirection.document) :: r.annotations.members

def Request.document (r : Request) : Document :=
  .object (present r.members)

def Notification.members (n : Notification) : List (String × Option Document) :=
  ("method", some (.string n.method)) :: ("params", n.params.map OneOrMore.document) ::
    ("registrationMethod", text n.registrationMethod) ::
    ("registrationOptions", n.registrationOptions.map TypeExpr.document) ::
    ("messageDirection", some n.messageDirection.document) :: n.annotations.members

def Notification.document (n : Notification) : Document :=
  .object (present n.members)

/-! ## The model -/

/-- The version is written when there is one. -/
def MetaModel.metaData (m : MetaModel) : Option Document :=
  if m.version = "" then none else some (.object [("version", .string m.version)])

def MetaModel.members (m : MetaModel) : List (String × Option Document) :=
  [("metaData", m.metaData),
    ("requests", items (m.requests.map Request.document)),
    ("notifications", items (m.notifications.map Notification.document)),
    ("structures", items (m.structures.map Structure.document)),
    ("enumerations", items (m.enumerations.map Enumeration.document)),
    ("typeAliases", items (m.typeAliases.map TypeAlias.document))]

def MetaModel.document (m : MetaModel) : Document :=
  .object (present m.members)

end ProtocolTypes
