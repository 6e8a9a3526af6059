import ProtocolTypes.Decoding.Fault
import ProtocolTypes.Model.MetaModel

/-!
# ProtocolTypes.Decoding.TypeExpr

Decoding type expressions from JSON values. A node is an object whose `kind` member says which
form it has, or an array that holds only the name of a kind, which then stands for the payload as
well. Members are looked at in key order and unknown members are ignored.
-/

namespace ProtocolTypes
namespace Json

open Decoding

def found : Json → Found
  | .null => .null
  | .bool b => .bool b
  | .number n => .number n
  | .string s => .string s
  | .array _ => .list
  | .object _ => .object

abbrev Partial (α : Type) := Except Complaint α

def reject {α : Type} (expected : String) (v : Json) : Partial α :=
  .error (.wrongType v.found expected)

/-! ## Single values -/

def toText : Json → Partial String
  | .string s => .ok s
  | v => v.reject "a string"

def toBool : Json → Partial Bool
  | .bool b => .ok b
  | v => v.reject "a boolean"

/-- A whole number in the given range. -/
def toInteger (lo hi : Int) (expected : String) : Json → Partial Int
  | .number (.integer i) =>
    if lo ≤ i ∧ i ≤ hi then .ok i
    else .error (.outOfRange (.number (.integer i)) expected)
  | v => v.reject expected

def toInt64 (v : Json) : Partial Int64 :=
  (toInteger Int64.minValue.toInt Int64.maxValue.toInt "i64" v).map Int64.ofInt

def member? (key : String) (members : List (String × Json)) : Option Json :=
  (members.find? (·.1 = key)).map (·.2)

/-- A member that must be there. -/
def required {α : Type} (key : String) (decode : Json → Partial α)
    (members : List (String × Json)) : Partial α :=
  match member? key members with
  | some v => decode v
  | none => .error (.missingField key)

end Json

namespace Decoding

open Json

/-! ## Annotations -/

structure AnnotationParts where
  documentation : Option (Option String) := none
  since : Option (Option String) := none
  proposed : Option Bool := none
  deprecated : Option (Option String) := none

namespace AnnotationParts

def fields : List String :=
  ["documentation", "since", "proposed", "deprecated"]

def filled (p : AnnotationParts) : String → Bool
  | "documentation" => p.documentation.isSome
  | "since" => p.since.isSome
  | "proposed" => p.proposed.isSome
  | "deprecated" => p.deprecated.isSome
  | _ => false

def toAnnotations (p : AnnotationParts) : Annotations :=
  ⟨p.documentation.join, p.since.join, p.proposed.getD false, p.deprecated.join⟩

def optionalText : Json → Partial (Option String)
  | .null => .ok none
  | v => v.toText.map some

def put (p : AnnotationParts) (key : String) (v : Json) : Partial AnnotationParts :=
  match key with
  | "documentation" => (optionalText v).map fun s => { p with documentation := some s }
  | "since" => (optionalText v).map fun s => { p with since := some s }
  | "proposed" => v.toBool.map fun b => { p with proposed := some b }
  | "deprecated" => (optionalText v).map fun s => { p with deprecated := some s }
  | _ => .ok p

/-- Takes the members in their order; a field must not come twice. -/
def ofMembers (p : AnnotationParts) : List (String × Json) → Partial Annotations
  | [] => .ok p.toAnnotations
  | (key, v) :: rest =>
    if p.filled key then .error (.duplicateField key)
    else
      match p.put key v with
      | .ok p => ofMembers p rest
      | .error e => .error e

end AnnotationParts

/-- The annotations among the members that a record has no field of its own for. -/
def annotationsOf (members : List (String × Json)) : Partial Annotations :=
  AnnotationParts.ofMembers {} members

/-! ## Parts of properties and inline structures -/

structure PropertyParts where
  name : Option String := none
  type : Option TypeExpr := none
  optional : Option Bool := none
  /-- The other members, last one first. -/
  others : List (String × Json) := []

namespace PropertyParts

def finish (p : PropertyParts) : Partial Property :=
  match p.name, p.type with
  | none, _ => .error (.missingField "name")
  | _, none => .error (.missingField "type")
  | some name, some type =>
    (annotationsOf p.others.reverse).map fun a => ⟨name, type, p.optional.getD false, a⟩

end PropertyParts

structure LiteralParts where
  properties : Option (List Property) := none
  others : List (String × Json) := []

namespace LiteralParts

def finish (p : LiteralParts) : Partial StructLiteral :=
  (annotationsOf p.others.reverse).map fun a => ⟨p.properties.getD [], a⟩

end LiteralParts

/-! ## Type expressions -/

def kindOfName (name : String) : Partial TypeKind :=
  match TypeKind.ofName? name with
  | some kind => .ok kind
  | none => .error (.unsupportedKind name)

/-- What a node that only names its kind stands for. -/
def ofKindName (kind : TypeKind) : Partial TypeExpr :=
  let name := Json.string kind.name
  match kind with
  | .base => .ok (.base kind.name)
  | .reference => .ok (.reference kind.name)
  | .array | .map => name.reject "struct TypeDisc"
  | .and | .or | .tuple => name.reject "a sequence"
  | .literal => name.reject "struct StructLiteral"
  | .stringLiteral => .ok (.stringLiteral kind.name)
  | .integerLiteral => name.reject "i64"
  | .booleanLiteral => name.reject "a boolean"

/-- The kind named by the only element of an array. -/
def kindOfList : List Json → Partial TypeKind
  | [] => .error (.wrongLength 0 "struct TypeDisc with 1 element")
  | first :: rest =>
    match first.toText with
    | .error e => .error e
    | .ok name =>
      if rest.isEmpty then kindOfName name
      else .error (.wrongLength (rest.length + 1) "fewer elements in array")

def kindOfMembers (members : List (String × Json)) : Partial TypeKind :=
  match required "kind" toText members with
  | .ok name => kindOfName name
  | .error e => .error e

mutual

def typeExpr : Json → Partial TypeExpr
  | .array items =>
    match kindOfList items with
    | .ok kind => ofKindName kind
    | .error e => .error e
  | .object members =>
    match kindOfMembers members with
    | .error e => .error e
    | .ok .base => (required "name" toText members).map .base
    | .ok .reference => (required "name" toText members).map .reference
    | .ok .array =>
      match memberType "element" members with
      | .ok (some element) => .ok (.array element)
      | .ok none => .error (.missingField "element")
      | .error e => .error e
    | .ok .map =>
      match memberType "key" members with
      | .error e => .error e
      | .ok key =>
        match key, memberType "value" members with
        | _, .error e => .error e
        | none, _ => .error (.missingField "key")
        | some _, .ok none => .error (.missingField "value")
        | some key, .ok (some value) => .ok (.map key value)
    | .ok .and => (memberTypes "items" members).map .and
    | .ok .or => (memberTypes "items" members).map .or
    | .ok .tuple => (memberTypes "items" members).map .tuple
    | .ok .literal => (memberLiteral "value" members).map .literal
    | .ok .stringLiteral => (required "value" toText members).map .stringLiteral
    | .ok .integerLiteral => (required "value" toInt64 members).map .integerLiteral
    | .ok .booleanLiteral => (required "value" toBool members).map .booleanLiteral
  | v => v.reject "struct TypeDisc"

/-- The type under a key, if the key is there. -/
def memberType (key : String) : List (String × Json) → Partial (Option TypeExpr)
  | [] => .ok none
  | (k, v) :: rest => if k = key then (typeExpr v).map some else memberType key rest

def memberTypes (key : String) : List (String × Json) → Partial (List TypeExpr)
  | [] => .error (.missingField key)
  | (k, v) :: rest => if k = key then typeList v else memberTypes key rest

def memberLiteral (key : String) : List (String × Json) → Partial StructLiteral
  | [] => .error (.missingField key)
  | (k, v) :: rest => if k = key then structLiteral v else memberLiteral key rest

def typeList : Json → Partial (List TypeExpr)
  | .array items => typeItems items
  | v => v.reject "a sequence"

def typeItems : List Json → Partial (List TypeExpr)
  | [] => .ok []
  | v :: rest =>
    match typeExpr v with
    | .error e => .error e
    | .ok t =>
      match typeItems rest with
      | .ok ts => .ok (t :: ts)
      | .error e => .error e

def structLiteral : Json → Partial StructLiteral
  | .object members =>
    match literalParts {} members with
    | .ok p => p.finish
    | .error e => .error e
  | v => v.reject "struct StructLiteral"

def literalParts (p : LiteralParts) : List (String × Json) → Partial LiteralParts
  | [] => .ok p
  | (k, v) :: rest =>
    if k = "properties" then
      match propertyList v with
      | .ok ps => literalParts { p with properties := some ps } rest
      | .error e => .error e
    else literalParts { p with others := (k, v) :: p.others } rest

def propertyList : Json → Partial (List Property)
  | .array items => propertyItems items
  | v => v.reject "a sequence"

def propertyItems : List Json → Partial (List Property)
  | [] => .ok []
  | v :: rest =>
    match property v with
    | .error e => .error e
    | .ok p =>
      match propertyItems rest with
      | .ok ps => .ok (p :: ps)
      | .error e => .error e

def property : Json → Partial Property
  | .object members =>
    match propertyParts {} members with
    | .ok p => p.finish
    | .error e => .error e
  | v => v.reject "struct Property"

def propertyParts (p : PropertyParts) : List (String × Json) → Partial PropertyParts
  | [] => .ok p
  | (k, v) :: rest =>
    match k with
    | "name" =>
      match v.toText with
      | .ok s => propertyParts { p with name := some s } rest
      | .error e => .error e
    | "type" =>
      match typeExpr v with
      | .ok t => propertyParts { p with type := some t } rest
      | .error e => .error e
    | "optional" =>
      match v.toBool with
      | .ok b => propertyParts { p with optional := some b } rest
      | .error e => .error e
    | _ => propertyParts { p with others := (k, v) :: p.others } rest

end

/-! ## One value or several -/

/-- An array of one or more items, or a single item. A refused array is reported by its own
refusal, unless it reads as a single item. -/
def oneOrMore {α : Type} (item : Json → Partial α) (v : Json) : Partial (OneOrMore α) :=
  match v with
  | .array items =>
    match items.mapM item with
    | .ok (x :: xs) => .ok ⟨x, xs⟩
    | .ok [] => .error (.wrongLength 0 "at least one element")
    | .error e =>
      match item v with
      | .ok x => .ok ⟨x, []⟩
      | .error _ => .error e
  | _ => (item v).map fun x => ⟨x, []⟩

end Decoding
end ProtocolTypes
