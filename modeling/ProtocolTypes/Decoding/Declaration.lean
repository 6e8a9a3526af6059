import ProtocolTypes.Decoding.Basic
import ProtocolTypes.Decoding.TypeExpr

/-!
# ProtocolTypes.Decoding.Declaration

Decoding the named declarations of a meta model from syntax trees. Members that a declaration has
no field for are kept and read as annotations once the declaration is complete.
-/

namespace ProtocolTypes
namespace Json
namespace Tree

open Decoding

/-- Decodes the JSON value of a tree. What goes wrong beyond the syntax has no place of its own in
the text. -/
def via {α : Type} (decode : Json → Partial α) (t : Tree) : Decoded α :=
  match t.toJson with
  | .error f => .error f
  | .ok v =>
    match decode v with
    | .ok x => .ok x
    | .error complaint => .error ⟨[], complaint, none⟩

def toTypeExpr : Tree → Decoded TypeExpr :=
  via typeExpr

/-- Puts a member kept for the annotations in front of those before it. -/
def keep (key : String) (others : List (String × Json)) (t : Tree) :
    Decoded (List (String × Json)) :=
  t.toJson.map fun v => (key, v) :: others

end Tree
end Json

namespace Decoding

open Json

/-! ## Annotations on their own -/

def annotations : Record AnnotationParts Annotations where
  expected := "struct Annotations"
  start := {}
  filled := AnnotationParts.filled
  put p key t :=
    match key with
    | "documentation" => (t.toOption Tree.toText).map fun s => { p with documentation := some s }
    | "since" => (t.toOption Tree.toText).map fun s => { p with since := some s }
    | "proposed" => t.toBool.map fun b => { p with proposed := some b }
    | "deprecated" => (t.toOption Tree.toText).map fun s => { p with deprecated := some s }
    | _ => t.toJson.map fun _ => p
  finish p := .ok p.toAnnotations

/-! ## Properties -/

def propertyRecord : Record PropertyParts Property where
  expected := "struct Property"
  start := {}
  filled p key :=
    match key with
    | "name" => p.name.isSome
    | "type" => p.type.isSome
    | "optional" => p.optional.isSome
    | _ => false
  put p key t :=
    match key with
    | "name" => t.toText.map fun s => { p with name := some s }
    | "type" => t.toTypeExpr.map fun e => { p with type := some e }
    | "optional" => t.toBool.map fun b => { p with optional := some b }
    | _ => (t.keep key p.others).map fun others => { p with others := others }
  finish p := p.finish

def properties : Tree → Decoded (List Property) :=
  Tree.toList propertyRecord.decode

def structLiteralRecord : Record LiteralParts StructLiteral where
  expected := "struct StructLiteral"
  start := {}
  filled p key := key = "properties" && p.properties.isSome
  put p key t :=
    match key with
    | "properties" => (properties t).map fun ps => { p with properties := some ps }
    | _ => (t.keep key p.others).map fun others => { p with others := others }
  finish p := p.finish

/-! ## Structures -/

structure StructureParts where
  name : Option String := none
  properties : Option (List Property) := none
  bases : Option (List TypeExpr) := none
  mixins : Option (List TypeExpr) := none
  others : List (String × Json) := []

def structureRecord : Record StructureParts Structure where
  expected := "struct Structure"
  start := {}
  filled p key :=
    match key with
    | "name" => p.name.isSome
    | "properties" => p.properties.isSome
    | "extends" => p.bases.isSome
    | "mixins" => p.mixins.isSome
    | _ => false
  put p key t :=
    match key with
    | "name" => t.toText.map fun s => { p with name := some s }
    | "properties" => (properties t).map fun ps => { p with properties := some ps }
    | "extends" => (t.toList Tree.toTypeExpr).map fun ts => { p with bases := some ts }
    | "mixins" => (t.toList Tree.toTypeExpr).map fun ts => { p with mixins := some ts }
    | _ => (t.keep key p.others).map fun others => { p with others := others }
  finish p :=
    match p.name with
    | none => .error (.missingField "name")
    | some name =>
      (annotationsOf p.others.reverse).map fun a =>
        ⟨name, p.properties.getD [], p.bases.getD [], p.mixins.getD [], a⟩

/-! ## Enumerations -/

/-- Numbers first, then text. -/
def enumerationValue : Json → Partial EnumerationValue
  | .number (.integer i) => .ok (.number (Binary64.ofInt i))
  | .number (.float x) => .ok (.number x)
  | .string s => .ok (.string s)
  | _ => .error (.noMatch "EnumerationValue")

structure EntryParts where
  name : Option String := none
  value : Option EnumerationValue := none
  others : List (String × Json) := []

def entryRecord : Record EntryParts EnumerationEntry where
  expected := "struct EnumerationEntry"
  start := {}
  filled p key :=
    match key with
    | "name" => p.name.isSome
    | "value" => p.value.isSome
    | _ => false
  put p key t :=
    match key with
    | "name" => t.toText.map fun s => { p with name := some s }
    | "value" => (t.via enumerationValue).map fun v => { p with value := some v }
    | _ => (t.keep key p.others).map fun others => { p with others := others }
  finish p :=
    match p.name, p.value with
    | none, _ => .error (.missingField "name")
    | _, none => .error (.missingField "value")
    | some name, some value => (annotationsOf p.others.reverse).map fun a => ⟨name, value, a⟩

structure EnumerationParts where
  name : Option String := none
  type : Option TypeExpr := none
  values : Option (List EnumerationEntry) := none
  supportsCustomValues : Option Bool := none
  others : List (String × Json) := []

def enumerationRecord : Record EnumerationParts Enumeration where
  expected := "struct Enumeration"
  start := {}
  filled p key :=
    match key with
    | "name" => p.name.isSome
    | "type" => p.type.isSome
    | "values" => p.values.isSome
    | "supportsCustomValues" => p.supportsCustomValues.isSome
    | _ => false
  put p key t :=
    match key with
    | "name" => t.toText.map fun s => { p with name := some s }
    | "type" => t.toTypeExpr.map fun e => { p with type := some e }
    | "values" => (t.toList entryRecord.decode).map fun vs => { p with values := some vs }
    | "supportsCustomValues" => t.toBool.map fun b => { p with supportsCustomValues := some b }
    | _ => (t.keep key p.others).map fun others => { p with others := others }
  finish p :=
    match p.name, p.type with
    | none, _ => .error (.missingField "name")
    | _, none => .error (.missingField "type")
    | some name, some type =>
      (annotationsOf p.others.reverse).map fun a =>
        ⟨name, type, p.values.getD [], p.supportsCustomValues.getD false, a⟩

/-! ## Aliases -/

structure AliasParts where
  name : Option String := none
  type : Option TypeExpr := none
  others : List (String × Json) := []

def aliasRecord : Record AliasParts TypeAlias where
  expected := "struct TypeAlias"
  start := {}
  filled p key :=
    match key with
    | "name" => p.name.isSome
    | "type" => p.type.isSome
    | _ => false
  put p key t :=
    match key with
    | "name" => t.toText.map fun s => { p with name := some s }
    | "type" => t.toTypeExpr.map fun e => { p with type := some e }
    | _ => (t.keep key p.others).map fun others => { p with others := others }
  finish p :=
    match p.name, p.type with
    | none, _ => .error (.missingField "name")
    | _, none => .error (.missingField "type")
    | some name, some type => (annotationsOf p.others.reverse).map fun a => ⟨name, type, a⟩

end Decoding
end ProtocolTypes
