import ProtocolTypes.Decoding.Message
import ProtocolTypes.Json.Reader

/-!
# ProtocolTypes.Decoding.Document

Decoding whole documents. A meta model may be followed by anything; a fragment must be all there
is in its text.
-/

namespace ProtocolTypes
namespace Decoding

open Json

/-! ## The meta model -/

structure MetaDataParts where
  version : Option String := none

def metaDataRecord : Record MetaDataParts String where
  expected := "struct MetaData"
  start := {}
  filled p key := key = "version" && p.version.isSome
  put p key t :=
    match key with
    | "version" => t.toText.map fun s => { p with version := some s }
    | _ => t.toJson.map fun _ => p
  finish p := .ok (p.version.getD "")

structure MetaModelParts where
  version : Option String := none
  requests : Option (List Request) := none
  notifications : Option (List Notification) := none
  structures : Option (List Structure) := none
  enumerations : Option (List Enumeration) := none
  typeAliases : Option (List TypeAlias) := none

def metaModelRecord : Record MetaModelParts MetaModel where
  expected := "struct MetaModel"
  start := {}
  filled p key :=
    match key with
    | "metaData" => p.version.isSome
    | "requests" => p.requests.isSome
    | "notifications" => p.notifications.isSome
    | "structures" => p.structures.isSome
    | "enumerations" => p.enumerations.isSome
    | "typeAliases" => p.typeAliases.isSome
    | _ => false
  put p key t :=
    match key with
    | "metaData" =>
      (metaDataRecord.decodeEither ["version"] t).map fun v => { p with version := some v }
    | "requests" =>
      (t.toList requestRecord.decode).map fun rs => { p with requests := some rs }
    | "notifications" =>
      (t.toList notificationRecord.decode).map fun ns => { p with notifications := some ns }
    | "structures" =>
      (t.toList structureRecord.decode).map fun ss => { p with structures := some ss }
    | "enumerations" =>
      (t.toList enumerationRecord.decode).map fun es => { p with enumerations := some es }
    | "typeAliases" =>
      (t.toList aliasRecord.decode).map fun as => { p with typeAliases := some as }
    | _ => t.toJson.map fun _ => p
  finish p :=
    .ok ⟨p.version.getD "", p.requests.getD [], p.notifications.getD [], p.structures.getD [],
      p.enumerations.getD [], p.typeAliases.getD []⟩

/-- The fields of a meta model, in the order of its array form. -/
def metaModelFields : List String :=
  ["metaData", "requests", "notifications", "structures", "enumerations", "typeAliases"]

def metaModelShape : Shape :=
  .record (metaModelFields.map fun field =>
    (field, if field = "metaData" then .record [("version", .anything)] else .anything))

def metaModel : Tree → Decoded MetaModel :=
  metaModelRecord.decodeEither metaModelFields

/-! ## Documents -/

/-- Decodes the first value of an input. -/
def decodeFirst {α : Type} (shape : Shape) (decode : Tree → Decoded α) (input : List Symbol) :
    Decoded α :=
  decode (read shape input).1

/-- Decodes the only value of an input. -/
def decodeOnly {α : Type} (shape : Shape) (decode : Tree → Decoded α) (input : List Symbol) :
    Decoded α :=
  let (tree, after) := read shape input
  match decode tree, after with
  | .error f, _ => .error f
  | .ok x, none => .ok x
  | .ok x, some c =>
    let c := c.skipBlanks
    if c.atEnd then .ok x
    else .error (.ofSyntax ⟨.trailingCharacters, c.peekOffset⟩)

/-- Annotations that stand alone have no unknown members to keep. -/
def annotationsShape : Shape :=
  .record (AnnotationParts.fields.map fun field => (field, .anything))

def annotationsTree : Tree → Decoded Annotations :=
  annotations.decodeEither AnnotationParts.fields

end Decoding

/-! ## Loading a model -/

namespace MetaModel

open Decoding

/-- Why a document is no meta model. -/
structure Invalid where
  path : List Step
  complaint : Complaint
  position : Option Position

namespace Invalid

def message (e : Invalid) : String :=
  "invalid meta model at " ++ Step.renderPath e.path ++ ": " ++ e.complaint.message ++
    (e.position.map Position.describe).getD ""

end Invalid

/-- Decodes a meta model; what follows it is not looked at. -/
def parse (input : List Json.Symbol) : Except Invalid MetaModel :=
  match decodeFirst metaModelShape metaModel input with
  | .ok m => .ok m
  | .error f => .error ⟨f.path, f.complaint, f.offset.map (Position.ofOffset input)⟩

def parseText (text : String) : Except Invalid MetaModel :=
  parse (Json.Symbol.ofText text)

def parseBytes (bytes : List UInt8) : Except Invalid MetaModel :=
  parse (Json.Symbol.ofBytes bytes)

end MetaModel
end ProtocolTypes
