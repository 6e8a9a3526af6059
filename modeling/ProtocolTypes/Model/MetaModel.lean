import ProtocolTypes.Binary64.Basic
import ProtocolTypes.Model.TypeExpr

/-!
# ProtocolTypes.Model.MetaModel

A meta model: the messages of a protocol and the named declarations they use.
-/

namespace ProtocolTypes

/-! ## Declarations -/

structure Structure where
  name : String
  properties : List Property
  bases : List TypeExpr
  mixins : List TypeExpr
  annotations : Annotations

inductive EnumerationValue where
  | number (value : Binary64)
  | string (value : String)
deriving DecidableEq, Repr

structure EnumerationEntry where
  name : String
  value : EnumerationValue
  annotations : Annotations
deriving DecidableEq, Repr

structure Enumeration where
  name : String
  type : TypeExpr
  values : List EnumerationEntry
  supportsCustomValues : Bool
  annotations : Annotations

structure TypeAlias where
  name : String
  type : TypeExpr
  annotations : Annotations

/-! ## Messages -/

inductive MessageDirection where
  | clientToServer
  | serverToClient
  | both
deriving DecidableEq, Repr

namespace MessageDirection

def all : List MessageDirection :=
  [.clientToServer, .serverToClient, .both]

def name : MessageDirection → String
  | .clientToServer => "clientToServer"
  | .serverToClient => "serverToClient"
  | .both => "both"

def ofName? (name : String) : Option MessageDirection :=
  all.find? fun direction => direction.name = name

end MessageDirection

/-- One value or several, never none. -/
structure OneOrMore (α : Type) where
  head : α
  tail : List α
deriving DecidableEq, Repr

namespace OneOrMore

def toList {α : Type} (xs : OneOrMore α) : List α :=
  xs.head :: xs.tail

def ofList? {α : Type} : List α → Option (OneOrMore α)
  | [] => none
  | x :: xs => some ⟨x, xs⟩

end OneOrMore

structure Request where
  method : String
  result : TypeExpr
  params : Option (OneOrMore TypeExpr)
  partialResult : Option TypeExpr
  errorData : Option TypeExpr
  registrationMethod : Option String
  registrationOptions : Option TypeExpr
  messageDirection : MessageDirection
  annotations : Annotations

structure Notification where
  method : String
  params : Option (OneOrMore TypeExpr)
  registrationMethod : Option String
  registrationOptions : Option TypeExpr
  messageDirection : MessageDirection
  annotations : Annotations

/-! ## The model -/

structure MetaModel where
  version : String
  requests : List Request
  notifications : List Notification
  structures : List Structure
  enumerations : List Enumeration
  typeAliases : List TypeAlias

namespace MetaModel

def declarationCount (m : MetaModel) : Nat :=
  m.structures.length + m.enumerations.length + m.typeAliases.length

end MetaModel
end ProtocolTypes
