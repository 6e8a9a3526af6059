/-!
# ProtocolTypes.Model.TypeExpr

Type expressions of a meta model, and the properties and inline structures they contain.
-/

namespace ProtocolTypes

/-- Documentation and life cycle of a declared element. -/
structure Annotations where
  documentation : Option String := none
  since : Option String := none
  proposed : Bool := false
  deprecated : Option String := none
deriving DecidableEq, Repr, Inhabited

mutual

inductive TypeExpr where
  | base (name : String)
  | reference (name : String)
  | array (element : TypeExpr)
  | map (key value : TypeExpr)
  | and (items : List TypeExpr)
  | or (items : List TypeExpr)
  | tuple (items : List TypeExpr)
  | literal (value : StructLiteral)
  | stringLiteral (value : String)
  | integerLiteral (value : Int64)
  | booleanLiteral (value : Bool)

structure Property where
  name : String
  type : TypeExpr
  optional : Bool
  annotations : Annotations

/-- An inline structure without a name. -/
structure StructLiteral where
  properties : List Property
  annotations : Annotations

end

/-- What distinguishes the forms of type expressions. -/
inductive TypeKind where
  | base
  | reference
  | array
  | map
  | and
  | or
  | tuple
  | literal
  | stringLiteral
  | integerLiteral
  | booleanLiteral
deriving DecidableEq, Repr

namespace TypeKind

def all : List TypeKind :=
  [.base, .reference, .array, .map, .and, .or, .tuple, .literal, .stringLiteral,
    .integerLiteral, .booleanLiteral]

/-- The spelling of the kind in a meta model. -/
def name : TypeKind → String
  | .base => "base"
  | .reference => "reference"
  | .array => "array"
  | .map => "map"
  | .and => "and"
  | .or => "or"
  | .tuple => "tuple"
  | .literal => "literal"
  | .stringLiteral => "stringLiteral"
  | .integerLiteral => "integerLiteral"
  | .booleanLiteral => "booleanLiteral"

def ofName? (name : String) : Option TypeKind :=
  all.find? fun kind => kind.name = name

theorem ofName?_name (kind : TypeKind) : ofName? kind.name = some kind := by
  cases kind <;> decide

end TypeKind

namespace TypeExpr

def kind : TypeExpr → TypeKind
  | .base _ => .base
  | .reference _ => .reference
  | .array _ => .array
  | .map _ _ => .map
  | .and _ => .and
  | .or _ => .or
  | .tuple _ => .tuple
  | .literal _ => .literal
  | .stringLiteral _ => .stringLiteral
  | .integerLiteral _ => .integerLiteral
  | .booleanLiteral _ => .booleanLiteral

def reference? : TypeExpr → Option String
  | .reference name => some name
  | _ => none

def base? : TypeExpr → Option String
  | .base name => some name
  | _ => none

/-- The base type of the null value. -/
def isNull (t : TypeExpr) : Bool :=
  t.base? = some "null"

end TypeExpr
end ProtocolTypes
