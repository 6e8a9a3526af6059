import ProtocolTypes.Model.TypeExpr
import ProtocolTypes.Target.Type

/-!
# ProtocolTypes.Mapping.Union

What becomes of a union: null among the items makes it optional, a single other item stands for
itself, literals of one primitive constrain that primitive, and all else needs a declaration with
one variant per item.
-/

namespace ProtocolTypes

open Target

namespace TypeExpr

/-! ## Forms of unions -/

/-- The items of a union that are not null. -/
def alternatives (items : List TypeExpr) : List TypeExpr :=
  items.filter fun t => !t.isNull

def hasNull (items : List TypeExpr) : Bool :=
  items.any isNull

def literal? : TypeExpr → Option LiteralValue
  | .stringLiteral s => some (.text s)
  | .integerLiteral i => some (.integer i)
  | .booleanLiteral b => some (.boolean b)
  | _ => none

/-- A primitive limited to one value. -/
def only (v : LiteralValue) : TargetType :=
  .constrained v.primitive [v]

/-- The primitive that literals of one kind have in common, limited to their values. -/
def commonPrimitive? (items : List TypeExpr) : Option TargetType :=
  match items.mapM literal? with
  | some (v :: vs) =>
    if vs.all fun w => w.primitive = v.primitive then some (.constrained v.primitive (v :: vs))
    else none
  | _ => none

inductive UnionForm where
  /-- At most one item is not null. -/
  | single
  | literals (type : TargetType)
  | variants
deriving DecidableEq, Repr

def unionForm (items : List TypeExpr) : UnionForm :=
  match alternatives items with
  | [] | [_] => .single
  | rest =>
    match commonPrimitive? rest with
    | some t => .literals t
    | none => .variants

/-! ## Names of variants -/

def integerName (i : Int) : String :=
  if i < 0 then "ValueMinus" ++ toString i.natAbs else "Value" ++ toString i.natAbs

/-- The name of the variant for an item. -/
def variantName : TypeExpr → String
  | .base name => Identifier.pascal name
  | .reference name => name
  | .array element => element.variantName ++ "List"
  | .map _ _ => "Map"
  | .tuple _ => "Tuple"
  | .literal _ => "Literal"
  | .stringLiteral s =>
    let name := Identifier.pascal s
    if name.isEmpty then "Empty" else name
  | .integerLiteral i => integerName i.toInt
  | .booleanLiteral b => if b then "True" else "False"
  | .and _ => "Intersection"
  | .or _ => "Union"

/-- The name of the variant at a position; a name that was used before gets the position behind. -/
def variantIdent (taken : List String) (position : Nat) (t : TypeExpr) : String :=
  let name := t.variantName
  if taken.contains name then name ++ toString position else name

end TypeExpr
end ProtocolTypes
