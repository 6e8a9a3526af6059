import ProtocolTypes.Mapping.Error
import ProtocolTypes.Mapping.Registry
import ProtocolTypes.Mapping.Union
import ProtocolTypes.Target.Members

/-!
# ProtocolTypes.Mapping.TypeExpr

From type expressions to types of the generated source. Unions, intersections and inline structures
inside other types get declarations of their own in the registry, named after the place where they
stand. What was registered before an error stays registered.
-/

namespace ProtocolTypes

open Target

/-- A step of mapping: it may register declarations and may fail. -/
abbrev Mapping := ExceptT MappingError (StateM Registry)

namespace Mapping

def run {α : Type} (x : Mapping α) (r : Registry) : Except MappingError α × Registry :=
  ExceptT.run x r

/-- Registers a declaration under a name and refers to it. -/
def synthesize (name : String) (spec : TypeSpec) : Mapping TargetType :=
  fun r =>
    let (ident, r) := r.register ⟨name, {}, spec⟩
    (.ok (.symbol ident), r)

end Mapping

/-! ## Leaves -/

/-- The primitive for a base type, if it is a known one. -/
def Target.Primitive.ofBase? : String → Option Primitive
  | "string" | "URI" | "DocumentUri" | "RegExp" => some .string
  | "integer" => some .int32
  | "uinteger" => some .uint32
  | "decimal" | "number" => some .float64
  | "boolean" => some .bool
  | "null" => some .unit
  | _ => none

def Target.Primitive.ofBase (name context : String) : Except MappingError Primitive :=
  match Primitive.ofBase? name with
  | some p => .ok p
  | none => .error (.unknownBase name context)

namespace MetaModel

/-- The type of a declared name. -/
def symbol (m : MetaModel) (name context : String) : Except MappingError TargetType :=
  match m.resolve name context with
  | .ok _ => .ok (.symbol name)
  | .error e => .error (.reference e)

/-! ## Types

`context` is the declaration that errors mention and `hint` the name that a declaration for the
type asks for. -/

def intersection (parts : List TargetType) : TypeSpec :=
  .record (Members.distinct ⟨parts.map Base.ofType, []⟩).bases []

def inlineRecord (fields : List Field) : TypeSpec :=
  .record [] (Members.distinct ⟨[], fields⟩).fields

mutual

def mapType (m : MetaModel) (documented : Bool) (context hint : String) :
    TypeExpr → Mapping TargetType
  | .base name => return .primitive (← Primitive.ofBase name context)
  | .reference name => m.symbol name context
  | .array element => return .list (← mapType m documented context (hint ++ "Item") element)
  | .map key value => do
    let k ← mapType m documented context (hint ++ "Key") key
    let v ← mapType m documented context (hint ++ "Value") value
    return .map k v
  | .tuple items => return .tuple (← mapItems m documented context hint 0 items)
  | .stringLiteral s => return TypeExpr.only (.text s)
  | .integerLiteral i => return TypeExpr.only (.integer i)
  | .booleanLiteral b => return TypeExpr.only (.boolean b)
  | .or items => do
    let t ←
      match TypeExpr.unionForm items with
      | .single => mapSingle m documented context hint items
      | .literals t => pure t
      | .variants => do
        let variants ← mapVariants m documented context hint [] 0 items
        Mapping.synthesize hint (.union variants)
    return t.optionalIf (TypeExpr.hasNull items)
  | .and items => do
    let parts ← mapItems m documented context (hint ++ "Part") 0 items
    Mapping.synthesize hint (intersection parts)
  | .literal l => do
    let fields ← mapLiteral m documented context hint l
    Mapping.synthesize hint (inlineRecord fields)

/-- Each item under the hint followed by its position. -/
def mapItems (m : MetaModel) (documented : Bool) (context hint : String) (position : Nat) :
    List TypeExpr → Mapping (List TargetType)
  | [] => return []
  | t :: rest => do
    let t ← mapType m documented context (hint ++ toString position) t
    return t :: (← mapItems m documented context hint (position + 1) rest)

/-- The first item that is not null; the unit type if there is none. -/
def mapSingle (m : MetaModel) (documented : Bool) (context hint : String) :
    List TypeExpr → Mapping TargetType
  | [] => return .primitive .unit
  | t :: rest =>
    if t.isNull then mapSingle m documented context hint rest
    else mapType m documented context hint t

/-- A variant for each item that is not null, under the hint followed by the variant's name. -/
def mapVariants (m : MetaModel) (documented : Bool) (context hint : String) (taken : List String)
    (position : Nat) : List TypeExpr → Mapping (List Variant)
  | [] => return []
  | t :: rest =>
    if t.isNull then mapVariants m documented context hint taken position rest
    else do
      let ident := t.variantIdent taken position
      let u ← mapType m documented context (hint ++ ident) t
      let us ← mapVariants m documented context hint (ident :: taken) (position + 1) rest
      return ⟨ident, some u⟩ :: us

def mapLiteral (m : MetaModel) (documented : Bool) (context owner : String) :
    StructLiteral → Mapping (List Field)
  | ⟨properties, _⟩ => mapProperties m documented context owner properties

def mapProperties (m : MetaModel) (documented : Bool) (context owner : String) :
    List Property → Mapping (List Field)
  | [] => return []
  | p :: rest => do
    let f ← mapProperty m documented context owner p
    return f :: (← mapProperties m documented context owner rest)

/-- The field for a property of `owner`. -/
def mapProperty (m : MetaModel) (documented : Bool) (context owner : String) :
    Property → Mapping Field
  | ⟨name, type, optional, annotations⟩ => do
    let t ← mapType m documented context (owner ++ Identifier.pascal name) type
    return ⟨Identifier.member name, name, t.optionalIf optional, optional,
      Docs.ofAnnotations documented annotations⟩

end

/-! ## Named types -/

/-- The variant for null, where there is one. -/
def nullVariant (items : List TypeExpr) : List Variant :=
  if TypeExpr.hasNull items then [⟨"Null", none⟩] else []

/-- What a declared name stands for. Unions, intersections and inline structures are declared under
the name itself; all else becomes a synonym. -/
def mapSpec (m : MetaModel) (documented : Bool) (name : String) (t : TypeExpr) :
    Mapping TypeSpec := do
  let other := TypeSpec.synonym <$> m.mapType documented name name t
  match t with
  | .or items =>
    match TypeExpr.unionForm items with
    | .variants => do
      return .union ((← m.mapVariants documented name name [] 0 items) ++ nullVariant items)
    | _ => other
  | .and items => return intersection (← m.mapItems documented name (name ++ "Part") 0 items)
  | .literal l => return inlineRecord (← m.mapLiteral documented name name l)
  | _ => other

def declare (m : MetaModel) (documented : Bool) (name : String) (t : TypeExpr) (docs : Docs) :
    Mapping TypeDecl :=
  return ⟨name, docs, ← m.mapSpec documented name t⟩

end MetaModel
end ProtocolTypes
