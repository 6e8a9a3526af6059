import ProtocolTypes.Identifier.Casing
import ProtocolTypes.Text.Quoted

/-!
# ProtocolTypes.Target.Type

Types of the generated source.
-/

namespace ProtocolTypes
namespace Target

inductive Primitive where
  | bool
  | int32
  | uint32
  | float64
  | string
  | unit
deriving DecidableEq, Repr

namespace Primitive

/-- The name of the primitive in generated source. -/
def spelling : Primitive → String
  | .bool => "bool"
  | .int32 => "i32"
  | .uint32 => "u32"
  | .float64 => "f64"
  | .string => "String"
  | .unit => "()"

end Primitive

/-- A value that a constrained type is limited to. -/
inductive LiteralValue where
  | text (value : String)
  | integer (value : Int64)
  | boolean (value : Bool)
deriving DecidableEq, Repr

namespace LiteralValue

/-- The primitive that carries the value. -/
def primitive : LiteralValue → Primitive
  | .text _ => .string
  | .integer _ => .int32
  | .boolean _ => .bool

def describe : LiteralValue → String
  | .text s => Text.Quoted.display s
  | .integer i => toString i.toInt
  | .boolean b => toString b

end LiteralValue

/-- `symbol` names a declaration, `boxed` is a value on the heap, and `constrained` is a primitive
limited to some of its values. -/
inductive TargetType where
  | primitive (p : Primitive)
  | symbol (name : String)
  | list (element : TargetType)
  | map (key value : TargetType)
  | tuple (items : List TargetType)
  | option (inner : TargetType)
  | boxed (inner : TargetType)
  | constrained (base : Primitive) (values : List LiteralValue)
deriving Repr

namespace TargetType

/-! ## Equality -/

mutual

def decEq : (a b : TargetType) → Decidable (a = b)
  | .primitive p, b =>
    match b with
    | .primitive q =>
      if h : p = q then isTrue (h ▸ rfl) else isFalse fun e => h (by injection e)
    | .symbol _ | .list _ | .map _ _ | .tuple _ | .option _ | .boxed _ | .constrained _ _ =>
      isFalse nofun
  | .symbol x, b =>
    match b with
    | .symbol y => if h : x = y then isTrue (h ▸ rfl) else isFalse fun e => h (by injection e)
    | .primitive _ | .list _ | .map _ _ | .tuple _ | .option _ | .boxed _ | .constrained _ _ =>
      isFalse nofun
  | .list s, b =>
    match b with
    | .list t =>
      match decEq s t with
      | isTrue h => isTrue (h ▸ rfl)
      | isFalse h => isFalse fun e => h (by injection e)
    | .primitive _ | .symbol _ | .map _ _ | .tuple _ | .option _ | .boxed _ | .constrained _ _ =>
      isFalse nofun
  | .map k v, b =>
    match b with
    | .map l w =>
      match decEq k l, decEq v w with
      | isTrue h, isTrue i => isTrue (h ▸ i ▸ rfl)
      | isFalse h, _ => isFalse fun e => h (by injection e)
      | _, isFalse h => isFalse fun e => h (by injection e)
    | .primitive _ | .symbol _ | .list _ | .tuple _ | .option _ | .boxed _ | .constrained _ _ =>
      isFalse nofun
  | .tuple ss, b =>
    match b with
    | .tuple ts =>
      match decEqList ss ts with
      | isTrue h => isTrue (h ▸ rfl)
      | isFalse h => isFalse fun e => h (by injection e)
    | .primitive _ | .symbol _ | .list _ | .map _ _ | .option _ | .boxed _ | .constrained _ _ =>
      isFalse nofun
  | .option s, b =>
    match b with
    | .option t =>
      match decEq s t with
      | isTrue h => isTrue (h ▸ rfl)
      | isFalse h => isFalse fun e => h (by injection e)
    | .primitive _ | .symbol _ | .list _ | .map _ _ | .tuple _ | .boxed _ | .constrained _ _ =>
      isFalse nofun
  | .boxed s, b =>
    match b with
    | .boxed t =>
      match decEq s t with
      | isTrue h => isTrue (h ▸ rfl)
      | isFalse h => isFalse fun e => h (by injection e)
    | .primitive _ | .symbol _ | .list _ | .map _ _ | .tuple _ | .option _ | .constrained _ _ =>
      isFalse nofun
  | .constrained p vs, b =>
    match b with
    | .constrained q ws =>
      if h : p = q ∧ vs = ws then isTrue (h.1 ▸ h.2 ▸ rfl)
      else isFalse fun e => h (by injection e with h₁ h₂; exact ⟨h₁, h₂⟩)
    | .primitive _ | .symbol _ | .list _ | .map _ _ | .tuple _ | .option _ | .boxed _ =>
      isFalse nofun

def decEqList : (as bs : List TargetType) → Decidable (as = bs)
  | [], [] => isTrue rfl
  | [], _ :: _ => isFalse nofun
  | _ :: _, [] => isFalse nofun
  | a :: as, b :: bs =>
    match decEq a b, decEqList as bs with
    | isTrue h, isTrue i => isTrue (h ▸ i ▸ rfl)
    | isFalse h, _ => isFalse fun e => h (by injection e)
    | _, isFalse h => isFalse fun e => h (by injection e)

end

instance : DecidableEq TargetType := decEq

/-! ## Views -/

def isOption : TargetType → Bool
  | .option _ => true
  | _ => false

/-- An optional value of the type; a type that is optional already stays as it is. -/
def optional (t : TargetType) : TargetType :=
  if t.isOption then t else .option t

def optionalIf (wanted : Bool) (t : TargetType) : TargetType :=
  if wanted then t.optional else t

/-- The declaration a type names, also on the heap. -/
def symbol? : TargetType → Option String
  | .symbol name => some name
  | .boxed inner => inner.symbol?
  | _ => none

/-- The values a type is limited to, also when it is optional. -/
def constraint? : TargetType → Option (List LiteralValue)
  | .constrained _ values => some values
  | .option inner => inner.constraint?
  | _ => none

end TargetType
end Target
end ProtocolTypes
