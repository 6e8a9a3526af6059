import ProtocolTypes.Binary64.Basic
import ProtocolTypes.Target.Docs
import ProtocolTypes.Target.Type

/-!
# ProtocolTypes.Target.Declaration

Declarations of the generated source as values: they can be compared, ordered and searched for
recursion before they become text.
-/

namespace ProtocolTypes
namespace Target

/-! ## Type declarations -/

structure Field where
  ident : String
  /-- The name of the property in messages. -/
  wireName : String
  type : TargetType
  /-- The property may be absent. -/
  optional : Bool
  docs : Docs
deriving DecidableEq, Repr

/-- A field whose members count as members of the record that holds it. -/
structure Base where
  ident : String
  type : TargetType
deriving DecidableEq, Repr

namespace Base

/-- The base of a type, under the name of the type. -/
def ofType (t : TargetType) : Base :=
  ⟨Identifier.member (t.symbol?.getD "base"), t⟩

end Base

/-- An alternative of a union; the null alternative carries no value. -/
structure Variant where
  ident : String
  type : Option TargetType
deriving DecidableEq, Repr

inductive TypeSpec where
  | record (bases : List Base) (fields : List Field)
  | union (variants : List Variant)
  | synonym (type : TargetType)
  | newtype (carrier : Primitive)
deriving DecidableEq, Repr

structure TypeDecl where
  ident : String
  docs : Docs
  spec : TypeSpec
deriving DecidableEq, Repr

/-! ## Constants -/

inductive ConstValue where
  | int (value : Int32)
  | uint (value : UInt32)
  | float (value : Binary64)
  | text (value : String)
deriving DecidableEq, Repr

structure ConstDecl where
  ident : String
  value : ConstValue
  docs : Docs
deriving DecidableEq, Repr

/-- The constants of one enumeration, in the order of its entries. -/
structure ConstBlock where
  owner : String
  constants : List ConstDecl
deriving DecidableEq, Repr

inductive Decl where
  | type (decl : TypeDecl)
  | constants (block : ConstBlock)
deriving DecidableEq, Repr

namespace Decl

/-- The type that is declared, or that the constants belong to. -/
def ident : Decl → String
  | .type d => d.ident
  | .constants b => b.owner

end Decl
end Target
end ProtocolTypes
