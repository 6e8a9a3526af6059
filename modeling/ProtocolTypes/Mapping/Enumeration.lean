import ProtocolTypes.Mapping.Error
import ProtocolTypes.Model.MetaModel
import ProtocolTypes.Target.Declaration

/-!
# ProtocolTypes.Mapping.Enumeration

An enumeration becomes a wrapper of its base type, so that values it does not list remain possible,
and one constant per entry.
-/

namespace ProtocolTypes

open Target

namespace Enumeration

/-- The name of the base type; other forms of types go by the name of the form. -/
def baseName (e : Enumeration) : String :=
  e.type.base?.getD e.type.kind.name

/-- The primitive that carries the values. -/
def carrierOf? : String → Option Primitive
  | "integer" => some .int32
  | "uinteger" => some .uint32
  | "number" => some .float64
  | "string" => some .string
  | _ => none

/-- An entry's value in the carrier. Numbers lose their fraction in an integer carrier and stop at
its bounds. -/
def constant? : Primitive → EnumerationValue → Option ConstValue
  | .int32, .number x =>
    some (.int (Int32.ofInt (x.clampTo Int32.minValue.toInt Int32.maxValue.toInt)))
  | .uint32, .number x => some (.uint (UInt32.ofNat (x.clampTo 0 (UInt32.size - 1)).toNat))
  | .float64, .number x => some (.float x)
  | .string, .string s => some (.text s)
  | _, _ => none

/-- The constant for an entry. -/
def mapEntry (documented : Bool) (e : Enumeration) (carrier : Primitive)
    (entry : EnumerationEntry) : Except MappingError ConstDecl :=
  match constant? carrier entry.value with
  | some v => .ok ⟨e.name ++ entry.name, v, Docs.ofAnnotations documented entry.annotations⟩
  | none => .error (.entryMismatch e.name entry.name e.baseName)

/-- The wrapper type and the constants of an enumeration. -/
def declare (documented : Bool) (e : Enumeration) : Except MappingError (TypeDecl × ConstBlock) :=
  match carrierOf? e.baseName with
  | none => .error (.enumerationBase e.name e.baseName)
  | some carrier => do
    let constants ← e.values.mapM (mapEntry documented e carrier)
    return (⟨e.name, Docs.ofAnnotations documented e.annotations, .newtype carrier⟩,
      ⟨e.name, constants⟩)

end Enumeration
end ProtocolTypes
