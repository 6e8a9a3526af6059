import ProtocolTypes.Model.Inheritance

/-!
# ProtocolTypes.Mapping.Error

Why a meta model has no declarations.
-/

namespace ProtocolTypes

inductive MappingError where
  | reference (error : ReferenceError)
  /-- A base type that is none of the known ones. -/
  | unknownBase (name context : String)
  /-- The values of an enumeration cannot be of this type. -/
  | enumerationBase (enumeration base : String)
  /-- A number among strings or a string among numbers. -/
  | entryMismatch (enumeration entry base : String)
deriving DecidableEq, Repr

namespace MappingError

def message : MappingError → String
  | .reference error => "reference resolution error: " ++ error.message
  | .unknownBase name context => "unsupported base type '" ++ name ++ "' in '" ++ context ++ "'"
  | .enumerationBase enumeration base =>
    "enumeration '" ++ enumeration ++ "': unsupported base type '" ++ base ++ "'"
  | .entryMismatch enumeration entry base =>
    "enumeration '" ++ enumeration ++ "': value of entry '" ++ entry ++ "' is not a valid " ++ base

end MappingError
end ProtocolTypes
