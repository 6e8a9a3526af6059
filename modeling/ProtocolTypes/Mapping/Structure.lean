import ProtocolTypes.Mapping.TypeExpr

/-!
# ProtocolTypes.Mapping.Structure

Records for structures and declarations for aliases. The bases of a structure become members whose
own members count as the record's, or their properties are copied into the record; the properties of
mixins are always copied.
-/

namespace ProtocolTypes

open Target

/-- What the generated declarations hold. -/
structure MappingOptions where
  /-- Inherited properties are copied. -/
  flattenBases : Bool := false
  /-- Documentation is kept. -/
  documented : Bool := true
deriving DecidableEq, Repr

namespace Mapping

def ofResolution {α : Type} : Except ReferenceError α → Mapping α
  | .ok x => return x
  | .error e => throw (.reference e)

end Mapping

namespace MetaModel

/-- The bases of the record for a structure and the properties that become its fields. Inheritance
has to be sound in either case. -/
def recordParts (m : MetaModel) (flattenBases : Bool) (s : Structure) :
    Except ReferenceError (List Base × List OwnedProperty) := do
  let all ← m.flatten s
  if flattenBases then return ([], all)
  else do
    let names ← m.baseNames s
    let mixed ← m.flattenMixins s
    return (names.map fun name => Base.ofType (.symbol name), mixed ++ s.ownProperties)

def mapStructure (m : MetaModel) (o : MappingOptions) (s : Structure) : Mapping TypeDecl := do
  let (bases, properties) ← Mapping.ofResolution (m.recordParts o.flattenBases s)
  let fields ← properties.mapM fun p => m.mapProperty o.documented s.name p.owner p.property
  let members := Members.distinct ⟨bases, fields⟩
  return ⟨s.name, Docs.ofAnnotations o.documented s.annotations,
    .record members.bases members.fields⟩

def mapAlias (m : MetaModel) (o : MappingOptions) (a : TypeAlias) : Mapping TypeDecl :=
  m.declare o.documented a.name a.type (Docs.ofAnnotations o.documented a.annotations)

end MetaModel
end ProtocolTypes
