import ProtocolTypes.Mapping.Enumeration
import ProtocolTypes.Mapping.Structure
import ProtocolTypes.Target.Boxing
import ProtocolTypes.Target.DeclSet

/-!
# ProtocolTypes.Mapping.Declarations

All declarations for a meta model: those of its names, then those that types without names needed,
in the order of generated source and without cycles through values.
-/

namespace ProtocolTypes

open Target

namespace MetaModel

/-- The declarations for one name. -/
def mapDeclared (m : MetaModel) (o : MappingOptions) : Declared → Mapping (List Decl)
  | .struct s => return [.type (← m.mapStructure o s)]
  | .enumeration e => do
    let (type, block) ← e.declare o.documented
    return [.type type, .constants block]
  | .typeAlias a => return [.type (← m.mapAlias o a)]

def mapPrimaries (m : MetaModel) (o : MappingOptions) : Mapping (List Decl) :=
  return (← m.primaries.mapM (m.mapDeclared o)).flatten

/-- The declarations of the names and of the registry, as they were made. -/
def collect (m : MetaModel) (o : MappingOptions) : Except MappingError DeclSet :=
  match (m.mapPrimaries o).run (.empty m.names) with
  | (.ok decls, r) => .ok ⟨decls ++ r.decls.map .type⟩
  | (.error e, _) => .error e

def targetDecls (m : MetaModel) (o : MappingOptions) : Except MappingError (List Decl) :=
  (fun s => boxed s.sorted) <$> m.collect o

end MetaModel
end ProtocolTypes
