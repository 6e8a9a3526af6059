import ProtocolTypes.Model.MetaModel

/-!
# ProtocolTypes.Model.Declared

What a name stands for. The declarations of a meta model are read in one order, structures before
enumerations before aliases, and the last declaration of a name is the one that counts.
-/

namespace ProtocolTypes

inductive Declared where
  | struct (s : Structure)
  | enumeration (e : Enumeration)
  | typeAlias (a : TypeAlias)

namespace Declared

def name : Declared → String
  | .struct s => s.name
  | .enumeration e => e.name
  | .typeAlias a => a.name

/-- The last declaration of a name. -/
def last? (name : String) : List Declared → Option Declared
  | [] => none
  | d :: rest => (last? name rest).or (if d.name = name then some d else none)

/-- A later declaration bears the same name. -/
def isShadowedBy (d : Declared) (later : List Declared) : Bool :=
  later.any fun e => e.name = d.name

/-- The declarations that no later one shadows. -/
def primaries : List Declared → List Declared
  | [] => []
  | d :: rest => if d.isShadowedBy rest then primaries rest else d :: primaries rest

/-- For each declaration, whether it is the last of its name. -/
def primaryFlags : List Declared → List Bool
  | [] => []
  | d :: rest => (!d.isShadowedBy rest) :: primaryFlags rest

end Declared

namespace MetaModel

def declarations (m : MetaModel) : List Declared :=
  m.structures.map .struct ++ m.enumerations.map .enumeration ++ m.typeAliases.map .typeAlias

/-- What a name stands for. -/
def find? (m : MetaModel) (name : String) : Option Declared :=
  Declared.last? name m.declarations

/-- The declarations that names stand for, each once. -/
def primaries (m : MetaModel) : List Declared :=
  Declared.primaries m.declarations

def names (m : MetaModel) : List String :=
  m.primaries.map Declared.name

end MetaModel
end ProtocolTypes
