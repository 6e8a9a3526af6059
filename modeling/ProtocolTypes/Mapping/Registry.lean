import ProtocolTypes.Target.Declaration

/-!
# ProtocolTypes.Mapping.Registry

The declarations made for types that have no name in the meta model. A type asks for a name; it
shares the declaration of that name when the shapes agree, and otherwise gets the first numbered
form of the name that it may have.
-/

namespace ProtocolTypes

open Target

/-- No declaration bears a reserved name. -/
structure Registry where
  reserved : List String
  decls : List TypeDecl
deriving DecidableEq, Repr

namespace Registry

def empty (reserved : List String) : Registry :=
  ⟨reserved, []⟩

def find? (r : Registry) (name : String) : Option TypeDecl :=
  r.decls.find? fun d => d.ident = name

/-- The names a type may get, in order: the one it asks for, then numbered from two on. -/
def candidate (name : String) : Nat → String
  | 0 => name
  | n + 1 => name ++ toString (n + 2)

/-- A name serves a shape when it is not reserved and is not held by another shape. -/
def serves (r : Registry) (spec : TypeSpec) (name : String) : Bool :=
  !r.reserved.contains name &&
    match r.find? name with
    | none => true
    | some d => d.spec = spec

/-- The first candidate from the `n`-th on that serves the shape. Of more candidates than there are
reserved and registered names one serves every shape, so the last need not be tested. -/
def firstServing (r : Registry) (spec : TypeSpec) (name : String) (fuel n : Nat) : String :=
  match fuel with
  | 0 => candidate name n
  | fuel + 1 =>
    if r.serves spec (candidate name n) then candidate name n
    else firstServing r spec name fuel (n + 1)

/-- The name a declaration gets. -/
def nameFor (r : Registry) (d : TypeDecl) : String :=
  r.firstServing d.spec d.ident (r.reserved.length + r.decls.length) 0

/-- The name a declaration gets, and the registry that holds it. -/
def register (r : Registry) (d : TypeDecl) : String × Registry :=
  let name := r.nameFor d
  match r.find? name with
  | some _ => (name, r)
  | none => (name, { r with decls := r.decls ++ [{ d with ident := name }] })

end Registry
end ProtocolTypes
