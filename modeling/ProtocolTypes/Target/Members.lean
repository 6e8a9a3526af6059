import ProtocolTypes.Target.Declaration

/-!
# ProtocolTypes.Target.Members

Making the member names of a record distinct. Bases come first, then fields; a name that was seen
before gets the least number from two on that makes it new.
-/

namespace ProtocolTypes
namespace Target

def numbered (name : String) (n : Nat) : String :=
  name ++ "_" ++ toString n

/-- The first free numbered name from `n` on. Among `fuel` consecutive numbers one is free when
fewer names are taken. -/
def firstFree (taken : List String) (name : String) (fuel n : Nat) : String :=
  match fuel with
  | 0 => numbered name n
  | fuel + 1 =>
    if taken.contains (numbered name n) then firstFree taken name fuel (n + 1)
    else numbered name n

/-- The name itself, or its first free numbered form. -/
def freshName (taken : List String) (name : String) : String :=
  if taken.contains name then firstFree taken name taken.length 2 else name

/-- The names made distinct from each other and from those taken. -/
def distinctNames (taken : List String) : List String → List String
  | [] => []
  | name :: rest =>
    let fresh := freshName taken name
    fresh :: distinctNames (fresh :: taken) rest

structure Members where
  bases : List Base
  fields : List Field
deriving DecidableEq, Repr

namespace Members

def names (m : Members) : List String :=
  m.bases.map (·.ident) ++ m.fields.map (·.ident)

def withNames (m : Members) (names : List String) : Members where
  bases := (m.bases.zip names).map fun (b, name) => { b with ident := name }
  fields := (m.fields.zip (names.drop m.bases.length)).map fun (f, name) => { f with ident := name }

def distinct (m : Members) : Members :=
  m.withNames (distinctNames [] m.names)

/-- How many members change their name. -/
def renamed (m : Members) : Nat :=
  (m.names.zip (distinctNames [] m.names)).countP fun (old, new) => old ≠ new

end Members
end Target
end ProtocolTypes
