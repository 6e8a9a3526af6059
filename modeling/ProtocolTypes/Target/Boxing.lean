import ProtocolTypes.Target.Declaration

/-!
# ProtocolTypes.Target.Boxing

Types that contain themselves by value have no finite size. Where a member of a record or of a
union names a declaration that leads back to the record or union through values alone, the member
moves to the heap. Lists and maps keep their elements there already.
-/

namespace ProtocolTypes
namespace Target

/-! ## Containment -/

namespace TargetType

mutual

/-- The declarations a type contains by value, each as often as it is named. -/
def contained : TargetType → List String
  | .symbol name => [name]
  | .option inner => inner.contained
  | .tuple items => containedAll items
  | .primitive _ | .list _ | .map _ _ | .boxed _ | .constrained _ _ => []

def containedAll : List TargetType → List String
  | [] => []
  | t :: rest => t.contained ++ containedAll rest

end

mutual

/-- The type with the declarations of `cycle` that it contains by value moved to the heap. -/
def box (cycle : List String) : TargetType → TargetType
  | .symbol name => if cycle.contains name then .boxed (.symbol name) else .symbol name
  | .option inner => .option (inner.box cycle)
  | .tuple items => .tuple (boxAll cycle items)
  | .primitive p => .primitive p
  | .list element => .list element
  | .map key value => .map key value
  | .boxed inner => .boxed inner
  | .constrained base values => .constrained base values

def boxAll (cycle : List String) : List TargetType → List TargetType
  | [] => []
  | t :: rest => t.box cycle :: boxAll cycle rest

end

end TargetType

namespace TypeSpec

/-- The types of the members of a record or union. -/
def members : TypeSpec → List TargetType
  | .record bases fields => bases.map (·.type) ++ fields.map (·.type)
  | .union variants => variants.filterMap (·.type)
  | .synonym _ | .newtype _ => []

/-- The declarations a declaration contains by value. -/
def contained : TypeSpec → List String
  | .synonym t => t.contained
  | spec => TargetType.containedAll spec.members

def box (cycle : List String) : TypeSpec → TypeSpec
  | .record bases fields =>
    .record (bases.map fun b => { b with type := b.type.box cycle })
      (fields.map fun f => { f with type := f.type.box cycle })
  | .union variants => .union (variants.map fun v => { v with type := v.type.map (·.box cycle) })
  | .synonym t => .synonym t
  | .newtype p => .newtype p

/-- How many members' parts move to the heap. -/
def boxedCount (cycle : List String) (spec : TypeSpec) : Nat :=
  (TargetType.containedAll spec.members).countP cycle.contains

end TypeSpec

/-! ## Reachability -/

/-- Names of declarations and what each contains by value. -/
abbrev Containment := List (String × List String)

namespace Containment

def declares (name : String) : Decl → Bool
  | .type d => d.ident = name
  | .constants _ => false

/-- Of several type declarations of one name the last one counts. -/
def ofDecls : List Decl → Containment
  | [] => []
  | .type d :: rest =>
    if rest.any (declares d.ident) then ofDecls rest
    else (d.ident, d.spec.contained) :: ofDecls rest
  | .constants _ :: rest => ofDecls rest

/-- The declarations that contain one of the names. -/
def containing (g : Containment) (names : List String) : List String :=
  (g.filter fun (_, contained) => contained.any names.contains).map Prod.fst

/-- Adds the declarations that contain a known one, round by round, until a round finds no new one.
Every round but the last finds one, so there are no more rounds than declarations. -/
def saturate (g : Containment) (rounds : Nat) (known : List String) : List String :=
  match rounds with
  | 0 => known
  | rounds + 1 =>
    match (g.containing known).filter fun name => !known.contains name with
    | [] => known
    | found => saturate g rounds (known ++ found)

/-- The declarations with a path of one or more steps to `owner`. -/
def leadingTo (g : Containment) (owner : String) : List String :=
  g.saturate g.length (g.containing [owner])

end Containment

/-! ## Boxing -/

namespace Decl

def box (g : Containment) : Decl → Decl
  | .type d => .type { d with spec := d.spec.box (g.leadingTo d.ident) }
  | .constants b => .constants b

def boxedCount (g : Containment) : Decl → Nat
  | .type d => d.spec.boxedCount (g.leadingTo d.ident)
  | .constants _ => 0

end Decl

/-- Declarations without cycles through values. -/
def boxed (ds : List Decl) : List Decl :=
  ds.map (Decl.box (.ofDecls ds))

/-- How many parts of types move to the heap. -/
def boxedCount (ds : List Decl) : Nat :=
  (ds.map (Decl.boxedCount (.ofDecls ds))).foldr (· + ·) 0

end Target
end ProtocolTypes
