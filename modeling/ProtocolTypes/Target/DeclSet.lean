import ProtocolTypes.Target.Declaration

/-!
# ProtocolTypes.Target.DeclSet

The order of declarations in generated source: by name, a type before the constants of its name.
Declarations that agree in both stay in the order they were added in.
-/

namespace ProtocolTypes
namespace Target

namespace Decl

def rank : Decl → Nat
  | .type _ => 0
  | .constants _ => 1

/-- `a` may stand before `b`. -/
def le (a b : Decl) : Bool :=
  decide (a.ident < b.ident) || (a.ident = b.ident && a.rank ≤ b.rank)

end Decl

/-- Declarations in the order they were added in. -/
structure DeclSet where
  decls : List Decl
deriving DecidableEq, Repr

namespace DeclSet

def empty : DeclSet := ⟨[]⟩

def add (s : DeclSet) (d : Decl) : DeclSet :=
  ⟨s.decls ++ [d]⟩

/-- Several type declarations, in their order. -/
def addTypes (s : DeclSet) (ts : List TypeDecl) : DeclSet :=
  ⟨s.decls ++ ts.map .type⟩

def size (s : DeclSet) : Nat :=
  s.decls.length

def isEmpty (s : DeclSet) : Bool :=
  s.decls.isEmpty

def sorted (s : DeclSet) : List Decl :=
  s.decls.mergeSort Decl.le

end DeclSet
end Target
end ProtocolTypes
