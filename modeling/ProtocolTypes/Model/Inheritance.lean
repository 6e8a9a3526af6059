import ProtocolTypes.Model.Declared

/-!
# ProtocolTypes.Model.Inheritance

The properties that a structure gets from its bases and mixins. Properties are never merged: one
that is inherited twice is listed twice.
-/

namespace ProtocolTypes

/-! ## Errors -/

/-- How a structure refers to another one. -/
inductive Relation where
  | base
  | mixin
deriving DecidableEq, Repr

namespace Relation

def name : Relation → String
  | .base => "base"
  | .mixin => "mixin"

end Relation

inductive ReferenceError where
  /-- An entry of the bases or mixins of `owner` is no reference. -/
  | notReference (owner : String) (relation : Relation) (position : Nat)
  /-- A name is not declared. -/
  | unknown (name context : String)
  /-- A base or mixin is declared as something else. -/
  | notStructure (name owner : String)
  /-- The last structure of the path occurs earlier on it. -/
  | circular (path : List String)
deriving DecidableEq, Repr

namespace ReferenceError

def message : ReferenceError → String
  | .notReference owner relation position =>
    "structure '" ++ owner ++ "': " ++ relation.name ++ " #" ++ toString position ++
      " is not a reference"
  | .unknown name context => "unknown type '" ++ name ++ "' referenced from '" ++ context ++ "'"
  | .notStructure name owner =>
    "'" ++ name ++ "' referenced from structure '" ++ owner ++ "' is not a structure"
  | .circular path => "circular structure inheritance detected: " ++ " -> ".intercalate path

end ReferenceError

/-! ## Inherited properties -/

/-- A property and the structure that declares it. -/
structure OwnedProperty where
  owner : String
  property : Property

namespace Structure

def ownProperties (s : Structure) : List OwnedProperty :=
  s.properties.map fun p => ⟨s.name, p⟩

/-- The entries of one relation, in order. -/
def entries (s : Structure) : Relation → List TypeExpr
  | .base => s.bases
  | .mixin => s.mixins

end Structure

namespace MetaModel

def resolve (m : MetaModel) (name context : String) : Except ReferenceError Declared :=
  match m.find? name with
  | some d => .ok d
  | none => .error (.unknown name context)

/-- The structure that an entry of the bases or mixins of `s` names. -/
def parent (m : MetaModel) (s : Structure) (relation : Relation) (position : Nat) (t : TypeExpr) :
    Except ReferenceError Structure :=
  match t.reference? with
  | none => .error (.notReference s.name relation position)
  | some name =>
    match m.resolve name s.name with
    | .ok (.struct p) => .ok p
    | .ok _ => .error (.notStructure name s.name)
    | .error e => .error e

/-- Every entry of one relation, read by `visit` before the next entry is looked at. -/
def visitParents {α : Type} (m : MetaModel) (visit : Structure → Except ReferenceError α)
    (s : Structure) (relation : Relation) : Except ReferenceError (List α) :=
  (s.entries relation).zipIdx.mapM fun (t, position) => do
    visit (← m.parent s relation position t)

/-- All properties of a structure: those of its bases, those of its mixins, its own. `chain` holds
the structures that led here and `fuel` bounds how many more may follow. -/
def flattenFrom (m : MetaModel) (fuel : Nat) (chain : List String) (s : Structure) :
    Except ReferenceError (List OwnedProperty) :=
  match fuel with
  | 0 => .error (.circular (chain ++ [s.name]))
  | fuel + 1 =>
    if chain.contains s.name then .error (.circular (chain ++ [s.name]))
    else do
      let visit := flattenFrom m fuel (chain ++ [s.name])
      let bases ← m.visitParents visit s .base
      let mixins ← m.visitParents visit s .mixin
      return bases.flatten ++ mixins.flatten ++ s.ownProperties

/-- A chain of distinct declared names ends before it is longer than this. -/
def chainBound (m : MetaModel) : Nat :=
  m.structures.length + 2

/-- All properties of a structure, inherited ones first. -/
def flatten (m : MetaModel) (s : Structure) : Except ReferenceError (List OwnedProperty) :=
  m.flattenFrom m.chainBound [] s

/-- All properties of the mixins of a structure. -/
def flattenMixins (m : MetaModel) (s : Structure) : Except ReferenceError (List OwnedProperty) :=
  List.flatten <$> m.visitParents (m.flattenFrom m.chainBound [s.name]) s .mixin

def baseNames (m : MetaModel) (s : Structure) : Except ReferenceError (List String) :=
  m.visitParents (fun p => .ok p.name) s .base

end MetaModel
end ProtocolTypes
