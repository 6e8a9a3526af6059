import ProtocolTypes.Binary64.Decimal
import ProtocolTypes.Json.Input
import ProtocolTypes.Json.SyntaxFault
import ProtocolTypes.Json.Value
import ProtocolTypes.Text.Quoted

/-!
# ProtocolTypes.Decoding.Fault

Why a document does not decode: a complaint, the path of the node it is about, and the place in
the text it is reported at, when there is one.
-/

namespace ProtocolTypes
namespace Decoding

/-- What stands where something else was expected. -/
inductive Found where
  | null
  | bool (value : Bool)
  | number (value : JsonNumber)
  | string (value : String)
  | list
  | object

namespace Found

def describe : Found → String
  | .null => "null"
  | .bool b => "boolean `" ++ toString b ++ "`"
  | .number (.integer i) => "integer `" ++ toString i ++ "`"
  | .number (.float x) => "floating point `" ++ x.general ++ "`"
  | .string s => "string " ++ Text.Quoted.display s
  | .list => "sequence"
  | .object => "map"

end Found

inductive Complaint where
  | malformed (cause : Json.SyntaxCause)
  | wrongType (found : Found) (expected : String)
  | outOfRange (found : Found) (expected : String)
  | wrongLength (length : Nat) (expected : String)
  | missingField (name : String)
  | duplicateField (name : String)
  | unknownChoice (found : String) (choices : List String)
  | noMatch (target : String)
  | unsupportedKind (name : String)

namespace Complaint

def quoted (name : String) : String :=
  "`" ++ name ++ "`"

def message : Complaint → String
  | .malformed cause => cause.message
  | .wrongType found expected => "invalid type: " ++ found.describe ++ ", expected " ++ expected
  | .outOfRange found expected => "invalid value: " ++ found.describe ++ ", expected " ++ expected
  | .wrongLength length expected =>
    "invalid length " ++ toString length ++ ", expected " ++ expected
  | .missingField name => "missing field " ++ quoted name
  | .duplicateField name => "duplicate field " ++ quoted name
  | .unknownChoice found choices =>
    "unknown variant " ++ quoted found ++ ", expected one of " ++
      ", ".intercalate (choices.map quoted)
  | .noMatch target => "data did not match any variant of untagged enum " ++ target
  | .unsupportedKind name => "type kind '" ++ name ++ "' is not supported"

end Complaint

/-- A step from a node to one of its parts; `unknown` leads to a member whose key was not read. -/
inductive Step where
  | key (name : String)
  | index (i : Nat)
  | unknown
deriving DecidableEq, Repr

namespace Step

def render : Step → String
  | .key name => name
  | .index i => "[" ++ toString i ++ "]"
  | .unknown => "?"

/-- The path as text: indices follow directly, other steps after a dot; the root is a dot. -/
def renderPath : List Step → String
  | [] => "."
  | first :: rest => rest.foldl (fun s step => s ++ separator step ++ step.render) first.render
where
  separator : Step → String
    | .index _ => ""
    | _ => "."

end Step

structure Fault where
  path : List Step
  complaint : Complaint
  offset : Option Nat

/-- The outcome of decoding a node. -/
abbrev Decoded (α : Type) := Except Fault α

namespace Fault

def ofSyntax (f : Json.SyntaxFault) : Fault :=
  ⟨[], .malformed f.cause, some f.offset⟩

/-- The same fault, seen from the parent node. -/
def inside (step : Step) (f : Fault) : Fault :=
  { f with path := step :: f.path }

/-- Reports the fault at `landing` unless it has a place already. -/
def settle (landing : Nat) (f : Fault) : Fault :=
  { f with offset := some (f.offset.getD landing) }

end Fault

/-- A place in a text, lines counted from one. Columns count the bytes of the line before it. -/
structure Position where
  line : Nat
  column : Nat
deriving DecidableEq, Repr

namespace Position

/-- The position of a byte offset. -/
def ofOffset (input : List Json.Symbol) (offset : Nat) : Position :=
  go 1 0 0 input
where
  go (line lineStart at_ : Nat) : List Json.Symbol → Position
    | [] => ⟨line, offset - lineStart⟩
    | s :: rest =>
      if offset ≤ at_ then ⟨line, offset - lineStart⟩
      else if s = .char '\n' then go (line + 1) (at_ + 1) (at_ + 1) rest
      else go line lineStart (at_ + s.width) rest

def describe (p : Position) : String :=
  " at line " ++ toString p.line ++ " column " ++ toString p.column

end Position

namespace Fault

/-- The complaint and where in the input it was noticed. -/
def message (input : List Json.Symbol) (f : Fault) : String :=
  match f.offset with
  | some offset => f.complaint.message ++ (Position.ofOffset input offset).describe
  | none => f.complaint.message

end Fault
end Decoding
end ProtocolTypes
