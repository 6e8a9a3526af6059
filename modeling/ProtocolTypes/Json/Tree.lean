import ProtocolTypes.Json.SyntaxFault
import ProtocolTypes.Json.Value

/-!
# ProtocolTypes.Json.Tree

The syntax tree of a text that may stop being JSON anywhere. A fault is a leaf: whatever stands
before it can still be looked at, so that a complaint about an earlier part comes first.

Each node carries the offset it starts at, and a single value also the offset it stops at. Each
position inside an array or object carries the offset at which a complaint about the enclosing
value is reported once reading has got that far (`landing`).
-/

namespace ProtocolTypes
namespace Json

/-- A member's key, the offset after it, and the landing after it. -/
structure Key where
  text : String
  stop : Nat
  landing : Nat
deriving DecidableEq, Repr

mutual

inductive Tree where
  | broken (start : Nat) (fault : SyntaxFault)
  | skipped
  | null (start stop : Nat)
  | bool (start stop : Nat) (value : Bool)
  | number (start stop : Nat) (value : JsonNumber)
  | string (start stop : Nat) (value : String)
  | array (start : Nat) (elements : Elements)
  | object (start : Nat) (members : Members)

/-- What stands between brackets: elements, then the end or a fault. -/
inductive Elements where
  | closed (stop : Nat)
  | broken (fault : SyntaxFault)
  | element (value : Tree) (landing : Nat) (rest : Elements)

/-- What stands between braces: members, then the end or a fault. `badKey` is a fault where a key
was due. -/
inductive Members where
  | closed (stop : Nat)
  | broken (fault : SyntaxFault)
  | badKey (fault : SyntaxFault)
  | badColon (key : Key) (fault : SyntaxFault)
  | member (key : Key) (value : Tree) (landing : Nat) (rest : Members)

end

/-- Which members a reader is interested in. A record's members under other keys are skipped; a
record may also be written as an array of its fields in order. -/
inductive Shape where
  | anything
  | record (fields : List (String × Shape))

namespace Shape

/-- The shape of the value under a key; `none` for a member to skip. -/
def member? : Shape → String → Option Shape
  | .anything, _ => some .anything
  | .record fields, key => (fields.find? (·.1 = key)).map (·.2)

def elements : Shape → List Shape
  | .anything => []
  | .record fields => fields.map (·.2)

end Shape
end Json
end ProtocolTypes
