import ProtocolTypes.Json.Skim
import ProtocolTypes.Json.Tree

/-!
# ProtocolTypes.Json.Reader

Reading a text into its syntax tree. Arrays and objects may be nested `maxDepth` levels deep.
-/

namespace ProtocolTypes
namespace Json

/-- How many arrays and objects may be open at once. -/
def maxDepth : Nat := 127

namespace Reader

/-! ## Landings -/

/-- Where a complaint about an object is reported: past the blanks, and past a closing brace. -/
def objectLanding (c : Cursor) : Nat :=
  let c := c.skipBlanks
  if c.next? = some '\x7d' then c.offset + 1 else c.offset

/-- Where a complaint about an array is reported: past the blanks, and past a closing bracket or
a comma and the blanks after it. -/
def arrayLanding (c : Cursor) : Nat :=
  let c := c.skipBlanks
  match c.next? with
  | some ']' => c.offset + 1
  | some ',' => c.advance.skipBlanks.offset
  | _ => c.offset

/-! ## Nodes -/

/-- A tree, and the place after it unless reading stopped within it. -/
abbrev Reading (α : Type) := α × Option Cursor

def word (letters : List Char) (node : Nat → Nat → Tree) (c : Cursor) : Reading Tree :=
  match scanWord letters c.advance with
  | .ok after => (node c.offset after.offset, some after)
  | .error f => (.broken c.offset f, none)

def number (c : Cursor) : Reading Tree :=
  let negative := c.next? = some '-'
  match NumberScan.scan negative (if negative then c.advance else c) with
  | .ok (n, after) => (.number c.offset after.offset n, some after)
  | .error f => (.broken c.offset f, none)

def string (fuel : Nat) (c : Cursor) : Reading Tree :=
  match StringScan.scan fuel c.advance with
  | .ok (s, after) => (.string c.offset after.offset s, some after)
  | .error f => (.broken c.offset f, none)

def skip (fuel : Nat) (c : Cursor) : Reading Tree :=
  match Skim.value fuel c with
  | .ok after => (.skipped, some after)
  | .error f => (.broken c.offset f, none)

def peekFault (c : Cursor) (cause : SyntaxCause) : SyntaxFault :=
  ⟨cause, c.peekOffset⟩

/-- What is due inside an array: the first element, or a comma and an element, or the end. -/
inductive ElementDue where
  | element (c : Cursor)
  | closed (c : Cursor)
  | fault (f : SyntaxFault)

def elementDue (first : Bool) (c : Cursor) : ElementDue :=
  let c := c.skipBlanks
  if c.atEnd then .fault (peekFault c .endInList)
  else if c.next? = some ']' then .closed c.advance
  else if first then .element c
  else if c.next? = some ',' then
    let c := c.advance.skipBlanks
    if c.atEnd then .fault (peekFault c .endInValue)
    else if c.next? = some ']' then .fault (peekFault c .trailingComma)
    else .element c
  else .fault (peekFault c .missingListComma)

/-- What is due inside an object: a quoted key, after a comma unless it is the first, or the end.
`noKey` is the fault of a place where a key is due and something else stands. -/
inductive MemberDue where
  | key (c : Cursor)
  | closed (c : Cursor)
  | noKey (f : SyntaxFault)

def memberDue (first : Bool) (c : Cursor) : MemberDue :=
  let c := c.skipBlanks
  if c.atEnd then .noKey (peekFault c .endInObject)
  else if c.next? = some '\x7d' then .closed c.advance
  else if first then
    if c.next? = some '"' then .key c.advance else .noKey (peekFault c .keyNotString)
  else if c.next? = some ',' then
    let c := c.advance.skipBlanks
    if c.atEnd then .noKey (peekFault c .endInValue)
    else if c.next? = some '"' then .key c.advance
    else if c.next? = some '\x7d' then .noKey (peekFault c .trailingComma)
    else .noKey (peekFault c .keyNotString)
  else .noKey (peekFault c .missingObjectComma)

mutual

/-- Reads a value of the given shape; `room` is the number of levels that may still be opened.
Every second call takes a symbol, so `fuel` beyond twice the number of symbols left is never used
up. -/
def value (fuel room : Nat) (shape : Shape) (c : Cursor) : Reading Tree :=
  match fuel with
  | 0 => (.broken c.offset (peekFault c .endInValue), none)
  | fuel + 1 =>
    let c := c.skipBlanks
    match c.next? with
    | some 'n' => word ['u', 'l', 'l'] .null c
    | some 't' => word ['r', 'u', 'e'] (.bool · · true) c
    | some 'f' => word ['a', 'l', 's', 'e'] (.bool · · false) c
    | some '-' => number c
    | some '"' => string fuel c
    | some '[' =>
      match room with
      | 0 => (.array c.offset (.broken (peekFault c .tooDeep)), none)
      | room + 1 =>
        let (body, after) := elements fuel room shape.elements true c.advance
        (.array c.offset body, after)
    | some '\x7b' =>
      match room with
      | 0 => (.object c.offset (.broken (peekFault c .tooDeep)), none)
      | room + 1 =>
        let (body, after) := members fuel room shape true c.advance
        (.object c.offset body, after)
    | some ch =>
      if Cursor.isDigit ch then number c
      else (.broken c.offset (peekFault c .missingValue), none)
    | none =>
      (.broken c.offset (peekFault c (if c.atEnd then .endInValue else .missingValue)), none)

/-- Reads elements up to the closing bracket. -/
def elements (fuel room : Nat) (shapes : List Shape) (first : Bool) (c : Cursor) :
    Reading Elements :=
  match fuel with
  | 0 => (.broken (peekFault c .endInList), none)
  | fuel + 1 =>
    match elementDue first c with
    | .fault f => (.broken f, none)
    | .closed c => (.closed c.offset, some c)
    | .element c =>
      match value fuel room (shapes.head?.getD .anything) c with
      | (v, none) => (.element v 0 (.closed 0), none)
      | (v, some c) =>
        let (rest, after) := elements fuel room (shapes.drop 1) false c
        (.element v (arrayLanding c) rest, after)

/-- Reads members up to the closing brace. -/
def members (fuel room : Nat) (shape : Shape) (first : Bool) (c : Cursor) : Reading Members :=
  match fuel with
  | 0 => (.broken (peekFault c .endInObject), none)
  | fuel + 1 =>
    match memberDue first c with
    | .noKey f => (.badKey f, none)
    | .closed c => (.closed c.offset, some c)
    | .key c =>
      match StringScan.scan fuel c with
      | .error f => (.badKey f, none)
      | .ok (text, c) =>
        let key : Key := ⟨text, c.offset, objectLanding c⟩
        let c := c.skipBlanks
        if c.atEnd then (.badColon key (peekFault c .endInObject), none)
        else if c.next? ≠ some ':' then (.badColon key (peekFault c .missingColon), none)
        else
          let (v, after) :=
            match shape.member? text with
            | some s => value fuel room s c.advance
            | none => skip fuel c.advance
          match after with
          | none => (.member key v 0 (.closed 0), none)
          | some c =>
            let (rest, after) := members fuel room shape false c
            (.member key v (objectLanding c) rest, after)

end

end Reader

/-- The syntax tree of an input and the place after it. -/
def read (shape : Shape) (input : List Symbol) : Tree × Option Cursor :=
  Reader.value (2 * input.length + 4) maxDepth shape (Cursor.ofSymbols input)

end Json
end ProtocolTypes
