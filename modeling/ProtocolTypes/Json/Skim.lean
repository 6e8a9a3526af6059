import ProtocolTypes.Json.StringScan

/-!
# ProtocolTypes.Json.Skim

Skipping a value that nobody looks at. Only the form is checked: brackets, commas, colons and the
shape of numbers and strings. Nesting has no limit.
-/

namespace ProtocolTypes
namespace Json

/-- The rest of a word whose first letter has been read. -/
def scanWord (letters : List Char) (c : Cursor) : Except SyntaxFault Cursor :=
  match letters with
  | [] => .ok c
  | ch :: letters =>
    match c.rest with
    | [] => c.fault .endInValue
    | s :: _ => if s = .char ch then scanWord letters c.advance else c.advance.fault .misspeltWord

namespace Skim

inductive Bracket where
  | list
  | object
deriving DecidableEq, Repr

namespace Bracket

def closing : Bracket → Char
  | .list => ']'
  | .object => '\x7d'

def endCause : Bracket → SyntaxCause
  | .list => .endInList
  | .object => .endInObject

def commaCause : Bracket → SyntaxCause
  | .list => .missingListComma
  | .object => .missingObjectComma

end Bracket

/-- A quoted key and its colon. -/
def skimKey (fuel : Nat) (c : Cursor) : Except SyntaxFault Cursor := do
  let c := c.skipBlanks
  if c.atEnd then c.peekFault .endInObject
  else if c.next? ≠ some '"' then c.peekFault .keyNotString
  else
    let c ← StringScan.skip fuel c.advance
    let c := c.skipBlanks
    if c.atEnd then c.peekFault .endInObject
    else if c.next? ≠ some ':' then c.peekFault .missingColon
    else .ok c.advance

/-- What comes next: a value, or something inside the innermost open bracket, where a comma may
stand after an earlier value. -/
inductive Due where
  | value
  | inside (commaAllowed : Bool)

/-- Skips until all open brackets are closed. Every second turn takes a symbol, so `fuel` beyond
twice the number of symbols left is never used up. -/
def run (fuel : Nat) (due : Due) (frames : List Bracket) (c : Cursor) :
    Except SyntaxFault Cursor :=
  match fuel with
  | 0 => c.fault .endInValue
  | fuel + 1 =>
    let c := c.skipBlanks
    match due with
    | .value =>
      match c.next? with
      | some 'n' => do run fuel (.inside true) frames (← scanWord ['u', 'l', 'l'] c.advance)
      | some 't' => do run fuel (.inside true) frames (← scanWord ['r', 'u', 'e'] c.advance)
      | some 'f' => do run fuel (.inside true) frames (← scanWord ['a', 'l', 's', 'e'] c.advance)
      | some '-' => do run fuel (.inside true) frames (← NumberScan.skip c.advance)
      | some '"' => do run fuel (.inside true) frames (← StringScan.skip fuel c.advance)
      | some '[' => run fuel (.inside false) (.list :: frames) c.advance
      | some '\x7b' => run fuel (.inside false) (.object :: frames) c.advance
      | some ch =>
        if Cursor.isDigit ch then do run fuel (.inside true) frames (← NumberScan.skip c)
        else c.peekFault .missingValue
      | none => c.peekFault (if c.atEnd then .endInValue else .missingValue)
    | .inside commaAllowed =>
      match frames with
      | [] => .ok c
      | frame :: outer =>
        if c.atEnd then c.peekFault frame.endCause
        else if c.next? = some frame.closing then run fuel (.inside true) outer c.advance
        else if commaAllowed && c.next? ≠ some ',' then c.peekFault frame.commaCause
        else
          let c := if commaAllowed then c.advance else c
          match frame with
          | .list => run fuel .value frames c
          | .object => do run fuel .value frames (← skimKey fuel c)

/-- Skips one value. -/
def value (fuel : Nat) (c : Cursor) : Except SyntaxFault Cursor :=
  run fuel .value [] c

end Skim
end Json
end ProtocolTypes
