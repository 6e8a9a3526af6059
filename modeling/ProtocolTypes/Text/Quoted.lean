import ProtocolTypes.Text.Character

/-!
# ProtocolTypes.Text.Quoted

Text between double quotes. A character is written as itself when it is printable and does not
combine with the character before it, by a short escape when it has one, and by its code point
otherwise.
-/

namespace ProtocolTypes
namespace Text
namespace Quoted

/-- A backslash and a letter for the characters that have such an escape. -/
def shortEscape? : Char → Option Char
  | '\x00' => some '0'
  | '\t' => some 't'
  | '\r' => some 'r'
  | '\n' => some 'n'
  | '\\' => some '\\'
  | '"' => some '"'
  | _ => none

/-- The code point in hexadecimal between braces. -/
def codePoint (c : Char) : List Char :=
  '\\' :: 'u' :: '\x7b' :: (Nat.toDigits 16 c.toNat ++ ['\x7d'])

def escapeChar (c : Char) : List Char :=
  match shortEscape? c with
  | some e => ['\\', e]
  | none => if isCombining c || !isPrintable c then codePoint c else [c]

/-- Every character escaped on its own. -/
def escape (s : List Char) : List Char :=
  s.flatMap escapeChar

/-- As `escape`, except that a null character before an octal digit is spelt with two digits, so
that it cannot be read as an octal escape. -/
def escapeUnambiguous : List Char → List Char
  | [] => []
  | c :: rest =>
    if c = '\x00' && rest.head?.any (fun d => '0' ≤ d && d ≤ '7') then
      ['\\', 'x', '0', '0'] ++ escapeUnambiguous rest
    else escapeChar c ++ escapeUnambiguous rest

def quote (body : List Char) : String :=
  String.ofList ('"' :: (body ++ ['"']))

/-- The text as it is shown in messages and documentation. -/
def display (s : String) : String :=
  quote (escape s.toList)

/-- The text as a string literal of generated source. -/
def literal (s : String) : String :=
  quote (escapeUnambiguous s.toList)

end Quoted
end Text
end ProtocolTypes
