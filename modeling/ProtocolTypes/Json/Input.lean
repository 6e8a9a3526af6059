/-!
# ProtocolTypes.Json.Input

Input as a list of symbols with byte offsets. A symbol is a character, or a byte that belongs to
no character, so that text and arbitrary bytes are read by the same functions.
-/

namespace ProtocolTypes
namespace Json

inductive Symbol where
  | char (c : Char)
  | stray
deriving DecidableEq, Repr

namespace Symbol

/-- How many bytes the symbol takes. -/
def width : Symbol → Nat
  | .char c => c.utf8Size
  | .stray => 1

def ofText (s : String) : List Symbol :=
  s.toList.map .char

/-! ## Bytes

A character takes one to four bytes. The first byte fixes the length and the range of the second
byte; all further bytes lie in `0x80 .. 0xBF`. -/

def isTail (b : UInt8) : Bool :=
  0x80 ≤ b && b ≤ 0xBF

/-- The range of the second byte after a given first byte. -/
def secondInRange (first second : UInt8) : Bool :=
  if first = 0xE0 then 0xA0 ≤ second && second ≤ 0xBF
  else if first = 0xED then 0x80 ≤ second && second ≤ 0x9F
  else if first = 0xF0 then 0x90 ≤ second && second ≤ 0xBF
  else if first = 0xF4 then 0x80 ≤ second && second ≤ 0x8F
  else isTail second

/-- The character whose code point has the given six-bit groups, most significant first. -/
def assemble (lead : Nat) (tails : List UInt8) : Symbol :=
  .char (Char.ofNat (tails.foldl (fun n b => n * 64 + b.toNat % 64) lead))

/-- The symbol that a byte opens, given the bytes after it. -/
def opened (a : UInt8) (rest : List UInt8) : Symbol :=
  if a < 0x80 then .char (Char.ofNat a.toNat)
  else
    match rest with
    | b :: rest =>
      if 0xC2 ≤ a && a ≤ 0xDF && isTail b then assemble (a.toNat % 32) [b]
      else
        match rest with
        | c :: rest =>
          if 0xE0 ≤ a && a ≤ 0xEF && secondInRange a b && isTail c then
            assemble (a.toNat % 16) [b, c]
          else
            match rest with
            | d :: _ =>
              if 0xF0 ≤ a && a ≤ 0xF4 && secondInRange a b && isTail c && isTail d then
                assemble (a.toNat % 8) [b, c, d]
              else .stray
            | [] => .stray
        | [] => .stray
    | [] => .stray

/-- Splits bytes into characters; a byte that opens no complete character is stray. The first
`covered` bytes belong to a symbol already taken. -/
def splitBytes (covered : Nat) : List UInt8 → List Symbol
  | [] => []
  | a :: rest =>
    match covered with
    | n + 1 => splitBytes n rest
    | 0 =>
      let s := opened a rest
      s :: splitBytes (s.width - 1) rest

def ofBytes (bytes : List UInt8) : List Symbol :=
  splitBytes 0 bytes

end Symbol

/-- A place in the input: the number of bytes before it and the symbols after it. -/
structure Cursor where
  offset : Nat
  rest : List Symbol

namespace Cursor

def ofSymbols (symbols : List Symbol) : Cursor :=
  ⟨0, symbols⟩

/-- The offset after one more byte, or the end of the input. -/
def peekOffset (c : Cursor) : Nat :=
  match c.rest with
  | [] => c.offset
  | _ :: _ => c.offset + 1

/-- The place after a one-byte symbol. -/
def advance (c : Cursor) : Cursor :=
  ⟨c.offset + 1, c.rest.drop 1⟩

def remainingBytes (c : Cursor) : Nat :=
  c.rest.foldl (fun n s => n + s.width) 0

def isBlank (c : Char) : Bool :=
  c = ' ' || c = '\n' || c = '\t' || c = '\r'

/-- The place after the blanks. -/
def skipBlanks (c : Cursor) : Cursor :=
  go c.offset c.rest
where
  go (offset : Nat) : List Symbol → Cursor
    | .char b :: rest => if isBlank b then go (offset + 1) rest else ⟨offset, .char b :: rest⟩
    | rest => ⟨offset, rest⟩

/-- The next character, if a character comes next. -/
def next? (c : Cursor) : Option Char :=
  match c.rest with
  | .char ch :: _ => some ch
  | _ => none

def atEnd (c : Cursor) : Bool :=
  c.rest.isEmpty

end Cursor
end Json
end ProtocolTypes
