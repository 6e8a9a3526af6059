import ProtocolTypes.Json.NumberScan

/-!
# ProtocolTypes.Json.StringScan

Reading strings. `scan` gives the text; `skip` checks the form only, so it accepts stray bytes and
escapes of half a surrogate pair.
-/

namespace ProtocolTypes
namespace Json
namespace StringScan

/-! ## Escapes -/

def hexDigit? : Symbol → Option Nat
  | .char c =>
    if '0' ≤ c && c ≤ '9' then some (c.toNat - 48)
    else if 'a' ≤ c && c ≤ 'f' then some (c.toNat - 87)
    else if 'A' ≤ c && c ≤ 'F' then some (c.toNat - 55)
    else none
  | .stray => none

/-- A number of four hexadecimal digits. Four bytes are taken whatever they are. -/
def scanHex (c : Cursor) : Scan Nat :=
  let fault : Scan Nat :=
    if 4 ≤ c.remainingBytes then .error ⟨.invalidEscape, c.offset + 4⟩
    else .error ⟨.endInString, c.offset + c.remainingBytes⟩
  match c.rest with
  | h₁ :: h₂ :: h₃ :: h₄ :: rest =>
    match hexDigit? h₁, hexDigit? h₂, hexDigit? h₃, hexDigit? h₄ with
    | some n₁, some n₂, some n₃, some n₄ =>
      .ok (((n₁ * 16 + n₂) * 16 + n₃) * 16 + n₄, ⟨c.offset + 4, rest⟩)
    | _, _, _, _ => fault
  | _ => fault

def isLeadingSurrogate (n : Nat) : Bool :=
  0xD800 ≤ n && n ≤ 0xDBFF

def isTrailingSurrogate (n : Nat) : Bool :=
  0xDC00 ≤ n && n ≤ 0xDFFF

/-- One byte of the second escape of a surrogate pair. -/
def expect (ch : Char) (c : Cursor) : Except SyntaxFault Cursor :=
  match c.rest with
  | [] => c.fault .endInString
  | s :: _ => if s = .char ch then .ok c.advance else c.advance.fault .unfinishedSurrogatePair

/-- From after the letter of a code point escape. A leading surrogate needs a second escape with
a trailing one. -/
def scanCodePoint (c : Cursor) : Except SyntaxFault (Char × Cursor) := do
  let (n, c) ← scanHex c
  if isTrailingSurrogate n then c.fault .loneSurrogate
  else if isLeadingSurrogate n then
    let c ← expect '\\' c
    let c ← expect 'u' c
    let (m, c) ← scanHex c
    if isTrailingSurrogate m then
      .ok (Char.ofNat ((n - 0xD800) * 1024 + (m - 0xDC00) + 0x10000), c)
    else c.fault .loneSurrogate
  else .ok (Char.ofNat n, c)

def simpleEscape? : Char → Option Char
  | '"' => some '"'
  | '\\' => some '\\'
  | '/' => some '/'
  | 'b' => some '\x08'
  | 'f' => some '\x0c'
  | 'n' => some '\n'
  | 'r' => some '\r'
  | 't' => some '\t'
  | _ => none

/-- From after the backslash. -/
def scanEscape (c : Cursor) : Scan Char :=
  match c.rest with
  | [] => c.fault .endInString
  | .char 'u' :: _ => scanCodePoint c.advance
  | .char e :: _ =>
    match simpleEscape? e with
    | some ch => .ok (ch, c.advance)
    | none => c.advance.fault .invalidEscape
  | .stray :: _ => c.advance.fault .invalidEscape

/-- As `scanEscape`, without regard to surrogates. -/
def skipEscape (c : Cursor) : Except SyntaxFault Cursor :=
  match c.rest with
  | [] => c.fault .endInString
  | .char 'u' :: _ => (scanHex c.advance).map (·.2)
  | .char e :: _ =>
    if (simpleEscape? e).isSome then .ok c.advance else c.advance.fault .invalidEscape
  | .stray :: _ => c.advance.fault .invalidEscape

/-! ## Strings -/

/-- Reads up to the closing quote. `stray?` is the width of the text from its first stray byte on,
escapes counted by what they stand for. When the string ends, the stray byte is reported that many
bytes before the end. Each turn takes a symbol, so `fuel` beyond the number of symbols left is
never used up. -/
def scanBody (fuel : Nat) (acc : List Char) (stray? : Option Nat) (c : Cursor) : Scan String :=
  match fuel with
  | 0 => c.fault .endInString
  | fuel + 1 =>
    match c.rest with
    | [] => c.fault .endInString
    | .stray :: _ => scanBody fuel acc (some (stray?.getD 0 + 1)) c.advance
    | .char '"' :: _ =>
      match stray? with
      | some width => .error ⟨.invalidCodePoint, c.advance.offset - width⟩
      | none => .ok (String.ofList acc.reverse, c.advance)
    | .char '\\' :: _ =>
      match scanEscape c.advance with
      | .ok (ch, c) => scanBody fuel (ch :: acc) (stray?.map (· + ch.utf8Size)) c
      | .error f => .error f
    | .char ch :: rest =>
      if ch < ' ' then c.advance.fault .controlCharacter
      else
        scanBody fuel (ch :: acc) (stray?.map (· + ch.utf8Size)) ⟨c.offset + ch.utf8Size, rest⟩

/-- From after the opening quote. -/
def scan (fuel : Nat) (c : Cursor) : Scan String :=
  scanBody fuel [] none c

/-- From after the opening quote. -/
def skip (fuel : Nat) (c : Cursor) : Except SyntaxFault Cursor :=
  match fuel with
  | 0 => c.fault .endInString
  | fuel + 1 =>
    match c.rest with
    | [] => c.fault .endInString
    | .stray :: _ => skip fuel c.advance
    | .char '"' :: _ => .ok c.advance
    | .char '\\' :: _ =>
      match skipEscape c.advance with
      | .ok c => skip fuel c
      | .error f => .error f
    | .char ch :: rest =>
      if ch < ' ' then c.fault .controlCharacter
      else skip fuel ⟨c.offset + ch.utf8Size, rest⟩

end StringScan
end Json
end ProtocolTypes
