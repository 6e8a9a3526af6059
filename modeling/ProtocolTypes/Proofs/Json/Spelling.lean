import ProtocolTypes.Json.StringScan
import ProtocolTypes.Proofs.Json.Document

/-!
# ProtocolTypes.Proofs.Json.Spelling

The texts a document can be written as. Blanks may stand around every part, a character of a
string may be escaped, and a number is a sign, digits, a point with digits and an exponent. The
value of a numeral is what is read of it when nothing else is there.
-/

namespace ProtocolTypes
namespace Json

/-! ## Blanks -/

def Blank (w : List Char) : Prop :=
  ∀ c ∈ w, Cursor.isBlank c = true

/-- What stands before an item of an array or object, or before its end: blanks, and between two
items a comma. -/
def Gap (first : Bool) (g : List Char) : Prop :=
  if first then Blank g else ∃ w w', Blank w ∧ Blank w' ∧ g = w ++ ',' :: w'

/-! ## Strings -/

/-- The number that four hexadecimal digits write. -/
def hexValue? : List Char → Option Nat
  | [h₁, h₂, h₃, h₄] => do
    let n₁ ← StringScan.hexDigit? (.char h₁)
    let n₂ ← StringScan.hexDigit? (.char h₂)
    let n₃ ← StringScan.hexDigit? (.char h₃)
    let n₄ ← StringScan.hexDigit? (.char h₄)
    return ((n₁ * 16 + n₂) * 16 + n₃) * 16 + n₄
  | _ => none

open StringScan in
/-- The ways to write a character between quotes. -/
inductive CharSpelling : Char → List Char → Prop
  | plain {c : Char} (visible : ¬ c < ' ') (noQuote : c ≠ '"') (noEscape : c ≠ '\\') :
      CharSpelling c [c]
  | letter {c e : Char} (named : simpleEscape? e = some c) : CharSpelling c ['\\', e]
  | codePoint {n : Nat} {hs : List Char} (written : hexValue? hs = some n)
      (noLead : isLeadingSurrogate n = false) (noTrail : isTrailingSurrogate n = false) :
      CharSpelling (Char.ofNat n) ('\\' :: 'u' :: hs)
  | surrogates {n m : Nat} {hs ls : List Char} (lead : hexValue? hs = some n)
      (trail : hexValue? ls = some m) (isLead : isLeadingSurrogate n = true)
      (isTrail : isTrailingSurrogate m = true) :
      CharSpelling (Char.ofNat ((n - 0xD800) * 1024 + (m - 0xDC00) + 0x10000))
        ('\\' :: 'u' :: hs ++ '\\' :: 'u' :: ls)

/-- The ways to write a text between quotes. -/
inductive TextSpelling : List Char → List Char → Prop
  | nil : TextSpelling [] []
  | cons {c : Char} {cs u v : List Char} (head : CharSpelling c u) (tail : TextSpelling cs v) :
      TextSpelling (c :: cs) (u ++ v)

/-- A string in quotes. -/
def Quotes (s : String) (cs : List Char) : Prop :=
  ∃ u, TextSpelling s.toList u ∧ cs = '"' :: (u ++ ['"'])

/-! ## Numbers -/

/-- At least one digit. -/
structure DigitRun where
  chars : List Char
  nonempty : chars ≠ []
  digits : ∀ c ∈ chars, Cursor.isDigit c = true

namespace DigitRun

def values (r : DigitRun) : List Nat :=
  r.chars.map fun c => c.toNat - 48

end DigitRun

structure Exponent where
  upper : Bool
  /-- Whether a minus sign is written, if any sign is. -/
  sign? : Option Bool
  run : DigitRun

namespace Exponent

def letter (e : Exponent) : Char :=
  if e.upper then 'E' else 'e'

def sign (e : Exponent) : List Char :=
  match e.sign? with
  | none => []
  | some false => ['+']
  | some true => ['-']

def text (e : Exponent) : List Char :=
  e.letter :: (e.sign ++ e.run.chars)

end Exponent

structure Numeral where
  negative : Bool
  whole : DigitRun
  fraction : Option DigitRun
  exponent : Option Exponent
  /-- A zero stands alone before the point. -/
  noLeadingZero : whole.chars.head? = some '0' → whole.chars.length = 1

namespace Numeral

def fractionText (n : Numeral) : List Char :=
  (n.fraction.map fun r => '.' :: r.chars).getD []

def exponentText (n : Numeral) : List Char :=
  (n.exponent.map Exponent.text).getD []

/-- The text after the sign. -/
def unsigned (n : Numeral) : List Char :=
  n.whole.chars ++ (n.fractionText ++ n.exponentText)

def text (n : Numeral) : List Char :=
  if n.negative then '-' :: n.unsigned else n.unsigned

/-- The value of a number that stands alone. -/
def value? (n : Numeral) : Option JsonNumber :=
  (NumberScan.scan n.negative (.ofSymbols (n.unsigned.map .char))).toOption.map (·.1)

end Numeral

/-! ## Documents -/

namespace Document

mutual

/-- The document can be written as these characters, without blanks around it. -/
def Spells : Document → List Char → Prop
  | .null, cs => cs = ['n', 'u', 'l', 'l']
  | .bool true, cs => cs = ['t', 'r', 'u', 'e']
  | .bool false, cs => cs = ['f', 'a', 'l', 's', 'e']
  | .number v, cs => ∃ n : Numeral, n.value? = v ∧ cs = n.text
  | .string s, cs => Quotes s cs
  | .array ds, cs => ∃ u, SpellsElements true ds u ∧ cs = '[' :: u
  | .object ms, cs => ∃ u, SpellsMembers true ms u ∧ cs = '\x7b' :: u
  | .unread, _ => False

/-- What may stand up to the closing bracket; `first` when no element stands before. -/
def SpellsElements (first : Bool) : List Document → List Char → Prop
  | [], cs => ∃ w, Blank w ∧ cs = w ++ [']']
  | d :: ds, cs =>
    ∃ g u v, Gap first g ∧ Spells d u ∧ SpellsElements false ds v ∧ cs = g ++ (u ++ v)

/-- What may stand up to the closing brace. -/
def SpellsMembers (first : Bool) : List (String × Document) → List Char → Prop
  | [], cs => ∃ w, Blank w ∧ cs = w ++ ['\x7d']
  | (key, d) :: ms, cs =>
    ∃ g k w w' u v, Gap first g ∧ Quotes key k ∧ Blank w ∧ Blank w' ∧ Spells d u ∧
      SpellsMembers false ms v ∧ cs = g ++ (k ++ (w ++ ':' :: (w' ++ (u ++ v))))

end

/-- The text is the document, up to blanks around it. -/
def WrittenAs (d : Document) (text : String) : Prop :=
  ∃ w u w', Blank w ∧ d.Spells u ∧ Blank w' ∧ text.toList = w ++ (u ++ w')

end Document
end Json
end ProtocolTypes
