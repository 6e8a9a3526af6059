import ProtocolTypes.Text.Table.Alphanumeric
import ProtocolTypes.Text.Table.GraphemeExtend
import ProtocolTypes.Text.Table.IdentifierContinue
import ProtocolTypes.Text.Table.IdentifierStart
import ProtocolTypes.Text.Table.LowerMapping
import ProtocolTypes.Text.Table.Lowercase
import ProtocolTypes.Text.Table.Unprintable
import ProtocolTypes.Text.Table.UpperMapping
import ProtocolTypes.Text.Table.Uppercase

/-!
# ProtocolTypes.Text.Character

Classes and case mappings of characters. ASCII is decided by comparison, everything else by the
tables.
-/

namespace ProtocolTypes
namespace Text

def isAsciiUpper (c : Char) : Bool :=
  'A' ≤ c && c ≤ 'Z'

def isAsciiLower (c : Char) : Bool :=
  'a' ≤ c && c ≤ 'z'

def isAsciiDigit (c : Char) : Bool :=
  '0' ≤ c && c ≤ '9'

def isAscii (c : Char) : Bool :=
  c.toNat < 128

def isUppercase (c : Char) : Bool :=
  if isAscii c then isAsciiUpper c else Table.uppercase.contains c.toNat

def isLowercase (c : Char) : Bool :=
  if isAscii c then isAsciiLower c else Table.lowercase.contains c.toNat

/-- Letters and numbers, letters in the wide sense of the Alphabetic property. -/
def isAlphanumeric (c : Char) : Bool :=
  if isAscii c then isAsciiUpper c || isAsciiLower c || isAsciiDigit c
  else Table.alphanumeric.contains c.toNat

/-- Characters that may open an identifier. -/
def isIdentifierStart (c : Char) : Bool :=
  if isAscii c then isAsciiUpper c || isAsciiLower c || c = '_'
  else Table.identifierStart.contains c.toNat

/-- Characters that may follow in an identifier. -/
def isIdentifierContinue (c : Char) : Bool :=
  if isAscii c then isAsciiUpper c || isAsciiLower c || isAsciiDigit c || c = '_'
  else Table.identifierContinue.contains c.toNat

/-- The half-width voicing marks. They extend graphemes by definition, but they are letters that
take a place of their own. -/
def isHalfwidthMark (c : Char) : Bool :=
  c = '\uff9e' || c = '\uff9f'

/-- Combining characters, which are shown together with the character before them. -/
def isCombining (c : Char) : Bool :=
  !isAscii c && !isHalfwidthMark c && Table.graphemeExtend.contains c.toNat

/-- The letters that stand for a missing part of a Hangul syllable and are not shown at all. -/
def isHangulFiller (c : Char) : Bool :=
  c = '\u115f' || c = '\u1160' || c = '\u3164' || c = '\uffa0'

/-- Characters with a visible shape, and the plain space. -/
def isPrintable (c : Char) : Bool :=
  if isAscii c then ' ' ≤ c && c ≤ '~'
  else !isHangulFiller c && !Table.unprintable.contains c.toNat

def toLower (c : Char) : List Char :=
  if isAscii c then [if isAsciiUpper c then Char.ofNat (c.toNat + 32) else c]
  else (Table.lowerMapping.apply c.toNat).map Char.ofNat

def toUpper (c : Char) : List Char :=
  if isAscii c then [if isAsciiLower c then Char.ofNat (c.toNat - 32) else c]
  else (Table.upperMapping.apply c.toNat).map Char.ofNat

end Text
end ProtocolTypes
