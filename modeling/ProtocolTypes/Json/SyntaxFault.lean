/-!
# ProtocolTypes.Json.SyntaxFault

What can be wrong with a text that should be JSON, and the wording of each case.
-/

namespace ProtocolTypes
namespace Json

inductive SyntaxCause where
  | endInList
  | endInObject
  | endInString
  | endInValue
  | missingColon
  | missingListComma
  | missingObjectComma
  | misspeltWord
  | missingValue
  | invalidEscape
  | invalidNumber
  | numberOutOfRange
  | invalidCodePoint
  | controlCharacter
  | keyNotString
  | loneSurrogate
  | trailingComma
  | trailingCharacters
  | unfinishedSurrogatePair
  | tooDeep
deriving DecidableEq, Repr

namespace SyntaxCause

def message : SyntaxCause → String
  | .endInList => "EOF while parsing a list"
  | .endInObject => "EOF while parsing an object"
  | .endInString => "EOF while parsing a string"
  | .endInValue => "EOF while parsing a value"
  | .missingColon => "expected `:`"
  | .missingListComma => "expected `,` or `]`"
  | .missingObjectComma => "expected `,` or `\x7d`"
  | .misspeltWord => "expected ident"
  | .missingValue => "expected value"
  | .invalidEscape => "invalid escape"
  | .invalidNumber => "invalid number"
  | .numberOutOfRange => "number out of range"
  | .invalidCodePoint => "invalid unicode code point"
  | .controlCharacter => "control character (\\u0000-\\u001F) found while parsing a string"
  | .keyNotString => "key must be a string"
  | .loneSurrogate => "lone leading surrogate in hex escape"
  | .trailingComma => "trailing comma"
  | .trailingCharacters => "trailing characters"
  | .unfinishedSurrogatePair => "unexpected end of hex escape"
  | .tooDeep => "recursion limit exceeded"

end SyntaxCause

/-- A cause and the byte offset it is reported at. -/
structure SyntaxFault where
  cause : SyntaxCause
  offset : Nat
deriving DecidableEq, Repr

end Json
end ProtocolTypes
