import ProtocolTypes.Identifier.Casing
import ProtocolTypes.Text.Quoted

/-!
# ProtocolTypes.Identifier.Spelling

How a name is spelt as an identifier of the generated source. Keywords get a raw prefix, the few
keywords without a raw form an underscore behind.
-/

namespace ProtocolTypes
namespace Identifier

/-- The keywords of the generated language, reserved ones included. -/
def keywords : List String :=
  ["_", "abstract", "as", "async", "await", "become", "box", "break", "const", "continue",
    "crate", "do", "dyn", "else", "enum", "extern", "false", "final", "fn", "for", "gen", "if",
    "impl", "in", "let", "loop", "macro", "match", "mod", "move", "mut", "override", "priv",
    "pub", "ref", "return", "self", "Self", "static", "struct", "super", "trait", "true", "try",
    "type", "typeof", "unsafe", "unsized", "use", "virtual", "where", "while", "yield"]

/-- The keywords that cannot be written as raw identifiers. -/
def withoutRawForm : List String :=
  ["_", "crate", "self", "Self", "super"]

def isKeyword (s : String) : Bool :=
  keywords.contains s

def isKeywordWithoutRawForm (s : String) : Bool :=
  withoutRawForm.contains s

/-- An identifier as it stands in generated source. -/
structure Ident where
  raw : Bool
  name : String
deriving DecidableEq, Repr

namespace Ident

def spelling (i : Ident) : String :=
  if i.raw then "r#" ++ i.name else i.name

end Ident

/-- A name that is no identifier even after its characters were replaced. -/
structure NotIdentifier where
  name : String
deriving DecidableEq, Repr

namespace NotIdentifier

def message (e : NotIdentifier) : String :=
  Text.Quoted.display e.name ++ " is not a valid Ident"

end NotIdentifier

/-- Whether the characters form an identifier. -/
def isWellFormed (s : String) : Bool :=
  match s.toList with
  | [] => false
  | c :: rest => Text.isIdentifierStart c && rest.all Text.isIdentifierContinue

/-- The identifier for a name. -/
def spell (s : String) : Except NotIdentifier Ident :=
  let clean := sanitize s
  let i : Ident :=
    if isKeywordWithoutRawForm clean then ⟨false, clean ++ "_"⟩ else ⟨isKeyword clean, clean⟩
  if isWellFormed i.name then .ok i else .error ⟨i.name⟩

end Identifier
end ProtocolTypes
