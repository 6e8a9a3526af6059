import ProtocolTypes.Text.Character

/-!
# ProtocolTypes.Identifier.Casing

Turning names of a meta model into identifiers: snake case for members, Pascal case for types and
variants, and the replacement of characters that no identifier holds.
-/

namespace ProtocolTypes
namespace Identifier

open Text

/-! ## Snake case -/

/-- An uppercase letter opens a word after a lowercase letter or a digit, and after an uppercase
letter when a lowercase letter follows, so that runs of capitals stay together. -/
def opensWord (prev next : Option Char) : Bool :=
  match prev with
  | none => false
  | some p =>
    if isLowercase p || isAsciiDigit p then true
    else isUppercase p && next.any isLowercase

/-- The output so far with a separator, unless it ends in one. -/
def separate (out : List Char) : List Char :=
  if out.head? = some '_' then out else '_' :: out

/-- `out` is the output so far, last character first. -/
def snakeFrom (out : List Char) (prev : Option Char) : List Char → List Char
  | [] => out
  | c :: rest =>
    let out :=
      if isUppercase c then
        (toLower c).reverse ++ (if opensWord prev rest.head? then separate out else out)
      else if isAlphanumeric c || c = '_' then c :: out
      else if out.isEmpty then out
      else separate out
    snakeFrom out (some c) rest

/-- Lowercase words joined by underscores. -/
def snake (s : String) : String :=
  String.ofList (snakeFrom [] none s.toList).reverse

/-- The member name for a name of the meta model. -/
def member (s : String) : String :=
  let name := snake s
  if name.isEmpty then "field" else name

/-! ## Pascal case -/

/-- Everything but letters and numbers separates words; a word keeps its spelling except for its
first letter. -/
def pascalFrom (opening : Bool) : List Char → List Char
  | [] => []
  | c :: rest =>
    if isAlphanumeric c then
      (if opening then toUpper c else [c]) ++ pascalFrom false rest
    else pascalFrom true rest

/-- Capitalised words without separators; a leading digit gets a letter in front. -/
def pascal (s : String) : String :=
  let cs := pascalFrom true s.toList
  String.ofList (if cs.head?.any isAsciiDigit then 'V' :: cs else cs)

/-! ## Identifier characters -/

/-- Replaces every other character by an underscore and lets the result not start with a digit. -/
def sanitize (s : String) : String :=
  let cs := s.toList.map fun c => if isAlphanumeric c || c = '_' then c else '_'
  String.ofList (if cs.isEmpty || cs.head?.any isAsciiDigit then '_' :: cs else cs)

end Identifier
end ProtocolTypes
