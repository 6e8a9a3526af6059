/-!
# ProtocolTypes.Text.Lines

The lines of a text. A line ends at a line feed, and a carriage return before the line feed belongs
to the ending; a line feed at the very end opens no further line.
-/

namespace ProtocolTypes
namespace Text

/-- `line` is the current line so far, last character first. -/
def linesFrom (line : List Char) : List Char → List (List Char)
  | [] => if line.isEmpty then [] else [line.reverse]
  | c :: rest =>
    if c = '\n' then
      (if line.head? = some '\r' then line.tail else line).reverse :: linesFrom [] rest
    else linesFrom (c :: line) rest

def lines (s : String) : List String :=
  (linesFrom [] s.toList).map String.ofList

/-- `needle` stands somewhere in the characters. -/
def occursIn (needle : List Char) : List Char → Bool
  | [] => needle.isEmpty
  | c :: rest => needle.isPrefixOf (c :: rest) || occursIn needle rest

end Text
end ProtocolTypes
