import ProtocolTypes.Source.Layout
import ProtocolTypes.Text.Quoted

/-!
# ProtocolTypes.Source.Item

The items of a source file: statements and braced bodies with their attributes.
-/

namespace ProtocolTypes
namespace Source

inductive Attribute where
  /-- A line of documentation. -/
  | doc (line : String)
  | list (name : String) (arguments : List Layout)

/-- A line of a braced body. -/
structure Member where
  attributes : List Attribute
  layout : Layout

inductive Item where
  | braced (attributes : List Attribute) (head : Layout) (members : List Member)
  | statement (attributes : List Attribute) (layout : Layout)

/-! ## Text -/

/-- Blanks at the end of a line are dropped. -/
def trimBlanks (s : String) : String :=
  String.ofList (s.toList.reverse.dropWhile (· = ' ')).reverse

/-- Drops the blanks before each line feed; `blanks` have been seen since the last other
character. -/
def trimInnerBlanks (blanks : Nat) : List Char → List Char
  | [] => List.replicate blanks ' '
  | c :: rest =>
    if c = ' ' then trimInnerBlanks (blanks + 1) rest
    else if c = '\n' then c :: trimInnerBlanks 0 rest
    else List.replicate blanks ' ' ++ c :: trimInnerBlanks 0 rest

/-- Whether block comments open and close properly within a text. -/
def commentsNest (depth : Nat) : List Char → Bool
  | '/' :: '*' :: rest => commentsNest (depth + 1) rest
  | '*' :: '/' :: rest =>
    match depth with
    | 0 => false
    | depth + 1 => commentsNest depth rest
  | _ :: rest => commentsNest depth rest
  | [] => depth = 0

/-- A block comment can hold the text. A slash at its end would make the closing mark an opening
one. -/
def fitsBlockComment (text : List Char) : Bool :=
  commentsNest 0 text && text.getLast? ≠ some '/'

namespace Attribute

/-- A line of documentation, which may hold line feeds: a line comment if it has none, otherwise a
block comment if one can hold it. -/
def docText (line : String) : String :=
  if !line.toList.contains '\n' then trimBlanks ("///" ++ line)
  else if fitsBlockComment line.toList then
    "/**" ++ String.ofList (trimInnerBlanks 0 line.toList) ++ "*/"
  else "#[doc = " ++ Text.Quoted.literal line ++ "]"

def layout : Attribute → Layout
  | .doc line => .text (docText line)
  | .list name arguments => .text ("#[" ++ name) ++ .bracketed "(" ")" .never arguments ++ .text "]"

def render (indent : Nat) (a : Attribute) : String :=
  a.layout.render indent ++ "\n"

end Attribute

def renderAttributes (indent : Nat) (attributes : List Attribute) : String :=
  String.join (attributes.map (Attribute.render indent))

namespace Member

def render (m : Member) : String :=
  renderAttributes Layout.indentStep m.attributes ++
    (m.layout ++ .text ",").render Layout.indentStep ++ "\n"

end Member

namespace Item

def render : Item → String
  | .braced attributes head members =>
    renderAttributes 0 attributes ++ (head ++ .text " \x7b").render 0 ++
      (if members.isEmpty then "" else "\n" ++ String.join (members.map Member.render)) ++ "\x7d\n"
  | .statement attributes layout =>
    renderAttributes 0 attributes ++ (layout ++ .text ";").render 0 ++ "\n"

end Item
end Source
end ProtocolTypes
