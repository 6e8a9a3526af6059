/-!
# ProtocolTypes.Source.Layout

Laying out a piece of source on lines of limited width. Items between brackets stand on one line
when they and the text up to the next place for a line break fit; otherwise each has a line of its
own. Widths are counted in bytes.
-/

namespace ProtocolTypes
namespace Source

/-- Where a comma follows the last item between brackets. -/
inductive LastComma where
  | never
  /-- Where the items stand on lines of their own. -/
  | onLines
  | always
deriving DecidableEq, Repr

inductive Layout where
  | text (s : String)
  | append (a b : Layout)
  | bracketed (opening closing : String) (lastComma : LastComma) (items : List Layout)

namespace Layout

instance : Append Layout := ⟨append⟩

/-! ## Widths -/

def lineWidth : Int := 89

/-- Nesting leaves every line at least this wide. -/
def leastRoom : Int := 60

def indentStep : Nat := 4

def width (s : String) : Int :=
  s.utf8ByteSize

/-- The room on a line behind its indentation. -/
def lineRoom (indent : Nat) : Int :=
  max (lineWidth - indent) leastRoom

/-- The width up to the next place for a line break, when `follow` is the width from the end of the
layout to that place. -/
def lead (follow : Int) : Layout → Int
  | .text s => width s + follow
  | .append a b => a.lead (b.lead follow)
  | .bracketed opening _ _ _ => width opening

/-! ## One line -/

mutual

def flat : Layout → String
  | .text s => s
  | .append a b => a.flat ++ b.flat
  | .bracketed opening closing lastComma items =>
    opening ++ flatItems items ++ (if lastComma = .always then "," else "") ++ closing

def flatItems : List Layout → String
  | [] => ""
  | [a] => a.flat
  | a :: rest => a.flat ++ ", " ++ flatItems rest

end

/-! ## Lines -/

def spaces (n : Nat) : String :=
  String.ofList (List.replicate n ' ')

def newline (indent : Nat) : String :=
  "\n" ++ spaces indent

mutual

/-- The source for a layout and the room it leaves. `room` is what is left of the current line, and
`follow` is the width from the end of the layout to the next place for a line break. -/
def write (indent : Nat) (room follow : Int) : Layout → String × Int
  | .text s => (s, room - width s)
  | .append a b =>
    let (s, room) := write indent room (b.lead follow) a
    let (t, room) := write indent room follow b
    (s ++ t, room)
  | .bracketed opening closing lastComma items =>
    let line := (bracketed opening closing lastComma items).flat
    if width line + follow ≤ room then (line, room - width line)
    else
      (opening ++ writeItems (indent + indentStep) lastComma items ++ newline indent ++ closing,
        lineRoom indent - width closing)

/-- Each item on a line of its own. -/
def writeItems (indent : Nat) (lastComma : LastComma) : List Layout → String
  | [] => ""
  | [a] =>
    let follow := if lastComma = .always then 1 else 0
    newline indent ++ (write indent (lineRoom indent) follow a).1 ++
      (if lastComma = .never then "" else ",")
  | a :: rest =>
    newline indent ++ (write indent (lineRoom indent) 1 a).1 ++ "," ++
      writeItems indent lastComma rest

end

/-- The source for a layout that begins a line. -/
def render (indent : Nat) (a : Layout) : String :=
  spaces indent ++ (write indent (lineRoom indent) 0 a).1

end Layout
end Source
end ProtocolTypes
