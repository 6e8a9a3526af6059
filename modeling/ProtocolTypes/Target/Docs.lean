import ProtocolTypes.Model.TypeExpr
import ProtocolTypes.Text.Lines

/-!
# ProtocolTypes.Target.Docs

Documentation of generated declarations, fields and constants.
-/

namespace ProtocolTypes
namespace Target

structure Docs where
  text : Option String := none
  since : Option String := none
  proposed : Bool := false
  deprecated : Option String := none
deriving DecidableEq, Repr, Inhabited

namespace Docs

/-- The documentation of an annotated element. Where none is wanted, only the deprecation notice
remains. -/
def ofAnnotations (wanted : Bool) (a : Annotations) : Docs :=
  if wanted then ⟨a.documentation, a.since, a.proposed, a.deprecated⟩
  else { deprecated := a.deprecated }

def mentions (tag : String) (lines : List String) : Bool :=
  lines.any fun line => Text.occursIn tag.toList line.toList

/-- Adds a paragraph of one line. -/
def addParagraph (lines : List String) (line : String) : List String :=
  lines ++ (if lines.isEmpty then [line] else ["", line])

def addSince (since : Option String) (lines : List String) : List String :=
  match since with
  | some version =>
    if mentions "@since" lines then lines else addParagraph lines ("@since " ++ version)
  | none => lines

def addProposed (proposed : Bool) (lines : List String) : List String :=
  if proposed && !mentions "@proposed" lines then addParagraph lines "@proposed" else lines

/-- The lines of the documentation comment. The version and the proposal mark follow the text in
paragraphs of their own, unless the text mentions them already. -/
def lines (d : Docs) : List String :=
  addProposed d.proposed (addSince d.since ((d.text.map Text.lines).getD []))

end Docs
end Target
end ProtocolTypes
