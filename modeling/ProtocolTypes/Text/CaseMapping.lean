/-!
# ProtocolTypes.Text.CaseMapping

Case mappings of single characters: runs of code points that move by one distance, and the few
characters whose image is longer than one character.
-/

namespace ProtocolTypes
namespace Text

/-- Every `step`-th code point from `first` to `last` moves by `distance`. -/
structure CaseRun where
  first : Nat
  last : Nat
  step : Nat
  distance : Int

structure CaseMapping where
  runs : Array CaseRun
  expansions : Array (Nat × List Nat)

namespace CaseRun

def covers (r : CaseRun) (code : Nat) : Bool :=
  r.first ≤ code && code ≤ r.last && (code - r.first) % r.step = 0

end CaseRun

namespace CaseMapping

/-- The image of a code point; a code point that no entry covers maps to itself. -/
def apply (m : CaseMapping) (code : Nat) : List Nat :=
  match m.expansions.find? (·.1 = code) with
  | some (_, image) => image
  | none =>
    match m.runs.find? (·.covers code) with
    | some r => [(code + r.distance).toNat]
    | none => [code]

end CaseMapping
end Text
end ProtocolTypes
