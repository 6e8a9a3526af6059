/-!
# ProtocolTypes.Text.InversionList

A set of characters as the increasing list of code points where membership changes.
-/

namespace ProtocolTypes
namespace Text

/-- The set that starts empty and is complemented from each bound on. -/
structure InversionList where
  bounds : Array Nat

namespace InversionList

/-- A code point is a member when an odd number of bounds lie at or below it. -/
def contains (s : InversionList) (code : Nat) : Bool :=
  s.bounds.countP (· ≤ code) % 2 = 1

end InversionList
end Text
end ProtocolTypes
