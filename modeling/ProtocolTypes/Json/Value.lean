import ProtocolTypes.Binary64.Basic

/-!
# ProtocolTypes.Json.Value

JSON values with their members in key order. Whole numbers that fit 64 bits are kept exactly,
every other number is a binary64 word.
-/

namespace ProtocolTypes

inductive JsonNumber where
  | integer (value : Int)
  | float (value : Binary64)
deriving DecidableEq, Repr

/-- The members of an object are in increasing key order, each key once. -/
inductive Json where
  | null
  | bool (value : Bool)
  | number (value : JsonNumber)
  | string (value : String)
  | array (items : List Json)
  | object (members : List (String × Json))
deriving Repr

namespace Json

/-- Puts a member in its place, over an earlier one of the same key. -/
def insertMember (key : String) (value : Json) : List (String × Json) → List (String × Json)
  | [] => [(key, value)]
  | (k, v) :: rest =>
    if key < k then (key, value) :: (k, v) :: rest
    else if key = k then (key, value) :: rest
    else (k, v) :: insertMember key value rest

end Json
end ProtocolTypes
