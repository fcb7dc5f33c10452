import Lifeline.Binary64.Decimal
/-! JSON values. An object keeps its members sorted by key, one member per key. -/
namespace Lifeline.Json

inductive Value
  | null
  | boolean (b : Bool)
  | integer (n : Int)
  | float (x : Binary64)
  | text (s : String)
  | array (items : List Value)
  | object (members : List (String × Value))
deriving Repr, Inhabited

/-- Puts a member in its place; a member of the same key gives way. -/
def insertMember (key : String) (v : Value) : List (String × Value) → List (String × Value)
  | [] => [(key, v)]
  | (k, w) :: rest =>
    if key < k then (key, v) :: (k, w) :: rest
    else if k < key then (k, w) :: insertMember key v rest
    else (key, v) :: rest

/-- The object with these members in order of arrival, so that the last of a key counts. -/
def Value.ofMembers (members : List (String × Value)) : Value :=
  .object (members.foldl (fun acc (k, v) => insertMember k v acc) [])

def Value.member? (key : String) : Value → Option Value
  | .object members => members.lookup key
  | _ => none

end Lifeline.Json
