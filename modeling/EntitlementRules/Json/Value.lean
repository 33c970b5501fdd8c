import EntitlementRules.Decimal.Shortest

/-! JSON values. An object keeps one value for each key, in the order of the keys. -/
namespace EntitlementRules

/-- A JSON number: an integer of 64 bits, with or without a sign, or else a binary64 number. -/
inductive Json.Number where
  | integer (value : Int)
  | float (value : Binary64)
  deriving Repr, DecidableEq

inductive Json where
  | null
  | bool (value : Bool)
  | number (value : Json.Number)
  | string (value : String)
  | array (items : List Json)
  | object (members : List (String × Json))
  deriving Repr, Inhabited

namespace Json

/-- Members in ascending order of their keys, with one member for each key. -/
abbrev Members := List (String × Json)

/-- The members with a key set to a value; the value that it had before is gone. -/
def Members.insert (key : String) (value : Json) : Members → Members
  | [] => [(key, value)]
  | (k, v) :: rest =>
    if key < k then (key, value) :: (k, v) :: rest
    else if key = k then (key, value) :: rest
    else (k, v) :: Members.insert key value rest

def Members.find? (key : String) (members : Members) : Option Json :=
  members.lookup key

/-- The object with given members; the last of several values for a key counts. -/
def ofMembers (members : List (String × Json)) : Json :=
  object (members.foldl (fun all (key, value) => Members.insert key value all) [])

def string? : Json → Option String
  | string value => some value
  | _ => none

def get? (key : String) : Json → Option Json
  | object members => Members.find? key members
  | _ => none

end Json

end EntitlementRules
