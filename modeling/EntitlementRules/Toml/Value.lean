/-! Values of a configuration text in TOML. -/
namespace EntitlementRules

/-- A value. Numbers with a fraction and points in time are told apart from the others, and what they stand
for is not kept. -/
inductive Toml where
  | bool (value : Bool)
  | integer (value : Int)
  | fraction
  | moment
  | string (value : String)
  | array (items : List Toml)
  | table (members : List (String × Toml))

namespace Toml

/-- The members of a table, each key once. -/
abbrev Table := List (String × Toml)

def bool? : Toml → Option Bool
  | bool value => some value
  | _ => none

end Toml

end EntitlementRules
