/-! Splitting: the parts of a text between the places where a separator stands. -/
namespace EntitlementRules.Text

/-- The parts of a text between the places where a character stands. -/
def split (separator : Char) (text : String) : List String :=
  (text.toList.splitOn separator).map String.ofList

/-- The parts between the places where a character stands twice in a row. -/
def splitDoubled (separator : Char) : List Char → List (List Char)
  | [] => [[]]
  | [last] => [[last]]
  | first :: second :: rest =>
    if first = separator ∧ second = separator then [] :: splitDoubled separator rest
    else (splitDoubled separator (second :: rest)).modifyHead (first :: ·)

end EntitlementRules.Text
