/-! Packed tables: runs of code points with numbers that belong to them, in a short text. A word of the text
stands for a run. It holds numbers in base 36, with commas between them: the gap to the run before, how far the
last code point lies behind the first, and the values of the run. -/
namespace EntitlementRules.Unicode

/-- Code points in a row, with the numbers that belong to them. -/
structure Run where
  first : Nat
  last : Nat
  values : List Nat
  deriving Repr, DecidableEq

namespace Run

def contains (run : Run) (c : Char) : Bool := run.first ≤ c.toNat && c.toNat ≤ run.last

/-- The number that digits of base 36 write. -/
def number (digits : List Char) : Nat :=
  digits.foldl (fun value c =>
    value * 36 + (if c.isDigit then c.toNat - '0'.toNat else c.toNat - 'A'.toNat + 10)) 0

/-- The run of a word. The next code point is the one behind the run before. -/
def ofWord (next : Nat) (word : List Char) : Run :=
  match (word.splitOn ',').map number with
  | gap :: length :: values => ⟨next + gap, next + gap + length, values⟩
  | _ => ⟨next, next, []⟩

def ofWords : (next : Nat) → List (List Char) → List Run
  | _, [] => []
  | next, word :: rest => ofWord next word :: ofWords ((ofWord next word).last + 1) rest

/-- The runs of a packed table. Blanks and line feeds part its words. -/
def ofChars (table : List Char) : List Run :=
  ofWords 0 (((table.splitOn '\n').flatMap (·.splitOn ' ')).filter (· != []))

def table (text : String) : List Run := ofChars text.toList

end Run

/-- The run that a character belongs to. -/
def find? (runs : List Run) (c : Char) : Option Run := runs.find? (·.contains c)

end EntitlementRules.Unicode
