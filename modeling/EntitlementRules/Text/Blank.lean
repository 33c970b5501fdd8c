/-! White space: which characters count as blank, and text with the blanks around it taken off. -/
namespace EntitlementRules.Text

/-- The code points with the Unicode property `White_Space`, as closed ranges. -/
def blankRanges : List (Nat × Nat) :=
  [(0x09, 0x0D), (0x20, 0x20), (0x85, 0x85), (0xA0, 0xA0), (0x1680, 0x1680), (0x2000, 0x200A),
    (0x2028, 0x2029), (0x202F, 0x202F), (0x205F, 0x205F), (0x3000, 0x3000)]

/-- Whether a character is Unicode white space. -/
def isBlank (c : Char) : Bool :=
  blankRanges.any fun range => range.1 ≤ c.toNat && c.toNat ≤ range.2

/-- Space, tab, line feed, form feed and carriage return: the blanks that may wrap an encoding. -/
def isAsciiBlank (c : Char) : Bool :=
  c == ' ' || c == '\t' || c == '\n' || c == '\x0c' || c == '\r'

/-- A list of characters without the blanks at its end. -/
def dropBlankEnd (chars : List Char) : List Char :=
  (chars.reverse.dropWhile isBlank).reverse

/-- A text without the blanks at its two ends. -/
def trim (text : String) : String :=
  String.ofList (dropBlankEnd (text.toList.dropWhile isBlank))

/-- Whether a text is empty or holds blanks only. -/
def isBlankText (text : String) : Bool :=
  text.toList.all isBlank

/-- The text that follows a given beginning, when the text has that beginning. -/
def after? (beginning text : String) : Option String :=
  (beginning.toList.isPrefixOf? text.toList).map String.ofList

/-- A text cut at the first occurrence of a character, which belongs to neither part. -/
def cut? (separator : Char) (text : String) : Option (String × String) :=
  match text.toList.span (· != separator) with
  | (before, _ :: rest) => some (String.ofList before, String.ofList rest)
  | (_, []) => none

/-- A text without the carriage return at its end. -/
def dropReturn (text : String) : String :=
  if text.toList.getLast? = some '\r' then String.ofList text.toList.dropLast else text

/-- The first line of a text. A carriage return belongs to it unless a line feed follows. -/
def firstLine (text : String) : String :=
  match cut? '\n' text with
  | some (line, _) => dropReturn line
  | none => text

end EntitlementRules.Text
