import EntitlementRules.Json.Value
import EntitlementRules.Text.Quoted

/-! The two texts of a JSON value: compact on one line, and spread over lines with two blanks for each
level. -/
namespace EntitlementRules.Json

/-- A character inside a JSON string: quotation marks, backslashes and controls are escaped. -/
def escapeChar (c : Char) : List Char :=
  if c == '"' then ['\\', '"']
  else if c == '\\' then ['\\', '\\']
  else if c == '\x08' then ['\\', 'b']
  else if c == '\x0c' then ['\\', 'f']
  else if c == '\n' then ['\\', 'n']
  else if c == '\r' then ['\\', 'r']
  else if c == '\t' then ['\\', 't']
  else if c.toNat < 0x20 then
    ['\\', 'u', '0', '0', Nat.digitChar (c.toNat / 16), Nat.digitChar (c.toNat % 16)]
  else [c]

def quote (text : String) : String :=
  String.ofList ('"' :: text.toList.flatMap escapeChar ++ ['"'])

/-- Numbers are positional from `0.00001` up to sixteen digits before the point. -/
def floatLayout : Decimal.Layout := ⟨-5, 15⟩

/-- The text of a binary64 number, always with a point or an exponent. -/
def floatText (value : Binary64) : String :=
  let sign := if value.negative then "-" else ""
  if value.isZero then sign ++ "0.0" else sign ++ floatLayout.render (Decimal.shortest value)

def Number.text : Number → String
  | integer value => toString value
  | float value => floatText value

mutual

/-- The text on one line, without blanks. -/
def compact : Json → String
  | null => "null"
  | bool value => toString value
  | number value => value.text
  | string value => quote value
  | array items => "[" ++ compactItems items ++ "]"
  | object members => "\x7b" ++ compactMembers members ++ "\x7d"

def compactItems : List Json → String
  | [] => ""
  | [last] => compact last
  | item :: rest => compact item ++ "," ++ compactItems rest

def compactMembers : List (String × Json) → String
  | [] => ""
  | [(key, last)] => quote key ++ ":" ++ compact last
  | (key, value) :: rest => quote key ++ ":" ++ compact value ++ "," ++ compactMembers rest

end

/-- The start of a line at a level. -/
def newline (level : Nat) : String := "\n" ++ String.ofList (List.replicate (2 * level) ' ')

mutual

/-- The text over several lines, as it stands at a level. Empty arrays and objects take no line. -/
def prettyAt (level : Nat) : Json → String
  | null => "null"
  | bool value => toString value
  | number value => value.text
  | string value => quote value
  | array [] => "[]"
  | array items => "[" ++ prettyItems (level + 1) items ++ newline level ++ "]"
  | object [] => "\x7b\x7d"
  | object members => "\x7b" ++ prettyMembers (level + 1) members ++ newline level ++ "\x7d"

def prettyItems (level : Nat) : List Json → String
  | [] => ""
  | [last] => newline level ++ prettyAt level last
  | item :: rest => newline level ++ prettyAt level item ++ "," ++ prettyItems level rest

def prettyMembers (level : Nat) : List (String × Json) → String
  | [] => ""
  | [(key, last)] => newline level ++ quote key ++ ": " ++ prettyAt level last
  | (key, value) :: rest =>
    newline level ++ quote key ++ ": " ++ prettyAt level value ++ "," ++ prettyMembers level rest

end

def pretty (value : Json) : String := prettyAt 0 value

end EntitlementRules.Json
