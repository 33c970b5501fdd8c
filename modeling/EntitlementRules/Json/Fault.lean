import EntitlementRules.Json.Printer
import EntitlementRules.Text.Ascii

/-! What is wrong with a JSON text, and the place where a reader notices it. -/
namespace EntitlementRules.Json

/-- Why a text is not the JSON value that is expected. -/
inductive Problem where
  | endOfArray
  | endOfObject
  | endOfString
  | endOfValue
  | noColon
  | noArrayEnd
  | noObjectEnd
  | noWord
  | noValue
  | badEscape
  | badNumber
  | outOfRange
  | badCodePoint
  | control
  | noKey
  | loneSurrogate
  | commaAtEnd
  | trailing
  | endOfEscape
  | tooDeep
  /-- A value of another kind than the expected one; what an array or object holds is not shown. -/
  | wrongKind (found : Json) (expected : String)
  | missingField (name : String)
  | repeatedField (name : String)

/-- The words for the kind of a value, with the value itself where it is short. -/
def kindText : Json → String
  | null => "null"
  | bool value => s!"boolean `{value}`"
  | number (.integer value) => s!"integer `{value}`"
  | number (.float value) => s!"floating point `{floatText value}`"
  | string value => s!"string {Text.quote value}"
  | array _ => "sequence"
  | object _ => "map"

def Problem.message : Problem → String
  | endOfArray => "EOF while parsing a list"
  | endOfObject => "EOF while parsing an object"
  | endOfString => "EOF while parsing a string"
  | endOfValue => "EOF while parsing a value"
  | noColon => "expected `:`"
  | noArrayEnd => "expected `,` or `]`"
  | noObjectEnd => "expected `,` or `\x7d`"
  | noWord => "expected ident"
  | noValue => "expected value"
  | badEscape => "invalid escape"
  | badNumber => "invalid number"
  | outOfRange => "number out of range"
  | badCodePoint => "invalid unicode code point"
  | control => "control character (\\u0000-\\u001F) found while parsing a string"
  | noKey => "key must be a string"
  | loneSurrogate => "lone leading surrogate in hex escape"
  | commaAtEnd => "trailing comma"
  | trailing => "trailing characters"
  | endOfEscape => "unexpected end of hex escape"
  | tooDeep => "recursion limit exceeded"
  | wrongKind found expected => s!"invalid type: {kindText found}, expected {expected}"
  | missingField name => s!"missing field `{name}`"
  | repeatedField name => s!"duplicate field `{name}`"

/-- A problem, and how many bytes of the text lie after the place where it shows. -/
structure Fault where
  problem : Problem
  unread : Nat

/-- The fault that shows after all but the given bytes. -/
def Fault.before (problem : Problem) (rest : Bytes) : Fault := ⟨problem, rest.length⟩

/-- The fault that shows at the first of the given bytes, or at the end of the text. -/
def Fault.on (problem : Problem) (rest : Bytes) : Fault := ⟨problem, rest.length - 1⟩

/-- The line of the place after some bytes, counted from one, and the bytes before it on its line. -/
def position (before : Bytes) : Nat × Nat :=
  (before.count Ascii.lineFeed + 1, (before.reverse.takeWhile (· != Ascii.lineFeed)).length)

def Fault.message (text : Bytes) (fault : Fault) : String :=
  let (line, column) := position (text.take (text.length - fault.unread))
  s!"{fault.problem.message} at line {line} column {column}"

end EntitlementRules.Json
