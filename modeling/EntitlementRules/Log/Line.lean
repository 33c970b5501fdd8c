import EntitlementRules.Json.Printer
import EntitlementRules.Log.Event

/-! Log lines: the texts of events, for programs or for people, with the moment at which they happened. -/
namespace EntitlementRules.Log

/-- Whom log lines are for. -/
inductive Format where
  | json
  | pretty
  deriving Repr, DecidableEq

/-- The format where none is asked for. -/
def Format.usual : Format := pretty

/-! ## Moments -/

/-- A number with zeros in front up to a width. -/
def padded (width value : Nat) : String :=
  let digits := (toString value).toList
  String.ofList (List.replicate (width - digits.length) '0' ++ digits)

/-- The year, month and day that lie some days after the first day of 1970. Days count from a first of
March, so that a leap day ends its year. -/
def date (days : Nat) : Nat × Nat × Nat :=
  let sinceMarch := days + 719468
  let era := sinceMarch / 146097
  let dayOfEra := sinceMarch % 146097
  let yearOfEra := (dayOfEra - dayOfEra / 1460 + dayOfEra / 36524 - dayOfEra / 146096) / 365
  let dayOfYear := dayOfEra - (365 * yearOfEra + yearOfEra / 4 - yearOfEra / 100)
  let month := (5 * dayOfYear + 2) / 153
  let day := dayOfYear - (153 * month + 2) / 5 + 1
  let year := yearOfEra + era * 400
  if month < 10 then (year, month + 3, day) else (year + 1, month - 9, day)

/-- The text of a moment, given in milliseconds since the start of 1970. -/
def momentText (milliseconds : Nat) : String :=
  let seconds := milliseconds / 1000
  let (year, month, day) := date (seconds / 86400)
  let calendar := "-".intercalate [padded 4 year, padded 2 month, padded 2 day]
  let clock := ":".intercalate
    [padded 2 (seconds / 3600 % 24), padded 2 (seconds / 60 % 60), padded 2 (seconds % 60)]
  calendar ++ "T" ++ clock ++ "." ++ padded 3 (milliseconds % 1000) ++ "Z"

/-! ## Lines -/

def Span.json (span : Span) : Json := .object (span.fields ++ [("name", .string span.name)])

/-- The line for programs. -/
def Entry.json (entry : Entry) (moment : Nat) : Json :=
  .object ([("timestamp", .string (momentText moment)), ("level", .string entry.event.level.name),
      ("fields", .object (("message", .string entry.event.message) :: entry.event.fields))]
    ++ match entry.span with
      | some span => [("span", span.json), ("spans", .array [span.json])]
      | none => [])

def fieldText (field : String × Json) : String := field.1 ++ "=" ++ field.2.compact

/-- The span in front of a line for people. -/
def Span.text (span : Span) : String :=
  span.name ++ "\x7b" ++ " ".intercalate (span.fields.map fieldText) ++ "\x7d: "

/-- The line for people. -/
def Entry.text (entry : Entry) (moment : Nat) : String :=
  let span := match entry.span with
    | some span => span.text
    | none => ""
  momentText moment ++ " " ++ entry.event.level.name ++ " " ++ span
    ++ " ".intercalate (entry.event.message :: entry.event.fields.map fieldText)

def Entry.line (entry : Entry) (format : Format) (moment : Nat) : String :=
  match format with
  | .json => (entry.json moment).compact
  | .pretty => entry.text moment

end EntitlementRules.Log
