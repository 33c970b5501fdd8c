import EntitlementRules.Json.Printer
import EntitlementRules.Status.Basic

/-! What users see of a status: a table of names and values, or its JSON text. -/
namespace EntitlementRules

inductive OutputFormat where
  | table
  | json
  deriving Repr, DecidableEq

/-- A value of JSON output, with a line feed at its end. -/
def jsonOutput (value : Json) : String := value.pretty ++ "\n"

/-- Lines of text, each with a line feed at its end. -/
def lineOutput (lines : List String) : String := String.join (lines.map (· ++ "\n"))

namespace Status

/-- A value as the table shows it: strings stand without quotation marks. -/
def plainText : Json → String
  | .string value => value
  | value => value.compact

def line {α : Type} (name : String) (show_ : α → String) : Option α → List String
  | some value => [name ++ ": " ++ show_ value]
  | none => []

/-- The server's version, with its release where it is known. -/
def serverText (version : String) : Option String → String
  | some release => s!"{version} ({release})"
  | none => version

def tableLines (status : Status) : List String :=
  ("rules version: " ++ status.rulesVersion)
    :: line "rules source" id status.rulesSource
    ++ line "result" toString status.result
    ++ line "server" (serverText · status.release) status.version
    ++ line "standalone" toString status.standalone
    ++ line "time (UTC)" id status.time
    ++ (if status.capabilities.isEmpty then []
        else ["capabilities: " ++ ", ".intercalate status.capabilities])
    ++ status.extra.map fun (key, value) => key ++ ": " ++ plainText value

def output (status : Status) : OutputFormat → String
  | .table => lineOutput status.tableLines
  | .json => jsonOutput status.toJson

end Status

end EntitlementRules
