import EntitlementRules.Json.Value

/-! Log events: what a program reports of its progress, and how important it is. -/
namespace EntitlementRules.Log

/-- The importance of an event, from the least to the greatest. -/
inductive Level where
  | trace
  | debug
  | info
  | warn
  | error
  deriving Repr, DecidableEq

namespace Level

/-- How far down in importance a level lies. -/
def verbosity : Level → Nat
  | error => 1
  | warn => 2
  | info => 3
  | debug => 4
  | trace => 5

def name : Level → String
  | trace => "TRACE"
  | debug => "DEBUG"
  | info => "INFO"
  | warn => "WARN"
  | error => "ERROR"

end Level

/-- The part of the program that an event or span comes from. -/
inductive Source where
  | startup
  | commands
  | verification
  | transport
  | connection
  | telemetry
  | context
  deriving Repr, DecidableEq

/-- The name under which a filter finds a source. -/
def Source.path : Source → String
  | startup => "rulesctl_cli::cli"
  | commands => "rulesctl_cli::commands::rules"
  | verification => "rulesctl_cli::harness"
  | transport => "rulesctl_cli::transport"
  | connection => "rulesctl_config::connection"
  | telemetry => "rulesctl_cli::client"
  | context => "rulesctl_telemetry::context"

/-- A stretch of work that events happen in. -/
structure Span where
  name : String
  level : Level
  source : Source
  fields : List (String × Json) := []
  deriving Repr

structure Event where
  level : Level
  source : Source
  message : String
  fields : List (String × Json) := []
  deriving Repr

/-- An event with the span that it is reported in. -/
structure Entry where
  event : Event
  span : Option Span := none
  deriving Repr

end EntitlementRules.Log
