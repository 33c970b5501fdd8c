import EntitlementRules.Http.Authorization
import EntitlementRules.Http.Redirect
import EntitlementRules.Json.Printer

/-! Telemetry: a notice of each finished command, sent to whoever collects them. That it arrives is not
demanded. -/
namespace EntitlementRules.Telemetry

/-- How a command ended. -/
structure Notice where
  command : String
  traceId : String
  exitCode : Nat
  /-- What went wrong, if anything did. -/
  message : Option String
  /-- In milliseconds since the start of 1970. -/
  moment : Nat
  deriving Repr, DecidableEq

def Notice.outcome (notice : Notice) : String :=
  if notice.message.isNone then "success" else "error"

def Notice.json (notice : Notice) : Json :=
  .object ([("command", .string notice.command), ("outcome", .string notice.outcome),
      ("trace_id", .string notice.traceId), ("exit_code", .number (.integer notice.exitCode))]
    ++ notice.message.toList.map (("message", .string ·))
    ++ [("timestamp_ms", .number (.integer notice.moment))])

/-- The request that brings a notice to its collector. -/
def Notice.request (notice : Notice) (collector : Url) : Http.Request :=
  .to collector .post [("content-type", "application/json")]
    (some (Text.Utf8.encode notice.json.compact))

/-- Sends a notice. Should it not arrive, an event says so. -/
def send (collector : Url) (notice : Notice) : Exchange Unit := do
  let request := notice.request collector
  match ← Http.request request with
  | .ok _ => return ()
  | .error failure =>
    Exchange.log ⟨.debug, .telemetry, "telemetry emit failed",
      [("error", .string s!"{failure.summary} for url ({request.url.text})")]⟩

end EntitlementRules.Telemetry
