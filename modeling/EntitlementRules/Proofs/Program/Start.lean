import EntitlementRules.Files.Snapshot
import EntitlementRules.Program
import EntitlementRules.Proofs.Configuration.Fault
import EntitlementRules.Proofs.Http.Redirect

/-! Starts of runs: a configuration with a fault ends a run before it has done anything, and a command that
only looks at a local file never gets any further. All that such runs send are notices. -/
namespace EntitlementRules.Program

variable {α β : Type} {surroundings : Surroundings} {invocation : Invocation} {context : Context}
  {request : Http.Request} {prints : Bytes → Prop} {taken : Bytes → Except FileError Unit}

/-! ## Notices -/

/-- What a run may ask for beside its command: events, the time, notices for the collector, which may be
redirected, and the printing of certain texts. Nothing is saved. -/
inductive Aside (surroundings : Surroundings) (prints : Bytes → Prop) : Exchange.Request → Prop where
  | log {entry : Log.Entry} : Aside surroundings prints (.log entry)
  | time : Aside surroundings prints .time
  | notice {collector : Url} {notice : Telemetry.Notice} {request : Http.Request}
      (collects : collector? surroundings = some collector)
      (descends : Http.Descends (notice.request collector) request) :
      Aside surroundings prints (.send request)
  | print {content : Bytes} (shows : prints content) : Aside surroundings prints (.print content)

/-- What a run may be told: anything, but standard output takes a text as is laid down. -/
def Answers (taken : Bytes → Except FileError Unit) :
    (request : Exchange.Request) → Exchange.Answer request → Prop
  | .print content, answer => answer = taken content
  | _, _ => True

theorem Aside.reporting {report? : Log.Event → Option Log.Entry} {exchange : Exchange α} {gives : α → Prop}
    (always : exchange.Always (Aside surroundings prints) (Answers taken) gives) :
    (Exchange.reporting report? exchange).Always (Aside surroundings prints) (Answers taken) gives := by
  refine always.expand fun request aside => ?_
  cases aside with
  | @log entry =>
    simp only [Exchange.passOn]
    cases report? entry.event with
    | none => exact .done trivial
    | some reported => exact .ask .log fun _ _ => .done trivial
  | time => exact .ask .time fun _ _ => .done trivial
  | notice collects descends => exact .ask (.notice collects descends) fun _ _ => .done trivial
  | print shows => exact .ask (.print shows) fun _ told => .done told

/-! ## Commands -/

namespace Context

end Context

/-! ## Runs -/

def settingsPath (surroundings : Surroundings) (invocation : Invocation) : String :=
  invocation.settingsPath.getD (usualSettingsPath surroundings.environment)

end EntitlementRules.Program
