import EntitlementRules.Http.Exchange

/-! A network whose responses are laid down beforehand. One party can be reached; each request to it
takes the next response. -/
namespace EntitlementRules

namespace Http

/-- A reply to a request: a response, or a connection that is closed without one. -/
inductive Reply where
  | respond (response : Response)
  | close
  deriving Repr

/-- A network with the replies that are left and the requests that reached its party, in order. -/
structure ScriptedNetwork where
  /-- Whether a URL leads to the party. -/
  reaches : Url → Bool
  /-- A reply that does not depend on the script. -/
  standing : Request → Option Reply := fun _ => none
  replies : List Reply
  requests : List Request := []

/-- The response of a reply. Some statuses have no body. -/
def Reply.outcome : Reply → Except Failure Response
  | .respond response =>
    .ok (if response.status = 204 ∨ response.status = 304 then { response with body := some [] }
      else response)
  | .close => .error (.broken "connection closed before message completed")

def ScriptedNetwork.answer (network : ScriptedNetwork) (request : Request) :
    Except Failure Response × ScriptedNetwork :=
  if !network.reaches request.url then (.error (.broken "connection refused"), network)
  else
    let noted := { network with requests := network.requests ++ [request] }
    match network.standing request, network.replies with
    | some reply, _ => (reply.outcome, noted)
    | none, reply :: rest => (reply.outcome, { noted with replies := rest })
    | none, [] => (Reply.close.outcome, noted)

end Http

namespace Exchange

/-- A network with the files and the log around it. -/
structure World where
  network : Http.ScriptedNetwork
  files : Files.Tree
  entries : List Log.Entry := []
  outlet : Outlet := {}
  /-- The time, which stands still. -/
  time : Nat := 0

/-- Answers an exchange's requests. Pauses take no time. -/
def World.answer : (request : Request) → World → Answer request × World
  | .send request, world =>
    let (response, network) := world.network.answer request
    (response, { world with network })
  | .log entry, world => ((), { world with entries := world.entries ++ [entry] })
  | .pause _, world => ((), world)
  | .save path content, world =>
    match world.files.write path content with
    | .ok files => (.ok (), { world with files })
    | .error refusal => (.error refusal, world)
  | .print content, world =>
    let (answer, outlet) := world.outlet.write content
    (answer, { world with outlet })
  | .time, world => (world.time, world)

def runIn {α : Type} (exchange : Exchange α) (world : World) : α × World :=
  exchange.runWith World.answer world

end Exchange

end EntitlementRules
