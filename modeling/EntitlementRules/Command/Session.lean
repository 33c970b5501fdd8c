import EntitlementRules.Files.Tree
import EntitlementRules.Log.Event
import EntitlementRules.Procedure
import EntitlementRules.Rules.Call

/-! Sessions: procedures that call a rules server, log what they do, pause and save files. -/
namespace EntitlementRules

inductive Session.Request where
  | call (call : Call)
  | log (event : Log.Event)
  /-- Wait for some milliseconds. -/
  | pause (milliseconds : Nat)
  /-- Write a file. -/
  | save (path : String) (content : Bytes)

/-- What a session's requests are answered with. -/
abbrev Session.Answer : Session.Request → Type
  | .call call => call.Outcome
  | .log _ => Unit
  | .pause _ => Unit
  | .save _ _ => Except FileError Unit

abbrev Session.interface : Interface := ⟨Session.Request, Session.Answer⟩

/-- A procedure that deals with a rules server, a log and files. -/
abbrev Session (α : Type) : Type := Procedure Session.interface α

namespace Session

def call (call : Call) : Session call.Outcome :=
  Procedure.request (I := interface) (.call call)

def log (event : Log.Event) : Session Unit := Procedure.request (I := interface) (.log event)

def pause (milliseconds : Nat) : Session Unit :=
  Procedure.request (I := interface) (.pause milliseconds)

def save (path : String) (content : Bytes) : Session (Except FileError Unit) :=
  Procedure.request (I := interface) (.save path content)

/-- A server with the files and the log around it. -/
structure World (σ : Type) where
  server : σ
  files : Files.Tree
  events : List Log.Event := []

/-- Answers a session's requests in a world whose server is a given backend. Pauses take no time. -/
def World.answer {σ : Type} (backend : Backend σ) :
    (request : Request) → World σ → Answer request × World σ
  | .call call, world =>
    ((backend call world.server).1, { world with server := (backend call world.server).2 })
  | .log event, world => ((), { world with events := world.events ++ [event] })
  | .pause _, world => ((), world)
  | .save path content, world =>
    match world.files.write path content with
    | .ok files => (.ok (), { world with files })
    | .error refusal => (.error refusal, world)

def runIn {σ α : Type} (backend : Backend σ) (session : Session α) (world : World σ) :
    α × World σ :=
  session.runWith (World.answer backend) world

end Session

end EntitlementRules
