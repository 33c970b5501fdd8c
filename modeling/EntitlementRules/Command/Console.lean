import EntitlementRules.Command.Session

/-! Consoles: procedures that carry out sessions and print what comes of them. -/
namespace EntitlementRules

inductive Console.Request where
  | session (request : Session.Request)
  /-- Write to standard output. -/
  | print (content : Bytes)

/-- What a console's requests are answered with. -/
abbrev Console.Answer : Console.Request → Type
  | .session request => Session.Answer request
  | .print _ => Except FileError Unit

/-- The interface of consoles. -/
abbrev Console.interface : Interface := ⟨Console.Request, Console.Answer⟩

/-- A procedure that deals with all that sessions deal with, and with standard output. -/
abbrev Console (α : Type) : Type := Procedure Console.interface α

/-- A standard output. -/
structure Outlet where
  /-- What has been written. -/
  written : Bytes := []
  /-- Why writes were refused. -/
  refusals : List FileError := []
  /-- Where the writing of a text breaks off, and why, behind what has been written. -/
  breaks? : (written content : Bytes) → Option (Nat × FileError) := fun _ _ => none

/-- Writes to an outlet. A write that is refused may leave a part of the text behind. -/
def Outlet.write (outlet : Outlet) (content : Bytes) : Except FileError Unit × Outlet :=
  match outlet.breaks? outlet.written content with
  | none => (.ok (), { outlet with written := outlet.written ++ content })
  | some (place, refusal) =>
    (.error refusal, { outlet with
      written := outlet.written ++ content.take place
      refusals := outlet.refusals ++ [refusal] })

namespace Console

def ofSession {α : Type} (session : Session α) : Console α :=
  Procedure.expand (I := Session.interface) (J := interface)
    (fun request => Procedure.request (I := interface) (.session request)) session

def print (content : Bytes) : Console (Except FileError Unit) :=
  Procedure.request (I := interface) (.print content)

structure World (σ : Type) extends Session.World σ where
  outlet : Outlet := {}

/-- Answers a console's requests in a world whose server is a given backend. -/
def World.answer {σ : Type} (backend : Backend σ) :
    (request : Request) → World σ → Answer request × World σ
  | .session request, world =>
    let (answer, around) := Session.World.answer backend request world.toWorld
    (answer, { world with toWorld := around })
  | .print content, world =>
    let (answer, outlet) := world.outlet.write content
    (answer, { world with outlet })

def runIn {σ α : Type} (backend : Backend σ) (console : Console α) (world : World σ) :
    α × World σ :=
  console.runWith (World.answer backend) world

end Console

end EntitlementRules
