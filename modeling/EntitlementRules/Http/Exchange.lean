import EntitlementRules.Command.Console
import EntitlementRules.Http.Message

/-! Exchanges: procedures that send requests over a network, besides what consoles do. -/
namespace EntitlementRules

inductive Exchange.Request where
  /-- Send a request and wait for its response. -/
  | send (request : Http.Request)
  /-- Report an event. -/
  | log (entry : Log.Entry)
  /-- Wait for some milliseconds. -/
  | pause (milliseconds : Nat)
  /-- Write a file. -/
  | save (path : String) (content : Bytes)
  /-- Write to standard output. -/
  | print (content : Bytes)
  /-- Tell the time, in milliseconds since the start of 1970. -/
  | time

/-- What an exchange's requests are answered with. -/
abbrev Exchange.Answer : Exchange.Request → Type
  | .send _ => Except Http.Failure Http.Response
  | .log _ => Unit
  | .pause _ => Unit
  | .save _ _ => Except FileError Unit
  | .print _ => Except FileError Unit
  | .time => Nat

abbrev Exchange.interface : Interface := ⟨Exchange.Request, Exchange.Answer⟩

/-- A procedure that deals with a network, a log, files and standard output. -/
abbrev Exchange (α : Type) : Type := Procedure Exchange.interface α

namespace Exchange

def send (request : Http.Request) : Exchange (Except Http.Failure Http.Response) :=
  Procedure.request (I := interface) (.send request)

def log (event : Log.Event) : Exchange Unit :=
  Procedure.request (I := interface) (.log { event })

def pause (milliseconds : Nat) : Exchange Unit :=
  Procedure.request (I := interface) (.pause milliseconds)

def save (path : String) (content : Bytes) : Exchange (Except FileError Unit) :=
  Procedure.request (I := interface) (.save path content)

def print (content : Bytes) : Exchange (Except FileError Unit) :=
  Procedure.request (I := interface) (.print content)

def time : Exchange Nat := Procedure.request (I := interface) .time

/-- Answers what a console asks for, with its calls carried out by exchanges. -/
def answerConsole (call : (call : Call) → Exchange call.Outcome) :
    (request : Console.Request) → Exchange (Console.Answer request)
  | .session (.call asked) => call asked
  | .session (.log event) => log event
  | .session (.pause milliseconds) => pause milliseconds
  | .session (.save path content) => save path content
  | .print content => print content

/-- A console with its calls carried out by exchanges. -/
def ofConsole {α : Type} (call : (call : Call) → Exchange call.Outcome) (console : Console α) :
    Exchange α :=
  Procedure.expand (I := Console.interface) (answerConsole call) console

/-- Passes on what an exchange asks for, with its events as a rule reports them. -/
def passOn (report? : Log.Event → Option Log.Entry) :
    (request : Request) → Exchange (Answer request)
  | .send request => send request
  | .log entry =>
    match report? entry.event with
    | some entry => Procedure.request (I := interface) (.log entry)
    | none => pure ()
  | .pause milliseconds => pause milliseconds
  | .save path content => save path content
  | .print content => print content
  | .time => time

/-- An exchange with its events as a rule reports them. -/
def reporting {α : Type} (report? : Log.Event → Option Log.Entry) (exchange : Exchange α) :
    Exchange α :=
  Procedure.expand (I := interface) (passOn report?) exchange

end Exchange

end EntitlementRules
