import EntitlementRules.Files.Snapshot
import EntitlementRules.Http.Wire
import EntitlementRules.Program
import EntitlementRules.TraceId
import Std.Internal.UV.DNS
import Std.Internal.UV.TCP
import Std.Time.DateTime.Timestamp

/-! The command line program: it looks at the machine, lets the library decide, and does what it asks for. -/

open EntitlementRules
open Std.Internal.UV

namespace EntitlementRules.Main

/-! ## Files -/

/-- The code and the words of the operating system for a refusal. -/
def osWords? : IO.Error → Option (UInt32 × String)
  | .alreadyExists _ code words => some (code, words)
  | .otherError code words => some (code, words)
  | .resourceBusy code words => some (code, words)
  | .unsupportedOperation code words => some (code, words)
  | .noFileOrDirectory _ code words => some (code, words)
  | .invalidArgument _ code words => some (code, words)
  | .permissionDenied _ code words => some (code, words)
  | .resourceExhausted _ code words => some (code, words)
  | .inappropriateType _ code words => some (code, words)
  | .noSuchThing _ code words => some (code, words)
  | _ => none

def fileError (error : IO.Error) : FileError :=
  match osWords? error with
  | some (2, _) => .notFound
  | some (20, _) => .notFolder
  | some (21, _) => .isFolder
  | some (code, words) => .other s!"{words} (os error {code})"
  | none => .other (toString error)

def attempt {α : Type} (action : IO α) : IO (Except FileError α) :=
  try return .ok (← action) catch error => return .error (fileError error)

def finding (path : String) : IO Files.Finding := do
  let stat ← attempt (discard (IO.FS.realPath path))
  let content ← attempt (do return (← IO.FS.readBinFile path).toList)
  return { path, stat, content }

/-! ## Network -/

def settled {α : Type} (promise : IO.Promise (Except IO.Error α)) : IO α := do
  match ← IO.wait promise.result? with
  | some (.ok value) => return value
  | some (.error error) => throw error
  | none => throw (.userError "the connection was given up")

partial def receive (socket : TCP.Socket) (received : ByteArray) : IO ByteArray := do
  match ← settled (← socket.recv? 65536) with
  | some more => receive socket (received ++ more)
  | none => return received

def socketAddress (port : UInt16) : Std.Net.IPAddr → Std.Net.SocketAddress
  | .v4 address => .v4 ⟨address, port⟩
  | .v6 address => .v6 ⟨address, port⟩

def connect (name : String) (port : UInt16) : IO TCP.Socket := do
  let mut reason : IO.Error := .userError "the name has no address"
  for address in ← settled (← DNS.getAddrInfo name (toString port) 0) do
    try
      let socket ← TCP.Socket.new
      settled (← socket.connect (socketAddress port address))
      return socket
    catch error => reason := error
  throw reason

/-- What a host is called without brackets. -/
def hostName : Host → String
  | .ipv6 address => address.text
  | host => host.text

/-- Sends a request over a connection of its own. -/
def exchange (request : Http.Request) : IO (Except Http.Failure Http.Response) := do
  match request.url.scheme, request.url.host, request.url.effectivePort? with
  | "http", some host, some port =>
    try
      let socket ← connect (hostName host) port.toUInt16
      settled (← socket.send #[⟨request.bytes.toArray⟩])
      let received ← receive socket .empty
      return match Http.Response.ofBytes? received.toList with
        | some response => .ok response
        | none => .error (.broken "connection closed before message completed")
    catch error => return .error (.broken (toString error))
  | scheme, _, _ => return .error (.broken s!"no connections of scheme '{scheme}' are available")

/-- Waits for some fiftieths of a second, unless the wait is called off. -/
def wait : (ticks : Nat) → IO Unit
  | 0 => return
  | ticks + 1 => do
    if ← IO.checkCanceled then return
    IO.sleep 20
    wait ticks

/-- Sends a request and waits for some seconds. -/
def send (seconds : Nat) (request : Http.Request) : IO (Except Http.Failure Http.Response) := do
  let answer ← IO.asTask (exchange request)
  let alarm ← IO.asTask do
    wait (seconds * 50)
    return .error (.broken "operation timed out")
  let first ← IO.waitAny [answer, alarm]
  IO.cancel alarm
  match first with
  | .ok outcome => return outcome
  | .error error => return .error (.broken (toString error))

/-! ## Runs -/

def time : IO Nat := do
  return (← Std.Time.Timestamp.now).toMillisecondsSinceUnixEpoch.val.toNat

def print (content : Bytes) : IO (Except FileError Unit) :=
  attempt do
    let output ← IO.getStdout
    output.write ⟨content.toArray⟩
    output.flush

def answer (invocation : Invocation) : (request : Exchange.Request) → IO (Exchange.Answer request)
  | .send request => send invocation.connection.timeoutSeconds request
  | .log entry => do IO.eprintln (entry.line invocation.logFormat (← time))
  | .pause milliseconds => IO.sleep milliseconds.toUInt32
  | .save path content => attempt (IO.FS.writeBinFile path ⟨content.toArray⟩)
  | .print content => print content
  | .time => time

/-- Tells how a run ended whose output is printed. -/
def finish (ending : Ending) : IO UInt32 := do
  if let some message := ending.message then IO.eprintln ("error: " ++ message)
  return ending.exitCode.toUInt32

def run (words : List String) : IO UInt32 := do
  let found ← Program.environmentNames.filterMapM fun name => do
    return (← IO.getEnv name).map (name, ·)
  let environment (name : String) : Option String := found.lookup name
  match CommandLine.parse environment words with
  | .error stop =>
    discard (print stop.ending.output)
    finish stop.ending
  | .ok invocation =>
    let findings ← (Program.paths environment invocation).mapM finding
    let traceId := TraceId.ofRandom (← IO.getRandomBytes 16).toList
    let surroundings := { environment, files := Files.ofFindings findings, traceId }
    finish (← (Program.run surroundings invocation).run (answer invocation))

end EntitlementRules.Main

def main (words : List String) : IO UInt32 := EntitlementRules.Main.run words
