import EntitlementRules.Command.Console
import EntitlementRules.Command.Error
import EntitlementRules.Verification.Run

/-! The commands and what they do. A command works in a session, and prints what it has to show once all of
its work is done. -/
namespace EntitlementRules

inductive Command where
  | status
  /-- Print the active rules or save them to a file, decoded or as they are listed. -/
  | list (raw : Bool) (out : Option String)
  /-- Replace the active rules by those of a file, which may be encoded already. -/
  | upload (file : String) (encoded : Bool)
  | delete
  /-- Show the version marker of a local file. -/
  | version (file : String)
  | verify (pause : Nat)
  deriving Repr, DecidableEq

/-- The name of a command in logs and events. -/
def Command.label : Command → String
  | status => "status"
  | list .. => "rules_list"
  | upload .. => "rules_upload"
  | delete => "rules_delete"
  | version _ => "rules_version"
  | verify _ => "verify"

namespace Command

open Session (log call)

/-- What a command has to show. -/
inductive Shown where
  /-- Rules, which arrive as they are. -/
  | rules (content : Bytes)
  /-- Words on what was done. -/
  | report (text : String)
  deriving Repr, DecidableEq

def Shown.bytes : Shown → Bytes
  | rules content => content
  | report text => Text.Utf8.encode text

/-- What a refusal of standard output does. Rules that do not arrive are a failure of the command. -/
def Shown.halt (refusal : FileError) : Shown → Halt
  | rules _ => .failed (.failure s!"failed to write rules to stdout: {refusal.message}")
  | report _ => .unprinted refusal

/-- A part of a command, which may end it. -/
abbrev Part (α : Type) : Type := ExceptT CommandError Session α

/-- A call whose refusal ends the command. -/
def demand (asked : Call) : Part asked.Answer :=
  ExceptT.mk do return (← call asked).mapError CommandError.ofRules

def readFile (files : Files) (path : String) : Except CommandError Bytes :=
  (files.read path).mapError fun error => .failure s!"failed to read {path}: {error.message}"

/-- A version, or the words for none. -/
def markerText : Option Version → String
  | some marked => marked.text
  | none => "<none>"

def markerJson : Option Version → Json
  | some marked => .string marked.text
  | none => .null

/-- The log line for rules that were listed. -/
def noteRules (blob : Blob) : Part Unit :=
  ExceptT.lift (log ⟨.info, .commands, "active rules",
    [("version", .string (markerText blob.version?)), ("bytes", .number (.integer blob.bytes.length))]⟩)

def showStatus (format : OutputFormat) : Part Shown := do
  let status ← demand .getStatus
  return .report (status.output format)

/-- The content that a listing stands for. -/
def listedContent (raw : Bool) (listed : EncodedBlob) : Part Bytes := do
  if raw then
    if let .ok blob := listed.decode then noteRules blob
    return Text.Utf8.encode listed.text
  else
    match listed.decode with
    | .error error => throw (.ofRules error)
    | .ok blob =>
      noteRules blob
      return blob.bytes

/-- Delivers content to a file, or leaves it to be shown. -/
def deliver (content : Bytes) : (out : Option String) → Part Shown
  | none => return .rules content
  | some path => do
    match ← Session.save path content with
    | .error error => throw (.failure s!"failed to write {path}: {error.message}")
    | .ok () => return .report s!"Wrote {content.length} bytes to {path}.\n"

def listRules (raw : Bool) (out : Option String) : Part Shown := do
  let listed ← demand .listRules
  if listed.isEmpty then return .report "No rules are active.\n"
  else deliver (← listedContent raw listed) out

/-- The blob in a file and the text to upload for it. -/
def payload (file : String) (encoded : Bool) (content : Bytes) :
    Except CommandError (Blob × EncodedBlob) := do
  let (blob, text) ←
    if encoded then
      match Text.Utf8.decode? content with
      | none => throw (.validation s!"{file} is not valid UTF-8 text")
      | some text =>
        let text : EncodedBlob := ⟨Text.trim text⟩
        match text.decode with
        | .error error => throw (.validation s!"{file} is not valid base64: {error.message}")
        | .ok blob => pure (blob, text)
    else pure (⟨content⟩, Blob.encode ⟨content⟩)
  if blob.isEmpty then throw (.validation s!"{file} contains no rules")
  return (blob, text)

/-- What is shown of a change to the active rules. -/
def changeOutput (action : String) (marker : Option Version) (status : Status) :
    OutputFormat → String
  | .table => lineOutput
      ((match marker with | some marked => ["marker: " ++ marked.text] | none => [])
        ++ [s!"{action}: server now reports rules version {status.rulesVersion}"])
  | .json => jsonOutput (.object [("action", .string action), ("marker", markerJson marker),
      ("rulesVersion", .string status.rulesVersion)])

def uploadRules (files : Files) (format : OutputFormat) (file : String) (encoded : Bool) :
    Part Shown := do
  let (blob, text) ← ExceptT.mk (pure (readFile files file >>= payload file encoded))
  let marker ← match blob.requireVersion with
    | .ok marked => pure (some marked)
    | .error error =>
      log ⟨.warn, .commands,
        "rules carry no version marker; the server cannot report a new version",
        [("file", .string file), ("error", .string error.message)]⟩
      pure none
  demand (.uploadRules text)
  let status ← demand .getStatus
  return .report (changeOutput "upload" marker status format)

def deleteRules (format : OutputFormat) : Part Shown := do
  demand .deleteRules
  let status ← demand .getStatus
  return .report (changeOutput "delete" none status format)

def versionOutput (file : String) (marker : Option Version) : OutputFormat → String
  | .table => lineOutput
      [match marker with | some marked => marked.text | none => s!"{file} carries no version marker"]
  | .json => jsonOutput (.object [("file", .string file), ("version", markerJson marker)])

/-- Looks at a local file; no server takes part. -/
def localVersion (files : Files) (format : OutputFormat) (file : String) :
    Except CommandError Shown := do
  let content ← readFile files file
  return .report (versionOutput file (Blob.mk content).version? format)

def verifyRules (format : OutputFormat) (pause : Nat) : Part Shown :=
  ExceptT.mk do
    return (← Verification.run pause).mapError CommandError.ofVerification
      |>.map fun report => .report (report.output format)

/-- The work of a command, and what it then has to show. -/
def work (files : Files) (format : OutputFormat) : Command → Session (Except CommandError Shown)
  | status => (showStatus format).run
  | list raw out => (listRules raw out).run
  | upload file encoded => (uploadRules files format file encoded).run
  | delete => (deleteRules format).run
  | version file => pure (localVersion files format file)
  | verify pause => (verifyRules format pause).run

/-- The work of a command, and the bytes that it then has to print. -/
def perform (files : Files) (format : OutputFormat) (command : Command) :
    Session (Except CommandError Bytes) := do
  return (← command.work files format).map Shown.bytes

/-- Prints what a command has to show, in any surroundings that can print. -/
def conclude {m : Type → Type} [Monad m] (print : Bytes → m (Except FileError Unit)) :
    Except CommandError Shown → m (Except Halt Bytes)
  | .error error => return .error (.failed error)
  | .ok shown => do
    match ← print shown.bytes with
    | .error refusal => return .error (shown.halt refusal)
    | .ok () => return .ok shown.bytes

/-- Carries out a command and prints what it has to show. A run that succeeds ends with what was printed. -/
def run (files : Files) (format : OutputFormat) (command : Command) : Console (Except Halt Bytes) := do
  conclude Console.print (← Console.ofSession (command.work files format))

end Command

end EntitlementRules
