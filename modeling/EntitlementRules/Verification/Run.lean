import EntitlementRules.Command.Session
import EntitlementRules.Verification.Report

/-! Verification of a rules server: upload synthetic rules, list them, delete them, and see the version
follow. The active rules are captured before anything changes and put back on every way out. -/
namespace EntitlementRules.Verification

open Session (log call)

def syntheticBody : String := "var a=1.0;"

def syntheticRules (version : Version) : Blob := Blob.withVersion version syntheticBody

/-- A step of a run, which may end it and keeps the checks that were passed. -/
abbrev Step (α : Type) : Type := StateT (List Check) (ExceptT VerificationError Session) α

def event (level : Log.Level) (message : String) (fields : List (String × Json) := []) : Log.Event :=
  ⟨level, .verification, message, fields⟩

def failCheck {α : Type} (check : Check) (detail : String) : Step α :=
  throw (.check check detail)

/-- A call whose refusal ends the run. -/
def demand (asked : Call) : Step asked.Answer :=
  StateT.lift (ExceptT.mk do return (← call asked).mapError (.call asked.operation))

def note (message : String) (fields : List (String × Json) := []) : Step Unit :=
  StateT.lift (ExceptT.lift (log (event .info message fields)))

def pass (check : Check) : Step Unit := do
  note "check passed" [("check", .string check.name)]
  modify (· ++ [check])

/-- How a log line shows a number of milliseconds. -/
def durationText (milliseconds : Nat) : String :=
  if milliseconds < 1000 then s!"{milliseconds}ms"
  else
    let fraction := Nat.toDigits 10 (1000 + milliseconds % 1000)
    let shown := ((fraction.drop 1).reverse.dropWhile (· == '0')).reverse
    let point := if shown.isEmpty then "" else "."
    s!"{milliseconds / 1000}{point}{String.ofList shown}s"

/-- The pause before each write, where one is asked for. -/
def settle (milliseconds : Nat) : Session Unit :=
  if milliseconds = 0 then pure ()
  else do
    log (event .debug "waiting before write" [("settle", .string (durationText milliseconds))])
    Session.pause milliseconds

/-- The server must report exactly a given version text. -/
def expectVersion (check : Check) (expected : String) : Step Unit := do
  let status ← demand .getStatus
  if status.rulesVersion = expected then
    pass check
  else
    failCheck check
      s!"server reports rules version '{status.rulesVersion}', expected '{expected}'"

/-- Reads the version that a server reports. -/
def readBaseline (status : Status) : Step Version := do
  match status.parsedVersion with
  | .error error => failCheck .baselineVersion error.message
  | .ok baseline =>
    pass .baselineVersion
    return baseline

/-- Finds a version above the reported one. -/
def chooseSynthetic (baseline : Version) : Step Version := do
  match baseline.successor with
  | .error error => failCheck .syntheticVersionOrdering error.message
  | .ok synthetic =>
    if compare synthetic baseline = .gt then
      pass .syntheticVersionOrdering
      return synthetic
    else
      failCheck .syntheticVersionOrdering
        s!"{synthetic.text} does not sort after {baseline.text}"

/-- The server must list exactly the uploaded rules. -/
def expectRules (uploaded : Blob) : Step Unit := do
  let listed ← demand .listRules
  match listed.decode with
  | .error error => failCheck .uploadRoundtrip error.message
  | .ok found =>
    if found = uploaded then
      pass .uploadRoundtrip
    else
      failCheck .uploadRoundtrip
        s!"listed rules ({found.bytes.length} bytes) differ from the uploaded rules ({uploaded.bytes.length} bytes)"

/-- Drops custom rules that were left over. -/
def clearRules (pause : Nat) : Step Unit := do
  note "clearing leftover custom rules"
  settle pause
  demand .deleteRules

/-- The version text that the server reports, and a version above it. -/
def findVersions : Step (String × Version) := do
  let status ← demand .getStatus
  let synthetic ← chooseSynthetic (← readBaseline status)
  return (status.rulesVersion, synthetic)

/-- Uploads synthetic rules and deletes them, and sees the server follow. -/
def tryRules (pause : Nat) (baseline : String) (synthetic : Version) : Step Unit := do
  let blob := syntheticRules synthetic
  note "uploading synthetic rules" [("version", .string synthetic.text)]
  settle pause
  demand (.uploadRules blob.encode)
  expectRules blob
  expectVersion .uploadVersion synthetic.text
  note "deleting synthetic rules"
  settle pause
  demand .deleteRules
  expectVersion .deleteRevertsVersion baseline
  settle pause
  match ← call .deleteRules with
  | .error error => failCheck .deleteIdempotent error.message
  | .ok () => expectVersion .deleteIdempotent baseline

/-- The checks that change the server's rules. Gives the two versions as texts. -/
def checks (pause : Nat) : Step (String × String) := do
  clearRules pause
  let (baseline, synthetic) ← findVersions
  tryRules pause baseline synthetic
  return (baseline, synthetic.text)

/-- A call that puts rules back, and what is reported if it is refused. -/
def putBack (asked : Call) (restored : Restore) (complaint : String) : Session Restore := do
  match ← call asked with
  | .ok _ => return restored
  | .error error =>
    log (event .error complaint [("error", .string error.message)])
    return .failed error.message

/-- Puts the captured rules back: as they were listed, or none where none were. -/
def restore (pause : Nat) (captured : EncodedBlob) : Session Restore := do
  settle pause
  if captured.isEmpty then
    log (event .info "no rules were active before verification; deleting custom rules")
    putBack .deleteRules .deleted "failed to clear rules after verification"
  else
    log (event .info "re-uploading the originally active rules")
    putBack (.uploadRules captured) .reuploaded "failed to restore the original rules"

/-- The verdict on a run, from what the checks and the restoration came to. A failed restoration never
hides the failure of a check. -/
def verdict (checked : Except VerificationError ((String × String) × List Check))
    (restored : Restore) : Except VerificationError Report :=
  match checked, restored with
  | .error error, _ => .error error
  | .ok _, .failed detail => .error (.restore detail)
  | .ok ((baseline, synthetic), passed), restored => .ok ⟨baseline, synthetic, passed, restored⟩

/-- A verification run, with a pause in milliseconds before each write. -/
def run (pause : Nat) : Session (Except VerificationError Report) := do
  log (event .info "capturing active rules")
  match ← call .listRules with
  | .error error => return .error (.setup error)
  | .ok captured =>
    log (event .info "check passed" [("check", .string Check.listRules.name)])
    let checked ← ((checks pause).run [.listRules]).run
    let restored ← restore pause captured
    if let .error error := checked then
      log (event .warn "verification failed"
        [("error", .string error.message), ("restore", .string restored.debugText)])
    return verdict checked restored

end EntitlementRules.Verification
