import EntitlementRules.Client.Reply
import EntitlementRules.CommandLine.Help
import EntitlementRules.CommandLine.Invocation
import EntitlementRules.Log.Filter
import EntitlementRules.Telemetry

/-! The program: from an invocation to an exit code, with all that is shown, sent and saved on the way. -/
namespace EntitlementRules

structure Surroundings where
  /-- The variables of the environment. -/
  environment : String → Option String
  files : Files
  /-- Identifies the run to servers and collectors. -/
  traceId : String

/-- How a run ends. A message says what went wrong. -/
structure Ending where
  exitCode : Nat
  /-- What was printed of a run that did what it was asked for. -/
  output : Bytes := []
  message : Option String := none
  deriving Repr, DecidableEq

def Ending.ofResult : Except Halt Bytes → Ending
  | .ok output => { exitCode := 0, output }
  | .error halt => { exitCode := halt.exitCode, message := some halt.message }

def Program.release : String := "0.1.0"

/-- What takes the place of a run when no command is carried out. -/
def CommandLine.Stop.ending : Stop → Ending
  | help scope => { exitCode := 0, output := Text.Utf8.encode scope.help }
  | release =>
    { exitCode := 0, output := Text.Utf8.encode (programName ++ " " ++ Program.release ++ "\n") }
  | refusal fault => { exitCode := 2, message := some fault.message }

namespace Program

def build : String := "dev"

def usualSettingsPath (environment : String → Option String) : String :=
  let home := ((environment "HOME").filter (· != "")).getD "."
  (if home.toList.getLast? = some '/' then home else home ++ "/") ++ ".rulesctlrc"

/-- The variables of the environment that count. -/
def environmentNames : List String :=
  ["HOME", "RUST_LOG", "RULESCTL_TELEMETRY_ENDPOINT"]
    ++ CommandLine.Parameter.all.filterMap CommandLine.Parameter.environmentName?

def paths (environment : String → Option String) (invocation : Invocation) : List String :=
  let options := invocation.connection
  let named := [options.serverCa, options.clientCertificate, options.clientKey].filterMap id
  let command := match invocation.command with
    | .upload file _ => [file]
    | .version file => [file]
    | _ => []
  invocation.settingsPath.getD (usualSettingsPath environment) :: Connection.defaultServerCa
    :: named ++ command

/-- What is known once the settings file is read. -/
structure Context where
  surroundings : Surroundings
  invocation : Invocation
  settings : SettingsFile

/-- Reads the settings file that an invocation names, or the usual one. -/
def prepare (surroundings : Surroundings) (invocation : Invocation) : Except CommandError Context :=
  let path := invocation.settingsPath.getD (usualSettingsPath surroundings.environment)
  match SettingsFile.load surroundings.files path with
  | .ok settings => .ok ⟨surroundings, invocation, settings⟩
  | .error error => .error (.validation error.message)

namespace Context

/-- The filter of the run's log: the environment's, unless it lacks one that can be read; else the level of
the settings. -/
def filter (context : Context) : Log.Filter :=
  let level := (context.settings.layer.overlay context.invocation.flags).settle.logLevel
  ((context.surroundings.environment "RUST_LOG").bind Log.Filter.parse?).getD (.ofLevel level)

/-- The work that a command's events are reported in. -/
def span (context : Context) : Log.Span where
  name := CommandLine.programName
  level := .info
  source := .context
  fields := [("command", .string context.invocation.command.label),
    ("trace_id", .string context.surroundings.traceId), ("build_sha", .string build)]

/-! ## Commands -/

abbrev Step (α : Type) : Type := ExceptT Halt Exchange α

def log (event : Log.Event) : Step Unit := ExceptT.lift (Exchange.log event)

/-- Notes that the usual certificates to trust are not there, if they are needed. -/
def noteTrust (context : Context) : Step Unit := do
  let options := context.invocation.connection
  if let .ok _ := Connection.contextUrl options.serverUrl then
    if let (none, .ok none) :=
        (options.serverCa, Connection.resolveServerCa context.surroundings.files none) then
      log ⟨.debug, .connection, "default CA bundle not present; using system roots",
        [("path", .string Connection.defaultServerCa)]⟩

/-- The connection that the invocation asks for. -/
def connect (context : Context) : Step Connection := do
  noteTrust context
  match Connection.resolve context.surroundings.files context.invocation.connection with
  | .error error => throw (.failed (.validation error.message))
  | .ok connection =>
    log ⟨.debug, .startup, "resolved connection settings",
      [("server_url", .string connection.context.text), ("insecure", .bool connection.insecure)]⟩
    return connection

/-- Carries out the command over a connection. -/
def carryOut (context : Context) : Step Bytes := do
  let connection ← context.connect
  match Client.build context.surroundings.files connection context.surroundings.traceId with
  | .error error => throw (.failed error)
  | .ok client =>
    let console := context.invocation.command.run context.surroundings.files
      context.invocation.output
    ExceptT.mk (Exchange.ofConsole client.perform console)

/-- Carries out the command. One that only looks at a local file needs no connection. -/
def command (context : Context) : Step Bytes := do
  if !context.settings.found then
    log ⟨.warn, .startup, "RC file not found; continuing with default settings",
      [("path", .string context.settings.path)]⟩
  log ⟨.debug, .startup, "starting command", []⟩
  match context.invocation.command with
  | .version file =>
    ExceptT.mk (Command.conclude Exchange.print
      (Command.localVersion context.surroundings.files context.invocation.output file))
  | _ => context.carryOut

end Context

/-! ## Runs -/

/-- Where notices of finished commands go. -/
def collector? (surroundings : Surroundings) : Option Url :=
  (surroundings.environment "RULESCTL_TELEMETRY_ENDPOINT").bind fun text => (Url.parse text).toOption

/-- Sends a notice of how the run ends to the collector, if there is one. -/
def notify (surroundings : Surroundings) (command : Command) (ending : Ending) : Exchange Unit := do
  if let some collector := collector? surroundings then
    let moment ← Exchange.time
    Telemetry.send collector {
      command := command.label
      traceId := surroundings.traceId
      exitCode := ending.exitCode
      message := ending.message
      moment }

/-- Runs a command. Before the settings are known, nothing is reported. -/
def run (surroundings : Surroundings) (invocation : Invocation) : Exchange Ending :=
  match prepare surroundings invocation with
  | .error error => do
    let ending := Ending.ofResult (.error (.failed error))
    Exchange.reporting (fun _ => none) (notify surroundings invocation.command ending)
    return ending
  | .ok context => do
    let result ← Exchange.reporting (context.filter.report? (some context.span)) context.command.run
    let ending := Ending.ofResult result
    -- A program that breaks off sends no notice of it.
    if let .error (.unprinted _) := result then return ending
    Exchange.reporting (context.filter.report? none)
      (notify surroundings invocation.command ending)
    return ending

end Program

end EntitlementRules
