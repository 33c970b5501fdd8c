import EntitlementRules.Command.Basic
import EntitlementRules.CommandLine.Reader
import EntitlementRules.Configuration.Connection
import EntitlementRules.Configuration.Settings

/-! Invocations: what a command line asks for. -/
namespace EntitlementRules

/-- A command with all that is said about how to carry it out. -/
structure Invocation where
  command : Command
  /-- The settings file, unless it is the usual one. -/
  settingsPath : Option String := none
  /-- The topmost layer of settings. -/
  flags : SettingsLayer := {}
  connection : ConnectionOptions := {}
  output : OutputFormat := .table
  logFormat : Log.Format := .usual
  deriving Repr, DecidableEq

namespace CommandLine

/-- The value of a parameter: the innermost one that is given, else that of the environment. -/
def value? (environment : String → Option String) (parts : List Part) (parameter : Parameter) :
    Option String :=
  parts.findSome? (·.values.lookup parameter) <|> parameter.environmentName?.bind environment

/-- The command that the innermost part names. -/
def command (value? : Parameter → Option String) : (parts : List Part) → Except Fault Command
  | [] => .error .missingCommand
  | part :: _ =>
    match part.scope, part.file with
    | .status, _ => .ok .status
    | .list, _ => .ok (.list (value? .raw).isSome (value? .out))
    | .upload, some file => .ok (.upload file (value? .encoded).isSome)
    | .upload, none => .error .missingFile
    | .delete, _ => .ok .delete
    | .version, some file => .ok (.version file)
    | .version, none => .error .missingFile
    | .verify, _ => .ok (.verify (((value? .settle).bind number?).getD 0))
    | .program, _ => .error .missingCommand
    | .rules, _ => .error .missingCommand

/-- The options for the connection that parameters set. -/
def connectionOptions (value? : Parameter → Option String) : ConnectionOptions :=
  let usual : ConnectionOptions := {}
  { serverUrl := (value? .serverUrl).getD usual.serverUrl
    serverCa := value? .serverCa
    insecure := (value? .insecure).bind truth?
    username := value? .username
    password := value? .password
    clientCertificate := value? .clientCert
    clientKey := value? .clientKey
    timeoutSeconds := ((value? .timeout).bind number?).getD usual.timeoutSeconds }

/-- A flag only ever switches a setting on. -/
def flag (value? : Parameter → Option String) (parameter : Parameter) : Option Bool :=
  (value? parameter).map fun _ => true

/-- What parameters and a command come to. -/
def invocation (value? : Parameter → Option String) (command : Command) : Invocation where
  command := command
  settingsPath := value? .config
  flags := ⟨flag value? .verbose, flag value? .debug⟩
  connection := connectionOptions value?
  output := ((value? .output).bind outputFormat?).getD .table
  logFormat := ((value? .logFormat).bind logFormat?).getD .usual

def parse (environment : String → Option String) (words : List String) :
    Except Stop Invocation := do
  let parts ← parts environment words
  match command (value? environment parts) parts with
  | .ok command => return invocation (value? environment parts) command
  | .error fault => throw (.refusal fault)

end CommandLine

end EntitlementRules
