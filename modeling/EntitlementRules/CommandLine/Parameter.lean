import EntitlementRules.Log.Line
import EntitlementRules.Status.Text
import EntitlementRules.Text.Digits

/-! Parameters of the command line: where each may stand, how it is spelt, which variable of the environment
stands in for it, and the texts it takes. -/
namespace EntitlementRules.CommandLine

/-- The program or one of its commands. Each has a part of the command line to itself. -/
inductive Scope where
  | program
  | status
  | rules
  | list
  | upload
  | delete
  | version
  | verify
  deriving Repr, DecidableEq

namespace Scope

def commands : Scope → List (String × Scope)
  | program => [("status", status), ("rules", rules), ("verify", verify)]
  | rules => [("list", list), ("upload", upload), ("delete", delete), ("version", version)]
  | _ => []

def command? (scope : Scope) (name : String) : Option Scope := scope.commands.lookup name

/-- Whether a scope takes the name of a file. -/
def takesFile (scope : Scope) : Bool := scope == upload || scope == version

end Scope

inductive Parameter where
  /-- The settings file. -/
  | config
  | verbose
  | debug
  | serverUrl
  | serverCa
  | insecure
  | username
  | password
  | clientCert
  | clientKey
  | timeout
  | output
  | logFormat
  /-- Whether a listing stays encoded. -/
  | raw
  /-- The file that a listing goes to. -/
  | out
  /-- Whether a file to upload is encoded already. -/
  | encoded
  /-- The pause before each write of a verification. -/
  | settle
  /-- The wish for help. -/
  | help
  /-- The wish to know the program's own version. -/
  | release
  deriving Repr, DecidableEq

inductive Parameter.Form where
  /-- It takes none. -/
  | switch
  /-- Attached to its name or in the next word. -/
  | value
  /-- Attached to its name, or not at all. -/
  | attached
  deriving Repr, DecidableEq

/-- A natural number below `2 ^ 64`, perhaps with a plus sign. -/
def number? (text : String) : Option Nat :=
  match text.toList with
  | '+' :: digits => Text.decimalBelow? (Nat.pow 2 64) digits
  | digits => Text.decimalBelow? (Nat.pow 2 64) digits

def truth? : String → Option Bool
  | "true" => some true
  | "false" => some false
  | _ => none

def outputFormat? : String → Option OutputFormat
  | "table" => some .table
  | "json" => some .json
  | _ => none

def logFormat? : String → Option Log.Format
  | "pretty" => some .pretty
  | "json" => some .json
  | _ => none

namespace Parameter

/-- All parameters, in the order in which help lists them. -/
def all : List Parameter :=
  [raw, out, encoded, settle, config, verbose, debug, serverUrl, serverCa, insecure, username, password,
    clientCert, clientKey, timeout, output, logFormat, help, release]

/-- Whether a parameter may stand in the part of a scope. Most may stand anywhere. -/
def belongsTo (scope : Scope) : Parameter → Bool
  | raw => scope == .list
  | out => scope == .list
  | encoded => scope == .upload
  | settle => scope == .verify
  | release => scope == .program
  | _ => true

/-- The names of a parameter, which two dashes introduce. -/
def names : Parameter → List String
  | config => ["config"]
  | verbose => ["verbose"]
  | debug => ["debug"]
  | serverUrl => ["server-url"]
  | serverCa => ["server-ca"]
  | insecure => ["insecure"]
  | username => ["username"]
  | password => ["password"]
  | clientCert => ["client-cert"]
  | clientKey => ["client-key"]
  | timeout => ["timeout"]
  | output => ["output", "format"]
  | logFormat => ["log-format"]
  | raw => ["raw"]
  | out => ["out"]
  | encoded => ["encoded"]
  | settle => ["settle-ms"]
  | help => ["help"]
  | release => ["version"]

/-- The letter of a parameter, which one dash introduces. -/
def letter? : Parameter → Option Char
  | config => some 'c'
  | verbose => some 'v'
  | help => some 'h'
  | release => some 'V'
  | _ => none

/-- The variable of the environment that counts where the parameter is not given. -/
def environmentName? : Parameter → Option String
  | config => some "RULESCTL_CONFIG"
  | serverUrl => some "RULESCTL_SERVER_URL"
  | serverCa => some "RULESCTL_SERVER_CA"
  | username => some "RULESCTL_USERNAME"
  | password => some "RULESCTL_PASSWORD"
  | timeout => some "RULESCTL_HTTP_TIMEOUT_SECS"
  | settle => some "RULESCTL_SETTLE_MS"
  | _ => none

def form : Parameter → Form
  | verbose => .switch
  | debug => .switch
  | raw => .switch
  | encoded => .switch
  | help => .switch
  | release => .switch
  | insecure => .attached
  | _ => .value

/-- Whether a text can be the value of a parameter. Names of files are not empty. -/
def accepts (parameter : Parameter) (text : String) : Bool :=
  match parameter with
  | config => text != ""
  | serverCa => text != ""
  | clientCert => text != ""
  | clientKey => text != ""
  | out => text != ""
  | insecure => (truth? text).isSome
  | timeout => (number? text).isSome
  | settle => (number? text).isSome
  | output => (outputFormat? text).isSome
  | logFormat => (logFormat? text).isSome
  | _ => true

end Parameter

/-- The parameters that may stand in the part of a scope. -/
def Scope.parameters (scope : Scope) : List Parameter := Parameter.all.filter (·.belongsTo scope)

def Scope.named? (scope : Scope) (name : String) : Option Parameter :=
  scope.parameters.find? (·.names.contains name)

def Scope.lettered? (scope : Scope) (letter : Char) : Option Parameter :=
  scope.parameters.find? (·.letter? == some letter)

end EntitlementRules.CommandLine
