import EntitlementRules.CommandLine.Reader

/-! What users are told who ask for help or whose command line is refused. -/
namespace EntitlementRules.CommandLine

def programName : String := "rulesctl"

def Scope.words : Scope → List String
  | .program => [programName]
  | .status => [programName, "status"]
  | .rules => [programName, "rules"]
  | .list => [programName, "rules", "list"]
  | .upload => [programName, "rules", "upload"]
  | .delete => [programName, "rules", "delete"]
  | .version => [programName, "rules", "version"]
  | .verify => [programName, "verify"]

def Scope.purpose : Scope → String
  | .program => "Manage and verify the rules of an entitlement server"
  | .status => "Show server status, including the active rules version"
  | .rules => "Inspect or change the active rules"
  | .list => "Print or save the active rules"
  | .upload => "Replace the active rules with a local file"
  | .delete => "Drop custom rules so the server reverts to its default"
  | .version => "Print the version marker of a local rules file"
  | .verify => "Run the upload/list/delete round trip and restore the original rules"

def Parameter.purpose : Parameter → String
  | config => "RC file to load instead of ~/.rulesctlrc"
  | verbose => "Log progress at info level"
  | debug => "Log protocol detail at debug level"
  | serverUrl => "Server base URL including the entitlement context path"
  | serverCa => "PEM file with the certificates to trust"
  | insecure => "Skip TLS verification (defaults to true for loopback hosts)"
  | username => "User to sign in"
  | password => "Password of the user"
  | clientCert => "PEM file with the client certificate"
  | clientKey => "PEM file with the key of the client certificate"
  | timeout => "Seconds to wait for a response"
  | output => "Select output format for commands that render structured data (table, json)"
  | logFormat => "Format of log lines (pretty, json)"
  | raw => "Keep the rules base64-encoded"
  | out => "File to save the rules to"
  | encoded => "The file is already base64-encoded"
  | settle => "Wait before each write, for servers with coarse change timestamps"
  | help => "Print help"
  | release => "Print version"

def Parameter.spelling (parameter : Parameter) : String :=
  let letter := match parameter.letter? with
    | some letter => String.ofList ['-', letter] ++ ", "
    | none => ""
  let value := match parameter.form with
    | .switch => ""
    | .value => " <VALUE>"
    | .attached => "[=<BOOL>]"
  letter ++ "--" ++ parameter.names.headD "" ++ value

/-- A line of two columns. -/
def columns (left right : String) : String :=
  "  " ++ left ++ String.ofList (List.replicate (26 - left.length) ' ') ++ "  " ++ right ++ "\n"

def Scope.usage (scope : Scope) : String :=
  let command := if scope.commands.isEmpty then [] else ["<COMMAND>"]
  let file := if scope.takesFile then ["<FILE>"] else []
  "Usage: " ++ " ".intercalate (scope.words ++ ["[OPTIONS]"] ++ command ++ file) ++ "\n"

def Scope.help (scope : Scope) : String :=
  let commands := scope.commands.map fun (name, inner) => columns name inner.purpose
  let parameters := scope.parameters.map fun parameter =>
    columns parameter.spelling parameter.purpose
  scope.purpose ++ "\n\n" ++ scope.usage
    ++ (if commands.isEmpty then "" else "\nCommands:\n" ++ String.join commands)
    ++ "\nOptions:\n" ++ String.join parameters

def Fault.message : Fault → String
  | unknown word => s!"unexpected argument '{word}' found"
  | missingValue parameter => s!"a value is required for '{parameter.spelling}'"
  | unneededValue parameter => s!"no value is expected for '{parameter.spelling}'"
  | unacceptable parameter text => s!"invalid value '{text}' for '{parameter.spelling}'"
  | repeated parameter => s!"'{parameter.spelling}' cannot be used multiple times"
  | missingCommand => "a subcommand is required but one was not provided"
  | missingFile => "the following required arguments were not provided: <FILE>"

end EntitlementRules.CommandLine
