import EntitlementRules.Configuration.Error
import EntitlementRules.Text.Blank
import EntitlementRules.Url.Reader

/-! How to reach a server: its URL, whom to trust, and how to sign in. -/
namespace EntitlementRules

/-- What is asked for. Nothing of it is checked. -/
structure ConnectionOptions where
  serverUrl : String := "https://localhost:8443/api"
  /-- A file with certificates to trust. -/
  serverCa : Option String := none
  /-- Whether the server's certificate goes unchecked. -/
  insecure : Option Bool := none
  username : Option String := none
  password : Option String := none
  clientCertificate : Option String := none
  /-- The key of the client certificate, if it has a file of its own. -/
  clientKey : Option String := none
  timeoutSeconds : Nat := 10
  deriving Repr, DecidableEq

inductive Credentials where
  | anonymous
  | basic (username password : String)
  | certificate (certificate : String) (key : Option String)
  deriving Repr, DecidableEq

/-- A way to a server that was found sound. -/
structure Connection where
  /-- The context of the server, a URL that ends in a slash. -/
  context : Url
  serverCa : Option String
  insecure : Bool
  credentials : Credentials
  timeoutSeconds : Nat
  deriving Repr, DecidableEq

namespace Connection

/-- The file with the certificates that are trusted where no other file is named. -/
def defaultServerCa : String := "/etc/rulesctl/certs/server-ca.crt"

def contextUrl (text : String) : Except ConfigurationError Url :=
  let trimmed := Text.trim text
  match Url.parse trimmed with
  | .error error => .error (.serverUrl trimmed (.malformed error))
  | .ok url =>
    if url.scheme ≠ "http" ∧ url.scheme ≠ "https" then
      .error (.serverUrl trimmed (.unsupportedScheme url.scheme))
    else if url.host.isNone then .error (.serverUrl trimmed .missingHost)
    else .ok url.asFolder

def demandPath (files : Files) (path : String) : Except ConfigurationError Unit :=
  (files.stat path).mapError (.unreadableFile path)

/-- The file with the certificates to trust: the one named, else the default one if it is there. -/
def resolveServerCa (files : Files) : (named : Option String) →
    Except ConfigurationError (Option String)
  | some path => do
    demandPath files path
    return some path
  | none => .ok (if files.isFile defaultServerCa then some defaultServerCa else none)

/-- The credentials that the options come to. A blank user name counts as none. -/
def resolveCredentials (files : Files) (options : ConnectionOptions) :
    Except ConfigurationError Credentials :=
  match options.username.filter (!Text.isBlankText ·), options.clientCertificate with
  | some _, some _ => .error (.credentials .userWithCertificate)
  | some username, none =>
    match options.password with
    | some password => .ok (.basic username password)
    | none => .error (.credentials .userWithoutPassword)
  | none, some certificate => do
    demandPath files certificate
    if let some key := options.clientKey then demandPath files key
    return .certificate certificate options.clientKey
  | none, none =>
    if options.password.isSome then .error (.credentials .passwordWithoutUser)
    else if options.clientKey.isSome then .error (.credentials .keyWithoutCertificate)
    else .ok .anonymous

/-- The connection that options come to. Certificates go unchecked by default only on the machine
itself. -/
def resolve (files : Files) (options : ConnectionOptions) :
    Except ConfigurationError Connection := do
  let context ← contextUrl options.serverUrl
  let insecure := options.insecure.getD context.isLoopback
  let serverCa ← resolveServerCa files options.serverCa
  let credentials ← resolveCredentials files options
  return ⟨context, serverCa, insecure, credentials, options.timeoutSeconds⟩

/-- A resource below the context. Slashes in front of its path make no difference. -/
def endpoint (connection : Connection) (path : String) : Except ConfigurationError Url :=
  (connection.context.join (String.ofList (path.toList.dropWhile (· == '/')))).mapError fun error =>
    .serverUrl connection.context.text (.malformed error)

end Connection

end EntitlementRules
