import EntitlementRules.Certificates.Der
import EntitlementRules.Certificates.Pem
import EntitlementRules.Command.Error
import EntitlementRules.Configuration.Connection
import EntitlementRules.Http.Authorization
import EntitlementRules.Rules.Call

/-! A client of a rules server over HTTP: what it is built from and the requests it sends. -/
namespace EntitlementRules

structure Client where
  statusUrl : Url
  rulesUrl : Url
  /-- How the configured user signs in. -/
  authorization : Option String
  /-- Sent with every request, so that the server's log can be matched with the client's. -/
  requestId : String
  deriving Repr, DecidableEq

namespace Client

/-- A request of a client. A user that the URL names signs in before the configured one. -/
def request (client : Client) (method : Http.Method) (url : Url) (headers : Http.Headers)
    (body : Option Bytes) : Http.Request :=
  let request := Http.Request.to url method headers body
  { request with
    headers := request.headers ++ client.authorization.toList.map ("authorization", ·)
      ++ [("x-request-id", client.requestId)] }

def url (client : Client) : Call → Url
  | .getStatus => client.statusUrl
  | _ => client.rulesUrl

def requestFor (client : Client) (call : Call) : Http.Request :=
  match call with
  | .getStatus => client.request .get (client.url call) [("accept", "application/json")] none
  | .listRules => client.request .get (client.url call) [] none
  | .uploadRules encoded =>
    client.request .post (client.url call) [("content-type", "text/plain")]
      (some (Text.Utf8.encode encoded.text))
  | .deleteRules => client.request .delete (client.url call) [] none

/-! ## Building -/

/-- The bytes of a file that the configuration names. -/
def readPem (files : Files) (path : String) : Except CommandError Bytes :=
  (files.read path).mapError fun error => .failure s!"failed to read {path}: {error.message}"

def buildFailure : CommandError := .failure "failed to build HTTP client: builder error"

def checkTrusted (pem : Bytes) : Except CommandError Unit :=
  match Pem.sections pem with
  | .error _ => .error buildFailure
  | .ok sections =>
    if sections.all fun (kind, content) => kind != .certificate || Der.isCertificate content then
      .ok ()
    else .error buildFailure

/-- A certificate with its key: one section or more of certificates and of keys, and no others. -/
def isIdentity (sections : List (Pem.Kind × Bytes)) : Bool :=
  sections.all (·.1 != .other) && sections.any (·.1 == .certificate)
    && sections.any (·.1.isPrivateKey)

/-- Reads the certificate that a client signs in with. -/
def readIdentity (files : Files) (certificate : String) (key : Option String) :
    Except CommandError (List (Pem.Kind × Bytes)) := do
  let pem ← readPem files certificate
  let whole ← match key with
    | some key => do pure (pem ++ Ascii.lineFeed :: (← readPem files key))
    | none => pure pem
  match Pem.sections whole with
  | .ok sections =>
    if isIdentity sections then return sections
    else throw (.validation s!"invalid client certificate {certificate}: builder error")
  | .error _ => throw (.validation s!"invalid client certificate {certificate}: builder error")

/-- Checks the certificate that a client signs in with. -/
def checkIdentity (sections : List (Pem.Kind × Bytes)) : Except CommandError Unit :=
  if sections.all fun (kind, content) =>
      if kind == .certificate then Der.isCertificate content else Der.isPrivateKey content then
    .ok ()
  else .error buildFailure

def endpoint (connection : Connection) (path : String) : Except CommandError Url :=
  (connection.endpoint path).mapError fun error => .validation error.message

def build (files : Files) (connection : Connection) (requestId : String) :
    Except CommandError Client := do
  if !Http.isFieldText requestId then
    throw (.failure "trace identifier contains invalid characters")
  let trusted ← connection.serverCa.mapM (readPem files)
  let identity ← match connection.credentials with
    | .certificate certificate key => do pure (some (← readIdentity files certificate key))
    | _ => pure none
  if let some pem := trusted then checkTrusted pem
  if let some sections := identity then checkIdentity sections
  let authorization := match connection.credentials with
    | .basic username password =>
      some (Http.basicAuthorization (Text.Utf8.encode username) (Text.Utf8.encode password))
    | _ => none
  return {
    statusUrl := ← endpoint connection "status"
    rulesUrl := ← endpoint connection "rules"
    authorization
    requestId }

end Client

end EntitlementRules
