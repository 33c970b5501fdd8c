import EntitlementRules.Client.Basic
import EntitlementRules.Http.Redirect
import EntitlementRules.Status.Reader

/-! What a client makes of responses: the outcome of each call, and the server's own words where it
refuses one. -/
namespace EntitlementRules.Client

/-- The members in which a server explains a refusal, from the first choice to the last. -/
def explanationKeys : List String := ["displayMessage", "detail", "title", "message"]

def explanation? (value : Json) : Option String :=
  explanationKeys.findSome? fun key => (value.get? key).bind Json.string?

/-- The explanation in a body: what JSON says, else the body itself. -/
def explanation (body : Bytes) : String :=
  let shown := Text.trim (Text.Utf8.decodeLossy body)
  match Json.parse body with
  | .ok value => (explanation? value).getD shown
  | .error _ => shown

/-- The error of a response that is no success. -/
def refusal (call : Call) (response : Http.Response) : RulesError :=
  let said := explanation (response.body.getD [])
  .server call.operation response.status
    (if said = "" then s!"request failed with status {Http.statusText response.status}" else said)

/-- The rules in a body: a JSON string, or the text itself. -/
def listed (body : Bytes) : EncodedBlob :=
  let trimmed := Text.trim (Text.Utf8.decodeLossy body)
  let bytes := Text.Utf8.encode trimmed
  if bytes.head? = some Ascii.quotation then
    match Json.whole Json.stringLiteral bytes with
    | .ok text => ⟨text⟩
    | .error _ => ⟨trimmed⟩
  else ⟨trimmed⟩

/-- The body of a response, unless it broke off. -/
def bodyOf (call : Call) (response : Http.Response) : Except RulesError Bytes :=
  match response.body with
  | some body => .ok body
  | none => .error (.transport call.operation "error decoding response body")

def statusOf (body : Bytes) : Except RulesError Status :=
  (Status.parse body).mapError fun fault =>
    .unexpectedResponse Call.getStatus.operation (fault.message body)

def outcome (response : Http.Response) : (call : Call) → call.Outcome
  | .getStatus =>
    if response.isSuccess then bodyOf .getStatus response >>= statusOf
    else .error (refusal .getStatus response)
  | .listRules =>
    if response.status = 204 then .ok ⟨""⟩
    else if response.isSuccess then (bodyOf .listRules response).map listed
    else .error (refusal .listRules response)
  | .uploadRules encoded =>
    if response.isSuccess then .ok () else .error (refusal (.uploadRules encoded) response)
  | .deleteRules =>
    if response.isSuccess || response.status = 404 then .ok ()
    else .error (refusal .deleteRules response)

def transportError (call : Call) (failure : Http.Failure) : RulesError :=
  .transport call.operation failure.message

def event (message : String) (call : Call) (field : String × Json) : Log.Event :=
  ⟨.debug, .transport, message, [("operation", .string call.operation), field]⟩

def perform (client : Client) (call : Call) : Exchange call.Outcome := do
  Exchange.log (event "sending rules request" call ("url", .string (client.url call).text))
  match ← Http.request (client.requestFor call) with
  | .error failure => return .error (transportError call failure)
  | .ok response =>
    Exchange.log (event "received response" call ("status", .number (.integer response.status)))
    return outcome response call

end EntitlementRules.Client
