import EntitlementRules.Http.Exchange
import EntitlementRules.Url.Reader

/-! Redirection: requests that are sent again to where their responses point. -/
namespace EntitlementRules.Http

/-- How many times a request may be redirected. -/
def redirectLimit : Nat := 10

/-- The statuses that turn a request of this method into a query. Those of a place that has moved only do
so for what posts; any other request is sent again there as it is. -/
def Method.convertingStatuses : Method → List Nat
  | .post => [301, 302, 303]
  | .get | .delete => [303]

/-- What a redirecting status makes of a request: some turn it into a query without a body, others send it
again as it is. -/
def Request.redirectedBy? (request : Request) (status : Nat) : Option Request :=
  if status ∈ request.method.convertingStatuses then
    some { request with
      method := .get
      body := none
      headers := request.headers.without "content-type" }
  else if status ∈ [301, 302, 307, 308] then some request
  else none

/-- Whether two URLs lead to the same party. -/
def sameParty (a b : Url) : Bool := a.host == b.host && a.effectivePort? == b.effectivePort?

/-- The request aimed at another URL. Other parties do not learn how the user signs in. -/
def Request.aimedAt (request : Request) (url : Url) : Request :=
  { request with
    url
    headers := if sameParty request.url url then request.headers
      else request.headers.without "authorization" }

/-- The request that a response asks for, if it asks for one. -/
def Request.next? (request : Request) (response : Response) : Option Request := do
  let changed ← request.redirectedBy? response.status
  let url ← (request.url.join (← response.location)).toOption
  return changed.aimedAt url

/-- Sends a request and follows redirections up to a number of times. -/
def follow : (left : Nat) → Request → Exchange (Except Failure Response)
  | left, request => do
    if request.url.scheme ≠ "http" ∧ request.url.scheme ≠ "https" then
      return .error (.unsupportedScheme request.url.scheme)
    match ← Exchange.send request with
    | .error failure => return .error failure
    | .ok response =>
      match request.next? response with
      | none => return .ok response
      | some next =>
        match left with
        | 0 => return .error .tooManyRedirects
        | left + 1 => follow left next

/-- Sends a request and follows all redirections. -/
def request (request : Request) : Exchange (Except Failure Response) := follow redirectLimit request

end EntitlementRules.Http
