import EntitlementRules.Proofs.Client.Delivery
import EntitlementRules.Proofs.Session.Trace
import EntitlementRules.Proofs.Url.Context

/-! Calls of a client: the one request that carries out each of them, and what its response makes of it. -/
namespace EntitlementRules.Client

open Exchange (Party Sent Sends sentIn)
open Http (Final)
open Session (Turn)

variable {σ : Type} {files : Files} {connection : Connection} {client : Client} {requestId : String}

/-! ## Requests -/

def methodOf : Call → Http.Method
  | .getStatus => .get
  | .listRules => .get
  | .uploadRules _ => .post
  | .deleteRules => .delete

/-- The name of the resource that a call is about. -/
def resourceOf : Call → String
  | .getStatus => "status"
  | _ => "rules"

/-- What a call sends: the text of an upload, as it is. -/
def payloadOf : Call → Option Bytes
  | .uploadRules encoded => some (Text.Utf8.encode encoded.text)
  | _ => none

def contentTypes : Call → List String
  | .uploadRules _ => ["text/plain"]
  | _ => []

/-- A request that carries out a call below a base. -/
structure Carries (base : Url) (requestId : String) (call : Call) (request : Http.Request) : Prop where
  method : request.method = methodOf call
  url : request.url.text = base.text ++ resourceOf call
  body : request.body = payloadOf call
  contentType : request.headers.all "content-type" = contentTypes call
  requestId : request.headers.all "x-request-id" = [requestId]

/-- How a client signs in with credentials: in a field, unless it shows a certificate or nothing. -/
def fieldOf? : Credentials → Option String
  | .basic user password =>
    some (Http.basicAuthorization (Text.Utf8.encode user) (Text.Utf8.encode password))
  | .certificate _ _ => none
  | .anonymous => none

/-- Whatever certificates are read and checked first, the URLs come last. -/
theorem build_ends (built : build files connection requestId = .ok client) :
    (do
      let statusUrl ← endpoint connection "status"
      let rulesUrl ← endpoint connection "rules"
      return (⟨statusUrl, rulesUrl, fieldOf? connection.credentials, requestId⟩ : Client)) =
      Except.ok client := by
  unfold build at built
  dsimp only at built
  split at built
  · cases built
  · obtain ⟨trusted, -, built⟩ := bind_eq_ok_iff.mp built
    cases credentials : connection.credentials
    all_goals
      simp only [credentials] at built
      repeat' first
        | exact built
        | obtain ⟨_, -, built⟩ := bind_eq_ok_iff.mp built
        | split at built

theorem build_eq_ok (built : build files connection requestId = .ok client) :
    connection.endpoint "status" = .ok client.statusUrl ∧
      connection.endpoint "rules" = .ok client.rulesUrl ∧ client.requestId = requestId := by
  obtain ⟨statusUrl, status, last⟩ := bind_eq_ok_iff.mp (build_ends built)
  obtain ⟨rulesUrl, rules, last⟩ := bind_eq_ok_iff.mp last
  cases last
  exact ⟨mapError_eq_ok_iff.mp status, mapError_eq_ok_iff.mp rules, rfl⟩

theorem authorization_of_build (built : build files connection requestId = .ok client) :
    client.authorization = fieldOf? connection.credentials := by
  obtain ⟨statusUrl, -, last⟩ := bind_eq_ok_iff.mp (build_ends built)
  obtain ⟨rulesUrl, -, last⟩ := bind_eq_ok_iff.mp last
  cases last
  rfl

theorem url_of_build {folder : List String} (context : connection.context.Context folder)
    (built : build files connection requestId = .ok client) (call : Call) :
    client.url call =
      { connection.context with path := .segments (folder ++ [resourceOf call]) } := by
  obtain ⟨status, rules, -⟩ := build_eq_ok built
  rw [context.endpoint Url.plain_status] at status
  rw [context.endpoint Url.plain_rules] at rules
  cases call with
  | getStatus => exact (Except.ok.inj status).symm
  | _ => exact (Except.ok.inj rules).symm

/-- The fields of a request do not depend on how its user signs in. -/
theorem all_request (client : Client) (method : Http.Method) (url : Url) (headers : Http.Headers)
    (body : Option Bytes) {name : String} (other : name ≠ "authorization") :
    (client.request method url headers body).headers.all name =
      headers.all name ++ Http.Headers.all [("x-request-id", client.requestId)] name := by
  have signs (values : List String) : Http.Headers.all (values.map ("authorization", ·)) name = [] := by
    simp [Http.Headers.all, List.filter_map, Function.comp_def, other.symm]
  simp only [request, Http.Request.to, Http.Headers.all, List.filter_append, List.map_append]
  simp only [Http.Headers.all] at signs
  rw [signs, signs, List.append_nil, List.append_nil]

theorem requestFor_carries {folder : List String} (context : connection.context.Context folder)
    (built : build files connection requestId = .ok client) (call : Call) :
    Carries { connection.context with username := "", password := none } requestId call
      (client.requestFor call) := by
  have identified := (build_eq_ok built).2.2
  have place : (client.requestFor call).url =
      { { connection.context with username := "", password := none } with
        path := .segments (folder ++ [resourceOf call]) } := by
    have known := url_of_build context built call
    cases call <;> simp only [requestFor, request, Http.Request.to, known]
  constructor
  · cases call <;> rfl
  · rw [place]
    exact context.anonymous.text_resource _
  · cases call <;> rfl
  · cases call <;> rw [requestFor, all_request _ _ _ _ _ (by decide)] <;> rfl
  · cases call <;> rw [requestFor, all_request _ _ _ _ _ (by decide), identified] <;> rfl

/-! ## Responses -/

/-- What a response makes of a call. -/
inductive Brings (response : Http.Response) : (call : Call) → call.Outcome → Prop where
  | uploaded {encoded : EncodedBlob} (success : response.isSuccess = true) :
      Brings response (.uploadRules encoded) (.ok ())
  /-- What is not there has been deleted. -/
  | deleted (gone : response.isSuccess = true ∨ response.status = 404) :
      Brings response .deleteRules (.ok ())
  /-- No content means no rules, whatever the body. -/
  | unlisted (empty : response.status = 204) : Brings response .listRules (.ok ⟨""⟩)
  | listed {body : Bytes} (success : response.isSuccess = true) (filled : response.status ≠ 204)
      (whole : response.body = some body) : Brings response .listRules (.ok (listed body))
  | status {body : Bytes} {status : Status} (success : response.isSuccess = true)
      (whole : response.body = some body) (parsed : Status.parse body = .ok status) :
      Brings response .getStatus (.ok status)
  | unexpected {body : Bytes} {fault : Json.Fault} (success : response.isSuccess = true)
      (whole : response.body = some body) (refused : Status.parse body = .error fault) :
      Brings response .getStatus (.error (.unexpectedResponse "get_status" (fault.message body)))
  /-- A body that is read and breaks off. -/
  | torn {call : Call} (success : response.isSuccess = true)
      (reads : call = .getStatus ∨ call = .listRules ∧ response.status ≠ 204)
      (broken : response.body = none) :
      Brings response call (.error (.transport call.operation "error decoding response body"))
  | refused {call : Call} {diagnostic : String} (failure : response.isSuccess = false)
      (present : call = .deleteRules → response.status ≠ 404) :
      Brings response call (.error (.server call.operation response.status diagnostic))

theorem outcome_brings (response : Http.Response) (call : Call) :
    Brings response call (outcome response call) := by
  have failing (failure : ¬ response.isSuccess = true) : response.isSuccess = false :=
    Bool.eq_false_iff.mpr failure
  cases call with
  | uploadRules encoded =>
    rw [outcome]
    split
    · next success => exact .uploaded success
    · next failure => exact .refused (failing failure) (by simp)
  | deleteRules =>
    rw [outcome]
    split
    · next gone => exact .deleted (by simpa using gone)
    · next kept =>
      simp only [Bool.or_eq_true, decide_eq_true_eq, not_or] at kept
      exact .refused (failing kept.1) fun _ => kept.2
  | listRules =>
    rw [outcome]
    split
    · next empty => exact .unlisted empty
    · next filled =>
      split
      · next success =>
        cases body : response.body with
        | none =>
          rw [bodyOf, body]
          exact .torn success (.inr ⟨rfl, filled⟩) body
        | some bytes =>
          rw [bodyOf, body]
          exact .listed success filled body
      · next failure => exact .refused (failing failure) (by simp)
  | getStatus =>
    rw [outcome]
    split
    · next success =>
      cases body : response.body with
      | none =>
        rw [bodyOf, body]
        exact .torn success (.inl rfl) body
      | some bytes =>
        rw [bodyOf, body]
        change Brings response .getStatus (statusOf bytes)
        cases parsed : Status.parse bytes with
        | ok status =>
          rw [statusOf, parsed]
          exact .status success body parsed
        | error fault =>
          rw [statusOf, parsed]
          exact .unexpected success body parsed
    · next failure => exact .refused (failing failure) (by simp)

/-! ## Calls in a row -/

/-- Calls carried out one after another, each with what it brought. -/
def performAll (client : Client) : List Call → Exchange (List Turn)
  | [] => pure []
  | call :: rest => do
    let brought ← client.perform call
    return ⟨call, brought⟩ :: (← performAll client rest)

variable {party : Party σ} {state : σ} {calls : List Call}

theorem perform_final {call : Call}
    (served : (client.url call).scheme = "http" ∨ (client.url call).scheme = "https")
    (finals : ∀ sent ∈ sentIn party (client.perform call) state, Final sent) :
    ∃ response after, Sends party (client.perform call) state
      [⟨client.requestFor call, .ok response⟩] (outcome response call) after := by
  obtain ⟨sents, result, after, sends, chain⟩ := perform_chain client call party state
  rw [sends.sents_eq] at finals
  have same : (client.requestFor call).url.scheme = (client.url call).scheme := by cases call <;> rfl
  obtain ⟨response, rfl, rfl⟩ := chain.single (by rwa [same]) finals
  exact ⟨response, after, sends⟩

/-- Each call sends one request and comes to what its own response makes of it. -/
theorem performAll_final
    (served : ∀ call, (client.url call).scheme = "http" ∨ (client.url call).scheme = "https")
    (finals : ∀ sent ∈ sentIn party (client.performAll calls) state, Final sent) :
    ∃ responses after, responses.length = calls.length ∧
      Sends party (client.performAll calls) state
        (calls.zipWith (fun call response => ⟨client.requestFor call, .ok response⟩) responses)
        (calls.zipWith (fun call response => ⟨call, outcome response call⟩) responses) after := by
  induction calls generalizing state with
  | nil => exact ⟨[], state, rfl, .pure _⟩
  | cons call rest ih =>
    rw [performAll, Exchange.sentIn_bind] at finals
    obtain ⟨response, middle, first⟩ := perform_final (served call) fun sent member =>
      finals sent (List.mem_append_left _ member)
    rw [first.run_eq, Exchange.sentIn_bind] at finals
    obtain ⟨responses, after, same, later⟩ := ih fun sent member =>
      finals sent (List.mem_append_right _ (List.mem_append_left _ member))
    exact ⟨response :: responses, after, congrArg Nat.succ same,
      first.bind (later.bind_silent (.pure _))⟩

/-- Calls of a client that is built for a resolved connection, where no response points elsewhere: one
request for each call, in order, and an outcome that the response to it decides. -/
theorem calls_answered_one_by_one {options : ConnectionOptions} {present : Files}
    (resolved : Connection.resolve present options = .ok connection)
    (built : build files connection requestId = .ok client) (party : Party σ) (state : σ)
    (calls : List Call)
    (finals : ∀ sent ∈ sentIn party (client.performAll calls) state, Final sent) :
    (∃ responses : List Http.Response, responses.length = calls.length ∧
      sentIn party (client.performAll calls) state =
        calls.zipWith (fun call response => ⟨client.requestFor call, .ok response⟩) responses ∧
      ((client.performAll calls).runWith party state).1 =
        calls.zipWith (fun call response => ⟨call, outcome response call⟩) responses) ∧
    (∀ call, Carries { connection.context with username := "", password := none } requestId call
      (client.requestFor call)) ∧
    ∀ response call, Brings response call (outcome response call) := by
  obtain ⟨folder, context⟩ := Url.context_of_resolve resolved
  refine ⟨?_, requestFor_carries context built, outcome_brings⟩
  have served (call : Call) : (client.url call).scheme = "http" ∨ (client.url call).scheme = "https" := by
    rw [url_of_build context built call]
    exact context.scheme
  obtain ⟨responses, after, same, sends⟩ := performAll_final served finals
  exact ⟨responses, same, sends.sents_eq, congrArg Prod.fst sends.run_eq⟩

/-- An upload that is refused and a deletion of what is not there, by a server on the machine itself. -/
theorem refused_upload_then_missing_deletion :
    let files : Files := ⟨fun _ => .error .notFound, fun _ => .error .notFound⟩
    let options : ConnectionOptions := { serverUrl := "http://[::1]/" }
    let context : Url :=
      { scheme := "http", host := some (.ipv6 ⟨#v[0, 0, 0, 0, 0, 0, 0, 1]⟩), path := .segments [""] }
    let connection : Connection := ⟨context, none, true, .anonymous, 10⟩
    let client : Client :=
      ⟨{ context with path := .segments ["status"] }, { context with path := .segments ["rules"] }, none, "trace"⟩
    let network : Http.ScriptedNetwork :=
      { reaches := fun _ => true, replies := [.respond { status := 422 }, .respond { status := 404 }] }
    let world : Exchange.World := { network, files := ⟨"/", []⟩ }
    let calls : List Call := [.uploadRules ⟨"QQ=="⟩, .deleteRules]
    Connection.resolve files options = .ok connection ∧ build files connection "trace" = .ok client ∧
      (∀ sent ∈ sentIn Exchange.World.answer (client.performAll calls) world, Final sent) ∧
      ((client.performAll calls).runWith Exchange.World.answer world).1 =
        [⟨.uploadRules ⟨"QQ=="⟩,
            .error (.server "upload_rules" 422 "request failed with status 422 Unprocessable Entity")⟩,
          ⟨.deleteRules, .ok ()⟩] := by
  intro files options context connection client network world calls
  have resolved : Connection.resolve files options = .ok connection := by decide +kernel
  have built : build files connection "trace" = .ok client := by decide +kernel
  have brought : (sentIn Exchange.World.answer (client.performAll calls) world).map (·.outcome) =
      [.ok { status := 422 }, .ok { status := 404 }] := by decide +kernel
  have finals : ∀ sent ∈ sentIn Exchange.World.answer (client.performAll calls) world, Final sent := by
    intro sent member
    have known := List.mem_map_of_mem (f := (·.outcome)) member
    rw [brought] at known
    rcases List.mem_pair.mp known with refused | missing
    · exact ⟨_, refused, fun _ _ => rfl⟩
    · exact ⟨_, missing, fun _ _ => rfl⟩
  obtain ⟨⟨responses, same, sents, turns⟩, -⟩ :=
    calls_answered_one_by_one resolved built Exchange.World.answer world calls finals
  obtain ⟨first, second, rfl⟩ := List.length_eq_two.mp same
  rw [sents] at brought
  obtain ⟨rfl, rfl⟩ : first = { status := 422 } ∧ second = { status := 404 } := by
    simpa [calls] using brought
  have refused : outcome { status := 422 } (.uploadRules ⟨"QQ=="⟩) =
      .error (.server "upload_rules" 422 "request failed with status 422 Unprocessable Entity") := by
    decide +kernel
  refine ⟨resolved, built, finals, ?_⟩
  rw [turns, List.zipWith_cons_cons, refused]
  rfl

end EntitlementRules.Client
