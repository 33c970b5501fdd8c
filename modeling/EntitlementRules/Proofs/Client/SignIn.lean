import EntitlementRules.Proofs.Client.Calls
import EntitlementRules.Proofs.Http.Authorization

/-! Signing in: which users the requests of a client name, and what a server reads of them. -/
namespace EntitlementRules.Client

open Exchange (Party sentIn)
open Http (Encodes Nameless basicUser?)

variable {σ : Type} {files present : Files} {connection : Connection} {client : Client}
  {requestId : String} {options : ConnectionOptions}

theorem fieldOf?_eq_none_iff {credentials : Credentials} :
    fieldOf? credentials = none ↔ ∀ user password, credentials ≠ .basic user password := by
  cases credentials <;> simp [fieldOf?]

theorem all_map_authorization (field : Option String) :
    Http.Headers.all (field.toList.map ("authorization", ·)) "authorization" = field.toList := by
  cases field <;> rfl

/-- The users that the request of a call names: the one of the URL before the configured one. -/
theorem all_authorization (resolved : Connection.resolve present options = .ok connection)
    (built : build files connection requestId = .ok client) (call : Call) :
    (client.requestFor call).headers.all "authorization" =
      (Http.urlAuthorization? connection.context).toList ++ (fieldOf? connection.credentials).toList := by
  obtain ⟨folder, context⟩ := Url.context_of_resolve resolved
  have named : Http.urlAuthorization? (client.url call) = Http.urlAuthorization? connection.context := by
    rw [url_of_build context built call]
    rfl
  have request (method : Http.Method) (headers : Http.Headers) (body : Option Bytes)
      (bare : headers.all "authorization" = []) :
      (client.request method (client.url call) headers body).headers.all "authorization" =
        (Http.urlAuthorization? connection.context).toList ++
          (fieldOf? connection.credentials).toList := by
    have other : Http.Headers.all [("x-request-id", client.requestId)] "authorization" = [] := by rfl
    have signs := all_map_authorization
    simp only [Client.request, Http.Request.to, Http.Headers.all, List.filter_append, List.map_append]
    simp only [Http.Headers.all] at signs other bare
    rw [signs, signs, other, bare, named, authorization_of_build built, List.nil_append, List.append_nil]
  cases call with
  | getStatus => exact request .get _ _ rfl
  | listRules => exact request .get _ _ rfl
  | uploadRules encoded => exact request .post _ _ rfl
  | deleteRules => exact request .delete _ _ rfl

/-- What a call sends names no users but those of its own request, wherever it is redirected. -/
theorem all_authorization_sent (client : Client) (call : Call) (party : Party σ) (state : σ)
    {sent : Exchange.Sent} (member : sent ∈ sentIn party (client.perform call) state) :
    sent.request.headers.all "authorization" ⊆ (client.requestFor call).headers.all "authorization" := by
  obtain ⟨sents, result, after, sends, chain⟩ := perform_chain client call party state
  rw [sends.sents_eq] at member
  have kept := (chain.descends .first member).headers
  intro field inside
  obtain ⟨header, found, rfl⟩ := List.mem_map.mp inside
  obtain ⟨carried, named⟩ := List.mem_filter.mp found
  exact List.mem_map_of_mem (List.mem_filter.mpr ⟨kept carried, named⟩)

/-- Requests name the configured user and password and nobody else, and a server reads them as they are,
unless the URL names a user of its own or the user's name holds a colon. -/
theorem credentials_arrive_unless_ambiguous
    (resolved : Connection.resolve present options = .ok connection)
    (built : build files connection requestId = .ok client) (party : Party σ) (state : σ) (call : Call) :
    (client.requestFor call).headers.all "authorization" =
      (Http.urlAuthorization? connection.context).toList ++ (fieldOf? connection.credentials).toList ∧
    (∀ sent ∈ sentIn party (client.perform call) state,
      sent.request.headers.all "authorization" ⊆ (client.requestFor call).headers.all "authorization") ∧
    (Nameless connection.context →
      ((client.requestFor call).headers.all "authorization" ≠ [] ↔
        ∃ user password, connection.credentials = .basic user password) ∧
      ∀ user password, connection.credentials = .basic user password →
        ∃ field, (client.requestFor call).headers.all "authorization" = [field] ∧
          Encodes field (user ++ ":" ++ password) ∧
          (basicUser? field = some (user, password) ↔ ':' ∉ user.toList)) ∧
    ∀ user password other secret, ':' ∉ user.toList → ':' ∉ other.toList →
      fieldOf? (.basic user password) = fieldOf? (.basic other secret) →
      user = other ∧ password = secret := by
  have fields := all_authorization resolved built call
  refine ⟨fields, fun _ => all_authorization_sent client call party state, fun nameless => ?_,
    fun _ _ _ _ plain bare same => Http.basicAuthorization_inj plain bare (Option.some.inj same)⟩
  rw [nameless.urlAuthorization?, Option.toList_none, List.nil_append] at fields
  rw [fields]
  constructor
  · rw [Ne, Option.toList_eq_nil_iff, fieldOf?_eq_none_iff]
    simp only [ne_eq, not_forall, not_not]
  · intro user password credentials
    rw [credentials]
    exact ⟨_, rfl, Http.basicAuthorization_encodes user password, Http.basicUser?_iff⟩

/-- A password may hold colons. -/
theorem password_with_colon_arrives :
    let files : Files := ⟨fun _ => .error .notFound, fun _ => .error .notFound⟩
    let options : ConnectionOptions :=
      { serverUrl := "http://[::1]/", username := some "admin", password := some "a:b" }
    let context : Url :=
      { scheme := "http", host := some (.ipv6 ⟨#v[0, 0, 0, 0, 0, 0, 0, 1]⟩), path := .segments [""] }
    let connection : Connection := ⟨context, none, true, .basic "admin" "a:b", 10⟩
    let client : Client :=
      ⟨{ context with path := .segments ["status"] }, { context with path := .segments ["rules"] },
        fieldOf? connection.credentials, "trace"⟩
    Connection.resolve files options = .ok connection ∧ build files connection "trace" = .ok client ∧
      ∃ field, (client.requestFor .deleteRules).headers.all "authorization" = [field] ∧
        basicUser? field = some ("admin", "a:b") := by
  intro files options context connection client
  have resolved : Connection.resolve files options = .ok connection := by decide +kernel
  have built : build files connection "trace" = .ok client := by decide +kernel
  let world : Exchange.World :=
    { network := { reaches := fun _ => true, replies := [] }, files := ⟨"/", []⟩ }
  obtain ⟨-, -, arrives, -⟩ := credentials_arrive_unless_ambiguous resolved built
    Exchange.World.answer world .deleteRules
  obtain ⟨field, fields, -, read⟩ := (arrives ⟨rfl, rfl⟩).2 "admin" "a:b" rfl
  exact ⟨resolved, built, field, fields, read.mpr (by decide)⟩

/-- Without any credentials a user signs in whom the URL names; where there are credentials, that user comes
before the configured one. And a colon in a name makes two users one. -/
theorem named_user_signs_in_unconfigured :
    let files : Files := ⟨fun _ => .error .notFound, fun _ => .error .notFound⟩
    let options : ConnectionOptions := { serverUrl := "http://user:pw@[::1]/" }
    let context : Url :=
      { scheme := "http", username := "user", password := some "pw"
        host := some (.ipv6 ⟨#v[0, 0, 0, 0, 0, 0, 0, 1]⟩), path := .segments [""] }
    let connection : Connection := ⟨context, none, true, .anonymous, 10⟩
    let client : Client :=
      ⟨{ context with path := .segments ["status"] }, { context with path := .segments ["rules"] }, none, "trace"⟩
    let signed : Connection := { connection with credentials := .basic "admin" "secret" }
    Connection.resolve files options = .ok connection ∧ build files connection "trace" = .ok client ∧
      (client.requestFor .deleteRules).headers.all "authorization" = ["Basic dXNlcjpwdw=="] ∧
    Connection.resolve files { options with username := some "admin", password := some "secret" } =
        .ok signed ∧
      build files signed "trace" =
        .ok { client with authorization := some "Basic YWRtaW46c2VjcmV0" } ∧
      (Client.requestFor { client with authorization := some "Basic YWRtaW46c2VjcmV0" }
        .deleteRules).headers.all "authorization" =
          ["Basic dXNlcjpwdw==", "Basic YWRtaW46c2VjcmV0"] ∧
    fieldOf? (.basic "a:b" "c") = fieldOf? (.basic "a" "b:c") :=
  ⟨by decide +kernel, by decide +kernel, by decide +kernel, by decide +kernel, by decide +kernel,
    by decide +kernel, rfl⟩

end EntitlementRules.Client
