import EntitlementRules.Proofs.Client.Listing

/-! Refusals: where the message of a server's error comes from. -/
namespace EntitlementRules.Client

open Exchange (Party)

variable {σ : Type} {call : Call} {response : Http.Response} {body : Bytes} {status : Nat}

/-- The texts in which the JSON object in a body explains a refusal, from the first choice to the last. -/
def said (body : Bytes) : List String :=
  match Json.parse body with
  | .ok (.object members) =>
    ["displayMessage", "detail", "title", "message"].filterMap fun key =>
      (Json.Members.find? key members).bind Json.string?
  | _ => []

/-- What stands for an explanation where there is none. -/
def unexplained (status : Nat) : String := s!"request failed with status {Http.statusText status}"

/-- A message passes on what a body has to say. -/
inductive Explains (body : Bytes) (status : Nat) : String → Prop where
  | said {message : String} (first : (said body).find? (· ≠ "") = some message) :
      Explains body status message
  | shown (silent : ∀ text ∈ said body, text = "") (visible : shown body ≠ "") :
      Explains body status (shown body)
  | nothing (blank : shown body = "") : Explains body status (unexplained status)

theorem eq_of_explains {text message : String} (explains : Explains body status message)
    (first : (said body).find? (· ≠ "") = some text) (visible : shown body ≠ "") : message = text := by
  cases explains with
  | said found => exact Option.some.inj (found.symm.trans first)
  | shown silent _ =>
    have filled := List.find?_some first
    exact absurd (silent text (List.mem_of_find?_eq_some first)) (of_decide_eq_true filled)
  | nothing blank => exact absurd blank visible

/-- The text of the first choice is empty, whatever others say. -/
def Silenced (body : Bytes) : Prop := (said body).head? = some ""

theorem explanation?_object (members : Json.Members) :
    explanation? (.object members) =
      (explanationKeys.filterMap fun key => (Json.Members.find? key members).bind Json.string?).head? := by
  rw [List.head?_filterMap]
  rfl

/-- The explanation of a body is the first of its texts, even an empty one. -/
theorem explanation_eq (body : Bytes) : explanation body = (said body).head?.getD (shown body) := by
  unfold explanation said
  cases Json.parse body with
  | error fault => rfl
  | ok value =>
    cases value with
    | object members =>
      rw [← explanationKeys, ← explanation?_object]
      rfl
    | _ => rfl

theorem unexplained_ne_empty (status : Nat) : unexplained status ≠ "" := by
  intro empty
  have starts : ("request failed with status " ++ Http.statusText status).toList = [] :=
    congrArg String.toList empty
  rw [String.toList_append] at starts
  cases (List.append_eq_nil_iff.mp starts).1

/-- What a refusal says, of a body with the explanation that is given. -/
def worded (status : Nat) (explanation : String) : String :=
  if explanation = "" then unexplained status else explanation

theorem worded_ne_empty (status : Nat) (explanation : String) : worded status explanation ≠ "" := by
  unfold worded
  split
  · exact unexplained_ne_empty status
  · assumption

theorem outcome_refused (failure : response.isSuccess = false)
    (present : call = .deleteRules → response.status ≠ 404) :
    outcome response call = .error (.server call.operation response.status
      (worded response.status (explanation (response.body.getD [])))) := by
  have refused : ¬ response.isSuccess = true := Bool.eq_false_iff.mp failure
  cases call with
  | getStatus => exact if_neg refused
  | uploadRules encoded => exact if_neg refused
  | deleteRules =>
    have kept : ¬ (response.isSuccess || decide (response.status = 404)) = true := by
      simp [failure, present rfl]
    exact if_neg kept
  | listRules =>
    have filled : response.status ≠ 204 := by
      intro empty
      simp [Http.Response.isSuccess, empty] at failure
    rw [outcome, if_neg filled]
    exact if_neg refused

theorem worded_of_silenced (silenced : Silenced body) :
    worded status (explanation body) = unexplained status := by
  rw [explanation_eq, silenced]
  exact if_pos rfl

theorem worded_explains (told : ¬ Silenced body) :
    Explains body status (worded status (explanation body)) := by
  rw [explanation_eq]
  unfold Silenced at told
  cases texts : said body with
  | nil =>
    rw [List.head?_nil, Option.getD_none, worded]
    split
    · next blank => exact .nothing blank
    · next visible => exact .shown (by simp [texts]) visible
  | cons text rest =>
    rw [texts, List.head?_cons, Option.some.injEq] at told
    rw [List.head?_cons, Option.getD_some, worded, if_neg told]
    exact .said (by simp [texts, told])

/-- The message of a refusal is never empty. It passes on what the body has to say, unless the first of the
texts that explain the refusal is empty: then nothing of the body is passed on. -/
theorem refusals_explained_unless_silenced (client : Client) (party : Party σ) (state : σ)
    (answered : Answered client call party state response) (failure : response.isSuccess = false)
    (present : call = .deleteRules → response.status ≠ 404) :
    ∃ message, ((client.perform call).runWith party state).1 =
        .error (.server call.operation response.status message) ∧
      message ≠ "" ∧
      (¬ Silenced (response.body.getD []) → Explains (response.body.getD []) response.status message) ∧
      (Silenced (response.body.getD []) → message = unexplained response.status) := by
  refine ⟨_, ?_, worded_ne_empty _ _, worded_explains, worded_of_silenced⟩
  rw [answered.run_eq]
  exact outcome_refused failure present

/-- A refused upload, with a title after a detail that is no text. -/
theorem titled_refusal_passed_on :
    let place : Url := { scheme := "http", host := some (.ipv4 ⟨127, 0, 0, 1⟩), path := .segments ["rules"] }
    let client : Client := ⟨place, place, none, "trace"⟩
    let call : Call := .uploadRules ⟨"QQ=="⟩
    let body := Text.Utf8.encode "\x7b\"detail\":null,\"title\":\"rules do not compile\"\x7d"
    let response : Http.Response := { status := 422, body := some body }
    let network : Http.ScriptedNetwork := { reaches := fun _ => true, replies := [.respond response] }
    let world : Exchange.World := { network, files := ⟨"/", []⟩ }
    Answered client call Exchange.World.answer world response ∧ response.isSuccess = false ∧
      (call = .deleteRules → response.status ≠ 404) ∧ ¬ Silenced body ∧
      ((client.perform call).runWith Exchange.World.answer world).1 =
        .error (.server "upload_rules" 422 "rules do not compile") := by
  intro place client call body response network world
  have answered : Answered client call Exchange.World.answer world response :=
    answered_at_once rfl (fun _ => rfl) rfl
  have texts : said body = ["rules do not compile"] := by decide +kernel
  have told : ¬ Silenced body := by
    rw [Silenced, texts]
    decide
  obtain ⟨message, brought, -, explains, -⟩ :=
    refusals_explained_unless_silenced client Exchange.World.answer world answered rfl nofun
  have first : (said body).find? (· ≠ "") = some "rules do not compile" := by
    rw [texts]
    rfl
  rw [eq_of_explains (explains told) first (by decide +kernel)] at brought
  exact ⟨answered, rfl, nofun, told, brought⟩

/-- A detail without text silences the title after it: the message is not what the body explains. -/
theorem empty_detail_silences_title :
    let body := Text.Utf8.encode "\x7b\"detail\":\"\",\"title\":\"rules do not compile\"\x7d"
    outcome { status := 422, body := some body } (.uploadRules ⟨"QQ=="⟩) =
        .error (.server "upload_rules" 422 "request failed with status 422 Unprocessable Entity") ∧
      Explains body 422 "rules do not compile" ∧
      ¬ Explains body 422 "request failed with status 422 Unprocessable Entity" := by
  intro body
  have texts : said body = ["", "rules do not compile"] := by decide +kernel
  have first : (said body).find? (· ≠ "") = some "rules do not compile" := by
    rw [texts]
    rfl
  refine ⟨?_, .said first, ?_⟩
  · have silenced : Silenced body := by
      rw [Silenced, texts]
      rfl
    have refused (response : Http.Response) (failure : response.isSuccess = false) :=
      outcome_refused failure (fun same : Call.uploadRules ⟨"QQ=="⟩ = .deleteRules => nomatch same)
    refine (refused { status := 422, body := some body } rfl).trans ?_
    have generic : unexplained 422 = "request failed with status 422 Unprocessable Entity" := by
      decide +kernel
    rw [Option.getD_some, worded_of_silenced silenced, generic]
    rfl
  · intro explains
    exact absurd (eq_of_explains explains first (by decide +kernel)) (by decide)

end EntitlementRules.Client
