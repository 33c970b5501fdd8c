import EntitlementRules.Client.Reply
import EntitlementRules.Http.Scripted
import EntitlementRules.Proofs.Http.Redirect

/-! Delivery of changes: which request the response that decides a change answered. -/
namespace EntitlementRules.Client

open Exchange (Party Sends Sent sentIn)
open Http (AnsweredBy Chain)

variable {σ : Type}

/-- What a call comes to, from what its request brought. -/
def conclusion (call : Call) : Except Http.Failure Http.Response → call.Outcome
  | .ok response => outcome response call
  | .error failure => .error (transportError call failure)

/-- A call sends the chain of its request, and what that brings decides it. -/
theorem perform_chain (client : Client) (call : Call) (party : Party σ) (state : σ) :
    ∃ sents result after, Sends party (client.perform call) state sents (conclusion call result) after ∧
      Chain Http.redirectLimit (client.requestFor call) sents result := by
  obtain ⟨sents, result, after, sends, chain⟩ :=
    Http.follow_chain party Http.redirectLimit (client.requestFor call)
      (party (.log { event := event "sending rules request" call ("url", .string (client.url call).text) })
        state).2
  cases result with
  | error failure => exact ⟨_, _, _, .log_bind (sends.bind_silent (.pure _)), chain⟩
  | ok response => exact ⟨_, _, _, .log_bind (sends.bind_silent (.log_bind (.pure _))), chain⟩

/-- A call that succeeds was decided by the last response of a chain. -/
theorem perform_decided (client : Client) {call : Call} (party : Party σ) (state : σ)
    {answer : call.Answer} (done : ((client.perform call).runWith party state).1 = .ok answer) :
    ∃ (before : List Sent) (last : Http.Request) (response : Http.Response),
      sentIn party (client.perform call) state = before ++ [⟨last, .ok response⟩] ∧
      outcome response call = .ok answer ∧ before.length ≤ Http.redirectLimit ∧
      ((∀ sent ∈ before, ¬ AnsweredBy (client.requestFor call).method.convertingStatuses sent) →
        last.method = (client.requestFor call).method ∧ last.body = (client.requestFor call).body) ∧
      ((∃ sent ∈ before, AnsweredBy (client.requestFor call).method.convertingStatuses sent) →
        last.method = .get ∧ last.body = none) := by
  obtain ⟨sents, result, after, sends, chain⟩ := perform_chain client call party state
  rw [sends.run_eq] at done
  cases result with
  | error failure => cases done
  | ok response =>
    obtain ⟨before, last, rfl, short, kept, converted⟩ := chain.last
    exact ⟨before, last, response, sends.sents_eq, done, short, kept, converted⟩

/-- A change that is reported as done was delivered, unless a response on the way turned it into a query:
then an answer to that query passes for one to the change. A 303 does so to both changes, a 301 or a 302
only to an upload. -/
theorem changes_delivered_unless_converted (client : Client) (party : Party σ) (state : σ) :
    (∀ encoded, ((client.perform (.uploadRules encoded)).runWith party state).1 = .ok () →
      ∃ (before : List Sent) (last : Http.Request) (response : Http.Response),
        sentIn party (client.perform (.uploadRules encoded)) state = before ++ [⟨last, .ok response⟩] ∧
        before.length ≤ 10 ∧ 200 ≤ response.status ∧ response.status < 300 ∧
        ((∀ sent ∈ before, ¬ AnsweredBy [301, 302, 303] sent) →
          last.method = .post ∧ last.body = some (Text.Utf8.encode encoded.text)) ∧
        ((∃ sent ∈ before, AnsweredBy [301, 302, 303] sent) → last.method = .get ∧ last.body = none)) ∧
    (((client.perform .deleteRules).runWith party state).1 = .ok () →
      ∃ (before : List Sent) (last : Http.Request) (response : Http.Response),
        sentIn party (client.perform .deleteRules) state = before ++ [⟨last, .ok response⟩] ∧
        before.length ≤ 10 ∧
        (200 ≤ response.status ∧ response.status < 300 ∨ response.status = 404) ∧
        ((∀ sent ∈ before, ¬ AnsweredBy [303] sent) → last.method = .delete ∧ last.body = none) ∧
        ((∃ sent ∈ before, AnsweredBy [303] sent) → last.method = .get ∧ last.body = none)) := by
  constructor
  · intro encoded done
    obtain ⟨before, last, response, sents, decided, short, kept, converted⟩ :=
      perform_decided client party state done
    have success : 200 ≤ response.status ∧ response.status < 300 := by
      simpa [outcome, Http.Response.isSuccess] using decided
    exact ⟨before, last, response, sents, short, success.1, success.2, kept, converted⟩
  · intro done
    obtain ⟨before, last, response, sents, decided, short, kept, converted⟩ :=
      perform_decided client party state done
    have success : 200 ≤ response.status ∧ response.status < 300 ∨ response.status = 404 := by
      simp only [outcome, Http.Response.isSuccess, Bool.or_eq_true, Bool.and_eq_true,
        decide_eq_true_eq] at decided
      split at decided
      · next success => exact success
      · cases decided
    exact ⟨before, last, response, sents, short, success, kept, converted⟩

/-- An upload that is pointed elsewhere by a 303 passes for done, and no party but the first has received
the rules: the response that decided it answered a query without a body. -/
theorem converted_upload_undelivered :
    let place : Url := { scheme := "http", host := some (.ipv4 ⟨127, 0, 0, 1⟩), path := .segments ["rules"] }
    let client : Client := ⟨place, place, none, "trace"⟩
    let network : Http.ScriptedNetwork :=
      { reaches := fun _ => true
        replies := [.respond { status := 303, location := some "/done" }, .respond { status := 200 }] }
    let world : Exchange.World := { network, files := ⟨"/", []⟩ }
    ((client.perform (.uploadRules ⟨"QQ=="⟩)).runWith Exchange.World.answer world).1 = .ok () ∧
      (sentIn Exchange.World.answer (client.perform (.uploadRules ⟨"QQ=="⟩)) world).map
          (fun sent => (sent.request.method, sent.request.body, sent.outcome.toOption.map (·.status))) =
        [(.post, some [81, 81, 61, 61], some 303), (.get, none, some 200)] :=
  ⟨by decide +kernel, by decide +kernel⟩

end EntitlementRules.Client
