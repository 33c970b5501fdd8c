import EntitlementRules.Proofs.Client.Delivery

/-! Answered calls: the response that a call comes to decides it alone, whatever was sent on the way. -/
namespace EntitlementRules.Client

open Exchange (Party Sends Sent sentIn)
open Http (Chain)

variable {σ : Type} {client : Client} {call : Call} {party : Party σ} {state : σ}
  {response : Http.Response}

/-- A call comes to a response that sends the client nowhere else: the last one on its way. -/
def Answered (client : Client) (call : Call) (party : Party σ) (state : σ)
    (response : Http.Response) : Prop :=
  ∃ before last, sentIn party (client.perform call) state = before ++ [⟨last, .ok response⟩] ∧
    last.next? response = none

theorem chain_ends {left : Nat} {request last : Http.Request} {sents before : List Sent}
    {result : Except Http.Failure Http.Response} (chain : Chain left request sents result)
    (ends : sents = before ++ [⟨last, .ok response⟩]) (final : last.next? response = none) :
    result = .ok response := by
  induction chain generalizing before with
  | barred _ => simp at ends
  | failed =>
    cases before with
    | nil => cases ends
    | cons first rest => simp at ends
  | answered _ =>
    cases before with
    | nil =>
      cases ends
      rfl
    | cons first rest => simp at ends
  | exhausted points =>
    cases before with
    | nil =>
      cases ends
      cases points.symm.trans final
    | cons first rest => simp at ends
  | redirected points later ih =>
    cases before with
    | nil =>
      cases ends
      cases points.symm.trans final
    | cons first rest =>
      cases ends
      exact ih rfl

/-- The response that a call comes to is all that it depends on. -/
theorem Answered.run_eq (answered : Answered client call party state response) :
    ((client.perform call).runWith party state).1 = outcome response call := by
  obtain ⟨before, last, ends, final⟩ := answered
  obtain ⟨sents, result, after, sends, chain⟩ := perform_chain client call party state
  rw [sends.sents_eq] at ends
  rw [sends.run_eq, chain_ends chain ends final]
  rfl

/-- A call comes to the first response where that one does not point elsewhere. -/
theorem answered_at_once (served : (client.requestFor call).url.scheme = "http")
    (brought : ∀ entry, (party (.send (client.requestFor call)) (party (.log entry) state).2).1 =
      .ok response)
    (final : (client.requestFor call).next? response = none) :
    Answered client call party state response := by
  have follows {start : σ} (given : (party (.send (client.requestFor call)) start).1 = .ok response) :
      Sends party (Http.follow Http.redirectLimit (client.requestFor call)) start
        [⟨client.requestFor call, .ok response⟩] (.ok response)
        (party (.send (client.requestFor call)) start).2 := by
    rw [Http.follow, if_neg (by simp [served])]
    apply Sends.send_bind given
    simp only [final]
    exact .pure _
  have whole : ∃ after, Sends party (client.perform call) state
      [⟨client.requestFor call, .ok response⟩] (outcome response call) after :=
    ⟨_, .log_bind ((follows (brought _)).bind_silent (.log_bind (.pure _)))⟩
  obtain ⟨after, sends⟩ := whole
  exact ⟨[], client.requestFor call, sends.sents_eq, final⟩

end EntitlementRules.Client
