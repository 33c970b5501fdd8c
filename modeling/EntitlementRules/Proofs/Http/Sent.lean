import EntitlementRules.Http.Exchange
import EntitlementRules.Proofs.Procedure

/-! What an exchange sends: the requests in order, each with what it brought, against any party. -/
namespace EntitlementRules.Exchange

variable {σ α β : Type}

/-- A party that answers what exchanges ask for and changes its state with each answer. -/
abbrev Party (σ : Type) : Type := (request : Request) → σ → Answer request × σ

/-- A request together with what it brought. -/
structure Sent where
  request : Http.Request
  outcome : Except Http.Failure Http.Response

/-- What an answer adds to what was sent. -/
def sentOf : (request : Request) → Answer request → List Sent
  | .send request, outcome => [⟨request, outcome⟩]
  | _, _ => []

/-- The requests of an exchange with a party. -/
def sentIn (party : Party σ) : Exchange α → σ → List Sent
  | .done _, _ => []
  | .ask request next, state =>
    sentOf request (party request state).1
      ++ sentIn party (next (party request state).1) (party request state).2

variable {party : Party σ} {state middle left : σ} {before after sents : List Sent}

theorem sentIn_bind (first : Exchange α) (next : α → Exchange β) (state : σ) :
    sentIn party (first >>= next) state =
      sentIn party first state ++
        sentIn party (next (first.runWith party state).1) (first.runWith party state).2 := by
  induction first generalizing state with
  | done value => rfl
  | ask request rest ih =>
    rw [Procedure.ask_bind, sentIn, sentIn, ih, List.append_assoc]
    rfl

/-- The requests that an exchange with a party sends, what comes of it, and how the party is left. -/
structure Sends (party : Party σ) (exchange : Exchange α) (state : σ) (sents : List Sent) (result : α)
    (left : σ) : Prop where
  sents_eq : sentIn party exchange state = sents
  run_eq : exchange.runWith party state = (result, left)

namespace Sends

variable {first : Exchange α} {next : α → Exchange β} {value : α} {result : β}

theorem pure (value : α) : Sends party (pure value) state [] value state := ⟨rfl, rfl⟩

theorem bind (opening : Sends party first state before value middle)
    (closing : Sends party (next value) middle after result left) :
    Sends party (first >>= next) state (before ++ after) result left := by
  constructor
  · rw [sentIn_bind, opening.sents_eq, opening.run_eq]
    exact congrArg _ closing.sents_eq
  · rw [Procedure.runWith_bind, opening.run_eq]
    exact closing.run_eq

theorem bind_silent (opening : Sends party first state sents value middle)
    (closing : Sends party (next value) middle [] result left) :
    Sends party (first >>= next) state sents result left := by
  have whole := opening.bind closing
  rwa [List.append_nil] at whole

theorem log_bind {event : Log.Event} {next : Unit → Exchange β}
    (later : Sends party (next ()) (party (.log { event }) state).2 sents result left) :
    Sends party (Exchange.log event >>= next) state sents result left :=
  ⟨later.sents_eq, later.run_eq⟩

theorem send_bind {request : Http.Request}
    {next : Except Http.Failure Http.Response → Exchange β}
    {outcome : Except Http.Failure Http.Response} (brought : (party (.send request) state).1 = outcome)
    (later : Sends party (next outcome) (party (.send request) state).2 sents result left) :
    Sends party (Exchange.send request >>= next) state (⟨request, outcome⟩ :: sents) result left := by
  subst brought
  exact ⟨congrArg _ later.sents_eq, later.run_eq⟩

end Sends

end EntitlementRules.Exchange
