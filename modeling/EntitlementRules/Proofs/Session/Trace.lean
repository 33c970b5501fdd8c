import EntitlementRules.Command.Session

/-! What passes between a session and a server: the calls in order, each with what it brought. A trace
leaves the answers open; a session that runs against a backend takes exactly one. -/
namespace EntitlementRules.Session

variable {σ α β : Type}

/-- A call together with what it brought. -/
structure Turn where
  call : Call
  outcome : call.Outcome

/-- The turns that a session may take and the value that it then ends with. A call may bring anything
that its kind allows, and a file may or may not be written. -/
inductive Trace : Session α → List Turn → α → Prop where
  | done (value : α) : Trace (.done value) [] value
  | call {asked : Call} {next : asked.Outcome → Session α} {turns : List Turn} {value : α}
      (outcome : asked.Outcome) (rest : Trace (next outcome) turns value) :
      Trace (.ask (.call asked) next) (⟨asked, outcome⟩ :: turns) value
  | log {event : Log.Event} {next : Unit → Session α} {turns : List Turn} {value : α}
      (rest : Trace (next ()) turns value) : Trace (.ask (.log event) next) turns value
  | pause {milliseconds : Nat} {next : Unit → Session α} {turns : List Turn} {value : α}
      (rest : Trace (next ()) turns value) : Trace (.ask (.pause milliseconds) next) turns value
  | save {path : String} {content : Bytes} {next : Except FileError Unit → Session α}
      {turns : List Turn} {value : α}
      (written : Except FileError Unit) (rest : Trace (next written) turns value) :
      Trace (.ask (.save path content) next) turns value

@[simp] theorem trace_done {value result : α} {turns : List Turn} :
    Trace (.done value) turns result ↔ turns = [] ∧ result = value := by
  constructor
  · intro trace
    cases trace with
    | done _ => exact ⟨rfl, rfl⟩
  · rintro ⟨rfl, rfl⟩
    exact .done result

theorem trace_bind {first : Session α} {next : α → Session β} {turns : List Turn} {result : β} :
    Trace (first >>= next) turns result ↔
      ∃ before after value, turns = before ++ after ∧
        Trace first before value ∧ Trace (next value) after result := by
  constructor
  · intro trace
    induction first generalizing turns with
    | done value => exact ⟨[], turns, value, rfl, .done value, trace⟩
    | ask request rest ih =>
      rw [Procedure.ask_bind] at trace
      cases trace with
      | call outcome tail =>
        obtain ⟨before, after, value, same, opening, closing⟩ := ih outcome tail
        exact ⟨_ :: before, after, value, by rw [same]; rfl, .call outcome opening, closing⟩
      | log tail =>
        obtain ⟨before, after, value, same, opening, closing⟩ := ih () tail
        exact ⟨before, after, value, same, .log opening, closing⟩
      | pause tail =>
        obtain ⟨before, after, value, same, opening, closing⟩ := ih () tail
        exact ⟨before, after, value, same, .pause opening, closing⟩
      | save written tail =>
        obtain ⟨before, after, value, same, opening, closing⟩ := ih written tail
        exact ⟨before, after, value, same, .save written opening, closing⟩
  · rintro ⟨before, after, value, rfl, opening, closing⟩
    induction opening with
    | done _ => exact closing
    | call outcome _ ih => exact .call outcome (ih closing)
    | log _ ih => exact .log (ih closing)
    | pause _ ih => exact .pause (ih closing)
    | save written _ ih => exact .save written (ih closing)

@[simp] theorem trace_map {session : Session α} {change : α → β} {turns : List Turn} {result : β} :
    Trace (change <$> session) turns result ↔
      ∃ value, Trace session turns value ∧ result = change value := by
  change Trace (session >>= fun value => pure (change value)) turns result ↔ _
  simp only [trace_bind, Procedure.pure_eq, trace_done]
  constructor
  · rintro ⟨before, after, value, rfl, trace, rfl, rfl⟩
    exact ⟨value, by simpa using trace, rfl⟩
  · rintro ⟨value, trace, rfl⟩
    exact ⟨turns, [], value, by simp, trace, rfl, rfl⟩

@[simp] theorem trace_call_bind {asked : Call} {next : asked.Outcome → Session β}
    {turns : List Turn} {result : β} :
    Trace (call asked >>= next) turns result ↔
      ∃ outcome rest, turns = ⟨asked, outcome⟩ :: rest ∧ Trace (next outcome) rest result := by
  constructor
  · intro trace
    cases trace with
    | call outcome rest => exact ⟨outcome, _, rfl, rest⟩
  · rintro ⟨outcome, rest, rfl, trace⟩
    exact .call outcome trace

@[simp] theorem trace_log_bind {event : Log.Event} {next : Unit → Session β}
    {turns : List Turn} {result : β} :
    Trace (log event >>= next) turns result ↔ Trace (next ()) turns result := by
  constructor
  · intro trace
    cases trace with
    | log rest => exact rest
  · exact .log

/-- What a request adds to the turns of a session. -/
def turnsOf : (request : Request) → Answer request → List Turn
  | .call asked, outcome => [⟨asked, outcome⟩]
  | _, _ => []

/-- The turns of a session that runs in a world. -/
def turnsIn (backend : Backend σ) : Session α → World σ → List Turn
  | .done _, _ => []
  | .ask request next, world =>
    turnsOf request (World.answer backend request world).1
      ++ turnsIn backend (next (World.answer backend request world).1)
        (World.answer backend request world).2

/-- The calls of a session that runs in a world. -/
def callsIn (backend : Backend σ) (session : Session α) (world : World σ) : List Call :=
  (turnsIn backend session world).map (·.call)

/-- What a backend has become after a number of calls. -/
def serverAfter (backend : Backend σ) (calls : List Call) (server : σ) : σ :=
  calls.foldl (fun server call => (backend call server).2) server

/-- Every turn brought what a backend answers at that moment. -/
def Answered (backend : Backend σ) : σ → List Turn → Prop
  | _, [] => True
  | server, turn :: turns =>
    turn.outcome = (backend turn.call server).1 ∧ Answered backend (backend turn.call server).2 turns

variable (backend : Backend σ)

/-- A session that runs against a backend takes one of its traces. -/
theorem trace_turnsIn (session : Session α) (world : World σ) :
    Trace session (turnsIn backend session world) (session.runIn backend world).1 := by
  induction session generalizing world with
  | done value => exact .done value
  | ask request next ih =>
    cases request with
    | call asked => exact .call _ (ih _ _)
    | log event => exact .log (ih _ _)
    | pause milliseconds => exact .pause (ih _ _)
    | save path content => exact .save _ (ih _ _)

theorem serverAfter_append (first rest : List Call) (server : σ) :
    serverAfter backend (first ++ rest) server =
      serverAfter backend rest (serverAfter backend first server) :=
  List.foldl_append

theorem answered_append {first rest : List Turn} {server : σ} :
    Answered backend server (first ++ rest) ↔
      Answered backend server first ∧
        Answered backend (serverAfter backend (first.map (·.call)) server) rest := by
  induction first generalizing server with
  | nil => simp [Answered, serverAfter]
  | cons turn turns ih =>
    simp only [List.cons_append, Answered, ih, and_assoc]
    rfl

private theorem server_answer (request : Request) (world : World σ) :
    (World.answer backend request world).2.server =
      serverAfter backend ((turnsOf request (World.answer backend request world).1).map (·.call))
        world.server := by
  cases request with
  | save path content =>
    change (World.answer backend (.save path content) world).2.server = world.server
    simp only [World.answer]
    split <;> rfl
  | _ => rfl

theorem answered_turnsIn (session : Session α) (world : World σ) :
    Answered backend world.server (turnsIn backend session world) := by
  induction session generalizing world with
  | done value => exact trivial
  | ask request next ih =>
    rw [turnsIn, answered_append]
    constructor
    · cases request with
      | call asked => exact ⟨rfl, trivial⟩
      | _ => exact trivial
    · rw [← server_answer]
      exact ih _ _

theorem server_runIn (session : Session α) (world : World σ) :
    (session.runIn backend world).2.server =
      serverAfter backend (callsIn backend session world) world.server := by
  induction session generalizing world with
  | done value => rfl
  | ask request next ih =>
    rw [callsIn, turnsIn, List.map_append, serverAfter_append, ← server_answer]
    exact ih _ _

end EntitlementRules.Session
