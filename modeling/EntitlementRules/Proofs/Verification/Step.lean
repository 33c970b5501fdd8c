import EntitlementRules.Proofs.Session.Trace
import EntitlementRules.Verification.Run

/-! The turns of the steps of a verification run: one lemma for each thing that a step is made of. -/
namespace EntitlementRules.Verification

open Session (Turn Trace)

variable {α β : Type} {passed : List Check} {turns : List Turn}

/-- The turns that a step may take when some checks were passed already, and what comes of it. -/
abbrev StepTrace (step : Step α) (passed : List Check) (turns : List Turn)
    (outcome : Except VerificationError (α × List Check)) : Prop :=
  Trace (step.run passed).run turns outcome

/-- An error of the first step is the error of both. -/
theorem stepTrace_bind {step : Step α} {next : α → Step β}
    {outcome : Except VerificationError (β × List Check)} :
    StepTrace (step >>= next) passed turns outcome ↔
      (∃ error, StepTrace step passed turns (.error error) ∧ outcome = .error error) ∨
      ∃ before after value kept, turns = before ++ after ∧
        StepTrace step passed before (.ok (value, kept)) ∧
        StepTrace (next value) kept after outcome := by
  simp only [StepTrace, StateT.run_bind, ExceptT.run_bind, Session.trace_bind]
  constructor
  · rintro ⟨before, after, error | ⟨value, kept⟩, rfl, opening, closing⟩
    · obtain ⟨rfl, rfl⟩ := Session.trace_done.mp closing
      exact .inl ⟨error, by simpa using opening, rfl⟩
    · exact .inr ⟨before, after, value, kept, rfl, opening, closing⟩
  · rintro (⟨error, opening, rfl⟩ | ⟨before, after, value, kept, rfl, opening, closing⟩)
    · exact ⟨turns, [], .error error, by simp, opening, .done _⟩
    · exact ⟨before, after, .ok (value, kept), rfl, opening, closing⟩

private theorem stepTrace_inner {inner : ExceptT VerificationError Session α}
    {outcome : Except VerificationError (α × List Check)} :
    StepTrace (StateT.lift inner) passed turns outcome ↔
      ∃ brought, Trace inner.run turns brought ∧ outcome = brought.map (·, passed) := by
  simp only [StepTrace, StateT.run_lift, ExceptT.run_bind, Session.trace_bind]
  constructor
  · rintro ⟨before, after, brought, rfl, trace, last⟩
    cases brought with
    | error error =>
      obtain ⟨rfl, rfl⟩ := Session.trace_done.mp last
      exact ⟨_, by simpa using trace, rfl⟩
    | ok value =>
      obtain ⟨rfl, rfl⟩ := Session.trace_done.mp last
      exact ⟨_, by simpa using trace, rfl⟩
  · rintro ⟨brought, trace, rfl⟩
    refine ⟨turns, [], brought, by simp, trace, ?_⟩
    cases brought <;> exact .done _

theorem stepTrace_lift {session : Session α}
    {outcome : Except VerificationError (α × List Check)} :
    StepTrace (liftM session) passed turns outcome ↔
      ∃ value, Trace session turns value ∧ outcome = .ok (value, passed) := by
  change StepTrace (StateT.lift (ExceptT.lift session)) passed turns outcome ↔ _
  rw [stepTrace_inner, ExceptT.run_lift]
  constructor
  · rintro ⟨brought, mapped, rfl⟩
    obtain ⟨value, trace, rfl⟩ := Session.trace_map.mp mapped
    exact ⟨value, trace, rfl⟩
  · rintro ⟨value, trace, rfl⟩
    exact ⟨.ok value, Session.trace_map.mpr ⟨value, trace, rfl⟩, rfl⟩

theorem stepTrace_pure {value : α} {outcome : Except VerificationError (α × List Check)} :
    StepTrace (pure value) passed turns outcome ↔
      turns = [] ∧ outcome = .ok (value, passed) :=
  Session.trace_done

theorem stepTrace_fail {check : Check} {detail : String}
    {outcome : Except VerificationError (α × List Check)} :
    StepTrace (failCheck check detail) passed turns outcome ↔
      turns = [] ∧ outcome = .error (.check check detail) :=
  Session.trace_done

theorem stepTrace_note {message : String} {fields : List (String × Json)}
    {outcome : Except VerificationError (Unit × List Check)} :
    StepTrace (note message fields) passed turns outcome ↔
      turns = [] ∧ outcome = .ok ((), passed) := by
  change StepTrace (liftM (Session.log (event .info message fields))) passed turns outcome ↔ _
  rw [stepTrace_lift]
  constructor
  · rintro ⟨_, trace, rfl⟩
    cases trace with
    | log rest => exact ⟨(Session.trace_done.mp rest).1, rfl⟩
  · rintro ⟨rfl, rfl⟩
    exact ⟨(), .log (.done ()), rfl⟩

theorem stepTrace_pass {check : Check} {outcome : Except VerificationError (Unit × List Check)} :
    StepTrace (pass check) passed turns outcome ↔
      turns = [] ∧ outcome = .ok ((), passed ++ [check]) :=
  Session.trace_log_bind.trans Session.trace_done

/-- A pause takes no turns. -/
theorem trace_settle {milliseconds : Nat} : Trace (settle milliseconds) turns () ↔ turns = [] := by
  unfold settle
  split
  · simp
  · rw [Session.trace_log_bind]
    constructor
    · intro trace
      cases trace with
      | pause rest => exact (Session.trace_done.mp rest).1
    · rintro rfl
      exact .pause (.done ())

theorem stepTrace_settle {milliseconds : Nat}
    {outcome : Except VerificationError (Unit × List Check)} :
    StepTrace (liftM (settle milliseconds)) passed turns outcome ↔
      turns = [] ∧ outcome = .ok ((), passed) := by
  rw [stepTrace_lift]
  constructor
  · rintro ⟨_, trace, rfl⟩
    exact ⟨trace_settle.mp trace, rfl⟩
  · rintro ⟨quiet, rfl⟩
    exact ⟨(), trace_settle.mpr quiet, rfl⟩

theorem stepTrace_demand {asked : Call}
    {outcome : Except VerificationError (asked.Answer × List Check)} :
    StepTrace (demand asked) passed turns outcome ↔
      ∃ brought, turns = [⟨asked, brought⟩] ∧
        outcome = (brought.mapError (.call asked.operation)).map (·, passed) := by
  rw [demand, stepTrace_inner]
  constructor
  · rintro ⟨ended, trace, rfl⟩
    obtain ⟨brought, rest, rfl, last⟩ := Session.trace_call_bind.mp trace
    obtain ⟨rfl, rfl⟩ := Session.trace_done.mp last
    exact ⟨brought, rfl, rfl⟩
  · rintro ⟨brought, rfl, rfl⟩
    exact ⟨_, Session.trace_call_bind.mpr ⟨brought, [], rfl, .done _⟩, rfl⟩

theorem stepTrace_demand_bind {asked : Call} {next : asked.Answer → Step β}
    {outcome : Except VerificationError (β × List Check)} :
    StepTrace (demand asked >>= next) passed turns outcome ↔
      ∃ brought rest, turns = ⟨asked, brought⟩ :: rest ∧
        match brought with
        | .error cause => rest = [] ∧ outcome = .error (.call asked.operation cause)
        | .ok answer => StepTrace (next answer) passed rest outcome := by
  rw [stepTrace_bind]
  constructor
  · rintro (⟨error, stopped, rfl⟩ | ⟨before, after, answer, kept, rfl, started, continued⟩)
    · obtain ⟨cause | answer, rfl, same⟩ := stepTrace_demand.mp stopped
      · cases same
        exact ⟨.error cause, [], rfl, rfl, rfl⟩
      · cases same
    · obtain ⟨cause | given, rfl, same⟩ := stepTrace_demand.mp started
      · cases same
      · cases same
        exact ⟨.ok answer, after, rfl, continued⟩
  · rintro ⟨cause | answer, rest, rfl, taken⟩
    · obtain ⟨rfl, rfl⟩ := taken
      exact .inl ⟨_, stepTrace_demand.mpr ⟨.error cause, rfl, rfl⟩, rfl⟩
    · exact .inr ⟨[_], rest, answer, passed, rfl,
        stepTrace_demand.mpr ⟨.ok answer, rfl, rfl⟩, taken⟩

end EntitlementRules.Verification
