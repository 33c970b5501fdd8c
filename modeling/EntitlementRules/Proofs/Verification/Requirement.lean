import EntitlementRules.Proofs.Rules.Version
import EntitlementRules.Proofs.Verification.Step

/-! What a verification run requires of a server: calls in a fixed order, each with the error for an
outcome that is not as it should be. The steps of a run go through their requirements one by one and stop
at the first objection. -/
namespace EntitlementRules.Verification

open Session (Turn Trace)

variable {α β : Type}

/-- A call, and the error that its outcome is reported with if it is not as it should be. -/
structure Requirement where
  call : Call
  objection? : call.Outcome → Option VerificationError

/-- Turns that follow requirements in order, up to the first objection if there is one. -/
inductive Examined : List Requirement → List Turn → Option VerificationError → Prop where
  | nil : Examined [] [] none
  | met {requirement : Requirement} {outcome : requirement.call.Outcome}
      {requirements : List Requirement} {turns : List Turn} {objection : Option VerificationError}
      (accepted : requirement.objection? outcome = none)
      (rest : Examined requirements turns objection) :
      Examined (requirement :: requirements) (⟨requirement.call, outcome⟩ :: turns) objection
  | objected {requirement : Requirement} {outcome : requirement.call.Outcome}
      {requirements : List Requirement} {error : VerificationError}
      (refused : requirement.objection? outcome = some error) :
      Examined (requirement :: requirements) [⟨requirement.call, outcome⟩] (some error)

def succeeds (call : Call) : Requirement where
  call := call
  objection?
    | .ok _ => none
    | .error cause => some (.call call.operation cause)

/-- What is wrong with the first status: a version that does not parse, or leaves no room for a
synthetic version above it. -/
def baselineObjection? : Except RulesError Status → Option VerificationError
  | .error cause => some (.call "get_status" cause)
  | .ok status =>
    match status.parsedVersion with
    | .error error => some (.check .baselineVersion error.message)
    | .ok baseline =>
      match baseline.successor with
      | .error error => some (.check .syntheticVersionOrdering error.message)
      | .ok _ => none

/-- The reported version must be one that leaves room for a synthetic version above it. -/
def reportsBaseline : Requirement where
  call := .getStatus
  objection? := baselineObjection?

/-- The reported version must be a given text. -/
def reportsVersion (check : Check) (expected : String) : Requirement where
  call := .getStatus
  objection?
    | .error cause => some (.call "get_status" cause)
    | .ok status =>
      if status.rulesVersion = expected then none
      else some (.check check
        s!"server reports rules version '{status.rulesVersion}', expected '{expected}'")

def listsRules (uploaded : Blob) : Requirement where
  call := .listRules
  objection?
    | .error cause => some (.call "list_rules" cause)
    | .ok listed =>
      match listed.decode with
      | .error error => some (.check .uploadRoundtrip error.message)
      | .ok found =>
        if found = uploaded then none
        else some (.check .uploadRoundtrip
          s!"listed rules ({found.bytes.length} bytes) differ from the uploaded rules ({uploaded.bytes.length} bytes)")

/-- A deletion must succeed where there is nothing to delete. -/
def deletesAgain : Requirement where
  call := .deleteRules
  objection?
    | .ok _ => none
    | .error cause => some (.check .deleteIdempotent cause.message)

/-- What is required before synthetic rules are uploaded. -/
def opening : List Requirement := [succeeds .deleteRules, reportsBaseline]

/-- What is required of a server that is tried with synthetic rules. -/
def trial (baseline : String) (synthetic : Version) : List Requirement :=
  [succeeds (.uploadRules (syntheticRules synthetic).encode), listsRules (syntheticRules synthetic),
    reportsVersion .uploadVersion synthetic.text, succeeds .deleteRules,
    reportsVersion .deleteRevertsVersion baseline, deletesAgain,
    reportsVersion .deleteIdempotent baseline]

def statusIn? : Turn → Option Status
  | ⟨.getStatus, .ok status⟩ => some status
  | _ => none

def firstStatus? (turns : List Turn) : Option Status := turns.findSome? statusIn?

/-- The text of the version that is reported first, and the synthetic version above it. -/
def versions? (turns : List Turn) : Option (String × Version) := do
  let status ← firstStatus? turns
  let baseline ← status.parsedVersion.toOption
  let synthetic ← baseline.successor.toOption
  return (status.rulesVersion, synthetic)

/-- What is required of a server beyond the opening. Without a synthetic version there is nothing to
try it with. -/
def trialFor (turns : List Turn) : List Requirement :=
  match versions? turns with
  | some (baseline, synthetic) => trial baseline synthetic
  | none => []

/-- All that is required of a server by the time of given turns. -/
def requirements (turns : List Turn) : List Requirement := opening ++ trialFor turns

namespace Examined

variable {first rest : List Requirement} {before after : List Turn}
  {objection : Option VerificationError}

theorem append_passed (passed : Examined first before none) (later : Examined rest after objection) :
    Examined (first ++ rest) (before ++ after) objection := by
  generalize accepted : none = found at passed
  induction passed with
  | nil => exact later
  | met agreed _ ih => exact .met agreed (ih accepted)
  | objected => cases accepted

theorem append_objected {error : VerificationError} (stopped : Examined first before (some error)) :
    Examined (first ++ rest) before (some error) := by
  generalize refused : some error = found at stopped
  induction stopped with
  | nil => cases refused
  | met agreed _ ih => exact .met agreed (ih refused)
  | objected disagreed =>
    cases refused
    exact .objected disagreed

end Examined

/-- What comes of a step whose requirements were examined. -/
def ending (objection : Option VerificationError) (value : α) : Except VerificationError α :=
  match objection with
  | some error => .error error
  | none => .ok value

/-- The step goes through the requirements, and where none of them objects it ends with the value and
has passed the checks. -/
def GoesThrough (step : Step α) (requirements : List Requirement) (value : α) (checks : List Check) :
    Prop :=
  ∀ ⦃passed turns outcome⦄, StepTrace step passed turns outcome →
    ∃ objection, Examined requirements turns objection ∧
      outcome = ending objection (value, passed ++ checks)

namespace GoesThrough

theorem stopped {step : Step α} {requirements : List Requirement} {value : α}
    {checks passed : List Check} {turns : List Turn} {error : VerificationError}
    (through : GoesThrough step requirements value checks)
    (trace : StepTrace step passed turns (.error error)) :
    Examined requirements turns (some error) := by
  obtain ⟨objection, examined, ended⟩ := through trace
  cases objection with
  | none => cases ended
  | some found =>
    cases ended
    exact examined

theorem finished {step : Step α} {requirements : List Requirement} {value result : α}
    {checks passed kept : List Check} {turns : List Turn}
    (through : GoesThrough step requirements value checks)
    (trace : StepTrace step passed turns (.ok (result, kept))) :
    Examined requirements turns none ∧ result = value ∧ kept = passed ++ checks := by
  obtain ⟨objection, examined, ended⟩ := through trace
  cases objection with
  | some found => cases ended
  | none =>
    cases ended
    exact ⟨examined, rfl, rfl⟩

theorem bind {step : Step α} {next : α → Step β} {first rest : List Requirement} {value : α}
    {result : β} {early late : List Check} (opening : GoesThrough step first value early)
    (closing : GoesThrough (next value) rest result late) :
    GoesThrough (step >>= next) (first ++ rest) result (early ++ late) := by
  intro passed turns outcome trace
  rcases stepTrace_bind.mp trace with
    ⟨error, stopped, rfl⟩ | ⟨before, after, middle, kept, rfl, started, continued⟩
  · exact ⟨some error, (opening.stopped stopped).append_objected, rfl⟩
  · obtain ⟨examined, rfl, rfl⟩ := opening.finished started
    obtain ⟨objection, later, rfl⟩ := closing continued
    exact ⟨objection, examined.append_passed later, by rw [List.append_assoc]⟩

theorem silent {step : Step α} {value : α} {checks : List Check}
    (quiet : ∀ {passed turns outcome}, StepTrace step passed turns outcome →
      turns = [] ∧ outcome = .ok (value, passed ++ checks)) :
    GoesThrough step [] value checks := by
  intro passed turns outcome trace
  obtain ⟨rfl, rfl⟩ := quiet trace
  exact ⟨none, .nil, rfl⟩

theorem note {message : String} {fields : List (String × Json)} :
    GoesThrough (note message fields) [] () [] :=
  silent fun trace => by simpa using stepTrace_note.mp trace

theorem settle {milliseconds : Nat} : GoesThrough (liftM (settle milliseconds)) [] () [] :=
  silent fun trace => by simpa using stepTrace_settle.mp trace

theorem pass {check : Check} : GoesThrough (pass check) [] () [check] :=
  silent stepTrace_pass.mp

theorem pure {value : α} : GoesThrough (pure value) [] value [] :=
  silent fun trace => by simpa using stepTrace_pure.mp trace

theorem single {step : Step α} {requirement : Requirement} {value : α} {checks : List Check}
    (taken : ∀ {passed turns outcome}, StepTrace step passed turns outcome →
      ∃ brought, turns = [⟨requirement.call, brought⟩] ∧
        outcome = ending (requirement.objection? brought) (value, passed ++ checks)) :
    GoesThrough step [requirement] value checks := by
  intro passed turns outcome trace
  obtain ⟨brought, rfl, rfl⟩ := taken trace
  cases judged : requirement.objection? brought with
  | none => exact ⟨none, .met judged .nil, rfl⟩
  | some error => exact ⟨some error, .objected judged, rfl⟩

theorem demand {asked : Call} {value : asked.Answer} (only : ∀ answer : asked.Answer, answer = value) :
    GoesThrough (demand asked) [succeeds asked] value [] := by
  refine single fun trace => ?_
  obtain ⟨brought, rfl, rfl⟩ := stepTrace_demand.mp trace
  refine ⟨brought, rfl, ?_⟩
  cases brought with
  | error cause => rfl
  | ok answer => rw [List.append_nil, ← only answer]; rfl

theorem expectVersion {check : Check} {expected : String} :
    GoesThrough (expectVersion check expected) [reportsVersion check expected] () [check] := by
  refine single fun trace => ?_
  obtain ⟨brought, rest, rfl, ended⟩ := stepTrace_demand_bind.mp trace
  refine ⟨brought, ?_⟩
  cases brought with
  | error cause =>
    obtain ⟨rfl, rfl⟩ := ended
    exact ⟨rfl, rfl⟩
  | ok status =>
    by_cases same : status.rulesVersion = expected
    · simp only [same, ↓reduceIte, stepTrace_pass] at ended
      obtain ⟨rfl, rfl⟩ := ended
      exact ⟨rfl, by simp [reportsVersion, same, ending]⟩
    · simp only [same, ↓reduceIte, stepTrace_fail] at ended
      obtain ⟨rfl, rfl⟩ := ended
      exact ⟨rfl, by simp [reportsVersion, same, ending]⟩

theorem expectRules {uploaded : Blob} :
    GoesThrough (expectRules uploaded) [listsRules uploaded] () [.uploadRoundtrip] := by
  refine single fun trace => ?_
  obtain ⟨brought, rest, rfl, ended⟩ := stepTrace_demand_bind.mp trace
  refine ⟨brought, ?_⟩
  cases brought with
  | error cause =>
    obtain ⟨rfl, rfl⟩ := ended
    exact ⟨rfl, rfl⟩
  | ok listed =>
    cases decoded : listed.decode with
    | error error =>
      simp only [decoded, stepTrace_fail] at ended
      obtain ⟨rfl, rfl⟩ := ended
      exact ⟨rfl, by simp [listsRules, decoded, ending]⟩
    | ok found =>
      by_cases same : found = uploaded
      · simp only [decoded, same, ↓reduceIte, stepTrace_pass] at ended
        obtain ⟨rfl, rfl⟩ := ended
        exact ⟨rfl, by simp [listsRules, decoded, same, ending]⟩
      · simp only [decoded, same, ↓reduceIte, stepTrace_fail] at ended
        obtain ⟨rfl, rfl⟩ := ended
        exact ⟨rfl, by simp [listsRules, decoded, same, ending]⟩

theorem upload {encoded : EncodedBlob} :
    GoesThrough (Verification.demand (.uploadRules encoded)) [succeeds (.uploadRules encoded)] () [] :=
  demand fun _ => rfl

theorem delete :
    GoesThrough (Verification.demand .deleteRules) [succeeds .deleteRules] () [] :=
  demand fun _ => rfl

theorem deleteAgain {baseline : String} :
    GoesThrough (liftM (Session.call .deleteRules) >>= fun
        | .error error => failCheck .deleteIdempotent error.message
        | .ok () => Verification.expectVersion .deleteIdempotent baseline)
      [deletesAgain, reportsVersion .deleteIdempotent baseline] () [.deleteIdempotent] := by
  intro passed turns outcome trace
  rcases stepTrace_bind.mp trace with
    ⟨error, stopped, rfl⟩ | ⟨before, after, brought, kept, rfl, started, continued⟩
  · obtain ⟨_, _, same⟩ := stepTrace_lift.mp stopped
    cases same
  · obtain ⟨_, asked, same⟩ := stepTrace_lift.mp started
    cases same
    have taken : before = [⟨.deleteRules, brought⟩] := by
      cases asked with
      | call _ rest =>
        obtain ⟨rfl, rfl⟩ := Session.trace_done.mp rest
        rfl
    subst taken
    cases brought with
    | error error =>
      obtain ⟨rfl, rfl⟩ := stepTrace_fail.mp continued
      exact ⟨_, .objected rfl, rfl⟩
    | ok =>
      obtain ⟨objection, examined, rfl⟩ := GoesThrough.expectVersion continued
      exact ⟨objection, .met rfl examined, rfl⟩

theorem tryRules {pause : Nat} {baseline : String} {synthetic : Version} :
    GoesThrough (tryRules pause baseline synthetic) (trial baseline synthetic) ()
      [.uploadRoundtrip, .uploadVersion, .deleteRevertsVersion, .deleteIdempotent] :=
  note.bind <| settle.bind <| upload.bind <| expectRules.bind <| expectVersion.bind <|
    note.bind <| settle.bind <| delete.bind <| expectVersion.bind <| settle.bind deleteAgain

theorem clearRules {pause : Nat} : GoesThrough (clearRules pause) [succeeds .deleteRules] () [] :=
  note.bind <| settle.bind delete

end GoesThrough

end EntitlementRules.Verification
