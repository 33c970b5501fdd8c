import EntitlementRules.Proofs.Verification.Requirement

/-! The course of a verification run: whatever the server answers, the turns of a run decide its result,
and the captured rules are put back in the last of them. -/
namespace EntitlementRules.Verification

open Session (Turn Trace)

/-- What the checks of a run come to: the objection, or the two versions with the passed checks. -/
def Concluded (turns : List Turn) (passed : List Check) (objection : Option VerificationError)
    (outcome : Except VerificationError ((String × String) × List Check)) : Prop :=
  match objection with
  | some error => outcome = .error error
  | none => ∃ baseline synthetic, versions? turns = some (baseline, synthetic) ∧
      outcome = .ok ((baseline, synthetic.text), passed)

theorem stepTrace_readBaseline_bind {status : Status} {next : Version → Step β}
    {passed : List Check} {turns : List Turn}
    {outcome : Except VerificationError (β × List Check)} :
    StepTrace (readBaseline status >>= next) passed turns outcome ↔
      match status.parsedVersion with
      | .error error => turns = [] ∧ outcome = .error (.check .baselineVersion error.message)
      | .ok baseline => StepTrace (next baseline) (passed ++ [.baselineVersion]) turns outcome := by
  unfold readBaseline
  cases status.parsedVersion with
  | error error => exact Session.trace_done
  | ok baseline => exact Session.trace_log_bind

/-- The successor always sorts after the version that it follows. -/
theorem stepTrace_chooseSynthetic_bind {baseline : Version} {next : Version → Step β}
    {passed : List Check} {turns : List Turn}
    {outcome : Except VerificationError (β × List Check)} :
    StepTrace (chooseSynthetic baseline >>= next) passed turns outcome ↔
      match baseline.successor with
      | .error error =>
        turns = [] ∧ outcome = .error (.check .syntheticVersionOrdering error.message)
      | .ok synthetic =>
        StepTrace (next synthetic) (passed ++ [.syntheticVersionOrdering]) turns outcome := by
  unfold chooseSynthetic
  cases found : baseline.successor with
  | error error => exact Session.trace_done
  | ok synthetic =>
    simp only [Version.compare_successor found, ↓reduceIte]
    exact Session.trace_log_bind

private theorem toOption_eq_some {ε α : Type} {result : Except ε α} {value : α} :
    result.toOption = some value ↔ result = .ok value := by
  cases result <;> simp [Except.toOption]

/-- The versions that turns announce are those of their first status. -/
theorem versions?_eq_some_iff {turns : List Turn} {baseline : String} {synthetic : Version} :
    versions? turns = some (baseline, synthetic) ↔
      ∃ status version, firstStatus? turns = some status ∧ status.rulesVersion = baseline ∧
        status.parsedVersion = .ok version ∧ version.successor = .ok synthetic := by
  simp only [versions?, Option.bind_eq_bind, Option.bind_eq_some_iff, Option.pure_def,
    Option.some.injEq, Prod.mk.injEq, toOption_eq_some]
  constructor
  · rintro ⟨status, reported, version, parsed, _, succeeded, same, rfl⟩
    exact ⟨status, version, reported, same, parsed, succeeded⟩
  · rintro ⟨status, version, reported, same, parsed, succeeded⟩
    exact ⟨status, reported, version, parsed, synthetic, succeeded, same, rfl⟩

/-- The opening turns announce the versions that the server is tried with. -/
theorem versions?_opening {first : Status} {baseline synthetic : Version}
    (parsed : first.parsedVersion = .ok baseline) (succeeded : baseline.successor = .ok synthetic)
    (rest : List Turn) :
    versions? (⟨.deleteRules, .ok ()⟩ :: ⟨.getStatus, .ok first⟩ :: rest) =
      some (first.rulesVersion, synthetic) :=
  versions?_eq_some_iff.mpr ⟨first, baseline, rfl, rfl, parsed, succeeded⟩

/-- The first status decides whether there is anything to try a server with. -/
theorem stepTrace_findVersions {passed : List Check} {turns : List Turn}
    {outcome : Except VerificationError ((String × Version) × List Check)}
    (trace : StepTrace findVersions passed turns outcome) :
    ∃ brought, turns = [⟨.getStatus, brought⟩] ∧
      match reportsBaseline.objection? brought with
      | some error => outcome = .error error
      | none => ∃ found, versions? turns = some found ∧
          outcome = .ok (found, passed ++ [.baselineVersion, .syntheticVersionOrdering]) := by
  obtain ⟨brought, rest, rfl, ended⟩ := stepTrace_demand_bind.mp trace
  refine ⟨brought, ?_⟩
  cases brought with
  | error cause =>
    obtain ⟨rfl, rfl⟩ := ended
    exact ⟨rfl, rfl⟩
  | ok status =>
    simp only [stepTrace_readBaseline_bind] at ended
    cases parsed : status.parsedVersion with
    | error error =>
      simp only [parsed] at ended
      obtain ⟨rfl, rfl⟩ := ended
      exact ⟨rfl, by simp [reportsBaseline, baselineObjection?, parsed]⟩
    | ok baseline =>
      simp only [parsed, stepTrace_chooseSynthetic_bind] at ended
      cases found : baseline.successor with
      | error error =>
        simp only [found] at ended
        obtain ⟨rfl, rfl⟩ := ended
        exact ⟨rfl, by simp [reportsBaseline, baselineObjection?, parsed, found]⟩
      | ok synthetic =>
        simp only [found, stepTrace_pure] at ended
        obtain ⟨rfl, rfl⟩ := ended
        have announced : versions? [⟨.getStatus, .ok status⟩] =
            some (status.rulesVersion, synthetic) :=
          versions?_eq_some_iff.mpr ⟨status, baseline, rfl, rfl, parsed, found⟩
        simp [reportsBaseline, baselineObjection?, parsed, found, announced]

theorem firstStatus?_append {first rest : List Turn} {status : Status}
    (reported : firstStatus? first = some status) : firstStatus? (first ++ rest) = some status := by
  rw [firstStatus?, List.findSome?_append, ← firstStatus?, reported, Option.some_or]

theorem versions?_append {first rest : List Turn} {baseline : String} {synthetic : Version}
    (announced : versions? first = some (baseline, synthetic)) :
    versions? (first ++ rest) = some (baseline, synthetic) := by
  obtain ⟨status, version, reported, rfl, parsed, succeeded⟩ := versions?_eq_some_iff.mp announced
  exact versions?_eq_some_iff.mpr
    ⟨status, version, firstStatus?_append reported, rfl, parsed, succeeded⟩

/-- The turns with synthetic rules follow those that find their version. -/
private theorem stepTrace_trial {pause : Nat} {passed : List Check} {turns : List Turn}
    {outcome : Except VerificationError ((String × String) × List Check)}
    (trace : StepTrace (do
      let (baseline, synthetic) ← findVersions
      tryRules pause baseline synthetic
      return (baseline, synthetic.text)) passed turns outcome) :
    ∃ objection, Examined ([reportsBaseline] ++ trialFor turns) turns objection ∧
      Concluded turns (passed ++ Check.all.tail) objection outcome := by
  rcases stepTrace_bind.mp trace with
    ⟨error, stopped, rfl⟩ | ⟨before, after, found, kept, rfl, reported, continued⟩
  · obtain ⟨brought, rfl, judged⟩ := stepTrace_findVersions stopped
    cases objected : reportsBaseline.objection? brought with
    | none => simp [objected] at judged
    | some other =>
      simp only [objected, Except.error.injEq] at judged
      subst judged
      exact ⟨some error, .objected objected, rfl⟩
  · obtain ⟨brought, rfl, judged⟩ := stepTrace_findVersions reported
    cases objected : reportsBaseline.objection? brought with
    | some error => simp [objected] at judged
    | none =>
      simp only [objected, Except.ok.injEq, Prod.mk.injEq] at judged
      obtain ⟨_, announced, rfl, rfl⟩ := judged
      obtain ⟨baseline, synthetic⟩ := found
      have known : versions? ([⟨.getStatus, brought⟩] ++ after) = some (baseline, synthetic) :=
        versions?_append announced
      have tried : GoesThrough (do tryRules pause baseline synthetic; return (baseline, synthetic.text))
          (trial baseline synthetic ++ []) (baseline, synthetic.text) _ :=
        GoesThrough.tryRules.bind .pure
      obtain ⟨objection, examined, ended⟩ := tried continued
      refine ⟨objection, ?_, ?_⟩
      · rw [trialFor, known]
        exact .met objected (by simpa using examined)
      · cases objection with
        | some error => exact ended
        | none => exact ⟨baseline, synthetic, known, by rw [ended, List.append_assoc]; rfl⟩

theorem stepTrace_checks {pause : Nat} {passed : List Check} {turns : List Turn}
    {outcome : Except VerificationError ((String × String) × List Check)}
    (trace : StepTrace (checks pause) passed turns outcome) :
    ∃ objection, Examined (requirements turns) turns objection ∧
      Concluded turns (passed ++ Check.all.tail) objection outcome := by
  rcases stepTrace_bind.mp trace with
    ⟨error, stopped, rfl⟩ | ⟨before, after, _, kept, rfl, started, continued⟩
  · exact ⟨some error, (GoesThrough.clearRules.stopped stopped).append_objected, rfl⟩
  · obtain ⟨cleared, -, rfl⟩ := GoesThrough.clearRules.finished started
    -- The deletion brings no status, so the versions are those of the turns after it.
    have unreported : versions? (before ++ after) = versions? after := by
      cases cleared with
      | met _ rest =>
        cases rest
        rfl
    obtain ⟨objection, examined, concluded⟩ := stepTrace_trial continued
    refine ⟨objection, ?_, ?_⟩
    · have same : requirements (before ++ after) =
          [succeeds .deleteRules] ++ ([reportsBaseline] ++ trialFor after) := by
        rw [requirements, trialFor, unreported]
        rfl
      rw [same]
      exact cleared.append_passed examined
    · simp only [Concluded, unreported]
      simpa [Concluded] using concluded

/-- The turn that puts captured rules back: an upload of what was listed, or a deletion where that is
blank. -/
def restoringTurn (captured : EncodedBlob) (outcome : Except RulesError Unit) : Turn :=
  if captured.text.toList.all Text.isBlank then ⟨.deleteRules, outcome⟩
  else ⟨.uploadRules captured, outcome⟩

/-- What has become of captured rules once that turn succeeded. -/
def restoredBy (captured : EncodedBlob) : Restore :=
  if captured.text.toList.all Text.isBlank then .deleted else .reuploaded

/-- What comes of putting rules back, where a success means a given outcome. -/
def outcomeOf {α : Type} (restored : Restore) : Except RulesError α → Restore
  | .ok _ => restored
  | .error cause => .failed cause.message

private theorem trace_putBack {asked : Call} {restored result : Restore} {complaint : String}
    {turns : List Turn} (trace : Trace (putBack asked restored complaint) turns result) :
    ∃ outcome, turns = [⟨asked, outcome⟩] ∧ result = outcomeOf restored outcome := by
  obtain ⟨outcome, rest, rfl, answered⟩ := Session.trace_call_bind.mp trace
  refine ⟨outcome, ?_⟩
  cases outcome with
  | ok answer =>
    obtain ⟨rfl, rfl⟩ := Session.trace_done.mp answered
    exact ⟨rfl, rfl⟩
  | error cause =>
    have logged := Session.trace_log_bind.mp answered
    obtain ⟨rfl, rfl⟩ := Session.trace_done.mp logged
    exact ⟨rfl, rfl⟩

theorem trace_restore {pause : Nat} {captured : EncodedBlob} {turns : List Turn} {restored : Restore}
    (trace : Trace (restore pause captured) turns restored) :
    ∃ outcome, turns = [restoringTurn captured outcome] ∧
      restored = outcomeOf (restoredBy captured) outcome := by
  obtain ⟨before, after, _, rfl, waited, acted⟩ := Session.trace_bind.mp trace
  rw [trace_settle.mp waited, List.nil_append]
  have blank : captured.isEmpty = captured.text.toList.all Text.isBlank := rfl
  rw [blank] at acted
  unfold restoringTurn restoredBy
  cases empty : captured.text.toList.all Text.isBlank with
  | true =>
    rw [empty] at acted
    exact trace_putBack (Session.trace_log_bind.mp acted)
  | false =>
    rw [empty] at acted
    exact trace_putBack (Session.trace_log_bind.mp acted)

/-- What comes of a run that captured the active rules: the first objection, else what the restoration
was refused with, else a report. -/
inductive Settled (captured : EncodedBlob) (changes : List Turn) :
    Option VerificationError → Except RulesError Unit → Except VerificationError Report → Prop where
  | objected {error : VerificationError} {outcome : Except RulesError Unit} :
      Settled captured changes (some error) outcome (.error error)
  | unrestored {cause : RulesError} :
      Settled captured changes none (.error cause) (.error (.restore cause.message))
  | passed {baseline : String} {synthetic : Version}
      (announced : versions? changes = some (baseline, synthetic)) :
      Settled captured changes none (.ok ())
        (.ok ⟨baseline, synthetic.text, Check.all, restoredBy captured⟩)

/-- How the turns of a run decide its result. Without a capture nothing else is done. -/
inductive Judged : List Turn → Except VerificationError Report → Prop where
  | uncaptured {cause : RulesError} : Judged [⟨.listRules, .error cause⟩] (.error (.setup cause))
  | captured {captured : EncodedBlob} {changes : List Turn} {objection : Option VerificationError}
      {outcome : Except RulesError Unit} {result : Except VerificationError Report}
      (examined : Examined (requirements changes) changes objection)
      (settled : Settled captured changes objection outcome result) :
      Judged (⟨.listRules, .ok captured⟩ :: changes ++ [restoringTurn captured outcome]) result

theorem trace_run {pause : Nat} {turns : List Turn} {result : Except VerificationError Report}
    (trace : Trace (run pause) turns result) : Judged turns result := by
  obtain ⟨outcome, rest, rfl, started⟩ :=
    Session.trace_call_bind.mp (Session.trace_log_bind.mp trace)
  cases outcome with
  | error cause =>
    obtain ⟨rfl, rfl⟩ := Session.trace_done.mp started
    exact .uncaptured
  | ok captured =>
    obtain ⟨changes, after, checked, rfl, taken, continued⟩ :=
      Session.trace_bind.mp (Session.trace_log_bind.mp started)
    obtain ⟨last, rest, restored, rfl, restoring, ended⟩ := Session.trace_bind.mp continued
    obtain ⟨outcome, rfl, rfl⟩ := trace_restore restoring
    obtain ⟨objection, examined, concluded⟩ := stepTrace_checks taken
    cases objection with
    | some error =>
      cases concluded
      have silent := Session.trace_log_bind.mp ended
      obtain ⟨rfl, rfl⟩ := Session.trace_done.mp silent
      exact .captured examined .objected
    | none =>
      obtain ⟨baseline, synthetic, announced, rfl⟩ := concluded
      obtain ⟨rfl, rfl⟩ := Session.trace_done.mp ended
      cases outcome with
      | error cause => exact .captured examined .unrestored
      | ok _ =>
        have same : verdict (.ok ((baseline, synthetic.text), Check.all)) (restoredBy captured) =
            .ok ⟨baseline, synthetic.text, Check.all, restoredBy captured⟩ := by
          unfold restoredBy
          split <;> rfl
        exact same ▸ .captured examined (.passed announced)

theorem run_judged {σ : Type} (backend : Backend σ) (pause : Nat) (world : Session.World σ) :
    Judged (Session.turnsIn backend (run pause) world) ((run pause).runIn backend world).1 :=
  trace_run (Session.trace_turnsIn backend (run pause) world)

end EntitlementRules.Verification
