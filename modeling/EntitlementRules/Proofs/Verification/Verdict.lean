import EntitlementRules.Proofs.Verification.Course

/-! The verdict of a verification run against any backend: a report exactly when every turn is as it
should be, and otherwise the error of the first turn that is not. -/
namespace EntitlementRules.Verification

open Session (Turn World turnsIn)

variable {σ : Type}

/-- The turns of a run without a fault, and the report on them. -/
inductive Passes : List Turn → Report → Prop where
  | intro {captured listed : EncodedBlob} {first uploaded reverted settled : Status}
      {baseline synthetic : Version}
      (parsed : first.parsedVersion = .ok baseline)
      (fits : baseline.minor.toNat + 10000 < UInt32.size)
      (above : synthetic = ⟨baseline.major, baseline.minor + 10000⟩)
      (returned : listed.decode = .ok (Blob.withVersion synthetic "var a=1.0;"))
      (shown : uploaded.rulesVersion = synthetic.text)
      (back : reverted.rulesVersion = first.rulesVersion)
      (still : settled.rulesVersion = first.rulesVersion) :
      Passes
        [⟨.listRules, .ok captured⟩, ⟨.deleteRules, .ok ()⟩, ⟨.getStatus, .ok first⟩,
          ⟨.uploadRules (Blob.withVersion synthetic "var a=1.0;").encode, .ok ()⟩,
          ⟨.listRules, .ok listed⟩, ⟨.getStatus, .ok uploaded⟩, ⟨.deleteRules, .ok ()⟩,
          ⟨.getStatus, .ok reverted⟩, ⟨.deleteRules, .ok ()⟩, ⟨.getStatus, .ok settled⟩,
          restoringTurn captured (.ok ())]
        ⟨first.rulesVersion, synthetic.text,
          [.listRules, .baselineVersion, .syntheticVersionOrdering, .uploadRoundtrip, .uploadVersion,
            .deleteRevertsVersion, .deleteIdempotent],
          restoredBy captured⟩

theorem Examined.unique {requirements : List Requirement} {turns : List Turn}
    {objection other : Option VerificationError} (first : Examined requirements turns objection)
    (second : Examined requirements turns other) : objection = other := by
  induction first with
  | nil =>
    cases second
    rfl
  | met accepted _ ih =>
    cases second with
    | met _ rest => exact ih rest
    | objected refused => cases accepted.symm.trans refused
  | objected refused =>
    cases second with
    | met accepted _ => cases accepted.symm.trans refused
    | objected same => exact refused.symm.trans same

theorem Settled.unique {captured : EncodedBlob} {changes : List Turn}
    {objection : Option VerificationError} {outcome : Except RulesError Unit}
    {result other : Except VerificationError Report}
    (first : Settled captured changes objection outcome result)
    (second : Settled captured changes objection outcome other) : result = other := by
  cases first with
  | objected => cases second; rfl
  | unrestored => cases second; rfl
  | passed announced =>
    cases second with
    | passed same =>
      cases announced.symm.trans same
      rfl

theorem restoringTurn_injective {captured : EncodedBlob} {outcome other : Except RulesError Unit}
    (same : restoringTurn captured outcome = restoringTurn captured other) : outcome = other := by
  unfold restoringTurn at same
  split at same <;> cases same <;> rfl

/-- The turns of a run decide its result alone. -/
theorem Judged.unique {turns : List Turn} {result other : Except VerificationError Report}
    (first : Judged turns result) (second : Judged turns other) : result = other := by
  generalize same : turns = copy at second
  cases first with
  | uncaptured =>
    cases second with
    | uncaptured =>
      cases same
      rfl
    | captured _ _ =>
      injection same with head
      cases head
  | captured examined settled =>
    cases second with
    | uncaptured =>
      injection same with head
      cases head
    | captured alsoExamined alsoSettled =>
      -- The restoring turn is the last of both, so what comes before it is the same.
      obtain ⟨sameFront, sameLast⟩ := List.append_inj' same (by rw [List.length_singleton,
        List.length_singleton])
      cases sameFront
      cases restoringTurn_injective (List.singleton_inj.mp sameLast)
      cases examined.unique alsoExamined
      exact settled.unique alsoSettled

theorem succeeds_accepts {call : Call} {outcome : call.Outcome} :
    (succeeds call).objection? outcome = none ↔ ∃ answer, outcome = .ok answer := by
  cases outcome <;> simp [succeeds]

theorem deletesAgain_accepts {outcome : Call.deleteRules.Outcome} :
    deletesAgain.objection? outcome = none ↔ outcome = .ok () := by
  cases outcome <;> simp [deletesAgain]

theorem reportsVersion_accepts {check : Check} {expected : String} {outcome : Call.getStatus.Outcome} :
    (reportsVersion check expected).objection? outcome = none ↔
      ∃ status : Status, outcome = .ok status ∧ status.rulesVersion = expected := by
  cases outcome with
  | error cause => simp [reportsVersion]
  | ok status => simp [reportsVersion]

theorem listsRules_accepts {uploaded : Blob} {outcome : Call.listRules.Outcome} :
    (listsRules uploaded).objection? outcome = none ↔
      ∃ listed : EncodedBlob, outcome = .ok listed ∧ listed.decode = .ok uploaded := by
  cases outcome with
  | error cause => simp [listsRules]
  | ok listed =>
    cases decoded : listed.decode <;> simp [listsRules, decoded]

theorem reportsBaseline_accepts {outcome : Call.getStatus.Outcome} :
    reportsBaseline.objection? outcome = none ↔
      ∃ (status : Status) (baseline synthetic : Version), outcome = .ok status ∧
        status.parsedVersion = .ok baseline ∧ baseline.successor = .ok synthetic := by
  cases outcome with
  | error cause => simp [reportsBaseline, baselineObjection?]
  | ok status =>
    cases parsed : status.parsedVersion with
    | error error => simp [reportsBaseline, baselineObjection?, parsed]
    | ok baseline =>
      cases succeeded : baseline.successor <;>
        simp [reportsBaseline, baselineObjection?, parsed, succeeded]

theorem examined_cons_none {requirement : Requirement} {requirements : List Requirement}
    {turns : List Turn} :
    Examined (requirement :: requirements) turns none ↔
      ∃ outcome rest, turns = ⟨requirement.call, outcome⟩ :: rest ∧
        requirement.objection? outcome = none ∧ Examined requirements rest none := by
  constructor
  · intro examined
    cases examined with
    | met accepted rest => exact ⟨_, _, rfl, accepted, rest⟩
  · rintro ⟨outcome, rest, rfl, accepted, later⟩
    exact .met accepted later

/-- Turns that meet all that is required when a server is tried with synthetic rules. -/
theorem examined_trial_none {baseline : String} {synthetic : Version} {turns : List Turn} :
    Examined (trial baseline synthetic) turns none ↔
      ∃ (listed : EncodedBlob) (uploaded reverted settled : Status),
        listed.decode = .ok (syntheticRules synthetic) ∧ uploaded.rulesVersion = synthetic.text ∧
        reverted.rulesVersion = baseline ∧ settled.rulesVersion = baseline ∧
        turns = [⟨.uploadRules (syntheticRules synthetic).encode, .ok ()⟩,
          ⟨.listRules, .ok listed⟩, ⟨.getStatus, .ok uploaded⟩, ⟨.deleteRules, .ok ()⟩,
          ⟨.getStatus, .ok reverted⟩, ⟨.deleteRules, .ok ()⟩, ⟨.getStatus, .ok settled⟩] := by
  constructor
  · intro examined
    simp only [trial, examined_cons_none] at examined
    obtain ⟨upload, _, rfl, uploadMet, list, _, rfl, listMet, shown, _, rfl, shownMet, delete, _, rfl,
      deleteMet, back, _, rfl, backMet, again, _, rfl, againMet, still, _, rfl, stillMet, last⟩ :=
      examined
    obtain ⟨_, rfl⟩ := succeeds_accepts.mp uploadMet
    obtain ⟨listed, rfl, decoded⟩ := listsRules_accepts.mp listMet
    obtain ⟨uploaded, rfl, same⟩ := reportsVersion_accepts.mp shownMet
    obtain ⟨_, rfl⟩ := succeeds_accepts.mp deleteMet
    obtain ⟨reverted, rfl, reverts⟩ := reportsVersion_accepts.mp backMet
    cases deletesAgain_accepts.mp againMet
    obtain ⟨settled, rfl, settles⟩ := reportsVersion_accepts.mp stillMet
    cases last
    exact ⟨listed, uploaded, reverted, settled, decoded, same, reverts, settles, rfl⟩
  · rintro ⟨listed, uploaded, reverted, settled, decoded, same, reverts, settles, rfl⟩
    exact .met rfl <| .met (listsRules_accepts.mpr ⟨listed, rfl, decoded⟩) <|
      .met (reportsVersion_accepts.mpr ⟨uploaded, rfl, same⟩) <| .met rfl <|
      .met (reportsVersion_accepts.mpr ⟨reverted, rfl, reverts⟩) <| .met rfl <|
      .met (reportsVersion_accepts.mpr ⟨settled, rfl, settles⟩) .nil

/-- Turns that meet the opening requirements bring a version to try the server with. -/
theorem examined_opening_none {later : List Requirement} {turns : List Turn} :
    Examined (opening ++ later) turns none ↔
      ∃ (first : Status) (baseline synthetic : Version) (rest : List Turn),
        first.parsedVersion = .ok baseline ∧ baseline.successor = .ok synthetic ∧
        turns = ⟨.deleteRules, .ok ()⟩ :: ⟨.getStatus, .ok first⟩ :: rest ∧
        Examined later rest none := by
  constructor
  · intro examined
    obtain ⟨cleared, _, rfl, clearedMet, reporting⟩ := examined_cons_none.mp examined
    obtain ⟨reported, rest, rfl, reportedMet, last⟩ := examined_cons_none.mp reporting
    obtain ⟨_, rfl⟩ := succeeds_accepts.mp clearedMet
    obtain ⟨first, baseline, synthetic, rfl, parsed, succeeded⟩ :=
      reportsBaseline_accepts.mp reportedMet
    exact ⟨first, baseline, synthetic, rest, parsed, succeeded, rfl, last⟩
  · rintro ⟨first, baseline, synthetic, rest, parsed, succeeded, rfl, last⟩
    exact .met rfl <| .met
      (reportsBaseline_accepts.mpr ⟨first, baseline, synthetic, rfl, parsed, succeeded⟩) last

theorem Judged.tried {captured : EncodedBlob} {first : Status} {baseline synthetic : Version}
    {rest : List Turn} (parsed : first.parsedVersion = .ok baseline)
    (succeeded : baseline.successor = .ok synthetic)
    (trialled : Examined (trial first.rulesVersion synthetic) rest none) :
    Judged
      (⟨.listRules, .ok captured⟩ :: (⟨.deleteRules, .ok ()⟩ :: ⟨.getStatus, .ok first⟩ :: rest)
        ++ [restoringTurn captured (.ok ())])
      (.ok ⟨first.rulesVersion, synthetic.text, Check.all, restoredBy captured⟩) := by
  have known := versions?_opening parsed succeeded rest
  refine .captured ?_ (.passed known)
  refine examined_opening_none.mpr ⟨first, baseline, synthetic, rest, parsed, succeeded, rfl, ?_⟩
  rw [trialFor, known]
  exact trialled

/-- The requirements are all met in exactly the runs that pass, up to the restoration. -/
theorem judged_ok_iff {turns : List Turn} {report : Report} :
    Judged turns (.ok report) ↔ Passes turns report := by
  constructor
  · intro judged
    generalize same : (Except.ok report : Except VerificationError Report) = result at judged
    cases judged with
    | uncaptured => cases same
    | captured examined settled =>
      cases settled with
      | objected => cases same
      | unrestored => cases same
      | passed announced =>
        cases same
        obtain ⟨first, baseline, synthetic, rest, parsed, succeeded, rfl, trialled⟩ :=
          examined_opening_none.mp examined
        have known := versions?_opening parsed succeeded rest
        rw [trialFor, known] at trialled
        obtain ⟨listed, uploaded, reverted, settled, decoded, shown, back, still, rfl⟩ :=
          examined_trial_none.mp trialled
        cases known.symm.trans announced
        obtain ⟨fits, above⟩ := Version.successor_eq_ok_iff.mp succeeded
        exact .intro parsed fits above decoded shown back still
  · rintro ⟨parsed, fits, above, returned, shown, back, still⟩
    exact Judged.tried parsed (Version.successor_eq_ok_iff.mpr ⟨fits, above⟩)
      (examined_trial_none.mpr ⟨_, _, _, _, returned, shown, back, still, rfl⟩)

/-- Against any backend the turns of a run, and nothing else, decide its verdict: the error of the first
turn that is not as required, and a report where there is none. -/
theorem run_verdict (backend : Backend σ) (pause : Nat) (world : World σ) :
    (∀ verdict, ((run pause).runIn backend world).1 = verdict ↔
      Judged (turnsIn backend (run pause) world) verdict) ∧
    (∀ report, ((run pause).runIn backend world).1 = .ok report ↔
      Passes (turnsIn backend (run pause) world) report) := by
  have judged := run_judged backend pause world
  have decided : ∀ verdict, ((run pause).runIn backend world).1 = verdict ↔
      Judged (turnsIn backend (run pause) world) verdict := by
    intro verdict
    constructor
    · rintro rfl
      exact judged
    · intro other
      exact judged.unique other
  exact ⟨decided, fun report => (decided (.ok report)).trans judged_ok_iff⟩

end EntitlementRules.Verification
