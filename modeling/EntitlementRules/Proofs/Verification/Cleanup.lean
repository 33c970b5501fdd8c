import EntitlementRules.Proofs.Verification.Course

/-! Cleanup: the calls of a verification run against any backend. Nothing is written before the active
rules were captured, and the last call puts them back, however the run goes. -/
namespace EntitlementRules.Verification

open Session (Turn World callsIn turnsIn)

variable {σ : Type}

/-- The calls of a run between the capture and the restoration, if nothing goes wrong. -/
def changePlan (synthetic : Version) : List Call :=
  [.deleteRules, .getStatus, .uploadRules (Blob.withVersion synthetic "var a=1.0;").encode,
    .listRules, .getStatus, .deleteRules, .getStatus, .deleteRules, .getStatus]

theorem Examined.calls_prefix {requirements : List Requirement} {turns : List Turn}
    {objection : Option VerificationError} (examined : Examined requirements turns objection) :
    turns.map (·.call) <+: requirements.map (·.call) := by
  induction examined with
  | nil => exact List.prefix_refl _
  | met _ _ ih => exact List.cons_prefix_cons.mpr ⟨rfl, ih⟩
  | objected _ => exact List.cons_prefix_cons.mpr ⟨rfl, List.nil_prefix⟩

theorem Examined.turns_ne_nil {requirement : Requirement} {requirements : List Requirement}
    {turns : List Turn} {objection : Option VerificationError}
    (examined : Examined (requirement :: requirements) turns objection) : turns ≠ [] := by
  cases examined <;> exact List.cons_ne_nil _ _

theorem calls_requirements {turns : List Turn} {baseline : String} {synthetic : Version}
    (announced : versions? turns = some (baseline, synthetic)) :
    (requirements turns).map (·.call) = changePlan synthetic := by
  rw [requirements, trialFor, announced]
  rfl

theorem calls_opening {turns : List Turn} (unannounced : versions? turns = none) :
    (requirements turns).map (·.call) = [.deleteRules, .getStatus] := by
  rw [requirements, trialFor, unannounced]
  rfl

/-- The turns that change the server make a part of the plan, for a version above the reported one. -/
theorem Examined.planned {turns : List Turn} {objection : Option VerificationError}
    (examined : Examined (requirements turns) turns objection) :
    ∃ synthetic, turns.map (·.call) <+: changePlan synthetic ∧
      (2 < turns.length → ∃ status baseline, firstStatus? turns = some status ∧
        status.parsedVersion = .ok baseline ∧ baseline.successor = .ok synthetic) := by
  have followed := examined.calls_prefix
  cases announced : versions? turns with
  | none =>
    rw [calls_opening announced] at followed
    refine ⟨⟨0, 0⟩, followed.trans ⟨_, rfl⟩, ?_⟩
    intro longer
    have bound := followed.length_le
    simp at bound
    omega
  | some found =>
    obtain ⟨baseline, synthetic⟩ := found
    rw [calls_requirements announced] at followed
    obtain ⟨status, version, reported, _, parsed, succeeded⟩ :=
      versions?_eq_some_iff.mp announced
    exact ⟨synthetic, followed, fun _ => ⟨status, version, reported, parsed, succeeded⟩⟩

/-- The call that puts captured rules back. -/
def restoringCall (captured : EncodedBlob) : Call :=
  if captured.text.toList.all Text.isBlank then .deleteRules else .uploadRules captured

theorem call_restoringTurn (captured : EncodedBlob) (outcome : Except RulesError Unit) :
    (restoringTurn captured outcome).call = restoringCall captured := by
  unfold restoringTurn restoringCall
  split <;> rfl

/-- Whatever a backend answers, a run captures the active rules first, changes them in a part of the
plan, and puts them back once. Without a capture there is no other call. -/
theorem run_puts_captured_rules_back (backend : Backend σ) (pause : Nat) (world : World σ) :
    match (backend .listRules world.server).1 with
    | .error cause =>
      callsIn backend (run pause) world = [.listRules] ∧
        ((run pause).runIn backend world).1 = .error (.setup cause)
    | .ok captured =>
      ∃ changes synthetic,
        callsIn backend (run pause) world =
          [.listRules] ++ changes ++ [restoringCall captured] ∧
        changes ≠ [] ∧ changes <+: changePlan synthetic ∧
        (2 < changes.length → ∃ status baseline,
          firstStatus? (turnsIn backend (run pause) world) = some status ∧
          status.parsedVersion = .ok baseline ∧ baseline.successor = .ok synthetic) := by
  have judged := run_judged backend pause world
  have answered := Session.answered_turnsIn backend (run pause) world
  rw [callsIn]
  generalize turnsIn backend (run pause) world = turns at judged answered ⊢
  generalize ((run pause).runIn backend world).1 = result at judged ⊢
  cases judged with
  | uncaptured =>
    rw [← answered.1]
    exact ⟨rfl, rfl⟩
  | captured examined _ =>
    rw [← answered.1]
    obtain ⟨synthetic, planned, announced⟩ := examined.planned
    refine ⟨_, synthetic, ?_, ?_, planned, ?_⟩
    · rw [List.map_append, List.map_cons, List.map_singleton, call_restoringTurn]
      rfl
    · simpa using examined.turns_ne_nil
    · rw [List.length_map]
      intro longer
      obtain ⟨status, baseline, reported, versions⟩ := announced longer
      exact ⟨status, baseline, firstStatus?_append reported, versions⟩

end EntitlementRules.Verification
