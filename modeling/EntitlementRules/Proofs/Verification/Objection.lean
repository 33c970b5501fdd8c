import EntitlementRules.Proofs.Verification.Requirement

/-! What a verification run objects to: refused calls and failed checks. The order of the two versions is
objected to only where there is no version above the reported one. -/
namespace EntitlementRules.Verification

open Session (Turn)

variable {changes turns : List Turn} {required : List Requirement} {error : VerificationError}

/-- The errors that the requirements of a run object with. -/
inductive Objection : VerificationError → Prop where
  | refused (operation : String) (cause : RulesError) : Objection (.call operation cause)
  | crowded {baseline : Version} {cause : RulesError} (full : baseline.successor = .error cause) :
      Objection (.check .syntheticVersionOrdering cause.message)
  | failed {check : Check} (other : check ≠ .syntheticVersionOrdering) (detail : String) :
      Objection (.check check detail)

/-- The requirement objects with nothing else. -/
def Requirement.Fair (requirement : Requirement) : Prop :=
  ∀ outcome error, requirement.objection? outcome = some error → Objection error

theorem fair_succeeds (asked : Call) : (succeeds asked).Fair := by
  intro outcome error objected
  cases outcome with
  | ok answer => cases objected
  | error cause =>
    cases objected
    exact .refused _ cause

theorem fair_reportsBaseline : reportsBaseline.Fair := by
  intro outcome error objected
  cases outcome with
  | error cause =>
    cases objected
    exact .refused _ cause
  | ok status =>
    simp only [reportsBaseline, baselineObjection?] at objected
    split at objected
    · cases objected
      exact .failed (by decide) _
    · split at objected
      · next full =>
        cases objected
        exact .crowded full
      · cases objected

theorem fair_reportsVersion {check : Check} (other : check ≠ .syntheticVersionOrdering)
    (expected : String) : (reportsVersion check expected).Fair := by
  intro outcome error objected
  cases outcome with
  | error cause =>
    cases objected
    exact .refused _ cause
  | ok status =>
    simp only [reportsVersion] at objected
    split at objected
    · cases objected
    · cases objected
      exact .failed other _

theorem fair_listsRules (uploaded : Blob) : (listsRules uploaded).Fair := by
  intro outcome error objected
  cases outcome with
  | error cause =>
    cases objected
    exact .refused _ cause
  | ok listed =>
    simp only [listsRules] at objected
    split at objected
    · cases objected
      exact .failed (by decide) _
    · split at objected
      · cases objected
      · cases objected
        exact .failed (by decide) _

theorem fair_deletesAgain : deletesAgain.Fair := by
  intro outcome error objected
  cases outcome with
  | ok answer => cases objected
  | error cause =>
    cases objected
    exact .failed (by decide) _

theorem fair_requirements {requirement : Requirement} (member : requirement ∈ requirements changes) :
    requirement.Fair := by
  have opened : ∀ member ∈ opening, member.Fair := by
    simp [opening, fair_succeeds, fair_reportsBaseline]
  have tried (baseline : String) (synthetic : Version) : ∀ member ∈ trial baseline synthetic, member.Fair := by
    simp [trial, fair_succeeds, fair_listsRules, fair_reportsVersion, fair_deletesAgain]
  have found : requirement ∈ opening ++ trialFor changes := member
  rcases List.mem_append.mp found with early | late
  · exact opened requirement early
  · unfold trialFor at late
    split at late
    · exact tried _ _ requirement late
    · cases late

theorem Examined.objection (fair : ∀ requirement ∈ required, requirement.Fair)
    (examined : Examined required turns (some error)) : Objection error := by
  generalize refused : some error = found at examined
  induction examined with
  | nil => cases refused
  | met _ _ ih => exact ih (fun requirement member => fair requirement (.tail _ member)) refused
  | objected disagreed =>
    cases refused
    exact fair _ (.head _) _ _ disagreed

end EntitlementRules.Verification
