import EntitlementRules.Proofs.Rules.Spelling
import EntitlementRules.Proofs.Verification.Course
import EntitlementRules.Proofs.Verification.Objection
import EntitlementRules.Server.InMemory

/-! The order of the versions of a run: the synthetic version lies above the reported one and above those
that a server reaches from it by small steps, so no run finds the two in the wrong order. -/
namespace EntitlementRules.Verification

open Session (Turn World)
open Version (Spelled)

variable {σ : Type} {version : Version} {cause : RulesError} {check : Check} {detail : String}
  {turns : List Turn}

/-- The choice of a synthetic version without a look at the order of the two. -/
def chooseSuccessor (baseline : Version) : Step Version :=
  match baseline.successor with
  | .error error => failCheck .syntheticVersionOrdering error.message
  | .ok synthetic => do
    pass .syntheticVersionOrdering
    return synthetic

/-- Nothing is found by that look. -/
theorem chooseSynthetic_eq (baseline : Version) : chooseSynthetic baseline = chooseSuccessor baseline := by
  unfold chooseSynthetic chooseSuccessor
  cases found : baseline.successor with
  | error error => rfl
  | ok synthetic => simp only [Version.compare_successor found, ↓reduceIte]

/-- What a run tells of a failed check is one of its objections. -/
theorem Judged.objection (judged : Judged turns (.error (.check check detail))) :
    Objection (.check check detail) := by
  cases judged with
  | captured examined settled =>
    cases settled with
    | objected => exact examined.objection fun _ => fair_requirements

/-- The words for a version without one above it are not those for two versions in the wrong order. -/
theorem message_ne_misordered (full : version.successor = .error cause) (first second : Version) :
    cause.message ≠ s!"{first.text} does not sort after {second.text}" := by
  obtain ⟨-, rfl⟩ := Version.successor_eq_error_iff.mp full
  intro same
  have words : "invalid rules version '" ++ s!"{version.text}+10000" ++ "'" =
      first.text ++ " does not sort after " ++ second.text := same
  -- The one begins with a letter and the other with a digit.
  have heads := congrArg (·.toList.head?) words
  have filled : first.text.toList ≠ [] := by simp [Version.toList_text]
  simp only [String.toList_append, List.append_assoc] at heads
  rw [List.head?_append_of_ne_nil _ (by decide), List.head?_append_of_ne_nil _ filled] at heads
  have opens : first.text.toList.head? = some 'i' := heads.symm
  have visible := Version.visible_of_mem_text (List.mem_of_head? opens)
  exact absurd visible (by decide)

/-- No run finds the synthetic version in the wrong order. -/
theorem run_ne_misordered (backend : Backend σ) (pause : Nat) (world : World σ) (first second : Version) :
    ((run pause).runIn backend world).1 ≠
      .error (.check .syntheticVersionOrdering s!"{first.text} does not sort after {second.text}") := by
  intro misordered
  have judged := run_judged backend pause world
  rw [misordered] at judged
  generalize told : s!"{first.text} does not sort after {second.text}" = detail at judged
  cases judged.objection with
  | crowded full => exact message_ne_misordered full first second told.symm
  | failed other => exact other rfl

/-- Versions are read from their spellings and from nothing else, written in the shortest of them, and a
successor sorts after all that a server reaches by small steps. So a run need not look whether its synthetic
version sorts after the reported one, and never reports that it does not. -/
theorem versions_spelled_and_ordered (backend : Backend σ) (pause : Nat) (world : World σ) (text : String)
    (version : Version) :
    -- What a text is read as.
    (Version.parse text = .ok version ↔ Spelled version text) ∧
    (∀ error, Version.parse text = .error error ↔
      (∀ other, ¬ Spelled other text) ∧ error = .invalidVersion text) ∧
    -- What a version is written as.
    Version.parse version.text = .ok version ∧
    (∀ other : Version, other.text = version.text → other = version) ∧
    (Version.parse text = .ok version → text ≠ version.text →
      version.text.length < text.length ∧
        (Text.Utf8.encode version.text).length < (Text.Utf8.encode text).length) ∧
    -- What comes after a version.
    ((∃ synthetic, version.successor = .ok synthetic) ↔ version.minor.toNat + 10000 ≤ 4294967295) ∧
    (∀ synthetic, version.successor = .ok synthetic →
      synthetic.major = version.major ∧ compare synthetic version = .gt ∧
      (∀ other : Version, other.major = version.major →
        other.minor.toNat < version.minor.toNat + 10000 → compare synthetic other = .gt) ∧
      synthetic.text ≠ version.text) ∧
    -- The order of the two in a run.
    chooseSynthetic version = chooseSuccessor version ∧
    ∀ first second : Version, ((run pause).runIn backend world).1 ≠
      .error (.check .syntheticVersionOrdering s!"{first.text} does not sort after {second.text}") := by
  refine ⟨Version.parse_eq_ok_iff, fun error => Version.parse_eq_error_iff, Version.parse_text version,
    fun other => Version.text_injective, ?_, ?_, ?_, chooseSynthetic_eq version,
    run_ne_misordered backend pause world⟩
  · intro read different
    have spelled := Version.parse_eq_ok_iff.mp read
    exact ⟨spelled.length_text_lt different, spelled.size_text_lt different⟩
  · simp only [Version.successor_eq_ok_iff, exists_and_left, exists_eq, and_true]
    exact Nat.lt_succ_iff
  · intro synthetic found
    obtain ⟨-, above⟩ := Version.successor_eq_ok_iff.mp found
    refine ⟨by rw [above], Version.compare_successor found, ?_, Version.text_successor_ne found⟩
    intro other major below
    exact Version.compare_successor_of_lt found major below

/-- A version with a hard space before it and a zero too many, and the last of those below its successor. -/
theorem padded_version_exceeded :
    Version.parse "\u00a005.3\n" = .ok ⟨5, 3⟩ ∧ (Version.text ⟨5, 3⟩).length < "\u00a005.3\n".length ∧
      Version.successor ⟨5, 3⟩ = .ok ⟨5, 10003⟩ ∧ compare (⟨5, 10003⟩ : Version) ⟨5, 10002⟩ = .gt := by
  let world : World Server := { server := {}, files := ⟨"/", []⟩ }
  obtain ⟨reads, -, -, -, shorter, -, above, -, -⟩ :=
    versions_spelled_and_ordered Server.answer 0 world "\u00a005.3\n" ⟨5, 3⟩
  have before : "\u00a0".toList.all Text.isBlank = true := by decide
  have after : "\n".toList.all Text.isBlank = true := by decide
  have spelled : Spelled ⟨5, 3⟩ "\u00a005.3\n" :=
    @Spelled.intro ⟨5, 3⟩ "\u00a0" "05" "3" "\n" (List.all_eq_true.mp before)
      ⟨by decide, by simp, by rfl⟩ ⟨by decide, by simp, by rfl⟩ (List.all_eq_true.mp after)
  have read := reads.mpr spelled
  have found : Version.successor ⟨5, 3⟩ = .ok ⟨5, 10003⟩ := by decide
  obtain ⟨-, -, exceeds, -⟩ := above _ found
  exact ⟨read, (shorter read (by decide)).1, found, exceeds _ rfl (by decide)⟩

end EntitlementRules.Verification
