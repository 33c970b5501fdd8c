import EntitlementRules.Proofs.Command.Plan
import EntitlementRules.Proofs.Command.Printing
import EntitlementRules.Proofs.Verification.Course
import EntitlementRules.Proofs.Verification.Objection
import EntitlementRules.Server.Scripted

/-! Exit codes of commands. A command fails with 2 where the server blames its request, and with 3 where a
call failed in another way; a verification leaves nothing to blame once it has captured the rules. What
fails otherwise than by printing has printed nothing. -/
namespace EntitlementRules

open Session (Turn turnsIn)

namespace RulesError

/-- The exit code for what a call failed with: 2 where the server blames the request. -/
def exitCode : RulesError → Nat
  | .server _ status _ => if status = 400 ∨ status = 409 ∨ status = 422 then 2 else 3
  | _ => 3

theorem exitCode_ofRules (cause : RulesError) :
    (CommandError.ofRules cause).exitCode = cause.exitCode := by
  cases cause with
  | server operation status diagnostic =>
    have blames : CommandError.blamesRequest status = true ↔
        status = 400 ∨ status = 409 ∨ status = 422 := by
      simp [CommandError.blamesRequest, or_assoc]
    by_cases blamed : status = 400 ∨ status = 409 ∨ status = 422
    · have yes := blames.mpr blamed
      simp [CommandError.ofRules, status?, yes, exitCode, blamed, CommandError.exitCode]
    · have no := Bool.eq_false_iff.mpr (mt blames.mp blamed)
      simp [CommandError.ofRules, status?, no, exitCode, blamed, CommandError.exitCode]
  | _ => rfl

end RulesError

/-! ## Verifications -/

namespace Verification

variable {turns : List Turn} {error : VerificationError}

/-- No objection blames the request. -/
theorem Objection.exitCode (objection : Objection error) :
    (CommandError.ofVerification error).exitCode = 3 := by
  cases objection <;> rfl

/-- The exit code of a run blames the request only where the rules could not be captured. -/
theorem Judged.exitCode (judged : Judged turns (.error error)) :
    (∃ cause, turns = [⟨.listRules, .error cause⟩] ∧
        (CommandError.ofVerification error).exitCode = cause.exitCode) ∨
      (∃ captured later, turns = ⟨.listRules, .ok captured⟩ :: later) ∧
        (CommandError.ofVerification error).exitCode = 3 := by
  cases judged with
  | uncaptured => exact .inl ⟨_, rfl, RulesError.exitCode_ofRules _⟩
  | captured examined settled =>
    refine .inr ⟨⟨_, _, rfl⟩, ?_⟩
    cases settled with
    | objected => exact (examined.objection fun _ => fair_requirements).exitCode
    | unrestored => rfl

end Verification

namespace Command

variable {σ : Type}

/-- The work of a verification goes as its run does. -/
theorem verify_eq (backend : Backend σ) (files : Files) (format : OutputFormat) (pause : Nat)
    (world : Session.World σ) :
    turnsIn backend (Command.work files format (.verify pause)) world =
        turnsIn backend (Verification.run pause) world ∧
      ((Command.work files format (.verify pause)).runIn backend world).1 =
        (((Verification.run pause).runIn backend world).1.mapError .ofVerification).map
          fun report => .report (report.output format) := by
  constructor
  · exact (Session.turnsIn_bind _ _ _).trans (List.append_nil _)
  · exact congrArg Prod.fst (Session.runIn_bind _ _ _)

/-- A verification succeeds where its run does and standard output takes the report. Where the run fails, only
a refused capture can blame the request. -/
theorem run_verify (backend : Backend σ) (files : Files) (format : OutputFormat) (pause : Nat)
    (world : Console.World σ) :
    let turns := Console.turnsIn backend (run files format (.verify pause)) world
    let ended := (run files format (.verify pause)).runIn backend world
    let ran := ((Verification.run pause).runIn backend world.toWorld).1
    ((∃ output, ended.1 = .ok output) ↔
      (∃ report, ran = .ok report) ∧ ended.2.outlet.refusals = world.outlet.refusals) ∧
    ∀ failure, ran = .error failure →
      (∃ cause, turns = [⟨.listRules, .error cause⟩] ∧
          (Ending.ofResult ended.1).exitCode = cause.exitCode) ∨
        (∃ captured later, turns = ⟨.listRules, .ok captured⟩ :: later) ∧
          (Ending.ofResult ended.1).exitCode = 3 := by
  intro turns ended ran
  obtain ⟨taken, -, ends⟩ := run_prints backend files format (.verify pause) world
  obtain ⟨same, brought⟩ := verify_eq backend files format pause world.toWorld
  have judged := Verification.run_judged backend pause world.toWorld
  rw [brought] at ends
  constructor
  · rw [ends.ok_iff]
    simp only [ran]
    cases ((Verification.run pause).runIn backend world.toWorld).1 with
    | ok report => exact and_congr_left fun _ => ⟨fun _ => ⟨_, rfl⟩, fun _ => ⟨_, rfl⟩⟩
    | error error => exact and_congr_left fun _ => ⟨nofun, nofun⟩
  · intro failure failed
    simp only [ran] at failed
    rw [failed] at judged ends
    simp only [turns, ended, taken.trans same, ends.of_failed.1]
    exact judged.exitCode

/-- What commands do with any backend and any standard output. All but verifications follow a plan, succeed
exactly where the calls, the local work and the printing do, and fail as the refused call or the malformed
listing says. Nothing is printed of a command that fails, unless it is the printing that fails: rules that
are refused by standard output are a failure, and a report that is refused breaks the program off. -/
theorem run_follows_plan (backend : Backend σ) (files : Files) (format : OutputFormat)
    (world : Console.World σ) :
    let turns := fun command : Command => Console.turnsIn backend (command.run files format) world
    let result := fun command : Command => ((command.run files format).runIn backend world).1
    let left := fun command : Command => ((command.run files format).runIn backend world).2
    let ending := fun command : Command => Ending.ofResult (result command)
    (∀ command, (∀ pause, command ≠ .verify pause) →
      (∃ plan, Plans files command plan ∧ FollowsPlan plan (turns command) ∧
        (turns command).map (·.call) <+: plan) ∧
      ((∃ output, result command = .ok output) ↔
        (∃ shown, Succeeds files world.files command (turns command) shown (left command).files) ∧
          (left command).outlet.refusals = world.outlet.refusals) ∧
      ∀ asked cause, ⟨asked, .error cause⟩ ∈ turns command →
        (ending command).exitCode = cause.exitCode) ∧
    (∀ out listed cause, turns (.list false out) = [⟨.listRules, .ok listed⟩] →
      listed.isEmpty = false → listed.decode = .error cause →
      (ending (.list false out)).exitCode = cause.exitCode) ∧
    (∀ pause,
      ((∃ output, result (.verify pause) = .ok output) ↔
        (∃ report, ((Verification.run pause).runIn backend world.toWorld).1 = .ok report) ∧
          (left (.verify pause)).outlet.refusals = world.outlet.refusals) ∧
      ∀ failure, ((Verification.run pause).runIn backend world.toWorld).1 = .error failure →
        (∃ cause, turns (.verify pause) = [⟨.listRules, .error cause⟩] ∧
            (ending (.verify pause)).exitCode = cause.exitCode) ∨
          (∃ captured later, turns (.verify pause) = ⟨.listRules, .ok captured⟩ :: later) ∧
            (ending (.verify pause)).exitCode = 3) ∧
    -- What is printed: all or nothing, unless standard output refuses to take it.
    (∀ command,
      (∀ output, result command = .ok output →
        (left command).outlet.written = world.outlet.written ++ output) ∧
      ((ending command).exitCode ≠ 0 → (left command).outlet.refusals = world.outlet.refusals →
        (left command).outlet.written = world.outlet.written) ∧
      ((left command).outlet.refusals ≠ world.outlet.refusals →
        ∃ shown part, part <+: shown.bytes ∧
          (left command).outlet.written = world.outlet.written ++ part ∧
          ((∀ pause, command ≠ .verify pause) →
            Succeeds files world.files command (turns command) shown (left command).files) ∧
          (ending command).exitCode = match shown with | .rules _ => 3 | .report _ => 101)) ∧
    ∀ raw out, (∃ cause, turns (.list raw out) = [⟨.listRules, .error cause⟩]) ∨
        raw = false ∧ (∃ listed cause, turns (.list raw out) = [⟨.listRules, .ok listed⟩] ∧
          listed.decode = .error cause) →
      (left (.list raw out)).files = world.files := by
  intro turns result left ending
  let worked (command : Command) := ((command.work files format).runIn backend world.toWorld).1
  have prints (command : Command) :
      Prints world.outlet (worked command) (result command) (left command).outlet :=
    (run_prints backend files format command world).2.2
  have went (command : Command) (single : ∀ pause, command ≠ .verify pause) :
      Goes files world.files command (turns command) (worked command) (left command).files := by
    obtain ⟨taken, kept, -⟩ := run_prints backend files format command world
    simp only [turns, left, taken, kept]
    exact work_goes single
  have failed {command : Command} {cause : RulesError} (stopped : worked command = .error (.ofRules cause)) :
      (ending command).exitCode = cause.exitCode := by
    have ends := prints command
    rw [stopped] at ends
    simp only [ending, ends.of_failed.1]
    exact RulesError.exitCode_ofRules cause
  refine ⟨fun command single => ?_, fun out listed cause taken visible malformed => ?_,
    fun pause => ?_, fun command => ?_, fun raw out unlisted => ?_⟩
  · have goes := went command single
    obtain ⟨plan, plans, follows⟩ := goes.follows
    refine ⟨⟨plan, plans, follows, follows.calls_prefix⟩, ?_, fun asked cause member => ?_⟩
    · rw [← goes.ok_iff]
      exact (prints command).ok_iff
    · exact failed (goes.error_of_refused member)
  · exact failed ((went (.list false out) nofun).error_of_malformed taken visible malformed)
  · exact run_verify backend files format pause world
  · refine ⟨fun output ok => ?_, (prints command).written_of_failed, fun noted => ?_⟩
    · exact (ok ▸ prints command).written_of_ok
    · obtain ⟨shown, part, done, begun, written, code⟩ := (prints command).written_of_refused noted
      refine ⟨shown, part, begun, written, fun single => ?_, code⟩
      exact (done ▸ went command single).succeeds
  · exact (went (.list raw out) nofun).unsaved_of_unlisted unlisted

/-- Two listings that go another way. One of blanks need not decode: a no-break space is no base64, and still
there is nothing to list. And of rules that are printed into a pipe that closes behind their first byte, that
byte has been written when the command fails. -/
theorem blank_listing_succeeds_and_broken_pipe_fails :
    let listed : EncodedBlob := ⟨"\u00a0"⟩
    let served (listing : EncodedBlob) : ScriptedServer := ⟨[.serve none (some listing) false], []⟩
    let console := Command.run (Files.Tree.mk "/" []).view .table (.list false none)
    let blank : Console.World ScriptedServer := { server := served listed, files := ⟨"/", []⟩ }
    let pipe : Outlet := { breaks? := fun _ _ => some (1, .other "Broken pipe (os error 32)") }
    let piped : Console.World ScriptedServer :=
      { server := served ⟨"QUI="⟩, files := ⟨"/", []⟩, outlet := pipe }
    (Console.turnsIn ScriptedServer.answer console blank = [⟨.listRules, .ok listed⟩] ∧
      (Ending.ofResult (console.runIn ScriptedServer.answer blank).1).exitCode = 0 ∧
      ∃ cause, listed.decode = .error cause ∧ cause.exitCode = 3) ∧
    (Ending.ofResult (console.runIn ScriptedServer.answer piped).1).exitCode = 3 ∧
      (console.runIn ScriptedServer.answer piped).2.outlet.written = [65] :=
  ⟨⟨rfl, rfl, .malformedBlob (.symbol 194 0), rfl, rfl⟩, rfl, rfl⟩

end Command

end EntitlementRules
