import EntitlementRules.Program
import EntitlementRules.Proofs.Command.Runs

/-! Printing: a command prints nothing before its work is done, and then all that it has to show, or what
standard output takes of it. -/
namespace EntitlementRules

variable {σ α β : Type} {backend : Backend σ}

namespace Console

open Session (Turn)

/-- What a request adds to the turns of a console. -/
def turnsOf : (request : Request) → Answer request → List Turn
  | .session request, answer => Session.turnsOf request answer
  | .print _, _ => []

/-- The turns of a console that runs in a world. -/
def turnsIn (backend : Backend σ) : Console α → World σ → List Turn
  | .done _, _ => []
  | .ask request next, world =>
    turnsOf request (World.answer backend request world).1
      ++ turnsIn backend (next (World.answer backend request world).1)
        (World.answer backend request world).2

theorem runIn_bind (first : Console α) (next : α → Console β) (world : World σ) :
    (first >>= next).runIn backend world =
      (next (first.runIn backend world).1).runIn backend (first.runIn backend world).2 :=
  Procedure.runWith_bind (I := interface) (World.answer backend) first next world

theorem turnsIn_bind (first : Console α) (next : α → Console β) (world : World σ) :
    turnsIn backend (first >>= next) world =
      turnsIn backend first world ++
        turnsIn backend (next (first.runIn backend world).1) (first.runIn backend world).2 := by
  induction first generalizing world with
  | done value => rfl
  | ask request rest ih =>
    rw [Procedure.ask_bind, turnsIn, turnsIn, ih, List.append_assoc]
    rfl

theorem runIn_print (content : Bytes) (world : World σ) :
    (print content).runIn backend world =
      ((world.outlet.write content).1, { world with outlet := (world.outlet.write content).2 }) :=
  rfl

theorem runIn_ofSession (session : Session α) (world : World σ) :
    (ofSession session).runIn backend world =
      ((session.runIn backend world.toWorld).1,
        { world with toWorld := (session.runIn backend world.toWorld).2 }) := by
  induction session generalizing world with
  | done value => rfl
  | ask request rest ih => exact ih _ _

theorem turnsIn_ofSession (session : Session α) (world : World σ) :
    turnsIn backend (ofSession session) world = Session.turnsIn backend session world.toWorld := by
  induction session generalizing world with
  | done value => rfl
  | ask request rest ih => exact congrArg (Session.turnsOf request _ ++ ·) (ih _ _)

end Console

namespace Outlet

variable {outlet : Outlet} {content : Bytes} {refusal : FileError}

theorem write_taken (taken : (outlet.write content).1 = .ok ()) :
    (outlet.write content).2.written = outlet.written ++ content ∧
      (outlet.write content).2.refusals = outlet.refusals := by
  unfold write at taken ⊢
  split at taken
  · exact ⟨rfl, rfl⟩
  · cases taken

theorem write_refused (refused : (outlet.write content).1 = .error refusal) :
    (∃ part, part <+: content ∧ (outlet.write content).2.written = outlet.written ++ part) ∧
      (outlet.write content).2.refusals = outlet.refusals ++ [refusal] := by
  unfold write at refused ⊢
  split at refused
  · cases refused
  · cases refused
    exact ⟨⟨_, List.take_prefix _ _, rfl⟩, rfl⟩

end Outlet

namespace Command

open Session (Turn)

/-- How a run ends, from what came of its work: work that fails leaves nothing to print, and what there is
to show arrives, or is refused and then only begun. -/
inductive Prints (outlet : Outlet) : Except CommandError Shown → Except Halt Bytes → Outlet → Prop where
  | nothing {error : CommandError} : Prints outlet (.error error) (.error (.failed error)) outlet
  | taken {shown : Shown} {after : Outlet} (written : after.written = outlet.written ++ shown.bytes)
      (kept : after.refusals = outlet.refusals) : Prints outlet (.ok shown) (.ok shown.bytes) after
  | refused {shown : Shown} {part : Bytes} {refusal : FileError} {after : Outlet}
      (begun : part <+: shown.bytes) (written : after.written = outlet.written ++ part)
      (noted : after.refusals = outlet.refusals ++ [refusal]) :
      Prints outlet (.ok shown) (.error (shown.halt refusal)) after

/-- To conclude takes no turns, and leaves all but standard output as it was. -/
theorem conclude_prints (backend : Backend σ) (worked : Except CommandError Shown) (world : Console.World σ) :
    Console.turnsIn backend (conclude Console.print worked) world = [] ∧
      ((conclude Console.print worked).runIn backend world).2.toWorld = world.toWorld ∧
      Prints world.outlet worked ((conclude Console.print worked).runIn backend world).1
        ((conclude Console.print worked).runIn backend world).2.outlet := by
  cases worked with
  | error error => exact ⟨rfl, rfl, .nothing⟩
  | ok shown =>
    rw [conclude, Console.turnsIn_bind, Console.runIn_bind, Console.runIn_print]
    dsimp only
    cases wrote : (world.outlet.write shown.bytes).1 with
    | ok _ =>
      obtain ⟨written, kept⟩ := Outlet.write_taken wrote
      exact ⟨rfl, rfl, .taken written kept⟩
    | error refusal =>
      obtain ⟨⟨part, begun, written⟩, noted⟩ := Outlet.write_refused wrote
      exact ⟨rfl, rfl, .refused begun written noted⟩

/-- A run takes the turns of its work, leaves the files that the work leaves, and prints. -/
theorem run_prints (backend : Backend σ) (files : Files) (format : OutputFormat) (command : Command)
    (world : Console.World σ) :
    Console.turnsIn backend (command.run files format) world =
        Session.turnsIn backend (command.work files format) world.toWorld ∧
      ((command.run files format).runIn backend world).2.files =
        ((command.work files format).runIn backend world.toWorld).2.files ∧
      Prints world.outlet ((command.work files format).runIn backend world.toWorld).1
        ((command.run files format).runIn backend world).1
        ((command.run files format).runIn backend world).2.outlet := by
  obtain ⟨turns, kept, prints⟩ := conclude_prints backend
    ((command.work files format).runIn backend world.toWorld).1
    { world with toWorld := ((command.work files format).runIn backend world.toWorld).2 }
  rw [run, Console.turnsIn_bind, Console.runIn_bind, Console.turnsIn_ofSession, Console.runIn_ofSession]
  exact ⟨by rw [turns, List.append_nil], congrArg (·.files) kept, prints⟩

namespace Prints

variable {outlet after : Outlet} {worked : Except CommandError Shown} {result : Except Halt Bytes}

/-- A run succeeds where its work does and no write was refused. -/
theorem ok_iff (prints : Prints outlet worked result after) :
    (∃ output, result = .ok output) ↔ (∃ shown, worked = .ok shown) ∧ after.refusals = outlet.refusals := by
  cases prints with
  | nothing => exact ⟨nofun, fun ⟨⟨_, same⟩, _⟩ => nomatch same⟩
  | taken written kept => exact ⟨fun _ => ⟨⟨_, rfl⟩, kept⟩, fun _ => ⟨_, rfl⟩⟩
  | refused begun written noted => exact ⟨nofun, fun ⟨_, same⟩ => by simp [same] at noted⟩

theorem of_failed {error : CommandError} (prints : Prints outlet (.error error) result after) :
    result = .error (.failed error) ∧ after = outlet := by
  cases prints
  exact ⟨rfl, rfl⟩

theorem written_of_ok {output : Bytes} (prints : Prints outlet worked (.ok output) after) :
    after.written = outlet.written ++ output := by
  cases prints with
  | taken written _ => exact written

/-- Where no write was refused, all that there is to show is printed. -/
theorem of_kept {shown : Shown} (prints : Prints outlet (.ok shown) result after)
    (kept : after.refusals = outlet.refusals) :
    result = .ok shown.bytes ∧ after.written = outlet.written ++ shown.bytes := by
  cases prints with
  | taken written _ => exact ⟨rfl, written⟩
  | refused _ _ noted => simp [kept] at noted

/-- A run that fails although no write was refused has printed nothing. -/
theorem written_of_failed (prints : Prints outlet worked result after)
    (failed : (Ending.ofResult result).exitCode ≠ 0) (kept : after.refusals = outlet.refusals) :
    after.written = outlet.written := by
  cases prints with
  | nothing => rfl
  | taken _ _ => exact absurd rfl failed
  | refused _ _ noted => simp [kept] at noted

/-- Where a write was refused, a beginning of what is shown is printed. -/
theorem written_of_refused (prints : Prints outlet worked result after)
    (noted : after.refusals ≠ outlet.refusals) :
    ∃ shown part, worked = .ok shown ∧ part <+: shown.bytes ∧ after.written = outlet.written ++ part ∧
      (Ending.ofResult result).exitCode = match shown with | .rules _ => 3 | .report _ => 101 := by
  cases prints with
  | nothing => exact absurd rfl noted
  | taken _ kept => exact absurd kept noted
  | @refused shown part _ _ begun written _ =>
    refine ⟨shown, part, rfl, begun, written, ?_⟩
    cases shown <;> rfl

end Prints

end Command

end EntitlementRules
