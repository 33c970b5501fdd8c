import EntitlementRules.Proofs.Command.Runs

/-! Plans of commands: which calls a command makes, and what has to succeed besides. A command follows its
plan up to the first call that is refused. -/
namespace EntitlementRules.Command

open Session (Turn World turnsIn)

variable {σ : Type} {backend : Backend σ} {files : Files} {format : OutputFormat} {tree after : Files.Tree}
  {world left : World σ} {command : Command} {plan : List Call} {turns : List Turn}
  {result : Except CommandError Shown} {shown : Shown}

/-- The calls that a command makes, in order, if none of them is refused. A file that cannot be uploaded
leaves nothing to call for. -/
inductive Plans (files : Files) : Command → List Call → Prop where
  | status : Plans files .status [.getStatus]
  | list {raw : Bool} {out : Option String} : Plans files (.list raw out) [.listRules]
  | upload {file : String} {encoded : Bool} {text : EncodedBlob}
      (usable : Payload files file encoded text) :
      Plans files (.upload file encoded) [.uploadRules text, .getStatus]
  | unusable {file : String} {encoded : Bool} (useless : ∀ text, ¬ Payload files file encoded text) :
      Plans files (.upload file encoded) []
  | delete : Plans files .delete [.deleteRules, .getStatus]
  | version {file : String} : Plans files (.version file) []

/-- Turns that follow a plan to its end, or to the first call that is refused. -/
inductive FollowsPlan : (plan : List Call) → List Turn → Prop where
  | done : FollowsPlan [] []
  | answered {asked : Call} {plan : List Call} {turns : List Turn} (answer : asked.Answer)
      (later : FollowsPlan plan turns) : FollowsPlan (asked :: plan) (⟨asked, .ok answer⟩ :: turns)
  | refused {asked : Call} {plan : List Call} (cause : RulesError) :
      FollowsPlan (asked :: plan) [⟨asked, .error cause⟩]

/-- How the commands went whose work succeeds, with what they then have to show: all calls of the plan were
answered, and what is to be done besides was done. A blank listing leaves nothing to decode or to save. -/
inductive Succeeds (files : Files) (tree : Files.Tree) :
    Command → List Turn → Shown → Files.Tree → Prop where
  | status {status : Status} {text : String} :
      Succeeds files tree .status [⟨.getStatus, .ok status⟩] (.report text) tree
  | listNothing {raw : Bool} {out : Option String} {listed : EncodedBlob} {text : String}
      (blank : listed.isEmpty = true) :
      Succeeds files tree (.list raw out) [⟨.listRules, .ok listed⟩] (.report text) tree
  | list {raw : Bool} {listed : EncodedBlob} {content : Bytes} (visible : listed.isEmpty = false)
      (holds : Content listed raw content) :
      Succeeds files tree (.list raw none) [⟨.listRules, .ok listed⟩] (.rules content) tree
  | saved {raw : Bool} {path : String} {listed : EncodedBlob} {content : Bytes} {text : String}
      {after : Files.Tree} (visible : listed.isEmpty = false) (holds : Content listed raw content)
      (written : tree.write path content = .ok after) :
      Succeeds files tree (.list raw (some path)) [⟨.listRules, .ok listed⟩] (.report text) after
  | upload {file : String} {encoded : Bool} {uploaded : EncodedBlob} {status : Status} {text : String}
      (usable : Payload files file encoded uploaded) :
      Succeeds files tree (.upload file encoded)
        [⟨.uploadRules uploaded, .ok ()⟩, ⟨.getStatus, .ok status⟩] (.report text) tree
  | delete {status : Status} {text : String} :
      Succeeds files tree .delete [⟨.deleteRules, .ok ()⟩, ⟨.getStatus, .ok status⟩] (.report text) tree
  | version {file : String} {content : Bytes} {text : String} (found : files.read file = .ok content) :
      Succeeds files tree (.version file) [] (.report text) tree

/-- All that the work of a command can be but for a verification: the turns that it takes, what comes of it,
and the files that it leaves. -/
inductive Goes (files : Files) (tree : Files.Tree) :
    Command → List Turn → Except CommandError Shown → Files.Tree → Prop where
  | succeeded {command : Command} {turns : List Turn} {shown : Shown} {after : Files.Tree}
      (succeeds : Succeeds files tree command turns shown after) :
      Goes files tree command turns (.ok shown) after
  | refused {command : Command} {plan : List Call} (before : List Turn) {asked : Call}
      {cause : RulesError} (plans : Plans files command plan)
      (follows : FollowsPlan plan (before ++ [⟨asked, .error cause⟩])) :
      Goes files tree command (before ++ [⟨asked, .error cause⟩]) (.error (.ofRules cause)) tree
  | unusable {file : String} {encoded : Bool} {error : CommandError}
      (useless : ∀ text, ¬ Payload files file encoded text) :
      Goes files tree (.upload file encoded) [] (.error error) tree
  | malformed {out : Option String} {listed : EncodedBlob} {cause : RulesError}
      (visible : listed.isEmpty = false) (malformed : listed.decode = .error cause) :
      Goes files tree (.list false out) [⟨.listRules, .ok listed⟩] (.error (.ofRules cause)) tree
  | unsaved {raw : Bool} {path : String} {listed : EncodedBlob} {content : Bytes}
      {error : CommandError} {refusal : FileError} (visible : listed.isEmpty = false)
      (holds : Content listed raw content) (refused : tree.write path content = .error refusal) :
      Goes files tree (.list raw (some path)) [⟨.listRules, .ok listed⟩] (.error error) tree
  | unread {file : String} {error : CommandError} {refusal : FileError}
      (missing : files.read file = .error refusal) :
      Goes files tree (.version file) [] (.error error) tree

/-- A part of a command that goes as the command does. -/
def Serves (backend : Backend σ) (files : Files) (world : World σ) (command : Command)
    (part : Part Shown) : Prop :=
  ∃ turns result left, Runs backend part world turns result left ∧
    Goes files world.files command turns result left.files

theorem serves_showStatus : Serves backend files world .status (showStatus format) := by
  cases brought : (backend .getStatus world.server).1 with
  | error cause => exact ⟨_, _, _, .demand_refused brought, .refused [] .status (.refused cause)⟩
  | ok status => exact ⟨_, _, _, .demand_met brought (.pure _), .succeeded .status⟩

/-- What is left of a listing once there is something to deliver. -/
theorem serves_deliver {raw : Bool} {out : Option String} {listed : EncodedBlob} {content : Bytes}
    (brought : (backend .listRules world.server).1 = .ok listed) (visible : listed.isEmpty = false)
    (holds : Content listed raw content) :
    Serves backend files world (.list raw out) (listRules raw out) := by
  obtain ⟨events, listing⟩ := runs_listedContent backend (world.called backend .listRules) holds
  cases out with
  | none =>
    exact ⟨_, _, _, runs_listRules brought visible (listing.bind (.pure _)),
      .succeeded (.list visible holds)⟩
  | some path =>
    cases written : world.files.write path content with
    | error refusal =>
      obtain ⟨error, unsaved⟩ := runs_deliver_unwritten backend
        ((world.called backend .listRules).logged events) written
      exact ⟨_, _, _, runs_listRules brought visible (listing.bind unsaved),
        .unsaved visible holds written⟩
    | ok changed =>
      obtain ⟨text, saved⟩ := runs_deliver_saved backend
        ((world.called backend .listRules).logged events) written
      exact ⟨_, _, _, runs_listRules brought visible (listing.bind saved),
        .succeeded (.saved visible holds written)⟩

theorem serves_listRules {raw : Bool} {out : Option String} :
    Serves backend files world (.list raw out) (listRules raw out) := by
  cases brought : (backend .listRules world.server).1 with
  | error cause => exact ⟨_, _, _, .demand_refused brought, .refused [] .list (.refused cause)⟩
  | ok listed =>
    cases visible : listed.isEmpty with
    | true =>
      obtain ⟨text, runs⟩ := runs_listRules_blank brought visible
      exact ⟨_, _, _, runs, .succeeded (.listNothing visible)⟩
    | false =>
      cases raw with
      | true => exact serves_deliver brought visible .raw
      | false =>
        cases decoded : listed.decode with
        | ok blob => exact serves_deliver brought visible (.decoded decoded)
        | error cause =>
          exact ⟨_, _, _,
            runs_listRules brought visible (runs_listedContent_malformed decoded).bind_error,
            .malformed visible decoded⟩

theorem serves_uploadRules {file : String} {encoded : Bool} :
    Serves backend files world (.upload file encoded) (uploadRules files format file encoded) := by
  cases prepared : readFile files file >>= payload file encoded with
  | error error =>
    refine ⟨_, _, _, runs_uploadRules_unprepared prepared, .unusable fun text usable => ?_⟩
    obtain ⟨blob, -, ready⟩ := usable.prepared
    cases prepared.symm.trans ready
  | ok ready =>
    obtain ⟨blob, text⟩ := ready
    have usable := payload_of_prepared prepared
    obtain ⟨events, runs⟩ := runs_uploadRules backend world format prepared
    cases uploaded : (backend (.uploadRules text) world.server).1 with
    | error cause =>
      exact ⟨_, _, _, runs _ _ _ (.demand_refused uploaded),
        .refused [] (.upload usable) (.refused cause)⟩
    | ok _ =>
      cases brought : (backend .getStatus (world.called backend (.uploadRules text)).server).1 with
      | error cause =>
        exact ⟨_, _, _, runs _ _ _ (.demand_met uploaded (.demand_refused brought)),
          .refused [_] (.upload usable) (.answered _ (.refused cause))⟩
      | ok status =>
        exact ⟨_, _, _, runs _ _ _ (.demand_met uploaded (.demand_met brought (.pure _))),
          .succeeded (.upload usable)⟩

theorem serves_deleteRules : Serves backend files world .delete (deleteRules format) := by
  cases deleted : (backend .deleteRules world.server).1 with
  | error cause => exact ⟨_, _, _, .demand_refused deleted, .refused [] .delete (.refused cause)⟩
  | ok _ =>
    cases brought : (backend .getStatus (world.called backend .deleteRules).server).1 with
    | error cause =>
      exact ⟨_, _, _, .demand_met deleted (.demand_refused brought),
        .refused [_] .delete (.answered _ (.refused cause))⟩
    | ok status =>
      exact ⟨_, _, _, .demand_met deleted (.demand_met brought (.pure _)), .succeeded .delete⟩

/-- The work of every command but a verification goes as its parts allow. -/
theorem work_goes (single : ∀ pause, command ≠ .verify pause) :
    Goes files world.files command (turnsIn backend (command.work files format) world)
      ((command.work files format).runIn backend world).1
      ((command.work files format).runIn backend world).2.files := by
  have served {part : Part Shown} (serves : Serves backend files world command part) :
      Goes files world.files command (turnsIn backend part.run world) (part.run.runIn backend world).1
        (part.run.runIn backend world).2.files := by
    obtain ⟨turns, result, left, runs, goes⟩ := serves
    rw [runs.turns_eq, runs.runIn_eq]
    exact goes
  cases command with
  | status => exact served serves_showStatus
  | list raw out => exact served serves_listRules
  | upload file encoded => exact served serves_uploadRules
  | delete => exact served serves_deleteRules
  | verify pause => exact absurd rfl (single pause)
  | version file =>
    change Goes files world.files (.version file) [] (localVersion files format file) world.files
    rw [localVersion, readFile]
    cases found : files.read file with
    | error refusal => exact .unread found
    | ok content => exact .succeeded (.version found)

/-! ## What follows for callers -/

theorem FollowsPlan.calls_prefix (follows : FollowsPlan plan turns) : turns.map (·.call) <+: plan := by
  induction follows with
  | done => exact List.prefix_rfl
  | answered _ _ ih => exact List.cons_prefix_cons.mpr ⟨rfl, ih⟩
  | refused _ => exact List.cons_prefix_cons.mpr ⟨rfl, List.nil_prefix⟩

/-- A refused call is the last one. -/
theorem FollowsPlan.refused_last {asked : Call} {cause : RulesError} (follows : FollowsPlan plan turns)
    (member : ⟨asked, .error cause⟩ ∈ turns) : ∃ before, turns = before ++ [⟨asked, .error cause⟩] := by
  induction follows with
  | done => cases member
  | answered answer later ih =>
    cases member with
    | tail _ member =>
      obtain ⟨before, rfl⟩ := ih member
      exact ⟨_ :: before, rfl⟩
  | refused other =>
    rw [List.mem_singleton.mp member]
    exact ⟨[], rfl⟩

theorem Succeeds.answered {turn : Turn} (succeeds : Succeeds files tree command turns shown after)
    (member : turn ∈ turns) : ∃ answer, turn.outcome = .ok answer := by
  cases succeeds with
  | version _ => cases member
  | upload _ | delete =>
    obtain rfl | rfl : turn = _ ∨ turn = _ := by simpa using member
    · exact ⟨_, rfl⟩
    · exact ⟨_, rfl⟩
  | _ =>
    cases List.mem_singleton.mp member
    exact ⟨_, rfl⟩

theorem Succeeds.unrefused {asked : Call} {cause : RulesError}
    (succeeds : Succeeds files tree command turns shown after) : ⟨asked, .error cause⟩ ∉ turns := by
  intro member
  obtain ⟨answer, same⟩ := succeeds.answered member
  cases same

theorem Content.unique {listed : EncodedBlob} {raw : Bool} {first second : Bytes}
    (one : Content listed raw first) (other : Content listed raw second) : first = second := by
  cases one with
  | raw =>
    cases other
    rfl
  | decoded decoded =>
    cases other with
    | decoded again =>
      cases decoded.symm.trans again
      rfl

namespace Goes

theorem follows (goes : Goes files tree command turns result after) :
    ∃ plan, Plans files command plan ∧ FollowsPlan plan turns := by
  cases goes with
  | succeeded succeeds =>
    cases succeeds with
    | status => exact ⟨_, .status, .answered _ .done⟩
    | listNothing _ => exact ⟨_, .list, .answered _ .done⟩
    | list _ _ => exact ⟨_, .list, .answered _ .done⟩
    | saved _ _ _ => exact ⟨_, .list, .answered _ .done⟩
    | upload usable => exact ⟨_, .upload usable, .answered _ (.answered _ .done)⟩
    | delete => exact ⟨_, .delete, .answered _ (.answered _ .done)⟩
    | version _ => exact ⟨_, .version, .done⟩
  | refused before plans follows => exact ⟨_, plans, follows⟩
  | unusable useless => exact ⟨_, .unusable useless, .done⟩
  | malformed _ _ => exact ⟨_, .list, .answered _ .done⟩
  | unsaved _ _ _ => exact ⟨_, .list, .answered _ .done⟩
  | unread _ => exact ⟨_, .version, .done⟩

theorem succeeds (goes : Goes files tree command turns (.ok shown) after) :
    Succeeds files tree command turns shown after := by
  cases goes with
  | succeeded succeeds => exact succeeds

/-- The work succeeds exactly where the calls and all that is done besides do. -/
theorem ok_iff (goes : Goes files tree command turns result after) :
    (∃ shown, result = .ok shown) ↔ ∃ shown, Succeeds files tree command turns shown after := by
  constructor
  · rintro ⟨shown, rfl⟩
    exact ⟨shown, goes.succeeds⟩
  · rintro ⟨shown, succeeds⟩
    cases goes with
    | succeeded _ => exact ⟨_, rfl⟩
    | refused before _ _ => exact absurd (List.mem_append_right before List.mem_cons_self) succeeds.unrefused
    | unusable _ => cases succeeds
    | malformed visible malformed =>
      cases succeeds with
      | listNothing blank => cases visible.symm.trans blank
      | list _ holds | saved _ holds _ =>
        cases holds with
        | decoded decoded => cases malformed.symm.trans decoded
    | unsaved visible holds refused =>
      cases succeeds with
      | listNothing blank => cases visible.symm.trans blank
      | saved _ delivers written =>
        cases holds.unique delivers
        cases refused.symm.trans written
    | unread missing =>
      cases succeeds with
      | version found => cases missing.symm.trans found

theorem error_of_refused {asked : Call} {cause : RulesError}
    (goes : Goes files tree command turns result after) (member : ⟨asked, .error cause⟩ ∈ turns) :
    result = .error (.ofRules cause) := by
  cases goes with
  | succeeded succeeds => exact absurd member succeeds.unrefused
  | refused before plans follows =>
    obtain ⟨opening, same⟩ := follows.refused_last member
    cases (List.append_inj' same rfl).2
    rfl
  | unusable _ => cases member
  | malformed _ _ => cases List.mem_singleton.mp member
  | unsaved _ _ _ => cases List.mem_singleton.mp member
  | unread _ => cases member

/-- A listing that is to be decoded and cannot be is what the command fails with. -/
theorem error_of_malformed {out : Option String} {listed : EncodedBlob} {cause : RulesError}
    (goes : Goes files tree (.list false out) turns result after)
    (taken : turns = [⟨.listRules, .ok listed⟩]) (visible : listed.isEmpty = false)
    (malformed : listed.decode = .error cause) : result = .error (.ofRules cause) := by
  cases goes with
  | succeeded succeeds =>
    cases succeeds with
    | listNothing blank =>
      cases taken
      cases visible.symm.trans blank
    | list _ holds | saved _ holds _ =>
      cases taken
      cases holds with
      | decoded decoded => cases malformed.symm.trans decoded
  | refused before plans follows =>
    rcases List.append_eq_singleton_iff.mp taken with ⟨-, same⟩ | ⟨-, same⟩
    · cases same
    · cases same
  | malformed _ found =>
    cases taken
    cases malformed.symm.trans found
    rfl
  | unsaved _ holds _ =>
    cases taken
    cases holds with
    | decoded decoded => cases malformed.symm.trans decoded

/-- A listing that was refused, or is to be decoded and cannot be, is not saved. -/
theorem unsaved_of_unlisted {raw : Bool} {out : Option String}
    (goes : Goes files tree (.list raw out) turns result after)
    (unlisted : (∃ cause, turns = [⟨.listRules, .error cause⟩]) ∨
      raw = false ∧ ∃ listed cause, turns = [⟨.listRules, .ok listed⟩] ∧
        listed.decode = .error cause) : after = tree := by
  cases goes with
  | succeeded succeeds =>
    cases succeeds with
    | listNothing _ => rfl
    | list _ _ => rfl
    | saved _ holds _ =>
      obtain ⟨cause, same⟩ | ⟨rfl, listed, cause, same, malformed⟩ := unlisted
      · cases same
      · cases same
        cases holds with
        | decoded decoded => cases malformed.symm.trans decoded
  | _ => rfl

end Goes

end EntitlementRules.Command
