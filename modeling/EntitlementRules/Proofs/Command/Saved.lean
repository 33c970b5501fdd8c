import EntitlementRules.Proofs.Command.Upload
import EntitlementRules.Proofs.Files.Tree

/-! Saved rules: what a listing saves to a file is uploaded from there as it was, in both forms. -/
namespace EntitlementRules.Command

open Session (World)

variable {σ : Type} {world : World Server} {listed : EncodedBlob} {blob : Blob}
  {path : String} {raw : Bool} {content : Bytes} {changed : Files.Tree}

/-- Runs a command with the server and the files of a world, and tells what comes of it and the world that
it leaves. -/
def performIn (backend : Backend σ) (format : OutputFormat) (command : Command)
    (world : World σ) : Except CommandError Bytes × World σ :=
  (command.perform world.files.view format).runIn backend world

theorem performIn_eq {backend : Backend σ} {format : OutputFormat} {command : Command} {world left : World σ}
    {part : Part Shown} {turns : List Session.Turn} {result : Except CommandError Shown}
    (works : command.work world.files.view format = part.run)
    (runs : Runs backend part world turns result left) :
    performIn backend format command world = (result.map Shown.bytes, left) := by
  rw [performIn, perform, works, Session.runIn_bind, runs.runIn_eq]
  rfl

theorem performIn_list (format : OutputFormat) (lists : world.server.listing = .ok listed) (visible : listed.isEmpty = false)
    (holds : Content listed raw content) (written : world.files.write path content = .ok changed) :
    ∃ output left, performIn Server.answer format (.list raw (some path)) world = (.ok output, left) ∧
      left.server = world.server.note .listRules ∧ left.files = changed := by
  obtain ⟨events, listing⟩ := runs_listedContent Server.answer (world.called Server.answer .listRules) holds
  obtain ⟨text, saved⟩ := runs_deliver_saved Server.answer
    ((world.called Server.answer .listRules).logged events) written
  have performed : performIn Server.answer format (.list raw (some path)) world = _ :=
    performIn_eq rfl (runs_listRules lists visible (listing.bind saved))
  exact ⟨_, _, performed, rfl, rfl⟩

theorem performIn_delete (format : OutputFormat) (world : World Server) :
    ∃ output left, performIn Server.answer format .delete world = (.ok output, left) ∧
      left.server = world.server.cleared.note .getStatus ∧ left.files = world.files :=
  ⟨_, _, rfl, rfl, rfl⟩

theorem performIn_upload (format : OutputFormat) {text : EncodedBlob}
    (accepting : world.server.faults.refusedUploads = false)
    (usable : Payload world.files.view path raw text) (decoded : text.decode = .ok blob) :
    ∃ output left, performIn Server.answer format (.upload path raw) world = (.ok output, left) ∧
      left.server = (world.server.holding text).note .getStatus := by
  obtain ⟨held, -, ready⟩ := usable.prepared
  obtain ⟨events, runs⟩ := runs_uploadRules Server.answer world format ready
  have accepted := Server.answer_accepted accepting decoded
  have uploaded : (Server.answer (.uploadRules text) (world.logged events).server).1 = .ok () :=
    congrArg Prod.fst accepted
  have stored : (world.logged events).called Server.answer (.uploadRules text) =
      { world.logged events with server := world.server.holding text } :=
    congrArg (fun server => { world.logged events with server }) (congrArg Prod.snd accepted)
  have finished := runs _ _ _ (.demand_met uploaded (.demand_met rfl (.pure _)))
  rw [stored] at finished
  have performed : performIn Server.answer format (.upload path raw) world = _ := performIn_eq rfl finished
  exact ⟨_, _, performed, rfl⟩

theorem Content.payload {files : Files} (holds : Content listed raw content)
    (visible : listed.isEmpty = false) (decoded : listed.decode = .ok blob)
    (found : files.read path = .ok content) :
    Payload files path raw (if raw then ⟨Text.trim listed.text⟩ else blob.encode) :=
  payload_iff.mpr ⟨content, found, holds.usable visible decoded⟩

/-- Whether a path can be written to does not depend on what is written. -/
theorem writable_of_write {tree : Files.Tree}
    (writable : ∃ changed, tree.write path content = .ok changed) (other : Bytes) :
    ∃ changed, tree.write path other = .ok changed := by
  obtain ⟨changed, written⟩ := writable
  obtain ⟨folder, name, target, -⟩ := Files.Tree.write_eq_ok_iff.mp written
  exact ⟨_, Files.Tree.write_eq_ok_iff.mpr ⟨folder, name, target, rfl⟩⟩

/-- Rules that were listed to a file, deleted and uploaded from there are the rules that were listed. -/
theorem saved_rules_upload_unchanged (first second third : OutputFormat) (raw : Bool) (path : String)
    (world : World Server) (listed : EncodedBlob) (blob : Blob)
    (healthy : world.server.faults = {}) (lists : world.server.listing = .ok listed)
    (visible : listed.isEmpty = false) (decoded : listed.decode = .ok blob)
    (writable : ∃ changed, world.files.write path [] = .ok changed) :
    let listing := performIn Server.answer first (.list raw (some path)) world
    let deletion := performIn Server.answer second .delete listing.2
    let upload := performIn Server.answer third (.upload path raw) deletion.2
    (∃ output, listing.1 = .ok output) ∧ (∃ output, deletion.1 = .ok output) ∧
      (∃ output, upload.1 = .ok output) ∧
      ∃ stored status, upload.2.server.custom = some stored ∧ stored.decode = .ok blob ∧
        stored = (if raw then ⟨Text.trim listed.text⟩ else blob.encode) ∧
        (Server.answer .getStatus upload.2.server).1 = .ok status ∧
        status.rulesVersion = (blob.version?.getD world.server.defaultVersion).text := by
  intro listing deletion upload
  obtain ⟨content, holds⟩ : ∃ content, Content listed raw content := by
    cases raw with
    | true => exact ⟨_, .raw⟩
    | false => exact ⟨_, .decoded decoded⟩
  obtain ⟨changed, written⟩ := writable_of_write writable content
  obtain ⟨shown, left, listingEq, listedServer, files⟩ :=
    performIn_list first lists visible holds written
  obtain ⟨removed, bare, deletionEq, bareServer, kept⟩ :=
    performIn_delete second left
  have found : bare.files.view.read path = .ok content := by
    rw [kept, files]
    exact Files.Tree.read_view_of_write written
  have usable := holds.payload visible decoded found
  generalize same : (if raw then ⟨Text.trim listed.text⟩ else blob.encode : EncodedBlob) = text at usable
  have decodes : text.decode = .ok blob := by
    rw [← same]
    cases raw with
    | true => exact EncodedBlob.decode_trim decoded
    | false => exact Blob.decode_encode blob
  have faultless : bare.server.faults = {} := by
    rw [bareServer, listedServer]
    exact healthy
  obtain ⟨replaced, final, uploadEq, finalServer⟩ :=
    performIn_upload third (by rw [faultless]) usable decodes
  have quiet : final.server.Quiet := by
    apply Server.Quiet.of_healthy
    rw [finalServer]
    exact faultless
  have version : final.server.plainVersion = blob.version?.getD world.server.defaultVersion := by
    rw [finalServer, bareServer, listedServer]
    simp only [Server.plainVersion, Server.holding, Server.note, Server.cleared, decodes]
  have lists : listing = (.ok shown, left) := listingEq
  have deletes : deletion = (.ok removed, bare) := by simpa only [deletion, lists] using deletionEq
  have uploads : upload = (.ok replaced, final) := by simpa only [upload, deletes] using uploadEq
  rw [lists, deletes, uploads]
  refine ⟨⟨shown, rfl⟩, ⟨removed, rfl⟩, ⟨replaced, rfl⟩, text, final.server.plainStatus, ?_, decodes, rfl,
    quiet.outcome_eq .getStatus, congrArg Version.text version⟩
  rw [finalServer]
  rfl

/-- Rules without a version, listed with blanks around and inside them, come back without those around. -/
theorem wrapped_rules_upload_trimmed :
    let world : World Server := { server := { custom := some ⟨"\tQU\nJD\n"⟩ }, files := ⟨"/", []⟩ }
    let listing := performIn Server.answer .table (.list true (some "f")) world
    let deletion := performIn Server.answer .json .delete listing.2
    let upload := performIn Server.answer .table (.upload "f" true) deletion.2
    ∃ stored status, upload.2.server.custom = some stored ∧ stored.decode = .ok ⟨[65, 66, 67]⟩ ∧
      stored = ⟨"QU\nJD"⟩ ∧
      (Server.answer .getStatus upload.2.server).1 = .ok status ∧ status.rulesVersion = "5.3" := by
  have steps : Files.Tree.splitSteps "f" = ["f"] := by decide +kernel
  have target : Files.Tree.Target ⟨"/", []⟩ "f" [] "f" :=
    ⟨⟨[], congrArg Except.ok steps, rfl⟩, rfl, by decide, by decide, by decide⟩
  have decoded : (EncodedBlob.mk "\tQU\nJD\n").decode = .ok ⟨[65, 66, 67]⟩ :=
    EncodedBlob.decode_eq_ok_iff.mpr (by decide)
  obtain ⟨-, -, -, stored, status, held, decodes, same, reports, version⟩ :=
    saved_rules_upload_unchanged .table .json .table true "f"
      { server := { custom := some ⟨"\tQU\nJD\n"⟩ }, files := ⟨"/", []⟩ } _ _ rfl rfl rfl decoded
      ⟨_, Files.Tree.write_eq_ok_iff.mpr ⟨_, _, target, rfl⟩⟩
  exact ⟨stored, status, held, decodes, same.trans (by decide), reports, version.trans (by decide +kernel)⟩

end EntitlementRules.Command
