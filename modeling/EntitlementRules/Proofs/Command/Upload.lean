import EntitlementRules.Files.Snapshot
import EntitlementRules.Proofs.Command.Printing
import EntitlementRules.Proofs.Rules.Encoding
import EntitlementRules.Proofs.Rules.Marker
import EntitlementRules.Proofs.Server.Quiet

/-! Uploads: what a file has to hold so that anything is sent, and that exactly this is sent. A file that is
refused costs no call, so it cannot harm the rules that a server holds. -/
namespace EntitlementRules.Command

open Session (Turn World turnsIn)

variable {σ : Type} {backend : Backend σ} {files : Files} {format : OutputFormat} {world : World σ}
  {file : String} {encoded : Bool} {content : Bytes} {text : EncodedBlob} {blob : Blob}
  {error : CommandError}

/-- What a listing holds can be uploaded: its text without the blanks around it, or its rules. -/
theorem Content.usable {listed : EncodedBlob} {raw : Bool} (holds : Content listed raw content)
    (visible : listed.isEmpty = false) (decoded : listed.decode = .ok blob) :
    Usable raw content (if raw then ⟨Text.trim listed.text⟩ else blob.encode) := by
  have filled : blob.bytes ≠ [] := by
    intro nothing
    rw [(EncodedBlob.isEmpty_iff_of_decode decoded).mpr nothing] at visible
    cases visible
  cases holds with
  | raw => exact .encoded (EncodedBlob.decode_trim decoded) filled
  | decoded again =>
    cases decoded.symm.trans again
    exact .plain filled

/-! ## Refusals -/

theorem unread_of_missing {refusal : FileError} (missing : files.read file = .error refusal) :
    ∃ message, (readFile files file >>= payload file encoded) = .error (.failure message) := by
  rw [readFile, missing]
  exact ⟨_, rfl⟩

theorem refused_of_useless (found : files.read file = .ok content)
    (useless : ∀ text, ¬ Usable encoded content text) :
    ∃ message, (readFile files file >>= payload file encoded) = .error (.validation message) := by
  have ready : (readFile files file >>= payload file encoded) = payload file encoded content := by
    rw [readFile, found]
    rfl
  rcases payload_spec file encoded content with ⟨_, text, -, -, only⟩ | ⟨refused, -⟩
  · exact absurd ((only text).mpr rfl) (useless text)
  · rwa [ready]

/-! ## What is sent -/

theorem Usable.prepared (usable : Usable encoded content text) (found : files.read file = .ok content) :
    ∃ blob, text.decode = .ok blob ∧ (readFile files file >>= payload file encoded) = .ok (blob, text) :=
  (payload_iff.mpr ⟨content, found, usable⟩).prepared

theorem Usable.decode_plain (usable : Usable false content text) :
    text = (Blob.mk content).encode ∧ text.decode = .ok ⟨content⟩ := by
  obtain ⟨-, rfl⟩ := usable_plain_iff.mp usable
  exact ⟨rfl, Blob.decode_encode ⟨content⟩⟩

theorem runs_uploadRules_refused (format : OutputFormat) (usable : Usable encoded content text)
    (found : files.read file = .ok content) {cause : RulesError}
    (refused : (backend (.uploadRules text) world.server).1 = .error cause) :
    ∃ left, Runs backend (uploadRules files format file encoded) world
      [⟨.uploadRules text, .error cause⟩] (.error (.ofRules cause)) left := by
  obtain ⟨blob, -, prepared⟩ := usable.prepared found
  obtain ⟨events, runs⟩ := runs_uploadRules backend world format prepared
  exact ⟨_, runs _ _ _ (.demand_refused refused)⟩

/-- After an upload that the server accepts its status is asked for, and shown with the marked version. -/
theorem runs_uploadRules_accepted (format : OutputFormat) (usable : Usable encoded content text)
    (found : files.read file = .ok content) (decoded : text.decode = .ok blob)
    (accepted : (backend (.uploadRules text) world.server).1 = .ok ()) :
    ∃ left, Runs backend (uploadRules files format file encoded) world
      [⟨.uploadRules text, .ok ()⟩,
        ⟨.getStatus, (backend .getStatus (backend (.uploadRules text) world.server).2).1⟩]
      (((backend .getStatus (backend (.uploadRules text) world.server).2).1.mapError .ofRules).map
        fun status => .report (changeOutput "upload" blob.version? status format)) left ∧
      left.server = (backend .getStatus (backend (.uploadRules text) world.server).2).2 := by
  obtain ⟨held, decodes, prepared⟩ := usable.prepared found
  cases decoded.symm.trans decodes
  obtain ⟨events, runs⟩ := runs_uploadRules backend world format prepared
  cases reported : (backend .getStatus (backend (.uploadRules text) world.server).2).1 with
  | error cause => exact ⟨_, runs _ _ _ (.demand_met accepted (.demand_refused reported)), rfl⟩
  | ok status => exact ⟨_, runs _ _ _ (.demand_met accepted (.demand_met reported (.pure _))), rfl⟩

/-- A server without faults accepts what a file is uploaded as, and shows the version that it marks. -/
theorem runs_uploadRules_healthy (format : OutputFormat) {world : World Server}
    (healthy : world.server.faults = {}) (usable : Usable encoded content text)
    (found : files.read file = .ok content) :
    ∃ blob status left, text.decode = .ok blob ∧
      Runs Server.answer (uploadRules files format file encoded) world
        [⟨.uploadRules text, .ok ()⟩, ⟨.getStatus, .ok status⟩]
        (.ok (.report (changeOutput "upload" blob.version? status format))) left ∧
      (∃ reported, status.rulesVersion = reported.text ∧
        ∀ version, blob.version? = some version → reported = version) ∧
      left.server = (world.server.holding text).note .getStatus := by
  obtain ⟨blob, decoded, -⟩ := usable.prepared found
  have accepts := Server.answer_accepted (by rw [healthy]) decoded
  have accepted : (Server.answer (.uploadRules text) world.server).1 = .ok () := congrArg Prod.fst accepts
  have stored : (Server.answer (.uploadRules text) world.server).2 = world.server.holding text :=
    congrArg Prod.snd accepts
  obtain ⟨left, runs, keeps⟩ := runs_uploadRules_accepted format usable found decoded accepted
  have quiet : (world.server.holding text).Quiet := .of_healthy healthy
  rw [stored] at keeps
  rw [stored, quiet.outcome_eq .getStatus] at runs
  refine ⟨blob, (world.server.holding text).plainStatus, left, decoded, runs,
    ⟨(world.server.holding text).plainVersion, rfl, ?_⟩, keeps⟩
  intro version marked
  simp only [Server.plainVersion, Server.holding, decoded, marked, Option.getD_some]

/-! ## What is printed -/

/-- What is printed of an upload, by the version that its rules mark and the one that the server reports. A
version that is marked stands there twice. -/
inductive Announces : OutputFormat → (marked : Option Version) → (reported : Version) → String → Prop where
  | table {version : Version} : Announces .table (some version) version
      ("marker: " ++ version.text ++ "\n" ++
        "upload: server now reports rules version " ++ version.text ++ "\n")
  | unmarkedTable {version : Version} : Announces .table none version
      ("upload: server now reports rules version " ++ version.text ++ "\n")
  | json {version : Version} : Announces .json (some version) version
      ("\x7b\n  \"action\": \"upload\",\n  \"marker\": \"" ++ version.text ++
        "\",\n  \"rulesVersion\": \"" ++ version.text ++ "\"\n\x7d\n")
  | unmarkedJson {version : Version} : Announces .json none version
      ("\x7b\n  \"action\": \"upload\",\n  \"marker\": null,\n  \"rulesVersion\": \"" ++
        version.text ++ "\"\n\x7d\n")

/-- The text of a version needs no escapes. -/
theorem escaped_version (version : Version) :
    version.text.toList.flatMap Json.escapeChar = version.text.toList := by
  refine (List.flatMap_congr fun c member => ?_).trans (List.flatMap_singleton' _)
  have visible := Version.visible_of_mem_text member
  have other {d : Char} (outside : d.toNat < 0x2E ∨ 0x39 < d.toNat) : (c == d) = false := by
    rw [beq_eq_false_iff_ne]
    rintro rfl
    omega
  have printable : ¬ c.toNat < 0x20 := by omega
  simp [Json.escapeChar, other, printable]

theorem Announces.of_toList {marked : Option Version} {reported : Version} {shown text : String}
    (announces : Announces format marked reported text) (same : shown.toList = text.toList) :
    Announces format marked reported shown :=
  String.toList_inj.mp same ▸ announces

theorem announces_changeOutput (format : OutputFormat) {marked : Option Version} {reported : Version}
    {status : Status} (reports : status.rulesVersion = reported.text)
    (same : ∀ version, marked = some version → reported = version) :
    Announces format marked reported (changeOutput "upload" marked status format) := by
  cases format with
  | table =>
    cases marked with
    | none =>
      apply Announces.unmarkedTable.of_toList
      simp [changeOutput, reports, lineOutput, toString]
    | some version =>
      cases same version rfl
      apply Announces.table.of_toList
      simp [changeOutput, reports, lineOutput, toString]
  | json =>
    cases marked with
    | none =>
      apply Announces.unmarkedJson.of_toList
      simp [changeOutput, reports, jsonOutput, markerJson, Json.pretty, Json.prettyAt, Json.prettyMembers,
        Json.newline, Json.quote, Json.escapeChar, escaped_version]
    | some version =>
      cases same version rfl
      apply Announces.json.of_toList
      simp [changeOutput, reports, jsonOutput, markerJson, Json.pretty, Json.prettyAt, Json.prettyMembers,
        Json.newline, Json.quote, Json.escapeChar, escaped_version]

/-- Nothing is called before the content of the file was found usable, and then exactly that content is
sent: encoded, or without the blanks around it where it is an encoding already. The status is asked for
after an upload that was accepted and after no other. -/
theorem uploads_gated_by_content (backend : Backend σ) (world : World σ) (memory : Console.World Server)
    (files : Files) (format : OutputFormat) (file : String) (encoded : Bool) :
    -- A file that cannot be read, or holds nothing that can be uploaded.
    (∀ refusal, files.read file = .error refusal →
      ∃ message, Runs backend (uploadRules files format file encoded) world []
          (.error (.failure message)) world ∧
        (Ending.ofResult (.error (.failed (.failure message)))).exitCode = 3) ∧
    (∀ content, files.read file = .ok content → (∀ text, ¬ Usable encoded content text) →
      ∃ message, Runs backend (uploadRules files format file encoded) world []
          (.error (.validation message)) world ∧
        (Ending.ofResult (.error (.failed (.validation message)))).exitCode = 2) ∧
    -- All other files.
    ∀ content text, files.read file = .ok content → Usable encoded content text →
      let uploaded := backend (.uploadRules text) world.server
      (encoded = false → text = (Blob.mk content).encode ∧ text.decode = .ok ⟨content⟩) ∧
      (∀ cause, uploaded.1 = .error cause → ∃ left,
        Runs backend (uploadRules files format file encoded) world [⟨.uploadRules text, .error cause⟩]
          (.error (.ofRules cause)) left) ∧
      (uploaded.1 = .ok () → ∃ result left,
        Runs backend (uploadRules files format file encoded) world
          [⟨.uploadRules text, .ok ()⟩, ⟨.getStatus, (backend .getStatus uploaded.2).1⟩] result left) ∧
      -- Against a server in memory, what is printed has the marked version twice.
      (memory.server.faults = {} →
        let upload := (Command.upload file encoded).run files format
        let ended := upload.runIn Server.answer memory
        ∃ blob status reported shown, text.decode = .ok blob ∧
          Console.turnsIn Server.answer upload memory =
            [⟨.uploadRules text, .ok ()⟩, ⟨.getStatus, .ok status⟩] ∧
          status.rulesVersion = reported.text ∧ Announces format blob.version? reported shown ∧
          (ended.2.outlet.refusals = memory.outlet.refusals →
            ended.1 = .ok (Text.Utf8.encode shown) ∧
              ended.2.outlet.written = memory.outlet.written ++ Text.Utf8.encode shown)) := by
  refine ⟨?_, ?_, ?_⟩
  · intro refusal missing
    obtain ⟨message, unread⟩ := unread_of_missing missing
    exact ⟨message, runs_uploadRules_unprepared unread, rfl⟩
  · intro content found useless
    obtain ⟨message, refused⟩ := refused_of_useless found useless
    exact ⟨message, runs_uploadRules_unprepared refused, rfl⟩
  · intro content text found usable uploaded
    obtain ⟨blob, decoded, -⟩ := usable.prepared found
    refine ⟨?_, ?_, ?_, ?_⟩
    · rintro rfl
      exact usable.decode_plain
    · intro cause refused
      exact runs_uploadRules_refused format usable found refused
    · intro accepted
      obtain ⟨left, runs, -⟩ := runs_uploadRules_accepted format usable found decoded accepted
      exact ⟨_, left, runs⟩
    · intro healthy
      obtain ⟨blob, status, left, decodes, runs, ⟨reported, reports, same⟩, -⟩ :=
        runs_uploadRules_healthy format healthy usable found
      obtain ⟨turns, -, prints⟩ := run_prints Server.answer files format (.upload file encoded) memory
      refine ⟨blob, status, reported, _, decodes, turns.trans runs.turns_eq, reports,
        announces_changeOutput format reports same, fun kept => ?_⟩
      have worked : ((Command.work files format (.upload file encoded)).runIn Server.answer memory.toWorld).1 =
          .ok (.report (changeOutput "upload" blob.version? status format)) := congrArg Prod.fst runs.runIn_eq
      exact (worked ▸ prints).of_kept kept

/-- An encoding with a hard space in front of it and a line feed behind is sent without them, and the version
that it marks is printed twice. -/
theorem padded_encoding_uploads_trimmed :
    let files := Files.ofFindings
      [⟨"f", .ok (), .ok (Text.Utf8.encode "\u00a0Ly9WZXJzaW9uOiA3LjE=\n")⟩]
    let world : Console.World Server := { server := {}, files := ⟨"/", []⟩ }
    let upload := (Command.upload "f" true).run files .table
    (∃ status, Console.turnsIn Server.answer upload world =
        [⟨.uploadRules ⟨"Ly9WZXJzaW9uOiA3LjE="⟩, .ok ()⟩, ⟨.getStatus, .ok status⟩] ∧
      status.rulesVersion = "7.1") ∧
      (upload.runIn Server.answer world).2.outlet.written =
        Text.Utf8.encode "marker: 7.1\nupload: server now reports rules version 7.1\n" := by
  intro files world upload
  have decoded : EncodedBlob.decode ⟨Text.trim "\u00a0Ly9WZXJzaW9uOiA3LjE=\n"⟩ =
      .ok ⟨Text.Utf8.encode "//Version: 7.1"⟩ := EncodedBlob.decode_eq_ok_iff.mpr (by decide)
  have marked : (Blob.mk (Text.Utf8.encode "//Version: 7.1")).version? = some ⟨7, 1⟩ :=
    Blob.version?_eq_some_iff.mpr ⟨"7", "1", ⟨by decide, by simp, by rfl⟩, ⟨by decide, by simp, by rfl⟩,
      Text.Utf8.encode "//Version: 7.1", by decide, .inl rfl, .inr ⟨by rfl, by decide⟩⟩
  have usable : Usable true (Text.Utf8.encode "\u00a0Ly9WZXJzaW9uOiA3LjE=\n") ⟨"Ly9WZXJzaW9uOiA3LjE="⟩ :=
    .encoded decoded (by decide)
  obtain ⟨-, -, sends⟩ :=
    uploads_gated_by_content Server.answer world.toWorld world files .table "f" true
  obtain ⟨-, -, -, shows⟩ := sends _ _ rfl usable
  obtain ⟨blob, status, reported, shown, read, turns, reports, announces, prints⟩ := shows rfl
  cases decoded.symm.trans read
  rw [marked] at announces
  cases announces
  have kept : (upload.runIn Server.answer world).2.outlet.refusals = [] := by decide +kernel
  refine ⟨⟨status, turns, reports⟩, ?_⟩
  rw [(prints kept).2]
  decide +kernel

end EntitlementRules.Command
