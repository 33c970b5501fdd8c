import EntitlementRules.Proofs.Rules.Blob
import EntitlementRules.Proofs.Session.Trace
import EntitlementRules.Server.InMemory

/-! The server in memory: the states that calls and faults can lead to, and what holds in all of them. -/
namespace EntitlementRules.Server

open Session (Turn serverAfter)

variable {server : Server} {encoded : EncodedBlob} {blob : Blob}

/-- The states that calls and faults can lead to, from a server without custom rules or with some that
decode. -/
inductive Reachable : Server → Prop where
  | start (defaultVersion : Version) (emptyDefault : Bool) : Reachable { defaultVersion, emptyDefault }
  | seeded (defaultVersion : Version) (emptyDefault : Bool) {seed : EncodedBlob} {blob : Blob}
      (sound : seed.decode = .ok blob) :
      Reachable { defaultVersion, emptyDefault, custom := some seed }
  | call {server : Server} (asked : Call) (before : Reachable server) :
      Reachable (answer asked server).2
  | inject {server : Server} (fault : Fault) (before : Reachable server) :
      Reachable (server.inject fault)

/-- What holds in every reachable state. -/
structure Sound (server : Server) : Prop where
  decodes : ∀ {encoded}, server.custom = some encoded → ∃ blob, encoded.decode = .ok blob
  forgetful : server.uploads = 0 → server.lastUpload = none

def cleared (server : Server) : Server := { server.note .deleteRules with custom := none }

def holding (server : Server) (encoded : EncodedBlob) : Server :=
  { server.note (.uploadRules encoded) with
    custom := some encoded, lastUpload := some encoded, uploads := server.uploads + 1 }

theorem answer_getStatus (server : Server) :
    answer .getStatus server = (.ok server.status, server.note .getStatus) := rfl

theorem answer_deleteRules (server : Server) :
    answer .deleteRules server = (.ok (), server.cleared) := rfl

/-- What a server refuses an upload with while uploads are refused. -/
def uploadRefusal : RulesError := .server "upload_rules" 503 "rules storage offline"

theorem answer_refused (refused : server.faults.refusedUploads = true) :
    answer (.uploadRules encoded) server =
      (.error uploadRefusal, server.note (.uploadRules encoded)) := by
  simp [answer, store, note, refused, uploadRefusal]

theorem answer_malformed {error : RulesError} (allowed : server.faults.refusedUploads = false)
    (malformed : encoded.decode = .error error) :
    answer (.uploadRules encoded) server =
      (.error error, server.note (.uploadRules encoded)) := by
  simp [answer, store, note, allowed, malformed, Except.map]

theorem answer_accepted (allowed : server.faults.refusedUploads = false)
    (decoded : encoded.decode = .ok blob) :
    answer (.uploadRules encoded) server = (.ok (), server.holding encoded) := by
  simp [answer, store, note, holding, allowed, decoded, Except.map]

/-- An upload is refused and changes nothing but the call log, or it is stored. -/
theorem answer_uploadRules (server : Server) (encoded : EncodedBlob) :
    (∃ error, answer (.uploadRules encoded) server =
      (.error error, server.note (.uploadRules encoded))) ∨
    server.faults.refusedUploads = false ∧ (∃ blob, encoded.decode = .ok blob) ∧
      answer (.uploadRules encoded) server = (.ok (), server.holding encoded) := by
  cases refused : server.faults.refusedUploads with
  | true => exact .inl ⟨_, answer_refused refused⟩
  | false =>
    cases decoded : encoded.decode with
    | error error => exact .inl ⟨error, answer_malformed refused decoded⟩
    | ok blob => exact .inr ⟨rfl, ⟨blob, rfl⟩, answer_accepted refused decoded⟩

theorem Sound.answer (sound : Sound server) (asked : Call) :
    Sound (answer asked server).2 := by
  cases asked with
  | getStatus => exact ⟨sound.decodes, sound.forgetful⟩
  | listRules => exact ⟨sound.decodes, sound.forgetful⟩
  | deleteRules => exact ⟨nofun, sound.forgetful⟩
  | uploadRules encoded =>
    rcases answer_uploadRules server encoded with ⟨error, refused⟩ | ⟨_, decodes, accepted⟩
    · rw [refused]
      exact ⟨sound.decodes, sound.forgetful⟩
    · rw [accepted]
      refine ⟨fun stored => ?_, nofun⟩
      cases stored
      exact decodes

theorem Reachable.sound (reachable : Reachable server) : Sound server := by
  induction reachable with
  | start => exact ⟨nofun, fun _ => rfl⟩
  | seeded _ _ sound =>
    refine ⟨fun stored => ?_, fun _ => rfl⟩
    cases stored
    exact ⟨_, sound⟩
  | call asked _ ih => exact ih.answer asked
  | inject fault _ ih => exact ⟨ih.decodes, ih.forgetful⟩

theorem versionOf_withVersion {version : Version} {body : String} :
    server.versionOf (some (Blob.withVersion version body).encode) = version := by
  simp [versionOf, Blob.decode_encode, Blob.version?_withVersion, Except.toOption]

/-- A server that is not armed shows the version of its rules. -/
theorem shownVersion_unarmed (unarmed : server.uploads = 0) :
    server.shownVersion = (server.versionOf server.reported).text := by
  unfold shownVersion
  split
  · rw [if_neg (by simp [armed, unarmed])]
  · rfl

theorem shownVersion_armed (armed : server.uploads ≠ 0) :
    server.shownVersion =
      server.faults.misreportedVersion.getD (server.versionOf server.reported).text := by
  have arms : server.armed = true := decide_eq_true (Nat.pos_of_ne_zero armed)
  unfold shownVersion
  split
  · next told => rw [if_pos arms, told, Option.getD_some]
  · next silent => rw [silent, Option.getD_none]

theorem shownVersion_stored (armed : server.uploads ≠ 0) (stored : server.custom = some encoded) :
    server.shownVersion =
      server.faults.misreportedVersion.getD (server.versionOf (some encoded)).text := by
  have reports : server.reported = some encoded := by simp [reported, stored]
  rw [shownVersion_armed armed, reports]

/-- After a deletion only a sticky server still shows the version of its last upload. -/
theorem shownVersion_cleared (armed : server.uploads ≠ 0) :
    server.cleared.shownVersion =
      server.faults.misreportedVersion.getD
        (server.versionOf (if server.faults.stickyVersion then server.lastUpload else none)).text :=
  shownVersion_armed (show server.cleared.uploads ≠ 0 from armed)

/-- Before the first upload a deletion brings back the built-in version, sticky or not. -/
theorem shownVersion_bare (unarmed : server.uploads = 0) (forgetful : server.lastUpload = none) :
    server.cleared.shownVersion = server.defaultVersion.text := by
  have deleted : server.cleared.uploads = 0 := unarmed
  have reports : server.cleared.reported =
      if server.faults.stickyVersion then server.lastUpload else none := rfl
  rw [shownVersion_unarmed deleted, reports, forgetful, ite_self]
  rfl

theorem listing_unarmed (unarmed : server.uploads = 0) : ∃ listed, server.listing = .ok listed := by
  have disarmed : server.armed = false := by simp [armed, unarmed]
  unfold listing
  rw [disarmed]
  cases server.custom with
  | some custom => exact ⟨custom, by simp⟩
  | none => cases server.emptyDefault <;> exact ⟨_, by simp; rfl⟩

/-- Whatever rules a sound server lists decode, altered ones too. -/
theorem Sound.listing_decodes (sound : Sound server) {listed : EncodedBlob}
    (lists : server.listing = .ok listed) : ∃ blob, listed.decode = .ok blob := by
  unfold listing at lists
  split at lists
  · cases lists
  · split at lists
    · next custom stored =>
      obtain ⟨blob, decoded⟩ := sound.decodes stored
      split at lists
      · rw [decoded] at lists
        rw [← Except.ok.inj lists]
        exact ⟨_, Blob.decode_encode _⟩
      · cases lists
        exact ⟨blob, decoded⟩
    · split at lists
      · cases lists
        exact ⟨⟨[]⟩, rfl⟩
      · rw [← Except.ok.inj lists]
        exact ⟨_, Blob.decode_encode _⟩

/-- The record that a turn leaves, where it changes the record: the text of an accepted upload, or none
after a deletion. -/
def written? : Turn → Option (Option EncodedBlob)
  | ⟨.uploadRules encoded, .ok _⟩ => some (some encoded)
  | ⟨.deleteRules, .ok _⟩ => some none
  | _ => none

/-- Whether a turn is an accepted upload. -/
def storing : Turn → Bool
  | ⟨.uploadRules _, .ok _⟩ => true
  | _ => false

/-- What a turn leaves of a server: the call is noted and the record is as the turn says, an upload is
remembered only if it was accepted, and nothing else changes. -/
structure Leaves (server : Server) (turn : Turn) (next : Server) : Prop where
  defaultVersion : next.defaultVersion = server.defaultVersion
  emptyDefault : next.emptyDefault = server.emptyDefault
  faults : next.faults = server.faults
  calls : next.calls = server.calls ++ [turn.call]
  custom : next.custom = (written? turn).getD server.custom
  unarmed : storing turn = false →
    next.uploads = server.uploads ∧ next.lastUpload = server.lastUpload

theorem leaves_answer (asked : Call) (server : Server) :
    Leaves server ⟨asked, (answer asked server).1⟩ (answer asked server).2 := by
  cases asked with
  | uploadRules encoded =>
    rcases answer_uploadRules server encoded with ⟨error, refused⟩ | ⟨_, _, accepted⟩
    · rw [refused]
      exact ⟨rfl, rfl, rfl, rfl, rfl, fun _ => ⟨rfl, rfl⟩⟩
    · rw [accepted]
      exact ⟨rfl, rfl, rfl, rfl, rfl, nofun⟩
  | _ => exact ⟨rfl, rfl, rfl, rfl, rfl, fun _ => ⟨rfl, rfl⟩⟩

theorem faults_answer (asked : Call) (server : Server) :
    (answer asked server).2.faults = server.faults :=
  (leaves_answer asked server).faults

theorem faults_serverAfter (calls : List Call) (server : Server) :
    (serverAfter answer calls server).faults = server.faults := by
  induction calls generalizing server with
  | nil => rfl
  | cons asked rest ih => exact (ih _).trans (faults_answer asked server)

/-- A server that refuses uploads and holds no custom rules never gets any. -/
theorem custom_answer_refused (refused : server.faults.refusedUploads = true)
    (bare : server.custom = none) (asked : Call) : (answer asked server).2.custom = none := by
  cases asked with
  | uploadRules encoded =>
    rw [answer_refused refused]
    exact bare
  | deleteRules => rfl
  | getStatus => exact bare
  | listRules => exact bare

theorem custom_serverAfter_refused (refused : server.faults.refusedUploads = true)
    (bare : server.custom = none) (calls : List Call) :
    (serverAfter answer calls server).custom = none := by
  induction calls generalizing server with
  | nil => exact bare
  | cons asked rest ih =>
    exact ih (by rw [faults_answer]; exact refused) (custom_answer_refused refused bare asked)

end EntitlementRules.Server
