import EntitlementRules.Proofs.Rules.Encoding
import EntitlementRules.Proofs.Server.Quiet

/-! Histories: whatever happens to a server in memory, its record is the one that the last accepted write
left, and its faults are those injected since the last healing. -/
namespace EntitlementRules.Server

open Session (Turn)

inductive Event where
  | call (asked : Call)
  | inject (fault : Fault)
  deriving Repr, DecidableEq

def after (server : Server) : Event → Server
  | .call asked => (answer asked server).2
  | .inject fault => server.inject fault

def afterAll (server : Server) (events : List Event) : Server := events.foldl after server

/-- The calls among some events, each with what it brought. -/
def turns : List Event → Server → List Turn
  | [], _ => []
  | .call asked :: rest, server => ⟨asked, (answer asked server).1⟩ :: turns rest (answer asked server).2
  | .inject fault :: rest, server => turns rest (server.inject fault)

def callsAmong (events : List Event) : List Call :=
  events.filterMap fun
    | .call asked => some asked
    | .inject _ => none

/-- The active faults once something more has happened. -/
def activate (active : List Fault) : Event → List Fault
  | .call _ => active
  | .inject .heal => []
  | .inject fault => active ++ [fault]

/-- The faults injected and not healed again. -/
def activeFaults (events : List Event) : List Fault := events.foldl activate []

/-- The record that the last write among some turns leaves; the first record if there is none. -/
def lastWritten (record : Option EncodedBlob) (turns : List Turn) : Option EncodedBlob :=
  (turns.filterMap written?).getLast?.getD record

variable {server : Server}

theorem lastWritten_cons (record : Option EncodedBlob) (turn : Turn) (turns : List Turn) :
    lastWritten record (turn :: turns) = lastWritten ((written? turn).getD record) turns := by
  rw [lastWritten, List.filterMap_cons]
  cases written? turn with
  | none => rfl
  | some left => rw [List.getLast?_cons, lastWritten, Option.getD_some, Option.getD_some]

theorem custom_afterAll (events : List Event) (server : Server) :
    (server.afterAll events).custom = lastWritten server.custom (turns events server) := by
  induction events generalizing server with
  | nil => rfl
  | cons event rest ih =>
    cases event with
    | inject fault => exact ih (server.inject fault)
    | call asked =>
      rw [turns, lastWritten_cons, ← (leaves_answer asked server).custom]
      exact ih (answer asked server).2

theorem calls_afterAll (events : List Event) (server : Server) :
    (server.afterAll events).calls = server.calls ++ callsAmong events := by
  induction events generalizing server with
  | nil => exact (List.append_nil _).symm
  | cons event rest ih =>
    cases event with
    | inject fault => exact ih (server.inject fault)
    | call asked =>
      refine (ih (answer asked server).2).trans ?_
      rw [(leaves_answer asked server).calls, List.append_assoc]
      rfl

theorem settings_afterAll (events : List Event) (server : Server) :
    (server.afterAll events).defaultVersion = server.defaultVersion ∧
      (server.afterAll events).emptyDefault = server.emptyDefault := by
  induction events generalizing server with
  | nil => exact ⟨rfl, rfl⟩
  | cons event rest ih =>
    cases event with
    | inject fault => exact ih (server.inject fault)
    | call asked =>
      have left := leaves_answer asked server
      rw [← left.defaultVersion, ← left.emptyDefault]
      exact ih (answer asked server).2

/-- The faults of a server tell which faults are active. -/
structure Shows (active : List Fault) (faults : Faults) : Prop where
  refusing : faults.refusedUploads = true ↔ .failUploads ∈ active
  healthy : faults = {} ↔ active = []

theorem Shows.after {active : List Fault} (shows : Shows active server.faults) (event : Event) :
    Shows (activate active event) (server.after event).faults := by
  cases event with
  | call asked =>
    rw [Server.after, faults_answer]
    exact shows
  | inject fault =>
    have refusing := shows.refusing
    cases fault with
    | heal => exact ⟨by simp [Server.after, inject, activate], by simp [Server.after, inject, activate]⟩
    | _ => constructor <;> simp [Server.after, inject, activate, refusing]

theorem shows_foldl {active : List Fault} (shows : Shows active server.faults) (events : List Event) :
    Shows (events.foldl activate active) (server.afterAll events).faults := by
  induction events generalizing server active with
  | nil => exact shows
  | cons event rest ih => exact ih (shows.after event)

/-- The active faults of a history are those of the server that it leaves. -/
theorem shows_afterAll (healthy : server.faults = {}) (events : List Event) :
    Shows (activeFaults events) (server.afterAll events).faults :=
  shows_foldl ⟨by simp [healthy], by simp [healthy]⟩ events

/-- An upload succeeds where uploads are not refused and the text decodes. -/
theorem upload_ok_iff {encoded : EncodedBlob} :
    (answer (.uploadRules encoded) server).1 = .ok () ↔
      server.faults.refusedUploads = false ∧ ∃ blob, encoded.decode = .ok blob := by
  cases refused : server.faults.refusedUploads with
  | true =>
    rw [answer_refused refused]
    simp
  | false =>
    cases decoded : encoded.decode with
    | error error =>
      rw [answer_malformed refused decoded]
      simp
    | ok blob =>
      rw [answer_accepted refused decoded]
      simp

theorem upload_refused {encoded : EncodedBlob} {refusal : RulesError}
    (refused : (answer (.uploadRules encoded) server).1 = .error refusal) :
    (answer (.uploadRules encoded) server).2 = server.note (.uploadRules encoded) ∧
      if server.faults.refusedUploads then refusal = uploadRefusal
      else encoded.decode = .error refusal := by
  cases closed : server.faults.refusedUploads with
  | true =>
    rw [answer_refused closed] at refused ⊢
    cases refused
    exact ⟨rfl, rfl⟩
  | false =>
    cases decoded : encoded.decode with
    | error error =>
      rw [answer_malformed closed decoded] at refused ⊢
      cases refused
      exact ⟨rfl, rfl⟩
    | ok blob =>
      rw [answer_accepted closed decoded] at refused
      cases refused

/-- After any history a server is the record that its accepted writes left: the last of them decides
what is stored, refused uploads are noted and nothing else, and while no fault is active the record is
what a caller sees. -/
theorem history_refines_record (defaultVersion : Version) (emptyDefault : Bool)
    (seed : Option EncodedBlob) (events : List Event) :
    let start : Server := { defaultVersion, emptyDefault, custom := seed }
    let server := start.afterAll events
    server.custom = lastWritten seed (turns events start) ∧
    server.calls = callsAmong events ∧
    -- An upload, accepted or refused.
    (∀ encoded, (answer (.uploadRules encoded) server).1 = .ok () ↔
      .failUploads ∉ activeFaults events ∧ ∃ blob, encoded.decode = .ok blob) ∧
    (∀ encoded refusal, (answer (.uploadRules encoded) server).1 = .error refusal →
      (answer (.uploadRules encoded) server).2 =
        { server with calls := server.calls ++ [.uploadRules encoded] } ∧
      if .failUploads ∈ activeFaults events
      then refusal = .server "upload_rules" 503 "rules storage offline"
      else encoded.decode = .error refusal ∧ ∃ cause, refusal = .malformedBlob cause) ∧
    -- A deletion, and the calls that only look at the record.
    (answer .deleteRules server).1 = .ok () ∧
    (answer .getStatus server).2.custom = server.custom ∧
    (answer .listRules server).2.custom = server.custom ∧
    -- What is seen of the record.
    (activeFaults events = [] →
      (answer .listRules server).1 = .ok
        (match server.custom with
        | some stored => stored
        | none => if emptyDefault then ⟨""⟩ else (Sample.builtinRules defaultVersion).encode) ∧
      (answer .getStatus server).1 = .ok
        { rulesVersion := Version.text
            (match server.custom with
            | some stored =>
              match stored.decode with
              | .ok blob => blob.version?.getD defaultVersion
              | .error _ => defaultVersion
            | none => defaultVersion)
          rulesSource := some (if server.custom.isSome then "database" else "default")
          result := some true }) := by
  intro start server
  have shows : Shows (activeFaults events) server.faults := shows_afterAll rfl events
  have accepting : server.faults.refusedUploads = false ↔ .failUploads ∉ activeFaults events := by
    rw [← shows.refusing, Bool.not_eq_true]
  refine ⟨custom_afterAll events start, calls_afterAll events start, fun encoded => ?_,
    fun encoded refusal refused => ?_, rfl, rfl, rfl, fun healed => ?_⟩
  · rw [upload_ok_iff, accepting]
  · obtain ⟨noted, reason⟩ := upload_refused refused
    refine ⟨noted, ?_⟩
    by_cases failing : .failUploads ∈ activeFaults events
    · rw [if_pos (shows.refusing.mpr failing)] at reason
      rw [if_pos failing]
      exact reason
    · rw [accepting.mpr failing] at reason
      rw [if_neg failing]
      exact ⟨reason, EncodedBlob.decode_eq_error reason⟩
  · have quiet : Quiet server := .of_healthy (shows.healthy.mpr healed)
    obtain ⟨version, empty⟩ := settings_afterAll events start
    rw [quiet.outcome_eq, quiet.outcome_eq]
    simp only [plainOutcome, plainListing, plainStatus, plainVersion]
    rw [show server.defaultVersion = defaultVersion from version,
      show server.emptyDefault = emptyDefault from empty]
    exact ⟨rfl, rfl⟩

/-- A server that refused an upload, was healed, took another one and lost it again lists the built-in
rules, and shows no trace of the refusal. -/
theorem healed_history_refines_record :
    let events : List Event := [.inject .failUploads, .call (.uploadRules ⟨"QUI="⟩), .inject .heal,
      .call (.uploadRules ⟨"QQ=="⟩), .inject .stickyVersion, .call .deleteRules, .inject .heal]
    activeFaults events = [] ∧
      (answer .listRules (afterAll {} events)).1 =
        .ok (Sample.builtinRules Sample.defaultVersion).encode := by
  intro events
  obtain ⟨stored, -, -, -, -, -, -, seen⟩ :=
    history_refines_record Sample.defaultVersion false none events
  have nothing : (afterAll {} events).custom = none := stored.trans (by decide)
  refine ⟨rfl, (seen rfl).1.trans ?_⟩
  rw [nothing]
  rfl

end EntitlementRules.Server
