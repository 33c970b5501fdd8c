import EntitlementRules.Proofs.Server.History

/-! Indistinguishable servers: no caller sees faults that are not armed, and once a server is healed no
caller sees what happened to it before. -/
namespace EntitlementRules.Server

open Session (Turn)

variable {server first second : Server}

/-- What some calls bring, one after the other. -/
def answers (calls : List Call) (server : Server) : List Turn := turns (calls.map .call) server

theorem answers_cons (asked : Call) (rest : List Call) (server : Server) :
    answers (asked :: rest) server =
      ⟨asked, (answer asked server).1⟩ :: answers rest (answer asked server).2 := rfl

theorem Alike.outcome_eq (alike : Alike first second) (quiet : Quiet first) (silent : Quiet second)
    (asked : Call) : (answer asked first).1 = (answer asked second).1 := by
  rw [quiet.outcome_eq, silent.outcome_eq, alike.plainOutcome_eq]

theorem Alike.answer {asked : Call} (alike : Alike first second)
    (same : (answer asked first).1 = (answer asked second).1) :
    Alike (answer asked first).2 (answer asked second).2 := by
  have leaves := leaves_answer asked first
  have alsoLeaves := leaves_answer asked second
  refine ⟨?_, ?_, ?_⟩
  · rw [leaves.defaultVersion, alsoLeaves.defaultVersion, alike.defaultVersion]
  · rw [leaves.emptyDefault, alsoLeaves.emptyDefault, alike.emptyDefault]
  · rw [leaves.custom, alsoLeaves.custom, same, alike.custom]

/-- A server stays quiet until an upload is accepted, and beyond that if it has no faults. -/
theorem Quiet.answer {asked : Call} (quiet : Quiet server)
    (unarmed : server.faults = {} ∨ storing ⟨asked, (answer asked server).1⟩ = false) :
    Quiet (answer asked server).2 := by
  have leaves := leaves_answer asked server
  constructor
  · rw [leaves.faults]
    exact quiet.accepting
  · rw [leaves.faults]
    rcases quiet.hidden with healthy | ⟨unused, forgetful⟩
    · exact .inl healthy
    · rcases unarmed with healthy | refused
      · exact .inl healthy
      · obtain ⟨uploads, lastUpload⟩ := leaves.unarmed refused
        exact .inr ⟨uploads.trans unused, lastUpload.trans forgetful⟩

/-- Servers without faults that are alike are never told apart. -/
theorem Alike.answers_eq (alike : Alike first second) (healthy : first.faults = {})
    (sound : second.faults = {}) (calls : List Call) : answers calls first = answers calls second := by
  induction calls generalizing first second with
  | nil => rfl
  | cons asked rest ih =>
    have same := alike.outcome_eq (.of_healthy healthy) (.of_healthy sound) asked
    rw [answers_cons, answers_cons, same, ih (alike.answer same)]
    · rw [(leaves_answer asked first).faults, healthy]
    · rw [(leaves_answer asked second).faults, sound]

/-- Quiet servers that are alike are not told apart before the first accepted upload, and not by that
upload either. -/
theorem Alike.answers_until_armed (alike : Alike first second) (quiet : Quiet first)
    (silent : Quiet second) {before : List Call} (asked : Call)
    (unarmed : ∀ turn ∈ answers before first, storing turn = false) :
    answers (before ++ [asked]) first = answers (before ++ [asked]) second := by
  induction before generalizing first second with
  | nil =>
    rw [List.nil_append, answers_cons, answers_cons, alike.outcome_eq quiet silent]
    rfl
  | cons earlier rest ih =>
    have same := alike.outcome_eq quiet silent earlier
    rw [answers_cons, List.forall_mem_cons] at unarmed
    obtain ⟨refused, later⟩ := unarmed
    rw [List.cons_append, answers_cons, answers_cons, same,
      ih (alike.answer same) (quiet.answer (.inr refused)) (silent.answer (.inr (same ▸ refused)))
        later]

/-- A server that has accepted no upload is not armed and remembers none. -/
theorem unarmed_afterAll {events : List Event}
    (unused : ∀ turn ∈ turns events server, storing turn = false) :
    (server.afterAll events).uploads = server.uploads ∧
      (server.afterAll events).lastUpload = server.lastUpload := by
  induction events generalizing server with
  | nil => exact ⟨rfl, rfl⟩
  | cons event rest ih =>
    cases event with
    | inject fault => exact @ih (server.inject fault) unused
    | call asked =>
      rw [turns, List.forall_mem_cons] at unused
      obtain ⟨uploads, lastUpload⟩ := (leaves_answer asked server).unarmed unused.1
      rw [← uploads, ← lastUpload]
      exact ih unused.2

/-- Two runs that no caller tells apart. Before the first accepted upload faults show nothing, unless
they refuse uploads; and a healed server is like a new one with the same settings and the same record. -/
theorem faults_hidden_until_armed_and_after_healing (defaultVersion : Version) (emptyDefault : Bool)
    (seed : Option EncodedBlob) (events : List Event) :
    let start : Server := { defaultVersion, emptyDefault, custom := seed }
    let server := start.afterAll events
    ((∀ turn ∈ turns events start, storing turn = false) → .failUploads ∉ activeFaults events →
      ∀ before asked, (∀ turn ∈ answers before server, storing turn = false) →
        answers (before ++ [asked]) server =
          answers (before ++ [asked]) { server with faults := {} }) ∧
    (∀ calls, answers calls (server.inject .heal) =
      answers calls { defaultVersion, emptyDefault, custom := server.custom }) := by
  intro start server
  constructor
  · intro unused allowed before asked unarmed
    have shows : Shows (activeFaults events) server.faults := shows_afterAll rfl events
    have quiet : Quiet server :=
      ⟨Bool.eq_false_iff.mpr fun refused => allowed (shows.refusing.mp refused),
        .inr (unarmed_afterAll unused)⟩
    have alike : Alike server { server with faults := {} } := ⟨rfl, rfl, rfl⟩
    exact alike.answers_until_armed quiet (.of_healthy rfl) asked unarmed
  · intro calls
    obtain ⟨version, empty⟩ := settings_afterAll events start
    have alike : Alike (server.inject .heal)
        { defaultVersion, emptyDefault, custom := server.custom } := ⟨version, empty, rfl⟩
    exact alike.answers_eq rfl rfl calls

/-- A wrong version, altered rules and a version that stays are not seen by any of these calls, of which
the last one is the first upload to be accepted. -/
theorem armed_faults_hidden_until_upload :
    let server := afterAll {} [.inject (.misreportVersion "9.9"), .inject .alterListing,
      .inject .stickyVersion]
    let before : List Call := [.getStatus, .listRules, .uploadRules ⟨"%%%"⟩, .deleteRules, .getStatus]
    (∀ turn ∈ answers before server, storing turn = false) ∧
      answers (before ++ [.uploadRules ⟨"QQ=="⟩]) server =
        answers (before ++ [.uploadRules ⟨"QQ=="⟩]) { server with faults := {} } := by
  intro server before
  have refused : ∀ turn ∈ answers before server, storing turn = false := by decide
  exact ⟨refused, (faults_hidden_until_armed_and_after_healing Sample.defaultVersion false none
    [.inject (.misreportVersion "9.9"), .inject .alterListing, .inject .stickyVersion]).1
    (by decide) (by decide) before (.uploadRules ⟨"QQ=="⟩) refused⟩

end EntitlementRules.Server
