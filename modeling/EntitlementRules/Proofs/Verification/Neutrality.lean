import EntitlementRules.Proofs.Server.Indistinguishable
import EntitlementRules.Proofs.Verification.Restoration

/-! Neutrality: what a verification run on a server without faults leaves for later callers. A run
rebuilds the record from what was listed, so it changes nothing where the listing tells the record. -/
namespace EntitlementRules.Verification

open Server (Alike Quiet Reachable answer answers)
open Session (World callsIn serverAfter turnsIn)

variable {σ : Type} {server : Server} {stored : EncodedBlob}

/-- A run that captured rules deletes first and puts them back last. -/
theorem callsIn_run {backend : Backend σ} {world : World σ} {captured : EncodedBlob} (pause : Nat)
    (lists : (backend .listRules world.server).1 = .ok captured) :
    ∃ later, callsIn backend (run pause) world =
      .listRules :: .deleteRules :: later ++ [restoringCall captured] := by
  have judged := run_judged backend pause world
  have answered := Session.answered_turnsIn backend (run pause) world
  rw [callsIn]
  generalize turnsIn backend (run pause) world = turns at judged answered ⊢
  generalize ((run pause).runIn backend world).1 = result at judged
  cases judged with
  | uncaptured => cases answered.1.trans lists
  | captured examined _ =>
    cases answered.1.trans lists
    obtain ⟨later, deletes⟩ := examined.deletes_first
    refine ⟨later, ?_⟩
    rw [List.map_append, List.map_cons, deletes, List.map_singleton, call_restoringTurn]

theorem serverAfter_eq_afterAll (calls : List Call) (server : Server) :
    serverAfter answer calls server = server.afterAll (calls.map .call) := by
  rw [Server.afterAll, List.foldl_map]
  rfl

/-- The record that is made of what a server lists: none where that is blank. -/
def rebuilt (server : Server) : Option EncodedBlob :=
  if server.plainListing.isEmpty then none else some server.plainListing

/-- A run leaves a server without faults as it was, but for a record that is made of its listing. -/
theorem alike_runIn (world : World Server) (reachable : Reachable world.server)
    (healthy : world.server.faults = {}) (pause : Nat) :
    let left := ((run pause).runIn answer world).2.server
    left.faults = {} ∧ Alike left { world.server with custom := rebuilt world.server } := by
  intro left
  have lists : (answer .listRules world.server).1 = .ok world.server.plainListing :=
    (Quiet.of_healthy healthy).listing_eq
  obtain ⟨blob, decoded⟩ := reachable.sound.listing_decodes lists
  obtain ⟨later, calls⟩ := callsIn_run pause lists
  have ran : left = serverAfter answer
      (.listRules :: .deleteRules :: later ++ [restoringCall world.server.plainListing])
      world.server := by
    rw [← calls]
    exact Session.server_runIn answer (run pause) world
  have settings := Server.settings_afterAll
    ((callsIn answer (run pause) world).map .call) world.server
  rw [← serverAfter_eq_afterAll, calls, ← ran] at settings
  have sound (calls : List Call) : (serverAfter answer calls world.server).faults = {} :=
    (Server.faults_serverAfter calls world.server).trans healthy
  have accepting : (serverAfter answer (.listRules :: .deleteRules :: later)
      world.server).faults.refusedUploads = false := by
    rw [sound]
  refine ⟨ran ▸ sound _, settings.1, settings.2, ?_⟩
  have restored := custom_restored decoded
    (fun refused => nomatch accepting.symm.trans refused)
  rw [ran, Session.serverAfter_append]
  refine restored.trans ?_
  rw [accepting, Bool.or_false]
  rfl

/-- Built-in rules are never blank. -/
theorem isEmpty_builtinRules (version : Version) :
    (Sample.builtinRules version).encode.isEmpty = false := by
  refine Bool.eq_false_iff.mpr fun blank => ?_
  have nothing := (EncodedBlob.isEmpty_iff_of_decode (Blob.decode_encode _)).mp blank
  have marked := Blob.version?_withVersion version "var builtin = true;\n"
  have empty : Sample.builtinRules version = ⟨[]⟩ := congrArg Blob.mk nothing
  rw [← Sample.builtinRules, empty, Blob.version?_nil] at marked
  cases marked

/-- The listing of a server tells its record: custom rules that are not blank, or no rules where nothing
is listed. -/
def Telling (server : Server) : Prop :=
  match server.custom with
  | some stored => stored.isEmpty = false
  | none => server.emptyDefault = true

theorem rebuilt_telling (telling : Telling server) : rebuilt server = server.custom := by
  unfold Telling at telling
  unfold rebuilt Server.plainListing
  cases custom : server.custom with
  | some stored =>
    simp only [custom] at telling
    rw [telling]
    rfl
  | none =>
    simp only [custom] at telling
    rw [telling]
    rfl

/-- Where no rules are stored and the built-in ones are listed, these are taken for custom rules. -/
theorem rebuilt_builtin (bare : server.custom = none) (builtin : server.emptyDefault = false) :
    rebuilt server = some (Sample.builtinRules server.defaultVersion).encode := by
  have lists : server.plainListing = (Sample.builtinRules server.defaultVersion).encode := by
    simp [Server.plainListing, bare, builtin]
  rw [rebuilt, lists, isEmpty_builtinRules]
  rfl

/-- Blank custom rules are taken for none. -/
theorem rebuilt_blank (custom : server.custom = some stored) (blank : stored.isEmpty = true) :
    rebuilt server = none := by
  have lists : server.plainListing = stored := by simp [Server.plainListing, custom]
  rw [rebuilt, lists, blank]
  rfl

theorem plainVersion_builtin (server : Server) :
    Server.plainVersion
      { server with custom := some (Sample.builtinRules server.defaultVersion).encode } =
      server.defaultVersion := by
  have marked := Blob.version?_withVersion server.defaultVersion "var builtin = true;\n"
  rw [← Sample.builtinRules] at marked
  simp only [Server.plainVersion, Blob.decode_encode, marked, Option.getD_some]

theorem plainVersion_blank (custom : server.custom = some stored) {blob : Blob}
    (decoded : stored.decode = .ok blob) (blank : stored.isEmpty = true) :
    server.plainVersion = server.defaultVersion := by
  have nothing := (EncodedBlob.isEmpty_iff_of_decode decoded).mp blank
  have empty : blob = ⟨[]⟩ := congrArg Blob.mk nothing
  simp only [Server.plainVersion, custom, decoded, empty, Blob.version?_nil, Option.getD_none]

/-- A run without faults leaves nothing for a caller to see where the listing tells the record. Elsewhere
it leaves the version alone and makes the record out of the listing: listed built-in rules become custom
rules with the same text, and blank custom rules are dropped. -/
theorem run_leaves_listed_record (world : World Server) (reachable : Reachable world.server)
    (healthy : world.server.faults = {}) (pause : Nat) :
    let server := world.server
    let left := ((run pause).runIn answer world).2.server
    -- The record stays, and so does every later answer.
    (Telling server → left.custom = server.custom ∧
      ∀ calls, answers calls left = answers calls server) ∧
    -- An empty record whose built-in rules are listed.
    (server.custom = none → server.emptyDefault = false →
      left.custom = some (Sample.builtinRules server.defaultVersion).encode ∧
      (answer .listRules left).1 = (answer .listRules server).1 ∧
      (answer .getStatus left).1 = .ok { server.status with rulesSource := some "database" }) ∧
    -- A custom record with a blank text.
    (∀ stored, server.custom = some stored → stored.isEmpty = true →
      left.custom = none ∧
      (answer .listRules left).1 = .ok
        (if server.emptyDefault then ⟨""⟩
        else (Sample.builtinRules server.defaultVersion).encode) ∧
      (answer .getStatus left).1 = .ok { server.status with rulesSource := some "default" }) := by
  intro server left
  obtain ⟨sound, alike⟩ := alike_runIn world reachable healthy pause
  have quiet : Quiet server := .of_healthy healthy
  have silent : Quiet left := .of_healthy sound
  refine ⟨fun telling => ?_, fun bare builtin => ?_, fun stored custom blank => ?_⟩
  · have same : left.custom = server.custom := alike.custom.trans (rebuilt_telling telling)
    have twins : Alike left server := ⟨alike.defaultVersion, alike.emptyDefault, same⟩
    exact ⟨same, twins.answers_eq sound healthy⟩
  · have record := rebuilt_builtin bare builtin
    have version : server.plainVersion = server.defaultVersion := by
      simp only [Server.plainVersion, server, bare]
    rw [quiet.status_eq, quiet.outcome_eq, silent.outcome_eq, silent.outcome_eq,
      alike.plainOutcome_eq, alike.plainOutcome_eq, record]
    refine ⟨alike.custom.trans record, ?_, ?_⟩
    · simp only [Server.plainOutcome, Server.plainListing, server, bare, builtin, Bool.false_eq_true,
        ↓reduceIte]
    · rw [Server.plainOutcome, Server.plainStatus, Server.plainStatus, plainVersion_builtin, version]
      rfl
  · have record := rebuilt_blank custom blank
    obtain ⟨blob, decoded⟩ := reachable.sound.decodes custom
    rw [quiet.status_eq, silent.outcome_eq, silent.outcome_eq, alike.plainOutcome_eq,
      alike.plainOutcome_eq, record]
    refine ⟨alike.custom.trans record, rfl, ?_⟩
    rw [Server.plainOutcome, Server.plainStatus, Server.plainStatus,
      plainVersion_blank custom decoded blank]
    rfl

/-- Custom rules that are wrapped are put back with their blanks. -/
theorem run_leaves_wrapped_record :
    let server : Server := { custom := some ⟨"QQ=\n=\n"⟩ }
    Reachable server ∧ server.faults = {} ∧ Telling server ∧
      ((run 0).runIn answer ⟨server, ⟨"", []⟩, []⟩).2.server.custom = some ⟨"QQ=\n=\n"⟩ := by
  intro server
  have decoded : EncodedBlob.decode ⟨"QQ=\n=\n"⟩ = .ok ⟨[65]⟩ := by decide
  have reachable : Reachable server := .seeded Sample.defaultVersion false decoded
  have telling : Telling server := (by decide : EncodedBlob.isEmpty ⟨"QQ=\n=\n"⟩ = false)
  obtain ⟨kept, -⟩ := (run_leaves_listed_record ⟨server, ⟨"", []⟩, []⟩ reachable rfl 0).1 telling
  exact ⟨reachable, rfl, telling, kept⟩

/-- A run on a server without custom rules leaves the listed built-in rules as custom ones. -/
theorem run_fills_empty_record :
    Reachable {} ∧ ({} : Server).faults = {} ∧
      ({} : Server).custom = none ∧ ({} : Server).status.rulesSource = some "default" ∧
      ((run 0).runIn answer ⟨{}, ⟨"", []⟩, []⟩).2.server.custom ≠ none ∧
      ((run 0).runIn answer ⟨{}, ⟨"", []⟩, []⟩).2.server.status.rulesSource = some "database" := by
  have reachable : Reachable {} := .start Sample.defaultVersion false
  obtain ⟨-, alike⟩ := alike_runIn ⟨{}, ⟨"", []⟩, []⟩ reachable rfl 0
  have listed : rebuilt {} = some (Sample.builtinRules Sample.defaultVersion).encode :=
    rebuilt_builtin rfl rfl
  have filled := alike.custom.trans listed
  refine ⟨reachable, rfl, rfl, rfl, by rw [filled]; exact nofun, ?_⟩
  rw [Server.status, filled]
  rfl

end EntitlementRules.Verification
