import EntitlementRules.Proofs.Server.InMemory

/-! Quiet servers: while the faults of a server do not show, what it answers depends on its settings and
its record alone. -/
namespace EntitlementRules.Server

variable {server first second : Server}

/-- The rules that are listed without faults: the stored text as it is, else the built-in rules or
nothing. -/
def plainListing (server : Server) : EncodedBlob :=
  match server.custom with
  | some stored => stored
  | none =>
    if server.emptyDefault then ⟨""⟩ else (Sample.builtinRules server.defaultVersion).encode

/-- The version that is shown without faults: the one marked in the stored rules, where there are such
rules and such a mark. -/
def plainVersion (server : Server) : Version :=
  match server.custom with
  | some stored =>
    match stored.decode with
    | .ok blob => blob.version?.getD server.defaultVersion
    | .error _ => server.defaultVersion
  | none => server.defaultVersion

def plainStatus (server : Server) : Status where
  rulesVersion := server.plainVersion.text
  rulesSource := some (if server.custom.isSome then "database" else "default")
  result := some true

/-- What a call brings where no fault shows. -/
def plainOutcome (server : Server) : (asked : Call) → asked.Outcome
  | .getStatus => .ok server.plainStatus
  | .listRules => .ok server.plainListing
  | .uploadRules encoded => encoded.decode.map fun _ => ()
  | .deleteRules => .ok ()

/-- No fault shows: uploads are not refused, and the other faults are absent or not armed. -/
structure Quiet (server : Server) : Prop where
  accepting : server.faults.refusedUploads = false
  hidden : server.faults = {} ∨ server.uploads = 0 ∧ server.lastUpload = none

theorem Quiet.of_healthy (healthy : server.faults = {}) : Quiet server :=
  ⟨by rw [healthy], .inl healthy⟩

theorem versionOf_custom (server : Server) : server.versionOf server.custom = server.plainVersion := by
  unfold versionOf plainVersion
  cases server.custom with
  | none => rfl
  | some stored =>
    simp only [Option.bind_some]
    cases stored.decode <;> rfl

theorem Quiet.status_eq (quiet : Quiet server) : server.status = server.plainStatus := by
  have shown : server.shownVersion = server.plainVersion.text := by
    rw [← versionOf_custom]
    rcases quiet.hidden with healthy | ⟨unarmed, forgetful⟩
    · simp [shownVersion, reported, healthy]
    · have reports : server.reported = server.custom := by simp [reported, forgetful]
      rw [shownVersion_unarmed unarmed, reports]
  rw [status, shown]
  rfl

theorem Quiet.listing_eq (quiet : Quiet server) : server.listing = .ok server.plainListing := by
  have silent (fault : ListingFault) :
      (decide (server.faults.listing = some fault) && server.armed) = false := by
    rcases quiet.hidden with healthy | ⟨unarmed, -⟩
    · simp [healthy]
    · simp [armed, unarmed]
  unfold listing plainListing
  simp only [silent, Bool.false_eq_true, ↓reduceIte]
  cases server.custom with
  | some stored => rfl
  | none => cases server.emptyDefault <;> simp

theorem Quiet.outcome_eq (quiet : Quiet server) (asked : Call) :
    (answer asked server).1 = server.plainOutcome asked := by
  cases asked with
  | getStatus => exact congrArg Except.ok quiet.status_eq
  | listRules => exact quiet.listing_eq
  | deleteRules => rfl
  | uploadRules encoded =>
    rw [plainOutcome]
    cases decoded : encoded.decode with
    | error error => rw [answer_malformed quiet.accepting decoded]; rfl
    | ok blob => rw [answer_accepted quiet.accepting decoded]; rfl

/-- Servers with the same settings and the same record. -/
structure Alike (first second : Server) : Prop where
  defaultVersion : first.defaultVersion = second.defaultVersion
  emptyDefault : first.emptyDefault = second.emptyDefault
  custom : first.custom = second.custom

theorem Alike.plainOutcome_eq (alike : Alike first second) (asked : Call) :
    first.plainOutcome asked = second.plainOutcome asked := by
  have listings : first.plainListing = second.plainListing := by
    rw [plainListing, plainListing, alike.custom, alike.emptyDefault, alike.defaultVersion]
  have statuses : first.plainStatus = second.plainStatus := by
    rw [plainStatus, plainStatus, plainVersion, plainVersion, alike.custom, alike.defaultVersion]
  cases asked with
  | getStatus => exact congrArg Except.ok statuses
  | listRules => exact congrArg Except.ok listings
  | uploadRules encoded => rfl
  | deleteRules => rfl

end EntitlementRules.Server
