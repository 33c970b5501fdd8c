import EntitlementRules.Proofs.Server.InMemory
import EntitlementRules.Proofs.Verification.Course

/-! Detection: which fault of a server in memory a verification run reports. -/
namespace EntitlementRules.Verification

open Server (Reachable)
open Session (Answered Turn World turnsIn)

variable {σ : Type}

/-- The first objection where a backend answers what is required, one after the other. -/
def examine (backend : Backend σ) : List Requirement → σ → Option VerificationError
  | [], _ => none
  | requirement :: rest, server =>
    (requirement.objection? (backend requirement.call server).1).or
      (examine backend rest (backend requirement.call server).2)

theorem examine_met {backend : Backend σ} {requirement : Requirement} {rest : List Requirement}
    {server next : σ} {outcome : requirement.call.Outcome}
    (answered : backend requirement.call server = (outcome, next))
    (accepted : requirement.objection? outcome = none) :
    examine backend (requirement :: rest) server = examine backend rest next := by
  rw [examine, answered, accepted, Option.none_or]

theorem examine_objected {backend : Backend σ} {requirement : Requirement} {rest : List Requirement}
    {server next : σ} {outcome : requirement.call.Outcome} {error : VerificationError}
    (answered : backend requirement.call server = (outcome, next))
    (refused : requirement.objection? outcome = some error) :
    examine backend (requirement :: rest) server = some error := by
  rw [examine, answered, refused, Option.some_or]

theorem Examined.eq_examine {backend : Backend σ} {requirements : List Requirement}
    {turns : List Turn} {objection : Option VerificationError} {server : σ}
    (examined : Examined requirements turns objection) (answered : Answered backend server turns) :
    objection = examine backend requirements server := by
  induction examined generalizing server with
  | nil => rfl
  | met accepted _ ih =>
    obtain ⟨same, later⟩ := answered
    rw [examine, ← same, accepted, Option.none_or]
    exact ih later
  | objected refused =>
    obtain ⟨same, _⟩ := answered
    rw [examine, ← same, refused, Option.some_or]

/-- A requirement that was examined had its turn, which brought the backend's answer. -/
theorem Examined.first_turn {backend : Backend σ} {requirement : Requirement}
    {later : List Requirement} {turns : List Turn} {objection : Option VerificationError}
    {state next : σ} {outcome : requirement.call.Outcome}
    (examined : Examined (requirement :: later) turns objection)
    (answered : Answered backend state turns)
    (asked : backend requirement.call state = (outcome, next)) :
    ∃ rest, turns = ⟨requirement.call, outcome⟩ :: rest ∧
      (requirement.objection? outcome = none →
        Examined later rest objection ∧ Answered backend next rest) := by
  cases examined with
  | met _ continued =>
    obtain ⟨same, following⟩ := answered
    rw [asked] at same following
    cases same
    exact ⟨_, rfl, fun _ => ⟨continued, following⟩⟩
  | objected refused =>
    obtain ⟨same, -⟩ := answered
    rw [asked] at same
    cases same
    exact ⟨_, rfl, fun accepted => nomatch refused.symm.trans accepted⟩

/-- The error for a version without room for a synthetic one above it. -/
def noRoom (version : Version) : VerificationError :=
  .check .syntheticVersionOrdering (RulesError.invalidVersion s!"{version.text}+10000").message

def uploadRefused : VerificationError := .call "upload_rules" Server.uploadRefusal

def listingFailed : VerificationError :=
  .call "list_rules" (.server "list_rules" 500 "rules listing unavailable")

/-- The error for listed rules of another size than the uploaded ones. -/
def rulesDiffer (listed uploaded : Nat) : VerificationError :=
  .check .uploadRoundtrip
    s!"listed rules ({listed} bytes) differ from the uploaded rules ({uploaded} bytes)"

/-- The error for a shown version other than the expected one. -/
def versionDiffers (check : Check) (expected shown : String) : VerificationError :=
  .check check s!"server reports rules version '{shown}', expected '{expected}'"

/-- What synthetic rules bring to light on a faulty server: the first that applies. -/
def faultFound? (faults : Faults) (baseline synthetic : Version) : Option VerificationError :=
  let size := (syntheticRules synthetic).bytes.length
  if faults.refusedUploads then some uploadRefused
  else if faults.listing = some .fail then some listingFailed
  else if faults.listing = some .alter then
    some (rulesDiffer (size + Server.alteration.length) size)
  else
    match faults.misreportedVersion with
    | some text =>
      if text = synthetic.text then some (versionDiffers .deleteRevertsVersion baseline.text text)
      else some (versionDiffers .uploadVersion synthetic.text text)
    | none =>
      if faults.stickyVersion then
        some (versionDiffers .deleteRevertsVersion baseline.text synthetic.text)
      else none

/-- What a run objects to on a server that has accepted no upload yet: a version without room first,
then what synthetic rules bring to light. -/
def firstObjection? (server : Server) : Option VerificationError :=
  let baseline := server.defaultVersion
  if baseline.minor.toNat + 10000 < UInt32.size then
    faultFound? server.faults baseline ⟨baseline.major, baseline.minor + 10000⟩
  else some (noRoom baseline)

variable {server : Server} {baseline : String} {version : Version} {blob : Blob}

/-- A stored blob is listed, unless the listing of an armed server is faulty. -/
theorem objection_listing (armed : server.uploads ≠ 0) (stored : server.custom = some blob.encode) :
    (listsRules blob).objection? server.listing =
      match server.faults.listing with
      | none => none
      | some .fail => some listingFailed
      | some .alter =>
        some (rulesDiffer (blob.bytes.length + Server.alteration.length) blob.bytes.length) := by
  have arms : server.armed = true := decide_eq_true (Nat.pos_of_ne_zero armed)
  unfold Server.listing
  rw [stored, arms]
  cases faulty : server.faults.listing with
  | none => simp [listsRules, Blob.decode_encode]
  | some fault =>
    cases fault with
    | fail => rfl
    | alter =>
      have differs : Blob.mk (blob.bytes ++ Server.alteration) ≠ blob := by
        intro same
        have lengths := congrArg (fun blob => blob.bytes.length) same
        have added : 0 < Server.alteration.length := by decide
        simp only [List.length_append] at lengths
        omega
      simp [listsRules, rulesDiffer, Blob.decode_encode, Except.map, differs]

theorem objection_status {check : Check} :
    (reportsVersion check baseline).objection? (.ok server.status) =
      if server.shownVersion = baseline then none
      else some (versionDiffers check baseline server.shownVersion) := rfl

/-- A second deletion shows nothing that the first one does not. -/
theorem examine_reverting :
    examine Server.answer [succeeds .deleteRules, reportsVersion .deleteRevertsVersion baseline,
        deletesAgain, reportsVersion .deleteIdempotent baseline] server =
      (reportsVersion .deleteRevertsVersion baseline).objection?
        (.ok server.cleared.status) := by
  change ((reportsVersion .deleteRevertsVersion baseline).objection?
    (.ok server.cleared.status)).or
      (((reportsVersion .deleteIdempotent baseline).objection?
        (.ok server.cleared.status)).or none) = _
  rw [objection_status, objection_status]
  split <;> rfl

/-- After the upload a faulty listing shows first, then a faulty version, and last a version that
stays. -/
theorem examine_stored (server : Server) (allowed : server.faults.refusedUploads = false)
    (armed : server.uploads ≠ 0) (stored : server.custom = some (syntheticRules version).encode)
    (remembered : server.lastUpload = some (syntheticRules version).encode)
    (different : version.text ≠ server.defaultVersion.text) :
    examine Server.answer (trial server.defaultVersion.text version).tail server =
      faultFound? server.faults server.defaultVersion version := by
  have marked : server.versionOf (some (syntheticRules version).encode) = version :=
    Server.versionOf_withVersion
  have listed := objection_listing armed stored
  have shown : (server.note .listRules).shownVersion =
      server.faults.misreportedVersion.getD version.text := by
    rw [← marked]
    exact Server.shownVersion_stored armed stored
  have reverted : ((server.note .listRules).note .getStatus).cleared.shownVersion =
      server.faults.misreportedVersion.getD
        (if server.faults.stickyVersion then version.text else server.defaultVersion.text) := by
    refine (Server.shownVersion_cleared armed).trans ?_
    rw [remembered]
    cases server.faults.stickyVersion with
    | true => rw [if_pos rfl, if_pos rfl, marked]
    | false => rfl
  -- What the server answers to each requirement in turn, with its later states written out.
  change ((listsRules (syntheticRules version)).objection? server.listing).or
    (((reportsVersion .uploadVersion version.text).objection?
        (.ok (server.note .listRules).status)).or
      (examine Server.answer [succeeds .deleteRules,
        reportsVersion .deleteRevertsVersion server.defaultVersion.text, deletesAgain,
        reportsVersion .deleteIdempotent server.defaultVersion.text]
        ((server.note .listRules).note .getStatus))) = _
  rw [listed, objection_status, shown, examine_reverting, objection_status, reverted, faultFound?,
    allowed]
  cases faulty : server.faults.listing with
  | some fault => cases fault <;> rfl
  | none =>
    cases told : server.faults.misreportedVersion with
    | some text =>
      by_cases same : text = version.text
      · subst same
        simp [different]
      · simp [same]
    | none =>
      cases sticky : server.faults.stickyVersion with
      | true => simp [different]
      | false => simp

theorem examine_trial (server : Server) (different : version.text ≠ server.defaultVersion.text) :
    examine Server.answer (trial server.defaultVersion.text version) server =
      faultFound? server.faults server.defaultVersion version := by
  cases refused : server.faults.refusedUploads with
  | true =>
    change ((succeeds (.uploadRules (syntheticRules version).encode)).objection?
      (Server.answer (.uploadRules (syntheticRules version).encode) server).1).or _ = _
    rw [Server.answer_refused refused, faultFound?, refused]
    rfl
  | false =>
    have accepted := Server.answer_accepted refused (Blob.decode_encode (syntheticRules version))
    change ((succeeds (.uploadRules (syntheticRules version).encode)).objection?
      (Server.answer (.uploadRules (syntheticRules version).encode) server).1).or
        (examine Server.answer (trial server.defaultVersion.text version).tail
          (Server.answer (.uploadRules (syntheticRules version).encode) server).2) = _
    rw [accepted]
    exact examine_stored (server.holding _) refused (Nat.succ_ne_zero _) rfl rfl different

theorem objection_baseline {status : Status} (shown : status.rulesVersion = version.text) :
    reportsBaseline.objection? (.ok status) =
      if version.minor.toNat + 10000 < UInt32.size then none else some (noRoom version) := by
  have parsed : status.parsedVersion = .ok version := by
    rw [Status.parsedVersion, shown, Version.parse_text]
  have succeeds := version.successor_eq
  by_cases fits : version.minor.toNat + 10000 < UInt32.size
  · rw [if_pos fits] at succeeds ⊢
    simp only [reportsBaseline, baselineObjection?, parsed, succeeds]
  · rw [if_neg fits] at succeeds ⊢
    simp only [reportsBaseline, baselineObjection?, parsed, succeeds, noRoom]

theorem examine_opening {later : List Requirement} (unarmed : server.uploads = 0)
    (forgetful : server.lastUpload = none) :
    examine Server.answer (opening ++ later) server =
      if server.defaultVersion.minor.toNat + 10000 < UInt32.size then
        examine Server.answer later (server.cleared.note .getStatus)
      else some (noRoom server.defaultVersion) := by
  have shown : server.cleared.status.rulesVersion = server.defaultVersion.text :=
    Server.shownVersion_bare unarmed forgetful
  have judged := objection_baseline shown
  have deleted : examine Server.answer (opening ++ later) server =
      examine Server.answer (reportsBaseline :: later) server.cleared :=
    examine_met (Server.answer_deleteRules server) rfl
  rw [deleted]
  by_cases fits : server.defaultVersion.minor.toNat + 10000 < UInt32.size
  · rw [if_pos fits] at judged ⊢
    exact examine_met (Server.answer_getStatus server.cleared) judged
  · rw [if_neg fits] at judged ⊢
    exact examine_objected (Server.answer_getStatus server.cleared) judged

/-- The turns of a run announce the version above the built-in one. -/
theorem versions?_answered {changes : List Turn} {objection : Option VerificationError}
    {later : List Requirement} (examined : Examined (opening ++ later) changes objection)
    (answered : Answered Server.answer server changes) (unarmed : server.uploads = 0)
    (forgetful : server.lastUpload = none)
    (above : server.defaultVersion.successor = .ok version) :
    versions? changes = some (server.defaultVersion.text, version) := by
  have shown : server.cleared.status.rulesVersion = server.defaultVersion.text :=
    Server.shownVersion_bare unarmed forgetful
  obtain ⟨_, rfl, continued⟩ := examined.first_turn answered (Server.answer_deleteRules server)
  obtain ⟨reporting, following⟩ := continued rfl
  obtain ⟨rest, rfl, -⟩ := reporting.first_turn following (Server.answer_getStatus server.cleared)
  have parsed : server.cleared.status.parsedVersion = .ok server.defaultVersion := by
    rw [Status.parsedVersion, shown, Version.parse_text]
  rw [← shown]
  exact versions?_opening parsed above rest

/-- What a run objects to, as the server answers it after the capture. -/
theorem Examined.eq_firstObjection? {changes : List Turn} {objection : Option VerificationError}
    (examined : Examined (requirements changes) changes objection)
    (answered : Answered Server.answer server changes) (unarmed : server.uploads = 0)
    (forgetful : server.lastUpload = none) : objection = firstObjection? server := by
  rw [examined.eq_examine answered, requirements, examine_opening unarmed forgetful, firstObjection?]
  by_cases fits : server.defaultVersion.minor.toNat + 10000 < UInt32.size
  · have above := Version.successor_eq_ok_iff.mpr ⟨fits, rfl⟩
    rw [if_pos fits, if_pos fits, trialFor,
      versions?_answered examined answered unarmed forgetful above]
    exact examine_trial (server.cleared.note .getStatus) (Version.text_successor_ne above)
  · rw [if_neg fits, if_neg fits]

theorem faultFound?_eq_none_iff {faults : Faults} {baseline synthetic : Version} :
    faultFound? faults baseline synthetic = none ↔ faults = {} := by
  constructor
  · obtain ⟨misreported, listing, sticky, refused⟩ := faults
    unfold faultFound?
    cases refused with
    | true => exact nofun
    | false =>
      cases listing with
      | some fault => cases fault <;> exact nofun
      | none =>
        cases misreported with
        | some text =>
          intro silent
          by_cases same : text = synthetic.text <;> simp [same] at silent
        | none =>
          cases sticky with
          | true => exact nofun
          | false => exact fun _ => rfl
  · rintro rfl
    rfl

theorem firstObjection?_eq_none_iff :
    firstObjection? server = none ↔
      server.faults = {} ∧ server.defaultVersion.minor.toNat + 10000 < UInt32.size := by
  rw [firstObjection?]
  by_cases fits : server.defaultVersion.minor.toNat + 10000 < UInt32.size
  · rw [if_pos fits, faultFound?_eq_none_iff]
    exact (and_iff_left fits).symm
  · rw [if_neg fits]
    exact ⟨nofun, fun both => (fits both.2).elim⟩

theorem restoringTurn_succeeds {captured : EncodedBlob} {outcome : Except RulesError Unit}
    (answered : Answered Server.answer server [restoringTurn captured outcome])
    (allowed : server.faults.refusedUploads = false) (decoded : captured.decode = .ok blob) :
    outcome = .ok () := by
  unfold restoringTurn at answered
  split at answered
  · exact answered.1
  · have same : outcome = (Server.answer (.uploadRules captured) server).1 := answered.1
    rw [same, Server.answer_accepted allowed decoded]

/-- On a server that has accepted no upload yet, a run reports the first fault that applies, and passes
exactly where there is none and the version leaves room for a synthetic one. -/
theorem run_detects_faults {world : World Server} (reachable : Reachable world.server)
    (unused : world.server.uploads = 0) (pause : Nat) :
    ((∃ report, ((run pause).runIn Server.answer world).1 = .ok report) ↔
      world.server.faults = {} ∧ world.server.defaultVersion.minor.toNat + 10000 < UInt32.size) ∧
    ∀ error, ((run pause).runIn Server.answer world).1 = .error error ↔
      firstObjection? world.server = some error := by
  have judged := run_judged Server.answer pause world
  have answered := Session.answered_turnsIn Server.answer (run pause) world
  rw [← firstObjection?_eq_none_iff]
  generalize turnsIn Server.answer (run pause) world = turns at judged answered
  generalize ((run pause).runIn Server.answer world).1 = result at judged ⊢
  cases judged with
  | uncaptured =>
    obtain ⟨listed, lists⟩ := Server.listing_unarmed unused
    cases answered.1.trans lists
  | @captured captured changes objection outcome _ examined settled =>
    have unarmed : (world.server.note .listRules).uploads = 0 := unused
    have forgetful : (world.server.note .listRules).lastUpload = none :=
      reachable.sound.forgetful unused
    obtain ⟨lists, following⟩ := answered
    obtain ⟨changing, restoring⟩ := (Session.answered_append Server.answer).mp following
    have found : objection = firstObjection? (world.server.note .listRules) :=
      examined.eq_firstObjection? changing unarmed forgetful
    change objection = firstObjection? world.server at found
    rw [← found]
    cases settled with
    | objected => simp
    | passed => simp
    | unrestored =>
      -- Without an objection no fault is injected, so the restoring upload is accepted.
      obtain ⟨healthy, -⟩ := firstObjection?_eq_none_iff.mp found.symm
      obtain ⟨blob, decoded⟩ := reachable.sound.listing_decodes lists.symm
      have kept := Server.faults_serverAfter (changes.map (·.call)) (world.server.note .listRules)
      have allowed := congrArg Faults.refusedUploads (kept.trans healthy)
      cases restoringTurn_succeeds restoring allowed decoded

/-- A misreported version that happens to be the synthetic one shows once the rules are deleted. -/
theorem run_detects_colliding_version :
    Reachable (Server.inject {} (.misreportVersion "5.10003")) ∧
      (Server.inject {} (.misreportVersion "5.10003")).uploads = 0 ∧
      ((run 0).runIn Server.answer
        ⟨Server.inject {} (.misreportVersion "5.10003"), ⟨"", []⟩, []⟩).1 =
          .error (.check .deleteRevertsVersion
            "server reports rules version '5.10003', expected '5.3'") := by
  have reachable := (Reachable.start Sample.defaultVersion false).inject (.misreportVersion "5.10003")
  exact ⟨reachable, rfl, ((run_detects_faults reachable rfl 0).2 _).mpr (by decide)⟩

end EntitlementRules.Verification
