import EntitlementRules.Command.Basic
import EntitlementRules.Proofs.Procedure
import EntitlementRules.Proofs.Rules.Blob
import EntitlementRules.Proofs.Session.Trace
import EntitlementRules.Proofs.Text.Utf8.WellFormed

/-! Commands that run in a world: what each part of a command does there, put together from the calls that
it makes. -/
namespace EntitlementRules

variable {σ α β : Type} {backend : Backend σ}

namespace Session

theorem runIn_bind (first : Session α) (next : α → Session β) (world : World σ) :
    (first >>= next).runIn backend world =
      (next (first.runIn backend world).1).runIn backend (first.runIn backend world).2 :=
  Procedure.runWith_bind (I := interface) (World.answer backend) first next world

theorem turnsIn_bind (first : Session α) (next : α → Session β) (world : World σ) :
    turnsIn backend (first >>= next) world =
      turnsIn backend first world ++
        turnsIn backend (next (first.runIn backend world).1) (first.runIn backend world).2 := by
  induction first generalizing world with
  | done value => rfl
  | ask request rest ih =>
    rw [Procedure.ask_bind, turnsIn, turnsIn, ih, List.append_assoc]
    rfl

/-- A world whose server received a call. -/
def World.called (backend : Backend σ) (world : World σ) (asked : Call) : World σ :=
  { world with server := (backend asked world.server).2 }

def World.logged (world : World σ) (events : List Log.Event) : World σ :=
  { world with events := world.events ++ events }

end Session

namespace Command

open Session (Turn World turnsIn)

variable {files : Files} {format : OutputFormat} {world middle left : World σ}
  {turns before after : List Turn}

/-- The turns that a part of a command takes in a world, what comes of it, and the world that it
leaves. -/
structure Runs (backend : Backend σ) (part : Part α) (world : World σ) (turns : List Turn)
    (result : Except CommandError α) (left : World σ) : Prop where
  turns_eq : turnsIn backend part.run world = turns
  runIn_eq : part.run.runIn backend world = (result, left)

namespace Runs

theorem pure (value : α) : Runs backend (pure value) world [] (.ok value) world := ⟨rfl, rfl⟩

theorem throw (error : CommandError) :
    Runs backend (throw error : Part α) world [] (.error error) world := ⟨rfl, rfl⟩

theorem log (event : Log.Event) :
    Runs backend (ExceptT.lift (Session.log event)) world [] (.ok ()) (world.logged [event]) :=
  ⟨rfl, rfl⟩

theorem save (backend : Backend σ) (world : World σ) (path : String) (content : Bytes) :
    Runs backend (ExceptT.lift (Session.save path content)) world []
      (.ok (World.answer backend (.save path content) world).1)
      (World.answer backend (.save path content) world).2 :=
  ⟨rfl, rfl⟩

theorem demand (backend : Backend σ) (world : World σ) (asked : Call) :
    Runs backend (demand asked) world [⟨asked, (backend asked world.server).1⟩]
      ((backend asked world.server).1.mapError .ofRules) (world.called backend asked) :=
  ⟨rfl, rfl⟩

variable {first : Part α} {next : α → Part β}

theorem bind {value : α} {result : Except CommandError β}
    (opening : Runs backend first world before (.ok value) middle)
    (closing : Runs backend (next value) middle after result left) :
    Runs backend (first >>= next) world (before ++ after) result left := by
  constructor
  · rw [ExceptT.run_bind, Session.turnsIn_bind, opening.turns_eq, opening.runIn_eq]
    exact congrArg _ closing.turns_eq
  · rw [ExceptT.run_bind, Session.runIn_bind, opening.runIn_eq]
    exact closing.runIn_eq

/-- What ends the first part ends the command. -/
theorem bind_error {error : CommandError}
    (stopped : Runs backend first world before (.error error) left) :
    Runs backend (first >>= next) world before (.error error) left := by
  constructor
  · rw [ExceptT.run_bind, Session.turnsIn_bind, stopped.turns_eq, stopped.runIn_eq]
    exact List.append_nil _
  · rw [ExceptT.run_bind, Session.runIn_bind, stopped.runIn_eq]
    rfl

theorem demand_refused {asked : Call} {next : asked.Answer → Part β} {cause : RulesError}
    (brought : (backend asked world.server).1 = .error cause) :
    Runs backend (Command.demand asked >>= next) world [⟨asked, .error cause⟩]
      (.error (.ofRules cause)) (world.called backend asked) := by
  have called := Runs.demand backend world asked
  rw [brought] at called
  exact called.bind_error

theorem demand_met {asked : Call} {next : asked.Answer → Part β} {answer : asked.Answer}
    {result : Except CommandError β} (brought : (backend asked world.server).1 = .ok answer)
    (later : Runs backend (next answer) (world.called backend asked) turns result left) :
    Runs backend (Command.demand asked >>= next) world (⟨asked, .ok answer⟩ :: turns) result left := by
  have called := Runs.demand backend world asked
  rw [brought] at called
  exact called.bind later

end Runs

/-! ## Listings -/

/-- What a listing holds for a caller: its text as it is, or the rules that it decodes to. -/
inductive Content (listed : EncodedBlob) : (raw : Bool) → Bytes → Prop where
  | raw : Content listed true (Text.Utf8.encode listed.text)
  | decoded {blob : Blob} (decoded : listed.decode = .ok blob) : Content listed false blob.bytes

variable {listed : EncodedBlob} {content : Bytes} {raw : Bool} {path : String} {out : Option String}

theorem runs_listedContent (backend : Backend σ) (world : World σ)
    (holds : Content listed raw content) :
    ∃ events, Runs backend (listedContent raw listed) world [] (.ok content) (world.logged events) := by
  cases holds with
  | raw =>
    cases decoded : listed.decode with
    | error cause =>
      simp only [listedContent, decoded, ↓reduceIte]
      exact ⟨[], by simpa [World.logged] using Runs.pure _⟩
    | ok blob =>
      simp only [listedContent, decoded, ↓reduceIte]
      exact ⟨_, (Runs.log _).bind (.pure _)⟩
  | decoded decoded =>
    simp only [listedContent, decoded, Bool.false_eq_true, ↓reduceIte]
    exact ⟨_, (Runs.log _).bind (.pure _)⟩

theorem runs_listedContent_malformed {cause : RulesError} (refused : listed.decode = .error cause) :
    Runs backend (listedContent false listed) world [] (.error (.ofRules cause)) world := by
  simp only [listedContent, refused, Bool.false_eq_true, ↓reduceIte]
  exact .throw _

theorem runs_deliver_saved (backend : Backend σ) (world : World σ) {changed : Files.Tree}
    (written : world.files.write path content = .ok changed) :
    ∃ text, Runs backend (deliver content (some path)) world [] (.ok (.report text))
      { world with files := changed } := by
  have saved := Runs.save backend world path content
  rw [World.answer, written] at saved
  exact ⟨_, saved.bind (.pure _)⟩

theorem runs_deliver_unwritten (backend : Backend σ) (world : World σ) {refusal : FileError}
    (refused : world.files.write path content = .error refusal) :
    ∃ error, Runs backend (deliver content (some path)) world [] (.error error) world := by
  have saved := Runs.save backend world path content
  rw [World.answer, refused] at saved
  exact ⟨_, saved.bind (.throw _)⟩

theorem runs_listRules_blank (brought : (backend .listRules world.server).1 = .ok listed)
    (blank : listed.isEmpty = true) :
    ∃ text, Runs backend (listRules raw out) world [⟨.listRules, .ok listed⟩] (.ok (.report text))
      (world.called backend .listRules) := by
  apply Exists.intro
  apply Runs.demand_met brought
  simp only [blank, ↓reduceIte]
  exact .pure _

theorem runs_listRules {result : Except CommandError Shown}
    (brought : (backend .listRules world.server).1 = .ok listed) (visible : listed.isEmpty = false)
    (later : Runs backend (listedContent raw listed >>= (deliver · out))
      (world.called backend .listRules) turns result left) :
    Runs backend (listRules raw out) world (⟨.listRules, .ok listed⟩ :: turns) result left := by
  refine .demand_met brought ?_
  simp only [visible, Bool.false_eq_true, ↓reduceIte]
  exact later

/-! ## Changes to the active rules -/

/-- What the content of a file is uploaded as: itself, encoded, or the encoding that is its text but for the
blanks around it. It must hold some rules. -/
inductive Usable : (encoded : Bool) → (content : Bytes) → EncodedBlob → Prop where
  | plain {content : Bytes} (filled : content ≠ []) : Usable false content (Blob.mk content).encode
  | encoded {text : String} {blob : Blob} (decoded : EncodedBlob.decode ⟨Text.trim text⟩ = .ok blob)
      (filled : blob.bytes ≠ []) : Usable true (Text.Utf8.encode text) ⟨Text.trim text⟩

variable {file : String} {encoded : Bool} {text : EncodedBlob}

theorem usable_plain_iff : Usable false content text ↔ content ≠ [] ∧ text = (Blob.mk content).encode := by
  constructor
  · rintro (filled | _)
    exact ⟨filled, rfl⟩
  · rintro ⟨filled, rfl⟩
    exact .plain filled

theorem usable_encoded_iff {written : String} :
    Usable true (Text.Utf8.encode written) text ↔
      text = ⟨Text.trim written⟩ ∧ ∃ blob, text.decode = .ok blob ∧ blob.bytes ≠ [] := by
  constructor
  · intro usable
    generalize same : Text.Utf8.encode written = content at usable
    cases usable with
    | encoded decoded filled =>
      cases Text.Utf8.encode_injective same
      exact ⟨rfl, _, decoded, filled⟩
  · rintro ⟨rfl, blob, decoded, filled⟩
    exact .encoded decoded filled

/-- Content that is usable comes with the blob that it stands for. All other content is the caller's
problem. -/
theorem payload_spec (file : String) (encoded : Bool) (content : Bytes) :
    (∃ blob text, payload file encoded content = .ok (blob, text) ∧ text.decode = .ok blob ∧
      ∀ other, Usable encoded content other ↔ other = text) ∨
    (∃ message, payload file encoded content = .error (.validation message)) ∧
      ∀ text, ¬ Usable encoded content text := by
  cases encoded with
  | false =>
    by_cases filled : content = []
    · subst filled
      exact .inr ⟨⟨_, rfl⟩, fun text usable => (usable_plain_iff.mp usable).1 rfl⟩
    · refine .inl ⟨⟨content⟩, _, ?_, Blob.decode_encode _, fun other => ?_⟩
      · simp [payload, Blob.isEmpty, filled, pure, Except.pure, bind, Except.bind]
      · rw [usable_plain_iff, and_iff_right filled]
  | true =>
    cases read : Text.Utf8.decode? content with
    | none =>
      refine .inr ⟨⟨_, by simp only [payload, read]; rfl⟩, fun text usable => ?_⟩
      cases usable with
      | encoded _ _ => cases read.symm.trans (Text.Utf8.decode?_encode _)
    | some written =>
      obtain rfl := Text.Utf8.decode?_eq_some_iff.mp read
      cases decoded : EncodedBlob.decode ⟨Text.trim written⟩ with
      | error cause =>
        refine .inr ⟨⟨_, by simp only [payload, read, decoded]; rfl⟩, fun text usable => ?_⟩
        obtain ⟨rfl, blob, decodes, -⟩ := usable_encoded_iff.mp usable
        cases decoded.symm.trans decodes
      | ok held =>
        by_cases filled : held.bytes = []
        · obtain ⟨bytes⟩ := held
          cases filled
          refine .inr ⟨⟨_, by simp only [payload, read, decoded]; rfl⟩, fun text usable => ?_⟩
          obtain ⟨rfl, blob, decodes, visible⟩ := usable_encoded_iff.mp usable
          cases decoded.symm.trans decodes
          exact visible rfl
        · refine .inl ⟨held, _, ?_, decoded, fun other => ?_⟩
          · simp [payload, read, decoded, Blob.isEmpty, filled, pure, Except.pure, bind, Except.bind]
          · rw [usable_encoded_iff]
            refine and_iff_left_of_imp ?_
            rintro rfl
            exact ⟨held, decoded, filled⟩

/-- What a file is uploaded as: its bytes, encoded, or the encoding that is its text. It must hold some
rules. -/
inductive Payload (files : Files) (file : String) : (encoded : Bool) → EncodedBlob → Prop where
  | plain {content : Bytes} (found : files.read file = .ok content) (filled : content ≠ []) :
      Payload files file false (Blob.mk content).encode
  | encoded {content : Bytes} {text : String} {blob : Blob} (found : files.read file = .ok content)
      (read : Text.Utf8.decode? content = some text)
      (decoded : EncodedBlob.decode ⟨Text.trim text⟩ = .ok blob) (filled : blob.bytes ≠ []) :
      Payload files file true ⟨Text.trim text⟩

theorem payload_iff :
    Payload files file encoded text ↔ ∃ content, files.read file = .ok content ∧ Usable encoded content text := by
  constructor
  · intro usable
    cases usable with
    | plain found filled => exact ⟨_, found, .plain filled⟩
    | encoded found read decoded filled =>
      rw [Text.Utf8.decode?_eq_some_iff.mp read] at found
      exact ⟨_, found, .encoded decoded filled⟩
  · rintro ⟨content, found, usable⟩
    cases usable with
    | plain filled => exact .plain found filled
    | encoded decoded filled => exact .encoded found (Text.Utf8.decode?_encode _) decoded filled

/-- What is uploaded is prepared together with the blob that it decodes to. -/
theorem Payload.prepared (usable : Payload files file encoded text) :
    ∃ blob, text.decode = .ok blob ∧ (readFile files file >>= payload file encoded) = .ok (blob, text) := by
  obtain ⟨content, found, usable⟩ := payload_iff.mp usable
  rcases payload_spec file encoded content with ⟨blob, other, ready, decoded, only⟩ | ⟨-, useless⟩
  · obtain rfl := (only text).mp usable
    exact ⟨blob, decoded, bind_eq_ok_iff.mpr ⟨content, mapError_eq_ok_iff.mpr found, ready⟩⟩
  · exact absurd usable (useless text)

theorem payload_of_prepared {blob : Blob}
    (prepared : (readFile files file >>= payload file encoded) = .ok (blob, text)) :
    Payload files file encoded text := by
  obtain ⟨content, found, prepared⟩ := bind_eq_ok_iff.mp prepared
  refine payload_iff.mpr ⟨content, mapError_eq_ok_iff.mp found, ?_⟩
  rcases payload_spec file encoded content with ⟨held, other, ready, -, only⟩ | ⟨⟨message, refused⟩, -⟩
  · cases ready.symm.trans prepared
    exact (only text).mpr rfl
  · cases refused.symm.trans prepared

/-- An upload is prepared and announced before the change itself. What is shown of it afterwards has the
version that the rules mark. -/
theorem runs_uploadRules (backend : Backend σ) (world : World σ) (format : OutputFormat) {blob : Blob}
    (prepared : (readFile files file >>= payload file encoded) = .ok (blob, text)) :
    ∃ events, ∀ turns result left,
      Runs backend (do
        demand (.uploadRules text)
        let status ← demand .getStatus
        return .report (changeOutput "upload" blob.version? status format))
        (world.logged events) turns result left →
      Runs backend (uploadRules files format file encoded) world turns result left := by
  have ready : Runs backend (ExceptT.mk (pure (readFile files file >>= payload file encoded))) world []
      (.ok (blob, text)) world := by
    rw [prepared]
    exact ⟨rfl, rfl⟩
  cases marked : blob.version? with
  | some version =>
    have found : blob.requireVersion = .ok version := by rw [Blob.requireVersion, marked]
    refine ⟨[], fun turns result left later => ready.bind ?_⟩
    simp only [World.logged, List.append_nil] at later
    simp only [found]
    exact (Runs.pure _).bind later
  | none =>
    have refused : blob.requireVersion = .error (.invalidVersion blob.firstLine) := by
      rw [Blob.requireVersion, marked]
    apply Exists.intro
    intro turns result left later
    apply ready.bind
    simp only [refused]
    exact (Runs.log _).bind ((Runs.pure _).bind later)

theorem runs_uploadRules_unprepared {error : CommandError}
    (unusable : (readFile files file >>= payload file encoded) = .error error) :
    Runs backend (uploadRules files format file encoded) world [] (.error error) world := by
  have stopped : Runs backend (ExceptT.mk (pure (readFile files file >>= payload file encoded))) world
      [] (.error error) world := by
    rw [unusable]
    exact ⟨rfl, rfl⟩
  exact stopped.bind_error

end Command

end EntitlementRules
