import EntitlementRules.Proofs.Command.Saved

/-! Listings: a listing of rules arrives where it is to go as it is, and from there it is uploaded as those
rules or not at all. A blank listing does not arrive: its notice takes the place of the rules. -/
namespace EntitlementRules.Command

open Session (World)

variable {σ : Type} {backend : Backend σ} {world left : World σ} {format : OutputFormat}
  {listed text : EncodedBlob} {blob : Blob} {raw : Bool} {out : Option String} {output content : Bytes}

/-- What arrived at a destination: what a command put out, or what the named file holds afterwards. -/
def arrived (out : Option String) (output : Bytes) (after : Files.Tree) : Except FileError Bytes :=
  match out with
  | none => .ok output
  | some path => after.view.read path

/-! ## Arrival -/

theorem runs_deliver (backend : Backend σ) (world : World σ) (content : Bytes) (out : Option String) :
    ∃ result left, Runs backend (deliver content out) world [] result left ∧
      ∀ shown, result = .ok shown → arrived out shown.bytes left.files = .ok content := by
  cases out with
  | none =>
    refine ⟨_, _, .pure (Shown.rules content), fun shown same => ?_⟩
    cases same
    rfl
  | some path =>
    cases written : world.files.write path content with
    | error refusal =>
      obtain ⟨error, runs⟩ := runs_deliver_unwritten backend world written
      exact ⟨_, _, runs, fun shown same => by cases same⟩
    | ok changed =>
      obtain ⟨text, runs⟩ := runs_deliver_saved backend world written
      exact ⟨_, _, runs, fun _ _ => Files.Tree.read_view_of_write written⟩

theorem arrived_of_listed (brought : (backend .listRules world.server).1 = .ok listed)
    (visible : listed.isEmpty = false)
    (lists : performIn backend format (.list raw out) world = (.ok output, left)) :
    ∃ content, Content listed raw content ∧ arrived out output left.files = .ok content := by
  have performed {turns : List Session.Turn} {result : Except CommandError Shown} {final : World σ}
      (runs : Runs backend (listRules raw out) world turns result final) :
      result.map Shown.bytes = .ok output ∧ final = left :=
    Prod.mk.inj ((performIn_eq rfl runs).symm.trans lists)
  have finished (content : Bytes) (holds : Content listed raw content) :
      arrived out output left.files = .ok content := by
    obtain ⟨events, listing⟩ := runs_listedContent backend (world.called backend .listRules) holds
    obtain ⟨result, final, delivers, arrives⟩ := runs_deliver backend
      ((world.called backend .listRules).logged events) content out
    obtain ⟨printed, rfl⟩ := performed (runs_listRules brought visible (listing.bind delivers))
    cases result with
    | error error => cases printed
    | ok shown =>
      cases printed
      exact arrives shown rfl
  cases raw with
  | true => exact ⟨_, .raw, finished _ .raw⟩
  | false =>
    cases decoded : listed.decode with
    | ok blob => exact ⟨_, .decoded decoded, finished _ (.decoded decoded)⟩
    | error cause =>
      have stopped : Runs backend (listRules false out) world _ (.error (.ofRules cause)) _ :=
        runs_listRules brought visible (runs_listedContent_malformed decoded).bind_error
      cases (performed stopped).1

/-! ## Uploads of what arrived -/

/-- The text that a listing is sent back as: its own without the blanks around it, or its rules encoded
anew. -/
inductive Resent (listed : EncodedBlob) : (raw : Bool) → EncodedBlob → Prop where
  | raw : Resent listed true ⟨Text.trim listed.text⟩
  | decoded {blob : Blob} (decoded : listed.decode = .ok blob) : Resent listed false blob.encode

theorem Resent.decode (resent : Resent listed raw text) (decoded : listed.decode = .ok blob) :
    text.decode = .ok blob := by
  cases resent with
  | raw => exact EncodedBlob.decode_trim decoded
  | decoded again =>
    cases decoded.symm.trans again
    exact Blob.decode_encode blob

theorem Resent.of_usable (holds : Content listed raw content) (usable : Usable raw content text) :
    Resent listed raw text := by
  cases holds with
  | raw =>
    obtain ⟨rfl, -⟩ := usable_encoded_iff.mp usable
    exact .raw
  | decoded decoded =>
    rw [usable.decode_plain.1]
    exact .decoded decoded

/-- What arrived of a listing that is not blank is its rules and nothing else: the text in one form, the
bytes that it decodes to in the other. Uploaded from there it is refused if it does not decode; else it is
sent as text that decodes as the listing did, and a server without faults then lists that text. -/
theorem listings_arrive_and_return (backend : Backend σ) (format shown : OutputFormat) (raw : Bool)
    (out : Option String) (world left : World σ) (listed : EncodedBlob) (output : Bytes)
    (brought : (backend .listRules world.server).1 = .ok listed) (visible : listed.isEmpty = false)
    (lists : performIn backend format (.list raw out) world = (.ok output, left)) :
    ∃ content, Content listed raw content ∧ arrived out output left.files = .ok content ∧
      ∀ files file, files.read file = .ok content →
        -- On any server.
        (∀ (τ : Type) (target : Backend τ) (other : World τ),
          (∀ blob, listed.decode ≠ .ok blob) ∧
            (∃ message, Runs target (uploadRules files shown file raw) other []
              (.error (.validation message)) other) ∨
          ∃ text outcome later result final, Resent listed raw text ∧
            (∀ blob, listed.decode = .ok blob → text.decode = .ok blob) ∧
            Runs target (uploadRules files shown file raw) other
              (⟨.uploadRules text, outcome⟩ :: later) result final) ∧
        -- On a server in memory.
        ∀ (memory : World Server) blob, memory.server.faults = {} → listed.decode = .ok blob →
          ∃ text later reply final, Runs Server.answer (uploadRules files shown file raw) memory
              (⟨.uploadRules text, .ok ()⟩ :: later) (.ok reply) final ∧
            (Server.answer .listRules final.server).1 = .ok text ∧ text.decode = .ok blob := by
  obtain ⟨content, holds, arrives⟩ := arrived_of_listed brought visible lists
  refine ⟨content, holds, arrives, fun files file found => ⟨fun τ target other => ?_, ?_⟩⟩
  · by_cases useful : ∃ text, Usable raw content text
    · obtain ⟨text, usable⟩ := useful
      have resent := Resent.of_usable holds usable
      obtain ⟨held, decodes, -⟩ := usable.prepared found
      cases uploaded : (target (.uploadRules text) other.server).1 with
      | error cause =>
        obtain ⟨final, runs⟩ := runs_uploadRules_refused shown usable found uploaded
        exact .inr ⟨text, _, _, _, final, resent, fun _ decoded => resent.decode decoded, runs⟩
      | ok accepted =>
        obtain ⟨final, runs, -⟩ := runs_uploadRules_accepted shown usable found decodes uploaded
        exact .inr ⟨text, _, _, _, final, resent, fun _ decoded => resent.decode decoded, runs⟩
    · have undecoded : ∀ blob, listed.decode ≠ .ok blob := by
        intro blob decoded
        exact useful ⟨_, holds.usable visible decoded⟩
      obtain ⟨message, refused⟩ := refused_of_useless found (not_exists.mp useful)
      exact .inl ⟨undecoded, message, runs_uploadRules_unprepared refused⟩
  · intro memory blob healthy decoded
    have usable := holds.usable visible decoded
    obtain ⟨held, status, final, decodes, runs, -, keeps⟩ :=
      runs_uploadRules_healthy shown healthy usable found
    have quiet : final.server.Quiet := by
      apply Server.Quiet.of_healthy
      rw [keeps]
      exact healthy
    refine ⟨_, _, _, final, runs, ?_, (Resent.of_usable holds usable).decode decoded⟩
    rw [quiet.outcome_eq .listRules, keeps]
    rfl

/-- A listing with blanks inside and behind it takes the place of an older file, and is uploaded from there
to a server without rules. -/
theorem wrapped_listing_arrives_and_returns :
    let world : World Server :=
      { server := { custom := some ⟨"QU\nJD "⟩ }, files := ⟨"/", [(["f"], .file [1])]⟩ }
    ∃ output left, performIn Server.answer .table (.list true (some "f")) world = (.ok output, left) ∧
      left.files.view.read "f" = .ok (Text.Utf8.encode "QU\nJD ") ∧
      ∃ text later reply final,
        Runs Server.answer (uploadRules left.files.view .json "f" true) { server := {}, files := left.files }
          (⟨.uploadRules text, .ok ()⟩ :: later) (.ok reply) final ∧
        (Server.answer .listRules final.server).1 = .ok text ∧ text.decode = .ok ⟨[65, 66, 67]⟩ := by
  intro world
  have steps : Files.Tree.splitSteps "f" = ["f"] := by decide +kernel
  have target : Files.Tree.Target world.files "f" [] "f" :=
    ⟨⟨[], congrArg Except.ok steps, rfl⟩, rfl, by decide, by decide, by decide⟩
  have decoded : (EncodedBlob.mk "QU\nJD ").decode = .ok ⟨[65, 66, 67]⟩ :=
    EncodedBlob.decode_eq_ok_iff.mpr (by decide)
  have lists : world.server.listing = .ok ⟨"QU\nJD "⟩ := rfl
  obtain ⟨output, left, performed, -, -⟩ := performIn_list .table lists rfl .raw
    (Files.Tree.write_eq_ok_iff.mpr ⟨_, _, target, rfl⟩)
  obtain ⟨content, holds, arrives, returns⟩ :=
    listings_arrive_and_return Server.answer .table .json true (some "f") world left _ output lists rfl performed
  cases holds
  obtain ⟨-, sends⟩ := returns left.files.view "f" arrives
  exact ⟨output, left, performed, arrives, sends _ _ rfl decoded⟩

/-- A blank listing arrives as a notice, which is uploaded as if it were rules; a file that it was to go to
keeps what it held before. -/
theorem blank_listing_arrives_as_notice :
    let world : World Server :=
      { server := { emptyDefault := true }, files := ⟨"/", [(["f"], .file [65])]⟩ }
    let notice := Text.Utf8.encode "No rules are active.\n"
    let files := Files.ofFindings [⟨"g", .ok (), .ok notice⟩]
    world.server.listing = .ok ⟨""⟩ ∧
      (∃ output left, performIn Server.answer .table (.list false none) world = (.ok output, left) ∧
        arrived none output left.files = .ok notice ∧
        ∃ later reply final,
          Runs Server.answer (uploadRules files .table "g" false) left
            (⟨.uploadRules (Blob.mk notice).encode, .ok ()⟩ :: later) (.ok reply) final ∧
          (Server.answer .listRules final.server).1 = .ok (Blob.mk notice).encode) ∧
      ∃ output left, performIn Server.answer .table (.list false (some "f")) world = (.ok output, left) ∧
        arrived (some "f") output left.files = .ok [65] := by
  intro world notice files
  refine ⟨rfl, ⟨_, _, rfl, rfl, ?_⟩, _, _, rfl, ?_⟩
  · have filled : notice ≠ [] := by decide
    have found : files.read "g" = .ok notice := rfl
    have healthy : (world.called Server.answer .listRules).server.faults = {} := rfl
    obtain ⟨held, status, final, -, runs, -, keeps⟩ :=
      runs_uploadRules_healthy .table healthy (.plain filled) found
    have quiet : final.server.Quiet := by
      apply Server.Quiet.of_healthy
      rw [keeps]
      exact healthy
    refine ⟨_, _, final, runs, ?_⟩
    rw [quiet.outcome_eq .listRules, keeps]
    rfl
  · decide +kernel

end EntitlementRules.Command
