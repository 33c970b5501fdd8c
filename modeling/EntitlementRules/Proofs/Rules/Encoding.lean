import EntitlementRules.Proofs.Base64.Canonical
import EntitlementRules.Proofs.Rules.Blob

/-! Encoded blobs: the texts that decode are the encodings of blobs, with blanks anywhere in them, and
each decodes to the blob that it is the encoding of. -/
namespace EntitlementRules.EncodedBlob

/-- A text without the blanks that may wrap it. -/
def unwrapped (text : String) : String :=
  String.ofList (text.toList.filter (· ∉ [' ', '\t', '\n', '\x0c', '\r']))

theorem ofList_compact (encoded : EncodedBlob) :
    String.ofList encoded.compact = unwrapped encoded.text := by
  have kept (c : Char) : (!Text.isAsciiBlank c) = decide (c ∉ [' ', '\t', '\n', '\x0c', '\r']) := by
    rw [Bool.eq_iff_iff]
    simp [Text.isAsciiBlank, and_assoc]
  rw [compact, unwrapped, funext kept]

theorem decode_eq (encoded : EncodedBlob) :
    encoded.decode =
      ((Base64.decode (Text.Utf8.encode (unwrapped encoded.text))).mapError .malformedBlob).map
        Blob.mk := by
  rw [decode, ofList_compact]
  cases Base64.decode (Text.Utf8.encode (unwrapped encoded.text)) <;> rfl

/-- A text decodes to a blob where it is the encoding of that blob, but for blanks. -/
theorem decode_eq_ok_iff {encoded : EncodedBlob} {blob : Blob} :
    encoded.decode = .ok blob ↔ unwrapped encoded.text = blob.encode.text := by
  have symbols : Base64.decode (Text.Utf8.encode (unwrapped encoded.text)) = .ok blob.bytes ↔
      unwrapped encoded.text = blob.encode.text := by
    rw [Base64.decode_eq_ok_iff, ← Blob.utf8_encode]
    exact ⟨Text.Utf8.encode_injective, congrArg Text.Utf8.encode⟩
  rw [← symbols, decode_eq]
  obtain ⟨bytes⟩ := blob
  cases Base64.decode (Text.Utf8.encode (unwrapped encoded.text)) with
  | ok bytes => simp [Except.mapError, Except.map]
  | error cause => simp [Except.mapError, Except.map]

theorem decode_eq_error {encoded : EncodedBlob} {error : RulesError}
    (refused : encoded.decode = .error error) : ∃ cause, error = .malformedBlob cause := by
  rw [decode_eq] at refused
  cases read : Base64.decode (Text.Utf8.encode (unwrapped encoded.text)) with
  | ok bytes =>
    rw [read] at refused
    cases refused
  | error cause =>
    rw [read] at refused
    cases refused
    exact ⟨cause, rfl⟩

theorem decode_congr {first second : EncodedBlob}
    (same : unwrapped first.text = unwrapped second.text) : first.decode = second.decode := by
  rw [decode_eq, decode_eq, same]

theorem decodes_iff_canonical {encoded : EncodedBlob} :
    (∃ blob, encoded.decode = .ok blob) ↔
      ∃ numbers pads, Text.Utf8.encode (unwrapped encoded.text) = Base64.written numbers pads ∧
        Base64.Canonical numbers pads := by
  rw [← Base64.decodes_iff_canonical, decode_eq]
  cases Base64.decode (Text.Utf8.encode (unwrapped encoded.text)) with
  | ok bytes => simp [Except.mapError, Except.map]
  | error cause => simp [Except.mapError, Except.map]

theorem isBlank_encode {blob : Blob} {c : Char} (member : c ∈ blob.encode.text.toList) :
    Text.isBlank c = false := by
  have visible : ∀ value < 64, 0x20 < (Base64.symbolOf value).toNat := by decide
  rw [Blob.encode, Base64.encode, String.toList_ofList] at member
  obtain ⟨symbol, inBytes, rfl⟩ := List.mem_map.mp member
  have below := (Base64.plain_of_mem_encodeBytes inBytes).1
  have above : 0x20 < symbol.toNat := by
    obtain rfl | ⟨value, small, rfl⟩ := Base64.mem_encodeBytes inBytes
    · decide
    · exact visible value small
  have number := Text.Utf8.toNat_ofNat_ascii below
  exact Text.isBlank_eq_false (by omega) (by omega)

/-- Only nothing has an encoding of blanks. -/
theorem bytes_eq_nil_of_encode {blob : Blob} (nothing : blob.encode.text.toList = []) :
    blob.bytes = [] := by
  have read := Blob.decode_encode blob
  have same : blob.encode = ⟨""⟩ := congrArg EncodedBlob.mk (String.toList_eq_nil_iff.mp nothing)
  rw [same] at read
  cases read
  rfl

/-- A text that decodes is blank exactly where it decodes to no bytes. -/
theorem isEmpty_iff_of_decode {encoded : EncodedBlob} {blob : Blob}
    (decoded : encoded.decode = .ok blob) : encoded.isEmpty = true ↔ blob.bytes = [] := by
  have same := decode_eq_ok_iff.mp decoded
  constructor
  · intro blank
    refine bytes_eq_nil_of_encode (List.eq_nil_iff_forall_not_mem.mpr fun c member => ?_)
    -- A character of the encoding is one of the text, and none of them is blank.
    have inText : c ∈ encoded.text.toList := by
      rw [← same, unwrapped, String.toList_ofList] at member
      exact (List.mem_filter.mp member).1
    have hidden := List.all_eq_true.mp blank c inText
    rw [isBlank_encode member] at hidden
    cases hidden
  · intro nothing
    have whole : unwrapped encoded.text = String.ofList [] := by
      rw [same, Blob.encode, nothing]
      rfl
    refine List.all_eq_true.mpr fun c member => ?_
    have wraps := List.filter_eq_nil_iff.mp (String.ofList_inj.mp whole) c member
    have blanks : [' ', '\t', '\n', '\x0c', '\r'].all Text.isBlank = true := by decide
    exact List.all_eq_true.mp blanks c
      (Decidable.byContradiction fun outside => wraps (decide_eq_true outside))

/-- The blanks of a text that decodes are those that may wrap it. -/
theorem wraps_of_isBlank {encoded : EncodedBlob} {blob : Blob} (decoded : encoded.decode = .ok blob)
    {c : Char} (member : c ∈ encoded.text.toList) (blank : Text.isBlank c = true) :
    c ∈ [' ', '\t', '\n', '\x0c', '\r'] := by
  by_contra outside
  have kept : c ∈ (unwrapped encoded.text).toList := by
    rw [unwrapped, String.toList_ofList]
    exact List.mem_filter.mpr ⟨member, decide_eq_true outside⟩
  rw [decode_eq_ok_iff.mp decoded] at kept
  cases blank.symm.trans (isBlank_encode kept)

private theorem filter_dropWhile {α : Type} {drops keeps : α → Bool} {items : List α}
    (apart : ∀ item ∈ items, drops item = true → keeps item = false) :
    (items.dropWhile drops).filter keeps = items.filter keeps := by
  induction items with
  | nil => rfl
  | cons item rest ih =>
    rw [List.dropWhile_cons]
    split
    · next dropped =>
      rw [ih fun other member => apart other (.tail _ member),
        List.filter_cons_of_neg (by simp [apart item (.head _) dropped])]
    · rfl

/-- Taking off the blanks around a text leaves what it decodes to. -/
theorem decode_trim {encoded : EncodedBlob} {blob : Blob} (decoded : encoded.decode = .ok blob) :
    (EncodedBlob.mk (Text.trim encoded.text)).decode = .ok blob := by
  have apart : ∀ c ∈ encoded.text.toList, Text.isBlank c = true →
      decide (c ∉ [' ', '\t', '\n', '\x0c', '\r']) = false :=
    fun c member blank => decide_eq_false (not_not_intro (wraps_of_isBlank decoded member blank))
  have same : unwrapped (Text.trim encoded.text) = unwrapped encoded.text := by
    rw [unwrapped, unwrapped, Text.trim, String.toList_ofList, Text.dropBlankEnd, List.filter_reverse,
      filter_dropWhile, ← List.filter_reverse, List.reverse_reverse, filter_dropWhile apart]
    intro c member
    exact apart c ((List.dropWhile_sublist _).mem (List.mem_reverse.mp member))
  exact (decode_congr same).trans decoded

/-- The texts that decode are the encodings of blobs, blanks apart; all others are refused as malformed.
Blanks change nothing, and nothing else is left open: padding and the bits that a last symbol does not
use are as they have to be. -/
theorem decodes_exactly_encodings (text : String) :
    -- What a text decodes to, and when it is refused.
    (∀ blob : Blob, (EncodedBlob.mk text).decode = .ok blob ↔ unwrapped text = blob.encode.text) ∧
    ((∃ cause, (EncodedBlob.mk text).decode = .error (.malformedBlob cause)) ↔
      ∀ blob : Blob, unwrapped text ≠ blob.encode.text) ∧
    (∀ blob : Blob, blob.encode.decode = .ok blob) ∧
    -- Texts that differ in blanks decode alike, and no others do.
    (∀ wrapped, unwrapped wrapped = unwrapped text →
      (EncodedBlob.mk wrapped).decode = (EncodedBlob.mk text).decode) ∧
    (∀ other (blob : Blob), (EncodedBlob.mk text).decode = .ok blob →
      (EncodedBlob.mk other).decode = .ok blob → unwrapped other = unwrapped text) ∧
    -- Symbols and padding of the texts that decode.
    ((∃ blob, (EncodedBlob.mk text).decode = .ok blob) ↔
      ∃ numbers pads, Text.Utf8.encode (unwrapped text) = Base64.written numbers pads ∧
        Base64.Canonical numbers pads) ∧
    -- Both notions of emptiness agree.
    (∀ blob : Blob, (EncodedBlob.mk text).decode = .ok blob →
      ((EncodedBlob.mk text).isEmpty = true ↔ blob.isEmpty = true)) := by
  refine ⟨fun blob => decode_eq_ok_iff, ?_, Blob.decode_encode, fun wrapped => decode_congr, ?_,
    decodes_iff_canonical, ?_⟩
  · cases decoded : (EncodedBlob.mk text).decode with
    | ok blob =>
      have same := decode_eq_ok_iff.mp decoded
      exact ⟨fun ⟨_, refused⟩ => (by cases refused), fun never => (never blob same).elim⟩
    | error error =>
      obtain ⟨cause, rfl⟩ := decode_eq_error decoded
      refine ⟨fun _ blob same => ?_, fun _ => ⟨cause, rfl⟩⟩
      cases decoded.symm.trans (decode_eq_ok_iff.mpr same)
  · intro other blob first second
    rw [decode_eq_ok_iff.mp first, decode_eq_ok_iff.mp second]
  · intro blob decoded
    rw [isEmpty_iff_of_decode decoded, Blob.isEmpty, List.isEmpty_iff]

/-- Three bytes from an encoding that is wrapped inside its only group. -/
theorem decodes_wrapped_encoding :
    (EncodedBlob.mk "QU \n\tJD\r\n").decode = .ok ⟨[65, 66, 67]⟩ ∧
      (EncodedBlob.mk "QU \n\tJD\r\n").isEmpty = false := by
  obtain ⟨decodes, -, -, -, -, -, empty⟩ := decodes_exactly_encodings "QU \n\tJD\r\n"
  have decoded := (decodes ⟨[65, 66, 67]⟩).mpr (by decide)
  exact ⟨decoded, Bool.eq_false_iff.mpr fun blank => absurd ((empty _ decoded).mp blank) (by decide)⟩

end EntitlementRules.EncodedBlob
