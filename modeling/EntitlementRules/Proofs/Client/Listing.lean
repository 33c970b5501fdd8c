import EntitlementRules.Proofs.Client.Answered
import EntitlementRules.Proofs.Json.Whole
import EntitlementRules.Proofs.Rules.Encoding
import EntitlementRules.Proofs.Text.Blank
import EntitlementRules.Proofs.Text.Utf8.Lossy

/-! Listings over HTTP: a body holds a text as it is or as a JSON string, and is never taken for the other. -/
namespace EntitlementRules.Client

open Exchange (Party)
open Json (Literal)

variable {σ : Type} {body : Bytes} {leading text trailing literal value : String} {blob : Blob}

/-- The text in a body, without the blanks around it. -/
def shown (body : Bytes) : String := Text.trim (Text.Utf8.decodeLossy body)

theorem head?_of_literal {written : Bytes} (literal : Literal written value) :
    written.head? = some Ascii.quotation := by
  obtain ⟨inside, rfl, -⟩ := literal
  rfl

theorem getLast?_of_literal {written : Bytes} (literal : Literal written value) :
    written.getLast? = some Ascii.quotation := by
  obtain ⟨inside, rfl, -⟩ := literal
  rw [← List.cons_append, List.getLast?_append]
  rfl

/-! ## Both forms -/

/-- What is left of a body is read as a JSON string where it is one. -/
theorem listed_of_literal (written : Literal (Text.Utf8.encode (shown body)) value) :
    listed body = ⟨value⟩ := by
  have quoted := head?_of_literal written
  have padded : Json.Padded (Literal · value) (Text.Utf8.encode (shown body)) := .of_written written
  have read := Json.whole_stringLiteral_iff.mpr padded
  simp only [shown] at quoted read
  simp only [listed, quoted, read, ↓reduceIte]

/-- The ends of what is left of a body are no blanks, so no blanks surround a string there. -/
theorem literal_of_padded (quoted : (Text.Utf8.encode (shown body)).head? = some Ascii.quotation)
    (padded : Json.Padded (Literal · value) (Text.Utf8.encode (shown body))) :
    Literal (Text.Utf8.encode (shown body)) value := by
  generalize whole : Text.Utf8.encode (shown body) = bytes at quoted padded
  obtain ⟨leading, written, trailing⟩ := padded
  rename_i before literal after
  have opens : before = [] := by
    cases before with
    | nil => rfl
    | cons b others =>
      cases quoted
      exact absurd (leading Ascii.quotation (.head _)) (by decide)
  have closes : after = [] := by
    cases ends : after.getLast? with
    | none => exact List.getLast?_eq_none_iff.mp ends
    | some b =>
      have blank := trailing b (List.mem_of_getLast? ends)
      have last : (Text.Utf8.encode (shown body)).getLast? = some b := by
        rw [whole, List.getLast?_append, List.getLast?_append, ends]
        rfl
      have hidden : b.toNat < 0x80 ∧ Text.isBlank (Char.ofNat b.toNat) = true := by
        rcases blank with rfl | rfl | rfl | rfl <;> decide
      have solid := Text.isBlank_of_getLast?_trim (Text.Utf8.getLast?_of_encode last hidden.1)
      cases solid.symm.trans hidden.2
  rw [opens, closes, List.nil_append, List.append_nil]
  exact written

theorem listed_of_plain (plain : ∀ value, ¬ Literal (Text.Utf8.encode (shown body)) value) :
    listed body = ⟨shown body⟩ := by
  by_cases quoted : (Text.Utf8.encode (shown body)).head? = some Ascii.quotation
  · cases read : Json.whole Json.stringLiteral (Text.Utf8.encode (shown body)) with
    | ok value => exact absurd (literal_of_padded quoted (Json.whole_stringLiteral_iff.mp read)) (plain value)
    | error fault =>
      simp only [shown] at quoted read ⊢
      simp only [listed, quoted, read, ↓reduceIte]
  · simp only [shown] at quoted ⊢
    simp only [listed, quoted, ↓reduceIte]

/-! ## Blanks around them -/

theorem shown_around (before : ∀ c ∈ leading.toList, Text.isBlank c = true)
    (after : ∀ c ∈ trailing.toList, Text.isBlank c = true) :
    shown (Text.Utf8.encode (leading ++ text ++ trailing)) = Text.trim text := by
  rw [shown, Text.Utf8.decodeLossy_encode, Text.trim_around before after]

theorem trim_literal (written : Literal (Text.Utf8.encode literal) value) :
    Text.trim literal = literal :=
  Text.trim_eq_self_of_ends (Text.Utf8.head?_of_encode (head?_of_literal written) (by decide)) (by decide)
    (Text.Utf8.getLast?_of_encode (getLast?_of_literal written) (by decide)) (by decide)

/-- A text that decodes holds no quotation mark. -/
theorem unquoted_of_decode {encoded : EncodedBlob} (decoded : encoded.decode = .ok blob) :
    '"' ∉ encoded.text.toList := by
  intro member
  have kept : '"' ∈ blob.encode.text.toList := by
    rw [← EncodedBlob.decode_eq_ok_iff.mp decoded, EncodedBlob.unwrapped, String.toList_ofList]
    exact List.mem_filter.mpr ⟨member, by decide⟩
  rw [Blob.encode, Base64.encode, String.toList_ofList] at kept
  obtain ⟨symbol, inBytes, same⟩ := List.mem_map.mp kept
  have number := Text.Utf8.toNat_ofNat_ascii (Base64.plain_of_mem_encodeBytes inBytes).1
  rw [same] at number
  have others : ∀ number < 64, (Base64.symbolOf number).toNat ≠ '"'.toNat := by decide
  rcases Base64.mem_encodeBytes inBytes with rfl | ⟨value, small, rfl⟩
  · cases number
  · exact others value small number.symm

theorem listed_of_decode (before : ∀ c ∈ leading.toList, Text.isBlank c = true)
    (after : ∀ c ∈ trailing.toList, Text.isBlank c = true)
    (decoded : (EncodedBlob.mk text).decode = .ok blob) :
    listed (Text.Utf8.encode (leading ++ text ++ trailing)) = ⟨Text.trim text⟩ := by
  rw [listed_of_plain, shown_around before after]
  intro value written
  rw [shown_around before after] at written
  have first := Text.Utf8.head?_of_encode (head?_of_literal written) (by decide)
  exact unquoted_of_decode decoded (Text.mem_of_mem_trim (List.mem_of_head? first))

/-- Rules that a server sends are understood in every form: as a text that is wrapped and surrounded by
blanks, or as a JSON string with any escapes. What is neither stays as it is. -/
theorem listing_understood (client : Client) (party : Party σ) (state : σ) {response : Http.Response}
    (answered : Answered client .listRules party state response) (success : response.isSuccess = true)
    (filled : response.status ≠ 204) (whole : response.body = some body) :
    -- A text as it is.
    (∀ leading text trailing (blob : Blob), (∀ c ∈ leading.toList, Text.isBlank c = true) →
      (∀ c ∈ trailing.toList, Text.isBlank c = true) →
      body = Text.Utf8.encode (leading ++ text ++ trailing) →
      (EncodedBlob.mk text).decode = .ok blob →
      ∃ encoded, ((client.perform .listRules).runWith party state).1 = .ok encoded ∧
        encoded.decode = .ok blob ∧ (text = blob.encode.text → encoded = ⟨text⟩)) ∧
    -- A JSON string.
    (∀ leading literal trailing value, (∀ c ∈ leading.toList, Text.isBlank c = true) →
      (∀ c ∈ trailing.toList, Text.isBlank c = true) →
      body = Text.Utf8.encode (leading ++ literal ++ trailing) →
      Literal (Text.Utf8.encode literal) value →
      ((client.perform .listRules).runWith party state).1 = .ok ⟨value⟩) ∧
    -- Anything else, with a quotation mark at its start or without one.
    ((∀ value, ¬ Literal (Text.Utf8.encode (shown body)) value) →
      ((client.perform .listRules).runWith party state).1 = .ok ⟨shown body⟩) := by
  have listing : ((client.perform .listRules).runWith party state).1 = .ok (listed body) := by
    rw [answered.run_eq, outcome, if_neg filled, if_pos success, bodyOf, whole]
    rfl
  rw [listing]
  refine ⟨?_, ?_, fun plain => by rw [listed_of_plain plain]⟩
  · intro leading text trailing blob before after same decoded
    refine ⟨_, rfl, ?_⟩
    rw [same, listed_of_decode before after decoded]
    refine ⟨EncodedBlob.decode_trim decoded, fun canonical => ?_⟩
    rw [canonical, Text.trim_eq_self fun c member => EncodedBlob.isBlank_encode member]
  · intro leading literal trailing value before after same written
    rw [same, listed_of_literal]
    rw [shown_around before after, trim_literal written]
    exact written

/-- A string with escapes of two kinds and blanks that JSON does not know around it. -/
theorem escaped_listing_understood :
    let place : Url := { scheme := "http", host := some (.ipv4 ⟨127, 0, 0, 1⟩), path := .segments ["rules"] }
    let client : Client := ⟨place, place, none, "trace"⟩
    let body := Text.Utf8.encode ("\u3000\n" ++ "\"Q\\u0055\\/B\"" ++ "\u00a0")
    let response : Http.Response := { status := 200, body := some body }
    let network : Http.ScriptedNetwork := { reaches := fun _ => true, replies := [.respond response] }
    let world : Exchange.World := { network, files := ⟨"/", []⟩ }
    Answered client .listRules Exchange.World.answer world response ∧ response.isSuccess = true ∧
      response.status ≠ 204 ∧ response.body = some body ∧
      ((client.perform .listRules).runWith Exchange.World.answer world).1 = .ok ⟨"QU/B"⟩ := by
  intro place client body response network world
  have answered : Answered client .listRules Exchange.World.answer world response :=
    answered_at_once rfl (fun _ => rfl) rfl
  have written : Literal (Text.Utf8.encode "\"Q\\u0055\\/B\"") "QU/B" := by
    have zero : Json.HexDigit 48 0 := ⟨by decide, .inl rfl⟩
    have five : Json.HexDigit 53 5 := ⟨by decide, .inl rfl⟩
    have capital : Json.Escape [117, 48, 48, 53, 53] [85] := .unit (.digits zero zero five five) (by decide)
    have known : ('/', '/') ∈ Json.letterEscapes := by decide
    have slash : Json.Escape [47] [47] := .letter known
    have last : Json.Characters [66] [66] := .plain (by decide) (by decide) (by decide) .nil
    have inside : Json.Characters [81, 92, 117, 48, 48, 53, 53, 92, 47, 66] [81, 85, 47, 66] :=
      .plain (by decide) (by decide) (by decide) (.escaped capital (.escaped slash last))
    exact ⟨_, by decide, inside⟩
  obtain ⟨-, strings, -⟩ :=
    listing_understood client Exchange.World.answer world answered rfl (by decide) rfl
  have before : "\u3000\n".toList.all Text.isBlank = true := by decide +kernel
  have after : "\u00a0".toList.all Text.isBlank = true := by decide +kernel
  have brought := strings _ _ _ _ (List.all_eq_true.mp before) (List.all_eq_true.mp after) rfl written
  exact ⟨answered, rfl, by decide, rfl, brought⟩

end EntitlementRules.Client
