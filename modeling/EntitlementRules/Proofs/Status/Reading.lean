import EntitlementRules.Proofs.Json.Spelling
import EntitlementRules.Proofs.Status.Draft

/-! Reading a status: each reader takes exactly the values of its kind. -/
namespace EntitlementRules.Status

open Json (Reader Exact Spells StandsFor)

/-! ## Readers of values -/

variable {α : Type} {accept : Json → Option α} {expected : String} {depth : Nat}

/-- A value is a scalar, or it shows by its first byte that it has parts. -/
theorem spells_cases {value : Json} {part : Bytes} (spelled : Spells StandsFor depth value part) :
    Json.Scalar StandsFor value part ∨
      (∃ items others, value = .array items ∧ part = Ascii.openBracket :: others) ∨
      ∃ members others, value = .object members ∧ part = Ascii.openBrace :: others := by
  cases depth with
  | zero => exact .inl spelled
  | succ depth =>
    cases spelled with
    | scalar scalar => exact .inl scalar
    | array _ => exact .inr (.inl ⟨_, _, rfl, rfl⟩)
    | object _ => exact .inr (.inr ⟨_, _, rfl, rfl⟩)

theorem exact_expectScalar (array : ∀ items, accept (.array items) = none)
    (object : ∀ members, accept (.object members) = none) (depth : Nat) :
    Exact (expectScalar expected accept) (Spells StandsFor depth) accept where
  opens := (Json.exact_value depth).opens
  complete := by
    intro value part rest spelled ended
    rcases spells_cases spelled with scalar | ⟨items, others, rfl, rfl⟩ | ⟨members, others, rfl, rfl⟩
    · have read := Json.exact_scalar.complete scalar ended
      obtain ⟨b, others, rfl, -, noArray, noObject⟩ := Json.opens_of_scalar scalar
      rw [expectScalar, if_neg (by simp [noArray]), if_neg (by simp [noObject])]
      apply Json.taken_bind read
      intro shorter
      dsimp only
      cases accept value <;> rfl
    · rw [array]
      rfl
    · rw [object]
      rfl
  sound := by
    intro text rest result read ended
    unfold expectScalar at read
    split at read
    · cases read
    · split at read
      · cases read
      · obtain ⟨value, left, shorter, took, read⟩ := Json.taken_bind_iff.mp read
        dsimp only at read
        split at read
        · next accepted =>
          cases read
          obtain ⟨part, same, scalar⟩ := Json.scalar_sound took ended
          exact ⟨value, part, same, Json.spells_of_scalar scalar depth, accepted⟩
        · cases read

theorem exact_text (depth : Nat) : Exact text (Spells StandsFor depth) Json.string? :=
  exact_expectScalar (fun _ => rfl) (fun _ => rfl) depth

theorem exact_textOrNull (depth : Nat) : Exact textOrNull (Spells StandsFor depth) (orNull Json.string?) :=
  exact_expectScalar (fun _ => rfl) (fun _ => rfl) depth

theorem exact_flagOrNull (depth : Nat) : Exact flagOrNull (Spells StandsFor depth) (orNull flag?) :=
  exact_expectScalar (fun _ => rfl) (fun _ => rfl) depth

theorem taken_expectScalar_none (bytes : Bytes) :
    Json.taken (expectScalar expected (fun _ => (none : Option α)) bytes) = none := by
  unfold expectScalar
  split
  · rfl
  · split
    · rfl
    · cases Json.scalar bytes <;> rfl

theorem taken_texts_array (rest : Bytes) :
    Json.taken (texts (Ascii.openBracket :: rest)) = Json.taken (Json.items text rest) := by
  rw [texts, if_pos rfl]
  cases Json.items text rest <;> rfl

theorem taken_texts_other {b : UInt8} (other : b ≠ Ascii.openBracket) (rest : Bytes) :
    Json.taken (texts (b :: rest)) = none := by
  rw [texts, if_neg other]
  exact taken_expectScalar_none _

theorem exact_texts (depth : Nat) : Exact texts (Spells StandsFor (depth + 1)) texts? where
  opens := (Json.exact_value (depth + 1)).opens
  complete := by
    intro value part rest spelled ended
    cases spelled with
    | scalar scalar =>
      obtain ⟨b, others, rfl, -, array, -⟩ := Json.opens_of_scalar scalar
      rw [List.cons_append, taken_texts_other array]
      cases scalar <;> rfl
    | array group =>
      rw [List.cons_append, List.append_assoc, taken_texts_array, List.singleton_append,
        (exact_text depth).items_complete group]
      rfl
    | object _ =>
      rw [List.cons_append, taken_texts_other (by decide)]
      rfl
  sound := by
    intro text rest result read ended
    cases text with
    | nil => cases read
    | cons b behind =>
      by_cases array : b = Ascii.openBracket
      · rw [array, taken_texts_array] at read
        obtain ⟨items, inside, rfl, group, made⟩ := (exact_text depth).items_sound read
        exact ⟨.array items, _, by simp [array], .array group, made⟩
      · rw [taken_texts_other array] at read
        cases read

/-! ## Members -/

theorem Known.exact (known : Known) : Exact known.reader (Spells StandsFor extraDepth) known.decode? := by
  cases known with
  | rulesVersion => exact exact_text _
  | capabilities => exact exact_texts _
  | result | standalone => exact exact_flagOrNull _
  | rulesSource | version | release | time => exact exact_textOrNull _

theorem field_known (known : Known) (draft : Draft) :
    field draft known.name = once known.name (known.given draft) known.reader (known.give draft) := by
  cases known <;> rfl

theorem field_other {key : String} (other : known? key = none) (draft : Draft) :
    field draft key = fun rest =>
      (afterColon (Json.value extraDepth) rest).map (·.map fun value =>
        { draft with extra := Json.Members.insert key value draft.extra }) := by
  have apart (known : Known) : known.name ≠ key := name_ne_of_known?_eq_none other known
  funext rest
  unfold field
  split
  · exact absurd rfl (apart .rulesVersion)
  · exact absurd rfl (apart .rulesSource)
  · exact absurd rfl (apart .result)
  · exact absurd rfl (apart .version)
  · exact absurd rfl (apart .release)
  · exact absurd rfl (apart .standalone)
  · exact absurd rfl (apart .time)
  · exact absurd rfl (apart .capabilities)
  · rfl

theorem afterColon_map {σ : Type} (reader : Reader α) (turn : α → σ) :
    Json.AfterColon reader turn fun rest => (afterColon reader rest).map (·.map turn) := by
  intro text
  refine ⟨fun left => (Json.afterBlanks reader left.1).map fun read =>
    ⟨turn read.value, read.rest, Nat.lt_trans read.shorter left.2⟩, ?_, fun left => ?_⟩
  · dsimp only
    unfold afterColon
    cases Json.colon text with
    | error fault => rfl
    | ok left =>
      change Except.map _ (Json.afterBlanks reader left.1 >>= _) = Except.map _ (Json.afterBlanks reader left.1)
      cases Json.afterBlanks reader left.1 <;> rfl
  · rw [← Json.taken_afterBlanks]
    exact Json.taken_map fun _ => ⟨rfl, rfl⟩

theorem exact_field : Json.ExactMember field (Spells StandsFor extraDepth) Draft.add? where
  complete := by
    intro draft name content before after part rest leading trailing spelled ended
    unfold Draft.add?
    dsimp only
    cases found : known? name with
    | none =>
      rw [field_other found]
      exact (afterColon_map _ _).complete (Json.exact_value extraDepth) leading trailing spelled ended
    | some known =>
      rw [← known?_eq_some_iff.mp found, field_known]
      dsimp only
      unfold once
      split
      · rfl
      · exact (afterColon_map _ _).complete known.exact leading trailing spelled ended
  sound := by
    intro draft result name text rest read ended
    unfold Draft.add?
    dsimp only
    cases found : known? name with
    | none =>
      rw [field_other found] at read
      exact (afterColon_map _ _).sound (Json.exact_value extraDepth) read ended
    | some known =>
      rw [← known?_eq_some_iff.mp found, field_known] at read
      dsimp only
      unfold once at read
      split at read
      · cases read
      · next fresh =>
        simp only [if_neg fresh]
        exact (afterColon_map _ _).sound known.exact read ended

/-! ## Whole bodies -/

variable {body : Bytes} {status : Status} {entries : List (String × Json)}

def ofEntries? (entries : List (String × Json)) : Option Status :=
  (entries.foldlM Draft.add? {}).bind Draft.finish?

theorem taken_reader_object (rest : Bytes) :
    Json.taken (reader (Ascii.openBrace :: rest)) =
      (Json.taken (Json.members field {} rest)).bind fun read => read.1.finish?.map (·, read.2) := by
  rw [reader, if_pos rfl]
  apply Json.taken_bind_eq
  intro draft left shorter
  dsimp only
  cases draft.finish? <;> rfl

theorem taken_reader_other {b : UInt8} (other : b ≠ Ascii.openBrace) (rest : Bytes) :
    Json.taken (reader (b :: rest)) = none := by
  rw [reader, if_neg other]
  exact taken_expectScalar_none _

/-- A status is read from objects, as what their members describe. -/
theorem exact_reader : Exact reader (Json.ObjectOf StandsFor extraDepth) ofEntries? where
  opens := by
    rintro entries _ ⟨inside, rfl, -⟩
    exact ⟨Ascii.openBrace, _, rfl, by decide⟩
  complete := by
    rintro entries _ rest ⟨inside, rfl, group⟩ ended
    rw [List.cons_append, List.append_assoc, taken_reader_object, List.singleton_append,
      exact_field.members_complete group, ofEntries?]
    cases entries.foldlM Draft.add? {} <;> rfl
  sound := by
    intro text rest status read ended
    cases text with
    | nil => cases read
    | cons b behind =>
      by_cases object : b = Ascii.openBrace
      · rw [object, taken_reader_object] at read
        obtain ⟨⟨draft, left⟩, took, read⟩ := Option.bind_eq_some_iff.mp read
        obtain ⟨status, finished, same⟩ := Option.map_eq_some_iff.mp read
        cases same
        obtain ⟨entries, inside, rfl, group, gathered⟩ := exact_field.members_sound took
        refine ⟨entries, _, by simp [object], ⟨inside, rfl, group⟩, ?_⟩
        rw [ofEntries?, gathered]
        exact finished
      · rw [taken_reader_other object] at read
        cases read

theorem parse_eq_ok_iff :
    parse body = .ok status ↔
      ∃ entries, Json.Padded (Json.ObjectOf StandsFor extraDepth entries) body ∧
        ofEntries? entries = some status :=
  exact_reader.whole_iff

theorem parse_object (object : Json.Padded (Json.ObjectOf StandsFor extraDepth entries) body) :
    (parse body).toOption = ofEntries? entries :=
  exact_reader.whole_toOption object

end EntitlementRules.Status
