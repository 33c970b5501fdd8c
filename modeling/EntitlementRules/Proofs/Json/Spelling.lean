import EntitlementRules.Proofs.Json.Members

/-! JSON values: what is read is what the grammar writes, with each numeral read as the number that it stands
for. -/
namespace EntitlementRules.Json

variable {text part rest before after : Bytes} {b : UInt8} {number : Number} {value : Json} {depth : Nat}

/-! ## Scalars -/

theorem word_iff {expected : Bytes} :
    (word expected text).toOption.map Subtype.val = some rest ↔ text = expected ++ rest := by
  induction expected generalizing text with
  | nil => exact Option.some_inj
  | cons e others ih =>
    cases text with
    | nil => exact iff_of_false (fun read => by cases read) nofun
    | cons b behind =>
      rw [word]
      split
      · next same =>
        have shifted : (word (e :: others) (b :: behind)).toOption.map Subtype.val =
            (word others behind).toOption.map Subtype.val := by
          rw [word, if_pos same]
          cases word others behind <;> rfl
        rw [word, if_pos same] at shifted
        rw [shifted, ih, same, List.cons_append, List.cons_eq_cons, and_iff_right rfl]
      · next other =>
        exact iff_of_false (fun read => by cases read) fun same => other (List.cons_eq_cons.mp same).1

theorem taken_scalar_null (rest : Bytes) :
    taken (scalar (Ascii.byte 'n' :: rest)) =
      ((word [117, 108, 108] rest).toOption.map Subtype.val).map (.null, ·) := by
  rw [scalar]
  cases word [117, 108, 108] rest <;> rfl

theorem taken_scalar_true (rest : Bytes) :
    taken (scalar (Ascii.byte 't' :: rest)) =
      ((word [114, 117, 101] rest).toOption.map Subtype.val).map (.bool true, ·) := by
  rw [scalar]
  cases word [114, 117, 101] rest <;> rfl

theorem taken_scalar_false (rest : Bytes) :
    taken (scalar (Ascii.byte 'f' :: rest)) =
      ((word [97, 108, 115, 101] rest).toOption.map Subtype.val).map (.bool false, ·) := by
  rw [scalar]
  cases word [97, 108, 115, 101] rest <;> rfl

theorem taken_scalar_minus (rest : Bytes) :
    taken (scalar (Ascii.minus :: rest)) =
      (unsignedNumber true rest).toOption.map fun read => (.number read.1, read.2) := by
  rw [scalar]
  dsimp only
  rw [if_neg (by decide), if_neg (by decide), if_neg (by decide), if_pos rfl]
  split
  · next found =>
    rw [found]
    rfl
  · next found =>
    rw [taken_ok, found]
    rfl

theorem taken_scalar_digit {others : Bytes} (digit : Ascii.isDigit b = true) :
    taken (scalar (b :: others)) =
      (unsignedNumber false (b :: others)).toOption.map fun read => (.number read.1, read.2) := by
  have other {c : UInt8} (letter : Ascii.isDigit c = false) : b ≠ c := by
    rintro rfl
    cases digit.symm.trans letter
  rw [scalar]
  dsimp only
  rw [if_neg (other (by decide)), if_neg (other (by decide)), if_neg (other (by decide)),
    if_neg (other (by decide)), if_pos digit]
  split
  · next found =>
    rw [found]
    rfl
  · next found =>
    rw [taken_ok, found]
    rfl

theorem taken_scalar_quotation (rest : Bytes) :
    taken (scalar (Ascii.quotation :: rest)) =
      (taken (stringLiteral (Ascii.quotation :: rest))).map fun read => (.string read.1, read.2) := by
  rw [scalar, stringLiteral]
  cases stringBody rest <;> rfl

theorem taken_scalar_other (n : b ≠ Ascii.byte 'n') (t : b ≠ Ascii.byte 't') (f : b ≠ Ascii.byte 'f')
    (minus : b ≠ Ascii.minus) (digit : ¬ Ascii.isDigit b = true) (quotation : b ≠ Ascii.quotation) :
    taken (scalar (b :: rest)) = none := by
  rw [scalar]
  dsimp only
  rw [if_neg n, if_neg t, if_neg f, if_neg minus, if_neg digit, if_neg quotation]
  rfl

theorem scalar_minus_eq_error {fault : Fault} (refused : unsignedNumber true rest = .error fault) :
    scalar (Ascii.minus :: rest) = .error fault := by
  rw [scalar]
  dsimp only
  rw [if_neg (by decide), if_neg (by decide), if_neg (by decide), if_pos rfl]
  split
  · next found =>
    cases refused.symm.trans found
    rfl
  · next found => cases refused.symm.trans found

theorem scalar_digit_eq_error {others : Bytes} {fault : Fault} (digit : Ascii.isDigit b = true)
    (refused : unsignedNumber false (b :: others) = .error fault) : scalar (b :: others) = .error fault := by
  have other {c : UInt8} (letter : Ascii.isDigit c = false) : b ≠ c := by
    rintro rfl
    cases digit.symm.trans letter
  rw [scalar]
  dsimp only
  rw [if_neg (other (by decide)), if_neg (other (by decide)), if_neg (other (by decide)),
    if_neg (other (by decide)), if_pos digit]
  split
  · next found =>
    cases refused.symm.trans found
    rfl
  · next found => cases refused.symm.trans found

theorem Magnitude.opens (magnitude : Magnitude part) :
    ∃ b others, part = b :: others ∧ Ascii.isDigit b = true := by
  obtain ⟨digits, -, -, -⟩ := magnitude
  obtain ⟨b, others, rfl⟩ := List.exists_cons_of_ne_nil digits.1
  exact ⟨b, _, rfl, digits.2 b (.head _)⟩

/-- A numeral is read as the number that it stands for, whatever comes after it. -/
theorem StandsFor.complete (stands : StandsFor number part) (ended : Ended rest) :
    taken (scalar (part ++ rest)) = some (.number number, rest) := by
  cases stands with
  | positive amounts =>
    obtain ⟨b, others, rfl, digit⟩ := amounts.magnitude.opens
    cases amounts.settles with
    | reads all =>
      rw [List.cons_append, taken_scalar_digit digit, ← List.cons_append, all rest ended]
      rfl
  | negative amounts =>
    cases amounts.settles with
    | reads all =>
      rw [List.cons_append, taken_scalar_minus, all rest ended]
      rfl

theorem OutOfRange.refused (outOfRange : OutOfRange part) (ended : Ended rest) :
    ∃ unread, scalar (part ++ rest) = .error ⟨.outOfRange, unread⟩ := by
  cases outOfRange with
  | positive beyond =>
    obtain ⟨b, others, rfl, digit⟩ := beyond.magnitude.opens
    cases beyond.settles false with
    | refuses all =>
      obtain ⟨unread, refused⟩ := all rest ended
      exact ⟨unread, scalar_digit_eq_error digit refused⟩
  | negative beyond =>
    cases beyond.settles true with
    | refuses all =>
      obtain ⟨unread, refused⟩ := all rest ended
      exact ⟨unread, scalar_minus_eq_error refused⟩

theorem ended_nil : Ended [] := nofun

theorem Numeral.stands_iff (numeral : Numeral part) :
    (∃ number, StandsFor number part) ↔ ¬ OutOfRange part := by
  refine ⟨fun ⟨_, stands⟩ outOfRange => ?_, numeral.stands_or_outOfRange.resolve_right⟩
  have read := stands.complete ended_nil
  obtain ⟨unread, refused⟩ := outOfRange.refused ended_nil
  rw [refused] at read
  cases read

theorem exists_numeral (numeral : Numeral part)
    (read : taken (scalar (part ++ rest)) = some (value, rest)) (ended : Ended rest) :
    ∃ number, value = .number number ∧ StandsFor number part := by
  rcases numeral.stands_or_outOfRange with ⟨number, stands⟩ | outOfRange
  · rw [stands.complete ended] at read
    cases read
    exact ⟨number, rfl, stands⟩
  · obtain ⟨unread, refused⟩ := outOfRange.refused ended
    rw [refused] at read
    cases read

theorem exists_of_toOption_map {result : Except Fault (Number × Bytes)}
    (read : (result.toOption.map fun read => (Json.number read.1, read.2)) = some (value, rest)) :
    ∃ number, result = .ok (number, rest) := by
  cases result with
  | error fault => cases read
  | ok found =>
    cases read
    exact ⟨found.1, rfl⟩

theorem scalar_sound (read : taken (scalar text) = some (value, rest)) (ended : Ended rest) :
    ∃ part, text = part ++ rest ∧ Scalar StandsFor value part := by
  cases text with
  | nil => cases read
  | cons b behind =>
    by_cases n : b = Ascii.byte 'n'
    · rw [n, taken_scalar_null] at read
      obtain ⟨left, found, same⟩ := Option.map_eq_some_iff.mp read
      cases same
      exact ⟨_, congrArg₂ List.cons n (word_iff.mp found), .null⟩
    by_cases t : b = Ascii.byte 't'
    · rw [t, taken_scalar_true] at read
      obtain ⟨left, found, same⟩ := Option.map_eq_some_iff.mp read
      cases same
      exact ⟨_, congrArg₂ List.cons t (word_iff.mp found), .true⟩
    by_cases f : b = Ascii.byte 'f'
    · rw [f, taken_scalar_false] at read
      obtain ⟨left, found, same⟩ := Option.map_eq_some_iff.mp read
      cases same
      exact ⟨_, congrArg₂ List.cons f (word_iff.mp found), .false⟩
    by_cases minus : b = Ascii.minus
    · have whole := read
      rw [minus, taken_scalar_minus] at read
      obtain ⟨number, found⟩ := exists_of_toOption_map read
      obtain ⟨part, rfl, magnitude⟩ := exists_magnitude found
      rw [minus, ← List.cons_append] at whole
      obtain ⟨number, rfl, stands⟩ := exists_numeral (.negative magnitude) whole ended
      exact ⟨_, congrArg (List.cons · _) minus, .number (.negative magnitude) stands⟩
    by_cases digit : Ascii.isDigit b = true
    · have whole := read
      rw [taken_scalar_digit digit] at read
      obtain ⟨number, found⟩ := exists_of_toOption_map read
      obtain ⟨part, same, magnitude⟩ := exists_magnitude found
      rw [same] at whole
      obtain ⟨number, rfl, stands⟩ := exists_numeral (.positive magnitude) whole ended
      exact ⟨part, same, .number (.positive magnitude) stands⟩
    by_cases quotation : b = Ascii.quotation
    · rw [quotation, taken_scalar_quotation] at read
      obtain ⟨⟨text, left⟩, found, same⟩ := Option.map_eq_some_iff.mp read
      cases same
      obtain ⟨part, same, literal⟩ := stringLiteral_iff.mp found
      exact ⟨part, quotation ▸ same, .string literal⟩
    · rw [taken_scalar_other n t f minus digit quotation] at read
      cases read

theorem opens_of_scalar (spelled : Scalar StandsFor value part) :
    ∃ b others, part = b :: others ∧ (isBlank b = false ∧ b ≠ Ascii.closeBracket ∧ b ≠ Ascii.closeBrace) ∧
      b ≠ Ascii.openBracket ∧ b ≠ Ascii.openBrace := by
  cases spelled with
  | null => exact ⟨110, _, rfl, by decide⟩
  | true => exact ⟨116, _, rfl, by decide⟩
  | false => exact ⟨102, _, rfl, by decide⟩
  | string literal =>
    obtain ⟨inside, rfl, -⟩ := literal
    exact ⟨Ascii.quotation, _, rfl, by decide⟩
  | number numeral _ =>
    cases numeral with
    | negative _ => exact ⟨Ascii.minus, _, rfl, by decide⟩
    | positive magnitude =>
      obtain ⟨b, others, rfl, digit⟩ := magnitude.opens
      have other {c : UInt8} (letter : Ascii.isDigit c = false) : b ≠ c := by
        rintro rfl
        cases digit.symm.trans letter
      have solid : isBlank b = false := by
        rw [← Bool.not_eq_true, isBlank_iff]
        rintro (rfl | rfl | rfl | rfl) <;> cases digit
      exact ⟨b, others, rfl, ⟨solid, other (by decide), other (by decide)⟩, other (by decide),
        other (by decide)⟩

theorem exact_scalar : Exact scalar (Scalar StandsFor) some where
  opens := by
    intro value text spelled
    obtain ⟨b, others, same, solid, -⟩ := opens_of_scalar spelled
    exact ⟨b, others, same, solid⟩
  complete := by
    intro value text rest spelled ended
    cases spelled with
    | null => exact (taken_scalar_null _).trans (congrArg _ (word_iff.mpr rfl))
    | true => exact (taken_scalar_true _).trans (congrArg _ (word_iff.mpr rfl))
    | false => exact (taken_scalar_false _).trans (congrArg _ (word_iff.mpr rfl))
    | number _ stands => exact stands.complete ended
    | string literal =>
      obtain ⟨inside, rfl, characters⟩ := literal
      rw [List.cons_append, taken_scalar_quotation, ← List.cons_append,
        stringLiteral_iff.mpr ⟨_, rfl, inside, rfl, characters⟩]
      rfl
  sound := by
    intro text rest value read ended
    obtain ⟨part, same, spelled⟩ := scalar_sound read ended
    exact ⟨value, part, same, spelled, rfl⟩

/-! ## Values -/

theorem spells_of_scalar (scalar : Scalar StandsFor value part) (depth : Nat) :
    Spells StandsFor depth value part := by
  cases depth with
  | zero => exact scalar
  | succ depth => exact .scalar scalar

variable {inner : Reader Json} {written : Json → Bytes → Prop}

theorem afterColon_setMember (inner : Reader Json) (gathered : Members) (name : String) :
    AfterColon inner (Members.insert name · gathered) (setMember inner gathered name) := by
  intro text
  refine ⟨_, rfl, fun left => ?_⟩
  rw [Option.map_eq_bind, ← taken_afterBlanks]
  exact taken_bind_eq fun _ _ _ => rfl

theorem exactMember_setMember (exact : Exact inner written some) :
    ExactMember (setMember inner) written fun members entry =>
      some (Members.insert entry.1 entry.2 members) where
  complete := by
    intro gathered name content before after part rest leading trailing spelled ended
    exact (afterColon_setMember inner gathered name).complete exact leading trailing spelled ended
  sound := by
    intro gathered result name text rest read ended
    exact (afterColon_setMember inner gathered name).sound exact read ended

theorem mapM_some {α : Type} (items : List α) : items.mapM some = some items := by
  induction items with
  | nil => rfl
  | cons item rest ih => simp [ih]

theorem foldlM_insert (entries : List (String × Json)) (members : Members) :
    entries.foldlM (fun members entry => some (Members.insert entry.1 entry.2 members)) members =
      some (entries.foldl (fun members entry => Members.insert entry.1 entry.2 members) members) := by
  induction entries generalizing members with
  | nil => rfl
  | cons entry rest ih => exact ih _

theorem valueOver_scalar (inner : Option (Reader Json)) (array : b ≠ Ascii.openBracket)
    (object : b ≠ Ascii.openBrace) (rest : Bytes) : valueOver inner (b :: rest) = scalar (b :: rest) := by
  unfold valueOver
  dsimp only
  rw [if_neg array, if_neg object]

theorem taken_valueOver_array (inner : Reader Json) (rest : Bytes) :
    taken (valueOver (some inner) (Ascii.openBracket :: rest)) =
      (taken (items inner rest)).map fun read => (.array read.1, read.2) := by
  unfold valueOver
  dsimp only
  rw [if_pos rfl]
  cases items inner rest <;> rfl

theorem taken_valueOver_object (inner : Reader Json) (rest : Bytes) :
    taken (valueOver (some inner) (Ascii.openBrace :: rest)) =
      (taken (members (setMember inner) [] rest)).map fun read => (.object read.1, read.2) := by
  unfold valueOver
  dsimp only
  rw [if_neg (by decide), if_pos rfl]
  cases members (setMember inner) [] rest <;> rfl

/-- A value whose parts are read exactly is read exactly itself. -/
theorem exact_valueOver (exact : Exact inner written some) :
    Exact (valueOver (some inner)) (Level StandsFor written) some where
  opens := by
    intro value text spelled
    cases spelled with
    | scalar scalar => exact exact_scalar.opens scalar
    | array _ => exact ⟨Ascii.openBracket, _, rfl, by decide⟩
    | object _ => exact ⟨Ascii.openBrace, _, rfl, by decide⟩
  complete := by
    intro value text rest spelled ended
    cases spelled with
    | scalar scalar =>
      have read := exact_scalar.complete scalar ended
      obtain ⟨b, others, rfl, -, array, object⟩ := opens_of_scalar scalar
      exact (congrArg taken (valueOver_scalar _ array object _)).trans read
    | array group =>
      rw [List.cons_append, List.append_assoc, taken_valueOver_array, List.singleton_append,
        exact.items_complete group, mapM_some]
      rfl
    | object group =>
      rw [List.cons_append, List.append_assoc, taken_valueOver_object, List.singleton_append,
        (exactMember_setMember exact).members_complete group, foldlM_insert]
      rfl
  sound := by
    intro text rest value read ended
    refine ⟨value, ?_⟩
    cases text with
    | nil => cases read
    | cons b behind =>
      by_cases array : b = Ascii.openBracket
      · rw [array, taken_valueOver_array] at read
        obtain ⟨⟨values, left⟩, took, same⟩ := Option.map_eq_some_iff.mp read
        cases same
        obtain ⟨items, inside, rfl, group, made⟩ := exact.items_sound took
        cases (mapM_some items).symm.trans made
        exact ⟨_, by simp [array], .array group, rfl⟩
      · by_cases object : b = Ascii.openBrace
        · rw [object, taken_valueOver_object] at read
          obtain ⟨⟨members, left⟩, took, same⟩ := Option.map_eq_some_iff.mp read
          cases same
          obtain ⟨entries, inside, rfl, group, made⟩ := (exactMember_setMember exact).members_sound took
          cases (foldlM_insert entries []).symm.trans made
          exact ⟨_, by simp [object], .object group, rfl⟩
        · rw [valueOver_scalar _ array object] at read
          obtain ⟨part, same, spelled⟩ := scalar_sound read ended
          exact ⟨part, same, .scalar spelled, rfl⟩

/-- Where nothing may open, only values without parts are read. -/
theorem exact_valueOver_none : Exact (valueOver none) (Scalar StandsFor) some where
  opens := exact_scalar.opens
  complete := by
    intro value text rest spelled ended
    have read := exact_scalar.complete spelled ended
    obtain ⟨b, others, rfl, -, array, object⟩ := opens_of_scalar spelled
    exact (congrArg taken (valueOver_scalar _ array object _)).trans read
  sound := by
    intro text rest value read ended
    cases text with
    | nil => cases read
    | cons b behind =>
      by_cases array : b = Ascii.openBracket
      · rw [array] at read
        cases read
      · by_cases object : b = Ascii.openBrace
        · rw [object] at read
          cases read
        · rw [valueOver_scalar _ array object] at read
          exact exact_scalar.sound read ended

theorem exact_value (depth : Nat) : Exact (Json.value depth) (Spells StandsFor depth) some := by
  induction depth with
  | zero => exact exact_valueOver_none
  | succ depth ih => exact exact_valueOver ih

/-! ## Whole texts -/

variable {α β : Type} {reader : Reader β} {spells : α → Bytes → Prop} {make : α → Option β} {result : β}

theorem ended_of_all_blanks (blanks : Blanks rest) : Ended rest := by
  have ended := ended_of_blanks blanks ended_nil
  rwa [List.append_nil] at ended

/-- A whole text is read where it is written for a value of which something is made. -/
theorem Exact.whole_iff (exact : Exact reader spells make) :
    whole reader text = .ok result ↔
      ∃ content, Padded (spells content) text ∧ make content = some result := by
  rw [whole_eq_ok_iff]
  constructor
  · rintro ⟨rest, read, blanks⟩
    obtain ⟨content, part, found, spelled, made⟩ := exact.sound read (ended_of_all_blanks blanks)
    obtain ⟨before, leading, same⟩ := exists_blanks text
    rw [same, found]
    exact ⟨content, .around leading spelled blanks, made⟩
  · rintro ⟨content, ⟨leading, spelled, trailing⟩, made⟩
    refine ⟨_, ?_, trailing⟩
    rw [exact.skipBlanks leading spelled, exact.complete spelled (ended_of_all_blanks trailing), made]
    rfl

/-- What becomes of a text depends on the value that it is written for. -/
theorem Exact.whole_toOption {content : α} (exact : Exact reader spells make)
    (padded : Padded (spells content) text) : (whole reader text).toOption = make content := by
  cases made : make content with
  | some result => rw [exact.whole_iff.mpr ⟨content, padded, made⟩, Except.toOption]
  | none =>
    cases read : whole reader text with
    | error fault => rfl
    | ok result =>
      obtain ⟨rest, taken, blanks⟩ := whole_eq_ok_iff.mp read
      obtain ⟨leading, spelled, trailing⟩ := padded
      rw [exact.skipBlanks leading spelled, exact.complete spelled (ended_of_all_blanks trailing),
        made] at taken
      cases taken

/-- A text is read as a value exactly where it writes that value. -/
theorem parse_eq_ok_iff : parse text = .ok value ↔ Padded (Spells StandsFor depthLimit value) text := by
  rw [parse, (exact_value depthLimit).whole_iff]
  simp

end EntitlementRules.Json
