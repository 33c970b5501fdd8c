import EntitlementRules.Proofs.Json.Grammar
import EntitlementRules.Proofs.Json.Taken
import EntitlementRules.Proofs.Text.Utf8.WellFormed

/-! JSON strings: what is read as a string is what the grammar lets stand for its text, and every such
spelling is read. -/
namespace EntitlementRules.Json

variable {text rest bytes : Bytes} {value : String}

/-! ## Escapes -/

theorem hexValue?_eq_some_iff {b : UInt8} {number : Nat} :
    Ascii.hexValue? b = some number ↔ HexDigit b number := by
  have read : ∀ code < 256, ∀ number ∈ Ascii.hexValue? (UInt8.ofNat code), number < 16 ∧
      (UInt8.ofNat code = Ascii.byte (Nat.digitChar number) ∨
        UInt8.ofNat code = Ascii.byte (Nat.digitChar number).toUpper) := by
    decide +kernel
  have written : ∀ number < 16, Ascii.hexValue? (Ascii.byte (Nat.digitChar number)) = some number ∧
      Ascii.hexValue? (Ascii.byte (Nat.digitChar number).toUpper) = some number := by
    decide +kernel
  constructor
  · intro found
    have known := read b.toNat b.toNat_lt number
    rw [UInt8.ofNat_toNat] at known
    exact known found
  · rintro ⟨small, rfl | rfl⟩
    · exact (written number small).1
    · exact (written number small).2

theorem hexNumber_iff {number : Nat} :
    taken (hexNumber text) = some (number, rest) ↔
      ∃ digits, text = digits ++ rest ∧ Hexadecimal digits number := by
  constructor
  · intro read
    unfold hexNumber at read
    split at read
    · next a b c d behind =>
      split at read
      · next values found =>
        simp only [taken_ok, Option.some.injEq, Prod.mk.injEq] at read
        obtain ⟨rfl, rfl⟩ := read
        simp only [List.mapM_cons, List.mapM_nil, Option.bind_eq_bind, Option.pure_def,
          Option.bind_eq_some_iff, hexValue?_eq_some_iff] at found
        obtain ⟨p, first, _, ⟨q, second, _, ⟨r, third, _, ⟨s, fourth, _, ⟨⟩, ⟨⟩⟩, ⟨⟩⟩, ⟨⟩⟩, ⟨⟩⟩ := found
        refine ⟨[a, b, c, d], rfl, ?_⟩
        simpa using Hexadecimal.digits first second third fourth
      · cases read
    · cases read
  · rintro ⟨_, rfl, ⟨first, second, third, fourth⟩⟩
    rw [← hexValue?_eq_some_iff] at first second third fourth
    simp [hexNumber, first, second, third, fourth]

/-- The letter `u` is followed by one unit of 16 bits, or by two that are surrogates of one another. -/
theorem escape_of_unicodeEscape (read : taken (unicodeEscape text) = some (bytes, rest)) :
    ∃ code, text = code ++ rest ∧ Escape (Ascii.byte 'u' :: code) bytes := by
  obtain ⟨high, behind, _, first, read⟩ := taken_bind_iff.mp read
  obtain ⟨lead, rfl, leading⟩ := hexNumber_iff.mp first
  dsimp only at read
  split at read
  · cases read
  · next notTrail =>
    simp only [Bool.and_eq_true, decide_eq_true_eq, not_and, Nat.not_le] at notTrail
    split at read
    · next scalar =>
      simp only [taken_pure, Option.some.injEq, Prod.mk.injEq] at read
      obtain ⟨rfl, rfl⟩ := read
      simp only [Bool.or_eq_true, decide_eq_true_eq] at scalar
      exact ⟨lead, rfl, .unit leading (by omega)⟩
    · next surrogate =>
      simp only [Bool.or_eq_true, decide_eq_true_eq, not_or, Nat.not_lt] at surrogate
      split at read
      · cases read
      · cases read
      · split at read
        · cases read
        · next slash =>
          split at read
          · cases read
          · next letter =>
            obtain rfl := bne_eq_false_iff_eq.mp (Bool.eq_false_iff.mpr slash)
            obtain rfl := bne_eq_false_iff_eq.mp (Bool.eq_false_iff.mpr letter)
            obtain ⟨low, _, _, second, read⟩ := taken_bind_iff.mp read
            obtain ⟨trail, rfl, trailing⟩ := hexNumber_iff.mp second
            split at read
            · cases read
            · next trails =>
              simp only [taken_pure, Option.some.injEq, Prod.mk.injEq] at read
              obtain ⟨rfl, rfl⟩ := read
              simp only [Bool.or_eq_true, decide_eq_true_eq, not_or, Nat.not_lt] at trails
              refine ⟨lead ++ Ascii.backslash :: Ascii.byte 'u' :: trail, by simp, ?_⟩
              exact .pair leading (by omega) trailing trails

theorem unicodeEscape_unit {digits : Bytes} {number : Nat} (written : Hexadecimal digits number)
    (scalar : number < 0xD800 ∨ 0xDFFF < number) :
    taken (unicodeEscape (digits ++ rest)) = some (codePointBytes number, rest) := by
  apply taken_bind (hexNumber_iff.mpr ⟨digits, rfl, written⟩)
  intro shorter
  have notTrail : (decide (0xDC00 ≤ number) && decide (number ≤ 0xDFFF)) = false := by
    simp only [Bool.and_eq_false_iff, decide_eq_false_iff_not]
    omega
  have alone : (decide (number < 0xD800) || decide (0xDBFF < number)) = true := by
    simp only [Bool.or_eq_true, decide_eq_true_eq]
    omega
  simp only [notTrail, alone, Bool.false_eq_true, ↓reduceIte, taken_pure]

theorem unicodeEscape_pair {lead trail : Bytes} {high low : Nat} (first : Hexadecimal lead high)
    (leads : 0xD800 ≤ high ∧ high ≤ 0xDBFF) (second : Hexadecimal trail low)
    (trails : 0xDC00 ≤ low ∧ low ≤ 0xDFFF) :
    taken (unicodeEscape (lead ++ Ascii.backslash :: Ascii.byte 'u' :: (trail ++ rest))) =
      some (codePointBytes (0x10000 + (high - 0xD800) * 0x400 + (low - 0xDC00)), rest) := by
  apply taken_bind (hexNumber_iff.mpr ⟨lead, rfl, first⟩)
  intro shorter
  have notTrail : (decide (0xDC00 ≤ high) && decide (high ≤ 0xDFFF)) = false := by
    simp only [Bool.and_eq_false_iff, decide_eq_false_iff_not]
    omega
  have surrogate : (decide (high < 0xD800) || decide (0xDBFF < high)) = false := by
    simp only [Bool.or_eq_false_iff, decide_eq_false_iff_not]
    omega
  simp only [notTrail, surrogate, bne_self_eq_false, Bool.false_eq_true, ↓reduceIte]
  apply taken_bind (hexNumber_iff.mpr ⟨trail, rfl, second⟩)
  intro later
  have trailing : (decide (low < 0xDC00) || decide (0xDFFF < low)) = false := by
    simp only [Bool.or_eq_false_iff, decide_eq_false_iff_not]
    omega
  simp only [trailing, Bool.false_eq_true, ↓reduceIte, taken_pure]

theorem simpleEscape?_eq_some_iff {letter b : UInt8} :
    simpleEscape? letter = some b ↔
      ∃ entry ∈ letterEscapes, letter = Ascii.byte entry.1 ∧ b = Ascii.byte entry.2 := by
  have read : ∀ code < 256, ∀ b ∈ simpleEscape? (UInt8.ofNat code),
      ∃ entry ∈ letterEscapes, UInt8.ofNat code = Ascii.byte entry.1 ∧ b = Ascii.byte entry.2 := by
    decide +kernel
  have written : ∀ entry ∈ letterEscapes,
      simpleEscape? (Ascii.byte entry.1) = some (Ascii.byte entry.2) := by
    decide
  constructor
  · intro found
    have known := read letter.toNat letter.toNat_lt b
    rw [UInt8.ofNat_toNat] at known
    exact known found
  · rintro ⟨entry, known, rfl, rfl⟩
    exact written entry known

theorem taken_escape_unicode (text : Bytes) :
    taken (escape (Ascii.byte 'u' :: text)) = taken (unicodeEscape text) := by
  have plain : simpleEscape? (Ascii.byte 'u') = none := by decide
  rw [escape, plain]
  cases unicodeEscape text <;> rfl

theorem escape_iff :
    taken (escape text) = some (bytes, rest) ↔ ∃ code, text = code ++ rest ∧ Escape code bytes := by
  constructor
  · intro read
    cases text with
    | nil => cases read
    | cons letter behind =>
      by_cases unicode : letter = Ascii.byte 'u'
      · subst unicode
        rw [taken_escape_unicode] at read
        obtain ⟨code, rfl, written⟩ := escape_of_unicodeEscape read
        exact ⟨_, rfl, written⟩
      · rw [escape] at read
        cases simple : simpleEscape? letter with
        | none =>
          simp only [simple, unicode, ↓reduceIte] at read
          cases read
        | some b =>
          rw [simple] at read
          cases read
          obtain ⟨entry, known, rfl, rfl⟩ := simpleEscape?_eq_some_iff.mp simple
          exact ⟨[Ascii.byte entry.1], rfl, .letter known⟩
  · rintro ⟨code, rfl, written⟩
    cases written with
    | letter known =>
      have simple := simpleEscape?_eq_some_iff.mpr ⟨_, known, rfl, rfl⟩
      rw [List.cons_append, escape, simple]
      rfl
    | unit digits scalar => exact (taken_escape_unicode _).trans (unicodeEscape_unit digits scalar)
    | pair first leads second trails =>
      rw [List.cons_append, List.append_assoc]
      exact (taken_escape_unicode _).trans (unicodeEscape_pair first leads second trails)

/-! ## Strings -/

theorem stringBytes_iff :
    taken (stringBytes text) = some (bytes, rest) ↔
      ∃ inside, text = inside ++ Ascii.quotation :: rest ∧ Characters inside bytes := by
  constructor
  · intro read
    -- The induction follows the reader, one byte or one escape at a time.
    induction text using stringBytes.induct generalizing bytes with
    | case1 =>
      rw [stringBytes] at read
      cases read
    | case2 behind =>
      rw [stringBytes, if_pos rfl] at read
      cases read
      exact ⟨[], rfl, .nil⟩
    | case3 behind other ih =>
      rw [stringBytes, if_neg other, if_pos rfl] at read
      obtain ⟨character, middle, shorter, found, read⟩ := taken_bind_iff.mp read
      obtain ⟨more, _, _, later, read⟩ := taken_bind_iff.mp read
      simp only [taken_pure, Option.some.injEq, Prod.mk.injEq] at read
      obtain ⟨rfl, rfl⟩ := read
      obtain ⟨code, rfl, written⟩ := escape_iff.mp found
      obtain ⟨inside, rfl, characters⟩ := ih ⟨character, middle, shorter⟩ later
      exact ⟨Ascii.backslash :: (code ++ inside), by simp, .escaped written characters⟩
    | case4 b behind unquoted bare control =>
      rw [stringBytes, if_neg unquoted, if_neg bare, if_pos control] at read
      cases read
    | case5 b behind unquoted bare printable ih =>
      rw [stringBytes, if_neg unquoted, if_neg bare, if_neg printable] at read
      obtain ⟨more, _, _, later, read⟩ := taken_bind_iff.mp read
      simp only [taken_pure, Option.some.injEq, Prod.mk.injEq] at read
      obtain ⟨rfl, rfl⟩ := read
      obtain ⟨inside, rfl, characters⟩ := ih later
      exact ⟨b :: inside, rfl, .plain (UInt8.not_lt.mp printable) unquoted bare characters⟩
  · rintro ⟨inside, rfl, written⟩
    induction written with
    | nil =>
      rw [List.nil_append, stringBytes, if_pos rfl]
      rfl
    | plain printable unquoted bare _ ih =>
      rw [List.cons_append, stringBytes, if_neg unquoted, if_neg bare,
        if_neg (UInt8.not_lt.mpr printable)]
      exact taken_bind ih fun _ => rfl
    | escaped written _ ih =>
      rw [List.cons_append, List.append_assoc, stringBytes, if_neg (by decide), if_pos rfl]
      exact taken_bind (escape_iff.mpr ⟨_, rfl, written⟩) fun _ => taken_bind ih fun _ => rfl

theorem stringBody_iff :
    taken (stringBody text) = some (value, rest) ↔
      ∃ inside, text = inside ++ Ascii.quotation :: rest ∧
        Characters inside (Text.Utf8.encode value) := by
  rw [← stringBytes_iff]
  constructor
  · intro read
    obtain ⟨bytes, _, _, found, read⟩ := taken_bind_iff.mp read
    dsimp only at read
    split at read
    · next decoded =>
      simp only [taken_pure, Option.some.injEq, Prod.mk.injEq] at read
      obtain ⟨rfl, rfl⟩ := read
      rw [← Text.Utf8.decode?_eq_some_iff.mp decoded]
      exact found
    · cases read
  · intro found
    apply taken_bind found
    intro shorter
    simp only [Text.Utf8.decode?_encode, taken_pure]

/-- A string is read as the text that it stands for, up to its closing quotation mark. -/
theorem stringLiteral_iff :
    taken (stringLiteral text) = some (value, rest) ↔
      ∃ literal, text = literal ++ rest ∧ Literal literal value := by
  have opened (behind : Bytes) :
      taken (stringLiteral (Ascii.quotation :: behind)) = taken (stringBody behind) := by
    rw [stringLiteral, if_pos rfl]
    cases stringBody behind <;> rfl
  constructor
  · intro read
    cases text with
    | nil => cases read
    | cons b behind =>
      by_cases quoted : b = Ascii.quotation
      · subst quoted
        rw [opened] at read
        obtain ⟨inside, rfl, characters⟩ := stringBody_iff.mp read
        exact ⟨Ascii.quotation :: (inside ++ [Ascii.quotation]), by simp, inside, rfl, characters⟩
      · rw [stringLiteral, if_neg quoted] at read
        cases read
  · rintro ⟨literal, rfl, inside, rfl, characters⟩
    rw [List.cons_append, opened]
    exact stringBody_iff.mpr ⟨inside, by simp, characters⟩

end EntitlementRules.Json
