import EntitlementRules.Proofs.Rules.Version
import EntitlementRules.Proofs.Text.Blank
import EntitlementRules.Proofs.Text.Numeral
import EntitlementRules.Proofs.Text.Utf8

/-! Spellings of versions: which texts are read as a version, and that the version's own text is the shortest
of them. -/
namespace EntitlementRules.Version

open Text (Numeral)

variable {text : String} {version : Version} {error : RulesError}

/-- The texts that spell a version: two numerals with a point between them, and any blanks around. -/
inductive Spelled (version : Version) : String → Prop where
  | intro {leading major minor trailing : String} (before : ∀ c ∈ leading.toList, Text.isBlank c = true)
      (first : Numeral major version.major.toNat) (second : Numeral minor version.minor.toNat)
      (after : ∀ c ∈ trailing.toList, Text.isBlank c = true) :
      Spelled version (leading ++ (major ++ "." ++ minor) ++ trailing)

/-! ## Reading -/

theorem parse_eq_ok_iff : parse text = .ok version ↔ Spelled version text := by
  constructor
  · intro read
    unfold parse at read
    split at read
    · next found recognized =>
      cases read
      obtain ⟨major, minor, first, second, same⟩ := ofChars?_eq_some_iff.mp recognized
      have bare : Text.trim text = major ++ "." ++ minor := by
        rw [← String.toList_inj, same]
        simp
      obtain ⟨leading, trailing, whole, before, after⟩ := Text.exists_blanks_around text
      rw [bare] at whole
      rw [whole]
      exact .intro before first second after
    · cases read
  · rintro @⟨leading, major, minor, trailing, before, first, second, after⟩
    have recognized : ofChars? (major ++ "." ++ minor).toList = some version :=
      ofChars?_eq_some_iff.mpr ⟨major, minor, first, second, by simp⟩
    rw [parse, Text.trim_around before after, trim_numerals first second, recognized]

/-- All other texts are refused, and quoted with the blanks around them. -/
theorem parse_eq_error_iff :
    parse text = .error error ↔ (∀ version, ¬ Spelled version text) ∧ error = .invalidVersion text := by
  cases read : parse text with
  | ok version =>
    have spelled := parse_eq_ok_iff.mp read
    exact ⟨nofun, fun ⟨never, _⟩ => (never version spelled).elim⟩
  | error refusal =>
    have quoted : refusal = .invalidVersion text := by
      unfold parse at read
      split at read
      · cases read
      · cases read
        rfl
    have never (version : Version) (spelled : Spelled version text) : False := by
      cases read.symm.trans (parse_eq_ok_iff.mpr spelled)
    constructor
    · rintro ⟨⟩
      exact ⟨never, quoted⟩
    · rintro ⟨-, rfl⟩
      rw [quoted]

/-! ## Length -/

/-- A spelling is the version's text with more around it and zeros in front of its two numbers. -/
theorem Spelled.toList_eq (spelled : Spelled version text) :
    ∃ leading trailing zeros more, text.toList =
      leading ++ (List.replicate zeros '0' ++ Nat.toDigits 10 version.major.toNat) ++
        '.' :: (List.replicate more '0' ++ Nat.toDigits 10 version.minor.toNat) ++ trailing := by
  cases spelled with
  | @intro leading major minor trailing _ first second _ =>
    obtain ⟨zeros, majorDigits⟩ := first.toList_eq
    obtain ⟨more, minorDigits⟩ := second.toList_eq
    refine ⟨leading.toList, trailing.toList, zeros, more, ?_⟩
    rw [← majorDigits, ← minorDigits]
    simp

theorem Spelled.length_text_lt (spelled : Spelled version text) (other : text ≠ version.text) :
    version.text.length < text.length := by
  obtain ⟨leading, trailing, zeros, more, whole⟩ := spelled.toList_eq
  by_contra short
  rw [← String.length_toList, ← String.length_toList, toList_text, whole] at short
  simp only [List.length_append, List.length_cons, List.length_replicate] at short
  -- There is room for nothing but the digits and the point.
  have opens : leading = [] := List.eq_nil_of_length_eq_zero (by omega)
  have closes : trailing = [] := List.eq_nil_of_length_eq_zero (by omega)
  obtain rfl : zeros = 0 := by omega
  obtain rfl : more = 0 := by omega
  apply other
  rw [← String.toList_inj, toList_text, whole, opens, closes]
  simp

/-- The bytes of a spelling are no fewer than its characters, and a version's own text has no more. -/
theorem Spelled.size_text_lt (spelled : Spelled version text) (other : text ≠ version.text) :
    (Text.Utf8.encode version.text).length < (Text.Utf8.encode text).length := by
  have ascii : ∀ c ∈ version.text.toList, c.toNat < 0x80 := fun c member =>
    Nat.lt_of_le_of_lt (visible_of_mem_text member).2 (by decide)
  have bytes := Text.Utf8.length_le_length_encode text
  have shorter := spelled.length_text_lt other
  rw [Text.Utf8.length_encode_ascii ascii]
  omega

end EntitlementRules.Version
