import EntitlementRules.Proofs.Json.Literal
import Mathlib.Data.List.TakeWhile

/-! Whole texts: a value with nothing but blanks around it. -/
namespace EntitlementRules.Json

variable {α : Type} {reader : Reader α} {text before rest : Bytes} {b : UInt8} {value : α}

theorem isBlank_iff : isBlank b = true ↔ b = 32 ∨ b = 10 ∨ b = 9 ∨ b = 13 := by
  simp only [isBlank, Bool.or_eq_true, beq_iff_eq, or_assoc]

theorem blanks_nil : Blanks [] := nofun

theorem Padded.of_written {written : Bytes → Prop} (inside : written text) : Padded written text := by
  have around := Padded.around blanks_nil inside blanks_nil
  rwa [List.nil_append, List.append_nil] at around

theorem skipBlanks_append (blanks : Blanks before) : skipBlanks (before ++ rest) = skipBlanks rest := by
  induction before with
  | nil => rfl
  | cons b others ih =>
    have blank := isBlank_iff.mpr (blanks b (.head _))
    rw [skipBlanks, List.cons_append, List.dropWhile_cons_of_pos blank]
    exact ih fun other member => blanks other (.tail _ member)

theorem skipBlanks_solid (solid : isBlank b = false) : skipBlanks (b :: rest) = b :: rest :=
  List.dropWhile_cons_of_neg (by simp [solid])

theorem skipBlanks_eq_nil_iff : skipBlanks text = [] ↔ Blanks text := by
  rw [skipBlanks, List.dropWhile_eq_nil_iff]
  exact forall₂_congr fun b _ => isBlank_iff

theorem exists_blanks (text : Bytes) : ∃ before, Blanks before ∧ text = before ++ skipBlanks text := by
  refine ⟨text.takeWhile isBlank, fun b member => ?_, List.takeWhile_append_dropWhile.symm⟩
  exact isBlank_iff.mp (List.mem_takeWhile_imp member)

theorem taken_afterBlanks : taken (afterBlanks reader text) = taken (reader (skipBlanks text)) := by
  rw [afterBlanks]
  cases reader (skipBlanks text) <;> rfl

/-- A whole text is read where the reader takes all of it but blanks. -/
theorem whole_eq_ok_iff :
    whole reader text = .ok value ↔
      ∃ rest, taken (reader (skipBlanks text)) = some (value, rest) ∧ Blanks rest := by
  rw [← taken_afterBlanks, whole]
  cases afterBlanks reader text with
  | error fault => simp [bind, Except.bind]
  | ok read =>
    obtain ⟨found, left, shorter⟩ := read
    simp only [bind, Except.bind, taken_ok, Option.some.injEq, Prod.mk.injEq, ← skipBlanks_eq_nil_iff]
    cases behind : skipBlanks left with
    | nil =>
      simp only [pure, Except.pure, Except.ok.injEq]
      constructor
      · rintro rfl
        exact ⟨left, ⟨rfl, rfl⟩, behind⟩
      · rintro ⟨_, ⟨rfl, rfl⟩, -⟩
        rfl
    | cons b others =>
      simp only [reduceCtorEq, false_iff, not_exists, not_and]
      rintro _ ⟨rfl, rfl⟩
      simp [behind]

/-- A whole text is read as a string exactly where it is one in the grammar. -/
theorem whole_stringLiteral_iff {value : String} :
    whole stringLiteral text = .ok value ↔ Padded (Literal · value) text := by
  rw [whole_eq_ok_iff]
  constructor
  · rintro ⟨rest, read, trailing⟩
    obtain ⟨literal, found, written⟩ := stringLiteral_iff.mp read
    obtain ⟨before, leading, same⟩ := exists_blanks text
    rw [same, found]
    exact .around leading written trailing
  · rintro ⟨leading, written, trailing⟩
    rename_i before literal after
    refine ⟨after, ?_, trailing⟩
    rw [skipBlanks_append leading]
    have solid : skipBlanks (literal ++ after) = literal ++ after := by
      obtain ⟨inside, rfl, -⟩ := written
      exact skipBlanks_solid rfl
    rw [solid]
    exact stringLiteral_iff.mpr ⟨literal, rfl, written⟩

end EntitlementRules.Json
