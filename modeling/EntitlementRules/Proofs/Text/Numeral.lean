import EntitlementRules.Proofs.Text.Digits
import Mathlib.Data.List.Induction

/-! Numerals: a number has many, which differ in the zeros that they start with, and its own digits are the
shortest of them. -/
namespace EntitlementRules.Text

variable {digits : List Char} {text : String} {value : Nat}

theorem digitChar_of_isDigit {c : Char} (digit : isDigit c = true) :
    Nat.digitChar (c.toNat - '0'.toNat) = c := by
  obtain ⟨above, below⟩ := isDigit_iff.mp digit
  have zero : '0'.toNat = 48 := rfl
  rw [← Char.toNat_inj, Nat.toNat_digitChar_of_lt_ten (by omega)]
  omega

/-- Digits are those of the number that they write, behind zeros. -/
theorem eq_zeros_append (filled : digits ≠ []) (each : ∀ c ∈ digits, isDigit c = true) :
    ∃ zeros, digits = List.replicate zeros '0' ++ Nat.toDigits 10 (decimal digits) := by
  -- By induction from the last digit on, as a number's digits are made.
  induction digits using List.reverseRecOn with
  | nil => exact absurd rfl filled
  | append_singleton before last ih =>
    have digit : isDigit last = true := each last (by simp)
    have character := digitChar_of_isDigit digit
    have small : last.toNat - '0'.toNat < 10 := by
      have bounds := isDigit_iff.mp digit
      have zero : '0'.toNat = 48 := rfl
      omega
    rw [decimal_append_singleton]
    by_cases single : before = []
    · subst single
      have nothing : decimal [] = 0 := rfl
      refine ⟨0, ?_⟩
      rw [nothing, Nat.zero_mul, Nat.zero_add, Nat.toDigits_of_lt_base small, character]
      rfl
    · obtain ⟨zeros, whole⟩ := ih single fun c member => each c (List.mem_append_left _ member)
      by_cases nothing : decimal before = 0
      · rw [nothing] at whole ⊢
        refine ⟨zeros + 1, ?_⟩
        rw [Nat.zero_mul, Nat.zero_add, Nat.toDigits_of_lt_base small, character, whole,
          List.replicate_succ', Nat.toDigits_zero]
      · have more := Nat.toDigits_append_toDigits (b := 10) (n := decimal before) (by decide)
          (Nat.pos_of_ne_zero nothing) small
        rw [Nat.toDigits_of_lt_base small, character] at more
        refine ⟨zeros, ?_⟩
        rw [Nat.mul_comm, ← more, ← List.append_assoc, ← whole]

theorem Numeral.toList_eq (numeral : Numeral text value) :
    ∃ zeros, text.toList = List.replicate zeros '0' ++ Nat.toDigits 10 value := by
  have written := eq_zeros_append numeral.filled fun c => numeral.isDigit
  rwa [decimal_eq_ofDigitChars, numeral.writes] at written

end EntitlementRules.Text
