import EntitlementRules.Text.Blank
import EntitlementRules.Text.Digits

/-! Decimal digits: the texts that write a number, the digits of a number among them, and that none of their
characters is blank. -/
namespace EntitlementRules.Text

theorem isDigit_iff {c : Char} : isDigit c = true ↔ 48 ≤ c.toNat ∧ c.toNat ≤ 57 := by
  simp only [isDigit, Bool.and_eq_true, decide_eq_true_eq, Char.le_def, UInt32.le_iff_toNat_le]
  rfl

theorem isDigit_of_mem_toDigits {number : Nat} {c : Char} (member : c ∈ Nat.toDigits 10 number) :
    isDigit c = true := by
  have digit := Nat.isDigit_of_mem_toDigits (by decide) (by decide) member
  simpa [isDigit, Char.isDigit, Char.le_def] using digit

theorem decimal_append_singleton (digits : List Char) (last : Char) :
    decimal (digits ++ [last]) = decimal digits * 10 + (last.toNat - '0'.toNat) := by
  rw [decimal, List.foldl_append]
  rfl

theorem decimal_toDigits (number : Nat) : decimal (Nat.toDigits 10 number) = number := by
  induction number using Nat.strongRecOn with
  | ind number ih =>
    rw [Nat.toDigits_eq_if (by decide)]
    have value {digit : Nat} (small : digit < 10) :
        (Nat.digitChar digit).toNat - '0'.toNat = digit :=
      Nat.toNat_digitChar_sub_48_of_lt_ten small
    split
    · next small => simp only [decimal, List.foldl_cons, List.foldl_nil, value small]; omega
    · next large =>
      rw [decimal_append_singleton, ih (number / 10) (by omega), value (by omega)]
      omega

theorem toDigits_leads {n : Nat} (zero : (Nat.toDigits 10 n).head? = some '0') :
    Nat.toDigits 10 n = ['0'] := by
  induction n using Nat.strongRecOn with
  | ind n ih =>
    rw [Nat.toDigits_eq_if (by decide)] at zero ⊢
    split
    · next small =>
      rw [if_pos small] at zero
      exact congrArg (fun c => [c]) (Option.some.inj zero)
    · next large =>
      rw [if_neg large, List.head?_append] at zero
      have filled : (Nat.toDigits 10 (n / 10)).head? = some '0' := by
        cases first : (Nat.toDigits 10 (n / 10)).head? with
        | none => exact absurd (List.head?_eq_none_iff.mp first) Nat.toDigits_ne_nil
        | some c => simpa [first] using zero
      have shorter := congrArg decimal (ih (n / 10) (by omega) filled)
      rw [decimal_toDigits] at shorter
      have nothing : n / 10 = 0 := shorter
      omega

theorem decimalBelow?_toDigits {bound number : Nat} (fits : number < bound) :
    decimalBelow? bound (Nat.toDigits 10 number) = some number := by
  have digits : (Nat.toDigits 10 number).all isDigit = true :=
    List.all_eq_true.mpr fun _ => isDigit_of_mem_toDigits
  simp [decimalBelow?, Nat.toDigits_ne_nil, digits, decimal_toDigits, fits]

/-- A text that writes a number in decimal digits. It may start with zeros. -/
structure Numeral (text : String) (value : Nat) : Prop where
  filled : text.toList ≠ []
  digits : ∀ c ∈ text.toList, '0' ≤ c ∧ c ≤ '9'
  writes : Nat.ofDigitChars 10 text.toList 0 = value

theorem decimal_eq_ofDigitChars (digits : List Char) : decimal digits = Nat.ofDigitChars 10 digits 0 := by
  simp only [decimal, Nat.ofDigitChars, Nat.mul_comm]

theorem Numeral.isDigit {text : String} {value : Nat} (numeral : Numeral text value) {c : Char}
    (member : c ∈ text.toList) : isDigit c = true := by
  have bounds := numeral.digits c member
  simpa only [Text.isDigit, Bool.and_eq_true, decide_eq_true_eq] using bounds

/-- What is read as a number below a bound is a numeral of that number. -/
theorem decimalBelow?_eq_some_iff {bound value : Nat} {text : String} :
    decimalBelow? bound text.toList = some value ↔ Numeral text value ∧ value < bound := by
  unfold decimalBelow?
  constructor
  · intro read
    split at read
    · next accepted =>
      cases read
      simp only [Bool.and_eq_true, bne_iff_ne, List.all_eq_true, decide_eq_true_eq] at accepted
      obtain ⟨⟨filled, digits⟩, fits⟩ := accepted
      refine ⟨⟨filled, fun c member => ?_, (decimal_eq_ofDigitChars _).symm⟩, fits⟩
      simpa only [isDigit, Bool.and_eq_true, decide_eq_true_eq] using digits c member
    · cases read
  · rintro ⟨numeral, fits⟩
    have digits : text.toList.all Text.isDigit = true :=
      List.all_eq_true.mpr fun _ => numeral.isDigit
    have value := (decimal_eq_ofDigitChars text.toList).trans numeral.writes
    simp [numeral.filled, digits, value, fits]

/-- Neither digits nor other visible ASCII characters are blank. -/
theorem isBlank_eq_false {c : Char} (above : 0x20 < c.toNat) (below : c.toNat < 0x80) :
    isBlank c = false := by
  simp [isBlank, blankRanges]
  omega

theorem trim_eq_self {text : String} (solid : ∀ c ∈ text.toList, isBlank c = false) :
    trim text = text := by
  have kept {chars : List Char} (solid : ∀ c ∈ chars, isBlank c = false) :
      chars.dropWhile isBlank = chars := by
    cases chars with
    | nil => rfl
    | cons c rest =>
      exact List.dropWhile_cons_of_neg (by simp [solid c List.mem_cons_self])
  rw [trim, kept solid, dropBlankEnd, kept (by simpa using solid), List.reverse_reverse,
    String.ofList_toList]

end EntitlementRules.Text
