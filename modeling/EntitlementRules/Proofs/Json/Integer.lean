import EntitlementRules.Proofs.Json.Spelling
import EntitlementRules.Proofs.Text.Digits
import EntitlementRules.Proofs.Text.Utf8

/-! JSON integers: those that are read fit 64 bits, and the decimal text of each that fits is read as it. -/
namespace EntitlementRules.Json

variable {text rest : Bytes} {number : Number} {value : Int}

/-- The integers of 64 bits, with or without a sign. -/
def InRange (value : Int) : Prop := -9223372036854775808 ≤ value ∧ value ≤ 18446744073709551615

theorem StandsFor.inRange (stands : StandsFor (.integer value) text) : InRange value := by
  cases stands with
  | positive amounts =>
    cases amounts with
    | positive whole _ =>
      have fits := whole.fits
      constructor <;> omega
    | negative _ sign _ _ => cases sign
  | negative amounts =>
    cases amounts with
    | positive _ sign => cases sign
    | negative _ _ _ small => constructor <;> omega

/-! ## Integers that are written -/

/-- The decimal digits of a number, as bytes. -/
def decimalBytes (number : Nat) : Bytes := (Nat.toDigits 10 number).map Ascii.byte

theorem digit_of_isDigit {c : Char} (digit : Text.isDigit c = true) :
    Ascii.isDigit (Ascii.byte c) = true ∧ Ascii.digitValue (Ascii.byte c) = c.toNat - '0'.toNat := by
  obtain ⟨least, greatest⟩ := Text.isDigit_iff.mp digit
  have size : (Ascii.byte c).toNat = c.toNat := by
    rw [Ascii.byte, UInt8.toNat_ofNat']
    omega
  constructor
  · simp only [Ascii.isDigit, Bool.and_eq_true, decide_eq_true_eq, UInt8.le_iff_toNat_le, size]
    exact ⟨least, greatest⟩
  · rw [Ascii.digitValue, size]
    rfl

theorem isDigit_of_mem_decimalBytes {n : Nat} {b : UInt8} (member : b ∈ decimalBytes n) :
    Ascii.isDigit b = true := by
  obtain ⟨c, inside, rfl⟩ := List.mem_map.mp member
  exact (digit_of_isDigit (Text.isDigit_of_mem_toDigits inside)).1

theorem decimal_decimalBytes (n : Nat) : decimal (decimalBytes n) = n := by
  have values : (decimalBytes n).map Ascii.digitValue =
      (Nat.toDigits 10 n).map fun c => c.toNat - '0'.toNat := by
    rw [decimalBytes, List.map_map]
    apply List.map_congr_left
    intro c member
    exact (digit_of_isDigit (Text.isDigit_of_mem_toDigits member)).2
  have digits : ((decimalBytes n).map Ascii.digitValue).foldl (fun value digit => value * 10 + digit) 0 =
      decimal (decimalBytes n) := List.foldl_map
  rw [values, List.foldl_map] at digits
  exact digits.symm.trans (Text.decimal_toDigits n)

theorem byte_eq_zero_iff {c : Char} (digit : Text.isDigit c = true) :
    Ascii.byte c = Ascii.zero ↔ c = '0' := by
  obtain ⟨-, value⟩ := digit_of_isDigit digit
  obtain ⟨least, -⟩ := Text.isDigit_iff.mp digit
  constructor
  · intro same
    rw [same] at value
    apply Char.toNat_inj.mp
    have zero : '0'.toNat = 48 := rfl
    have nothing : Ascii.digitValue Ascii.zero = 0 := rfl
    omega
  · rintro rfl
    rfl

theorem digits_decimalBytes (n : Nat) : Digits (decimalBytes n) := by
  refine ⟨?_, fun _ => isDigit_of_mem_decimalBytes⟩
  rw [decimalBytes, ne_eq, List.map_eq_nil_iff]
  exact Nat.toDigits_ne_nil

theorem decimalBytes_leads {n : Nat} (zero : (decimalBytes n).head? = some Ascii.zero) :
    decimalBytes n = [Ascii.zero] := by
  rw [decimalBytes, List.head?_map] at zero
  obtain ⟨c, first, same⟩ := Option.map_eq_some_iff.mp zero
  have digit := Text.isDigit_of_mem_toDigits (List.mem_of_head? first)
  rw [(byte_eq_zero_iff digit).mp same] at first
  rw [decimalBytes, Text.toDigits_leads first]
  rfl

theorem whole_decimalBytes {n : Nat} (fits : n < 2 ^ 64) : Whole (decimalBytes n) :=
  ⟨digits_decimalBytes n, decimalBytes_leads, (decimal_decimalBytes n).trans_lt fits⟩

theorem encode_toDigits (n : Nat) :
    Text.Utf8.encode (String.ofList (Nat.toDigits 10 n)) = decimalBytes n := by
  apply Text.Utf8.encode_ofList
  intro c member
  have digit := Text.isDigit_iff.mp (Text.isDigit_of_mem_toDigits member)
  omega

/-- The decimal text of an integer that fits is a numeral that stands for it. -/
theorem integer_written (fits : InRange value) :
    Numeral (Text.Utf8.encode (toString value)) ∧
      StandsFor (.integer value) (Text.Utf8.encode (toString value)) := by
  obtain ⟨least, greatest⟩ := fits
  cases value with
  | ofNat n =>
    have written : Text.Utf8.encode (toString (Int.ofNat n)) = decimalBytes n := encode_toDigits n
    have whole := whole_decimalBytes (n := n) (by
      have below : (n : Int) ≤ 18446744073709551615 := greatest
      omega)
    have amounts : Amounts false (decimalBytes n) (.integer (decimal (decimalBytes n))) := .positive whole rfl
    rw [decimal_decimalBytes] at amounts
    rw [written]
    exact ⟨.positive whole.magnitude, .positive amounts⟩
  | negSucc n =>
    have written : Text.Utf8.encode (toString (Int.negSucc n)) = Ascii.minus :: decimalBytes (n + 1) := by
      have signed : toString (Int.negSucc n) = "-" ++ String.ofList (Nat.toDigits 10 (n + 1)) := rfl
      rw [signed, Text.Utf8.encode_append, encode_toDigits]
      rfl
    have small : n + 1 ≤ 2 ^ 63 := by omega
    have whole := whole_decimalBytes (n := n + 1) (by omega)
    have amounts : Amounts true (decimalBytes (n + 1)) (.integer (-decimal (decimalBytes (n + 1)))) :=
      .negative whole rfl (by rw [decimal_decimalBytes]; omega) (by rwa [decimal_decimalBytes])
    rw [decimal_decimalBytes] at amounts
    rw [written]
    exact ⟨.negative whole.magnitude, .negative amounts⟩

end EntitlementRules.Json
