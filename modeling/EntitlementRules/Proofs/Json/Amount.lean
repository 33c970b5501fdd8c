import EntitlementRules.Proofs.Decimal.Binary64
import EntitlementRules.Proofs.Json.Grammar

/-! Amounts: the numbers that numerals stand for, and the numerals that are out of range. Integers of 64 bits
stand for themselves. All other numerals are rounded twice, so that the range is not quite that of binary64:
the digits, as many of them as 64 bits can hold, and the power of ten are rounded before they are
multiplied. -/
namespace EntitlementRules.Json

/-- The number that decimal digits write. -/
def decimal (digits : Bytes) : Nat := digits.foldl (fun value b => value * 10 + Ascii.digitValue b) 0

/-- Of the digits behind a number as many are kept as a limit allows for. -/
structure Keeps (limit start : Nat) (digits kept dropped : Bytes) (value : Nat) : Prop where
  parts : digits = kept ++ dropped
  written : value = kept.foldl (fun value b => value * 10 + Ascii.digitValue b) start
  fits : value ≤ limit
  full : ∀ b ∈ dropped.head?, limit < value * 10 + Ascii.digitValue b

/-- The digits behind a point, if there is one. -/
inductive Decimals : Bytes → Bytes → Prop where
  | none : Decimals [] []
  | digits {text : Bytes} (digits : Digits text) : Decimals (Ascii.point :: text) text

/-- An exponent: whether it makes a number smaller, and by how many places. -/
inductive Power : Bytes → (shrinks : Bool) → Nat → Prop where
  | none : Power [] false 0
  | digits {e : UInt8} {sign text : Bytes} (letter : e = Ascii.byte 'e' ∨ e = Ascii.byte 'E')
      (signed : sign = [] ∨ sign = [Ascii.plus] ∨ sign = [Ascii.minus]) (digits : Digits text) :
      Power (e :: (sign ++ text)) (sign == [Ascii.minus]) (decimal text)

/-- What a number without its sign is computed from: a significand, how many places its point is moved for
that, and the exponent. The significand takes up digits while 64 bits can hold them. Those before the point that
are left out move it up, and those behind it that are taken up move it down. -/
inductive Measures : Bytes → (significand : Nat) → (places : Int) → (shrinks : Bool) → (power : Nat) → Prop where
  | parts {whole kept dropped fraction decimals used unused exponent : Bytes} {first significand power : Nat}
      {shrinks : Bool} (digits : Digits whole) (leads : whole.head? = some Ascii.zero → whole = [Ascii.zero])
      (before : Keeps (2 ^ 64 - 1) 0 whole kept dropped first) (point : Decimals fraction decimals)
      (behind : Keeps (2 ^ 64 - 1) first decimals used unused significand)
      (scale : Power exponent shrinks power) :
      Measures (whole ++ (fraction ++ exponent)) significand (dropped.length - used.length) shrinks power

/-- How many places the point of a significand is moved in all. -/
def shift (places : Int) (shrinks : Bool) (power : Nat) : Int :=
  if shrinks then places - power else places + power

/-- A number without its sign that is out of range: its exponent does not fit 31 bits, or the rounded
significand times the rounded power of ten reaches the bound of binary64. Powers beyond `10 ^ 308` are not
even tried. -/
inductive Beyond (text : Bytes) : Prop where
  | steep {significand power : Nat} {places : Int} (measures : Measures text significand places false power)
      (some : significand ≠ 0) (steep : 2 ^ 31 ≤ power)
  | great {significand power : Nat} {places : Int} {shrinks : Bool}
      (measures : Measures text significand places shrinks power) (some : significand ≠ 0)
      (computed : power < 2 ^ 31)
      (reaches : 308 < shift places shrinks power ∨ 0 ≤ shift places shrinks power ∧
        shift places shrinks power ≤ 308 ∧
        Binary64.bound ≤ Binary64.rounded significand * Binary64.rounded (10 ^ (shift places shrinks power).toNat))

/-- Digits alone that fit 64 bits. -/
structure Whole (text : Bytes) : Prop where
  digits : Digits text
  leads : text.head? = some Ascii.zero → text = [Ascii.zero]
  fits : decimal text < 2 ^ 64

/-- The number that one without its sign stands for, or its negative. -/
inductive Amounts (negative : Bool) (text : Bytes) : Json.Number → Prop where
  | positive (whole : Whole text) (sign : negative = false) : Amounts negative text (.integer (decimal text))
  | negative (whole : Whole text) (sign : negative = true) (some : decimal text ≠ 0)
      (small : decimal text ≤ 2 ^ 63) : Amounts negative text (.integer (-decimal text))
  /-- With a minus some digits that fit 64 bits are no integer. A zero keeps its minus. -/
  | rounded {value : Binary64} (whole : Whole text) (sign : negative = true)
      (other : decimal text = 0 ∨ 2 ^ 63 < decimal text)
      (near : Binary64.ofRatio true (decimal text) 1 = some value) : Amounts negative text (.float value)
  | scaled {significand power : Nat} {places : Int} {shrinks : Bool} {value : Binary64}
      (measures : Measures text significand places shrinks power) (other : ¬ Whole text)
      (computed : power < 2 ^ 31)
      (near : (Binary64.ofRatio false significand 1).bind (·.scaleByTen? (shift places shrinks power)) =
        some value) :
      Amounts negative text (.float (if negative then value.neg else value))
  /-- Nothing is left where an exponent that does not fit 31 bits makes a number smaller. -/
  | vanished {significand power : Nat} {places : Int} {shrinks : Bool}
      (measures : Measures text significand places shrinks power) (steep : 2 ^ 31 ≤ power)
      (nothing : significand = 0 ∨ shrinks = true) :
      Amounts negative text (.float ⟨negative, 0, Binary64.leastExponent⟩)

/-- The number that a numeral stands for. -/
inductive StandsFor : Json.Number → Bytes → Prop where
  | positive {number : Json.Number} {text : Bytes} (amounts : Amounts false text number) : StandsFor number text
  | negative {number : Json.Number} {text : Bytes} (amounts : Amounts true text number) :
      StandsFor number (Ascii.minus :: text)

/-- A numeral that stands for no number. -/
inductive OutOfRange : Bytes → Prop where
  | positive {text : Bytes} (beyond : Beyond text) : OutOfRange text
  | negative {text : Bytes} (beyond : Beyond text) : OutOfRange (Ascii.minus :: text)

variable {text digits kept dropped : Bytes} {limit start value significand power : Nat} {places : Int}
  {shrinks negative : Bool} {number : Json.Number}

/-! ## Digits -/

theorem le_foldl (start : Nat) (digits : Bytes) :
    start ≤ digits.foldl (fun value b => value * 10 + Ascii.digitValue b) start := by
  induction digits generalizing start with
  | nil => exact Nat.le_refl start
  | cons b rest ih => exact Nat.le_trans (by omega) (ih (start * 10 + Ascii.digitValue b))

theorem exists_keeps (digits : Bytes) (fits : start ≤ limit) :
    ∃ kept dropped value, Keeps limit start digits kept dropped value := by
  induction digits generalizing start with
  | nil => exact ⟨[], [], start, rfl, rfl, fits, nofun⟩
  | cons b rest ih =>
    by_cases more : start * 10 + Ascii.digitValue b ≤ limit
    · obtain ⟨kept, dropped, value, keeps⟩ := ih more
      exact ⟨b :: kept, dropped, value, congrArg (b :: ·) keeps.parts, keeps.written, keeps.fits, keeps.full⟩
    · refine ⟨[], b :: rest, start, rfl, rfl, fits, ?_⟩
      rintro _ ⟨⟩
      exact Nat.not_le.mp more

theorem Keeps.all (keeps : Keeps limit start digits kept dropped value)
    (fits : digits.foldl (fun value b => value * 10 + Ascii.digitValue b) start ≤ limit) :
    kept = digits ∧ dropped = [] ∧
      value = digits.foldl (fun value b => value * 10 + Ascii.digitValue b) start := by
  cases dropped with
  | nil =>
    have all : digits = kept := keeps.parts.trans (List.append_nil _)
    exact ⟨all.symm, rfl, all ▸ keeps.written⟩
  | cons b rest =>
    have full := keeps.full b rfl
    rw [keeps.parts, List.foldl_append, List.foldl_cons, ← keeps.written] at fits
    exact absurd (Nat.le_trans (le_foldl _ rest) fits) (Nat.not_le.mpr full)

/-- Digits that do not fit leave some over. -/
theorem Keeps.exists_dropped (keeps : Keeps limit start digits kept dropped value)
    (large : limit < digits.foldl (fun value b => value * 10 + Ascii.digitValue b) start) : dropped ≠ [] := by
  rintro rfl
  rw [keeps.parts, List.append_nil, ← keeps.written] at large
  exact absurd keeps.fits (Nat.not_le.mpr large)

/-! ## Parts -/

theorem Fraction.exists_decimals (fraction : Fraction text) : ∃ digits, Decimals text digits := by
  cases fraction with
  | none => exact ⟨[], .none⟩
  | digits digits => exact ⟨_, .digits digits⟩

theorem Exponent.exists_power (exponent : Exponent text) : ∃ shrinks power, Power text shrinks power := by
  cases exponent with
  | none => exact ⟨_, _, .none⟩
  | digits letter signed digits => exact ⟨_, _, .digits letter signed digits⟩

theorem Magnitude.exists_measures (magnitude : Magnitude text) :
    ∃ significand places shrinks power, Measures text significand places shrinks power := by
  obtain ⟨digits, leads, decimals, scale⟩ := magnitude
  obtain ⟨behind, point⟩ := decimals.exists_decimals
  obtain ⟨shrinks, power, raised⟩ := scale.exists_power
  obtain ⟨kept, dropped, first, before⟩ := exists_keeps _ (Nat.zero_le (2 ^ 64 - 1))
  obtain ⟨used, unused, significand, after⟩ := exists_keeps behind before.fits
  exact ⟨_, _, _, _, .parts digits leads before point after raised⟩

theorem Measures.magnitude (measures : Measures text significand places shrinks power) : Magnitude text := by
  obtain ⟨digits, leads, -, point, -, scale⟩ := measures
  refine .parts digits leads ?_ ?_
  · cases point with
    | none => exact .none
    | digits digits => exact .digits digits
  · cases scale with
    | none => exact .none
    | digits letter signed digits => exact .digits letter signed digits

theorem Whole.magnitude (whole : Whole text) : Magnitude text := by
  have parts := Magnitude.parts whole.digits whole.leads .none .none
  rwa [List.append_nil, List.append_nil] at parts

theorem Amounts.magnitude (amounts : Amounts negative text number) : Magnitude text := by
  cases amounts with
  | positive whole _ => exact whole.magnitude
  | negative whole _ _ _ => exact whole.magnitude
  | rounded whole _ _ _ => exact whole.magnitude
  | scaled measures _ _ _ => exact measures.magnitude
  | vanished measures _ _ => exact measures.magnitude

theorem Beyond.magnitude (beyond : Beyond text) : Magnitude text := by
  cases beyond with
  | steep measures _ _ => exact measures.magnitude
  | great measures _ _ _ => exact measures.magnitude

theorem Measures.of_whole (measures : Measures text significand places shrinks power) (whole : Whole text) :
    significand = decimal text ∧ shift places shrinks power = 0 ∧ power = 0 := by
  obtain ⟨-, -, before, point, behind, scale⟩ := measures
  have solid {b : UInt8} (inside : b ∈ _) := whole.digits.2 b inside
  cases point with
  | digits _ => exact absurd (solid (by simp)) (by decide : ¬ Ascii.isDigit Ascii.point = true)
  | none =>
    cases scale with
    | digits letter _ _ =>
      have digit := solid (List.mem_append_right _ (.head _))
      rcases letter with rfl | rfl <;> exact absurd digit (by decide)
    | none =>
      rw [List.append_nil, List.append_nil] at whole ⊢
      obtain ⟨-, rfl, rfl⟩ := before.all (Nat.le_sub_one_of_lt whole.fits)
      obtain ⟨rfl, -⟩ := List.nil_eq_append_iff.mp behind.parts
      exact ⟨behind.written, rfl, rfl⟩

/-! ## Range -/

theorem Measures.lt_bound (measures : Measures text significand places shrinks power) :
    significand < Binary64.bound := by
  obtain ⟨-, -, -, -, behind, -⟩ := measures
  have top : 2 ^ 64 - 1 < Binary64.bound := by decide +kernel
  exact Nat.lt_of_le_of_lt behind.fits top

theorem Beyond.not_whole (beyond : Beyond text) : ¬ Whole text := by
  intro whole
  cases beyond with
  | steep measures _ steep =>
    obtain ⟨-, -, rfl⟩ := measures.of_whole whole
    exact absurd steep (by decide)
  | great measures _ _ reaches =>
    obtain ⟨rfl, shifted, -⟩ := measures.of_whole whole
    have one : Binary64.rounded (10 ^ (0 : Int).toNat) = 1 := Binary64.rounded_of_lt (by decide)
    have small := Binary64.rounded_le (decimal text)
    have fits := whole.fits
    have top : 2 ^ 65 < Binary64.bound := by decide +kernel
    rw [shifted, one] at reaches
    omega

/-- A number without its sign stands for a number, or it is out of range. -/
theorem Magnitude.amounts_or_beyond (negative : Bool) (magnitude : Magnitude text) :
    (∃ number, Amounts negative text number) ∨ Beyond text := by
  obtain ⟨significand, places, shrinks, power, measures⟩ := magnitude.exists_measures
  by_cases whole : Whole text
  · left
    cases sign : negative with
    | false => exact ⟨_, .positive whole rfl⟩
    | true =>
      by_cases small : decimal text ≠ 0 ∧ decimal text ≤ 2 ^ 63
      · exact ⟨_, .negative whole rfl small.1 small.2⟩
      · cases near : Binary64.ofRatio true (decimal text) 1 with
        | some value => exact ⟨_, .rounded whole rfl (by omega) near⟩
        | none =>
          have reaches := (Binary64.ofRatio_eq_none_iff Nat.one_pos).mp near
          have fits := whole.fits
          have top : 2 ^ 64 < Binary64.bound := by decide +kernel
          omega
  · by_cases computed : power < 2 ^ 31
    · cases near : (Binary64.ofRatio false significand 1).bind
          (·.scaleByTen? (shift places shrinks power)) with
      | some value => exact .inl ⟨_, .scaled measures whole computed near⟩
      | none =>
        obtain ⟨some, reaches⟩ := (Binary64.scaled_eq_none_iff measures.lt_bound).mp near
        exact .inr (.great measures some computed reaches)
    · have steep := Nat.not_lt.mp computed
      by_cases nothing : significand = 0 ∨ shrinks = true
      · exact .inl ⟨_, .vanished measures steep nothing⟩
      · obtain ⟨some, grows⟩ := not_or.mp nothing
        rw [Bool.not_eq_true] at grows
        exact .inr (.steep (grows ▸ measures) some steep)

theorem Numeral.stands_or_outOfRange (numeral : Numeral text) :
    (∃ number, StandsFor number text) ∨ OutOfRange text := by
  cases numeral with
  | positive magnitude =>
    exact (magnitude.amounts_or_beyond false).imp (fun ⟨_, amounts⟩ => ⟨_, .positive amounts⟩) .positive
  | negative magnitude =>
    exact (magnitude.amounts_or_beyond true).imp (fun ⟨_, amounts⟩ => ⟨_, .negative amounts⟩) .negative

end EntitlementRules.Json
