import EntitlementRules.Decimal.Binary64
import Mathlib.Algebra.Order.Field.Rat
import Mathlib.Algebra.Order.Field.Power
import Mathlib.Data.Nat.Log
import Mathlib.Tactic.Positivity
import Mathlib.Tactic.Linarith
import Mathlib.Tactic.Ring

/-! Finite binary64 numbers: which ratios lie beyond them, and which natural number stands for another. -/
namespace EntitlementRules.Binary64

variable {numerator denominator : Nat} {negative : Bool} {number : Binary64} {exponent : Int}

/-! ## Units -/

theorem powerOfTwo_pos (exponent : Int) : 0 < (powerOfTwo exponent).1 ∧ 0 < (powerOfTwo exponent).2 := by
  unfold powerOfTwo
  split
  · exact ⟨Nat.pow_pos (by decide), Nat.one_pos⟩
  · exact ⟨Nat.one_pos, Nat.pow_pos (by decide)⟩

theorem powerOfTwo_eq (exponent : Int) :
    ((powerOfTwo exponent).1 : ℚ) = 2 ^ exponent * (powerOfTwo exponent).2 := by
  unfold powerOfTwo
  split
  · next up =>
    obtain ⟨n, rfl⟩ := Int.eq_ofNat_of_zero_le up
    simp
  · next down =>
    obtain ⟨n, same⟩ := Int.eq_ofNat_of_zero_le (Int.le_of_lt (Int.neg_pos.mpr (Int.not_le.mp down)))
    obtain rfl : exponent = -(n : Int) := by omega
    simp

theorem powerOfTwo_natCast (k : Nat) : powerOfTwo k = (2 ^ k, 1) := by
  simp [powerOfTwo]

theorem powerOfTwo_neg (k : Nat) : powerOfTwo (-k) = (1, 2 ^ k) := by
  cases k with
  | zero => rfl
  | succ k => rw [powerOfTwo, if_neg (by omega), Int.neg_neg, Int.toNat_natCast]; rfl

/-- A ratio is compared with a multiple of a unit. -/
theorem scaled_lt_iff (positive : 0 < denominator) (count : Nat) :
    numerator * (powerOfTwo exponent).2 < count * (denominator * (powerOfTwo exponent).1) ↔
      (numerator : ℚ) / denominator < count * 2 ^ exponent := by
  have unit : (0 : ℚ) < (powerOfTwo exponent).2 := Nat.cast_pos.mpr (powerOfTwo_pos exponent).2
  have shape : (count : ℚ) * (denominator * (2 ^ exponent * (powerOfTwo exponent).2)) =
      count * 2 ^ exponent * denominator * (powerOfTwo exponent).2 := by ring
  rw [div_lt_iff₀ (Nat.cast_pos.mpr positive), ← Nat.cast_lt (α := ℚ)]
  push_cast
  rw [powerOfTwo_eq, shape, mul_lt_mul_iff_left₀ unit]

/-! ## Rounding -/

theorem roundQuotient_le {count : Nat} (less : numerator < count * denominator) :
    roundQuotient numerator denominator ≤ count := by
  have quotient : numerator / denominator < count := by
    rwa [Nat.div_lt_iff_lt_mul (Nat.pos_of_ne_zero fun zero => by simp [zero] at less)]
  unfold roundQuotient
  dsimp only
  split <;> omega

/-- An even count is what is rounded up to from halfway below it. -/
theorem roundQuotient_eq_iff {half : Nat} (filled : 0 < half) (less : numerator < 2 * half * denominator) :
    roundQuotient numerator denominator = 2 * half ↔ (4 * half - 1) * denominator ≤ 2 * numerator := by
  have positive : 0 < denominator := Nat.pos_of_ne_zero fun zero => by simp [zero] at less
  have quotient : numerator / denominator < 2 * half := by rwa [Nat.div_lt_iff_lt_mul positive]
  have whole := Nat.div_add_mod numerator denominator
  have remainder := Nat.mod_lt numerator positive
  unfold roundQuotient
  dsimp only
  generalize numerator / denominator = count at *
  generalize numerator % denominator = rest at *
  obtain ⟨more, gap⟩ : ∃ more, 2 * half = count + 1 + more := ⟨2 * half - (count + 1), by omega⟩
  have bound : (4 * half - 1) * denominator = 2 * (denominator * count) + denominator + 2 * (more * denominator) := by
    obtain same : 4 * half - 1 = 2 * count + 1 + 2 * more := by omega
    rw [same]
    ring
  rw [bound, ← whole]
  cases more with
  | zero =>
    have odd : count % 2 = 1 := by omega
    simp only [odd, beq_self_eq_true, Bool.and_true, Bool.or_eq_true, decide_eq_true_eq, beq_iff_eq]
    split <;> omega
  | succ more =>
    have larger : denominator ≤ (more + 1) * denominator := Nat.le_mul_of_pos_left _ (Nat.succ_pos _)
    split <;> omega

/-- An exponent with which a ratio has a significand of 53 bits, or of fewer where there is no lesser. -/
structure Scales (numerator denominator : Nat) (exponent : Int) : Prop where
  least : leastExponent ≤ exponent
  less : (numerator : ℚ) / denominator < (2 ^ 53 : Nat) * 2 ^ exponent
  filled : exponent = leastExponent ∨ (2 ^ 52 : Nat) * (2 : ℚ) ^ exponent ≤ numerator / denominator

/-- What a rounded significand makes. One that has grown to 54 bits is halved. -/
def packed (negative : Bool) (significand : Nat) (exponent : Int) : Option Binary64 :=
  let (mantissa, exponent) :=
    if significand = Nat.pow 2 53 then (Nat.pow 2 52, exponent + 1) else (significand, exponent)
  if exponent ≤ greatestExponent then some ⟨negative, mantissa, exponent⟩ else none

theorem log2_bounds (some : numerator ≠ 0) :
    (2 : ℚ) ^ (Nat.log2 numerator : Int) ≤ numerator ∧ (numerator : ℚ) < 2 ^ ((Nat.log2 numerator : Int) + 1) := by
  constructor
  · have least := Nat.log2_self_le some
    rw [zpow_natCast]
    exact_mod_cast least
  · have greatest := Nat.lt_log2_self (n := numerator)
    have next : ((Nat.log2 numerator : Int) + 1) = ((Nat.log2 numerator + 1 : Nat) : Int) := rfl
    rw [next, zpow_natCast]
    exact_mod_cast greatest

theorem zpow_add_natCast (exponent : Int) (more : Nat) :
    (2 : ℚ) ^ (exponent + more) = (2 ^ more : Nat) * 2 ^ exponent := by
  rw [zpow_add₀ (by norm_num), zpow_natCast, Nat.cast_pow, mul_comm]
  rfl

/-- Where rounding starts to look for an exponent. The lengths of two numbers tell their ratio up to one bit
each way. -/
theorem guess_bounds (some : numerator ≠ 0) (positive : 0 < denominator) {guess : Int}
    (guessed : guess = max leastExponent ((Nat.log2 numerator : Int) - (Nat.log2 denominator : Int) - 53)) :
    (numerator : ℚ) / denominator < (2 ^ 54 : Nat) * 2 ^ guess ∧
      (guess = leastExponent ∨ (2 ^ 52 : Nat) * (2 : ℚ) ^ guess ≤ numerator / denominator) := by
  have two : (0 : ℚ) < 2 := by norm_num
  have divisor : (0 : ℚ) < denominator := Nat.cast_pos.mpr positive
  obtain ⟨nl, nu⟩ := log2_bounds some
  obtain ⟨dl, du⟩ := log2_bounds positive.ne'
  constructor
  · rw [div_lt_iff₀ divisor, ← zpow_add_natCast]
    calc (numerator : ℚ) < 2 ^ ((Nat.log2 numerator : Int) + 1) := nu
      _ ≤ 2 ^ (guess + (54 : Nat) + (Nat.log2 denominator : Int)) := zpow_le_zpow_right₀ (by norm_num) (by omega)
      _ = 2 ^ (guess + (54 : Nat)) * 2 ^ (Nat.log2 denominator : Int) := zpow_add₀ two.ne' _ _
      _ ≤ 2 ^ (guess + (54 : Nat)) * denominator := mul_le_mul_of_nonneg_left dl (zpow_pos two _).le
  · by_cases least : guess = leastExponent
    · exact .inl least
    · right
      rw [le_div_iff₀ divisor, ← zpow_add_natCast]
      calc (2 : ℚ) ^ (guess + (52 : Nat)) * denominator
          ≤ 2 ^ (guess + (52 : Nat)) * 2 ^ ((Nat.log2 denominator : Int) + 1) :=
            mul_le_mul_of_nonneg_left du.le (zpow_pos two _).le
        _ = 2 ^ (guess + (52 : Nat) + ((Nat.log2 denominator : Int) + 1)) := (zpow_add₀ two.ne' _ _).symm
        _ ≤ 2 ^ (Nat.log2 numerator : Int) := zpow_le_zpow_right₀ (by norm_num) (by omega)
        _ ≤ numerator := nl

/-- Rounding takes a fitting exponent, found by the lengths of the two numbers up to one. -/
theorem exists_scales (negative : Bool) (some : numerator ≠ 0) (positive : 0 < denominator) :
    ∃ exponent, Scales numerator denominator exponent ∧ ofRatio negative numerator denominator =
      packed negative (roundQuotient (numerator * (powerOfTwo exponent).2)
        (denominator * (powerOfTwo exponent).1)) exponent := by
  obtain ⟨guess, guessed⟩ : ∃ guess, guess =
      max leastExponent ((Nat.log2 numerator : Int) - (Nat.log2 denominator : Int) - 53) := ⟨_, rfl⟩
  obtain ⟨upper, lower⟩ := guess_bounds some positive guessed
  have two : (2 : ℚ) ≠ 0 := by norm_num
  have base : leastExponent ≤ guess := by omega
  have divisor := Nat.mul_pos positive (powerOfTwo_pos guess).1
  unfold ofRatio
  rw [if_neg some]
  dsimp only
  rw [← guessed]
  split
  · next large =>
    refine ⟨guess + 1, ⟨by omega, ?_, .inr ?_⟩, rfl⟩
    · rw [add_comm, zpow_add₀ two, zpow_one, ← mul_assoc]
      exact_mod_cast upper
    · rw [Nat.le_div_iff_mul_le divisor, ← not_lt] at large
      have least := not_lt.mp (mt (scaled_lt_iff positive (2 ^ 53)).mpr large)
      rw [add_comm, zpow_add₀ two, zpow_one, ← mul_assoc]
      exact_mod_cast least
  · next small =>
    rw [Nat.le_div_iff_mul_le divisor, not_le] at small
    exact ⟨guess, ⟨base, (scaled_lt_iff positive (2 ^ 53)).mp small, lower⟩, rfl⟩

/-! ## Range -/

theorem packed_eq_some {significand : Nat} (found : packed negative significand exponent = some number) :
    (significand = 2 ^ 53 ∧ number = ⟨negative, 2 ^ 52, exponent + 1⟩ ∧ exponent + 1 ≤ greatestExponent) ∨
      (significand ≠ 2 ^ 53 ∧ number = ⟨negative, significand, exponent⟩ ∧ exponent ≤ greatestExponent) := by
  unfold packed at found
  by_cases carries : significand = Nat.pow 2 53
  · rw [if_pos carries] at found
    obtain ⟨small, same⟩ := Option.ite_none_right_eq_some.mp found
    exact .inl ⟨carries, (Option.some.inj same).symm, small⟩
  · rw [if_neg carries] at found
    obtain ⟨small, same⟩ := Option.ite_none_right_eq_some.mp found
    exact .inr ⟨carries, (Option.some.inj same).symm, small⟩

/-- Halfway from the greatest number to where the next would be. What is not below is out of range. -/
def bound : Nat := 2 ^ 1024 - 2 ^ 970

theorem packed_eq_none_iff {significand : Nat} : packed negative significand exponent = none ↔
    greatestExponent < exponent ∨ significand = 2 ^ 53 ∧ exponent = greatestExponent := by
  unfold packed greatestExponent
  by_cases carries : significand = Nat.pow 2 53
  · rw [if_pos carries]
    have same : significand = 2 ^ 53 := carries
    simp only [same, true_and]
    split <;> simp <;> omega
  · rw [if_neg carries]
    have other : significand ≠ 2 ^ 53 := carries
    simp only [other, false_and, or_false]
    split <;> simp <;> omega

theorem bound_pos : 0 < bound := by decide +kernel

/-- What has 53 bits at an exponent below the greatest is in range. -/
theorem lt_bound_of_less {value : ℚ} (below : exponent < greatestExponent)
    (less : value < (2 ^ 53 : Nat) * 2 ^ exponent) : value < bound := by
  have unit : (2 : ℚ) ^ exponent ≤ 2 ^ ((970 : Nat) : Int) :=
    zpow_le_zpow_right₀ (by norm_num) (by unfold greatestExponent at below; omega)
  have top : (2 ^ 53 : Nat) * 2 ^ 970 ≤ bound := by decide +kernel
  rw [zpow_natCast] at unit
  calc value < (2 ^ 53 : Nat) * 2 ^ exponent := less
    _ ≤ (2 ^ 53 : Nat) * 2 ^ 970 := mul_le_mul_of_nonneg_left unit (Nat.cast_nonneg _)
    _ ≤ bound := by exact_mod_cast top

/-- What has 53 bits at an exponent above the greatest is out of range. -/
theorem bound_le_of_filled {value : ℚ} (above : greatestExponent < exponent)
    (filled : (2 ^ 52 : Nat) * (2 : ℚ) ^ exponent ≤ value) : bound ≤ value := by
  have unit : (2 : ℚ) ^ ((972 : Nat) : Int) ≤ 2 ^ exponent :=
    zpow_le_zpow_right₀ (by norm_num) (by unfold greatestExponent at above; omega)
  have top : bound ≤ (2 ^ 52 : Nat) * 2 ^ 972 := by decide +kernel
  rw [zpow_natCast] at unit
  calc (bound : ℚ) ≤ (2 ^ 52 : Nat) * 2 ^ 972 := by exact_mod_cast top
    _ ≤ (2 ^ 52 : Nat) * 2 ^ exponent := mul_le_mul_of_nonneg_left unit (Nat.cast_nonneg _)
    _ ≤ value := filled

/-- A ratio has no rounded value exactly where it reaches the bound. -/
theorem ofRatio_eq_none_iff (positive : 0 < denominator) :
    ofRatio negative numerator denominator = none ↔ bound * denominator ≤ numerator := by
  by_cases some : numerator = 0
  · have filled := Nat.mul_pos bound_pos positive
    rw [ofRatio, if_pos some, some]
    exact iff_of_false nofun (by omega)
  · obtain ⟨exponent, scales, same⟩ := exists_scales negative some positive
    have divisor : (0 : ℚ) < denominator := Nat.cast_pos.mpr positive
    have compared : bound * denominator ≤ numerator ↔ (bound : ℚ) ≤ numerator / denominator := by
      rw [le_div_iff₀ divisor]
      exact_mod_cast Iff.rfl
    rw [same, packed_eq_none_iff]
    rcases lt_trichotomy exponent greatestExponent with below | rfl | above
    · rw [compared, ← not_lt]
      exact iff_of_false (by omega) (not_not_intro (lt_bound_of_less below scales.less))
    · have less := (scaled_lt_iff positive (2 ^ 53)).mpr scales.less
      obtain ⟨power, unit, top⟩ : ∃ power, powerOfTwo greatestExponent = (2 * power, 1) ∧
          bound = (2 ^ 54 - 1) * power := ⟨2 ^ 970, by decide +kernel, by decide +kernel⟩
      have whole : (2 : Nat) ^ 53 = 2 * 2 ^ 52 := by norm_num
      rw [unit, whole] at less
      rw [unit, whole, and_iff_left rfl, or_iff_right (lt_irrefl _), roundQuotient_eq_iff (by norm_num) less, top]
      have shape : (4 * 2 ^ 52 - 1) * (denominator * (2 * power)) =
          2 * ((2 ^ 54 - 1) * power * denominator) := by
        norm_num
        ring
      rw [shape, Nat.mul_one, Nat.mul_le_mul_left_iff (by decide)]
    · refine iff_of_true (.inl above) (compared.mpr (bound_le_of_filled above ?_))
      exact scales.filled.resolve_left (by unfold leastExponent; unfold greatestExponent at above; omega)

theorem unit_pos (number : Binary64) : 0 < number.ratio.2 := (powerOfTwo_pos number.exponent).2

theorem ratio_lt (short : number.mantissa < 2 ^ 53) (small : number.exponent ≤ greatestExponent) :
    number.ratio.1 < bound * number.ratio.2 := by
  have divisor : (0 : ℚ) < (powerOfTwo number.exponent).2 :=
    Nat.cast_pos.mpr (powerOfTwo_pos number.exponent).2
  have unit : (2 : ℚ) ^ number.exponent ≤ 2 ^ ((971 : Nat) : Int) := zpow_le_zpow_right₀ (by norm_num) small
  have mantissa : (number.mantissa : ℚ) ≤ (2 ^ 53 - 1 : Nat) := Nat.cast_le.mpr (Nat.le_sub_one_of_lt short)
  have top : (2 ^ 53 - 1 : Nat) * 2 ^ 971 < bound := by decide +kernel
  rw [zpow_natCast] at unit
  have value : (number.mantissa : ℚ) * 2 ^ number.exponent < bound :=
    calc (number.mantissa : ℚ) * 2 ^ number.exponent
        ≤ (2 ^ 53 - 1 : Nat) * 2 ^ 971 :=
          mul_le_mul mantissa unit (zpow_pos (by norm_num) _).le (Nat.cast_nonneg _)
      _ < bound := by exact_mod_cast top
  have scaled := mul_lt_mul_of_pos_right value divisor
  rw [mul_assoc, ← powerOfTwo_eq] at scaled
  exact_mod_cast scaled

theorem ratio_lt_of_ofRatio (positive : 0 < denominator)
    (found : ofRatio negative numerator denominator = some number) :
    number.ratio.1 < bound * number.ratio.2 := by
  by_cases none : numerator = 0
  · rw [ofRatio, if_pos none] at found
    cases found
    exact ratio_lt (Nat.pow_pos (by decide)) (show leastExponent ≤ greatestExponent by decide)
  · obtain ⟨exponent, scales, same⟩ := exists_scales negative none positive
    have short := roundQuotient_le ((scaled_lt_iff positive (2 ^ 53)).mpr scales.less)
    rcases packed_eq_some (same ▸ found) with ⟨-, rfl, small⟩ | ⟨other, rfl, small⟩
    · exact ratio_lt (Nat.pow_lt_pow_right (by decide) (by decide)) small
    · exact ratio_lt (Nat.lt_of_le_of_ne short other) small

/-! ## Natural numbers -/

/-- A natural number with 53 bits, as near to a given one as there is, and even where two are as near. -/
def rounded (number : Nat) : Nat :=
  roundQuotient number (2 ^ (Nat.log2 number - 52)) * 2 ^ (Nat.log2 number - 52)

theorem rounded_pos {number : Nat} (some : number ≠ 0) : 0 < rounded number := by
  have unit : 2 ^ (Nat.log2 number - 52) ≤ number :=
    Nat.le_trans (Nat.pow_le_pow_right (by decide) (Nat.sub_le _ _)) (Nat.log2_self_le some)
  have quotient := Nat.div_pos unit (Nat.pow_pos (by decide))
  refine Nat.mul_pos ?_ (Nat.pow_pos (by decide))
  unfold roundQuotient
  dsimp only
  split <;> omega

theorem rounded_le (number : Nat) : rounded number ≤ 2 * number := by
  by_cases none : number = 0
  · subst none
    decide
  · have unit : 2 ^ (Nat.log2 number - 52) ≤ number :=
      Nat.le_trans (Nat.pow_le_pow_right (by decide) (Nat.sub_le _ _)) (Nat.log2_self_le none)
    unfold rounded
    generalize 2 ^ (Nat.log2 number - 52) = step at *
    have whole := Nat.div_mul_le_self number step
    have count : roundQuotient number step ≤ number / step + 1 := by
      unfold roundQuotient
      dsimp only
      split <;> omega
    calc roundQuotient number step * step ≤ (number / step + 1) * step := Nat.mul_le_mul_right _ count
      _ = number / step * step + step := Nat.succ_mul _ _
      _ ≤ 2 * number := by omega

theorem roundQuotient_one (number : Nat) : roundQuotient number 1 = number := by
  simp [roundQuotient, Nat.mod_one]

theorem rounded_of_lt {number : Nat} (short : number < 2 ^ 53) : rounded number = number := by
  have length : Nat.log2 number - 52 = 0 := by
    by_cases none : number = 0
    · subst none
      decide
    · have bits := (Nat.log2_lt none).mpr short
      omega
  rw [rounded, length, Nat.pow_zero, roundQuotient_one, Nat.mul_one]

theorem ratio_of_ofRatio (found : ofRatio negative numerator 1 = some number) :
    number.ratio.1 = rounded numerator * number.ratio.2 := by
  by_cases none : numerator = 0
  · rw [ofRatio, if_pos none] at found
    cases found
    rw [ratio, none, Nat.zero_mul]
    exact (Nat.zero_mul _).symm
  · obtain ⟨exponent, scales, same⟩ := exists_scales negative none Nat.one_pos
    have less := (scaled_lt_iff Nat.one_pos (2 ^ 53)).mpr scales.less
    rw [same] at found
    rcases exponent.le_total 0 with down | up
    · obtain ⟨k, rfl⟩ : ∃ k : Nat, exponent = -(k : Int) := ⟨exponent.natAbs, by omega⟩
      rw [powerOfTwo_neg, Nat.one_mul] at less found
      rw [roundQuotient_one] at found
      have short : numerator < 2 ^ 53 := Nat.lt_of_le_of_lt (Nat.le_mul_of_pos_right _ (Nat.pow_pos (by decide))) less
      rcases packed_eq_some found with ⟨carries, -⟩ | ⟨-, rfl, -⟩
      · omega
      · simp only [ratio, powerOfTwo_neg, rounded_of_lt short, Nat.mul_one]
    · obtain ⟨k, rfl⟩ := Int.eq_ofNat_of_zero_le up
      have filled := scales.filled.resolve_left (by unfold leastExponent; omega)
      rw [← not_lt, ← scaled_lt_iff Nat.one_pos, not_lt] at filled
      rw [powerOfTwo_natCast, Nat.one_mul, Nat.mul_one] at less filled found
      have length : Nat.log2 numerator = 52 + k := by
        rw [Nat.log2_eq_iff none]
        constructor
        · rwa [Nat.pow_add]
        · rwa [Nat.add_right_comm, Nat.pow_add]
      rw [rounded, length, Nat.add_sub_cancel_left]
      rcases packed_eq_some found with ⟨carries, rfl, -⟩ | ⟨-, rfl, -⟩
      · have next : ((k : Int) + 1) = ((k + 1 : Nat) : Int) := rfl
        simp only [ratio, next, powerOfTwo_natCast, carries, Nat.mul_one]
        ring
      · simp only [ratio, powerOfTwo_natCast, Nat.mul_one]

/-! ## Powers of ten -/

/-- The powers of ten that are taken in one step are rounded, to one at least. -/
theorem powerOfTen_spec {power : Nat} (small : power ≤ tenStep) :
    (powerOfTen power).ratio.1 = rounded (10 ^ power) * (powerOfTen power).ratio.2 ∧
      (powerOfTen power).ratio.2 ≤ (powerOfTen power).ratio.1 ∧ 0 < (powerOfTen power).ratio.2 := by
  have below : (10 : Nat) ^ tenStep < bound := by decide +kernel
  have inRange : 10 ^ power < bound := Nat.lt_of_le_of_lt (Nat.pow_le_pow_right (by decide) small) below
  cases found : ofRatio false (10 ^ power) 1 with
  | none =>
    have beyond := (ofRatio_eq_none_iff Nat.one_pos).mp found
    omega
  | some number =>
    have same : powerOfTen power = number := by
      have powers : ofRatio false (Nat.pow 10 power) 1 = some number := found
      rw [powerOfTen, powers]
      rfl
    have value := ratio_of_ofRatio found
    rw [same, value]
    exact ⟨rfl, Nat.le_mul_of_pos_left _ (rounded_pos (Nat.pow_pos (by decide)).ne'),
      unit_pos number⟩

theorem exists_div {power : Nat} (small : power ≤ tenStep) (inRange : number.ratio.1 < bound * number.ratio.2) :
    ∃ smaller, number.div? (powerOfTen power) = some smaller ∧ smaller.ratio.1 < bound * smaller.ratio.2 := by
  obtain ⟨-, grown, unit⟩ := powerOfTen_spec small
  have divisor : 0 < number.ratio.2 * (powerOfTen power).ratio.1 :=
    Nat.mul_pos (unit_pos number) (Nat.lt_of_lt_of_le unit grown)
  cases found : number.div? (powerOfTen power) with
  | none =>
    have beyond := (ofRatio_eq_none_iff divisor).mp found
    have less : number.ratio.1 * (powerOfTen power).ratio.2 <
        bound * (number.ratio.2 * (powerOfTen power).ratio.1) :=
      calc number.ratio.1 * (powerOfTen power).ratio.2
          < bound * number.ratio.2 * (powerOfTen power).ratio.2 := Nat.mul_lt_mul_of_pos_right inRange unit
        _ ≤ bound * number.ratio.2 * (powerOfTen power).ratio.1 := Nat.mul_le_mul_left _ grown
        _ = bound * (number.ratio.2 * (powerOfTen power).ratio.1) := Nat.mul_assoc _ _ _
    omega
  | some smaller => exact ⟨smaller, rfl, ratio_lt_of_ofRatio divisor found⟩

theorem scaleByTen?_of_neg (down : exponent < 0) (inRange : number.ratio.1 < bound * number.ratio.2) :
    (number.scaleByTen? exponent).isSome = true := by
  induction size : exponent.natAbs using Nat.strongRecOn generalizing exponent number with
  | ind size ih =>
    rw [scaleByTen?]
    by_cases small : exponent.natAbs ≤ tenStep
    · obtain ⟨smaller, divided, -⟩ := exists_div small inRange
      rw [if_pos small, if_neg (by omega), divided]
      rfl
    · rw [if_neg small]
      by_cases zero : number.isZero = true
      · rw [if_pos zero]
        rfl
      · obtain ⟨smaller, divided, less⟩ := exists_div (Nat.le_refl tenStep) inRange
        rw [if_neg zero, if_neg (by omega), divided, Option.bind_some]
        have last : exponent + (tenStep : Nat) < 0 := by omega
        exact ih _ (by unfold tenStep at *; omega) last less rfl

theorem isZero_iff : number.isZero = true ↔ number.ratio.1 = 0 := by
  have unit := (powerOfTwo_pos number.exponent).1
  rw [isZero, beq_iff_eq, ratio, Nat.mul_eq_zero, or_iff_left (by omega)]

theorem rounded_eq_zero_iff {number : Nat} : rounded number = 0 ↔ number = 0 := by
  constructor
  · intro none
    by_contra some
    exact (rounded_pos some).ne' none
  · rintro rfl
    decide

/-- A power of ten that is taken in one step multiplies as it is rounded. -/
theorem mul?_powerOfTen_eq_none_iff {significand power : Nat}
    (found : ofRatio false significand 1 = some number) (small : power ≤ tenStep) :
    number.mul? (powerOfTen power) = none ↔ bound ≤ rounded significand * rounded (10 ^ power) := by
  obtain ⟨grown, -, step⟩ := powerOfTen_spec small
  have unit := unit_pos number
  have product : number.ratio.1 * (powerOfTen power).ratio.1 =
      rounded significand * rounded (10 ^ power) * (number.ratio.2 * (powerOfTen power).ratio.2) := by
    rw [ratio_of_ofRatio found, grown]
    ring
  rw [mul?, ofRatio_eq_none_iff (Nat.mul_pos unit step), product,
    Nat.mul_le_mul_right_iff (Nat.mul_pos unit step)]

/-- Whether a natural number times a power of ten is out of range, where both are rounded first. -/
theorem scaled_eq_none_iff {significand : Nat} (inRange : significand < bound) :
    (ofRatio false significand 1).bind (·.scaleByTen? exponent) = none ↔
      significand ≠ 0 ∧ (tenStep < exponent ∨
        0 ≤ exponent ∧ exponent ≤ tenStep ∧ bound ≤ rounded significand * rounded (10 ^ exponent.toNat)) := by
  cases found : ofRatio false significand 1 with
  | none =>
    have beyond := (ofRatio_eq_none_iff Nat.one_pos).mp found
    omega
  | some number =>
    rw [Option.bind_some]
    rcases lt_or_ge exponent 0 with down | up
    · have some := scaleByTen?_of_neg down (ratio_lt_of_ofRatio Nat.one_pos found)
      refine iff_of_false (fun none => by rw [none] at some; cases some) ?_
      rintro ⟨-, above | ⟨up, -⟩⟩ <;> omega
    · obtain ⟨power, rfl⟩ := Int.eq_ofNat_of_zero_le up
      rw [scaleByTen?, Int.natAbs_natCast]
      by_cases small : power ≤ tenStep
      · rw [if_pos small, if_pos up, mul?_powerOfTen_eq_none_iff found small, Int.toNat_natCast]
        constructor
        · intro beyond
          refine ⟨?_, .inr ⟨up, by omega, beyond⟩⟩
          intro none
          rw [rounded_eq_zero_iff.mpr none, Nat.zero_mul] at beyond
          exact absurd bound_pos (Nat.not_lt.mpr beyond)
        · rintro ⟨-, above | ⟨-, -, beyond⟩⟩
          · omega
          · exact beyond
      · have above : (tenStep : Int) < power := by omega
        have zero : number.isZero = true ↔ significand = 0 := by
          rw [isZero_iff, ratio_of_ofRatio found, Nat.mul_eq_zero,
            or_iff_left (unit_pos number).ne', rounded_eq_zero_iff]
        rw [if_neg small]
        by_cases none : significand = 0
        · rw [if_pos (zero.mpr none)]
          exact iff_of_false nofun fun beyond => beyond.1 none
        · rw [if_neg (mt zero.mp none), if_pos up]
          exact iff_of_true rfl ⟨none, .inl above⟩

-- Less than the greatest number, and out of range all the same.
example : 1797693134862315708 * 10 ^ 290 < (2 ^ 53 - 1) * 2 ^ 971 ∧
    bound ≤ rounded 1797693134862315708 * rounded (10 ^ 290) := by
  decide +kernel

end EntitlementRules.Binary64
