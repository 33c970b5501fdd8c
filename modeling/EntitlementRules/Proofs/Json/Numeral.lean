import EntitlementRules.Proofs.Json.Amount
import EntitlementRules.Json.Reader
import Mathlib.Data.List.TakeWhile

/-! JSON numbers: a numeral is read as a number, or refused as one that is out of range, whatever follows
it; and what is read as a number is a numeral. -/
namespace EntitlementRules.Json

variable {text part rest exponent fraction : Bytes} {b : UInt8} {number : Number}

/-- What may follow a number: nothing that could belong to it. -/
def Ended (rest : Bytes) : Prop :=
  ∀ b ∈ rest.head?, Ascii.isDigit b = false ∧ b ≠ Ascii.point ∧ b ≠ Ascii.byte 'e' ∧
    b ≠ Ascii.byte 'E'

/-- What a reader makes of a text does not depend on what follows it: a number, or none that is in range. -/
inductive Settles (read : Bytes → Except Fault (Number × Bytes)) (part : Bytes) : Option Number → Prop where
  | reads {number : Number} (all : ∀ rest, Ended rest → read (part ++ rest) = .ok (number, rest)) :
      Settles read part (some number)
  | refuses (all : ∀ rest, Ended rest → ∃ unread, read (part ++ rest) = .error ⟨.outOfRange, unread⟩) :
      Settles read part none

theorem Settles.of_eq {read other : Bytes → Except Fault (Number × Bytes)} {found : Option Number}
    (settles : Settles other text found)
    (same : ∀ rest, Ended rest → read (part ++ rest) = other (text ++ rest)) : Settles read part found := by
  cases settles with
  | reads all => exact .reads fun rest ended => (same rest ended).trans (all rest ended)
  | refuses all =>
    apply Settles.refuses
    intro rest ended
    rw [same rest ended]
    exact all rest ended

/-! ## Digits -/

theorem digits_append (digits : ∀ b ∈ part, Ascii.isDigit b = true)
    (stops : ∀ b ∈ rest.head?, Ascii.isDigit b = false) :
    Json.digits (part ++ rest) = (part.map Ascii.digitValue, rest) := by
  have none : rest.takeWhile Ascii.isDigit = [] ∧ rest.dropWhile Ascii.isDigit = rest := by
    cases rest with
    | nil => exact ⟨rfl, rfl⟩
    | cons b others =>
      have other : ¬ Ascii.isDigit b = true := by simp [stops b rfl]
      exact ⟨List.takeWhile_cons_of_neg other, List.dropWhile_cons_of_neg other⟩
  rw [Json.digits, List.takeWhile_append_of_pos digits, List.dropWhile_append_of_pos digits, none.1,
    none.2, List.append_nil]

theorem exists_digits (text : Bytes) :
    ∃ part, text = part ++ (digits text).2 ∧ (∀ b ∈ part, Ascii.isDigit b = true) ∧
      (digits text).1 = part.map Ascii.digitValue :=
  ⟨text.takeWhile Ascii.isDigit, List.takeWhile_append_dropWhile.symm, fun _ => List.mem_takeWhile_imp, rfl⟩

theorem exists_digits_of_isDigit (others : Bytes) (first : Ascii.isDigit b = true) :
    ∃ part, b :: others = part ++ (digits (b :: others)).2 ∧ Digits part := by
  obtain ⟨part, same, all, values⟩ := exists_digits (b :: others)
  refine ⟨part, same, fun none => ?_, all⟩
  rw [none, digits, List.takeWhile_cons_of_pos first] at values
  cases values

theorem Ended.stops (ended : Ended rest) : ∀ b ∈ rest.head?, Ascii.isDigit b = false :=
  fun b first => (ended b first).1

theorem Keeps.extend_eq {limit start value : Nat} {kept dropped : Bytes}
    (keeps : Keeps limit start text kept dropped value) :
    extend limit start (text.map Ascii.digitValue) = (value, kept.length, dropped.length) := by
  obtain ⟨rfl, written, fits, full⟩ := keeps
  induction kept generalizing start with
  | nil =>
    cases dropped with
    | nil => rw [written]; rfl
    | cons b rest =>
      obtain rfl : value = start := written
      rw [List.nil_append, List.map_cons, extend, if_neg (Nat.not_le.mpr (full b rfl)), List.length_map]
      rfl
  | cons b kept ih =>
    have more : start * 10 + Ascii.digitValue b ≤ limit :=
      Nat.le_trans (le_foldl _ kept) (written ▸ fits : kept.foldl _ (start * 10 + Ascii.digitValue b) ≤ limit)
    rw [List.cons_append, List.map_cons, extend, if_pos more, ih written]
    rfl

/-! ## Exponents -/

variable (negative : Bool) (significand : Nat) (places : Int)

/-- The number that a significand makes whose point is moved. -/
def scaled? (places : Int) : Option Number :=
  ((Binary64.ofRatio false significand 1).bind (·.scaleByTen? places)).map fun value =>
    .float (if negative then value.neg else value)

/-- The number that an exponent makes of a significand whose point has been moved already. -/
def raised? (places : Int) (shrinks : Bool) (power : Nat) : Option Number :=
  if power < 2 ^ 31 then scaled? negative significand (shift places shrinks power)
  else if significand = 0 ∨ shrinks = true then some (.float ⟨negative, 0, Binary64.leastExponent⟩)
  else none

theorem settles_scaled :
    Settles (fun text => (scaled negative significand places text).map (·, text)) []
      (scaled? negative significand places) := by
  unfold scaled scaled?
  cases (Binary64.ofRatio false significand 1).bind (·.scaleByTen? places) with
  | some value => exact .reads fun _ _ => rfl
  | none => exact .refuses fun rest _ => ⟨_, rfl⟩

theorem settles_exponentDigits (shrinks : Bool) (written : Digits part) :
    Settles (exponentDigits negative significand places shrinks) part
      (raised? negative significand places shrinks (decimal part)) := by
  obtain ⟨kept, dropped, power, keeps⟩ := exists_keeps part (Nat.zero_le exponentLimit)
  have extended := keeps.extend_eq
  obtain ⟨b, others, rfl⟩ := List.exists_cons_of_ne_nil written.1
  have first : (!Ascii.isDigit b) = false := by simp [written.2 b (.head _)]
  have split {rest : Bytes} (ended : Ended rest) :
      digits (b :: (others ++ rest)) = ((b :: others).map Ascii.digitValue, rest) :=
    digits_append written.2 ended.stops
  unfold raised?
  by_cases fits : decimal (b :: others) < 2 ^ 31
  · obtain ⟨-, rfl, rfl⟩ := keeps.all (Nat.le_sub_one_of_lt fits)
    rw [if_pos fits]
    apply (settles_scaled negative significand (shift places shrinks (decimal (b :: others)))).of_eq
    intro rest ended
    simp only [exponentDigits, List.cons_append, first, split ended, extended, List.length_nil,
      Bool.false_eq_true, ↓reduceIte, List.nil_append]
    rfl
  · have more : dropped.length ≠ 0 := by
      have left := keeps.exists_dropped (Nat.le_of_not_lt fits)
      simpa using left
    rw [if_neg fits]
    by_cases nothing : significand = 0 ∨ shrinks = true
    · have vanishes : (decide (significand ≠ 0) && !shrinks) = false := by
        rcases nothing with rfl | rfl <;> simp
      rw [if_pos nothing]
      apply Settles.reads
      intro rest ended
      simp only [exponentDigits, List.cons_append, first, split ended, extended, more, vanishes,
        Bool.false_eq_true, ↓reduceIte]
    · have grows : (decide (significand ≠ 0) && !shrinks) = true := by simpa using nothing
      rw [if_neg nothing]
      apply Settles.refuses
      intro rest ended
      refine ⟨rest.length + (dropped.length - 1), ?_⟩
      simp only [exponentDigits, List.cons_append, first, split ended, extended, more, grows,
        Bool.false_eq_true, ↓reduceIte]

theorem settles_exponentPart {sign : Bytes} (signed : sign = [] ∨ sign = [Ascii.plus] ∨ sign = [Ascii.minus])
    (written : Digits part) : Settles (exponentPart negative significand places) (sign ++ part)
      (raised? negative significand places (sign == [Ascii.minus]) (decimal part)) := by
  rcases signed with rfl | rfl | rfl
  · apply (settles_exponentDigits negative significand places false written).of_eq
    intro rest _
    obtain ⟨b, others, rfl⟩ := List.exists_cons_of_ne_nil written.1
    have digit := written.2 b (.head _)
    have unsigned : b ≠ Ascii.plus ∧ b ≠ Ascii.minus := by
      constructor <;> rintro rfl <;> exact absurd digit (by decide)
    simp only [exponentPart, List.nil_append, List.cons_append, unsigned, ↓reduceIte]
  · exact (settles_exponentDigits negative significand places false written).of_eq fun _ _ => rfl
  · exact (settles_exponentDigits negative significand places true written).of_eq fun _ _ => rfl

theorem settles_scaledPart {shrinks : Bool} {power : Nat} (written : Power exponent shrinks power) :
    Settles (scaledPart negative significand places) exponent
      (raised? negative significand places shrinks power) := by
  cases written with
  | none =>
    have flat : raised? negative significand places false 0 = scaled? negative significand places :=
      congrArg (scaled? negative significand) (Int.add_zero places)
    rw [flat]
    apply (settles_scaled negative significand places).of_eq
    intro rest ended
    cases rest with
    | nil => rfl
    | cons b others =>
      obtain ⟨-, -, small, capital⟩ := ended b rfl
      simp only [scaledPart, List.nil_append, small, capital, decide_false, Bool.or_self,
        Bool.false_eq_true, ↓reduceIte]
  | digits letter signed digits =>
    apply (settles_exponentPart negative significand places signed digits).of_eq
    intro rest _
    rcases letter with rfl | rfl <;> rfl

/-! ## Fractions -/

theorem Power.stops {shrinks : Bool} {power : Nat} (written : Power exponent shrinks power)
    (ended : Ended rest) : ∀ b ∈ (exponent ++ rest).head?, Ascii.isDigit b = false := by
  cases written with
  | none => exact ended.stops
  | digits letter _ _ =>
    rintro _ ⟨⟩
    rcases letter with rfl | rfl <;> decide

theorem Decimals.stops {decimals : Bytes} {shrinks : Bool} {power : Nat} (point : Decimals fraction decimals)
    (written : Power exponent shrinks power) (ended : Ended rest) :
    ∀ b ∈ ((fraction ++ exponent) ++ rest).head?, Ascii.isDigit b = false := by
  cases point with
  | none => exact written.stops ended
  | digits _ =>
    rintro _ ⟨⟩
    decide

variable {used unused : Bytes} {first power : Nat} {shrinks : Bool} {significand}

theorem settles_fractionPart (digits : Digits part)
    (keeps : Keeps significandLimit first part used unused significand)
    (written : Power exponent shrinks power) :
    Settles (fractionPart negative first places) (part ++ exponent)
      (raised? negative significand (places - used.length) shrinks power) := by
  have grown := keeps.extend_eq
  apply (settles_scaledPart negative significand (places - used.length) written).of_eq
  intro rest ended
  obtain ⟨b, others, rfl⟩ := List.exists_cons_of_ne_nil digits.1
  have split := digits_append digits.2 (written.stops ended)
  rw [fractionPart, List.append_assoc, split]
  simp only [List.map_cons] at grown ⊢
  rw [grown]

/-- Digits without point and exponent that all fit write an integer. -/
theorem numberTail_ended {negative : Bool} {significand : Nat} (ended : Ended rest) :
    numberTail negative significand 0 rest = .ok (wholeNumber negative significand, rest) := by
  cases rest with
  | nil => rfl
  | cons b others =>
    obtain ⟨-, point, small, capital⟩ := ended b rfl
    simp only [numberTail, point, bne_iff_ne.mpr small, bne_iff_ne.mpr capital, decide_true, Bool.and_self,
      ↓reduceIte]

/-- What follows the first digits of a number, of which some are left out or which it goes on behind. -/
theorem settles_numberTail {decimals : Bytes} (left : Nat) (point : Decimals fraction decimals)
    (keeps : Keeps significandLimit first decimals used unused significand)
    (written : Power exponent shrinks power) (broken : ¬ (left = 0 ∧ fraction ++ exponent = [])) :
    Settles (numberTail negative first left) (fraction ++ exponent)
      (raised? negative significand (left - used.length) shrinks power) := by
  cases point with
  | digits digits =>
    exact (settles_fractionPart negative left digits keeps written).of_eq fun _ _ => rfl
  | none =>
    obtain ⟨rfl, -⟩ := List.nil_eq_append_iff.mp keeps.parts
    obtain rfl : significand = first := keeps.written
    have unmoved : ((left : Int) - ([] : Bytes).length) = left := Int.sub_zero _
    rw [unmoved]
    apply (settles_scaledPart negative significand left written).of_eq
    intro rest ended
    cases written with
    | none =>
      have more : left ≠ 0 := fun none => broken ⟨none, rfl⟩
      cases rest with
      | nil => simp [numberTail, more]
      | cons b others =>
        obtain ⟨-, point, -, -⟩ := ended b rfl
        simp [numberTail, point, more]
    | digits letter _ _ =>
      rcases letter with rfl | rfl
      · exact if_neg (by simp)
      · exact if_neg (by simp)

/-- Digits are extended to a number as far as it fits, and what follows them decides which number it is. -/
theorem unsignedNumber_append {kept dropped : Bytes} (digits : Digits part)
    (leads : part.head? = some Ascii.zero → part = [Ascii.zero])
    (keeps : Keeps significandLimit 0 part kept dropped first)
    (stops : ∀ b ∈ text.head?, Ascii.isDigit b = false) :
    unsignedNumber negative (part ++ text) = numberTail negative first dropped.length text := by
  have split := digits_append digits.2 stops
  have grown := keeps.extend_eq
  obtain ⟨b, others, rfl⟩ := List.exists_cons_of_ne_nil digits.1
  have digit := digits.2 b (.head _)
  have alone : ¬ (decide (b = Ascii.zero) && (others ++ text).head?.any Ascii.isDigit) = true := by
    intro doubled
    rw [Bool.and_eq_true, decide_eq_true_eq, Option.any_eq_true] at doubled
    obtain ⟨rfl, c, behind, digit⟩ := doubled
    cases leads rfl
    rw [stops c behind] at digit
    cases digit
  rw [List.cons_append] at split ⊢
  simp only [unsignedNumber, digit, Bool.not_true, Bool.false_eq_true, ↓reduceIte, alone, split, grown]

/-! ## Amounts -/

variable {places}

theorem Whole.settles (whole : Whole text) :
    Settles (unsignedNumber negative) text (some (wholeNumber negative (decimal text))) := by
  obtain ⟨kept, dropped, value, keeps⟩ := exists_keeps text (Nat.zero_le significandLimit)
  obtain ⟨-, rfl, rfl⟩ := keeps.all (Nat.le_sub_one_of_lt whole.fits)
  apply Settles.reads
  intro rest ended
  rw [unsignedNumber_append negative whole.digits whole.leads keeps ended.stops]
  exact numberTail_ended ended

theorem Measures.settles (measures : Measures text significand places shrinks power) (other : ¬ Whole text) :
    Settles (unsignedNumber negative) text (raised? negative significand places shrinks power) := by
  obtain @⟨whole, kept, dropped, fraction, decimals, used, unused, exponent, first, _, _, _, digits, leads,
    before, point, behind, scale⟩ := measures
  have broken : ¬ (dropped.length = 0 ∧ fraction ++ exponent = []) := by
    rintro ⟨none, alone⟩
    rw [alone, List.append_nil] at other
    refine other ⟨digits, leads, ?_⟩
    by_contra large
    exact before.exists_dropped (Nat.lt_of_lt_of_le (by decide) (Nat.not_lt.mp large))
      (List.length_eq_zero_iff.mp none)
  apply (settles_numberTail negative dropped.length point behind scale broken).of_eq
  intro rest ended
  rw [List.append_assoc]
  exact unsignedNumber_append negative digits leads before (point.stops scale ended)

/-- A number that one in the grammar stands for is read as that. -/
theorem Amounts.settles (amounts : Amounts negative text number) :
    Settles (unsignedNumber negative) text (some number) := by
  cases amounts with
  | positive whole sign =>
    subst sign
    exact whole.settles false
  | negative whole sign some small =>
    have same : wholeNumber true (decimal text) = .integer (-decimal text) := by
      rw [wholeNumber, if_neg (by decide), if_neg (by simpa using ⟨some, small⟩)]
    subst sign
    exact same ▸ whole.settles true
  | @rounded value whole sign other near =>
    have same : wholeNumber true (decimal text) = .float value := by
      rw [wholeNumber, if_neg (by decide), if_pos (by simpa using other), near, Option.getD_some]
    subst sign
    exact same ▸ whole.settles true
  | scaled measures other computed near =>
    have found := measures.settles negative other
    rwa [raised?, if_pos computed, scaled?, near] at found
  | vanished measures steep nothing =>
    have other : ¬ Whole text := fun whole => by
      obtain ⟨-, -, rfl⟩ := measures.of_whole whole
      exact absurd steep (by decide)
    have found := measures.settles negative other
    rwa [raised?, if_neg (Nat.not_lt.mpr steep), if_pos nothing] at found

theorem Beyond.settles (beyond : Beyond text) : Settles (unsignedNumber negative) text none := by
  have other := beyond.not_whole
  cases beyond with
  | steep measures some steep =>
    have found := measures.settles negative other
    rwa [raised?, if_neg (Nat.not_lt.mpr steep), if_neg (by simpa using some)] at found
  | great measures some computed reaches =>
    have found := measures.settles negative other
    rwa [raised?, if_pos computed, scaled?,
      (Binary64.scaled_eq_none_iff measures.lt_bound).mpr ⟨some, reaches⟩] at found

/-! ## What is read -/

variable {negative}

theorem rest_of_scaled (read : (scaled negative significand places text).map (·, text) = .ok (number, rest)) :
    rest = text := by
  cases value : scaled negative significand places text with
  | error fault =>
    rw [value] at read
    cases read
  | ok value =>
    rw [value] at read
    cases read
    rfl

theorem exists_exponentDigits {shrinks : Bool}
    (read : exponentDigits negative significand places shrinks text = .ok (number, rest)) :
    ∃ part, text = part ++ rest ∧ Digits part := by
  cases text with
  | nil => cases read
  | cons b others =>
    unfold exponentDigits at read
    dsimp only at read
    split at read
    · cases read
    · next digit =>
      obtain ⟨part, same, digits⟩ := exists_digits_of_isDigit others (by simpa using digit)
      have ends : rest = (Json.digits (b :: others)).2 := by
        split at read
        · exact rest_of_scaled read
        · split at read
          · cases read
          · cases read
            rfl
      exact ⟨part, ends ▸ same, digits⟩

theorem exists_exponentPart (read : exponentPart negative significand places text = .ok (number, rest)) :
    ∃ sign part, text = sign ++ part ++ rest ∧
      (sign = [] ∨ sign = [Ascii.plus] ∨ sign = [Ascii.minus]) ∧ Digits part := by
  cases text with
  | nil =>
    have digits : exponentDigits negative significand places false [] = .ok (number, rest) := read
    cases digits
  | cons b others =>
    unfold exponentPart at read
    dsimp only at read
    split at read
    · next plus =>
      obtain ⟨part, rfl, digits⟩ := exists_exponentDigits read
      exact ⟨[Ascii.plus], part, by rw [plus]; rfl, .inr (.inl rfl), digits⟩
    · split at read
      · next minus =>
        obtain ⟨part, rfl, digits⟩ := exists_exponentDigits read
        exact ⟨[Ascii.minus], part, by rw [minus]; rfl, .inr (.inr rfl), digits⟩
      · obtain ⟨part, same, digits⟩ := exists_exponentDigits read
        exact ⟨[], part, same, .inl rfl, digits⟩

theorem exists_scaledPart (read : scaledPart negative significand places text = .ok (number, rest)) :
    ∃ exponent, text = exponent ++ rest ∧ Exponent exponent := by
  cases text with
  | nil => exact ⟨[], (rest_of_scaled read).symm, .none⟩
  | cons b others =>
    unfold scaledPart at read
    dsimp only at read
    split at read
    · next letter =>
      obtain ⟨sign, part, rfl, signed, digits⟩ := exists_exponentPart read
      simp only [Bool.or_eq_true, decide_eq_true_eq] at letter
      exact ⟨b :: (sign ++ part), rfl, .digits letter signed digits⟩
    · exact ⟨[], (rest_of_scaled read).symm, .none⟩

theorem exists_fractionPart (read : fractionPart negative significand places text = .ok (number, rest)) :
    ∃ part exponent, text = part ++ (exponent ++ rest) ∧ Digits part ∧ Exponent exponent := by
  obtain ⟨part, same, digits, values⟩ := exists_digits text
  unfold fractionPart at read
  split at read
  · cases read
  · next other =>
    obtain ⟨exponent, behind, written⟩ := exists_scaledPart read
    rw [behind] at same
    refine ⟨part, exponent, same, ⟨fun none => ?_, digits⟩, written⟩
    rw [none] at values
    exact other values

theorem exists_numberTail {left : Nat}
    (read : numberTail negative significand left text = .ok (number, rest)) :
    ∃ fraction exponent, text = fraction ++ exponent ++ rest ∧ Fraction fraction ∧ Exponent exponent := by
  have scales (read : scaledPart negative significand left text = .ok (number, rest)) :
      ∃ fraction exponent, text = fraction ++ exponent ++ rest ∧ Fraction fraction ∧ Exponent exponent := by
    obtain ⟨exponent, same, written⟩ := exists_scaledPart read
    exact ⟨[], exponent, same, .none, written⟩
  cases text with
  | nil =>
    unfold numberTail at read
    dsimp only at read
    split at read
    · cases read
      exact ⟨[], [], rfl, .none, .none⟩
    · exact scales read
  | cons b others =>
    unfold numberTail at read
    dsimp only at read
    split at read
    · next point =>
      obtain ⟨part, exponent, rfl, digits, written⟩ := exists_fractionPart read
      exact ⟨Ascii.point :: part, exponent, by simp [point], .digits digits, written⟩
    · split at read
      · cases read
        exact ⟨[], [], rfl, .none, .none⟩
      · exact scales read

/-- What is read as a number without its sign is one in the grammar. -/
theorem exists_magnitude (read : unsignedNumber negative text = .ok (number, rest)) :
    ∃ part, text = part ++ rest ∧ Magnitude part := by
  cases text with
  | nil => cases read
  | cons b others =>
    unfold unsignedNumber at read
    dsimp only at read
    split at read
    · cases read
    · next digit =>
      split at read
      · cases read
      · next alone =>
        have first : Ascii.isDigit b = true := by simpa using digit
        obtain ⟨whole, same, digits⟩ := exists_digits_of_isDigit others first
        obtain ⟨fraction, exponent, behind, decimals, written⟩ := exists_numberTail read
        rw [behind] at same
        refine ⟨whole ++ (fraction ++ exponent), by rw [same]; simp, .parts digits ?_ decimals written⟩
        intro zero
        cases whole with
        | nil => cases zero
        | cons c more =>
          cases zero
          cases more with
          | nil => rfl
          | cons c rest =>
            obtain ⟨rfl, rfl⟩ := List.cons_eq_cons.mp same
            exact absurd (by simpa using digits.2 c (.tail _ (.head _))) alone

end EntitlementRules.Json
