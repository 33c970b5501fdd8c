import EntitlementRules.Proofs.Text.Cut
import EntitlementRules.Proofs.Url.Punycode
import Mathlib.Data.List.Sort
import Mathlib.Tactic.Ring

/-! Punycode reads back: a decoding that reads what an encoding writes does the same steps. It holds, at every
character that the encoding passes, the characters whose turn has come before. -/
namespace EntitlementRules.Punycode

variable {text plain passed left written : List Char} {turns : List Nat} {turn next : Nat} {c : Char}
  {encoding : Encoding} {decoding : Decoding}

/-! ## Numbers -/

/-- Puts the character into the output whose turn and place a number says. -/
def Decoding.put (decoding : Decoding) (reached : Nat) : Option Decoding :=
  let count := decoding.output.length + 1
  let turn := decoding.turn + reached / count
  let position := reached % count
  if h : turn.isValidChar then
    some {
      output := decoding.output.take position
        ++ Char.ofNatAux turn h :: decoding.output.drop position
      turn
      reached := position + 1
      start := position + 1
      bias := adapt (reached - decoding.start) count (decoding.start == 0) }
  else none

theorem Decoding.follow_cons {digit : Nat} {rest : List Char} (known : digit? c = some digit) :
    decoding.follow (c :: rest) = (decoding.read digit).bind (·.follow rest) := by
  rw [follow, List.foldlM_cons, known]
  rfl

theorem Decoding.follow_append {more : List Char} {reached : Decoding}
    (followed : decoding.follow written = some reached) :
    decoding.follow (written ++ more) = reached.follow more := by
  rw [follow, List.foldlM_append, ← follow, followed]
  rfl

theorem Decoding.read_last {digit : Nat} (last : digit < threshold decoding.place decoding.bias) :
    decoding.read digit = decoding.put (decoding.reached + digit * decoding.weight) :=
  if_neg (Nat.not_le.mpr last)

theorem Decoding.read_more {digit : Nat} (more : threshold decoding.place decoding.bias ≤ digit) :
    decoding.read digit = some { decoding with
      reached := decoding.reached + digit * decoding.weight
      place := decoding.place + 36
      weight := decoding.weight * (36 - threshold decoding.place decoding.bias) } :=
  if_pos more

theorem digit?_digitChar : ∀ digit < 36, digit? (digitChar digit) = some digit := by decide

/-- A number that goes on is its first digit and what the others count in the base that is left. -/
theorem weigh_digits {number limit : Nat} (more : limit ≤ number) (base weight : Nat) :
    (limit + (number - limit) % base) * weight + (number - limit) / base * (weight * base) = number * weight :=
  calc (limit + (number - limit) % base) * weight + (number - limit) / base * (weight * base)
      = (limit + ((number - limit) % base + (number - limit) / base * base)) * weight := by ring
    _ = number * weight := by rw [Nat.mod_add_div', Nat.add_sub_cancel' more]

/-- The digits of a number read as that number, in units of the weight that is reached. -/
theorem Decoding.follow_digits (decoding : Decoding) (number : Nat) :
    decoding.follow (digits decoding.bias decoding.place number) =
      decoding.put (decoding.reached + number * decoding.weight) := by
  induction number using Nat.strongRecOn generalizing decoding with
  | ind number ih =>
    have least := one_le_threshold decoding.place decoding.bias
    have most := threshold_le decoding.place decoding.bias
    unfold digits
    simp only
    split
    · next last =>
      rw [follow_cons (digit?_digitChar number (by omega)), read_last last]
      exact Option.bind_fun_some _
    · next more =>
      have weighed := weigh_digits (Nat.not_lt.mp more) (36 - threshold decoding.place decoding.bias)
        decoding.weight
      have digit := Nat.mod_lt (number - threshold decoding.place decoding.bias)
        (show 0 < 36 - threshold decoding.place decoding.bias by omega)
      have smaller := Nat.div_le_self (number - threshold decoding.place decoding.bias)
        (36 - threshold decoding.place decoding.bias)
      rw [follow_cons (digit?_digitChar _ (by omega)), read_more (Nat.le_add_right _ _), Option.bind_some,
        ih _ (by omega), ← weighed, ← Nat.add_assoc]
      rfl

/-- The number of a character and a place puts that character there. -/
theorem Decoding.put_char {before behind : List Char} {reached : Nat} (output : decoding.output = before ++ behind)
    (later : decoding.turn ≤ c.toNat)
    (number : reached = (c.toNat - decoding.turn) * (decoding.output.length + 1) + before.length) :
    decoding.put reached = some {
      output := before ++ c :: behind
      turn := c.toNat
      reached := before.length + 1
      start := before.length + 1
      bias := adapt (reached - decoding.start) (decoding.output.length + 1) (decoding.start == 0) } := by
  have inside : before.length < decoding.output.length + 1 := by
    rw [output, List.length_append]
    omega
  have turns : reached / (decoding.output.length + 1) = c.toNat - decoding.turn := by
    rw [number, Nat.mul_comm, Nat.mul_add_div (Nat.zero_lt_succ _), Nat.div_eq_of_lt inside, Nat.add_zero]
  have place : reached % (decoding.output.length + 1) = before.length := by
    rw [number, Nat.mul_comm, Nat.mul_add_mod, Nat.mod_eq_of_lt inside]
  unfold put
  dsimp only
  rw [turns, place, Nat.add_sub_cancel' later, dif_pos (show c.toNat.isValidChar from c.valid), output,
    List.take_left, List.drop_left]
  rfl

/-! ## Turns -/

theorem pairwise_lt_eraseDups : {numbers : List Nat} → numbers.Pairwise (· ≤ ·) →
    numbers.eraseDups.Pairwise (· < ·)
  | [], _ => .nil
  | number :: rest, sorted => by
    rw [List.eraseDups_cons]
    refine .cons (fun other member => ?_) (pairwise_lt_eraseDups (sorted.tail.filter _))
    obtain ⟨inside, other⟩ := List.mem_filter.mp (List.mem_eraseDups.mp member)
    exact Nat.lt_of_le_of_ne (List.rel_of_pairwise_cons sorted inside) fun same => by simp [same] at other
termination_by numbers => numbers.length
decreasing_by exact Nat.lt_succ_of_le (List.length_filter_le _ _)

/-- What one encoding writes on top of another leads from one decoding to another. -/
def Leads (before after : Encoding) (source target : Decoding) : Prop :=
  ∃ tail, after.output = before.output ++ tail ∧ (∀ c ∈ tail, c ∈ digitChars) ∧
    source.follow tail = some target

theorem Leads.refl (encoding : Encoding) (decoding : Decoding) : Leads encoding encoding decoding decoding :=
  ⟨[], (List.append_nil _).symm, nofun, rfl⟩

theorem Leads.trans {first second third : Encoding} {source middle target : Decoding}
    (leads : Leads first second source middle) (later : Leads second third middle target) :
    Leads first third source target := by
  obtain ⟨tail, written, digits, followed⟩ := leads
  obtain ⟨more, on, further, reached⟩ := later
  refine ⟨tail ++ more, by rw [on, written, List.append_assoc], fun c member => ?_,
    (Decoding.follow_append followed).trans reached⟩
  exact (List.mem_append.mp member).elim (digits c) (further c)

/-- A decoding that has followed an encoding up to a turn, of which some characters are passed and some are
left. It holds those whose turns have come, and what the encoding counts leads from its place to the next. -/
structure InStep (plain passed left : List Char) (turn : Nat) (encoding : Encoding) (decoding : Decoding) :
    Prop where
  output : decoding.output = passed.filter (·.toNat ≤ turn) ++ left.filter (·.toNat < turn)
  count : encoding.count = decoding.output.length
  bias : encoding.bias = decoding.bias
  place : decoding.place = 36
  weight : decoding.weight = 1
  reached : decoding.reached = decoding.start
  due : decoding.turn ≤ turn
  delta : decoding.start + encoding.delta =
    (turn - decoding.turn) * (decoding.output.length + 1) + (passed.filter (·.toNat ≤ turn)).length
  least : plain.length ≤ encoding.count
  first : decoding.start = 0 ↔ encoding.count = plain.length

theorem InStep.pass (inStep : InStep plain passed (c :: left) turn encoding decoding) :
    ∃ next, InStep plain (passed ++ [c]) left turn (encoding.pass plain.length turn c) next ∧
      Leads encoding (encoding.pass plain.length turn c) decoding next := by
  unfold Encoding.pass
  rcases Nat.lt_trichotomy c.toNat turn with before | now | after
  · -- The character is held already: the next place lies behind it.
    rw [if_pos before]
    have held : (passed ++ [c]).filter (·.toNat ≤ turn) = passed.filter (·.toNat ≤ turn) ++ [c] := by
      simp [Nat.le_of_lt before]
    refine ⟨decoding, { inStep with output := ?_, delta := ?_ }, .refl encoding decoding⟩
    · rw [inStep.output, held, List.filter_cons_of_pos (by simpa using before), List.append_assoc]
      rfl
    · rw [held, List.length_append]
      exact congrArg (· + 1) inStep.delta
  · -- The number that is written now says the turn of the character and its place.
    subst now
    have held : (passed ++ [c]).filter (·.toNat ≤ c.toNat) = passed.filter (·.toNat ≤ c.toNat) ++ [c] := by
      simp
    have ahead : decoding.output =
        passed.filter (·.toNat ≤ c.toNat) ++ left.filter (·.toNat < c.toNat) := by
      rw [inStep.output, List.filter_cons_of_neg (by simp)]
    have first : (decoding.start == 0) = (encoding.count == plain.length) := by
      rw [Bool.eq_iff_iff, beq_iff_eq, beq_iff_eq]
      exact inStep.first
    have read := decoding.follow_digits encoding.delta
    rw [inStep.reached, inStep.weight, Nat.mul_one, Decoding.put_char ahead inStep.due inStep.delta,
      Nat.add_sub_cancel_left, ← inStep.count, first, ← inStep.bias, inStep.place] at read
    rw [if_neg (Nat.lt_irrefl _), if_pos rfl]
    refine ⟨_, ?_, _, rfl, fun d member => mem_digits member, read⟩
    exact {
      output := by
        rw [held, List.append_assoc]
        rfl
      count := by
        rw [inStep.count, ahead, List.length_append, List.length_append]
        rfl
      bias := rfl
      place := rfl
      weight := rfl
      reached := rfl
      due := Nat.le_refl _
      delta := by
        rw [held, Nat.sub_self, Nat.zero_mul, Nat.zero_add, List.length_append]
        rfl
      least := Nat.le_succ_of_le inStep.least
      first := iff_of_false (Nat.succ_ne_zero _) (Nat.ne_of_gt (Nat.lt_succ_of_le inStep.least)) }
  · -- The turn of the character comes later.
    rw [if_neg (Nat.not_lt.mpr (Nat.le_of_lt after)), if_neg (Nat.ne_of_gt after)]
    have held : (passed ++ [c]).filter (·.toNat ≤ turn) = passed.filter (·.toNat ≤ turn) := by
      simp [after]
    refine ⟨decoding, { inStep with output := ?_, delta := ?_ }, .refl encoding decoding⟩
    · rw [inStep.output, held, List.filter_cons_of_neg (by simpa using Nat.le_of_lt after)]
    · rw [held, inStep.delta]

theorem InStep.foldl_pass (inStep : InStep plain passed left turn encoding decoding) :
    ∃ next, InStep plain (passed ++ left) [] turn (left.foldl (Encoding.pass plain.length turn) encoding) next ∧
      Leads encoding (left.foldl (Encoding.pass plain.length turn) encoding) decoding next := by
  induction left generalizing passed encoding decoding with
  | nil => exact ⟨decoding, by rwa [List.append_nil], .refl encoding decoding⟩
  | cons c rest ih =>
    obtain ⟨next, on, leads⟩ := inStep.pass
    obtain ⟨ended, whole, later⟩ := ih on
    exact ⟨ended, by rwa [List.append_assoc] at whole, leads.trans later⟩

theorem InStep.wait (inStep : InStep plain [] text next encoding decoding) (later : next ≤ turn)
    (gap : ∀ c ∈ text, c.toNat < turn → c.toNat < next) :
    InStep plain [] text turn
      { encoding with delta := encoding.delta + (turn - next) * (encoding.count + 1) } decoding :=
  { inStep with
    output := by
      rw [inStep.output]
      refine congrArg _ (List.filter_congr fun c member => decide_eq_decide.mpr ?_)
      exact ⟨fun before => Nat.lt_of_lt_of_le before later, gap c member⟩
    due := Nat.le_trans inStep.due later
    delta := by
      have apart : turn - decoding.turn = next - decoding.turn + (turn - next) := by
        have due := inStep.due
        omega
      rw [← Nat.add_assoc, inStep.delta, apart, Nat.add_mul, inStep.count]
      exact Nat.add_right_comm _ _ _ }

theorem InStep.turned (inStep : InStep plain text [] turn encoding decoding) :
    InStep plain [] text (turn + 1) { encoding with delta := encoding.delta + 1 } decoding :=
  have held : text.filter (·.toNat ≤ turn) = text.filter (·.toNat < turn + 1) :=
    List.filter_congr fun c _ => decide_eq_decide.mpr Nat.lt_succ_iff.symm
  have output : decoding.output = text.filter (·.toNat < turn + 1) := by
    rw [inStep.output, held]
    exact List.append_nil _
  { inStep with
    output
    due := Nat.le_succ_of_le inStep.due
    delta := by
      have counted := inStep.delta
      rw [held, ← output] at counted
      rw [← Nat.add_assoc, counted, Nat.succ_sub inStep.due, Nat.succ_mul]
      rfl }

/-- A decoding that follows an encoding of a text up to a number follows it to its end, where it holds the
text, if no character has a number from there on without a turn. -/
theorem InStep.advance (inStep : InStep plain [] text next encoding decoding)
    (sorted : turns.Pairwise (· < ·)) (later : ∀ turn ∈ turns, next ≤ turn)
    (covered : ∀ c ∈ text, next ≤ c.toNat → c.toNat ∈ turns) :
    ∃ ended : Decoding, ended.output = text ∧ ended.place = 36 ∧
      Leads encoding (Encoding.advance text plain.length next turns encoding) decoding ended := by
  induction turns generalizing next encoding decoding with
  | nil =>
    refine ⟨decoding, ?_, inStep.place, .refl encoding decoding⟩
    rw [inStep.output]
    refine List.filter_eq_self.mpr fun c member => ?_
    simpa using fun due => covered c member due
  | cons turn rest ih =>
    have gap (c : Char) (member : c ∈ text) (before : c.toNat < turn) : c.toNat < next := by
      by_contra due
      rcases List.mem_cons.mp (covered c member (Nat.not_lt.mp due)) with same | after
      · exact absurd same (Nat.ne_of_lt before)
      · exact Nat.lt_asymm before (List.rel_of_pairwise_cons sorted after)
    have waited := inStep.wait (later turn (.head _)) gap
    obtain ⟨put, whole, leads⟩ := waited.foldl_pass
    obtain ⟨ended, output, place, on⟩ := ih whole.turned sorted.tail
      (fun other member => List.rel_of_pairwise_cons sorted member) fun c member due =>
        (List.mem_cons.mp (covered c member (Nat.le_trans (later turn (.head _)) (Nat.le_of_lt due)))).resolve_left
          (Nat.ne_of_gt due)
    exact ⟨ended, output, place, leads.trans on⟩

/-! ## Texts -/

/-- What stands in front of the numbers. -/
def opening (plain : List Char) : List Char := if plain = [] then [] else plain ++ ['-']

theorem decode?_opening {ended : Decoding} (digits : ∀ c ∈ written, c ∈ digitChars)
    (followed : ({ output := plain } : Decoding).follow written = some ended) (place : ended.place = 36) :
    decode? (opening plain ++ written) = some ended.output := by
  have bare : ∀ c ∈ written.reverse, (c != '-') = true := Text.bne_of_not_mem fun hyphen =>
    absurd (digits '-' (List.mem_reverse.mp hyphen)) (by decide)
  have tail : ((opening plain ++ written).reverse.takeWhile (· != '-')).reverse = written := by
    unfold opening
    split
    · rw [List.nil_append, List.takeWhile_eq_self_iff.mpr bare, List.reverse_reverse]
    · simp [List.takeWhile_append_of_pos bare]
  have front : (opening plain ++ written).take ((opening plain ++ written).length - written.length - 1) =
      plain := by
    rw [List.length_append, Nat.add_sub_cancel]
    unfold opening
    split
    · next empty => exact empty.symm
    · rw [List.length_append, List.length_singleton, Nat.add_sub_cancel, List.append_assoc, List.take_left]
  have parts : (if plain = [] then ([], opening plain ++ written) else (plain, written)) = (plain, written) := by
    split
    · next empty => simp [empty, opening]
    · rfl
  unfold decode?
  simp only [tail, front, parts]
  exact Option.bind_eq_some_iff.mpr ⟨ended, followed, if_pos place⟩

theorem decode?_encode (text : List Char) : decode? (encode text) = some text := by
  have started : InStep (text.filter isAscii) [] text 128
      { output := opening (text.filter isAscii), count := (text.filter isAscii).length }
      { output := text.filter isAscii } :=
    { output := rfl, count := rfl, bias := rfl, place := rfl, weight := rfl, reached := rfl
      due := Nat.le_refl 128, delta := by simp, least := Nat.le_refl _, first := iff_of_true rfl rfl }
  have listed (turn : Nat) : turn ∈ ((text.filter (!isAscii ·)).map Char.toNat).mergeSort.eraseDups ↔
      ∃ c ∈ text, 128 ≤ c.toNat ∧ c.toNat = turn := by
    simp [isAscii, and_assoc]
  have sorted := pairwise_lt_eraseDups (List.pairwise_mergeSort' (· ≤ ·)
    ((text.filter (!isAscii ·)).map Char.toNat))
  have later (turn : Nat)
      (member : turn ∈ ((text.filter (!isAscii ·)).map Char.toNat).mergeSort.eraseDups) : 128 ≤ turn := by
    obtain ⟨c, -, foreign, rfl⟩ := (listed turn).mp member
    exact foreign
  obtain ⟨ended, output, place, written, whole, digits, followed⟩ := started.advance sorted later
    fun c member foreign => (listed c.toNat).mpr ⟨c, member, foreign, rfl⟩
  have written : encode text = opening (text.filter isAscii) ++ written := whole
  rw [written, decode?_opening digits followed place, output]

end EntitlementRules.Punycode
