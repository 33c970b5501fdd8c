import EntitlementRules.Proofs.Base64

/-! Base64, the other way round: a text that decodes is the encoding of its bytes, and which texts these
are. -/
namespace EntitlementRules.Base64

theorem symbolOf_of_valueOf? {symbol : UInt8} {value : Nat} (known : valueOf? symbol = some value) :
    value < 64 ∧ symbolOf value = symbol := by
  have table : ∀ number < 256, ∀ value ∈ valueOf? (UInt8.ofNat number),
      value < 64 ∧ symbolOf value = UInt8.ofNat number := by
    decide +kernel
  have found := table symbol.toNat symbol.toNat_lt value
  rw [UInt8.ofNat_toNat] at found
  exact found known

/-- Where a symbol is read, there is one. -/
theorem valueAt_bind_eq_ok {α : Type} {offset : Nat} {symbol : UInt8} {next : Nat → Except Error α}
    {result : α} :
    (valueAt offset symbol >>= next) = .ok result ↔
      ∃ value < 64, symbolOf value = symbol ∧ next value = .ok result := by
  constructor
  · intro read
    unfold valueAt at read
    split at read
    · next value known =>
      obtain ⟨small, same⟩ := symbolOf_of_valueOf? known
      exact ⟨value, small, same, read⟩
    · cases read
  · rintro ⟨value, small, rfl, continued⟩
    rw [valueAt_symbolOf offset small]
    exact continued

private theorem toNat_byte {value : Nat} (small : value < 256) : (UInt8.ofNat value).toNat = value :=
  UInt8.toNat_ofNat_of_lt' small

theorem encodeBytes_quadBytes {p q r s : Nat} (hp : p < 64) (hq : q < 64) (hr : r < 64) (hs : s < 64)
    (rest : Bytes) :
    encodeBytes (quadBytes p q r s ++ rest) =
      symbolOf p :: symbolOf q :: symbolOf r :: symbolOf s :: encodeBytes rest := by
  have first : (p * 4 + q / 16) / 4 = p := by omega
  have second : (p * 4 + q / 16) % 4 * 16 + (q % 16 * 16 + r / 4) / 16 = q := by omega
  have third : (q % 16 * 16 + r / 4) % 16 * 4 + (r % 4 * 64 + s) / 64 = r := by omega
  have fourth : (r % 4 * 64 + s) % 64 = s := by omega
  simp only [quadBytes, List.cons_append, List.nil_append, encodeBytes]
  rw [toNat_byte (by omega), toNat_byte (by omega), toNat_byte (by omega), first, second, third,
    fourth]

theorem encodeBytes_of_tripleBytes (offset : Nat) (last : UInt8) {p q r : Nat} {bytes : Bytes}
    (hp : p < 64) (hq : q < 64) (hr : r < 64) (read : tripleBytes offset last p q r = .ok bytes) :
    encodeBytes bytes = [symbolOf p, symbolOf q, symbolOf r, pad] := by
  unfold tripleBytes at read
  split at read
  · next unused =>
    have first : (p * 4 + q / 16) / 4 = p := by omega
    have second : (p * 4 + q / 16) % 4 * 16 + (q % 16 * 16 + r / 4) / 16 = q := by omega
    have third : (q % 16 * 16 + r / 4) % 16 * 4 = r := by omega
    cases read
    simp only [encodeBytes]
    rw [toNat_byte (by omega), toNat_byte (by omega), first, second, third]
  · cases read

theorem encodeBytes_of_pairBytes (offset : Nat) (last : UInt8) {p q : Nat} {bytes : Bytes}
    (hp : p < 64) (hq : q < 64) (read : pairBytes offset last p q = .ok bytes) :
    encodeBytes bytes = [symbolOf p, symbolOf q, pad, pad] := by
  unfold pairBytes at read
  split at read
  · next unused =>
    have first : (p * 4 + q / 16) / 4 = p := by omega
    have second : (p * 4 + q / 16) % 4 * 16 = q := by omega
    cases read
    simp only [encodeBytes]
    rw [toNat_byte (by omega), first, second]
  · cases read

theorem encodeBytes_of_decodeLast {offset : Nat} {a b c d : UInt8} {bytes : Bytes}
    (read : decodeLast offset [a, b, c, d] = .ok bytes) : encodeBytes bytes = [a, b, c, d] := by
  simp only [decodeLast, valueAt_bind_eq_ok] at read
  obtain ⟨p, hp, rfl, q, hq, rfl, read⟩ := read
  split at read
  · next padded =>
    split at read
    · next paddedTwice => rw [encodeBytes_of_pairBytes _ _ hp hq read, padded, paddedTwice]
    · cases read
  · simp only [valueAt_bind_eq_ok] at read
    obtain ⟨r, hr, rfl, read⟩ := read
    split at read
    · next padded => rw [encodeBytes_of_tripleBytes _ _ hp hq hr read, padded]
    · obtain ⟨s, hs, rfl, same⟩ := valueAt_bind_eq_ok.mp read
      cases same
      exact encodeBytes_quadBytes hp hq hr hs []

private theorem eq_ok_of_discard_bind {α β : Type} {first : Except Error α}
    {next : Unit → Except Error β} {result : β} (read : (discard first >>= next) = .ok result) :
    next () = .ok result := by
  cases first with
  | error error => cases read
  | ok value => exact read

/-- One to three bytes are no group, whatever they are. -/
theorem eq_nil_of_decodeLast {offset : Nat} {text bytes : Bytes} (short : text.length < 4)
    (read : decodeLast offset text = .ok bytes) : text = [] := by
  match text with
  | [] => rfl
  | [a] => cases eq_ok_of_discard_bind read
  | [a, b] => cases eq_ok_of_discard_bind (eq_ok_of_discard_bind read)
  | [a, b, c] =>
    have last := eq_ok_of_discard_bind (eq_ok_of_discard_bind read)
    split at last
    · cases last
    · cases eq_ok_of_discard_bind last
  | _ :: _ :: _ :: _ :: rest =>
    simp only [List.length_cons] at short
    omega

/-- Group by group, a text that decodes is the encoding of its bytes. -/
theorem encodeBytes_of_decodeGroups {offset : Nat} {text bytes : Bytes}
    (read : decodeGroups offset text = .ok bytes) : encodeBytes bytes = text := by
  fun_induction decodeGroups offset text generalizing bytes with
  | case1 offset a b c d e rest ih =>
    simp only [valueAt_bind_eq_ok] at read
    obtain ⟨p, hp, rfl, q, hq, rfl, r, hr, rfl, s, hs, rfl, read⟩ := read
    cases later : decodeGroups (offset + 4) (e :: rest) with
    | error error => simp [later, bind, Except.bind] at read
    | ok bytes =>
      rw [later] at read
      cases read
      rw [encodeBytes_quadBytes hp hq hr hs, ih later]
  | case2 offset text whole =>
    by_cases short : text.length < 4
    · cases eq_nil_of_decodeLast short read
      cases read
      rfl
    · match text with
      | [a, b, c, d] => exact encodeBytes_of_decodeLast read
      | a :: b :: c :: d :: e :: rest => exact (whole a b c d e rest rfl).elim
      | [] | [_] | [_, _] | [_, _, _] => exact (short (by simp)).elim

theorem decode_eq_ok_iff {text bytes : Bytes} : decode text = .ok bytes ↔ text = encodeBytes bytes := by
  constructor
  · intro read
    unfold decode at read
    split at read
    · cases read
    · exact (encodeBytes_of_decodeGroups read).symm
  · rintro rfl
    exact decode_encodeBytes bytes

/-- Numbers of six bits and a number of padding bytes that make up a text: in whole groups of four, with
at most two padding bytes, and without a bit in the last number that encodes nothing. -/
structure Canonical (numbers : List Nat) (pads : Nat) : Prop where
  small : ∀ number ∈ numbers, number < 64
  whole : (numbers.length + pads) % 4 = 0
  padded : pads ≤ 2
  used : ∀ last, numbers.getLast? = some last →
    (pads = 1 → last % 4 = 0) ∧ (pads = 2 → last % 16 = 0)

/-- The text of numbers, with padding behind them. -/
def written (numbers : List Nat) (pads : Nat) : Bytes :=
  numbers.map symbolOf ++ List.replicate pads pad

theorem Canonical.nil : Canonical [] 0 := ⟨nofun, rfl, by decide, nofun⟩

theorem Canonical.pair {p q : Nat} (hp : p < 64) (hq : q < 64) (unused : q % 16 = 0) :
    Canonical [p, q] 2 := by
  refine ⟨by simp [hp, hq], by simp, Nat.le_refl 2, ?_⟩
  intro last ends
  cases ends
  exact ⟨nofun, fun _ => unused⟩

theorem Canonical.triple {p q r : Nat} (hp : p < 64) (hq : q < 64) (hr : r < 64)
    (unused : r % 4 = 0) : Canonical [p, q, r] 1 := by
  refine ⟨by simp [hp, hq, hr], by simp, by decide, ?_⟩
  intro last ends
  cases ends
  exact ⟨fun _ => unused, nofun⟩

/-- Padding alone fills no group. -/
theorem Canonical.pads_eq_zero {pads : Nat} (canonical : Canonical [] pads) : pads = 0 := by
  have whole := canonical.whole
  have padded := canonical.padded
  simp only [List.length_nil] at whole
  omega

theorem canonical_group {p q r s pads : Nat} {rest : List Nat} :
    Canonical (p :: q :: r :: s :: rest) pads ↔
      (p < 64 ∧ q < 64 ∧ r < 64 ∧ s < 64) ∧ Canonical rest pads := by
  constructor
  · intro canonical
    have small := canonical.small
    have whole := canonical.whole
    simp only [List.forall_mem_cons] at small
    simp only [List.length_cons] at whole
    obtain ⟨hp, hq, hr, hs, later⟩ := small
    refine ⟨⟨hp, hq, hr, hs⟩, later, by omega, canonical.padded, ?_⟩
    intro last ends
    cases rest with
    | nil => cases ends
    | cons next rest => exact canonical.used last (by simpa only [List.getLast?_cons_cons] using ends)
  · rintro ⟨⟨hp, hq, hr, hs⟩, canonical⟩
    have whole := canonical.whole
    refine ⟨?_, by simp only [List.length_cons]; omega, canonical.padded, ?_⟩
    · simp only [List.forall_mem_cons]
      exact ⟨hp, hq, hr, hs, canonical.small⟩
    · intro last ends
      cases rest with
      | nil =>
        rw [canonical.pads_eq_zero]
        exact ⟨nofun, nofun⟩
      | cons next rest =>
        exact canonical.used last (by simpa only [List.getLast?_cons_cons] using ends)

theorem canonical_encodeBytes (bytes : Bytes) :
    ∃ numbers pads, encodeBytes bytes = written numbers pads ∧ Canonical numbers pads := by
  fun_induction encodeBytes bytes with
  | case1 a b c rest ih =>
    have ha := a.toNat_lt
    have hb := b.toNat_lt
    have hc := c.toNat_lt
    obtain ⟨numbers, pads, same, canonical⟩ := ih
    rw [same]
    exact ⟨_ :: _ :: _ :: _ :: numbers, pads, rfl,
      canonical_group.mpr ⟨⟨by omega, by omega, by omega, by omega⟩, canonical⟩⟩
  | case2 a b =>
    have ha := a.toNat_lt
    have hb := b.toNat_lt
    exact ⟨[_, _, _], 1, rfl, .triple (by omega) (by omega) (by omega) (by omega)⟩
  | case3 a =>
    have ha := a.toNat_lt
    exact ⟨[_, _], 2, rfl, .pair (by omega) (by omega) (by omega)⟩
  | case4 => exact ⟨[], 0, rfl, .nil⟩

theorem Canonical.exists_bytes {numbers : List Nat} {pads : Nat} (canonical : Canonical numbers pads) :
    ∃ bytes, encodeBytes bytes = written numbers pads := by
  have small := canonical.small
  have whole := canonical.whole
  have padded := canonical.padded
  match numbers with
  | [] =>
    obtain rfl := canonical.pads_eq_zero
    exact ⟨[], rfl⟩
  | [p] =>
    simp only [List.length_cons, List.length_nil] at whole
    omega
  | [p, q] =>
    obtain rfl : pads = 2 := by
      simp only [List.length_cons, List.length_nil] at whole
      omega
    have unused : q % 16 = 0 := (canonical.used q rfl).2 rfl
    exact ⟨_, encodeBytes_of_pairBytes 0 0 (small p (by simp)) (small q (by simp)) (if_pos unused)⟩
  | [p, q, r] =>
    obtain rfl : pads = 1 := by
      simp only [List.length_cons, List.length_nil] at whole
      omega
    have unused : r % 4 = 0 := (canonical.used r rfl).1 rfl
    exact ⟨_, encodeBytes_of_tripleBytes 0 0 (small p (by simp)) (small q (by simp))
      (small r (by simp)) (if_pos unused)⟩
  | p :: q :: r :: s :: rest =>
    obtain ⟨⟨hp, hq, hr, hs⟩, later⟩ := canonical_group.mp canonical
    obtain ⟨bytes, same⟩ := later.exists_bytes
    exact ⟨quadBytes p q r s ++ bytes, by rw [encodeBytes_quadBytes hp hq hr hs, same]; rfl⟩

/-- A text decodes where its symbols and its padding are as they have to be, and nowhere else. -/
theorem decodes_iff_canonical {text : Bytes} :
    (∃ bytes, decode text = .ok bytes) ↔
      ∃ numbers pads, text = written numbers pads ∧ Canonical numbers pads := by
  simp only [decode_eq_ok_iff]
  constructor
  · rintro ⟨bytes, rfl⟩
    exact canonical_encodeBytes bytes
  · rintro ⟨numbers, pads, rfl, canonical⟩
    obtain ⟨bytes, same⟩ := canonical.exists_bytes
    exact ⟨bytes, same.symm⟩

-- The last symbol has a bit that encodes nothing.
example : decode [81, 82, 61, 61] = .error (.lastSymbol 82 1) := rfl

end EntitlementRules.Base64
