import EntitlementRules.Base64
import EntitlementRules.Text.Blank

/-! Base64: what bytes are encoded as decodes to them. -/
namespace EntitlementRules.Base64

theorem valueOf?_symbolOf : ∀ value < 64, valueOf? (symbolOf value) = some value := by
  decide

theorem symbolOf_ne_pad : ∀ value < 64, symbolOf value ≠ pad := by
  decide

theorem valueAt_symbolOf {value : Nat} (offset : Nat) (small : value < 64) :
    valueAt offset (symbolOf value) = .ok value := by
  rw [valueAt, valueOf?_symbolOf value small]

private theorem byte_eq {b : UInt8} {value : Nat} (same : value = b.toNat) :
    UInt8.ofNat value = b := by
  rw [same, UInt8.ofNat_toNat]

/-- Three bytes read back from their four numbers. -/
theorem quadBytes_split (a b c : UInt8) :
    quadBytes (a.toNat / 4) (a.toNat % 4 * 16 + b.toNat / 16) (b.toNat % 16 * 4 + c.toNat / 64)
      (c.toNat % 64) = [a, b, c] := by
  have ha := a.toNat_lt
  have hb := b.toNat_lt
  have hc := c.toNat_lt
  rw [quadBytes, byte_eq (b := a) (by omega), byte_eq (b := b) (by omega),
    byte_eq (b := c) (by omega)]

theorem tripleBytes_split (offset : Nat) (last a b : UInt8) :
    tripleBytes offset last (a.toNat / 4) (a.toNat % 4 * 16 + b.toNat / 16) (b.toNat % 16 * 4) =
      .ok [a, b] := by
  have ha := a.toNat_lt
  have hb := b.toNat_lt
  rw [tripleBytes, if_pos (by omega), byte_eq (b := a) (by omega), byte_eq (b := b) (by omega)]

theorem pairBytes_split (offset : Nat) (last a : UInt8) :
    pairBytes offset last (a.toNat / 4) (a.toNat % 4 * 16) = .ok [a] := by
  have ha := a.toNat_lt
  rw [pairBytes, if_pos (by omega), byte_eq (b := a) (by omega)]

theorem decodeLast_symbols {offset p q r s : Nat} (hp : p < 64) (hq : q < 64) (hr : r < 64)
    (hs : s < 64) :
    decodeLast offset [symbolOf p, symbolOf q, symbolOf r, symbolOf s] = .ok (quadBytes p q r s) := by
  simp only [decodeLast, valueAt_symbolOf _ hp, valueAt_symbolOf _ hq, valueAt_symbolOf _ hr,
    valueAt_symbolOf _ hs, symbolOf_ne_pad _ hr, symbolOf_ne_pad _ hs, ↓reduceIte]
  rfl

/-- A padding byte in the last place leaves two bytes, two of them leave one. -/
theorem decodeLast_padded {offset p q r : Nat} (hp : p < 64) (hq : q < 64) (hr : r < 64) :
    decodeLast offset [symbolOf p, symbolOf q, symbolOf r, pad] =
      tripleBytes offset (symbolOf r) p q r := by
  simp only [decodeLast, valueAt_symbolOf _ hp, valueAt_symbolOf _ hq, valueAt_symbolOf _ hr,
    symbolOf_ne_pad _ hr, ↓reduceIte]
  rfl

theorem decodeLast_padded_twice {offset p q : Nat} (hp : p < 64) (hq : q < 64) :
    decodeLast offset [symbolOf p, symbolOf q, pad, pad] = pairBytes offset (symbolOf q) p q := by
  simp only [decodeLast, valueAt_symbolOf _ hp, valueAt_symbolOf _ hq, ↓reduceIte]
  rfl

theorem decodeGroups_symbols {offset p q r s : Nat} {rest bytes : Bytes} (hp : p < 64) (hq : q < 64)
    (hr : r < 64) (hs : s < 64) (later : decodeGroups (offset + 4) rest = .ok bytes) :
    decodeGroups offset (symbolOf p :: symbolOf q :: symbolOf r :: symbolOf s :: rest) =
      .ok (quadBytes p q r s ++ bytes) := by
  cases rest with
  | nil =>
    cases later
    exact decodeLast_symbols hp hq hr hs
  | cons e rest =>
    simp only [decodeGroups, valueAt_symbolOf _ hp, valueAt_symbolOf _ hq, valueAt_symbolOf _ hr,
      valueAt_symbolOf _ hs, later]
    rfl

/-- Group by group, the symbols of bytes stand for these bytes. -/
theorem decodeGroups_encodeBytes (offset : Nat) (bytes : Bytes) :
    decodeGroups offset (encodeBytes bytes) = .ok bytes := by
  -- The induction follows the groups of three bytes; the last group decides about padding.
  fun_induction encodeBytes bytes generalizing offset with
  | case1 a b c rest ih =>
    have ha := a.toNat_lt
    have hb := b.toNat_lt
    have hc := c.toNat_lt
    rw [decodeGroups_symbols (by omega) (by omega) (by omega) (by omega) (ih (offset + 4)),
      quadBytes_split]
    rfl
  | case2 a b =>
    have ha := a.toNat_lt
    have hb := b.toNat_lt
    rw [decodeGroups, decodeLast_padded (by omega) (by omega) (by omega), tripleBytes_split]
    simp
  | case3 a =>
    have ha := a.toNat_lt
    rw [decodeGroups, decodeLast_padded_twice (by omega) (by omega), pairBytes_split]
    simp
  | case4 => rfl

theorem length_encodeBytes_mod (bytes : Bytes) : (encodeBytes bytes).length % 4 = 0 := by
  fun_induction encodeBytes bytes with
  | case1 a b c rest ih =>
    simp only [List.length_cons]
    omega
  | case2 => simp only [List.length_cons, List.length_nil]
  | case3 => simp only [List.length_cons, List.length_nil]
  | case4 => rfl

theorem decode_encodeBytes (bytes : Bytes) : decode (encodeBytes bytes) = .ok bytes := by
  have whole := length_encodeBytes_mod bytes
  have strays : strayEnd? (encodeBytes bytes) = none := by
    unfold strayEnd?
    split
    · rw [if_neg (by simp [whole])]
    · rfl
  rw [decode, strays]
  exact decodeGroups_encodeBytes 0 bytes

theorem mem_encodeBytes {bytes : Bytes} {symbol : UInt8} (member : symbol ∈ encodeBytes bytes) :
    symbol = pad ∨ ∃ value < 64, symbol = symbolOf value := by
  revert member
  fun_induction encodeBytes bytes with
  | case1 a b c rest ih =>
    have ha := a.toNat_lt
    have hb := b.toNat_lt
    have hc := c.toNat_lt
    simp only [List.mem_cons]
    rintro (rfl | rfl | rfl | rfl | later)
    · exact .inr ⟨_, by omega, rfl⟩
    · exact .inr ⟨_, by omega, rfl⟩
    · exact .inr ⟨_, by omega, rfl⟩
    · exact .inr ⟨_, by omega, rfl⟩
    · exact ih later
  | case2 a b =>
    have ha := a.toNat_lt
    have hb := b.toNat_lt
    simp only [List.mem_cons, List.not_mem_nil, or_false]
    rintro (rfl | rfl | rfl | rfl)
    · exact .inr ⟨_, by omega, rfl⟩
    · exact .inr ⟨_, by omega, rfl⟩
    · exact .inr ⟨_, by omega, rfl⟩
    · exact .inl rfl
  | case3 a =>
    have ha := a.toNat_lt
    simp only [List.mem_cons, List.not_mem_nil, or_false]
    rintro (rfl | rfl | rfl | rfl)
    · exact .inr ⟨_, by omega, rfl⟩
    · exact .inr ⟨_, by omega, rfl⟩
    · exact .inl rfl
    · exact .inl rfl
  | case4 => exact fun member => (List.not_mem_nil member).elim

theorem plain_of_mem_encodeBytes {bytes : Bytes} {symbol : UInt8}
    (member : symbol ∈ encodeBytes bytes) :
    symbol.toNat < 0x80 ∧ Text.isAsciiBlank (Char.ofNat symbol.toNat) = false := by
  have plain : ∀ value < 64, (symbolOf value).toNat < 0x80 ∧
      Text.isAsciiBlank (Char.ofNat (symbolOf value).toNat) = false := by
    decide
  obtain rfl | ⟨value, small, rfl⟩ := mem_encodeBytes member
  · decide
  · exact plain value small

end EntitlementRules.Base64
