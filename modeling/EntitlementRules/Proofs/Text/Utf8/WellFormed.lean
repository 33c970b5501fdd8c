import EntitlementRules.Proofs.Text.Utf8

/-! UTF-8, the other way round: bytes that read as a text are the bytes of that text, so each text has one
form in bytes. -/
namespace EntitlementRules.Text.Utf8

variable {b low high : UInt8} {owed bits first second third : Nat} {rest after bytes : Bytes} {c : Char}
  {text : String}

theorem toNat_ofNat {number : Nat} (valid : number.isValidChar) : (Char.ofNat number).toNat = number := by
  rw [Char.ofNat, dif_pos valid]
  rfl

/-! ## Characters from their bits -/

private theorem encodeChar_one (small : bits < 0x80) :
    String.utf8EncodeChar (Char.ofNat bits) = [UInt8.ofNat bits] := by
  have number := toNat_ofNat_ascii small
  rw [encodeChar_ascii (by omega), number]

private theorem encodeChar_two (lead : bits < 0x20) (long : 2 ≤ bits) (tail : first < 0x40) :
    String.utf8EncodeChar (Char.ofNat (bits * 64 + first)) =
      [UInt8.ofNat (bits + 0xC0), UInt8.ofNat (first + 0x80)] := by
  have number : (Char.ofNat (bits * 64 + first)).val.toNat = bits * 64 + first :=
    toNat_ofNat (.inl (by omega))
  have one : ¬ bits * 64 + first ≤ 0x7F := by omega
  have two : bits * 64 + first ≤ 0x7FF := by omega
  have upper : (bits * 64 + first) / 64 % 0x20 = bits := by omega
  have lower : (bits * 64 + first) % 0x40 = first := by omega
  rw [String.utf8EncodeChar, number]
  simp only [one, two, ↓reduceIte, upper, lower]

private theorem encodeChar_three (lead : bits < 0x10) (tail : first < 0x40) (last : second < 0x40)
    (long : bits = 0 → 0x20 ≤ first) (scalar : bits = 0xD → first < 0x20) :
    String.utf8EncodeChar (Char.ofNat ((bits * 64 + first) * 64 + second)) =
      [UInt8.ofNat (bits + 0xE0), UInt8.ofNat (first + 0x80), UInt8.ofNat (second + 0x80)] := by
  have valid : Nat.isValidChar ((bits * 64 + first) * 64 + second) := by
    unfold Nat.isValidChar
    omega
  have number : (Char.ofNat ((bits * 64 + first) * 64 + second)).val.toNat =
      (bits * 64 + first) * 64 + second := toNat_ofNat valid
  have one : ¬ (bits * 64 + first) * 64 + second ≤ 0x7F := by omega
  have two : ¬ (bits * 64 + first) * 64 + second ≤ 0x7FF := by omega
  have three : (bits * 64 + first) * 64 + second ≤ 0xFFFF := by omega
  have upper : ((bits * 64 + first) * 64 + second) / 4096 % 0x10 = bits := by omega
  have middle : ((bits * 64 + first) * 64 + second) / 64 % 0x40 = first := by omega
  have lower : ((bits * 64 + first) * 64 + second) % 0x40 = second := by omega
  rw [String.utf8EncodeChar, number]
  simp only [one, two, three, ↓reduceIte, upper, middle, lower]

private theorem encodeChar_four (lead : bits < 5) (tail : first < 0x40) (next : second < 0x40)
    (last : third < 0x40) (long : bits = 0 → 0x10 ≤ first) (scalar : bits = 4 → first < 0x10) :
    String.utf8EncodeChar (Char.ofNat (((bits * 64 + first) * 64 + second) * 64 + third)) =
      [UInt8.ofNat (bits + 0xF0), UInt8.ofNat (first + 0x80), UInt8.ofNat (second + 0x80),
        UInt8.ofNat (third + 0x80)] := by
  have valid : Nat.isValidChar (((bits * 64 + first) * 64 + second) * 64 + third) := by
    unfold Nat.isValidChar
    omega
  have number : (Char.ofNat (((bits * 64 + first) * 64 + second) * 64 + third)).val.toNat =
      ((bits * 64 + first) * 64 + second) * 64 + third := toNat_ofNat valid
  have one : ¬ ((bits * 64 + first) * 64 + second) * 64 + third ≤ 0x7F := by omega
  have two : ¬ ((bits * 64 + first) * 64 + second) * 64 + third ≤ 0x7FF := by omega
  have three : ¬ ((bits * 64 + first) * 64 + second) * 64 + third ≤ 0xFFFF := by omega
  have highest : (((bits * 64 + first) * 64 + second) * 64 + third) / 262144 % 0x08 = bits := by omega
  have upper : (((bits * 64 + first) * 64 + second) * 64 + third) / 4096 % 0x40 = first := by omega
  have middle : (((bits * 64 + first) * 64 + second) * 64 + third) / 64 % 0x40 = second := by omega
  have lower : (((bits * 64 + first) * 64 + second) * 64 + third) % 0x40 = third := by omega
  rw [String.utf8EncodeChar, number]
  simp only [one, two, three, ↓reduceIte, highest, upper, middle, lower]

/-! ## Characters from their bytes -/

/-- What the first byte of a character says of the others, by the number of bytes that follow it. -/
private theorem lead?_announces : ∀ number < 256, ∀ lead ∈ lead? (UInt8.ofNat number),
    lead.owed = 0 ∧ lead.bits < 0x80 ∧ UInt8.ofNat number = UInt8.ofNat lead.bits ∨
    lead.owed = 1 ∧ lead.bits < 0x20 ∧ 2 ≤ lead.bits ∧
      UInt8.ofNat number = UInt8.ofNat (lead.bits + 0xC0) ∧ lead.low = 0x80 ∧ lead.high = 0xBF ∨
    lead.owed = 2 ∧ lead.bits < 0x10 ∧ UInt8.ofNat number = UInt8.ofNat (lead.bits + 0xE0) ∧
      lead.low = (if lead.bits = 0 then 0xA0 else 0x80) ∧
      lead.high = (if lead.bits = 0xD then 0x9F else 0xBF) ∨
    lead.owed = 3 ∧ lead.bits < 5 ∧ UInt8.ofNat number = UInt8.ofNat (lead.bits + 0xF0) ∧
      lead.low = (if lead.bits = 0 then 0x90 else 0x80) ∧
      lead.high = (if lead.bits = 4 then 0x8F else 0xBF) := by
  decide +kernel

private theorem eq_of_finish_zero (finished : finish 0 low high bits rest = (some c, after)) :
    c = Char.ofNat bits ∧ rest = after := by
  rw [finish] at finished
  cases finished
  exact ⟨rfl, rfl⟩

/-- A byte that was owed is within its bounds and adds its six bits. -/
private theorem eq_of_finish_succ (above : 0x80 ≤ low.toNat) (below : high.toNat ≤ 0xBF)
    (finished : finish (owed + 1) low high bits rest = (some c, after)) :
    ∃ more later, rest = UInt8.ofNat (more + 0x80) :: later ∧ more < 0x40 ∧
      low.toNat ≤ more + 0x80 ∧ more + 0x80 ≤ high.toNat ∧
      finish owed 0x80 0xBF (bits * 64 + more) later = (some c, after) := by
  cases rest with
  | nil => cases finished
  | cons tail later =>
    rw [finish] at finished
    split at finished
    · next within =>
      simp only [Bool.and_eq_true, decide_eq_true_eq, UInt8.le_iff_toNat_le] at within
      obtain ⟨lower, upper⟩ := within
      have same : tail = UInt8.ofNat (tail.toNat - 0x80 + 0x80) := by
        rw [Nat.sub_add_cancel (by omega), UInt8.ofNat_toNat]
      exact ⟨tail.toNat - 0x80, later, by rw [← same], by omega, by omega, by omega, finished⟩
    · cases finished

/-- Bytes that read as a character are the bytes of that character. -/
theorem eq_of_piece (read : piece b rest = (some c, after)) :
    b :: rest = String.utf8EncodeChar c ++ after := by
  unfold piece at read
  split at read
  · cases read
  · next lead announced =>
    have known := lead?_announces b.toNat b.toNat_lt lead
    rw [UInt8.ofNat_toNat] at known
    obtain ⟨owed, low, high, bits⟩ := lead
    -- One case for each number of bytes.
    obtain ⟨rfl, small, rfl⟩ | ⟨rfl, small, long, rfl, rfl, rfl⟩ | ⟨rfl, small, rfl, lower, upper⟩ |
      ⟨rfl, small, rfl, lower, upper⟩ := known announced
    · obtain ⟨rfl, rfl⟩ := eq_of_finish_zero read
      rw [encodeChar_one small]
      rfl
    · obtain ⟨first, later, rfl, tail, -, -, read⟩ := eq_of_finish_succ (Nat.le_refl _) (Nat.le_refl _) read
      obtain ⟨rfl, rfl⟩ := eq_of_finish_zero read
      rw [encodeChar_two small long tail]
      rfl
    · dsimp only at small lower upper read
      have bounds : 0x80 ≤ low.toNat ∧ high.toNat ≤ 0xBF := by
        rw [lower, upper]
        constructor <;> split <;> decide
      obtain ⟨first, later, rfl, tail, least, most, read⟩ := eq_of_finish_succ bounds.1 bounds.2 read
      obtain ⟨second, later, rfl, last, -, -, read⟩ :=
        eq_of_finish_succ (Nat.le_refl _) (Nat.le_refl _) read
      obtain ⟨rfl, rfl⟩ := eq_of_finish_zero read
      have long : bits = 0 → 0x20 ≤ first := by
        intro none
        rw [lower, if_pos none] at least
        simpa using least
      have scalar : bits = 0xD → first < 0x20 := by
        intro surrogate
        rw [upper, if_pos surrogate] at most
        exact Nat.lt_succ_of_le (by simpa using most)
      rw [encodeChar_three small tail last long scalar]
      rfl
    · dsimp only at small lower upper read
      have bounds : 0x80 ≤ low.toNat ∧ high.toNat ≤ 0xBF := by
        rw [lower, upper]
        constructor <;> split <;> decide
      obtain ⟨first, later, rfl, tail, least, most, read⟩ := eq_of_finish_succ bounds.1 bounds.2 read
      obtain ⟨second, later, rfl, next, -, -, read⟩ :=
        eq_of_finish_succ (Nat.le_refl _) (Nat.le_refl _) read
      obtain ⟨third, later, rfl, last, -, -, read⟩ :=
        eq_of_finish_succ (Nat.le_refl _) (Nat.le_refl _) read
      obtain ⟨rfl, rfl⟩ := eq_of_finish_zero read
      have long : bits = 0 → 0x10 ≤ first := by
        intro none
        rw [lower, if_pos none] at least
        simpa using least
      have scalar : bits = 4 → first < 0x10 := by
        intro largest
        rw [upper, if_pos largest] at most
        exact Nat.lt_succ_of_le (by simpa using most)
      rw [encodeChar_four small tail next last long scalar]
      rfl

/-! ## Texts -/

theorem eq_of_pieces {chars : List Char} (read : pieces bytes = chars.map some) :
    bytes = chars.flatMap String.utf8EncodeChar := by
  fun_induction pieces bytes generalizing chars with
  | case1 =>
    cases chars with
    | nil => rfl
    | cons c rest => cases read
  | case2 b rest ih =>
    cases chars with
    | nil => cases read
    | cons c later =>
      obtain ⟨first, others⟩ := List.cons.inj read
      have whole : piece b rest = (some c, (piece b rest).2) := by rw [← first]
      rw [List.flatMap_cons, ← ih others]
      exact eq_of_piece whole

/-- Bytes read as a text exactly where they are the bytes of that text. -/
theorem decode?_eq_some_iff : decode? bytes = some text ↔ bytes = encode text := by
  constructor
  · intro read
    obtain ⟨chars, known, same⟩ := Option.map_eq_some_iff.mp read
    rw [encode, ← same, String.toList_ofList]
    exact eq_of_pieces ((mapM_eq_some_map_iff fun _ _ => .rfl).mp known)
  · rintro rfl
    exact decode?_encode text

end EntitlementRules.Text.Utf8
