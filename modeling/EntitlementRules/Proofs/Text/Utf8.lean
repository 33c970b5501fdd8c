import EntitlementRules.Proofs.Procedure
import EntitlementRules.Text.Utf8

/-! UTF-8: the bytes of a text read back as that text. -/
namespace EntitlementRules.Text.Utf8

private theorem lead?_one : ∀ bits < 0x80,
    lead? (UInt8.ofNat bits) = some ⟨0, 0x80, 0xBF, bits⟩ := by
  decide

private theorem lead?_two : ∀ bits < 0x20, 2 ≤ bits →
    lead? (UInt8.ofNat (bits + 0xC0)) = some ⟨1, 0x80, 0xBF, bits⟩ := by
  decide

private theorem lead?_three : ∀ bits < 0x10, lead? (UInt8.ofNat (bits + 0xE0)) =
    some ⟨2, if bits = 0 then 0xA0 else 0x80, if bits = 0xD then 0x9F else 0xBF, bits⟩ := by
  decide

private theorem lead?_four : ∀ bits < 5, lead? (UInt8.ofNat (bits + 0xF0)) =
    some ⟨3, if bits = 0 then 0x90 else 0x80, if bits = 4 then 0x8F else 0xBF, bits⟩ := by
  decide

private theorem finish_tail {owed bits more : Nat} {low high : UInt8} {after rest : Bytes} {c : Char}
    (six : more < 0x40) (above : low.toNat ≤ more + 0x80) (below : more + 0x80 ≤ high.toNat)
    (finished : finish owed 0x80 0xBF (bits * 64 + more) after = (some c, rest)) :
    finish (owed + 1) low high bits (UInt8.ofNat (more + 0x80) :: after) = (some c, rest) := by
  have size : (UInt8.ofNat (more + 0x80)).toNat = more + 0x80 :=
    UInt8.toNat_ofNat_of_lt' (by simp only [UInt8.size]; omega)
  simpa only [finish, UInt8.le_iff_toNat_le, size, above, below, decide_true, Bool.and_self,
    ↓reduceIte, Nat.add_sub_cancel] using finished

private theorem finish_last {bits : Nat} {low high : UInt8} {rest : Bytes} {c : Char}
    (written : bits = c.toNat) : finish 0 low high bits rest = (some c, rest) := by
  rw [finish, written, Char.ofNat_toNat]

/-- The first byte of a character announces how the others are read. -/
private theorem pieces_lead {b low high : UInt8} {owed bits : Nat} {after rest : Bytes} {c : Char}
    (announced : lead? b = some ⟨owed, low, high, bits⟩)
    (finished : finish owed low high bits after = (some c, rest)) :
    pieces (b :: after) = some c :: pieces rest := by
  rw [pieces, piece, announced]
  simp only [finished]

theorem pieces_encodeChar (c : Char) (rest : Bytes) :
    pieces (String.utf8EncodeChar c ++ rest) = some c :: pieces rest := by
  have valid : c.toNat < 0xD800 ∨ 0xDFFF < c.toNat ∧ c.toNat < 0x110000 := c.valid
  have value : c.val.toNat = c.toNat := rfl
  -- One case for each number of bytes; surrogates and numbers past the end are no characters.
  fun_cases String.utf8EncodeChar c with
  | case1 v small => exact pieces_lead (lead?_one v (by omega)) (finish_last rfl)
  | case2 v _ small =>
    exact pieces_lead (lead?_two (v / 64 % 32) (by omega) (by omega)) <|
      finish_tail (by omega) (by simp) (by simp; omega) <|
      finish_last (by omega)
  | case3 v _ _ small =>
    refine pieces_lead (lead?_three (v / 4096 % 16) (by omega)) <|
      finish_tail (by omega) ?_ ?_ <| finish_tail (by omega) (by simp) (by simp; omega) <|
      finish_last (by omega)
    · split
      · simp; omega
      · simp
    · split <;> simp <;> omega
  | case4 v =>
    refine pieces_lead (lead?_four (v / 262144 % 8) (by omega)) <|
      finish_tail (by omega) ?_ ?_ <| finish_tail (by omega) (by simp) (by simp; omega) <|
      finish_tail (by omega) (by simp) (by simp; omega) <| finish_last (by omega)
    · split
      · simp; omega
      · simp
    · split <;> simp <;> omega

theorem pieces_encode (text : String) : pieces (encode text) = text.toList.map some := by
  rw [encode]
  induction text.toList with
  | nil => rw [List.flatMap_nil, pieces, List.map_nil]
  | cons c rest ih => rw [List.flatMap_cons, pieces_encodeChar, ih, List.map_cons]

theorem decode?_encode (text : String) : decode? (encode text) = some text := by
  have read : (text.toList.map some).mapM id = some text.toList :=
    (mapM_eq_some_map_iff fun _ _ => .rfl).mpr rfl
  rw [decode?, pieces_encode, read, Option.map_some, String.ofList_toList]

theorem encode_injective {first second : String} (same : encode first = encode second) :
    first = second := by
  have read := decode?_encode first
  rw [same, decode?_encode] at read
  exact (Option.some.inj read).symm

theorem encode_append (first rest : String) :
    encode (first ++ rest) = encode first ++ encode rest := by
  rw [encode, String.toList_append, List.flatMap_append, ← encode, ← encode]

theorem encodeChar_ascii {c : Char} (ascii : c.toNat < 0x80) :
    String.utf8EncodeChar c = [UInt8.ofNat c.toNat] := by
  have value : c.val.toNat = c.toNat := rfl
  rw [String.utf8EncodeChar, value]
  exact if_pos (by omega)

theorem encode_ofList {chars : List Char} (ascii : ∀ c ∈ chars, c.toNat < 0x80) :
    encode (String.ofList chars) = chars.map fun c => UInt8.ofNat c.toNat := by
  rw [encode, String.toList_ofList]
  induction chars with
  | nil => rfl
  | cons c rest ih =>
    rw [List.flatMap_cons, List.map_cons, encodeChar_ascii (ascii c (.head _)),
      ih fun other member => ascii other (.tail _ member)]
    rfl

theorem length_le_length_encode (text : String) : text.length ≤ (encode text).length := by
  rw [← String.length_toList, encode]
  induction text.toList with
  | nil => exact Nat.le_refl _
  | cons c rest ih =>
    have written : 0 < (String.utf8EncodeChar c).length :=
      List.length_pos_iff.mpr String.utf8EncodeChar_ne_nil
    rw [List.flatMap_cons, List.length_append, List.length_cons]
    omega

theorem length_encode_ascii {text : String} (ascii : ∀ c ∈ text.toList, c.toNat < 0x80) :
    (encode text).length = text.length := by
  have bytes := encode_ofList ascii
  rw [String.ofList_toList] at bytes
  rw [bytes, List.length_map, String.length_toList]

theorem toNat_ofNat_ascii {number : Nat} (ascii : number < 0x80) :
    (Char.ofNat number).toNat = number := by
  rw [Char.ofNat, dif_pos (.inl (by omega))]
  rfl

/-- ASCII bytes are those of the characters with their numbers. -/
theorem encode_ascii {bytes : Bytes} (ascii : ∀ b ∈ bytes, b.toNat < 0x80) :
    encode (String.ofList (bytes.map fun b => Char.ofNat b.toNat)) = bytes := by
  have number {b : UInt8} (member : b ∈ bytes) : (Char.ofNat b.toNat).toNat = b.toNat :=
    toNat_ofNat_ascii (ascii b member)
  rw [encode_ofList, List.map_map]
  · refine (List.map_congr_left fun b member => ?_).trans (List.map_id bytes)
    rw [Function.comp_apply, number member, UInt8.ofNat_toNat]
    rfl
  · intro c member
    obtain ⟨b, inside, rfl⟩ := List.mem_map.mp member
    rw [number inside]
    exact ascii b inside

/-- Other characters are written without ASCII bytes. -/
theorem ascii_of_mem_encodeChar {c : Char} {b : UInt8} (member : b ∈ String.utf8EncodeChar c)
    (ascii : b.toNat < 0x80) : c.toNat = b.toNat := by
  have value : c.val.toNat = c.toNat := rfl
  have high (n : Nat) (low : 0x80 ≤ n) (fits : n < 0x100) (same : b = UInt8.ofNat n) : False := by
    rw [same, UInt8.toNat_ofNat_of_lt' fits] at ascii
    omega
  revert member
  fun_cases String.utf8EncodeChar c with
  | case1 v small =>
    intro member
    rw [List.mem_singleton.mp member, UInt8.toNat_ofNat_of_lt' (by simp only [UInt8.size]; omega)]
    rfl
  | case2 v _ small =>
    simp only [List.mem_cons, List.not_mem_nil, or_false]
    rintro (same | same)
    all_goals exact (high _ (by omega) (by omega) same).elim
  | case3 v _ _ small =>
    simp only [List.mem_cons, List.not_mem_nil, or_false]
    rintro (same | same | same)
    all_goals exact (high _ (by omega) (by omega) same).elim
  | case4 v =>
    simp only [List.mem_cons, List.not_mem_nil, or_false]
    rintro (same | same | same | same)
    all_goals exact (high _ (by omega) (by omega) same).elim

theorem mem_toList_of_mem_encode {text : String} {b : UInt8} (member : b ∈ encode text)
    (ascii : b.toNat < 0x80) : Char.ofNat b.toNat ∈ text.toList := by
  obtain ⟨c, inText, inChar⟩ := List.mem_flatMap.mp member
  rw [← ascii_of_mem_encodeChar inChar ascii, Char.ofNat_toNat]
  exact inText

/-- An ASCII byte at an end of a text's bytes is the character at that end. -/
theorem head?_of_encode {text : String} {b : UInt8} (first : (encode text).head? = some b)
    (ascii : b.toNat < 0x80) : text.toList.head? = some (Char.ofNat b.toNat) := by
  cases chars : text.toList with
  | nil =>
    rw [encode, chars] at first
    cases first
  | cons c rest =>
    have written : String.utf8EncodeChar c ≠ [] := String.utf8EncodeChar_ne_nil
    obtain ⟨lead, others, whole⟩ := List.exists_cons_of_ne_nil written
    rw [encode, chars, List.flatMap_cons, whole] at first
    cases first
    have member : b ∈ String.utf8EncodeChar c := by
      rw [whole]
      exact .head _
    rw [List.head?_cons, ← ascii_of_mem_encodeChar member ascii, Char.ofNat_toNat]

theorem getLast?_of_encode {text : String} {b : UInt8} (last : (encode text).getLast? = some b)
    (ascii : b.toNat < 0x80) : text.toList.getLast? = some (Char.ofNat b.toNat) := by
  cases chars : text.toList.getLast? with
  | none =>
    rw [encode, List.getLast?_eq_none_iff.mp chars] at last
    cases last
  | some c =>
    obtain ⟨before, whole⟩ := List.getLast?_eq_some_iff.mp chars
    have written : String.utf8EncodeChar c ≠ [] := String.utf8EncodeChar_ne_nil
    have ends := List.getLast?_eq_some_getLast written
    rw [encode, whole, List.flatMap_append, List.flatMap_singleton, List.getLast?_append, ends,
      Option.some_or] at last
    have member := List.mem_of_getLast? ends
    rw [Option.some.inj last] at member
    rw [← ascii_of_mem_encodeChar member ascii, Char.ofNat_toNat]

end EntitlementRules.Text.Utf8
