import EntitlementRules.Proofs.Text.Utf8.WellFormed

/-! UTF-8 with malformed parts: an ASCII byte is never inside one, so the text of bytes falls apart at an
ASCII character exactly where the bytes do. -/
namespace EntitlementRules.Text.Utf8

variable {b low high : UInt8} {owed bits : Nat} {bytes front rest : Bytes} {c : Char}

/-! ## One piece -/

private theorem ascii_lt_low : ∀ number < 256, ∀ lead ∈ lead? (UInt8.ofNat number),
    0x80 ≤ lead.low.toNat := by
  decide +kernel

/-- An ASCII byte ends what began before it. -/
theorem finish_append (ascii : b.toNat < 0x80) (above : 0x80 ≤ low.toNat) :
    finish owed low high bits (front ++ b :: rest) =
      ((finish owed low high bits front).1, (finish owed low high bits front).2 ++ b :: rest) := by
  induction owed generalizing low bits high front with
  | zero => rfl
  | succ owed ih =>
    cases front with
    | nil =>
      have outside : ¬ low ≤ b := by
        rw [UInt8.le_iff_toNat_le]
        omega
      simp [finish, outside]
    | cons first others =>
      rw [List.cons_append, finish, finish]
      split
      · exact ih (by decide)
      · rfl

theorem piece_append {first : UInt8} (ascii : b.toNat < 0x80) :
    piece first (front ++ b :: rest) = ((piece first front).1, (piece first front).2 ++ b :: rest) := by
  unfold piece
  cases announced : lead? first with
  | none => rfl
  | some lead =>
    have above := ascii_lt_low first.toNat first.toNat_lt lead
    rw [UInt8.ofNat_toNat] at above
    exact finish_append ascii (above announced)

/-- Without the bytes from an ASCII byte on, the first piece is the same. -/
theorem piece_of_append {first : UInt8} {part : Option Char} {left : Bytes} (ascii : b.toNat < 0x80)
    (read : piece first (front ++ b :: rest) = (part, left ++ b :: rest)) :
    piece first front = (part, left) := by
  rw [piece_append ascii] at read
  obtain ⟨same, remains⟩ := Prod.mk.inj read
  exact Prod.ext same (List.append_cancel_right remains)

theorem finish_suffix : (finish owed low high bits rest).2 <:+ rest := by
  induction owed generalizing low high bits rest with
  | zero => exact List.suffix_rfl
  | succ owed ih =>
    cases rest with
    | nil => exact List.suffix_rfl
    | cons first others =>
      rw [finish]
      split
      · exact ih.trans (List.suffix_cons first others)
      · exact List.suffix_rfl

theorem piece_suffix : (piece b rest).2 <:+ rest := by
  unfold piece
  split
  · exact List.suffix_rfl
  · exact finish_suffix

/-! ## All pieces -/

theorem pieces_ascii (ascii : b.toNat < 0x80) :
    pieces (b :: rest) = some (Char.ofNat b.toNat) :: pieces rest := by
  have number := toNat_ofNat_ascii ascii
  have written : String.utf8EncodeChar (Char.ofNat b.toNat) = [b] := by
    rw [encodeChar_ascii (by omega), number, UInt8.ofNat_toNat]
  have read := pieces_encodeChar (Char.ofNat b.toNat) rest
  rwa [written] at read

theorem pieces_append (ascii : b.toNat < 0x80) :
    pieces (front ++ b :: rest) = pieces front ++ some (Char.ofNat b.toNat) :: pieces rest := by
  fun_induction pieces front with
  | case1 => exact pieces_ascii ascii
  | case2 first others ih =>
    rw [List.cons_append, pieces, piece_append ascii, ih]
    rfl

/-- An ASCII character is read from its byte, and what stands around it from the bytes around. -/
theorem exists_of_pieces {before after : List (Option Char)} (ascii : c.toNat < 0x80)
    (read : pieces bytes = before ++ some c :: after) :
    ∃ front rest, bytes = front ++ UInt8.ofNat c.toNat :: rest ∧
      pieces front = before ∧ pieces rest = after := by
  have single : (UInt8.ofNat c.toNat).toNat < 0x80 := by
    rw [UInt8.toNat_ofNat_of_lt' (by simp only [UInt8.size]; omega)]
    exact ascii
  induction before generalizing bytes with
  | nil =>
    cases bytes with
    | nil => simp [pieces] at read
    | cons b others =>
      rw [pieces, List.nil_append] at read
      obtain ⟨first, later⟩ := List.cons.inj read
      have whole : piece b others = (some c, (piece b others).2) := by rw [← first]
      have same := eq_of_piece whole
      rw [encodeChar_ascii ascii] at same
      exact ⟨[], _, same, by rw [pieces], later⟩
  | cons part more ih =>
    cases bytes with
    | nil => simp [pieces] at read
    | cons b others =>
      rw [pieces, List.cons_append] at read
      obtain ⟨first, later⟩ := List.cons.inj read
      obtain ⟨front, rest, left, before, after⟩ := ih later
      obtain ⟨taken, whole⟩ : (piece b others).2 <:+ others := piece_suffix
      rw [left, ← List.append_assoc] at whole
      have kept : piece b (taken ++ front) = (part, front) := by
        have parted : piece b (taken ++ front ++ UInt8.ofNat c.toNat :: rest) =
            (part, front ++ UInt8.ofNat c.toNat :: rest) := by
          rw [whole, ← first, ← left]
        exact piece_of_append single parted
      refine ⟨b :: (taken ++ front), rest, ?_, ?_, after⟩
      · rw [List.cons_append, whole]
      · rw [pieces, kept, before]

/-! ## Texts -/

theorem toList_decodeLossy (bytes : Bytes) :
    (decodeLossy bytes).toList = (pieces bytes).map (·.getD '\uFFFD') :=
  String.toList_ofList

theorem decodeLossy_encode (text : String) : decodeLossy (encode text) = text := by
  have read : (text.toList.map some).map (·.getD '\uFFFD') = text.toList := by
    rw [List.map_map]
    exact List.map_id _
  rw [decodeLossy, pieces_encode, read, String.ofList_toList]

theorem decodeLossy_append (ascii : b.toNat < 0x80) :
    decodeLossy (front ++ b :: rest) =
      decodeLossy front ++ String.singleton (Char.ofNat b.toNat) ++ decodeLossy rest := by
  rw [← String.toList_inj, String.toList_append, String.toList_append, toList_decodeLossy,
    toList_decodeLossy, toList_decodeLossy, pieces_append ascii]
  simp

theorem decodeLossy_append_singleton (ascii : b.toNat < 0x80) :
    decodeLossy (front ++ [b]) = decodeLossy front ++ String.singleton (Char.ofNat b.toNat) := by
  have nothing : decodeLossy [] = "" := by
    rw [decodeLossy, pieces]
    rfl
  rw [decodeLossy_append ascii, nothing, String.append_empty]

theorem exists_of_decodeLossy {before after : List Char} (ascii : c.toNat < 0x80)
    (read : (decodeLossy bytes).toList = before ++ c :: after) :
    ∃ front rest, bytes = front ++ UInt8.ofNat c.toNat :: rest ∧
      (decodeLossy front).toList = before ∧ (decodeLossy rest).toList = after := by
  rw [toList_decodeLossy, List.map_eq_append_iff] at read
  obtain ⟨first, others, whole, early, read⟩ := read
  obtain ⟨piece, last, rfl, known, late⟩ := List.map_eq_cons_iff.mp read
  cases piece with
  | none =>
    -- A malformed part reads as a character that is not ASCII.
    rw [← known] at ascii
    exact absurd ascii (by decide)
  | some found =>
    cases known
    obtain ⟨front, rest, same, before, after⟩ := exists_of_pieces ascii whole
    exact ⟨front, rest, same, by rw [toList_decodeLossy, before, early],
      by rw [toList_decodeLossy, after, late]⟩

theorem mem_of_mem_decodeLossy (ascii : c.toNat < 0x80) (member : c ∈ (decodeLossy bytes).toList) :
    UInt8.ofNat c.toNat ∈ bytes := by
  obtain ⟨before, after, whole⟩ := List.append_of_mem member
  obtain ⟨front, rest, rfl, -, -⟩ := exists_of_decodeLossy ascii whole
  simp

/-- An ASCII character at the end of a text is the byte at the end. -/
theorem getLast?_of_decodeLossy (ascii : c.toNat < 0x80)
    (last : (decodeLossy bytes).toList.getLast? = some c) :
    bytes.getLast? = some (UInt8.ofNat c.toNat) := by
  obtain ⟨before, whole⟩ := List.getLast?_eq_some_iff.mp last
  obtain ⟨front, rest, rfl, -, nothing⟩ := exists_of_decodeLossy ascii whole
  cases rest with
  | nil => simp
  | cons b others =>
    rw [toList_decodeLossy, pieces] at nothing
    cases nothing

end EntitlementRules.Text.Utf8
