/-! UTF-8: the bytes of a text, and the text of bytes that may be malformed. -/
namespace EntitlementRules

abbrev Bytes := List UInt8

namespace Text.Utf8

def encode (text : String) : Bytes :=
  text.toList.flatMap String.utf8EncodeChar

/-- What the first byte of a character announces: how many bytes follow it, between which bounds
the second one lies, and the bits that the first one contributes. -/
structure Lead where
  owed : Nat
  low : UInt8
  high : UInt8
  bits : Nat
  deriving Repr, DecidableEq

/-- The announcement of a byte, or `none` for a byte that starts no character. The bounds leave out
overlong forms, surrogates and numbers above `0x10FFFF`. -/
def lead? (b : UInt8) : Option Lead :=
  if b < 0x80 then some ⟨0, 0x80, 0xBF, b.toNat⟩
  else if b < 0xC2 then none
  else if b < 0xE0 then some ⟨1, 0x80, 0xBF, b.toNat - 0xC0⟩
  else if b == 0xE0 then some ⟨2, 0xA0, 0xBF, 0⟩
  else if b == 0xED then some ⟨2, 0x80, 0x9F, 0xD⟩
  else if b < 0xF0 then some ⟨2, 0x80, 0xBF, b.toNat - 0xE0⟩
  else if b == 0xF0 then some ⟨3, 0x90, 0xBF, 0⟩
  else if b < 0xF4 then some ⟨3, 0x80, 0xBF, b.toNat - 0xF0⟩
  else if b == 0xF4 then some ⟨3, 0x80, 0x8F, 4⟩
  else none

/-- The character that ends with the owed bytes, or `none` at the first byte out of bounds, which is
left unread. -/
def finish : (owed : Nat) → (low high : UInt8) → (bits : Nat) → Bytes → Option Char × Bytes
  | 0, _, _, bits, rest => (some (Char.ofNat bits), rest)
  | _ + 1, _, _, _, [] => (none, [])
  | owed + 1, low, high, bits, b :: rest =>
    if low ≤ b && b ≤ high then finish owed 0x80 0xBF (bits * 64 + (b.toNat - 0x80)) rest
    else (none, b :: rest)

theorem length_finish_le (owed : Nat) (low high : UInt8) (bits : Nat) (rest : Bytes) :
    (finish owed low high bits rest).2.length ≤ rest.length := by
  induction owed generalizing low high bits rest with
  | zero => simp [finish]
  | succ owed ih =>
    cases rest with
    | nil => simp [finish]
    | cons b rest =>
      simp only [finish]
      split
      · exact Nat.le_succ_of_le (ih 0x80 0xBF _ rest)
      · exact Nat.le_refl _

/-- The first character of `b :: rest`, or `none` for its first maximal malformed part, with the
bytes after it. -/
def piece (b : UInt8) (rest : Bytes) : Option Char × Bytes :=
  match lead? b with
  | none => (none, rest)
  | some lead => finish lead.owed lead.low lead.high lead.bits rest

theorem length_piece_le (b : UInt8) (rest : Bytes) : (piece b rest).2.length ≤ rest.length := by
  unfold piece
  split
  · exact Nat.le_refl _
  · exact length_finish_le _ _ _ _ _

/-- The characters of a byte sequence in order, with `none` for each maximal malformed part. -/
def pieces : Bytes → List (Option Char)
  | [] => []
  | b :: rest => (piece b rest).1 :: pieces (piece b rest).2
termination_by bytes => bytes.length
decreasing_by exact Nat.lt_succ_of_le (length_piece_le b rest)

def decode? (bytes : Bytes) : Option String :=
  ((pieces bytes).mapM id).map String.ofList

/-- The text of any bytes: each maximal malformed part reads as one `U+FFFD`. -/
def decodeLossy (bytes : Bytes) : String :=
  String.ofList ((pieces bytes).map (·.getD '\uFFFD'))

/-- How many bytes come before the first malformed part, if there is one. -/
def validLength? : Bytes → Option Nat
  | [] => none
  | b :: rest =>
    if (piece b rest).1.isNone then some 0
    else (validLength? (piece b rest).2).map (· + (rest.length - (piece b rest).2.length + 1))
termination_by bytes => bytes.length
decreasing_by exact Nat.lt_succ_of_le (length_piece_le b rest)

end Text.Utf8

end EntitlementRules
