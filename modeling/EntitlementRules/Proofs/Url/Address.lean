import EntitlementRules.Proofs.Procedure
import EntitlementRules.Proofs.Text.Digits
import EntitlementRules.Proofs.Text.Split
import EntitlementRules.Url.Address
import Mathlib.Data.Bool.AllAny
import Mathlib.Data.List.TakeWhile

/-! Internet addresses: the text of an address writes that address. -/
namespace EntitlementRules

open String (ofList)

namespace IPv4

/-! ## Numbers -/

theorem digit?_digitChar : ∀ base ≤ 16, ∀ digit < base, digit? base (Nat.digitChar digit) = some digit := by
  decide

theorem digits?_append_singleton (base : Nat) (digits : List Char) (last : Char) :
    digits? base (digits ++ [last]) =
      (digits? base digits).bind fun value => (digit? base last).map (value * base + ·) := by
  rw [digits?, List.foldlM_append]
  simp [digits?]

theorem digits?_toDigits {base : Nat} (several : 1 < base) (known : base ≤ 16) (number : Nat) :
    digits? base (Nat.toDigits base number) = some number := by
  induction number using Nat.strongRecOn with
  | ind number ih =>
    rw [Nat.toDigits_eq_if several]
    split
    · next small => simp [digits?, digit?_digitChar base known number small]
    · next large =>
      have less : number / base < number := Nat.div_lt_self (by omega) several
      rw [digits?_append_singleton, ih _ less,
        digit?_digitChar base known _ (Nat.mod_lt number (by omega)), Option.bind_some, Option.map_some,
        Nat.div_add_mod']

theorem exists_digit_of_mem_toDigits {base number : Nat} {c : Char} (several : 1 < base)
    (member : c ∈ Nat.toDigits base number) : ∃ digit < base, c = Nat.digitChar digit := by
  induction number using Nat.strongRecOn with
  | ind number ih =>
    rw [Nat.toDigits_eq_if several] at member
    split at member
    · next small => exact ⟨number, small, List.mem_singleton.mp member⟩
    · next large =>
      rcases List.mem_append.mp member with before | last
      · exact ih _ (Nat.div_lt_self (by omega) several) before
      · exact ⟨_, Nat.mod_lt number (by omega), List.mem_singleton.mp last⟩

/-- A part in decimal digits has no leading zero, so it is not read in another base. -/
theorem part?_toDigits (number : Nat) : part? (Nat.toDigits 10 number) = some number := by
  have value : digits? 10 (Nat.toDigits 10 number) = some number :=
    digits?_toDigits (by decide) (by decide) number
  by_cases zero : (Nat.toDigits 10 number).head? = some '0'
  · rw [Text.toDigits_leads zero] at value ⊢
    exact value
  · obtain ⟨c, rest, digits⟩ := List.exists_cons_of_ne_nil (Nat.toDigits_ne_nil (n := number) (b := 10))
    rw [digits] at value zero ⊢
    unfold part?
    split
    · next same => cases same
    · next same => exact absurd (by rw [same]; rfl) zero
    · next same => exact absurd (by rw [same]; rfl) zero
    · next same => exact absurd (by rw [same]; rfl) zero
    · exact value

/-! ## Texts -/

def parts (address : IPv4) : List (List Char) :=
  [address.a, address.b, address.c, address.d].map fun byte => Nat.toDigits 10 byte.toNat

theorem text_eq (address : IPv4) : address.text = ofList (['.'].intercalate address.parts) := by
  have written (byte : UInt8) : toString byte.toNat = ofList (Nat.toDigits 10 byte.toNat) := rfl
  have stop : toString "." = ofList ['.'] := rfl
  rw [text, ← String.toList_inj]
  simp only [written, stop]
  simp [parts]

theorem text_ne_empty (address : IPv4) : address.text ≠ "" := by
  simp [text_eq, parts]

theorem mem_of_mem_parts {address : IPv4} {part : List Char} {c : Char} (inside : part ∈ address.parts)
    (member : c ∈ part) : c ∈ "0123456789".toList := by
  obtain ⟨byte, -, rfl⟩ := List.mem_map.mp inside
  obtain ⟨digit, small, rfl⟩ := exists_digit_of_mem_toDigits (by decide) member
  have known : ∀ digit < 10, Nat.digitChar digit ∈ "0123456789".toList := by decide
  exact known digit small

theorem mem_text {address : IPv4} {c : Char} (member : c ∈ address.text.toList) :
    c ∈ ".0123456789".toList := by
  rw [text_eq, String.toList_ofList] at member
  rcases Text.mem_intercalate member with stop | ⟨part, inside, digit⟩
  · cases List.mem_singleton.mp stop
    decide
  · exact .tail _ (mem_of_mem_parts inside digit)

theorem splitOn_parts (address : IPv4) : (['.'].intercalate address.parts).splitOn '.' = address.parts :=
  List.splitOn_intercalate '.'
    (fun _ inside stop => absurd (mem_of_mem_parts inside stop) (by decide)) (by simp [parts])

theorem labels_text (address : IPv4) : labels address.text = address.parts.map ofList := by
  have split : Text.split '.' address.text = address.parts.map ofList := by
    rw [Text.split, text_eq, String.toList_ofList, splitOn_parts]
  have filled : (address.parts.map ofList).getLast? ≠ some "" := by
    simp [parts, ← String.toList_inj, Nat.toDigits_ne_nil]
  unfold labels
  simp only [split, if_neg filled]

theorem isNumeric_text (address : IPv4) : isNumeric address.text = true := by
  have digits : ∀ c ∈ Nat.toDigits 10 address.d.toNat, c.isDigit = true :=
    fun _ => Nat.isDigit_of_mem_toDigits (by decide) (by decide)
  have filled : ofList (Nat.toDigits 10 address.d.toNat) ≠ "" := by
    simp [← String.toList_inj, Nat.toDigits_ne_nil]
  unfold isNumeric
  rw [labels_text]
  simpa [parts, filled] using .inl digits

theorem ofParts?_bytes (a b c d : UInt8) :
    ofParts? [a.toNat, b.toNat, c.toNat, d.toNat] = some ⟨a, b, c, d⟩ := by
  have ha := a.toNat_lt
  have hb := b.toNat_lt
  have hc := c.toNat_lt
  have hd := d.toNat_lt
  have byte {number : Nat} {byte : UInt8} (same : number % 256 = byte.toNat) : UInt8.ofNat number = byte := by
    rw [← UInt8.toNat_inj, UInt8.toNat_ofNat', same]
  have fits : (a.toNat ≤ 255 ∧ b.toNat ≤ 255 ∧ c.toNat ≤ 255) ∧ d.toNat < 256 := by omega
  have number : UInt8.ofNat ((d.toNat + a.toNat * 16777216 + b.toNat * 65536 + c.toNat * 256) / 16777216) = a ∧
      UInt8.ofNat ((d.toNat + a.toNat * 16777216 + b.toNat * 65536 + c.toNat * 256) / 65536) = b ∧
      UInt8.ofNat ((d.toNat + a.toNat * 16777216 + b.toNat * 65536 + c.toNat * 256) / 256) = c :=
    ⟨byte (by omega), byte (by omega), byte (by omega)⟩
  simpa [ofParts?, ofNat] using ⟨fits, number⟩

theorem parse?_text (address : IPv4) : parse? address.text = some address := by
  have numbers : (address.parts.map ofList).mapM (fun label => part? label.toList) =
      some [address.a.toNat, address.b.toNat, address.c.toNat, address.d.toNat] := by
    simp [parts, part?_toDigits]
  rw [parse?, labels_text, numbers]
  exact ofParts?_bytes _ _ _ _

end IPv4

namespace IPv6

/-! ## Pieces -/

theorem mem_toDigits_sixteen {number : Nat} {c : Char} (member : c ∈ Nat.toDigits 16 number) :
    c ∈ "0123456789abcdef".toList := by
  obtain ⟨digit, small, rfl⟩ := IPv4.exists_digit_of_mem_toDigits (by decide) member
  have known : ∀ digit < 16, Nat.digitChar digit ∈ "0123456789abcdef".toList := by decide
  exact known digit small

theorem piece?_pieceText (piece : UInt16) : piece? (pieceText piece) = some piece := by
  have filled : pieceText piece ≠ "" := by
    simp [pieceText, ← String.toList_inj, Nat.toDigits_ne_nil]
  have short : (pieceText piece).length ≤ 4 := by
    rw [pieceText, String.length_ofList, Nat.length_toDigits_le_iff (by decide) (by decide)]
    exact piece.toNat_lt
  have value : IPv4.digits? 16 (Nat.toDigits 16 piece.toNat) = some piece.toNat :=
    IPv4.digits?_toDigits (by decide) (by decide) piece.toNat
  rw [piece?, if_neg (by simp [filled, Nat.not_lt.mpr short]), pieceText, String.toList_ofList, value,
    Option.map_some, UInt16.ofNat_toNat]

def digits (pieces : List UInt16) : List (List Char) :=
  pieces.map fun piece => Nat.toDigits 16 piece.toNat

theorem piecesText_eq (pieces : List UInt16) :
    piecesText pieces = ofList ([':'].intercalate (digits pieces)) := by
  rw [piecesText, ← String.toList_inj, String.toList_intercalate, String.toList_ofList, List.map_map]
  simp [pieceText, digits, Function.comp_def]

/-- The digits of a piece are some, without the signs of an address. -/
theorem bare_digits {pieces : List UInt16} : ∀ part ∈ digits pieces, part ≠ [] ∧ ':' ∉ part := by
  intro part inside
  obtain ⟨piece, -, rfl⟩ := List.mem_map.mp inside
  exact ⟨Nat.toDigits_ne_nil, fun colon => absurd (mem_toDigits_sixteen colon) (by decide)⟩

theorem mem_piecesText {pieces : List UInt16} {c : Char} (member : c ∈ (piecesText pieces).toList) :
    c ∈ ":0123456789abcdef".toList := by
  rw [piecesText_eq, String.toList_ofList] at member
  rcases Text.mem_intercalate member with colon | ⟨part, inside, digit⟩
  · cases List.mem_singleton.mp colon
    decide
  · obtain ⟨piece, -, rfl⟩ := List.mem_map.mp inside
    exact .tail _ (mem_toDigits_sixteen digit)

theorem pieces?_piecesText (embeds : Bool) (pieces : List UInt16) :
    pieces? embeds (piecesText pieces) = some pieces := by
  cases pieces with
  | nil => rfl
  | cons first others =>
    have apart : ([':'].intercalate (digits (first :: others))).splitOn ':' = digits (first :: others) :=
      List.splitOn_intercalate ':' (fun part inside => (bare_digits part inside).2) (by simp [digits])
    have filled : piecesText (first :: others) ≠ "" := by
      intro empty
      rw [piecesText_eq, ← String.toList_inj, String.toList_ofList, String.toList_empty] at empty
      rw [empty, List.splitOn_nil] at apart
      have first : [] ∈ digits (first :: others) := apart ▸ List.mem_singleton_self []
      exact (bare_digits [] first).1 rfl
    have split : Text.split ':' (piecesText (first :: others)) = (first :: others).map pieceText := by
      rw [Text.split, piecesText_eq, String.toList_ofList, apart, digits, List.map_map]
      rfl
    have whole : ((first :: others).map pieceText).mapM piece? = some (first :: others) := by
      rw [mapM_eq_some_iff, List.forall₂_map_left_iff]
      exact List.forall₂_same.mpr fun piece _ => piece?_pieceText piece
    have plain : ((((first :: others).map pieceText).getLast?.getD "").toList.contains '.') = false := by
      cases last : ((first :: others).map pieceText).getLast? with
      | none => rfl
      | some part =>
        obtain ⟨piece, -, rfl⟩ := List.mem_map.mp (List.mem_of_getLast? last)
        rw [Option.getD_some, pieceText, String.toList_ofList, List.contains_eq_mem, decide_eq_false_iff_not]
        exact fun stop => absurd (mem_toDigits_sixteen stop) (by decide)
    rw [pieces?, if_neg filled]
    simp only [split, plain, Bool.and_false, Bool.false_eq_true, ↓reduceIte, whole]

/-! ## Zeros -/

theorem longestZeros_le (pieces : List UInt16) :
    (longestZeros pieces).2 ≤ zerosAt (pieces.drop (longestZeros pieces).1) := by
  unfold longestZeros
  refine List.foldlRecOn (motive := fun best : Nat × Nat => best.2 ≤ zerosAt (pieces.drop best.1)) _ _
    (Nat.zero_le _) ?_
  intro best kept place _
  simp only
  split
  · exact Nat.le_refl _
  · exact kept

theorem zerosAt_le (pieces : List UInt16) : zerosAt pieces ≤ pieces.length :=
  (List.takeWhile_prefix _).length_le

theorem take_eq_replicate {pieces : List UInt16} {length : Nat} (zeros : length ≤ zerosAt pieces) :
    pieces.take length = List.replicate length 0 := by
  obtain ⟨rest, whole⟩ := List.takeWhile_prefix (l := pieces) (· == 0)
  have start : pieces.take length = (pieces.takeWhile (· == 0)).take length := by
    conv_lhs => rw [← whole]
    exact List.take_append_of_le_length zeros
  rw [start, List.eq_replicate_iff]
  refine ⟨List.length_take_of_le zeros, fun piece member => ?_⟩
  have zero := List.mem_takeWhile_imp (List.mem_of_mem_take member)
  exact eq_of_beq zero

/-! ## Texts -/

theorem ofList?_pieces (address : IPv6) : ofList? address.pieces.toList = some address := by
  obtain ⟨⟨pieces, size⟩⟩ := address
  simp [ofList?, size]

theorem mem_text {address : IPv6} {c : Char} (member : c ∈ address.text.toList) :
    c ∈ ":0123456789abcdef".toList := by
  unfold text at member
  simp only at member
  split at member
  · exact mem_piecesText member
  · rw [String.toList_append, String.toList_append, List.mem_append, List.mem_append] at member
    rcases member with (front | gap) | back
    · exact mem_piecesText front
    · have colon : ∀ c ∈ "::".toList, c ∈ ":0123456789abcdef".toList :=
        List.all_iff_forall_prop.mp (by decide)
      exact colon c gap
    · exact mem_piecesText back

theorem splitDoubled_piecesText (pieces : List UInt16) :
    (Text.splitDoubled ':' (piecesText pieces).toList).map ofList = [piecesText pieces] := by
  have whole : [':'].intercalate (digits pieces) ++ [] = [':'].intercalate (digits pieces) :=
    List.append_nil _
  rw [piecesText_eq, String.toList_ofList, ← whole, Text.splitDoubled_intercalate bare_digits]
  rfl

theorem splitDoubled_gap (front back : List UInt16) :
    (Text.splitDoubled ':' (piecesText front ++ "::" ++ piecesText back).toList).map ofList =
      [piecesText front, piecesText back] := by
  have text : (piecesText front ++ "::" ++ piecesText back).toList =
      [':'].intercalate (digits front) ++ ':' :: ':' :: (piecesText back).toList := by
    simp [piecesText_eq]
  rw [text, Text.splitDoubled_intercalate bare_digits, Text.splitDoubled_hit, List.modifyHead_cons,
    List.map_cons, splitDoubled_piecesText, List.append_nil, ← piecesText_eq]

/-- The text of an address writes it, whether or not zeros are left out. -/
theorem parse?_text (address : IPv6) : parse? address.text = some address := by
  have size : address.pieces.toList.length = 8 := by simp
  have zeros := longestZeros_le address.pieces.toList
  unfold text
  simp only
  generalize longestZeros address.pieces.toList = best at zeros ⊢
  obtain ⟨place, length⟩ := best
  simp only at zeros ⊢
  split
  · rw [parse?, splitDoubled_piecesText]
    simp only [pieces?_piecesText, Option.bind_some, ofList?_pieces]
  · next long =>
    have inside := Nat.le_trans zeros (zerosAt_le _)
    rw [List.length_drop, size] at inside
    have gap := take_eq_replicate zeros
    have whole : address.pieces.toList.take place ++ List.replicate length 0 ++
        address.pieces.toList.drop (place + length) = address.pieces.toList := by
      rw [← gap, List.append_assoc, ← List.drop_drop, List.take_append_drop, List.take_append_drop]
    have front : (address.pieces.toList.take place).length = place := by
      rw [List.length_take]
      omega
    have back : (address.pieces.toList.drop (place + length)).length = 8 - (place + length) := by
      rw [List.length_drop, size]
    have missing : 8 - place - (8 - (place + length)) = length := by omega
    rw [parse?, splitDoubled_gap]
    simp only [pieces?_piecesText, Option.bind_eq_bind, Option.bind_some, front, back, missing, whole,
      ofList?_pieces]
    rw [if_neg (by omega)]

end IPv6

end EntitlementRules
