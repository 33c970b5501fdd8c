import EntitlementRules.Proofs.Text.Utf8
import Mathlib.Data.String.Basic

/-! UTF-8 keeps the order: texts in ascending order are in ascending order byte by byte. -/
namespace EntitlementRules.Text.Utf8

private theorem cons_lt_cons {base first second : Nat} {x y : Bytes} (fits : base + first < 0x100)
    (below : base + second < 0x100) (less : first < second ∨ first = second ∧ x < y) :
    UInt8.ofNat (first + base) :: x < UInt8.ofNat (second + base) :: y := by
  rw [List.cons_lt_cons_iff, UInt8.lt_iff_toNat_lt, UInt8.toNat_ofNat', UInt8.toNat_ofNat']
  rcases less with less | ⟨rfl, later⟩
  · left
    omega
  · exact .inr ⟨rfl, later⟩

/-- Characters beyond 16 bits compare as their four groups of bits do. -/
private theorem four_lt {number other : Nat} (below : number < other) (small : other < 0x110000)
    (x y : Bytes) :
    UInt8.ofNat (number / 262144 % 0x08 + 0xF0) :: UInt8.ofNat (number / 4096 % 0x40 + 0x80) ::
        UInt8.ofNat (number / 64 % 0x40 + 0x80) :: UInt8.ofNat (number % 0x40 + 0x80) :: x <
      UInt8.ofNat (other / 262144 % 0x08 + 0xF0) :: UInt8.ofNat (other / 4096 % 0x40 + 0x80) ::
        UInt8.ofNat (other / 64 % 0x40 + 0x80) :: UInt8.ofNat (other % 0x40 + 0x80) :: y := by
  have highest : number / 262144 % 8 < other / 262144 % 8 ∨
      number / 262144 % 8 = other / 262144 % 8 ∧ number % 262144 < other % 262144 := by omega
  refine cons_lt_cons (by omega) (by omega) (highest.imp id fun ⟨same, rest⟩ => ⟨same, ?_⟩)
  have upper : number / 4096 % 64 < other / 4096 % 64 ∨
      number / 4096 % 64 = other / 4096 % 64 ∧ number % 4096 < other % 4096 := by omega
  refine cons_lt_cons (by omega) (by omega) (upper.imp id fun ⟨same, rest⟩ => ⟨same, ?_⟩)
  have middle : number / 64 % 64 < other / 64 % 64 ∨
      number / 64 % 64 = other / 64 % 64 ∧ number % 64 < other % 64 := by omega
  exact cons_lt_cons (by omega) (by omega) <| middle.imp id fun ⟨same, rest⟩ =>
    ⟨same, cons_lt_cons (by omega) (by omega) (.inl rest)⟩

/-- The bytes of a lesser character are less, whatever follows. -/
theorem encodeChar_lt {c d : Char} (below : c.toNat < d.toNat) (x y : Bytes) :
    String.utf8EncodeChar c ++ x < String.utf8EncodeChar d ++ y := by
  have first : c.val.toNat = c.toNat := rfl
  have second : d.val.toNat = d.toNat := rfl
  have small : d.toNat < 0x110000 := d.valid.elim (fun small => lt_trans small (by decide)) (·.2)
  unfold String.utf8EncodeChar
  simp only [first, second]
  -- One case for each number of bytes of the one and of the other.
  split_ifs
  all_goals first
    | omega
    | exact four_lt below small x y
    | simp only [List.cons_append, List.cons_lt_cons_iff, UInt8.lt_iff_toNat_lt, ← UInt8.toNat_inj,
        UInt8.toNat_ofNat', Nat.reducePow, List.nil_append]
      omega

theorem append_lt {start x y : Bytes} (later : x < y) : start ++ x < start ++ y := by
  induction start with
  | nil => exact later
  | cons b rest ih => exact List.cons_lt_cons_iff.mpr (.inr ⟨rfl, ih⟩)

theorem encode_lt {first second : String} (below : first < second) : encode first < encode second := by
  rw [String.lt_iff_toList_lt] at below
  unfold encode
  generalize first.toList = chars at below
  generalize second.toList = others at below
  induction chars generalizing others with
  | nil =>
    cases others with
    | nil => exact absurd below (lt_irrefl _)
    | cons d rest =>
      have written : String.utf8EncodeChar d ≠ [] := String.utf8EncodeChar_ne_nil
      obtain ⟨lead, tail, whole⟩ := List.exists_cons_of_ne_nil written
      rw [List.flatMap_cons, whole]
      exact List.nil_lt_cons _ _
  | cons c rest ih =>
    cases others with
    | nil => exact absurd below (List.not_lt_nil _)
    | cons d more =>
      rw [List.flatMap_cons, List.flatMap_cons]
      rcases List.cons_lt_cons_iff.mp below with less | ⟨rfl, later⟩
      · exact encodeChar_lt less _ _
      · exact append_lt (ih _ later)

theorem encode_lt_iff {first second : String} : encode first < encode second ↔ first < second := by
  refine ⟨fun below => ?_, encode_lt⟩
  rcases lt_trichotomy first second with less | same | greater
  · exact less
  · rw [same] at below
    exact absurd below (List.lt_irrefl _)
  · exact absurd below (List.lt_asymm (encode_lt greater))

end EntitlementRules.Text.Utf8
