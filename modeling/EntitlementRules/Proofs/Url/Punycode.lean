import EntitlementRules.Url.Punycode
import Mathlib.Data.List.Basic

/-! Punycode: what an encoding is written in, and where the ASCII characters of a decoded text come from. -/
namespace EntitlementRules.Punycode

variable {text decoded : List Char} {c : Char}

/-! ## Encoding -/

/-- The characters that digits are written in. -/
def digitChars : List Char := "abcdefghijklmnopqrstuvwxyz0123456789".toList

theorem digitChar_mem : ∀ digit < 36, digitChar digit ∈ digitChars := by decide

theorem threshold_le (place bias : Nat) : threshold place bias ≤ 26 := by
  unfold threshold
  omega

theorem mem_digits {bias place number : Nat} (member : c ∈ digits bias place number) :
    c ∈ digitChars := by
  fun_induction digits bias place number with
  | case1 place number limit last =>
    have small : limit ≤ 26 := threshold_le place bias
    cases List.mem_singleton.mp member
    exact digitChar_mem _ (by omega)
  | case2 place number limit more ih =>
    have small : limit ≤ 26 := threshold_le place bias
    rcases List.mem_cons.mp member with rfl | later
    · have below := Nat.mod_lt (number - limit) (show 0 < 36 - limit by omega)
      exact digitChar_mem _ (by omega)
    · exact ih later

theorem Encoding.mem_pass {ascii turn : Nat} {encoding : Encoding} {d : Char}
    (member : c ∈ (encoding.pass ascii turn d).output) : c ∈ encoding.output ∨ c ∈ digitChars := by
  unfold pass at member
  split at member
  · exact .inl member
  · split at member
    · exact (List.mem_append.mp member).imp_right mem_digits
    · exact .inl member

theorem Encoding.mem_foldl_pass {ascii turn : Nat} {encoding : Encoding}
    (member : c ∈ (text.foldl (pass ascii turn) encoding).output) :
    c ∈ encoding.output ∨ c ∈ digitChars := by
  induction text generalizing encoding with
  | nil => exact .inl member
  | cons d rest ih =>
    rcases ih member with passed | digit
    · exact mem_pass passed
    · exact .inr digit

theorem Encoding.mem_advance {ascii next : Nat} {turns : List Nat} {encoding : Encoding}
    (member : c ∈ (advance text ascii next turns encoding).output) :
    c ∈ encoding.output ∨ c ∈ digitChars := by
  induction turns generalizing next encoding with
  | nil => exact .inl member
  | cons turn rest ih =>
    rcases ih member with passed | digit
    · have started := mem_foldl_pass passed
      exact started
    · exact .inr digit

theorem mem_encode (member : c ∈ encode text) :
    (c ∈ text ∧ isAscii c = true) ∨ c = '-' ∨ c ∈ digitChars := by
  rcases Encoding.mem_advance member with started | digit
  · simp only at started
    split at started
    · cases started
    · rcases List.mem_append.mp started with kept | hyphen
      · exact .inl (List.mem_filter.mp kept)
      · exact .inr (.inl (List.mem_singleton.mp hyphen))
  · exact .inr (.inr digit)

/-! ## Decoding -/

/-- A decoding whose ASCII characters all stand in a text. -/
structure Decoding.Draws (decoding : Decoding) (text : List Char) : Prop where
  beyond : 128 ≤ decoding.turn
  drawn : ∀ c ∈ decoding.output, isAscii c = true → c ∈ text

theorem Decoding.Draws.read {decoding next : Decoding} {digit : Nat} (draws : decoding.Draws text)
    (read : decoding.read digit = some next) : next.Draws text := by
  unfold Decoding.read at read
  rcases ite_eq_iff.mp read with ⟨-, read⟩ | ⟨-, read⟩
  · cases read
    exact ⟨draws.beyond, draws.drawn⟩
  · obtain ⟨valid, read⟩ := Option.dite_none_right_eq_some.mp read
    cases read
    have later := Nat.le_trans draws.beyond (Nat.le_add_right decoding.turn
      ((decoding.reached + digit * decoding.weight) / (decoding.output.length + 1)))
    refine ⟨later, fun c member ascii => ?_⟩
    rcases List.mem_append.mp member with before | behind
    · exact draws.drawn c (List.mem_of_mem_take before) ascii
    · rcases List.mem_cons.mp behind with rfl | behind
      · exact absurd later (Nat.not_le.mpr (of_decide_eq_true ascii))
      · exact draws.drawn c (List.mem_of_mem_drop behind) ascii

def Decoding.follow (decoding : Decoding) (text : List Char) : Option Decoding :=
  text.foldlM (fun decoding c => do decoding.read (← digit? c)) decoding

theorem Decoding.Draws.follow {digits : List Char} {start ended : Decoding} (draws : start.Draws text)
    (followed : start.follow digits = some ended) : ended.Draws text := by
  unfold Decoding.follow at followed
  induction digits generalizing start with
  | nil =>
    cases followed
    exact draws
  | cons d rest ih =>
    rw [List.foldlM_cons] at followed
    obtain ⟨next, first, later⟩ := Option.bind_eq_some_iff.mp followed
    obtain ⟨digit, -, first⟩ := Option.bind_eq_some_iff.mp first
    exact ih (draws.read first) later

theorem mem_of_decode? (read : decode? text = some decoded) (member : c ∈ decoded)
    (ascii : isAscii c = true) : c ∈ text := by
  unfold decode? at read
  simp only at read
  obtain ⟨ended, went, read⟩ := Option.bind_eq_some_iff.mp read
  split at read
  · cases read
    refine (Decoding.Draws.follow ⟨Nat.le_refl 128, ?_⟩ went).drawn c member ascii
    intro d inside _
    split at inside
    · cases inside
    · exact List.mem_of_mem_take inside
  · cases read

end EntitlementRules.Punycode
