import EntitlementRules.Proofs.Text.Utf8
import EntitlementRules.Url.Percent
import Mathlib.Data.Bool.AllAny

/-! Percent encoding: what is encoded stays as it is when it is encoded again, and what has no percent signs
stands for itself. -/
namespace EntitlementRules.Percent

variable {set : EncodeSet} {text : List Char} {bytes : Bytes} {c d : Char}

/-- A text that holds nothing to encode. -/
def Encoded (set : EncodeSet) (text : List Char) : Prop := ∀ c ∈ text, c < '\x80' ∧ set c = false

/-- The characters that encodings are written in. -/
def signs : List Char := "%0123456789ABCDEF".toList

theorem paths_signs : ∀ c ∈ signs, paths c = false := List.all_iff_forall_prop.mp (by decide)

theorem userinfo_signs : ∀ c ∈ signs, userinfo c = false := List.all_iff_forall_prop.mp (by decide)

theorem paths_of_userinfo (kept : userinfo c = false) : paths c = false := by
  simp only [userinfo, Bool.or_eq_false_iff] at kept
  simp only [kept]

theorem encode_eq_self (encoded : Encoded set text) : encode set text = text := by
  induction text with
  | nil => rfl
  | cons c rest ih =>
    have kept := encoded c (.head _)
    rw [encode, List.flatMap_cons, encodeChar, if_pos (by simp [kept]), ← encode,
      ih fun other member => encoded other (.tail _ member)]
    rfl

theorem hexDigit_mem_signs : ∀ n < 16, hexDigit n ∈ signs := by decide

theorem mem_signs_of_mem_encodeByte {b : UInt8} (member : c ∈ encodeByte b) : c ∈ signs := by
  have small : b.toNat < 256 := b.toNat_lt
  rw [encodeByte, List.mem_cons, List.mem_cons, List.mem_singleton] at member
  rcases member with rfl | rfl | rfl
  · decide
  · exact hexDigit_mem_signs _ (by omega)
  · exact hexDigit_mem_signs _ (by omega)

theorem mem_encodeChar (member : c ∈ encodeChar set d) :
    c = d ∧ c < '\x80' ∧ set c = false ∨ c ∈ signs := by
  unfold encodeChar at member
  split at member
  · next kept =>
    cases List.mem_singleton.mp member
    simp only [Bool.and_eq_true, decide_eq_true_eq, Bool.not_eq_true'] at kept
    exact .inl ⟨rfl, kept⟩
  · obtain ⟨b, -, inside⟩ := List.mem_flatMap.mp member
    exact .inr (mem_signs_of_mem_encodeByte inside)

/-- A character of an encoded text stood there before, or it belongs to an encoding. -/
theorem mem_encode (member : c ∈ encode set text) :
    c ∈ text ∧ c < '\x80' ∧ set c = false ∨ c ∈ signs := by
  obtain ⟨d, inside, written⟩ := List.mem_flatMap.mp member
  exact (mem_encodeChar written).imp_left fun ⟨same, kept⟩ => ⟨same ▸ inside, kept⟩

theorem encoded_encode (spared : ∀ c ∈ signs, set c = false) (text : List Char) : Encoded set (encode set text) := by
  intro c member
  rcases mem_encode member with ⟨-, kept⟩ | sign
  · exact kept
  · have low : ∀ c ∈ signs, c < '\x80' := List.all_iff_forall_prop.mp (by decide)
    exact ⟨low c sign, spared c sign⟩

theorem decode_eq_self (bare : 37 ∉ bytes) : decode bytes = bytes := by
  fun_induction decode bytes with
  | case1 a b rest high low _ _ _ => exact absurd (.head _) bare
  | case2 a b rest _ _ => exact absurd (.head _) bare
  | case3 b rest _ ih => rw [ih (fun inside => bare (.tail _ inside))]
  | case4 => rfl

end EntitlementRules.Percent
