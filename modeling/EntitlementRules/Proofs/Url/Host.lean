import EntitlementRules.Proofs.Text.Utf8
import EntitlementRules.Proofs.Url.Address
import EntitlementRules.Proofs.Url.Domain
import EntitlementRules.Proofs.Url.Percent
import EntitlementRules.Url.Host

/-! Hosts of web servers: the text of a host that was read names that host. -/
namespace EntitlementRules

/-! ## Names of addresses -/

theorem IPv4.settled_text {address : IPv4} {c : Char} (member : c ∈ address.text.toList) :
    Punycode.isAscii c = true ∧ Domain.isForbidden c = false := by
  have settled : ∀ c ∈ ".0123456789".toList, Punycode.isAscii c = true ∧ Domain.isForbidden c = false :=
    List.all_iff_forall_prop.mp (by decide)
  exact settled c (mem_text member)

theorem IPv4.toAscii?_text (address : IPv4) : Domain.toAscii? address.text = some address.text := by
  refine Domain.toAscii?_of_plain (fun _ => settled_text) fun label inside => ?_
  rw [Domain.labels_eq_splitOn, text_eq, String.toList_ofList, splitOn_parts] at inside
  cases marked : Domain.encodingMark.isPrefixOf? label with
  | none => rfl
  | some encoded =>
    have letter : 'x' ∈ label := List.isPrefixOf?_eq_some_iff_append_eq.mp marked ▸ .head _
    exact absurd (mem_of_mem_parts inside letter) (by decide)

namespace Host

/-- A host of a web server: a name in its form that is none of an address, or an address. -/
inductive Settled : Host → Prop where
  | domain {name : String} (formed : Domain.toAscii? name = some name) (filled : name ≠ "")
      (other : IPv4.isNumeric name = false) : Settled (domain name)
  | ipv4 (address : IPv4) : Settled (ipv4 address)
  | ipv6 (address : IPv6) : Settled (ipv6 address)

theorem settled_of_parse {text : List Char} {host : Host} (read : parse true text = .ok host) : host.Settled := by
  unfold parse at read
  split at read
  · unfold bracketed at read
    split at read
    · split at read
      · cases read
        exact .ipv6 _
      · cases read
    · cases read
  · simp only [↓reduceIte] at read
    split at read
    · next name formed =>
      obtain ⟨written, -, formed⟩ := Option.bind_eq_some_iff.mp formed
      unfold ofDomain at read
      split at read
      · cases read
      · next filled =>
        split at read
        · split at read
          · cases read
            exact .ipv4 _
          · cases read
        · next other =>
          cases read
          exact .domain (Domain.toAscii?_idem formed) filled (Bool.not_eq_true _ ▸ other)
    · cases read

theorem parse_name {name : String} (formed : Domain.toAscii? name = some name) :
    parse true name.toList = ofDomain name := by
  have settled := fun c => Domain.settled_of_toAscii? (c := c) formed
  have ascii : ∀ c ∈ name.toList, c.toNat < 0x80 := fun c member =>
    Domain.isAscii_iff.mp (settled c member).1
  have bare : 37 ∉ Text.Utf8.encode name := by
    intro percent
    have sign := Text.Utf8.mem_toList_of_mem_encode percent (by decide)
    exact absurd (settled _ sign).2 (by decide)
  unfold parse
  split
  · next rest same =>
    have bracket : '[' ∈ name.toList := same ▸ .head _
    exact absurd (settled _ bracket).2 (by decide)
  · rw [String.ofList_toList, Percent.decode_eq_self bare, Text.Utf8.decode?_encode, Option.bind_some, formed]
    rfl

theorem Settled.text_ne_empty {host : Host} (settled : host.Settled) : host.text ≠ "" := by
  cases settled with
  | domain _ filled _ => exact filled
  | ipv4 address => exact address.text_ne_empty
  | ipv6 address => simp [Host.text, ← String.toList_inj]

theorem Settled.parse_text {host : Host} (settled : host.Settled) : parse true host.text.toList = .ok host := by
  cases settled with
  | domain formed filled other =>
    rw [text, parse_name formed, ofDomain, if_neg filled, other]
    rfl
  | ipv4 address =>
    rw [text, parse_name address.toAscii?_text, ofDomain, if_neg address.text_ne_empty,
      IPv4.isNumeric_text, IPv4.parse?_text]
    rfl
  | ipv6 address =>
    have chars : (Host.ipv6 address).text.toList = '[' :: (address.text.toList ++ [']']) := by
      simp [Host.text]
    rw [chars, parse, bracketed, if_pos List.getLast?_concat, List.dropLast_concat, String.ofList_toList,
      IPv6.parse?_text]

/-- The characters of an address in brackets. -/
def bracketChars : List Char := "[:0123456789abcdef]".toList

/-- The text of a host holds no sign that ends a host in a URL, brackets and what is between them apart. -/
theorem Settled.text_cases {host : Host} (settled : host.Settled) :
    (∀ c ∈ host.text.toList, Punycode.isAscii c = true ∧ Domain.isForbidden c = false) ∨
      ∃ inner, host.text.toList = '[' :: (inner ++ [']']) ∧ ∀ c ∈ inner, c ∈ ":0123456789abcdef".toList := by
  cases settled with
  | domain formed => exact .inl fun c => Domain.settled_of_toAscii? formed
  | ipv4 address => exact .inl fun c => IPv4.settled_text
  | ipv6 address => exact .inr ⟨address.text.toList, by simp [Host.text], fun c => IPv6.mem_text⟩

theorem Settled.mem_text {host : Host} {c : Char} (settled : host.Settled) (member : c ∈ host.text.toList) :
    (Punycode.isAscii c = true ∧ Domain.isForbidden c = false) ∨ c ∈ bracketChars := by
  have known : ∀ c ∈ ":0123456789abcdef".toList, c ∈ bracketChars := List.all_iff_forall_prop.mp (by decide)
  rcases settled.text_cases with plain | ⟨inner, chars, plain⟩
  · exact .inl (plain c member)
  · right
    rw [chars, List.mem_cons, List.mem_append, List.mem_singleton] at member
    rcases member with rfl | inside | rfl
    · decide
    · exact known c (plain c inside)
    · decide

end Host

end EntitlementRules
