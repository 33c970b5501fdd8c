import EntitlementRules.Proofs.Base64
import EntitlementRules.Proofs.Rules.Version
import EntitlementRules.Proofs.Text.Utf8
import EntitlementRules.Rules.Blob
import Mathlib.Data.List.Basic

/-! Rules blobs: an encoded blob decodes to itself, and a marked version is found again. -/
namespace EntitlementRules.Blob

open Base64 (encodeBytes)

private theorem toList_encode (bytes : Bytes) :
    (Base64.encode bytes).toList =
      (encodeBytes bytes).map fun symbol => Char.ofNat symbol.toNat :=
  String.toList_ofList

/-- Nothing in an encoding is blank. -/
theorem compact_encode (blob : Blob) : blob.encode.compact = blob.encode.text.toList := by
  refine List.filter_eq_self.mpr fun c member => ?_
  rw [encode, toList_encode] at member
  obtain ⟨symbol, inBytes, rfl⟩ := List.mem_map.mp member
  simp [Base64.plain_of_mem_encodeBytes inBytes]

theorem utf8_encode (bytes : Bytes) :
    Text.Utf8.encode (Base64.encode bytes) = encodeBytes bytes :=
  Text.Utf8.encode_ascii fun _ member => (Base64.plain_of_mem_encodeBytes member).1

theorem decode_encode (blob : Blob) : blob.encode.decode = .ok blob := by
  rw [EncodedBlob.decode, compact_encode, String.ofList_toList, encode, utf8_encode,
    Base64.decode_encodeBytes]

theorem takeWhile_head {head : String} (rest : String)
    (oneLine : '\n' ∉ head.toList) :
    (Blob.mk (Text.Utf8.encode (head ++ "\n" ++ rest))).headBytes = Text.Utf8.encode head := by
  have solid : ∀ b ∈ Text.Utf8.encode head, (b != 10) = true := by
    intro b member
    rw [bne_iff_ne]
    rintro rfl
    exact oneLine (Text.Utf8.mem_toList_of_mem_encode member (by decide))
  rw [headBytes, Text.Utf8.encode_append, Text.Utf8.encode_append, List.append_assoc,
    List.takeWhile_append_of_pos solid]
  have stopped : (Text.Utf8.encode "\n" ++ Text.Utf8.encode rest).takeWhile (· != 10) = [] := rfl
  rw [stopped, List.append_nil]

theorem visible_of_mem_marker {version : Version} {c : Char}
    (member : c ∈ (markerStart ++ version.text).toList) : 0x20 ≤ c.toNat := by
  rw [String.toList_append] at member
  rcases List.mem_append.mp member with start | text
  · have solid : markerStart.toList.all (0x20 ≤ ·.toNat) = true := by decide
    exact of_decide_eq_true (List.all_eq_true.mp solid c start)
  · have bounds := Version.visible_of_mem_text text
    omega

theorem headBytes_withVersion (version : Version) (body : String) :
    (withVersion version body).headBytes = Text.Utf8.encode (markerStart ++ version.text) :=
  takeWhile_head body fun member => absurd (visible_of_mem_marker member) (by decide)

/-- The version that a script was marked with is found again, whatever follows its first line. -/
theorem version?_withVersion (version : Version) (body : String) :
    (withVersion version body).version? = some version := by
  have kept : dropReturn (Text.Utf8.encode (markerStart ++ version.text)) =
      Text.Utf8.encode (markerStart ++ version.text) := by
    refine if_neg fun last => ?_
    have member := Text.Utf8.mem_toList_of_mem_encode (List.mem_of_getLast? last) (by decide)
    exact absurd (visible_of_mem_marker member) (by decide)
  have after : Text.after? markerStart (markerStart ++ version.text) = some version.text := by
    rw [Text.after?, String.toList_append,
      List.isPrefixOf?_eq_some_iff_append_eq.mpr rfl, Option.map_some, String.ofList_toList]
  rw [version?, headBytes_withVersion, kept, Text.Utf8.decode?_encode]
  simp only [Option.bind_eq_bind, Option.bind_some, after, Version.trim_text, ↓reduceIte,
    Version.parse_text]
  rfl

theorem version?_nil : (Blob.mk []).version? = none := by
  have line : Text.Utf8.decode? (dropReturn (Blob.mk []).headBytes) = some "" :=
    Text.Utf8.decode?_encode ""
  rw [version?, line]
  rfl

end EntitlementRules.Blob
