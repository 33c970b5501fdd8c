import EntitlementRules.Proofs.Rules.Blob
import EntitlementRules.Proofs.Text.Utf8.WellFormed
import Mathlib.Data.List.TakeWhile

/-! Version markers: the scripts that mark a version are those whose first line consists of the marker's
start and the two numbers of the version, and nothing behind that line counts. -/
namespace EntitlementRules.Blob

open Text (Numeral)

variable {bytes head line rest : Bytes} {version : Version}

/-- The first line of a script: the bytes before the first line feed, or all of them, without one carriage
return at their end. -/
def FirstLine (bytes line : Bytes) : Prop :=
  ∃ head, 10 ∉ head ∧ (bytes = head ∨ ∃ rest, bytes = head ++ 10 :: rest) ∧
    (head = line ++ [13] ∨ head = line ∧ line.getLast? ≠ some 13)

/-- The line that marks a version with two numerals. -/
def markerLine (major minor : String) : Bytes :=
  Text.Utf8.encode ("//Version: " ++ (major ++ "." ++ minor))

/-! ## Lines -/

theorem headBytes_of_opens (solid : 10 ∉ head) (opens : bytes = head ∨ ∃ rest, bytes = head ++ 10 :: rest) :
    (Blob.mk bytes).headBytes = head := by
  have kept : ∀ b ∈ head, (b != 10) = true := by
    intro b member
    rw [bne_iff_ne]
    rintro rfl
    exact solid member
  rw [headBytes]
  rcases opens with rfl | ⟨rest, rfl⟩
  · exact List.takeWhile_eq_self_iff.mpr kept
  · rw [List.takeWhile_append_of_pos kept]
    simp

theorem headBytes_opens (blob : Blob) :
    10 ∉ blob.headBytes ∧
      (blob.bytes = blob.headBytes ∨ ∃ rest, blob.bytes = blob.headBytes ++ 10 :: rest) := by
  have whole : blob.headBytes ++ blob.bytes.dropWhile (· != 10) = blob.bytes :=
    List.takeWhile_append_dropWhile
  have stopped := List.head?_dropWhile_not (· != 10) blob.bytes
  constructor
  · intro member
    have kept := List.mem_takeWhile_imp member
    exact absurd kept (by decide)
  · cases behind : blob.bytes.dropWhile (· != 10) with
    | nil =>
      rw [behind, List.append_nil] at whole
      exact .inl whole.symm
    | cons b rest =>
      rw [behind] at stopped whole
      obtain rfl : b = 10 := by simpa using stopped
      exact .inr ⟨rest, whole.symm⟩

theorem dropReturn_eq_iff :
    dropReturn head = line ↔ head = line ++ [13] ∨ head = line ∧ line.getLast? ≠ some 13 := by
  unfold dropReturn
  constructor
  · intro same
    split at same
    · next returns =>
      rw [← same]
      exact .inl (List.dropLast_append_getLast? 13 returns).symm
    · next plain =>
      rw [← same]
      exact .inr ⟨rfl, plain⟩
  · rintro (rfl | ⟨rfl, plain⟩)
    · simp
    · rw [if_neg plain]

theorem firstLine_iff {blob : Blob} : FirstLine blob.bytes line ↔ dropReturn blob.headBytes = line := by
  constructor
  · rintro ⟨head, solid, opens, stripped⟩
    rw [headBytes_of_opens solid opens]
    exact dropReturn_eq_iff.mpr stripped
  · intro same
    obtain ⟨solid, opens⟩ := headBytes_opens blob
    exact ⟨_, solid, opens, dropReturn_eq_iff.mp same⟩

/-- Scripts with the same bytes before the first line feed mark the same. -/
theorem version?_congr {first second : Blob} (same : first.headBytes = second.headBytes) :
    first.version? = second.version? := by
  rw [version?, version?, same]

/-! ## Markers -/

theorem after?_eq_some_iff {beginning text rest : String} :
    Text.after? beginning text = some rest ↔ text = beginning ++ rest := by
  rw [Text.after?, Option.map_eq_some_iff]
  constructor
  · rintro ⟨chars, found, rfl⟩
    have whole := List.isPrefixOf?_eq_some_iff_append_eq.mp found
    rw [← String.toList_inj, String.toList_append, String.toList_ofList, whole]
  · rintro rfl
    refine ⟨rest.toList, ?_, String.ofList_toList⟩
    exact List.isPrefixOf?_eq_some_iff_append_eq.mpr String.toList_append.symm

/-- What is marked is what the numerals of the first line write. -/
theorem version?_eq_some_iff {blob : Blob} {version : Version} :
    blob.version? = some version ↔
      ∃ major minor, Numeral major version.major.toNat ∧ Numeral minor version.minor.toNat ∧
        FirstLine blob.bytes (markerLine major minor) := by
  simp only [firstLine_iff]
  constructor
  · intro marked
    obtain ⟨line, decoded, marked⟩ := Option.bind_eq_some_iff.mp marked
    obtain ⟨marker, behind, marked⟩ := Option.bind_eq_some_iff.mp marked
    have whole := after?_eq_some_iff.mp behind
    split at marked
    · next bare =>
      have parsed : Version.ofChars? (Text.trim marker).toList = some version := by
        unfold Version.parse at marked
        split at marked
        · next found read =>
          rw [read]
          exact marked
        · cases marked
      rw [bare] at parsed
      obtain ⟨major, minor, first, second, same⟩ := Version.ofChars?_eq_some_iff.mp parsed
      have written : marker = major ++ "." ++ minor := by
        rw [← String.toList_inj, same]
        simp
      refine ⟨major, minor, first, second, ?_⟩
      rw [Text.Utf8.decode?_eq_some_iff.mp decoded, whole, written]
      rfl
    · cases marked
  · rintro ⟨major, minor, first, second, line⟩
    have bare := Version.trim_numerals first second
    have parsed : Version.parse (major ++ "." ++ minor) = .ok version := by
      have read : Version.ofChars? (major ++ "." ++ minor).toList = some version :=
        Version.ofChars?_eq_some_iff.mpr ⟨major, minor, first, second, by simp⟩
      rw [Version.parse, bare, read]
    have decoded : Text.Utf8.decode? (dropReturn blob.headBytes) =
        some (markerStart ++ (major ++ "." ++ minor)) := by
      rw [line]
      exact Text.Utf8.decode?_encode _
    have behind := after?_eq_some_iff.mpr (rfl : markerStart ++ (major ++ "." ++ minor) = _)
    rw [version?, decoded]
    simp only [Option.bind_eq_bind, Option.bind_some, behind, bare, ↓reduceIte, parsed]
    rfl

/-- A marked script ends with the body that it was made of, behind its first line feed. -/
theorem bytes_withVersion (version : Version) (body : String) :
    ∃ head, 10 ∉ head ∧ (withVersion version body).bytes = head ++ 10 :: Text.Utf8.encode body := by
  refine ⟨Text.Utf8.encode (markerStart ++ version.text), ?_, ?_⟩
  · have solid := (headBytes_opens (withVersion version body)).1
    rwa [headBytes_withVersion] at solid
  · rw [withVersion, Text.Utf8.encode_append, Text.Utf8.encode_append, List.append_assoc]
    rfl

/-- A script marks a version exactly where its first line is the marker's start with two numerals that fit
and the point between them. What comes behind the first line feed has no part in it, and marking a script
puts a line in front of its body and changes nothing else. -/
theorem version_marked_exactly_by_marker_lines (blob : Blob) :
    (∀ version, blob.version? = some version ↔
      ∃ major minor, Numeral major version.major.toNat ∧ Numeral minor version.minor.toNat ∧
        FirstLine blob.bytes (markerLine major minor)) ∧
    (blob.version? = none ↔
      ∀ major minor first second, Numeral major first → Numeral minor second →
        FirstLine blob.bytes (markerLine major minor) → UInt32.size ≤ first ∨ UInt32.size ≤ second) ∧
    (∀ rest, (Blob.mk (blob.bytes.takeWhile (· != 10) ++ 10 :: rest)).version? = blob.version?) ∧
    ∀ version body, (withVersion version body).version? = some version ∧
      ∃ head, 10 ∉ head ∧ (withVersion version body).bytes = head ++ 10 :: Text.Utf8.encode body := by
  refine ⟨fun version => version?_eq_some_iff, ⟨?_, ?_⟩, ?_, ?_⟩
  · intro unmarked major minor first second majorNumeral minorNumeral line
    by_contra small
    obtain ⟨majorFits, minorFits⟩ := not_or.mp small
    have marked : blob.version? = some ⟨UInt32.ofNat first, UInt32.ofNat second⟩ := by
      apply version?_eq_some_iff.mpr
      refine ⟨major, minor, ?_, ?_, line⟩
      · rwa [UInt32.toNat_ofNat_of_lt' (Nat.lt_of_not_le majorFits)]
      · rwa [UInt32.toNat_ofNat_of_lt' (Nat.lt_of_not_le minorFits)]
    cases unmarked.symm.trans marked
  · intro oversized
    cases marked : blob.version? with
    | none => rfl
    | some version =>
      obtain ⟨major, minor, first, second, line⟩ := version?_eq_some_iff.mp marked
      rcases oversized major minor _ _ first second line with large | large
      · exact absurd version.major.toNat_lt (Nat.not_lt.mpr large)
      · exact absurd version.minor.toNat_lt (Nat.not_lt.mpr large)
  · intro rest
    apply version?_congr
    exact headBytes_of_opens (headBytes_opens blob).1 (.inr ⟨rest, rfl⟩)
  · intro version body
    exact ⟨version?_withVersion version body, bytes_withVersion version body⟩

-- Zeros may lead, and a carriage return may end the line.
example : (Blob.mk (Text.Utf8.encode "//Version: 05.010\r\n//Version: 9.9")).version? = some ⟨5, 10⟩ :=
  version?_eq_some_iff.mpr ⟨"05", "010", ⟨by decide, by simp, by rfl⟩, ⟨by decide, by simp, by rfl⟩,
    Text.Utf8.encode "//Version: 05.010\r", by decide,
    .inr ⟨Text.Utf8.encode "//Version: 9.9", by rfl⟩, .inl (by rfl)⟩

end EntitlementRules.Blob
