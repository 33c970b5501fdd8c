import EntitlementRules.Proofs.Rules.Marker
import EntitlementRules.Proofs.Text.Cut
import EntitlementRules.Proofs.Text.Utf8.Lossy

/-! First lines: a script without a marker is refused with the first line of its text, which is the text of
the first line of its bytes, but for a carriage return where nothing follows it. -/
namespace EntitlementRules.Blob

open Text.Utf8 (decodeLossy)

variable {head line rest : Bytes}

/-! ## Lines of a text and lines of bytes -/

theorem lineFeed_not_mem_decodeLossy (solid : 10 ∉ head) : '\n' ∉ (decodeLossy head).toList :=
  fun member => solid (Text.Utf8.mem_of_mem_decodeLossy (c := '\n') (by decide) member)

/-- A carriage return is taken off the bytes where it is taken off their text. -/
theorem dropReturn_decodeLossy (head : Bytes) :
    Text.dropReturn (decodeLossy head) = decodeLossy (dropReturn head) := by
  unfold Text.dropReturn dropReturn
  by_cases returns : head.getLast? = some 13
  · obtain ⟨line, rfl⟩ := List.getLast?_eq_some_iff.mp returns
    have text : decodeLossy (line ++ [13]) = decodeLossy line ++ String.singleton '\r' :=
      Text.Utf8.decodeLossy_append_singleton (by decide)
    simp [text, String.toList_append]
  · have plain : (decodeLossy head).toList.getLast? ≠ some '\r' := fun last =>
      returns (Text.Utf8.getLast?_of_decodeLossy (by decide) last)
    rw [if_neg plain, if_neg returns]

/-- A line feed ends the first line, and a return before it is no part of the line. -/
theorem firstLine_closed (solid : 10 ∉ head) :
    (Blob.mk (head ++ 10 :: rest)).firstLine = decodeLossy (dropReturn head) := by
  have cut : Text.cut? '\n' (decodeLossy (head ++ 10 :: rest)) =
      some (decodeLossy head, decodeLossy rest) := by
    rw [Text.Utf8.decodeLossy_append (by decide)]
    exact Text.cut?_eq_some_iff.mpr (lineFeed_not_mem_decodeLossy solid)
  rw [firstLine, textLossy, Text.firstLine, cut]
  exact dropReturn_decodeLossy head

/-- Without a line feed all of the text is its first line. -/
theorem firstLine_open (solid : 10 ∉ head) : (Blob.mk head).firstLine = decodeLossy head := by
  rw [firstLine, textLossy, Text.firstLine, Text.cut?_eq_none (lineFeed_not_mem_decodeLossy solid)]

/-- The first line of the text is the text of the first line, with a return that ends the script. -/
theorem firstLine_eq {blob : Blob} (first : FirstLine blob.bytes line) :
    blob.firstLine = decodeLossy line ++ if blob.bytes = line ++ [13] then "\r" else "" := by
  obtain ⟨bytes⟩ := blob
  obtain ⟨head, solid, rfl | ⟨rest, rfl⟩, stripped⟩ := first
  · rw [firstLine_open solid]
    rcases stripped with rfl | ⟨rfl, -⟩
    · rw [if_pos rfl, Text.Utf8.decodeLossy_append_singleton (by decide)]
      rfl
    · rw [if_neg (by simp), String.append_empty]
  · have apart : head ++ 10 :: rest ≠ line ++ [13] := by
      rcases stripped with rfl | ⟨rfl, -⟩
      · simp
      · simp
    rw [firstLine_closed solid, dropReturn_eq_iff.mpr stripped, if_neg apart, String.append_empty]

/-! ## Refusals -/

theorem requireVersion_eq_ok_iff {blob : Blob} {version : Version} :
    blob.requireVersion = .ok version ↔ blob.version? = some version := by
  unfold requireVersion
  cases blob.version? <;> simp

theorem requireVersion_eq_error_iff {blob : Blob} {error : RulesError} :
    blob.requireVersion = .error error ↔
      blob.version? = none ∧ error = .invalidVersion blob.firstLine := by
  unfold requireVersion
  cases blob.version? <;> simp [eq_comm]

/-- A script is refused exactly where it marks no version, and the refusal quotes the line that was looked
into for the marker: all of it and nothing else, but for a carriage return that ends the script. -/
theorem refused_with_first_line_unless_returned (blob : Blob) :
    (∀ version, blob.requireVersion = .ok version ↔ blob.version? = some version) ∧
    ∃ line, (∀ other, FirstLine blob.bytes other ↔ other = line) ∧
      ∀ error, blob.requireVersion = .error error ↔ blob.version? = none ∧
        error = .invalidVersion (decodeLossy line ++ if blob.bytes = line ++ [13] then "\r" else "") := by
  refine ⟨fun version => requireVersion_eq_ok_iff, dropReturn blob.headBytes, ?_, ?_⟩
  · intro other
    rw [firstLine_iff, eq_comm]
  · intro error
    rw [requireVersion_eq_error_iff, firstLine_eq (firstLine_iff.mpr rfl)]

/-- A return at the end of a script is no part of the line that is looked into, but it is quoted. -/
theorem stray_return_quoted :
    let blob : Blob := ⟨Text.Utf8.encode "abc\r"⟩
    blob.version? = none ∧ FirstLine blob.bytes (Text.Utf8.encode "abc") ∧
      blob.requireVersion = .error (.invalidVersion "abc\r") ∧
      blob.requireVersion ≠ .error (.invalidVersion (decodeLossy (Text.Utf8.encode "abc"))) := by
  intro blob
  have refused : blob.requireVersion = .error (.invalidVersion "abc\r") := by decide +kernel
  have line : decodeLossy (Text.Utf8.encode "abc") = "abc" := Text.Utf8.decodeLossy_encode "abc"
  refine ⟨by decide +kernel, firstLine_iff.mpr (by decide), refused, ?_⟩
  rw [refused, line]
  decide

end EntitlementRules.Blob
