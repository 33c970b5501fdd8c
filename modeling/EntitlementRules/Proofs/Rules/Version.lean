import EntitlementRules.Proofs.Text.Digits
import EntitlementRules.Rules.Version
import Mathlib.Data.List.TakeDrop

/-! Rules versions: what lies above a version, and that a version's text reads back. -/
namespace EntitlementRules.Version

private theorem toNat_syntheticOffset : syntheticOffset.toNat = 10000 := by decide

/-- A version has a successor where its minor number leaves room for the offset. -/
theorem successor_eq (version : Version) :
    version.successor =
      if version.minor.toNat + 10000 < UInt32.size then .ok ⟨version.major, version.minor + 10000⟩
      else .error (.invalidVersion s!"{version.text}+10000") := by
  have written : s!"{version.text}+{10000}" = s!"{version.text}+10000" := by
    simp only [toString, String.append_assoc]
    rfl
  rw [successor, withMinorOffset, toNat_syntheticOffset, written]
  rfl

theorem successor_eq_ok_iff {version synthetic : Version} :
    version.successor = .ok synthetic ↔
      version.minor.toNat + 10000 < UInt32.size ∧
        synthetic = ⟨version.major, version.minor + 10000⟩ := by
  rw [successor_eq]
  by_cases fits : version.minor.toNat + 10000 < UInt32.size
  · simp only [fits, ↓reduceIte, Except.ok.injEq, true_and]
    exact eq_comm
  · simp only [fits, ↓reduceIte, reduceCtorEq, false_and]

theorem successor_eq_error_iff {version : Version} {error : RulesError} :
    version.successor = .error error ↔
      UInt32.size ≤ version.minor.toNat + 10000 ∧ error = .invalidVersion s!"{version.text}+10000" := by
  rw [successor_eq]
  by_cases fits : version.minor.toNat + 10000 < UInt32.size
  · simp only [fits, ↓reduceIte, reduceCtorEq, Nat.not_le.mpr fits, false_and]
  · simp only [fits, ↓reduceIte, Except.error.injEq, Nat.le_of_not_lt fits, true_and]
    exact eq_comm

/-- The minor number of a successor is the larger one by the offset. -/
theorem minor_successor {baseline synthetic : Version} (found : baseline.successor = .ok synthetic) :
    synthetic.minor.toNat = baseline.minor.toNat + 10000 := by
  obtain ⟨fits, rfl⟩ := successor_eq_ok_iff.mp found
  rw [UInt32.toNat_add]
  exact Nat.mod_eq_of_lt fits

theorem compare_eq_gt_iff {first second : Version} :
    compare first second = .gt ↔
      second.major < first.major ∨ first.major = second.major ∧ second.minor < first.minor := by
  have parts : compare first second =
      (compare first.major second.major).then ((compare first.minor second.minor).then .eq) := rfl
  rw [parts, Ordering.then_eq_gt, Ordering.then_eq_gt, Std.compare_eq_gt, Std.compare_eq_iff_eq,
    Std.compare_eq_gt]
  simp

/-- A successor sorts after all versions of its major number that lie less than the offset above the version
that it follows. -/
theorem compare_successor_of_lt {baseline synthetic other : Version}
    (found : baseline.successor = .ok synthetic) (major : other.major = baseline.major)
    (below : other.minor.toNat < baseline.minor.toNat + 10000) : compare synthetic other = .gt := by
  rw [compare_eq_gt_iff, UInt32.lt_iff_toNat_lt (b := synthetic.minor), minor_successor found]
  obtain ⟨-, rfl⟩ := successor_eq_ok_iff.mp found
  exact .inr ⟨major.symm, below⟩

theorem compare_successor {baseline synthetic : Version}
    (found : baseline.successor = .ok synthetic) : compare synthetic baseline = .gt :=
  compare_successor_of_lt found rfl (by omega)

theorem toList_text (version : Version) :
    version.text.toList =
      Nat.toDigits 10 version.major.toNat ++ '.' :: Nat.toDigits 10 version.minor.toNat := by
  simp [text, toString]

/-- Digits and points only. -/
theorem visible_of_mem_text {version : Version} {c : Char} (member : c ∈ version.text.toList) :
    0x2E ≤ c.toNat ∧ c.toNat ≤ 0x39 := by
  rw [toList_text] at member
  rcases List.mem_append.mp member with major | rest
  · have digit := Text.isDigit_iff.mp (Text.isDigit_of_mem_toDigits major)
    omega
  · rcases List.mem_cons.mp rest with rfl | minor
    · decide
    · have digit := Text.isDigit_iff.mp (Text.isDigit_of_mem_toDigits minor)
      omega

theorem trim_text (version : Version) : Text.trim version.text = version.text :=
  Text.trim_eq_self fun c member => by
    have visible := visible_of_mem_text member
    exact Text.isBlank_eq_false (by omega) (by omega)

theorem component?_toDigits (component : UInt32) :
    component? (Nat.toDigits 10 component.toNat) = some component := by
  rw [component?, Text.decimalBelow?_toDigits component.toNat_lt, Option.map_some,
    UInt32.ofNat_toNat]

theorem span_text (version : Version) :
    version.text.toList.span (· != '.') =
      (Nat.toDigits 10 version.major.toNat, '.' :: Nat.toDigits 10 version.minor.toNat) := by
  have solid : ∀ c ∈ Nat.toDigits 10 version.major.toNat, (c != '.') = true := by
    intro c member
    have digit := Text.isDigit_iff.mp (Text.isDigit_of_mem_toDigits member)
    rw [bne_iff_ne]
    rintro rfl
    exact absurd digit (by decide)
  rw [List.span_eq_takeWhile_dropWhile, toList_text, List.takeWhile_append_of_pos solid,
    List.dropWhile_append_of_pos solid]
  simp

theorem parse_text (version : Version) : parse version.text = .ok version := by
  have read : ofChars? version.text.toList = some version := by
    rw [ofChars?, span_text]
    simp only [component?_toDigits]
    rfl
  rw [parse, trim_text, read]

/-- A component is read from the numerals of numbers that fit. -/
theorem component?_eq_some_iff {text : String} {component : UInt32} :
    component? text.toList = some component ↔ Text.Numeral text component.toNat := by
  rw [component?, Option.map_eq_some_iff]
  constructor
  · rintro ⟨value, read, rfl⟩
    obtain ⟨numeral, fits⟩ := Text.decimalBelow?_eq_some_iff.mp read
    rwa [UInt32.toNat_ofNat_of_lt' fits]
  · intro numeral
    have read := Text.decimalBelow?_eq_some_iff.mpr ⟨numeral, component.toNat_lt⟩
    exact ⟨component.toNat, read, UInt32.ofNat_toNat⟩

/-- A version is read from two numerals with a point between them. -/
theorem ofChars?_eq_some_iff {chars : List Char} {version : Version} :
    ofChars? chars = some version ↔
      ∃ major minor : String, Text.Numeral major version.major.toNat ∧
        Text.Numeral minor version.minor.toNat ∧ chars = major.toList ++ '.' :: minor.toList := by
  unfold ofChars?
  rw [List.span_eq_takeWhile_dropWhile]
  constructor
  · intro read
    have whole : chars.takeWhile (· != '.') ++ chars.dropWhile (· != '.') = chars :=
      List.takeWhile_append_dropWhile
    have stopped := List.head?_dropWhile_not (· != '.') chars
    cases behind : chars.dropWhile (· != '.') with
    | nil =>
      rw [behind] at read
      cases read
    | cons c minor =>
      rw [behind] at read whole stopped
      obtain rfl : c = '.' := by simpa using stopped
      obtain ⟨first, majorRead, read⟩ := Option.bind_eq_some_iff.mp read
      obtain ⟨second, minorRead, read⟩ := Option.bind_eq_some_iff.mp read
      cases read
      rw [← String.toList_ofList (l := chars.takeWhile (· != '.'))] at majorRead whole
      rw [← String.toList_ofList (l := minor)] at minorRead whole
      exact ⟨_, _, component?_eq_some_iff.mp majorRead, component?_eq_some_iff.mp minorRead, whole.symm⟩
  · rintro ⟨major, minor, first, second, rfl⟩
    have solid : ∀ c ∈ major.toList, (c != '.') = true := by
      intro c member
      have digit := Text.isDigit_iff.mp (first.isDigit member)
      rw [bne_iff_ne]
      rintro rfl
      exact absurd digit (by decide)
    rw [List.takeWhile_append_of_pos solid, List.dropWhile_append_of_pos solid]
    have point : ('.' != '.') = false := by decide
    simp only [List.takeWhile_cons, List.dropWhile_cons, point, Bool.false_eq_true, ↓reduceIte,
      List.append_nil, component?_eq_some_iff.mpr first, component?_eq_some_iff.mpr second]
    rfl

/-- Numerals and the point between them are not blank, so no blanks are taken off them. -/
theorem trim_numerals {major minor : String} {first second : Nat}
    (majorNumeral : Text.Numeral major first) (minorNumeral : Text.Numeral minor second) :
    Text.trim (major ++ "." ++ minor) = major ++ "." ++ minor := by
  apply Text.trim_eq_self
  intro c member
  have visible : 0x2E ≤ c.toNat ∧ c.toNat ≤ 0x39 := by
    simp only [String.toList_append, List.mem_append] at member
    rcases member with (digit | point) | digit
    · have bounds := Text.isDigit_iff.mp (majorNumeral.isDigit digit)
      omega
    · obtain rfl := List.mem_singleton.mp point
      decide
    · have bounds := Text.isDigit_iff.mp (minorNumeral.isDigit digit)
      omega
  exact Text.isBlank_eq_false (by omega) (by omega)

theorem text_injective {first second : Version} (same : first.text = second.text) :
    first = second := by
  have read := parse_text first
  rw [same, parse_text] at read
  exact (Except.ok.inj read).symm

/-- The text of a successor differs from that of the version it follows. -/
theorem text_successor_ne {baseline synthetic : Version}
    (found : baseline.successor = .ok synthetic) : synthetic.text ≠ baseline.text := by
  intro same
  cases text_injective same
  have larger := minor_successor found
  omega

end EntitlementRules.Version
