import EntitlementRules.Proofs.Json.Printing
import EntitlementRules.Proofs.Json.Scan
import EntitlementRules.Proofs.Status.Reading
import EntitlementRules.Proofs.Text.Utf8.Order

/-! Acceptance: which bodies are a status, and which status they are. -/
namespace EntitlementRules.Status

open Json (ObjectOf Padded StandsFor valuesOf)

variable {body other : Bytes} {status : Status} {entries : List (String × Json)} {draft : Draft}

/-! ## What members say -/

/-- The version is given once, and every other member of known name at most once, each as a value of its
kind. Only the capabilities may not be null. -/
structure Acceptable (entries : List (String × Json)) : Prop where
  rulesVersion : ∃ text, valuesOf "rulesVersion" entries = [.string text]
  texts : ∀ key ∈ ["rulesSource", "version", "release", "timeUTC"],
    valuesOf key entries = [] ∨ valuesOf key entries = [.null] ∨
      ∃ text, valuesOf key entries = [.string text]
  flags : ∀ key ∈ ["result", "standalone"],
    valuesOf key entries = [] ∨ valuesOf key entries = [.null] ∨
      ∃ flag, valuesOf key entries = [.bool flag]
  capabilities : valuesOf "managerCapabilities" entries = [] ∨
    ∃ texts : List String, valuesOf "managerCapabilities" entries = [.array (texts.map .string)]

/-- The values of a member that may be absent, and what they say. -/
inductive Says {α : Type} (encode : α → Json) : List Json → Option α → Prop where
  | absent : Says encode [] none
  | null : Says encode [.null] none
  | value (given : α) : Says encode [encode given] (some given)

def knownNames : List String :=
  ["rulesVersion", "rulesSource", "result", "version", "release", "standalone", "timeUTC",
    "managerCapabilities"]

/-- Members say what a status holds. Of those without a meaning of their own the last with each key counts;
the status keeps them in the order of the bytes of their keys. -/
structure Describes (entries : List (String × Json)) (status : Status) : Prop where
  rulesVersion : valuesOf "rulesVersion" entries = [.string status.rulesVersion]
  rulesSource : Says .string (valuesOf "rulesSource" entries) status.rulesSource
  result : Says .bool (valuesOf "result" entries) status.result
  version : Says .string (valuesOf "version" entries) status.version
  release : Says .string (valuesOf "release" entries) status.release
  standalone : Says .bool (valuesOf "standalone" entries) status.standalone
  time : Says .string (valuesOf "timeUTC" entries) status.time
  capabilities : valuesOf "managerCapabilities" entries = [] ∧ status.capabilities = [] ∨
    valuesOf "managerCapabilities" entries = [.array (status.capabilities.map .string)]
  ordered : (status.extra.map fun member => Text.Utf8.encode member.1).Pairwise (· < ·)
  extra (key : String) : status.extra.lookup key =
    if key ∈ knownNames then none else (valuesOf key entries).getLast?

theorem says_iff {α : Type} {encode : α → Json} {values : List Json} {field : Option α} :
    Says encode values field ↔
      ∃ given : Option (Option α), values = (given.map (encodeOrNull encode)).toList ∧ given.join = field := by
  constructor
  · rintro (_ | _ | value)
    · exact ⟨none, rfl, rfl⟩
    · exact ⟨some none, rfl, rfl⟩
    · exact ⟨some (some value), rfl, rfl⟩
  · rintro ⟨_ | _ | value, rfl, rfl⟩
    · exact .absent
    · exact .null
    · exact .value value

theorem mem_knownNames_iff {key : String} : key ∈ knownNames ↔ (known? key).isSome = true := by
  rw [Option.isSome_iff_exists]
  simp only [known?_eq_some_iff]
  constructor
  · intro member
    obtain ⟨known, -, same⟩ := List.mem_map.mp (show key ∈ Known.all.map Known.name from member)
    exact ⟨known, same⟩
  · rintro ⟨known, rfl⟩
    cases known <;> decide

theorem ordered_iff {members : List (String × Json)} :
    Json.Ordered members ↔ (members.map fun member => Text.Utf8.encode member.1).Pairwise (· < ·) := by
  rw [List.pairwise_map]
  exact ⟨List.Pairwise.imp Text.Utf8.encode_lt_iff.mpr, List.Pairwise.imp Text.Utf8.encode_lt_iff.mp⟩

theorem Describes.exists_gathers (describes : Describes entries status) :
    ∃ draft, Gathers entries draft ∧ draft.finish? = some status := by
  obtain ⟨rulesSource, sources, rulesSourceSaid⟩ := says_iff.mp describes.rulesSource
  obtain ⟨result, results, resultSaid⟩ := says_iff.mp describes.result
  obtain ⟨version, versions, versionSaid⟩ := says_iff.mp describes.version
  obtain ⟨release, releases, releaseSaid⟩ := says_iff.mp describes.release
  obtain ⟨standalone, modes, standaloneSaid⟩ := says_iff.mp describes.standalone
  obtain ⟨time, times, timeSaid⟩ := says_iff.mp describes.time
  obtain ⟨capabilities, lists, capabilitiesSaid⟩ : ∃ given : Option (List String),
      valuesOf "managerCapabilities" entries = (given.map Known.capabilities.encode).toList ∧
        given.getD [] = status.capabilities := by
    rcases describes.capabilities with ⟨unlisted, empty⟩ | one
    · exact ⟨none, unlisted, empty.symm⟩
    · exact ⟨some status.capabilities, one, rfl⟩
  let draft : Draft := {
    rulesVersion := some status.rulesVersion
    rulesSource, result, version, release, standalone, time, capabilities
    extra := status.extra }
  have finished : draft.finish? = some status :=
    finish?_eq_some_iff.mpr ⟨rfl, rulesSourceSaid, resultSaid, versionSaid, releaseSaid, standaloneSaid,
      timeSaid, capabilitiesSaid, rfl⟩
  refine ⟨draft, ⟨fun known => ?_, ordered_iff.mpr describes.ordered, fun key => ?_⟩, finished⟩
  · cases known with
    | rulesVersion => exact describes.rulesVersion
    | rulesSource => exact sources
    | result => exact results
    | version => exact versions
    | release => exact releases
    | standalone => exact modes
    | time => exact times
    | capabilities => exact lists
  · refine (describes.extra key).trans ?_
    simp only [mem_knownNames_iff]

theorem Gathers.describes (gathers : Gathers entries draft) (finished : draft.finish? = some status) :
    Describes entries status := by
  obtain ⟨given, rulesSource, result, version, release, standalone, time, capabilities, extra⟩ :=
    finish?_eq_some_iff.mp finished
  constructor
  · have once := gathers.known .rulesVersion
    simp only [Known.given, given] at once
    exact once
  · exact says_iff.mpr ⟨_, gathers.known .rulesSource, rulesSource⟩
  · exact says_iff.mpr ⟨_, gathers.known .result, result⟩
  · exact says_iff.mpr ⟨_, gathers.known .version, version⟩
  · exact says_iff.mpr ⟨_, gathers.known .release, release⟩
  · exact says_iff.mpr ⟨_, gathers.known .standalone, standalone⟩
  · exact says_iff.mpr ⟨_, gathers.known .time, time⟩
  · have once := gathers.known .capabilities
    rw [← capabilities]
    cases given : draft.capabilities with
    | none =>
      simp only [Known.given, given] at once
      exact .inl ⟨once, rfl⟩
    | some texts =>
      simp only [Known.given, given] at once
      exact .inr once
  · rw [← extra]
    exact ordered_iff.mp gathers.ordered
  · intro key
    rw [← extra]
    refine (gathers.extra key).trans ?_
    simp only [mem_knownNames_iff]

theorem describes_iff : Describes entries status ↔ ofEntries? entries = some status := by
  rw [ofEntries?, Option.bind_eq_some_iff]
  simp only [foldlM_eq_some_iff]
  constructor
  · exact Describes.exists_gathers
  · rintro ⟨draft, gathers, finished⟩
    exact gathers.describes finished

/-! ## Acceptance -/

theorem says_cases {α : Type} {encode : α → Json} {values : List Json} :
    (∃ field, Says encode values field) ↔
      values = [] ∨ values = [.null] ∨ ∃ value, values = [encode value] := by
  constructor
  · rintro ⟨_, _ | _ | value⟩
    · exact .inl rfl
    · exact .inr (.inl rfl)
    · exact .inr (.inr ⟨value, rfl⟩)
  · rintro (rfl | rfl | ⟨value, rfl⟩)
    · exact ⟨none, .absent⟩
    · exact ⟨none, .null⟩
    · exact ⟨some value, .value value⟩

/-- Acceptable members give each known one at most once, with a value of its kind. -/
theorem Acceptable.fits (acceptable : Acceptable entries) : Fits entries := by
  have text {key : String} (member : key ∈ ["rulesSource", "version", "release", "timeUTC"]) :
      ∃ value : Option (Option String), valuesOf key entries = (value.map (encodeOrNull .string)).toList := by
    obtain ⟨field, said⟩ := says_cases.mpr (acceptable.texts key member)
    obtain ⟨value, same, -⟩ := says_iff.mp said
    exact ⟨value, same⟩
  have flag {key : String} (member : key ∈ ["result", "standalone"]) :
      ∃ value : Option (Option Bool), valuesOf key entries = (value.map (encodeOrNull .bool)).toList := by
    obtain ⟨field, said⟩ := says_cases.mpr (acceptable.flags key member)
    obtain ⟨value, same, -⟩ := says_iff.mp said
    exact ⟨value, same⟩
  intro known
  cases known with
  | rulesVersion =>
    obtain ⟨text, same⟩ := acceptable.rulesVersion
    exact ⟨some text, same⟩
  | rulesSource | version | release | time => exact text (by decide)
  | result | standalone => exact flag (by decide)
  | capabilities =>
    rcases acceptable.capabilities with absent | ⟨texts, same⟩
    · exact ⟨none, absent⟩
    · exact ⟨some texts, same⟩

theorem exists_describes_iff : (∃ status, Describes entries status) ↔ Acceptable entries := by
  constructor
  · rintro ⟨status, describes⟩
    constructor
    · exact ⟨_, describes.rulesVersion⟩
    · intro key member
      apply says_cases.mp
      simp only [List.mem_cons, List.not_mem_nil, or_false] at member
      rcases member with rfl | rfl | rfl | rfl
      · exact ⟨_, describes.rulesSource⟩
      · exact ⟨_, describes.version⟩
      · exact ⟨_, describes.release⟩
      · exact ⟨_, describes.time⟩
    · intro key member
      apply says_cases.mp
      simp only [List.mem_cons, List.not_mem_nil, or_false] at member
      rcases member with rfl | rfl
      · exact ⟨_, describes.result⟩
      · exact ⟨_, describes.standalone⟩
    · rcases describes.capabilities with ⟨absent, -⟩ | same
      · exact .inl absent
      · exact .inr ⟨_, same⟩
  · intro acceptable
    obtain ⟨draft, taken⟩ := foldlM_of_fits acceptable.fits
    obtain ⟨text, version⟩ := acceptable.rulesVersion
    have given := (gathers_of_foldlM taken).known .rulesVersion
    cases found : draft.rulesVersion with
    | none =>
      simp only [Known.given, found, Known.name, version] at given
      cases given
    | some text =>
      have finished : ∃ status, draft.finish? = some status := by
        simp [Draft.finish?, found]
      obtain ⟨status, finished⟩ := finished
      refine ⟨status, describes_iff.mpr ?_⟩
      rw [ofEntries?, taken]
      exact finished

theorem Describes.of_same {reordered : List (String × Json)} (describes : Describes entries status)
    (same : ∀ key, valuesOf key reordered = valuesOf key entries) : Describes reordered status := by
  constructor
  · rw [same]
    exact describes.rulesVersion
  · rw [same]
    exact describes.rulesSource
  · rw [same]
    exact describes.result
  · rw [same]
    exact describes.version
  · rw [same]
    exact describes.release
  · rw [same]
    exact describes.standalone
  · rw [same]
    exact describes.time
  · rw [same]
    exact describes.capabilities
  · exact describes.ordered
  · intro key
    rw [same]
    exact describes.extra key

theorem ofEntries?_eq {reordered : List (String × Json)}
    (same : ∀ key, valuesOf key reordered = valuesOf key entries) :
    ofEntries? reordered = ofEntries? entries := by
  apply Option.ext
  intro status
  rw [← describes_iff, ← describes_iff]
  constructor
  · intro describes
    exact describes.of_same fun key => (same key).symm
  · intro describes
    exact describes.of_same same

/-- A body is accepted exactly where it is an object of acceptable members whose numerals stand for numbers, as
the status that they describe. The order of members with different keys does not matter. All numerals of a
well-formed object stand for numbers where none of them is out of range. -/
theorem accepted_exactly (body : Bytes) :
    ((∃ status, parse body = .ok status) ↔
      ∃ entries, Padded (ObjectOf StandsFor extraDepth entries) body ∧ Acceptable entries) ∧
    (∀ entries, Padded (ObjectOf StandsFor extraDepth entries) body →
      ((∃ status, parse body = .ok status) ↔ Acceptable entries) ∧
      (∀ status, parse body = .ok status ↔ Describes entries status) ∧
      ∀ other reordered, Padded (ObjectOf StandsFor extraDepth reordered) other →
        (∀ key, valuesOf key reordered = valuesOf key entries) →
          (parse other).toOption = (parse body).toOption) ∧
    (∀ entries, Padded (ObjectOf (fun _ _ => True) extraDepth entries) body →
      ∃ numerals, Json.Scans body numerals [] ∧
        ((∃ entries, Padded (ObjectOf StandsFor extraDepth entries) body) ↔
          ∀ numeral ∈ numerals, ¬ Json.OutOfRange numeral)) ∧
    ∀ numeral, Json.Numeral numeral →
      ((∃ number, StandsFor number numeral) ↔ ¬ Json.OutOfRange numeral) := by
  have parses {entries : List (String × Json)} (object : Padded (ObjectOf StandsFor extraDepth entries) body)
      (status : Status) : parse body = .ok status ↔ Describes entries status := by
    rw [describes_iff, ← parse_object object]
    cases parse body <;> simp [Except.toOption]
  have accepted {entries : List (String × Json)} (object : Padded (ObjectOf StandsFor extraDepth entries) body) :
      (∃ status, parse body = .ok status) ↔ Acceptable entries := by
    rw [← exists_describes_iff]
    exact exists_congr (parses object)
  refine ⟨⟨?_, ?_⟩, ?_, fun _ => Json.exists_numerals, fun _ => Json.Numeral.stands_iff⟩
  · rintro ⟨status, parsed⟩
    obtain ⟨entries, object, -⟩ := parse_eq_ok_iff.mp parsed
    exact ⟨entries, object, (accepted object).mp ⟨status, parsed⟩⟩
  · rintro ⟨entries, object, acceptable⟩
    exact (accepted object).mpr acceptable
  · intro entries object
    refine ⟨accepted object, parses object, fun other reordered written same => ?_⟩
    rw [parse_object written, parse_object object, ofEntries?_eq same]

/-- Of two values for one key the last counts. -/
theorem repeated_member_accepted :
    let body := "\x7b\n  \"load\": 1,\n  \"rulesVersion\": \"5.3\",\n  \"load\": 2\n\x7d"
    let entries :=
      [("load", .number (.integer 1)), ("rulesVersion", .string "5.3"), ("load", .number (.integer 2))]
    Padded (ObjectOf StandsFor extraDepth entries) (Text.Utf8.encode body) ∧
      parse (Text.Utf8.encode body) =
        .ok { rulesVersion := "5.3", extra := [("load", .number (.integer 2))] } := by
  intro body entries
  have object : ObjectOf StandsFor extraDepth entries (Text.Utf8.encode body) := by
    apply Json.objectOf_prettyAt 0
    intro member inside
    simp only [entries, List.mem_cons, List.not_mem_nil, or_false] at inside
    rcases inside with rfl | rfl | rfl
    · exact Json.spells_prettyAt (.integer ⟨by decide, by decide⟩) (.integer 1) 1
    · exact Json.spells_prettyAt (.string _) (.string _) 1
    · exact Json.spells_prettyAt (.integer ⟨by decide, by decide⟩) (.integer 2) 1
  have padded : Padded (ObjectOf StandsFor extraDepth entries) (Text.Utf8.encode body) := .of_written object
  obtain ⟨-, accepted, -⟩ := accepted_exactly (Text.Utf8.encode body)
  exact ⟨padded, ((accepted entries padded).2.1 _).mpr (describes_iff.mpr rfl)⟩

/-- The other member of this body is a number beyond binary64. -/
theorem unrepresentable_number_refused :
    (∃ entries, Padded (ObjectOf (fun _ _ => True) extraDepth entries)
        (Text.Utf8.encode "\x7b\"rulesVersion\":\"5.3\",\"load\":1e999\x7d") ∧ Acceptable entries) ∧
      ¬ ∃ status, parse (Text.Utf8.encode "\x7b\"rulesVersion\":\"5.3\",\"load\":1e999\x7d") = .ok status := by
  constructor
  · have digits (text : Bytes) (filled : text ≠ []) (all : text.all Ascii.isDigit = true) : Json.Digits text :=
      ⟨filled, List.all_eq_true.mp all⟩
    have exponent : Json.Exponent (101 :: ([] ++ [57, 57, 57])) :=
      .digits (.inl rfl) (.inl rfl) (digits _ nofun rfl)
    have magnitude : Json.Magnitude ([49] ++ ([] ++ 101 :: ([] ++ [57, 57, 57]))) :=
      .parts (digits _ nofun rfl) nofun .none exponent
    have text : Json.Spells (fun _ _ => True) extraDepth (.string "5.3") _ :=
      .scalar (.string (Json.literal_quote "5.3"))
    have number : Json.Spells (fun _ _ => True) extraDepth (.number (.integer 0)) _ :=
      .scalar (.number (.positive magnitude) trivial)
    have version := Json.Member.named (Json.literal_quote "rulesVersion") Json.blanks_nil Json.blanks_nil text
    have load := Json.Member.named (Json.literal_quote "load") Json.blanks_nil Json.blanks_nil number
    have listing := Json.Listing.next Json.blanks_nil version Json.blanks_nil
      (.last Json.blanks_nil load Json.blanks_nil)
    have object : ObjectOf (fun _ _ => True) extraDepth _ _ := ⟨_, rfl, .filled listing⟩
    refine ⟨[("rulesVersion", .string "5.3"), ("load", .number (.integer 0))], ?_, ?_, ?_, ?_, ?_⟩
    · convert Padded.of_written object using 1
      decide
    · exact ⟨"5.3", rfl⟩
    · intro key member
      simp only [List.mem_cons, List.not_mem_nil, or_false] at member
      rcases member with rfl | rfl | rfl | rfl <;> exact .inl rfl
    · intro key member
      simp only [List.mem_cons, List.not_mem_nil, or_false] at member
      rcases member with rfl | rfl <;> exact .inl rfl
    · exact .inl rfl
  · rintro ⟨status, parsed⟩
    have refused :
        (parse (Text.Utf8.encode "\x7b\"rulesVersion\":\"5.3\",\"load\":1e999\x7d")).toOption.isSome = false := by
      decide +kernel
    rw [parsed] at refused
    cases refused

end EntitlementRules.Status
