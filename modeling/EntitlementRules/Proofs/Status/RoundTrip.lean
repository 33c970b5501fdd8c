import EntitlementRules.Proofs.Command.Printing
import EntitlementRules.Proofs.Json.Printing
import EntitlementRules.Proofs.Status.Reading
import EntitlementRules.Status.Text

/-! Round trip: the JSON text that is printed for a status reads back as that status. -/
namespace EntitlementRules.Status

open Json (FloatFree ObjectOf Padded StandsFor Regular valuesOf)
open Text.Utf8 (encode encode_append)

variable {body : Bytes} {status : Status} {entries : List (String × Json)} {key : String}

/-! ## What is read -/

/-- Other members as they are read: none of known name, in order, and of values that are read. -/
structure Sound (extra : Json.Members) : Prop where
  unknown : ∀ member ∈ extra, known? member.1 = none
  ordered : Json.Ordered extra
  regular : ∀ member ∈ extra, Regular extraDepth member.2

theorem Gathers.sound {text : Bytes} {draft : Draft} (gathers : Gathers entries draft)
    (object : ObjectOf StandsFor extraDepth entries text) : Sound draft.extra := by
  obtain ⟨inside, -, group⟩ := object
  have given {key : String} {value : Json} (member : (key, value) ∈ draft.extra) :
      known? key = none ∧ (key, value) ∈ entries := by
    have found := gathers.extra key
    rw [gathers.ordered.find?_of_mem member] at found
    split at found
    · cases found
    · next other =>
      refine ⟨Option.not_isSome_iff_eq_none.mp other, ?_⟩
      exact Json.mem_of_mem_valuesOf (List.mem_of_getLast? found.symm)
  constructor
  · intro member inside
    exact (given inside).1
  · exact gathers.ordered
  · intro member inside
    obtain ⟨part, written⟩ := group.exists_written member (given inside).2
    cases written with
    | named _ _ _ written => exact Json.regular_of_spells written

theorem sound_of_parse (parsed : parse body = .ok status) : Sound status.extra := by
  obtain ⟨entries, ⟨_, object, _⟩, read⟩ := parse_eq_ok_iff.mp parsed
  obtain ⟨draft, gathered, finished⟩ := Option.bind_eq_some_iff.mp read
  obtain ⟨-, -, -, -, -, -, -, -, extra⟩ := finish?_eq_some_iff.mp finished
  rw [← extra]
  exact (gathers_of_foldlM gathered).sound object

/-! ## What is printed -/

/-- The draft that the members of a status give. -/
def draft (status : Status) : Draft where
  rulesVersion := some status.rulesVersion
  rulesSource := status.rulesSource.map some
  result := status.result.map some
  version := status.version.map some
  release := status.release.map some
  standalone := status.standalone.map some
  time := status.time.map some
  capabilities := if status.capabilities.isEmpty then none else some status.capabilities
  extra := status.extra

theorem finish?_draft (status : Status) : status.draft.finish? = some status := by
  have join {α : Type} (field : Option α) : (field.map some).join = field := by
    cases field <;> rfl
  have capabilities : status.draft.capabilities.getD [] = status.capabilities := by
    unfold draft
    cases status.capabilities <;> rfl
  exact finish?_eq_some_iff.mpr
    ⟨rfl, join _, join _, join _, join _, join _, join _, capabilities, rfl⟩

theorem valuesOf_present {α : Type} (name : String) (encode : α → Json) (field : Option α) :
    valuesOf key (present name encode field) = if name = key then (field.map encode).toList else [] := by
  cases field with
  | none => simp [present]
  | some value =>
    by_cases same : name = key
    · subst same
      simp [present, Json.valuesOf_cons_self]
    · simp [present, Json.valuesOf_cons_of_ne same, same]

/-- The members of a status: those of known name that its draft was given, and the others. -/
theorem members_eq (status : Status) :
    status.members =
      (Known.all.flatMap fun known => present known.name known.encode (known.given status.draft)) ++
        status.extra := by
  have orNull {α : Type} (name : String) (encode : α → Json) (field : Option α) :
      present name (encodeOrNull encode) (field.map some) = present name encode field := by
    cases field <;> rfl
  have capabilities : (if status.capabilities.isEmpty then [] else
      [("managerCapabilities", .array (status.capabilities.map .string))]) =
        present "managerCapabilities" Known.capabilities.encode status.draft.capabilities := by
    unfold draft
    cases status.capabilities <;> rfl
  unfold members
  rw [capabilities]
  simp only [Known.all, List.flatMap_cons, List.flatMap_nil, Known.given, draft, Known.encode, orNull,
    Known.name, List.append_assoc, List.nil_append]
  rfl

theorem valuesOf_known (known : Known) (status : Status) :
    valuesOf known.name status.members =
      ((known.given status.draft).map known.encode).toList ++ valuesOf known.name status.extra := by
  rw [members_eq, Json.valuesOf_append, Json.valuesOf_flatMap]
  simp only [valuesOf_present]
  congr 1
  cases known <;> simp [Known.all, Known.name]

theorem valuesOf_unknown (unknown : known? key = none) (status : Status) :
    valuesOf key status.members = valuesOf key status.extra := by
  rw [members_eq, Json.valuesOf_append, Json.valuesOf_flatMap]
  simp [valuesOf_present, name_ne_of_known?_eq_none unknown]

theorem gathers_members (sound : Sound status.extra) : Gathers status.members status.draft := by
  have absent (known : Known) : valuesOf known.name status.extra = [] := by
    rw [valuesOf, List.map_eq_nil_iff, List.filter_eq_nil_iff]
    intro member inside same
    exact name_ne_of_known?_eq_none (sound.unknown member inside) known (beq_iff_eq.mp same).symm
  constructor
  · intro known
    rw [valuesOf_known, absent, List.append_nil]
  · exact sound.ordered
  · intro key
    change Json.Members.find? key status.extra = _
    have found := sound.ordered.valuesOf_eq key
    cases known : known? key with
    | some one =>
      obtain rfl := known?_eq_some_iff.mp known
      rw [absent] at found
      exact Option.toList_eq_nil_iff.mp found.symm
    | none =>
      rw [valuesOf_unknown known, found]
      cases Json.Members.find? key status.extra <;> rfl

theorem regular_array {items : List Json} (parts : ∀ item ∈ items, Regular (extraDepth - 1) item) :
    Regular extraDepth (.array items) := .array parts

theorem regular_encode (known : Known) (value : known.Value) :
    Regular extraDepth (known.encode value) ∧ FloatFree (known.encode value) := by
  have texts (texts : List String) :
      Regular extraDepth (.array (texts.map .string)) ∧ FloatFree (.array (texts.map .string)) := by
    constructor
    · apply regular_array
      intro item member
      obtain ⟨text, -, rfl⟩ := List.mem_map.mp member
      exact .string text
    · apply FloatFree.array
      intro item member
      obtain ⟨text, -, rfl⟩ := List.mem_map.mp member
      exact .string text
  cases known with
  | rulesVersion => exact ⟨.string value, .string value⟩
  | capabilities => exact texts value
  | result | standalone =>
    cases value with
    | none => exact ⟨.null, .null⟩
    | some flag => exact ⟨.bool flag, .bool flag⟩
  | rulesSource | version | release | time =>
    cases value with
    | none => exact ⟨.null, .null⟩
    | some text => exact ⟨.string text, .string text⟩

theorem regular_of_mem_members (sound : Sound status.extra)
    (floatFree : ∀ member ∈ status.extra, FloatFree member.2) :
    ∀ member ∈ status.members, Regular extraDepth member.2 ∧ FloatFree member.2 := by
  intro member inside
  rw [members_eq] at inside
  rcases List.mem_append.mp inside with listed | other
  · obtain ⟨known, -, written⟩ := List.mem_flatMap.mp listed
    cases given : known.given status.draft with
    | none =>
      rw [given] at written
      cases written
    | some value =>
      rw [given] at written
      cases List.mem_singleton.mp written
      exact regular_encode known value
  · exact ⟨sound.regular member other, floatFree member other⟩

/-- What is printed of a status that a server reports, unless standard output refuses it. -/
theorem written_of_reported {σ : Type} {backend : Backend σ} {world : Console.World σ} (files : Files)
    (format : OutputFormat) (reports : (backend .getStatus world.server).1 = .ok status) :
    let ended := (Command.status.run files format).runIn backend world
    ended.2.outlet.refusals = world.outlet.refusals →
      ended.2.outlet.written = world.outlet.written ++ encode (status.output format) := by
  intro ended kept
  obtain ⟨-, -, prints⟩ := Command.run_prints backend files format .status world
  have runs : Command.Runs backend (Command.showStatus format) world.toWorld [⟨.getStatus, .ok status⟩]
      (.ok (.report (status.output format))) (world.toWorld.called backend .getStatus) :=
    .demand_met reports (.pure _)
  have shown : ((Command.work files format .status).runIn backend world.toWorld).1 =
      .ok (.report (status.output format)) := congrArg Prod.fst runs.runIn_eq
  exact ((shown ▸ prints).of_kept kept).2

/-- The JSON text of a status that was read reads back as that status, where no number of its other members
is a binary64 number; and where a server reports what was read back, the same text is printed again. -/
theorem output_parses_back (parsed : parse body = .ok status)
    (floatFree : ∀ member ∈ status.extra, FloatFree member.2) :
    let printed := encode (status.output .json)
    parse printed = .ok status ∧
      ∀ again, parse printed = .ok again →
        ∀ {σ : Type} (backend : Backend σ) (files : Files) (world : Console.World σ),
          (backend .getStatus world.server).1 = .ok again →
          let ended := (Command.status.run files .json).runIn backend world
          ended.2.outlet.refusals = world.outlet.refusals →
            ended.2.outlet.written = world.outlet.written ++ printed := by
  have sound := sound_of_parse parsed
  have object : ObjectOf StandsFor extraDepth status.members (encode status.toJson.pretty) := by
    apply Json.objectOf_prettyAt 0
    intro member inside
    obtain ⟨regular, free⟩ := regular_of_mem_members sound floatFree member inside
    exact Json.spells_prettyAt regular free 1
  have padded : Padded (ObjectOf StandsFor extraDepth status.members) (encode (status.output .json)) := by
    have blank : Json.Blanks (encode "\n") := by
      intro b member
      exact .inr (.inl (List.mem_singleton.mp (show b ∈ [Ascii.lineFeed] from member)))
    have around := Padded.around Json.blanks_nil object blank
    rw [List.nil_append, ← encode_append] at around
    exact around
  have read : parse (encode (status.output .json)) = .ok status := by
    apply parse_eq_ok_iff.mpr
    refine ⟨status.members, padded, ?_⟩
    rw [ofEntries?, foldlM_eq_some_iff.mpr (gathers_members sound)]
    exact finish?_draft status
  refine ⟨read, fun again parsed _ backend files world reports => ?_⟩
  cases read.symm.trans parsed
  exact written_of_reported files .json reports

/-- A time that is null is left out, and the members change places. -/
theorem reordered_status_parses_back :
    let body := "\x7b\n  \"timeUTC\": null,\n  \"load\": [\n    -7\n  ],\n  \"rulesVersion\": \"5.3\"\n\x7d"
    let printed := "\x7b\n  \"rulesVersion\": \"5.3\",\n  \"load\": [\n    -7\n  ]\n\x7d\n"
    let status : Status := { rulesVersion := "5.3", extra := [("load", .array [.number (.integer (-7))])] }
    let backend : Backend Unit := fun
      | .getStatus, server => (.ok status, server)
      | _, server => (.error (.transport "call" "no answer"), server)
    let world : Console.World Unit := { server := (), files := ⟨"/", []⟩ }
    parse (encode body) = .ok status ∧ (∀ member ∈ status.extra, FloatFree member.2) ∧
      parse (encode printed) = .ok status ∧
      ((Command.status.run world.files.view .json).runIn backend world).2.outlet.written = encode printed := by
  intro body printed status backend world
  have free : FloatFree (.array [.number (.integer (-7))]) := .array fun item member => by
    cases List.mem_singleton.mp member
    exact .integer (-7)
  have regular : Regular extraDepth (.array [.number (.integer (-7))]) :=
    regular_array fun item member => by
      cases List.mem_singleton.mp member
      exact .integer ⟨by decide, by decide⟩
  have object : ObjectOf StandsFor extraDepth
      [("timeUTC", .null), ("load", .array [.number (.integer (-7))]), ("rulesVersion", .string "5.3")]
      (encode body) := by
    apply Json.objectOf_prettyAt 0
    intro member inside
    simp only [List.mem_cons, List.not_mem_nil, or_false] at inside
    rcases inside with rfl | rfl | rfl
    · exact Json.spells_prettyAt .null .null 1
    · exact Json.spells_prettyAt regular free 1
    · exact Json.spells_prettyAt (.string _) (.string _) 1
  have parsed : parse (encode body) = .ok status := parse_eq_ok_iff.mpr ⟨_, .of_written object, rfl⟩
  have all : ∀ member ∈ status.extra, FloatFree member.2 := by
    intro member inside
    cases List.mem_singleton.mp inside
    exact free
  have text : status.output .json = printed := by decide +kernel
  obtain ⟨back, again⟩ := output_parses_back parsed all
  have reprinted := again status back backend world.files.view world rfl (by decide +kernel)
  rw [text] at back reprinted
  exact ⟨parsed, all, back, reprinted⟩

end EntitlementRules.Status
