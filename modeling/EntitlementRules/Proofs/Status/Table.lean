import EntitlementRules.Proofs.Status.Acceptance
import EntitlementRules.Status.Text

/-! The table of a status: which of its fields stand in which line, and which field is left out. -/
namespace EntitlementRules.Status

variable {status : Status} {known : Known} {first second : List Known} {lines others : List String}

/-! ## Fields -/

def has (status : Status) : Known → Bool
  | .rulesVersion => true
  | .rulesSource => status.rulesSource.isSome
  | .result => status.result.isSome
  | .version => status.version.isSome
  | .release => status.release.isSome
  | .standalone => status.standalone.isSome
  | .time => status.time.isSome
  | .capabilities => !status.capabilities.isEmpty

/-- A release without the version that it is one of. -/
def strays (status : Status) (known : Known) : Bool := known == .release && status.version.isNone

def isShown (status : Status) (known : Known) : Bool := status.has known && !status.strays known

/-- A line that shows fields with their values. -/
inductive Shows (status : Status) : List Known → String → Prop where
  | rulesVersion : Shows status [.rulesVersion] ("rules version: " ++ status.rulesVersion)
  | rulesSource {text : String} (held : status.rulesSource = some text) :
      Shows status [.rulesSource] ("rules source: " ++ text)
  | result {flag : Bool} (held : status.result = some flag) :
      Shows status [.result] ("result: " ++ if flag then "true" else "false")
  | version {version : String} (held : status.version = some version) (bare : status.release = none) :
      Shows status [.version] ("server: " ++ version)
  | release {version release : String} (held : status.version = some version)
      (released : status.release = some release) :
      Shows status [.version, .release] ("server: " ++ version ++ " (" ++ release ++ ")")
  | standalone {flag : Bool} (held : status.standalone = some flag) :
      Shows status [.standalone] ("standalone: " ++ if flag then "true" else "false")
  | time {text : String} (held : status.time = some text) : Shows status [.time] ("time (UTC): " ++ text)
  | capabilities (filled : status.capabilities ≠ []) :
      Shows status [.capabilities] ("capabilities: " ++ ", ".intercalate status.capabilities)

/-- A line that shows a member of unknown name. -/
inductive ShowsMember : String × Json → String → Prop where
  | text {key value : String} : ShowsMember (key, .string value) (key ++ ": " ++ value)
  | other {key : String} {value : Json} (other : ∀ text, value ≠ .string text) :
      ShowsMember (key, value) (key ++ ": " ++ value.compact)

/-! ## Lines -/

/-- Lines that show those of some fields that are shown, in their order and each once. -/
def Block (status : Status) (fields : List Known) (lines : List String) : Prop :=
  ∃ groups, List.Forall₂ (Shows status) groups lines ∧ groups.flatten = fields.filter status.isShown

theorem Block.append (front : Block status first lines) (back : Block status second others) :
    Block status (first ++ second) (lines ++ others) := by
  obtain ⟨groups, shows, all⟩ := front
  obtain ⟨more, also, rest⟩ := back
  exact ⟨groups ++ more, List.rel_append shows also, by rw [List.flatten_append, List.filter_append, all, rest]⟩

theorem block_one {line : String} (shown : status.isShown known = true) (shows : Shows status [known] line) :
    Block status [known] [line] :=
  ⟨[[known]], .cons shows .nil, by simp [shown]⟩

theorem block_none (hidden : status.isShown known = false) : Block status [known] [] :=
  ⟨[], .nil, by simp [hidden]⟩

theorem block_line {α : Type} {name : String} {show_ : α → String} {field : Option α}
    (same : status.isShown known = field.isSome)
    (shows : ∀ value, field = some value → Shows status [known] (name ++ ": " ++ show_ value)) :
    Block status [known] (line name show_ field) := by
  cases held : field with
  | none => exact block_none (by rw [same, held]; rfl)
  | some value => exact block_one (by rw [same, held]; rfl) (shows value held)

theorem toString_flag (flag : Bool) : toString flag = if flag then "true" else "false" := by
  cases flag <;> rfl

/-- The server's version and its release share a line. -/
theorem block_server (status : Status) :
    Block status [.version, .release] (line "server" (serverText · status.release) status.version) := by
  cases held : status.version with
  | none => exact ⟨[], .nil, by simp [isShown, has, strays, held]⟩
  | some version =>
    cases released : status.release with
    | none =>
      exact ⟨[[.version]], .cons (.version held released) .nil, by simp [isShown, has, strays, held, released]⟩
    | some release =>
      have text : "server: " ++ serverText version (some release) =
          "server: " ++ version ++ " (" ++ release ++ ")" := by
        change "server: " ++ (version ++ " (" ++ release ++ ")") = _
        simp only [String.append_assoc]
      refine ⟨[[.version, .release]], .cons ?_ .nil, by simp [isShown, has, strays, held, released]⟩
      exact text ▸ .release held released

theorem block_capabilities (status : Status) :
    Block status [.capabilities] (if status.capabilities.isEmpty then []
      else ["capabilities: " ++ ", ".intercalate status.capabilities]) := by
  cases empty : status.capabilities.isEmpty with
  | true => exact block_none (by simp [isShown, has, empty])
  | false =>
    exact block_one (by simp [isShown, has, strays, empty]) (.capabilities (List.isEmpty_eq_false_iff.mp empty))

theorem block_known (status : Status) :
    ∃ lines, Block status Known.all (("rules version: " ++ status.rulesVersion) :: lines) ∧
      status.tableLines = ("rules version: " ++ status.rulesVersion) :: lines ++
        status.extra.map fun (key, value) => key ++ ": " ++ plainText value := by
  have rulesVersion : Block status [.rulesVersion] ["rules version: " ++ status.rulesVersion] :=
    block_one rfl .rulesVersion
  have rulesSource : Block status [.rulesSource] (line "rules source" id status.rulesSource) :=
    block_line (Bool.and_true _) fun text held => .rulesSource held
  have result : Block status [.result] (line "result" toString status.result) :=
    block_line (Bool.and_true _) fun flag held => toString_flag flag ▸ .result held
  have standalone : Block status [.standalone] (line "standalone" toString status.standalone) :=
    block_line (Bool.and_true _) fun flag held => toString_flag flag ▸ .standalone held
  have time : Block status [.time] (line "time (UTC)" id status.time) :=
    block_line (Bool.and_true _) fun text held => .time held
  exact ⟨_, (((((rulesVersion.append rulesSource).append result).append (block_server status)).append
    standalone).append time).append (block_capabilities status), rfl⟩

theorem showsMember_plainText (key : String) (value : Json) :
    ShowsMember (key, value) (key ++ ": " ++ plainText value) := by
  cases value with
  | string text => exact .text
  | _ => exact .other nofun

theorem showsMember_lines (members : Json.Members) :
    List.Forall₂ ShowsMember members (members.map fun (key, value) => key ++ ": " ++ plainText value) := by
  induction members with
  | nil => exact .nil
  | cons member rest ih => exact .cons (showsMember_plainText member.1 member.2) ih

/-- A table shows the rules version first, then all other fields that a status has, in their order and each
once, and then the members of unknown name in the order of their keys. Only a release without a version is
left out. -/
theorem table_shows_all_but_stray_release (ordered : Json.Ordered status.extra) :
    (∃ groups lines unknown,
      status.output .table = lineOutput (("rules version: " ++ status.rulesVersion) :: lines ++ unknown) ∧
      List.Forall₂ (Shows status) groups (("rules version: " ++ status.rulesVersion) :: lines) ∧
      groups.flatten = Known.all.filter status.isShown ∧
      List.Forall₂ ShowsMember status.extra unknown ∧
      (status.extra.map fun member => Text.Utf8.encode member.1).Pairwise (· < ·)) ∧
    (status.version = none → ∀ release, { status with release }.output .table = status.output .table) := by
  constructor
  · obtain ⟨lines, ⟨groups, shows, all⟩, table⟩ := block_known status
    exact ⟨groups, lines, _, congrArg lineOutput table, shows, all, showsMember_lines status.extra,
      ordered_iff.mp ordered⟩
  · intro bare release
    simp only [output, tableLines, bare, line]

/-- A release beside its version is shown, and members of unknown name are. -/
theorem table_shows_release_beside_version :
    let status : Status :=
      { rulesVersion := "5.3", version := some "8.0", release := some "2", capabilities := ["read", "write"]
        extra := [("load", .null), ("note", .string "calm")] }
    Json.Ordered status.extra ∧ ∃ groups lines unknown,
      status.output .table = lineOutput (lines ++ unknown) ∧
      List.Forall₂ (Shows status) groups lines ∧
      groups.flatten = [.rulesVersion, .version, .release, .capabilities] ∧
      List.Forall₂ ShowsMember status.extra unknown := by
  intro status
  have ordered : Json.Ordered status.extra := ordered_iff.mpr (by decide)
  obtain ⟨⟨groups, lines, unknown, table, shows, all, members, -⟩, -⟩ :=
    table_shows_all_but_stray_release ordered
  exact ⟨ordered, groups, _, unknown, table, shows, all, members⟩

/-- A release without a version stands in the JSON form of a status, but not in its table. -/
theorem stray_release_hidden :
    let status : Status := { rulesVersion := "5.3", release := some "1" }
    status.has .release = true ∧ status.output .table = "rules version: 5.3\n" ∧
      status.output .json = "\x7b\n  \"rulesVersion\": \"5.3\",\n  \"release\": \"1\"\n\x7d\n" :=
  ⟨rfl, by decide +kernel, by decide +kernel⟩

end EntitlementRules.Status
