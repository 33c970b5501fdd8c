import EntitlementRules.Proofs.Procedure
import EntitlementRules.Status.Reader

/-! The members of a status that have a meaning of their own: the kind of each one's values, and where a draft
keeps them. -/
namespace EntitlementRules.Status

open Json (Reader)

inductive Known where
  | rulesVersion
  | rulesSource
  | result
  | version
  | release
  | standalone
  | time
  | capabilities
  deriving DecidableEq

def flag? : Json → Option Bool
  | .bool value => some value
  | _ => none

/-- The texts in an array of texts. -/
def texts? : Json → Option (List String)
  | .array items => items.mapM Json.string?
  | _ => none

/-- Null where a value is absent. -/
def encodeOrNull {α : Type} (encode : α → Json) : Option α → Json
  | some value => encode value
  | none => .null

namespace Known

def all : List Known :=
  [rulesVersion, rulesSource, result, version, release, standalone, time, capabilities]

def name : Known → String
  | rulesVersion => "rulesVersion"
  | rulesSource => "rulesSource"
  | result => "result"
  | version => "version"
  | release => "release"
  | standalone => "standalone"
  | time => "timeUTC"
  | capabilities => "managerCapabilities"

/-- What a member is read as; null is a value of most. -/
abbrev Value : Known → Type
  | rulesVersion => String
  | result | standalone => Option Bool
  | capabilities => List String
  | rulesSource | version | release | time => Option String

def given : (known : Known) → Draft → Option known.Value
  | rulesVersion => Draft.rulesVersion
  | rulesSource => Draft.rulesSource
  | result => Draft.result
  | version => Draft.version
  | release => Draft.release
  | standalone => Draft.standalone
  | time => Draft.time
  | capabilities => Draft.capabilities

def give : (known : Known) → Draft → known.Value → Draft
  | rulesVersion => fun draft value => { draft with rulesVersion := some value }
  | rulesSource => fun draft value => { draft with rulesSource := some value }
  | result => fun draft value => { draft with result := some value }
  | version => fun draft value => { draft with version := some value }
  | release => fun draft value => { draft with release := some value }
  | standalone => fun draft value => { draft with standalone := some value }
  | time => fun draft value => { draft with time := some value }
  | capabilities => fun draft value => { draft with capabilities := some value }

def reader : (known : Known) → Reader known.Value
  | rulesVersion => text
  | result | standalone => flagOrNull
  | capabilities => texts
  | rulesSource | version | release | time => textOrNull

def decode? : (known : Known) → Json → Option known.Value
  | rulesVersion => Json.string?
  | result | standalone => orNull flag?
  | capabilities => texts?
  | rulesSource | version | release | time => orNull Json.string?

def encode : (known : Known) → known.Value → Json
  | rulesVersion => .string
  | result | standalone => encodeOrNull .bool
  | capabilities => fun texts => .array (texts.map .string)
  | rulesSource | version | release | time => encodeOrNull .string

variable {known other : Known} {draft : Draft} {value : known.Value} {key : String}

theorem mem_all (known : Known) : known ∈ all := by
  cases known <;> decide

theorem name_injective (same : known.name = other.name) : known = other := by
  revert same
  cases known <;> cases other <;> decide

@[simp]
theorem given_give : known.given (known.give draft value) = some value := by
  cases known <;> rfl

theorem given_give_of_ne (apart : other ≠ known) :
    other.given (known.give draft value) = other.given draft := by
  cases known <;> cases other <;> first | rfl | exact absurd rfl apart

@[simp]
theorem extra_give : (known.give draft value).extra = draft.extra := by
  cases known <;> rfl

theorem given_extra (known : Known) (draft : Draft) (extra : Json.Members) :
    known.given { draft with extra } = known.given draft := by
  cases known <;> rfl

@[simp]
theorem given_empty : known.given {} = none := by
  cases known <;> rfl

theorem draft_ext {first second : Draft} (same : ∀ known : Known, known.given first = known.given second)
    (extra : first.extra = second.extra) : first = second := by
  have rulesVersion := same rulesVersion
  have rulesSource := same rulesSource
  have result := same result
  have version := same version
  have release := same release
  have standalone := same standalone
  have time := same time
  have capabilities := same capabilities
  cases first
  cases second
  simp only [given] at *
  simp only [*]

/-! ## Values -/

theorem string?_eq_some_iff {content : Json} {text : String} :
    content.string? = some text ↔ content = .string text := by
  cases content <;> simp [Json.string?]

theorem flag?_eq_some_iff {content : Json} {flag : Bool} :
    flag? content = some flag ↔ content = .bool flag := by
  cases content <;> simp [flag?]

theorem orNull_eq_some_iff {α : Type} {accept : Json → Option α} {encode : α → Json}
    (exact : ∀ content value, accept content = some value ↔ content = encode value)
    (filled : ∀ value, encode value ≠ .null) {content : Json} {value : Option α} :
    orNull accept content = some value ↔ content = encodeOrNull encode value := by
  have present (other : content ≠ .null) :
      (accept content).map some = some value ↔ content = encodeOrNull encode value := by
    cases value with
    | none => simp [encodeOrNull, other]
    | some value => simp [encodeOrNull, exact]
  cases content with
  | null =>
    cases value with
    | none => simp [orNull, encodeOrNull]
    | some value => simp [orNull, encodeOrNull, (filled value).symm]
  | _ => exact present nofun

theorem texts?_eq_some_iff {content : Json} {texts : List String} :
    texts? content = some texts ↔ content = .array (texts.map .string) := by
  cases content <;> simp [texts?, mapM_eq_some_map_iff fun _ _ => string?_eq_some_iff]

theorem decode?_eq_some_iff {content : Json} :
    known.decode? content = some value ↔ content = known.encode value := by
  cases known with
  | rulesVersion => exact string?_eq_some_iff
  | capabilities => exact texts?_eq_some_iff
  | result | standalone => exact orNull_eq_some_iff (fun _ _ => flag?_eq_some_iff) nofun
  | rulesSource | version | release | time =>
    exact orNull_eq_some_iff (fun _ _ => string?_eq_some_iff) nofun

theorem encode_injective {first second : known.Value} (same : known.encode first = known.encode second) :
    first = second := by
  have read : known.decode? (known.encode first) = some first := decode?_eq_some_iff.mpr rfl
  rw [decode?_eq_some_iff.mpr same] at read
  exact (Option.some.inj read).symm

end Known

/-! ## Keys -/

def known? (key : String) : Option Known := Known.all.find? (·.name = key)

theorem known?_eq_some_iff {key : String} {known : Known} : known? key = some known ↔ known.name = key := by
  unfold known?
  constructor
  · intro found
    simpa using List.find?_some found
  · intro same
    cases found : Known.all.find? (·.name = key) with
    | none =>
      have other := List.find?_eq_none.mp found known known.mem_all
      simp [same] at other
    | some first =>
      have name : first.name = key := by simpa using List.find?_some found
      rw [Known.name_injective (name.trans same.symm)]

theorem name_ne_of_known?_eq_none {key : String} (unknown : known? key = none) (known : Known) :
    known.name ≠ key := by
  intro same
  cases unknown.symm.trans (known?_eq_some_iff.mpr same)

end EntitlementRules.Status
