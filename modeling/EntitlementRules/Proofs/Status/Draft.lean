import EntitlementRules.Proofs.Json.Ordered
import EntitlementRules.Proofs.Status.Known
import Mathlib.Data.List.Induction

/-! Drafts of a status: what is taken in member by member, and what has been gathered in the end. -/
namespace EntitlementRules.Status

open Json (valuesOf)

variable {entries : List (String × Json)} {entry : String × Json} {draft next : Draft} {key : String}

/-- A draft with one member more: a known one that was not given before and has a value of its kind, or any
other. -/
def Draft.add? (draft : Draft) (entry : String × Json) : Option Draft :=
  match known? entry.1 with
  | some known =>
    if (known.given draft).isSome then none else (known.decode? entry.2).map (known.give draft)
  | none => some { draft with extra := Json.Members.insert entry.1 entry.2 draft.extra }

/-- A draft becomes a status where it was given the version. Members that were not given and those that were
null are absent from it. -/
theorem finish?_eq_some_iff {status : Status} :
    draft.finish? = some status ↔
      draft.rulesVersion = some status.rulesVersion ∧ draft.rulesSource.join = status.rulesSource ∧
      draft.result.join = status.result ∧ draft.version.join = status.version ∧
      draft.release.join = status.release ∧ draft.standalone.join = status.standalone ∧
      draft.time.join = status.time ∧ draft.capabilities.getD [] = status.capabilities ∧
      draft.extra = status.extra := by
  unfold Draft.finish?
  cases given : draft.rulesVersion with
  | none => simp
  | some text =>
    constructor
    · intro finished
      cases finished
      exact ⟨rfl, rfl, rfl, rfl, rfl, rfl, rfl, rfl, rfl⟩
    · cases status
      rintro ⟨⟨⟩, rfl, rfl, rfl, rfl, rfl, rfl, rfl, rfl⟩
      rfl

/-! ## What was gathered -/

/-- Each known member is given no more than once, with a value of its kind. -/
def Fits (entries : List (String × Json)) : Prop :=
  ∀ known : Known, ∃ value : Option known.Value,
    valuesOf known.name entries = (value.map known.encode).toList

/-- A draft holds the known members as they are given, and the last value for each other key. -/
structure Gathers (entries : List (String × Json)) (draft : Draft) : Prop where
  known (known : Known) : valuesOf known.name entries = ((known.given draft).map known.encode).toList
  ordered : Json.Ordered draft.extra
  extra (key : String) : Json.Members.find? key draft.extra =
    if (known? key).isSome then none else (valuesOf key entries).getLast?

theorem Gathers.fits (gathers : Gathers entries draft) : Fits entries := fun known =>
  ⟨known.given draft, gathers.known known⟩

theorem gathers_nil : Gathers [] {} where
  known known := by
    rw [Known.given_empty]
    rfl
  ordered := .nil
  extra key := by
    split <;> rfl

theorem encoded_injective {known : Known} {first second : Option known.Value}
    (same : (first.map known.encode).toList = (second.map known.encode).toList) : first = second := by
  cases first with
  | none =>
    cases second with
    | none => rfl
    | some value => cases same
  | some value =>
    cases second with
    | none => cases same
    | some other => rw [Known.encode_injective (List.cons_eq_cons.mp same).1]

theorem Gathers.unique (first : Gathers entries draft) (second : Gathers entries next) : draft = next := by
  refine Known.draft_ext (fun known => ?_) (first.ordered.eq_of_find? second.ordered fun key => ?_)
  · exact encoded_injective ((first.known known).symm.trans (second.known known))
  · rw [first.extra, second.extra]

/-! ## One member more -/

theorem valuesOf_snoc_self {value : Json} :
    valuesOf key (entries ++ [(key, value)]) = valuesOf key entries ++ [value] := by
  rw [Json.valuesOf_append, Json.valuesOf_cons_self, Json.valuesOf_nil]

theorem valuesOf_snoc_of_ne (other : entry.1 ≠ key) :
    valuesOf key (entries ++ [entry]) = valuesOf key entries := by
  rw [Json.valuesOf_append, Json.valuesOf_cons_of_ne other, Json.valuesOf_nil, List.append_nil]

theorem snoc_eq_encoded {known : Known} {values : List Json} {content : Json} {value : Option known.Value}
    (same : values ++ [content] = (value.map known.encode).toList) :
    values = [] ∧ ∃ given, content = known.encode given := by
  cases value with
  | none => exact absurd same (by simp)
  | some given =>
    have single : values ++ [content] = [] ++ [known.encode given] := same
    obtain ⟨nothing, last⟩ := List.append_inj' single rfl
    exact ⟨nothing, given, (List.cons_eq_cons.mp last).1⟩

/-- A known member is added where it was not given before and has a value of its kind. -/
theorem add?_known {known : Known} {content : Json} :
    draft.add? (known.name, content) = some next ↔
      known.given draft = none ∧ ∃ value, content = known.encode value ∧ known.give draft value = next := by
  have found : known? known.name = some known := known?_eq_some_iff.mpr rfl
  simp only [Draft.add?, found]
  cases known.given draft with
  | some value => simp
  | none => simp [Option.map_eq_some_iff, Known.decode?_eq_some_iff]

theorem add?_other (other : known? entry.1 = none) :
    draft.add? entry = some { draft with extra := Json.Members.insert entry.1 entry.2 draft.extra } := by
  simp only [Draft.add?, other]

theorem Gathers.add? (gathers : Gathers entries draft) (added : draft.add? entry = some next) :
    Gathers (entries ++ [entry]) next := by
  obtain ⟨key, content⟩ := entry
  cases found : known? key with
  | none =>
    rw [add?_other found] at added
    cases added
    constructor
    · intro known
      rw [valuesOf_snoc_of_ne (name_ne_of_known?_eq_none found known).symm, gathers.known]
      exact congrArg (fun given => (given.map known.encode).toList) (Known.given_extra known draft _).symm
    · exact gathers.ordered.insert key content
    · intro other
      dsimp only
      rw [Json.find?_insert]
      by_cases same : other = key
      · subst same
        rw [if_pos rfl, found, valuesOf_snoc_self]
        simp
      · rw [if_neg same, valuesOf_snoc_of_ne (Ne.symm same), gathers.extra]
  | some known =>
    obtain rfl := known?_eq_some_iff.mp found
    obtain ⟨fresh, value, rfl, rfl⟩ := add?_known.mp added
    constructor
    · intro other
      by_cases same : other = known
      · subst same
        rw [valuesOf_snoc_self, gathers.known, fresh, Known.given_give]
        rfl
      · have apart : known.name ≠ other.name := fun equal => same (Known.name_injective equal).symm
        rw [valuesOf_snoc_of_ne apart, gathers.known, Known.given_give_of_ne same]
    · rw [Known.extra_give]
      exact gathers.ordered
    · intro other
      rw [Known.extra_give, gathers.extra]
      by_cases same : other = known.name
      · subst same
        rw [found]
        rfl
      · rw [valuesOf_snoc_of_ne (Ne.symm same)]

/-! ## All members -/

theorem foldlM_snoc :
    (entries ++ [entry]).foldlM Draft.add? draft = (entries.foldlM Draft.add? draft).bind (·.add? entry) := by
  simp [List.foldlM_append]

theorem gathers_of_foldlM (taken : entries.foldlM Draft.add? {} = some draft) : Gathers entries draft := by
  induction entries using List.reverseRecOn generalizing draft with
  | nil =>
    cases taken
    exact gathers_nil
  | append_singleton before entry ih =>
    rw [foldlM_snoc] at taken
    obtain ⟨middle, first, last⟩ := Option.bind_eq_some_iff.mp taken
    exact (ih first).add? last

theorem Fits.of_append (fits : Fits (entries ++ [entry])) : Fits entries := by
  intro known
  obtain ⟨value, whole⟩ := fits known
  by_cases same : entry.1 = known.name
  · obtain ⟨key, content⟩ := entry
    obtain rfl : key = known.name := same
    rw [valuesOf_snoc_self] at whole
    exact ⟨none, (snoc_eq_encoded whole).1⟩
  · exact ⟨value, (valuesOf_snoc_of_ne same).symm.trans whole⟩

theorem foldlM_of_fits (fits : Fits entries) : ∃ draft, entries.foldlM Draft.add? {} = some draft := by
  induction entries using List.reverseRecOn with
  | nil => exact ⟨{}, rfl⟩
  | append_singleton before entry ih =>
    obtain ⟨draft, taken⟩ := ih fits.of_append
    have added : ∃ next, draft.add? entry = some next := by
      obtain ⟨key, content⟩ := entry
      cases found : known? key with
      | none => exact ⟨_, add?_other found⟩
      | some known =>
        obtain rfl := known?_eq_some_iff.mp found
        obtain ⟨value, whole⟩ := fits known
        rw [valuesOf_snoc_self, (gathers_of_foldlM taken).known] at whole
        obtain ⟨nothing, given, rfl⟩ := snoc_eq_encoded whole
        have fresh : known.given draft = none := by
          cases before : known.given draft with
          | none => rfl
          | some value =>
            rw [before] at nothing
            cases nothing
        exact ⟨_, add?_known.mpr ⟨fresh, given, rfl, rfl⟩⟩
    obtain ⟨next, added⟩ := added
    refine ⟨next, ?_⟩
    rw [foldlM_snoc, taken]
    exact added

theorem foldlM_eq_some_iff : entries.foldlM Draft.add? {} = some draft ↔ Gathers entries draft := by
  constructor
  · exact gathers_of_foldlM
  · intro gathers
    obtain ⟨other, taken⟩ := foldlM_of_fits gathers.fits
    rw [taken, (gathers_of_foldlM taken).unique gathers]

end EntitlementRules.Status
