import EntitlementRules.Json.Value
import Mathlib.Data.String.Basic

/-! Members in ascending order of their keys: what is found under a key after others were set, and that
lists in which the same is found are the same. -/
namespace EntitlementRules.Json

variable {key name : String} {value : Json} {members others entries : List (String × Json)}

/-- The values that are given for a key, in order. -/
def valuesOf (key : String) (entries : List (String × Json)) : List Json :=
  (entries.filter (·.1 == key)).map (·.2)

@[simp]
theorem valuesOf_nil : valuesOf key [] = [] := rfl

theorem valuesOf_cons_self : valuesOf key ((key, value) :: entries) = value :: valuesOf key entries := by
  simp [valuesOf]

theorem valuesOf_cons_of_ne (other : name ≠ key) :
    valuesOf key ((name, value) :: entries) = valuesOf key entries := by
  simp [valuesOf, other]

theorem valuesOf_append : valuesOf key (entries ++ others) = valuesOf key entries ++ valuesOf key others := by
  simp [valuesOf]

theorem valuesOf_flatMap {α : Type} (all : List α) (part : α → List (String × Json)) :
    valuesOf key (all.flatMap part) = all.flatMap fun one => valuesOf key (part one) := by
  induction all with
  | nil => rfl
  | cons one rest ih => rw [List.flatMap_cons, valuesOf_append, ih, List.flatMap_cons]

theorem mem_of_mem_valuesOf (member : value ∈ valuesOf key entries) :
    (key, value) ∈ entries := by
  obtain ⟨⟨name, content⟩, found, rfl⟩ := List.mem_map.mp member
  obtain ⟨inside, same⟩ := List.mem_filter.mp found
  rwa [← beq_iff_eq.mp same]

/-- One member for each key, in ascending order. -/
def Ordered (members : List (String × Json)) : Prop := members.Pairwise (·.1 < ·.1)

/-! ## Setting members -/

theorem find?_cons (key name : String) (value : Json) (members : Members) :
    Members.find? key ((name, value) :: members) =
      if key = name then some value else Members.find? key members := by
  rw [Members.find?, List.lookup_cons]
  by_cases same : key = name
  · rw [if_pos same, beq_iff_eq.mpr same]
  · rw [if_neg same, beq_eq_false_iff_ne.mpr same]
    rfl

theorem find?_insert (key name : String) (value : Json) (members : Members) :
    (members.insert name value).find? key = if key = name then some value else members.find? key := by
  induction members with
  | nil => exact find?_cons key name value []
  | cons entry rest ih =>
    obtain ⟨first, content⟩ := entry
    rw [Members.insert]
    split
    · exact find?_cons key name value _
    · split
      · next same =>
        subst same
        rw [find?_cons, find?_cons]
        split <;> rfl
      · next other =>
        rw [find?_cons, find?_cons, ih]
        by_cases found : key = first
        · rw [if_pos found, if_pos found, if_neg (found ▸ Ne.symm other)]
        · rw [if_neg found, if_neg found]

theorem mem_insert {entry : String × Json} (member : entry ∈ Members.insert key value members) :
    entry = (key, value) ∨ entry ∈ members := by
  induction members with
  | nil => exact .inl (List.mem_singleton.mp member)
  | cons first rest ih =>
    rw [Members.insert] at member
    split at member
    · exact List.mem_cons.mp member
    · split at member
      · rcases List.mem_cons.mp member with same | inside
        · exact .inl same
        · exact .inr (.tail _ inside)
      · rcases List.mem_cons.mp member with same | inside
        · exact .inr (same ▸ .head _)
        · exact (ih inside).imp id (.tail _)

theorem Ordered.insert (ordered : Ordered members) (key : String) (value : Json) :
    Ordered (Members.insert key value members) := by
  induction members with
  | nil => exact List.pairwise_singleton _ _
  | cons first rest ih =>
    obtain ⟨above, later⟩ := List.pairwise_cons.mp ordered
    rw [Members.insert]
    split
    · next below =>
      apply List.pairwise_cons.mpr
      refine ⟨fun entry member => ?_, ordered⟩
      rcases List.mem_cons.mp member with rfl | inside
      · exact below
      · exact lt_trans below (above entry inside)
    · next notBelow =>
      split
      · next same =>
        subst same
        exact List.pairwise_cons.mpr ⟨above, later⟩
      · next other =>
        apply List.pairwise_cons.mpr
        refine ⟨fun entry member => ?_, ih later⟩
        rcases mem_insert member with rfl | inside
        · exact lt_of_le_of_ne (not_lt.mp notBelow) (Ne.symm other)
        · exact above entry inside

/-! ## One list for what is found -/

theorem find?_eq_none_of_lt (above : ∀ entry ∈ members, key < entry.1) :
    Members.find? key members = none := by
  unfold Members.find?
  rw [List.lookup_eq_none_iff]
  intro entry member
  exact bne_iff_ne.mpr (ne_of_lt (above entry member))

/-- Members in order are told by what is found under each key. -/
theorem Ordered.eq_of_find? (first : Ordered members) (second : Ordered others)
    (same : ∀ key, Members.find? key members = Members.find? key others) : members = others := by
  induction members generalizing others with
  | nil =>
    cases others with
    | nil => rfl
    | cons entry rest =>
      have found := same entry.1
      rw [find?_cons, if_pos rfl] at found
      cases found
  | cons entry rest ih =>
    cases others with
    | nil =>
      have found := same entry.1
      rw [find?_cons, if_pos rfl] at found
      cases found
    | cons other behind =>
      obtain ⟨key, value⟩ := entry
      obtain ⟨name, content⟩ := other
      obtain ⟨above, later⟩ := List.pairwise_cons.mp first
      obtain ⟨higher, after⟩ := List.pairwise_cons.mp second
      -- The least key of each list is found in the other one.
      obtain rfl : key = name := by
        rcases lt_trichotomy key name with below | equal | below
        · have found := same key
          rw [find?_cons, if_pos rfl, find?_cons, if_neg (ne_of_lt below),
            find?_eq_none_of_lt fun entry member => lt_trans below (higher entry member)] at found
          cases found
        · exact equal
        · have found := same name
          rw [find?_cons, if_neg (ne_of_lt below), find?_cons, if_pos rfl,
            find?_eq_none_of_lt fun entry member => lt_trans below (above entry member)] at found
          cases found
      have found := same key
      rw [find?_cons, if_pos rfl, find?_cons, if_pos rfl] at found
      cases found
      congr 1
      apply ih later after
      intro other
      by_cases equal : other = key
      · rw [equal, find?_eq_none_of_lt above, find?_eq_none_of_lt higher]
      · have found := same other
        rwa [find?_cons, if_neg equal, find?_cons, if_neg equal] at found

/-- Where keys are in order, there is no more than one value for each. -/
theorem Ordered.valuesOf_eq (ordered : Ordered members) (key : String) :
    valuesOf key members = (Members.find? key members).toList := by
  induction members with
  | nil => rfl
  | cons entry rest ih =>
    obtain ⟨name, value⟩ := entry
    obtain ⟨above, later⟩ := List.pairwise_cons.mp ordered
    rw [find?_cons]
    by_cases same : key = name
    · subst same
      rw [valuesOf_cons_self, ih later, find?_eq_none_of_lt above, if_pos rfl]
      rfl
    · rw [valuesOf_cons_of_ne (Ne.symm same), ih later, if_neg same]

theorem Ordered.find?_of_mem (ordered : Ordered members) (member : (key, value) ∈ members) :
    Members.find? key members = some value := by
  have found : value ∈ valuesOf key members :=
    List.mem_map.mpr ⟨_, List.mem_filter.mpr ⟨member, beq_self_eq_true key⟩, rfl⟩
  rw [ordered.valuesOf_eq] at found
  exact Option.mem_toList.mp found

end EntitlementRules.Json
