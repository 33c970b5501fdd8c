import EntitlementRules.Proofs.Json.Integer
import EntitlementRules.Proofs.Json.Ordered

/-! The values that are read: integers that fit 64 bits, members in order, and not nested too deep. -/
namespace EntitlementRules.Json

variable {α : Type} {text : Bytes} {value : Json} {depth : Nat} {entries : List (String × Json)}

/-- A value as it is read where no more than `depth` arrays and objects may be open at once. -/
inductive Regular : (depth : Nat) → Json → Prop where
  | null {depth : Nat} : Regular depth .null
  | bool {depth : Nat} (flag : Bool) : Regular depth (.bool flag)
  | integer {depth : Nat} {value : Int} (fits : InRange value) : Regular depth (.number (.integer value))
  | float {depth : Nat} (value : Binary64) : Regular depth (.number (.float value))
  | string {depth : Nat} (text : String) : Regular depth (.string text)
  | array {depth : Nat} {items : List Json} (parts : ∀ item ∈ items, Regular depth item) :
      Regular (depth + 1) (.array items)
  | object {depth : Nat} {members : Members} (ordered : Ordered members)
      (parts : ∀ member ∈ members, Regular depth member.2) : Regular (depth + 1) (.object members)

theorem Listing.exists_written {item : α → Bytes → Prop} {values : List α}
    (listing : Listing item values text) : ∀ value ∈ values, ∃ part, item value part := by
  induction listing with
  | last _ written _ =>
    intro value member
    cases List.mem_singleton.mp member
    exact ⟨_, written⟩
  | next _ written _ _ ih =>
    intro value member
    rcases List.mem_cons.mp member with rfl | later
    · exact ⟨_, written⟩
    · exact ih value later

theorem Group.exists_written {item : α → Bytes → Prop} {values : List α}
    (group : Group item values text) : ∀ value ∈ values, ∃ part, item value part := by
  cases group with
  | empty _ => nofun
  | filled listing => exact listing.exists_written

theorem ordered_foldl {members : Members} (ordered : Ordered members) :
    Ordered (entries.foldl (fun all entry => Members.insert entry.1 entry.2 all) members) := by
  induction entries generalizing members with
  | nil => exact ordered
  | cons entry rest ih => exact ih (ordered.insert entry.1 entry.2)

theorem mem_foldl_insert {members : Members} {member : String × Json}
    (inside : member ∈ entries.foldl (fun all entry => Members.insert entry.1 entry.2 all) members) :
    member ∈ entries ∨ member ∈ members := by
  induction entries generalizing members with
  | nil => exact .inr inside
  | cons entry rest ih =>
    rcases ih inside with later | before
    · exact .inl (.tail _ later)
    · rcases mem_insert before with rfl | old
      · exact .inl (.head _)
      · exact .inr old

theorem regular_of_scalar (spelled : Scalar StandsFor value text) : Regular depth value := by
  cases spelled with
  | null => exact .null
  | true => exact .bool true
  | false => exact .bool false
  | string _ => exact .string _
  | @number number _ _ stands =>
    cases number with
    | integer value => exact .integer stands.inRange
    | float value => exact .float value

theorem regular_of_spells (spelled : Spells StandsFor depth value text) : Regular depth value := by
  induction depth generalizing value text with
  | zero => exact regular_of_scalar spelled
  | succ depth ih =>
    cases spelled with
    | scalar scalar => exact regular_of_scalar scalar
    | array group =>
      apply Regular.array
      intro item member
      obtain ⟨part, written⟩ := group.exists_written item member
      exact ih written
    | object group =>
      -- A member that was set later may have taken the place of an earlier one.
      apply Regular.object (ordered_foldl .nil)
      intro member inside
      rcases mem_foldl_insert inside with given | none
      · obtain ⟨part, written⟩ := group.exists_written member given
        cases written with
        | named _ _ _ written => exact ih written
      · cases none

theorem insert_of_lt {key : String} {content : Json} {members : Members}
    (below : ∀ member ∈ members, member.1 < key) :
    Members.insert key content members = members ++ [(key, content)] := by
  induction members with
  | nil => rfl
  | cons first rest ih =>
    have less := below first (.head _)
    rw [Members.insert, if_neg (lt_asymm less), if_neg (ne_of_gt less),
      ih fun member inside => below member (.tail _ inside)]
    rfl

theorem foldl_insert_of_ordered {members : Members} (ordered : Ordered (members ++ entries)) :
    entries.foldl (fun all entry => Members.insert entry.1 entry.2 all) members = members ++ entries := by
  induction entries generalizing members with
  | nil => exact (List.append_nil members).symm
  | cons entry rest ih =>
    have whole : members ++ entry :: rest = members ++ [entry] ++ rest := by simp
    have below : ∀ member ∈ members, member.1 < entry.1 := fun member inside =>
      (List.pairwise_append.mp ordered).2.2 member inside entry (.head _)
    rw [whole] at ordered ⊢
    rw [List.foldl_cons, insert_of_lt below]
    exact ih ordered

/-- Setting members that are in order one after another leaves them as they are. -/
theorem ofMembers_of_ordered {members : Members} (ordered : Ordered members) :
    ofMembers members = .object members :=
  congrArg Json.object (foldl_insert_of_ordered ordered)

end EntitlementRules.Json
