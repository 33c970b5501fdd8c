import EntitlementRules.Text.Split

/-! Splitting: what the parts of a text hold, and how parts that were put together are split again. -/
namespace EntitlementRules.Text

variable {separator c : Char} {part rest : List Char} {parts : List (List Char)}

/-! ## Members -/

/-- A part holds items of the whole, but none at which it is split. -/
theorem mem_of_mem_splitOnP {α : Type} {ends : α → Bool} {items part : List α} {item : α}
    (inside : part ∈ items.splitOnP ends) (member : item ∈ part) : item ∈ items ∧ ends item = false := by
  induction items generalizing part with
  | nil =>
    rw [List.splitOnP_nil] at inside
    cases List.mem_singleton.mp inside
    cases member
  | cons next rest ih =>
    obtain ⟨first, others, later⟩ := List.exists_cons_of_ne_nil (List.splitOnP_ne_nil ends rest)
    rw [List.splitOnP_cons_eq_if_modifyHead] at inside
    rw [later] at inside ih
    split at inside
    · rcases List.mem_cons.mp inside with rfl | behind
      · cases member
      · exact (ih behind member).imp_left (.tail _)
    · next goes =>
      rw [List.modifyHead_cons] at inside
      rcases List.mem_cons.mp inside with rfl | behind
      · rcases List.mem_cons.mp member with rfl | more
        · exact ⟨.head _, Bool.not_eq_true _ ▸ goes⟩
        · exact (ih (.head _) more).imp_left (.tail _)
      · exact (ih (.tail _ behind) member).imp_left (.tail _)

theorem mem_intercalate {between : List Char} (member : c ∈ between.intercalate parts) :
    c ∈ between ∨ ∃ part ∈ parts, c ∈ part := by
  induction parts with
  | nil => cases member
  | cons first others ih =>
    cases others with
    | nil =>
      rw [List.intercalate_singleton] at member
      exact .inr ⟨first, .head _, member⟩
    | cons second rest =>
      rw [List.intercalate_cons_cons, List.mem_append, List.mem_append] at member
      rcases member with (here | parting) | later
      · exact .inr ⟨first, .head _, here⟩
      · exact .inl parting
      · exact (ih later).imp_right fun ⟨part, inside, among⟩ => ⟨part, .tail _ inside, among⟩

/-! ## Doubled characters -/

theorem splitDoubled_hit (separator : Char) (rest : List Char) :
    splitDoubled separator (separator :: separator :: rest) = [] :: splitDoubled separator rest := by
  rw [splitDoubled, if_pos ⟨rfl, rfl⟩]

theorem splitDoubled_single (other : c ≠ separator) :
    splitDoubled separator (separator :: c :: rest) =
      (splitDoubled separator (c :: rest)).modifyHead (separator :: ·) := by
  rw [splitDoubled, if_neg fun doubled => other doubled.2]

theorem splitDoubled_other (other : c ≠ separator) :
    splitDoubled separator (c :: rest) = (splitDoubled separator rest).modifyHead (c :: ·) := by
  cases rest with
  | nil => rfl
  | cons d rest => rw [splitDoubled, if_neg fun doubled => other doubled.1]

theorem splitDoubled_run (bare : separator ∉ part) :
    splitDoubled separator (part ++ rest) = (splitDoubled separator rest).modifyHead (part ++ ·) := by
  induction part with
  | nil => exact (congrFun List.modifyHead_id _).symm
  | cons c part ih =>
    rw [List.mem_cons, not_or] at bare
    rw [List.cons_append, splitDoubled_other (Ne.symm bare.1), ih bare.2, List.modifyHead_modifyHead]
    rfl

/-- Single characters between filled parts are not doubled ones. -/
theorem splitDoubled_intercalate (bare : ∀ part ∈ parts, part ≠ [] ∧ separator ∉ part) :
    splitDoubled separator ([separator].intercalate parts ++ rest) =
      (splitDoubled separator rest).modifyHead ([separator].intercalate parts ++ ·) := by
  induction parts with
  | nil => exact (congrFun List.modifyHead_id _).symm
  | cons first others ih =>
    have here := (bare first (.head _)).2
    have later := ih fun part inside => bare part (.tail _ inside)
    cases others with
    | nil =>
      rw [List.intercalate_singleton]
      exact splitDoubled_run here
    | cons second others =>
      obtain ⟨filled, free⟩ := bare second (.tail _ (.head _))
      obtain ⟨c, more, rfl⟩ := List.exists_cons_of_ne_nil filled
      have starts : ∃ after, [separator].intercalate ((c :: more) :: others) = c :: after := by
        cases others with
        | nil => exact ⟨_, List.intercalate_singleton⟩
        | cons third others => exact ⟨_, by rw [List.intercalate_cons_cons]; rfl⟩
      obtain ⟨after, starts⟩ := starts
      have other : c ≠ separator := fun same => free (same ▸ .head _)
      rw [starts] at later
      rw [List.intercalate_cons_cons, starts, List.append_assoc, List.append_assoc, splitDoubled_run here,
        List.singleton_append, List.cons_append, splitDoubled_single other, ← List.cons_append, later,
        List.modifyHead_modifyHead, List.modifyHead_modifyHead]
      simp only [Function.comp_def, List.append_assoc, List.cons_append]
      rfl

end EntitlementRules.Text
