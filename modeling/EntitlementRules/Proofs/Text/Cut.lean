import EntitlementRules.Text.Blank
import Mathlib.Data.List.TakeDrop
import Mathlib.Data.List.TakeWhile

/-! Cutting: where a list is parted that starts with what is taken, and a text at the first of its
separators. -/
namespace EntitlementRules.Text

variable {α : Type} {takes : α → Bool} {front rest : List α}

theorem bne_of_not_mem [BEq α] [LawfulBEq α] {separator : α} (absent : separator ∉ front) :
    ∀ item ∈ front, (item != separator) = true := fun item member => by
  rw [bne_iff_ne]
  rintro rfl
  exact absent member

/-- A run is taken up to the first item that does not belong to it. -/
theorem span_append (taken : ∀ item ∈ front, takes item = true)
    (ends : ∀ item, rest.head? = some item → takes item = false) :
    (front ++ rest).span takes = (front, rest) := by
  rw [List.span_eq_takeWhile_dropWhile, List.takeWhile_append_of_pos taken,
    List.dropWhile_append_of_pos taken]
  cases rest with
  | nil => simp
  | cons item others => simp [ends item rfl]

theorem span_all (taken : ∀ item ∈ front, takes item = true) : front.span takes = (front, []) := by
  have whole : (front ++ []).span takes = (front, []) := span_append taken (by simp)
  simpa using whole

/-- A text is cut between two parts exactly where the first holds no separator. -/
theorem cut?_eq_some_iff {separator : Char} {before after : String} :
    cut? separator (before ++ String.singleton separator ++ after) = some (before, after) ↔
      separator ∉ before.toList := by
  have whole : (before ++ String.singleton separator ++ after).toList =
      before.toList ++ separator :: after.toList := by
    simp [String.toList_append]
  unfold cut?
  rw [whole]
  constructor
  · intro cut inside
    rw [List.span_eq_takeWhile_dropWhile] at cut
    split at cut
    · next start c rest parts =>
      -- The run that is taken holds no separator, and it is all of the first part.
      have start : String.ofList start = before := (Prod.mk.inj (Option.some.inj cut)).1
      have run := (Prod.mk.inj parts).1
      rw [← String.toList_inj, String.toList_ofList] at start
      rw [← start, ← run] at inside
      simpa using List.mem_takeWhile_imp inside
    · cases cut
  · intro absent
    rw [span_append (bne_of_not_mem absent) (by simp)]
    simp

theorem cut?_eq_none {separator : Char} {text : String} (absent : separator ∉ text.toList) :
    cut? separator text = none := by
  rw [cut?, span_all (bne_of_not_mem absent)]

end EntitlementRules.Text
