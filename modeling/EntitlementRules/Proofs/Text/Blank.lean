import EntitlementRules.Text.Blank
import Mathlib.Data.List.TakeWhile

/-! Trimming: blanks around a text make no difference, and none are left at its ends. -/
namespace EntitlementRules.Text

variable {chars before after : List Char} {c : Char}

theorem dropBlanks_append (blank : ∀ c ∈ before, isBlank c = true) :
    (before ++ chars).dropWhile isBlank = chars.dropWhile isBlank := by
  induction before with
  | nil => rfl
  | cons c rest ih =>
    rw [List.cons_append, List.dropWhile_cons_of_pos (blank c (.head _))]
    exact ih fun other member => blank other (.tail _ member)

theorem dropBlankEnd_append (blank : ∀ c ∈ after, isBlank c = true) :
    dropBlankEnd (chars ++ after) = dropBlankEnd chars := by
  rw [dropBlankEnd, dropBlankEnd, List.reverse_append, dropBlanks_append]
  intro c member
  exact blank c (List.mem_reverse.mp member)

/-- The blanks at the start and those at the end can be taken off in either order. -/
theorem dropBlanks_append_end (blank : ∀ c ∈ after, isBlank c = true) :
    dropBlankEnd ((chars ++ after).dropWhile isBlank) = dropBlankEnd (chars.dropWhile isBlank) := by
  induction chars with
  | nil => rw [List.nil_append, ← List.append_nil after, dropBlanks_append blank]
  | cons c rest ih =>
    by_cases first : isBlank c = true
    · rw [List.cons_append, List.dropWhile_cons_of_pos first, List.dropWhile_cons_of_pos first]
      exact ih
    · rw [List.cons_append, List.dropWhile_cons_of_neg first, List.dropWhile_cons_of_neg first,
        ← List.cons_append]
      exact dropBlankEnd_append blank

theorem trim_around {leading text trailing : String} (before : ∀ c ∈ leading.toList, isBlank c = true)
    (after : ∀ c ∈ trailing.toList, isBlank c = true) : trim (leading ++ text ++ trailing) = trim text := by
  rw [trim, trim, String.toList_append, String.toList_append, List.append_assoc, dropBlanks_append before,
    dropBlanks_append_end after]

theorem exists_blanks_around (text : String) :
    ∃ leading trailing, text = leading ++ trim text ++ trailing ∧
      (∀ c ∈ leading.toList, isBlank c = true) ∧ ∀ c ∈ trailing.toList, isBlank c = true := by
  have front : text.toList.takeWhile isBlank ++ text.toList.dropWhile isBlank = text.toList :=
    List.takeWhile_append_dropWhile
  have back (chars : List Char) :
      dropBlankEnd chars ++ (chars.reverse.takeWhile isBlank).reverse = chars := by
    rw [dropBlankEnd, ← List.reverse_append, List.takeWhile_append_dropWhile, List.reverse_reverse]
  refine ⟨String.ofList (text.toList.takeWhile isBlank),
    String.ofList ((text.toList.dropWhile isBlank).reverse.takeWhile isBlank).reverse, ?_, ?_, ?_⟩
  · rw [trim, ← String.toList_inj, String.toList_append, String.toList_append, String.toList_ofList,
      String.toList_ofList, String.toList_ofList, List.append_assoc, back, front]
  · intro c member
    rw [String.toList_ofList] at member
    exact List.mem_takeWhile_imp member
  · intro c member
    rw [String.toList_ofList, List.mem_reverse] at member
    exact List.mem_takeWhile_imp member

theorem mem_of_mem_trim {text : String} (member : c ∈ (trim text).toList) : c ∈ text.toList := by
  rw [trim, String.toList_ofList, dropBlankEnd, List.mem_reverse] at member
  have inside := (List.dropWhile_sublist isBlank).subset member
  exact (List.dropWhile_sublist isBlank).subset (List.mem_reverse.mp inside)

theorem isBlank_of_getLast?_trim {text : String} (last : (trim text).toList.getLast? = some c) :
    isBlank c = false := by
  rw [trim, String.toList_ofList, dropBlankEnd, List.getLast?_reverse] at last
  have stopped := List.head?_dropWhile_not isBlank (text.toList.dropWhile isBlank).reverse
  rw [last] at stopped
  exact stopped

theorem trim_eq_self_of_ends {text : String} {last : Char} (first : text.toList.head? = some c)
    (visible : isBlank c = false)
    (ends : text.toList.getLast? = some last) (solid : isBlank last = false) : trim text = text := by
  have opens : text.toList.dropWhile isBlank = text.toList := by
    cases chars : text.toList with
    | nil => rfl
    | cons b rest =>
      rw [chars] at first
      cases first
      exact List.dropWhile_cons_of_neg (by simp [visible])
  have closes : text.toList.reverse.dropWhile isBlank = text.toList.reverse := by
    rw [← List.head?_reverse] at ends
    cases chars : text.toList.reverse with
    | nil => rfl
    | cons b rest =>
      rw [chars] at ends
      cases ends
      exact List.dropWhile_cons_of_neg (by simp [solid])
  rw [trim, opens, dropBlankEnd, closes, List.reverse_reverse, String.ofList_toList]

end EntitlementRules.Text
