import EntitlementRules.Url.Domain

/-! ASCII text: none of its characters is a mark or a joiner, and none is written from right to left. -/
namespace EntitlementRules.Unicode

open String (ofList)

variable {c : Char} {text : List Char}

set_option maxRecDepth 20000 in
theorem markRuns_foreign : ∀ run ∈ markRuns, 128 ≤ run.first := by
  have read : ∃ chars, markRuns = Run.table (ofList chars) ∧
      (Run.ofChars chars).all (128 ≤ ·.first) = true := ⟨_, rfl, by decide +kernel⟩
  obtain ⟨chars, same, foreign⟩ := read
  rw [same, Run.table, String.toList_ofList]
  simpa using foreign

set_option maxRecDepth 20000 in
theorem directionRuns_foreign : ∀ run ∈ directionRuns, 128 ≤ run.first ∨ 1 < run.values.headD 0 := by
  have read : ∃ chars, directionRuns = Run.table (ofList chars) ∧
      (Run.ofChars chars).all (fun run => 128 ≤ run.first || 1 < run.values.headD 0) = true :=
    ⟨_, rfl, by decide +kernel⟩
  obtain ⟨chars, same, foreign⟩ := read
  rw [same, Run.table, String.toList_ofList]
  simpa using foreign

theorem find?_eq_some {runs : List Run} {run : Run} (found : find? runs c = some run) :
    run ∈ runs ∧ run.first ≤ c.toNat := by
  have covers := List.find?_some found
  simp only [Run.contains, Bool.and_eq_true, decide_eq_true_eq] at covers
  exact ⟨List.mem_of_find?_eq_some found, covers.1⟩

theorem isMark_ascii (ascii : c.toNat < 128) : isMark c = false := by
  rw [isMark, Option.isSome_eq_false_iff, Option.isNone_iff_eq_none]
  refine Option.eq_none_iff_forall_ne_some.mpr fun run found => ?_
  obtain ⟨inside, covers⟩ := find?_eq_some found
  have foreign := markRuns_foreign run inside
  omega

theorem turns_ascii (ascii : c.toNat < 128) : (direction c).turns = false := by
  unfold direction
  cases found : find? directionRuns c with
  | none => rfl
  | some run =>
    obtain ⟨inside, covers⟩ := find?_eq_some found
    rcases directionRuns_foreign run inside with foreign | other
    · omega
    · change ((directions[run.values.headD 0]?).getD .leftToRight).turns = false
      match run.values.headD 0, other with
      | 2, _ | 3, _ | 4, _ | 5, _ | _ + 6, _ => rfl

theorem joinersFit_ascii (ascii : ∀ c ∈ text, c.toNat < 128) (before : List Char) :
    joinersFit before text = true := by
  induction text generalizing before with
  | nil => rfl
  | cons c rest ih =>
    have low := ascii c (.head _)
    rw [joinersFit, ih fun other member => ascii other (.tail _ member)]
    split
    · omega
    · omega
    · rfl

end EntitlementRules.Unicode
