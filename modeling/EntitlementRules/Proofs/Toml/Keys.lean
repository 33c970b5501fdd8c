import EntitlementRules.Toml.Reader
import Mathlib.Data.String.Basic
import Mathlib.Data.List.Sort

/-! Keys of a configuration text: the table that a text writes has each of its keys once, in ascending
order. -/
namespace EntitlementRules.Toml

variable {key : String} {draft : Draft} {text : List Char} {line : Line} {progress next : Progress}
  {root : TableDraft}

namespace TableDraft

variable {table changed : TableDraft} {path : List String} {made : Origin} {element : Bool}
  {value : Toml} {change : TableDraft → Option TableDraft}

/-- A table in the making with each key once. -/
def Distinct (table : TableDraft) : Prop := (table.entries.map Prod.fst).Nodup

theorem Distinct.set (distinct : table.Distinct) : (table.set key draft).Distinct := by
  have kept : ((table.entries.filter (·.1 != key)).map Prod.fst).Nodup :=
    distinct.sublist (List.filter_sublist.map _)
  have fresh : key ∉ (table.entries.filter (·.1 != key)).map Prod.fst := by
    simp
  unfold Distinct TableDraft.set
  rw [List.map_append, List.map_singleton, ← List.concat_eq_append]
  exact kept.concat fresh

/-- A change that is made further down sets one entry of the table. -/
theorem Distinct.alterAt (keeps : ∀ here changed : TableDraft, here.Distinct → change here = some changed →
      changed.Distinct) (distinct : table.Distinct)
    (altered : alterAt made change path table = some changed) : changed.Distinct := by
  cases path with
  | nil => exact keeps _ _ distinct altered
  | cons key path =>
    rw [TableDraft.alterAt] at altered
    split at altered
    · obtain ⟨_, -, same⟩ := Option.bind_eq_some_iff.mp altered
      cases same
      exact distinct.set
    · cases altered
    · split at altered
      · cases altered
      · obtain ⟨_, -, same⟩ := Option.bind_eq_some_iff.mp altered
        cases same
        exact distinct.set
    · obtain ⟨_, -, same⟩ := Option.bind_eq_some_iff.mp altered
      cases same
      exact distinct.set

theorem Distinct.addPair (distinct : table.Distinct) (added : table.addPair path value = some changed) :
    changed.Distinct := by
  unfold TableDraft.addPair at added
  split at added
  · cases added
  · refine distinct.alterAt (fun here changed distinct added => ?_) added
    unfold addValue at added
    split_ifs at added
    cases added
    exact distinct.set

theorem Distinct.openHeader (distinct : table.Distinct)
    (opened : table.openHeader element path = some changed) : changed.Distinct := by
  unfold TableDraft.openHeader at opened
  split at opened
  · cases opened
  · refine distinct.alterAt (fun here changed distinct opened => ?_) opened
    cases element with
    | true =>
      simp only [↓reduceIte, openElement] at opened
      split at opened <;> cases opened <;> exact distinct.set
    | false =>
      simp only [Bool.false_eq_true, ↓reduceIte, openTable] at opened
      split at opened <;> cases opened <;> exact distinct.set

end TableDraft

theorem Progress.distinct_take (distinct : progress.root.Distinct)
    (taken : progress.take line = some next) : next.root.Distinct := by
  cases line with
  | blank =>
    cases taken
    exact distinct
  | header element path =>
    obtain ⟨root, opened, same⟩ := Option.bind_eq_some_iff.mp taken
    cases same
    exact distinct.openHeader opened
  | pair path value =>
    obtain ⟨root, altered, same⟩ := Option.bind_eq_some_iff.mp taken
    cases same
    exact distinct.alterAt (fun _ _ distinct => distinct.addPair) altered

theorem distinct_lines (distinct : progress.root.Distinct) (read : lines progress text = some root) :
    root.Distinct := by
  induction progress, text using lines.induct with
  | case1 progress text line found next taken ih =>
    rw [lines, found] at read
    simp only [taken] at read
    exact ih (Progress.distinct_take distinct taken) read
  | case2 progress text line found refused =>
    rw [lines, found] at read
    simp only [refused] at read
    cases read
  | case3 progress text ended done =>
    rw [lines, ended] at read
    simp only [done, ↓reduceIte] at read
    cases read
    exact distinct
  | case4 progress text ended more =>
    rw [lines, ended] at read
    simp only [more, Bool.false_eq_true, ↓reduceIte] at read
    cases read

theorem keys_finishEntries (entries : List (String × Draft)) :
    (Draft.finishEntries entries).map Prod.fst = entries.map Prod.fst := by
  induction entries with
  | nil => rfl
  | cons entry rest ih => rw [Draft.finishEntries, List.map_cons, ih, List.map_cons]

/-- A table that was read has the members that its lines make. -/
theorem exists_parse {content : String} (unmarked : content.toList.head? ≠ some '\ufeff')
    (read : lines {} content.toList = some root) :
    ∃ table, parse content = some table ∧ table.Perm root.finish := by
  refine ⟨_, ?_, List.mergeSort_perm root.finish fun a b => a.1 ≤ b.1⟩
  simp only [parse, if_neg unmarked, read, Option.map_some]

/-- The keys of a table that was read ascend, so none is repeated. -/
theorem ascending_of_parse {content : String} {table : Table} (parsed : parse content = some table) :
    table.Pairwise (·.1 < ·.1) := by
  obtain ⟨root, read, rfl⟩ := Option.map_eq_some_iff.mp parsed
  have empty : ({} : Progress).root.Distinct := List.nodup_nil
  have distinct : root.Distinct := distinct_lines empty read
  have sorted : (root.finish.mergeSort fun a b => a.1 ≤ b.1).Pairwise (·.1 ≤ ·.1) := by
    refine (List.pairwise_mergeSort (fun a b c first second => ?_) (fun a b => ?_) root.finish).imp
      of_decide_eq_true
    · exact decide_eq_true (le_trans (of_decide_eq_true first) (of_decide_eq_true second))
    · rw [Bool.or_eq_true, decide_eq_true_eq, decide_eq_true_eq]
      exact le_total a.1 b.1
  have once : (root.finish.mergeSort fun a b => a.1 ≤ b.1).Pairwise (·.1 ≠ ·.1) := by
    rw [(List.mergeSort_perm _ _).pairwise_iff Ne.symm, ← List.pairwise_map, TableDraft.finish,
      keys_finishEntries]
    exact distinct
  exact (sorted.and once).imp fun ⟨below, apart⟩ => lt_of_le_of_ne below apart

end EntitlementRules.Toml
