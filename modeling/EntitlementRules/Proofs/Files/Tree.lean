import EntitlementRules.Files.Tree
import EntitlementRules.Proofs.Procedure
import Mathlib.Data.List.Basic

/-! Files of a tree: what is written through a path is what the path leads to afterwards. -/
namespace EntitlementRules.Files

theorem stat_of_isFile {files : Files} {path : String} (there : files.isFile path = true) :
    files.stat path = .ok () := by
  cases stands : files.stat path with
  | ok => rfl
  | error refusal => simp [isFile, stands] at there

namespace Tree

variable {tree changed : Tree} {path name : String} {folder place other : Place} {entry : Entry}
  {content : Bytes}

/-- A path to a name in a folder, where a file is or can be made. -/
structure Target (tree : Tree) (path : String) (folder : Place) (name : String) : Prop where
  leads : ∃ steps, tree.steps path = .ok (steps ++ [name]) ∧ tree.walk [] steps = .ok folder
  standing : tree.at? folder = some .folder
  named : name ≠ "" ∧ name ≠ "." ∧ name ≠ ".."
  short : name.utf8ByteSize ≤ 255
  free : tree.at? (folder ++ [name]) ≠ some .folder

/-- A write succeeds where the path has a target, whatever is written. -/
theorem write_eq_ok_iff :
    tree.write path content = .ok changed ↔
      ∃ folder name, Target tree path folder name ∧
        changed = tree.set (folder ++ [name]) (.file content) := by
  constructor
  · intro written
    obtain ⟨steps, stepped, written⟩ := bind_eq_ok_iff.mp written
    cases last : steps.getLast? with
    | none => simp [last, throw, throwThe, MonadExceptOf.throw] at written
    | some name =>
      simp only [last] at written
      obtain ⟨folder, walked, written⟩ := bind_eq_ok_iff.mp written
      have whole := List.dropLast_append_getLast? name last
      refine ⟨folder, name, ?_⟩
      cases standing : tree.at? folder with
      | none => simp [standing, throw, throwThe, MonadExceptOf.throw] at written
      | some found =>
        cases found with
        | file known => simp [standing, throw, throwThe, MonadExceptOf.throw] at written
        | folder =>
          simp only [standing] at written
          split_ifs at written with reserved long occupied
          cases written
          refine ⟨⟨⟨steps.dropLast, by rw [whole]; exact stepped, walked⟩, standing, ?_,
            Nat.not_lt.mp long, occupied⟩, rfl⟩
          simpa [not_or, and_assoc] using reserved
  · rintro ⟨folder, name, target, rfl⟩
    obtain ⟨steps, stepped, walked⟩ := target.leads
    obtain ⟨some, single, double⟩ := target.named
    have short : ¬ 255 < name.utf8ByteSize := Nat.not_lt.mpr target.short
    simp [write, stepped, walked, target.standing, target.free, some, single, double, short,
      bind, Except.bind, pure, Except.pure]

@[simp] theorem at?_set_self : (tree.set place entry).at? place = some entry := by
  simp [at?, set]

theorem lookup_set (elsewhere : other ≠ place) :
    (tree.set place entry).entries.lookup other = tree.entries.lookup other := by
  have different : (other == place) = false := by simpa using elsewhere
  rw [set, List.lookup_cons, different]
  induction tree.entries with
  | nil => rfl
  | cons known rest ih =>
    obtain ⟨inner, held⟩ := known
    by_cases here : inner = place
    · subst inner
      simpa [List.lookup_cons, different] using ih
    · simp only [List.filter_cons, bne_iff_ne, ne_eq, here, not_false_eq_true, ↓reduceIte,
        List.lookup_cons]
      cases other == inner with
      | true => rfl
      | false => exact ih

/-- A folder has an entry of its own or stands above some entry. -/
theorem at?_eq_folder_iff :
    tree.at? place = some .folder ↔
      tree.entries.lookup place = some .folder ∨ tree.entries.lookup place = none ∧
        (place = [] ∨ ∃ held ∈ tree.entries, below place held.1 = true) := by
  unfold at?
  cases tree.entries.lookup place with
  | some known => simp
  | none => simp [← or_iff_not_imp_left]

theorem at?_set_folder (elsewhere : other ≠ place) (standing : tree.at? other = some .folder) :
    (tree.set place entry).at? other = some .folder := by
  rw [at?_eq_folder_iff] at standing ⊢
  rw [lookup_set elsewhere]
  rcases standing with own | ⟨missing, above⟩
  · exact .inl own
  · refine .inr ⟨missing, ?_⟩
    rcases above with top | ⟨held, member, above⟩
    · exact .inl top
    · by_cases here : held.1 = place
      · exact .inr ⟨(place, entry), List.mem_cons_self, here ▸ above⟩
      · have kept : held ∈ tree.entries.filter (·.1 != place) :=
          List.mem_filter.mpr ⟨member, by simpa using here⟩
        exact .inr ⟨held, List.mem_cons_of_mem _ kept, above⟩

theorem walk_append (start : Place) (first rest : List String) :
    tree.walk start (first ++ rest) = tree.walk start first >>= (tree.walk · rest) := by
  induction first generalizing start with
  | nil => rfl
  | cons step later ih =>
    rw [List.cons_append, walk, walk]
    cases tree.at? start with
    | none => rfl
    | some entry =>
      cases entry with
      | file content => rfl
      | folder =>
        simp only [ih]
        split_ifs <;> rfl

/-- A walk passes through folders only, so a file set elsewhere is not on its way. -/
theorem walk_set (free : tree.at? place ≠ some .folder) {start : Place} {steps : List String}
    (walked : tree.walk start steps = .ok folder) :
    (tree.set place entry).walk start steps = .ok folder := by
  induction steps generalizing start with
  | nil => exact walked
  | cons step rest ih =>
    rw [walk] at walked ⊢
    cases standing : tree.at? start with
    | none => simp [standing] at walked
    | some found =>
      cases found with
      | file content => simp [standing] at walked
      | folder =>
        have elsewhere : start ≠ place := by
          rintro rfl
          exact free standing
        rw [at?_set_folder elsewhere standing]
        simp only [standing] at walked ⊢
        split_ifs at walked ⊢
        · exact ih walked
        · exact ih walked
        · exact ih walked

theorem read_view_of_write (written : tree.write path content = .ok changed) :
    changed.view.read path = .ok content := by
  obtain ⟨folder, name, target, rfl⟩ := write_eq_ok_iff.mp written
  obtain ⟨steps, stepped, walked⟩ := target.leads
  obtain ⟨some, single, double⟩ := target.named
  have short : ¬ 255 < name.utf8ByteSize := Nat.not_lt.mpr target.short
  have elsewhere : folder ≠ folder ++ [name] := by simp
  have arrives : (tree.set (folder ++ [name]) (.file content)).walk [] (steps ++ [name]) =
      .ok (folder ++ [name]) := by
    rw [walk_append, walk_set target.free walked]
    change walk _ folder [name] = _
    rw [walk, at?_set_folder elsewhere target.standing]
    simp [some, single, double, short, walk]
  have found : (tree.set (folder ++ [name]) (.file content)).find path =
      .ok (folder ++ [name], .file content) := by
    have leads : (tree.set (folder ++ [name]) (.file content)).steps path = .ok (steps ++ [name]) :=
      stepped
    simp [find, leads, arrives, bind, Except.bind, pure, Except.pure]
  simp [view, found]
  rfl

/-- A path that leads to a folder. -/
def LeadsToFolder (tree : Tree) (path : String) : Prop := ∃ place, tree.find path = .ok (place, .folder)

theorem view_cases (tree : Tree) (path : String) :
    (∃ content, tree.view.read path = .ok content ∧ tree.view.stat path = .ok () ∧ ¬ tree.LeadsToFolder path) ∨
      (tree.view.read path = .error .isFolder ∧ tree.view.stat path = .ok () ∧ tree.LeadsToFolder path) ∨
      ∃ refusal, tree.view.read path = .error refusal ∧ tree.view.stat path = .error refusal := by
  simp only [view, LeadsToFolder]
  cases tree.find path with
  | error refusal => exact .inr (.inr ⟨refusal, rfl, rfl⟩)
  | ok leading =>
    obtain ⟨place, entry⟩ := leading
    cases entry with
    | file content => exact .inl ⟨content, rfl, rfl, by simp⟩
    | folder => exact .inr (.inl ⟨rfl, rfl, place, rfl⟩)

theorem read_fails_iff (stands : tree.view.stat path = .ok ()) :
    (∃ refusal, tree.view.read path = .error refusal) ↔ tree.LeadsToFolder path := by
  rcases tree.view_cases path with ⟨content, read, -, other⟩ | ⟨unread, -, leads⟩ | ⟨refusal, -, missing⟩
  · simp [read, other]
  · simp [unread, leads]
  · cases missing.symm.trans stands

end Tree

end EntitlementRules.Files
