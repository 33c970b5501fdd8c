import EntitlementRules.Proofs.Text.Split
import EntitlementRules.Proofs.Url.Percent
import EntitlementRules.Url.Reader

/-! Paths: the names that a path writes, and that names which are settled stay as they are. -/
namespace EntitlementRules.Url

variable {name : String} {folder names : List String} {chars : List Char} {c : Char}

/-! ## Names and texts -/

theorem splitWhere_eq_splitOnP (ends : Char → Bool) (chars : List Char) :
    splitWhere ends chars = chars.splitOnP ends := by
  induction chars with
  | nil => rfl
  | cons c rest ih =>
    obtain ⟨first, others, later⟩ := List.exists_cons_of_ne_nil (List.splitOnP_ne_nil ends rest)
    rw [splitWhere, List.splitOnP_cons_eq_if_modifyHead, ih, later]
    rfl

theorem names_eq (special : Bool) (chars : List Char) : Url.names special chars =
    (chars.splitOnP (isSlash special)).map fun name => String.ofList (Percent.encode Percent.paths name) := by
  rw [Url.names, splitWhere_eq_splitOnP]

theorem names_ne_nil (special : Bool) (chars : List Char) : Url.names special chars ≠ [] := by
  simp [names_eq, List.splitOnP_ne_nil]

theorem text_segments (names : List String) :
    (Path.segments names).text.toList = names.flatMap fun name => '/' :: name.toList := by
  simp [Path.text, String.toList_join, List.flatMap_map, String.toList_append]

/-- A path is its names with slashes between them, behind a slash. -/
theorem text_segments_eq (filled : names ≠ []) :
    (Path.segments names).text.toList = '/' :: ['/'].intercalate (names.map String.toList) := by
  rw [text_segments]
  induction names with
  | nil => exact absurd rfl filled
  | cons first others ih =>
    cases others with
    | nil => simp
    | cons second rest =>
      rw [List.flatMap_cons, ih (by simp)]
      simp

/-! ## Settled names -/

/-- A name that holds nothing to encode and no slash. -/
structure Clean (name : String) : Prop where
  encoded : Percent.Encoded Percent.paths name.toList
  whole : ∀ c ∈ name.toList, isSlash true c = false

/-- A name that stays as it is in a path: it is no step either. -/
structure SettledName (name : String) : Prop extends Clean name where
  double : isDoubleDot name = false
  single : isSingleDot name = false

theorem settled_empty : SettledName "" where
  encoded := nofun
  whole := nofun
  double := by decide
  single := by decide

theorem clean_of_mem_names (member : name ∈ Url.names true chars) : Clean name := by
  rw [names_eq] at member
  obtain ⟨part, inside, rfl⟩ := List.mem_map.mp member
  refine ⟨?_, fun c among => ?_⟩
  · rw [String.toList_ofList]
    exact Percent.encoded_encode Percent.paths_signs part
  · rw [String.toList_ofList] at among
    rcases Percent.mem_encode among with ⟨source, -⟩ | sign
    · exact (Text.mem_of_mem_splitOnP inside source).2
    · have plain : ∀ c ∈ Percent.signs, isSlash true c = false :=
        List.all_iff_forall_prop.mp (by decide)
      exact plain c sign

theorem mem_of_mem_parent (member : name ∈ parent folder) : name ∈ folder := by
  unfold parent at member
  split at member
  · split at member
    · exact member
    · exact List.dropLast_subset folder member
  · cases member

theorem settled_of_mem_resolve (known : ∀ name ∈ folder, SettledName name)
    (clean : ∀ name ∈ names, Clean name) (member : name ∈ resolve folder names) : SettledName name := by
  fun_induction resolve folder names with
  | case1 folder => exact known name member
  | case2 folder last up =>
    rcases List.mem_append.mp member with above | empty
    · exact known name (mem_of_mem_parent above)
    · cases List.mem_singleton.mp empty
      exact settled_empty
  | case3 folder last _ same =>
    rcases List.mem_append.mp member with inside | empty
    · exact known name inside
    · cases List.mem_singleton.mp empty
      exact settled_empty
  | case4 folder last up same =>
    rcases List.mem_append.mp member with inside | here
    · exact known name inside
    · cases List.mem_singleton.mp here
      exact ⟨clean _ (.head _), Bool.not_eq_true _ ▸ up, Bool.not_eq_true _ ▸ same⟩
  | case5 folder next rest _ up ih =>
    exact ih (fun name above => known name (mem_of_mem_parent above))
      (fun name later => clean name (.tail _ later)) member
  | case6 folder next rest _ _ same ih =>
    exact ih known (fun name later => clean name (.tail _ later)) member
  | case7 folder next rest _ up same ih =>
    refine ih (fun name inside => ?_) (fun name later => clean name (.tail _ later)) member
    rcases List.mem_append.mp inside with inside | here
    · exact known name inside
    · cases List.mem_singleton.mp here
      exact ⟨clean _ (.head _), Bool.not_eq_true _ ▸ up, Bool.not_eq_true _ ▸ same⟩

theorem resolve_settled (settled : ∀ name ∈ names, SettledName name) (folder : List String) :
    resolve folder names = folder ++ names := by
  induction names generalizing folder with
  | nil => rw [resolve, List.append_nil]
  | cons name rest ih =>
    have here := settled name (.head _)
    cases rest with
    | nil => simp [resolve, here.double, here.single]
    | cons next others =>
      rw [resolve, here.double, here.single, if_neg Bool.false_ne_true, if_neg Bool.false_ne_true,
        ih fun name later => settled name (.tail _ later)]
      · simp
      · simp

/-- Settled names with slashes between them are read as those names. -/
theorem names_intercalate (settled : ∀ name ∈ names, SettledName name) (filled : names ≠ []) :
    Url.names true (['/'].intercalate (names.map String.toList)) = names := by
  induction names with
  | nil => exact absurd rfl filled
  | cons name rest ih =>
    have here := settled name (.head _)
    have kept : String.ofList (Percent.encode Percent.paths name.toList) = name := by
      rw [Percent.encode_eq_self here.encoded, String.ofList_toList]
    rw [names_eq] at ih ⊢
    cases rest with
    | nil =>
      rw [List.map_singleton, List.intercalate_singleton, List.splitOnP_eq_singleton here.whole,
        List.map_singleton, kept]
    | cons next others =>
      have later := ih (fun name later => settled name (.tail _ later)) (by simp)
      rw [List.map_cons, List.map_cons, List.intercalate_cons_cons, List.append_assoc,
        List.singleton_append, List.splitOnP_append_cons_of_forall_mem here.whole _ rfl, List.map_cons, kept]
      exact congrArg _ later

end EntitlementRules.Url
