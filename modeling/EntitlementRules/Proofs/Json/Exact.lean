import EntitlementRules.Proofs.Json.Numeral
import EntitlementRules.Proofs.Json.Whole

/-! Exact readers: they take what is written for values and nothing else. Arrays and objects are read exactly
where their items and members are. -/
namespace EntitlementRules.Json

variable {α β σ : Type} {text part rest inside before after : Bytes} {b : UInt8}

/-- A reader takes the texts that are written for values, each as what is made of its value, and no others. -/
structure Exact (reader : Reader β) (written : α → Bytes → Prop) (make : α → Option β) : Prop where
  opens {value : α} {text : Bytes} (spelled : written value text) :
    ∃ b others, text = b :: others ∧ isBlank b = false ∧ b ≠ Ascii.closeBracket ∧ b ≠ Ascii.closeBrace
  complete {value : α} {text rest : Bytes} (spelled : written value text) (ended : Ended rest) :
    taken (reader (text ++ rest)) = (make value).map (·, rest)
  sound {text rest : Bytes} {result : β} (read : taken (reader text) = some (result, rest))
      (ended : Ended rest) :
    ∃ value part, text = part ++ rest ∧ written value part ∧ make value = some result

theorem ended_of_blanks (blanks : Blanks after) (stops : Ended rest) : Ended (after ++ rest) := by
  cases after with
  | nil => exact stops
  | cons b others =>
    rintro _ ⟨⟩
    rcases blanks b (.head _) with rfl | rfl | rfl | rfl <;> decide

theorem ended_comma : Ended (Ascii.comma :: rest) := by
  rintro _ ⟨⟩
  decide

theorem ended_closeBracket : Ended (Ascii.closeBracket :: rest) := by
  rintro _ ⟨⟩
  decide

theorem ended_closeBrace : Ended (Ascii.closeBrace :: rest) := by
  rintro _ ⟨⟩
  decide

theorem skipBlanks_around (blanks : Blanks before) (solid : isBlank b = false) :
    skipBlanks (before ++ b :: rest) = b :: rest := by
  rw [skipBlanks_append blanks, skipBlanks_solid solid]

theorem exists_blanks_of_skipBlanks (found : skipBlanks text = b :: rest) :
    ∃ before, Blanks before ∧ text = before ++ b :: rest := by
  obtain ⟨before, blanks, same⟩ := exists_blanks text
  exact ⟨before, blanks, found ▸ same⟩

/-! ## Items -/

/-- An item and those after it, up to the closing bracket. -/
def listed (item : Reader β) (text : Bytes) : Option (List β × Bytes) :=
  (taken (item (skipBlanks text))).bind fun first =>
    (taken (moreItems item first.2)).map fun more => (first.1 :: more.1, more.2)

variable {item : Reader β} {written : α → Bytes → Prop} {make : α → Option β}

theorem listed_eq (found : skipBlanks text = rest) :
    listed item text = (taken (item rest)).bind fun first =>
      (taken (moreItems item first.2)).map fun more => (first.1 :: more.1, more.2) := by
  rw [listed, found]

theorem listed_nil (found : skipBlanks text = []) : listed item text = none := by
  rw [listed_eq found]
  cases first : taken (item []) with
  | none => rfl
  | some part => exact absurd (length_lt_of_taken first) (Nat.not_lt_zero _)

theorem taken_items_nil (found : skipBlanks text = []) : taken (items item text) = none := by
  unfold items
  split
  · rfl
  · next other => cases found.symm.trans other

theorem taken_items (found : skipBlanks text = b :: rest) :
    taken (items item text) = if b = Ascii.closeBracket then some ([], rest) else listed item text := by
  unfold items
  split
  · next other => cases found.symm.trans other
  · next same =>
    cases found.symm.trans same
    dsimp only
    split
    · rfl
    · rw [listed_eq found]
      apply taken_bind_eq
      intro first left _
      rw [Option.map_eq_bind]
      exact taken_bind_eq fun _ _ _ => rfl

theorem taken_moreItems_nil (found : skipBlanks text = []) : taken (moreItems item text) = none := by
  unfold moreItems
  split
  · rfl
  · next other => cases found.symm.trans other

theorem taken_moreItems (found : skipBlanks text = b :: rest) :
    taken (moreItems item text) =
      if b = Ascii.closeBracket then some ([], rest)
      else if b = Ascii.comma then
        if (skipBlanks rest).head? = some Ascii.closeBracket then none else listed item rest
      else none := by
  rw [moreItems]
  split
  · next other => cases found.symm.trans other
  · next same =>
    cases found.symm.trans same
    dsimp only
    split
    · rfl
    · split
      · split
        · rename_i none _
          rw [listed_nil none]
          simp
        · rename_i next _
          rw [listed_eq next]
          simp only [next, List.head?_cons, Option.some.injEq]
          split
          · rfl
          · apply taken_bind_eq
            intro first left _
            rw [Option.map_eq_bind]
            exact taken_bind_eq fun _ _ _ => rfl
      · rfl

variable {values : List α} {results : List β} {value : α}

theorem Exact.skipBlanks (exact : Exact item written make) (leading : Blanks before)
    (spelled : written value part) : Json.skipBlanks (before ++ (part ++ rest)) = part ++ rest := by
  obtain ⟨b, others, rfl, solid, -⟩ := exact.opens spelled
  exact skipBlanks_around leading solid

theorem Exact.head?_listing (exact : Exact item written make) (listing : Listing written values text)
    (rest : Bytes) :
    ∃ b others, Json.skipBlanks (text ++ rest) = b :: others ∧ b ≠ Ascii.closeBracket ∧
      b ≠ Ascii.closeBrace := by
  cases listing with
  | last leading spelled _ =>
    rw [List.append_assoc, List.append_assoc, exact.skipBlanks leading spelled]
    obtain ⟨b, others, rfl, -, other⟩ := exact.opens spelled
    exact ⟨b, _, rfl, other⟩
  | next leading spelled _ _ =>
    rw [List.append_assoc, List.append_assoc, exact.skipBlanks leading spelled]
    obtain ⟨b, others, rfl, -, other⟩ := exact.opens spelled
    exact ⟨b, _, rfl, other⟩

theorem moreItems_closed (blanks : Blanks after) :
    taken (moreItems item (after ++ Ascii.closeBracket :: rest)) = some ([], rest) :=
  (taken_moreItems (skipBlanks_around blanks (by decide))).trans (if_pos rfl)

theorem moreItems_next {others : Bytes} (blanks : Blanks after) (found : Json.skipBlanks rest = b :: others)
    (filled : b ≠ Ascii.closeBracket) :
    taken (moreItems item (after ++ Ascii.comma :: rest)) = listed item rest := by
  rw [taken_moreItems (skipBlanks_around blanks (by decide)), if_neg (by decide), if_pos rfl, found]
  exact if_neg fun same => filled (Option.some.inj same)

/-- Items are read one after another, each as what is made of it. -/
theorem Exact.listed_complete (exact : Exact item written make) (listing : Listing written values text) :
    listed item (text ++ Ascii.closeBracket :: rest) = (values.mapM make).map (·, rest) := by
  induction listing with
  | last leading spelled trailing =>
    rw [List.append_assoc, List.append_assoc, listed_eq (exact.skipBlanks leading spelled),
      exact.complete spelled (ended_of_blanks trailing ended_closeBracket)]
    rename_i value _ _ _
    cases made : make value with
    | none => simp [made]
    | some first => simp [made, moreItems_closed trailing]
  | next leading spelled trailing others ih =>
    rw [List.append_assoc, List.append_assoc, List.append_assoc, listed_eq (exact.skipBlanks leading spelled),
      List.cons_append, exact.complete spelled (ended_of_blanks trailing ended_comma)]
    rename_i value values _ _ _ _
    cases made : make value with
    | none => simp [made]
    | some first =>
      obtain ⟨b, _, found, filled, -⟩ := exact.head?_listing others (Ascii.closeBracket :: rest)
      simp only [Option.map_some, Option.bind_some, moreItems_next trailing found filled, ih]
      cases others : values.mapM make <;> simp [made, others]

theorem Exact.items_complete (exact : Exact item written make) (group : Group written values text) :
    taken (items item (text ++ Ascii.closeBracket :: rest)) = (values.mapM make).map (·, rest) := by
  cases group with
  | empty blanks => exact (taken_items (skipBlanks_around blanks (by decide))).trans (if_pos rfl)
  | filled listing =>
    obtain ⟨b, others, found, filled, -⟩ := exact.head?_listing listing (Ascii.closeBracket :: rest)
    rw [taken_items found, if_neg filled, exact.listed_complete listing]

theorem Exact.listed_sound (exact : Exact item written make)
    (read : listed item text = some (results, rest)) :
    ∃ values inside, text = inside ++ Ascii.closeBracket :: rest ∧ Listing written values inside ∧
      values.mapM make = some results := by
  -- Each item is followed by the bracket or by a comma and a shorter text.
  induction size : text.length using Nat.strongRecOn generalizing text results with
  | ind size ih =>
    subst size
    obtain ⟨⟨first, left⟩, took, read⟩ := Option.bind_eq_some_iff.mp read
    obtain ⟨⟨more, _⟩, later, same⟩ := Option.map_eq_some_iff.mp read
    cases same
    obtain ⟨before, leading, whole⟩ := exists_blanks text
    cases found : Json.skipBlanks left with
    | nil =>
      rw [taken_moreItems_nil found] at later
      cases later
    | cons b behind =>
      obtain ⟨after, trailing, same⟩ := exists_blanks_of_skipBlanks found
      rw [taken_moreItems found] at later
      split at later
      · next closes =>
        cases later
        rw [closes] at same
        obtain ⟨value, part, taken, spelled, made⟩ :=
          exact.sound took (same ▸ ended_of_blanks trailing ended_closeBracket)
        refine ⟨[value], before ++ (part ++ after), ?_, .last leading spelled trailing, by simp [made]⟩
        rw [whole, taken, same]
        simp
      · split at later
        · next comma =>
          split at later
          · cases later
          · have shorter : behind.length < text.length := by
              have atMost := length_skipBlanks_le left
              have taken := length_lt_of_taken took
              have wholeAtMost := length_skipBlanks_le text
              rw [found, List.length_cons] at atMost
              omega
            obtain ⟨values, inside, rfl, listing, others⟩ := ih _ shorter later rfl
            rw [comma] at same
            obtain ⟨value, part, taken, spelled, made⟩ :=
              exact.sound took (same ▸ ended_of_blanks trailing ended_comma)
            refine ⟨value :: values, before ++ (part ++ (after ++ Ascii.comma :: inside)), ?_,
              .next leading spelled trailing listing, by simp [made, others]⟩
            rw [whole, taken, same]
            simp
        · cases later

theorem Exact.items_sound (exact : Exact item written make)
    (read : taken (items item text) = some (results, rest)) :
    ∃ values inside, text = inside ++ Ascii.closeBracket :: rest ∧ Group written values inside ∧
      values.mapM make = some results := by
  cases found : Json.skipBlanks text with
  | nil =>
    rw [taken_items_nil found] at read
    cases read
  | cons b behind =>
    rw [taken_items found] at read
    split at read
    · next closes =>
      cases read
      obtain ⟨before, blanks, same⟩ := exists_blanks_of_skipBlanks found
      exact ⟨[], before, closes ▸ same, .empty blanks, rfl⟩
    · obtain ⟨values, inside, same, listing, made⟩ := exact.listed_sound read
      exact ⟨values, inside, same, .filled listing, made⟩

end EntitlementRules.Json
