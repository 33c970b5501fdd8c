import EntitlementRules.Proofs.Json.Exact

/-! Objects: members are read one after another into what is gathered, exactly where they are written. -/
namespace EntitlementRules.Json

variable {α β σ : Type} {text part rest before after : Bytes} {b : UInt8} {name : String}
  {gathered result : σ} {step : MemberReader σ} {written : Json → Bytes → Prop}
  {add : σ → String × Json → Option σ}

/-- What follows a key is read exactly: the colon, and a value that is added to what was gathered. -/
structure ExactMember (step : MemberReader σ) (written : Json → Bytes → Prop)
    (add : σ → String × Json → Option σ) : Prop where
  complete {gathered : σ} {name : String} {content : Json} {before after part rest : Bytes}
    (leading : Blanks before) (trailing : Blanks after) (spelled : written content part) (ended : Ended rest) :
    taken (step gathered name (before ++ Ascii.colon :: (after ++ (part ++ rest)))) =
      (add gathered (name, content)).map (·, rest)
  sound {gathered result : σ} {name : String} {text rest : Bytes}
    (read : taken (step gathered name text) = some (result, rest)) (ended : Ended rest) :
    ∃ content before after part, text = before ++ Ascii.colon :: (after ++ (part ++ rest)) ∧
      Blanks before ∧ Blanks after ∧ written content part ∧ add gathered (name, content) = some result

/-! ## Members in a row -/

/-- A member and those after it, up to the closing brace. -/
def entered (step : MemberReader σ) (gathered : σ) (text : Bytes) : Option (σ × Bytes) :=
  (taken (member step gathered (skipBlanks text))).bind fun first => taken (moreMembers step first.1 first.2)

theorem entered_eq (found : skipBlanks text = rest) :
    entered step gathered text =
      (taken (member step gathered rest)).bind fun first => taken (moreMembers step first.1 first.2) := by
  rw [entered, found]

theorem taken_member :
    taken (member step gathered text) =
      (taken (stringLiteral text)).bind fun key => taken (step gathered key.1 key.2) := by
  cases text with
  | nil => rfl
  | cons b rest =>
    unfold member stringLiteral
    dsimp only
    split
    · cases stringBody rest with
      | error fault => rfl
      | ok key =>
        obtain ⟨name, left, shorter⟩ := key
        change taken (step gathered name left >>= _) = taken (step gathered name left)
        cases step gathered name left <;> rfl
    · rfl

theorem taken_members_nil (found : skipBlanks text = []) : taken (members step gathered text) = none := by
  unfold members
  split
  · rfl
  · next other => cases found.symm.trans other

theorem taken_members (found : skipBlanks text = b :: rest) :
    taken (members step gathered text) =
      if b = Ascii.closeBrace then some (gathered, rest) else entered step gathered text := by
  unfold members
  split
  · next other => cases found.symm.trans other
  · next same =>
    cases found.symm.trans same
    dsimp only
    split
    · rfl
    · rw [entered_eq found]
      apply taken_bind_eq
      intro first left _
      cases moreMembers step first left <;> rfl

theorem taken_moreMembers_nil (found : skipBlanks text = []) :
    taken (moreMembers step gathered text) = none := by
  unfold moreMembers
  split
  · rfl
  · next other => cases found.symm.trans other

theorem taken_moreMembers (found : skipBlanks text = b :: rest) :
    taken (moreMembers step gathered text) =
      if b = Ascii.closeBrace then some (gathered, rest)
      else if b = Ascii.comma then
        if (skipBlanks rest).head? = some Ascii.closeBrace then none else entered step gathered rest
      else none := by
  rw [moreMembers]
  split
  · next other => cases found.symm.trans other
  · next same =>
    cases found.symm.trans same
    dsimp only
    split
    · rfl
    · split
      · split
        · rfl
        · rw [entered_eq rfl]
          apply taken_bind_eq
          intro first left _
          cases moreMembers step first left <;> rfl
      · rfl

theorem moreMembers_closed (blanks : Blanks after) :
    taken (moreMembers step gathered (after ++ Ascii.closeBrace :: rest)) = some (gathered, rest) :=
  (taken_moreMembers (skipBlanks_around blanks (by decide))).trans (if_pos rfl)

theorem moreMembers_next {others : Bytes} (blanks : Blanks after) (found : skipBlanks rest = b :: others)
    (filled : b ≠ Ascii.closeBrace) :
    taken (moreMembers step gathered (after ++ Ascii.comma :: rest)) = entered step gathered rest := by
  rw [taken_moreMembers (skipBlanks_around blanks (by decide)), if_neg (by decide), if_pos rfl, found]
  exact if_neg fun same => filled (Option.some.inj same)

/-! ## Exactness -/

variable {entries : List (String × Json)}

theorem ExactMember.member (exact : ExactMember step written add) (gathered : σ) :
    Exact (member step gathered) (Member written) (add gathered) where
  opens := by
    rintro _ _ ⟨⟨inside, rfl, -⟩, -, -, -⟩
    exact ⟨Ascii.quotation, _, rfl, by decide⟩
  complete := by
    rintro _ _ rest ⟨keyed, leading, trailing, spelled⟩ ended
    rw [List.append_assoc, taken_member, stringLiteral_iff.mpr ⟨_, rfl, keyed⟩, Option.bind_some,
      List.append_assoc, List.cons_append, List.append_assoc]
    exact exact.complete leading trailing spelled ended
  sound := by
    intro text rest result read ended
    rw [taken_member] at read
    obtain ⟨⟨name, left⟩, keyed, later⟩ := Option.bind_eq_some_iff.mp read
    obtain ⟨key, rfl, literal⟩ := stringLiteral_iff.mp keyed
    obtain ⟨content, before, after, part, rfl, leading, trailing, spelled, added⟩ := exact.sound later ended
    exact ⟨_, _, by simp, .named literal leading trailing spelled, added⟩

theorem ExactMember.entered_complete (exact : ExactMember step written add)
    (listing : Listing (Member written) entries text) :
    entered step gathered (text ++ Ascii.closeBrace :: rest) =
      (entries.foldlM add gathered).map (·, rest) := by
  induction listing generalizing gathered with
  | last leading spelled trailing =>
    have member := exact.member gathered
    rw [List.append_assoc, List.append_assoc, entered_eq (member.skipBlanks leading spelled),
      member.complete spelled (ended_of_blanks trailing ended_closeBrace)]
    rename_i entry _ _ _
    cases added : add gathered entry with
    | none => simp [added]
    | some first => simp [added, moreMembers_closed trailing]
  | next leading spelled trailing others ih =>
    have member := exact.member gathered
    rw [List.append_assoc, List.append_assoc, List.append_assoc,
      entered_eq (member.skipBlanks leading spelled), List.cons_append,
      member.complete spelled (ended_of_blanks trailing ended_comma)]
    rename_i entry _ _ _ _ _
    cases added : add gathered entry with
    | none => simp [added]
    | some first =>
      obtain ⟨b, _, found, -, filled⟩ := (exact.member first).head?_listing others (Ascii.closeBrace :: rest)
      simp [added, moreMembers_next trailing found filled, ih]

theorem ExactMember.members_complete (exact : ExactMember step written add)
    (group : Group (Member written) entries text) :
    taken (members step gathered (text ++ Ascii.closeBrace :: rest)) =
      (entries.foldlM add gathered).map (·, rest) := by
  cases group with
  | empty blanks => exact (taken_members (skipBlanks_around blanks (by decide))).trans (if_pos rfl)
  | filled listing =>
    obtain ⟨b, others, found, -, filled⟩ :=
      (exact.member gathered).head?_listing listing (Ascii.closeBrace :: rest)
    rw [taken_members found, if_neg filled, exact.entered_complete listing]

theorem ExactMember.entered_sound (exact : ExactMember step written add)
    (read : entered step gathered text = some (result, rest)) :
    ∃ entries inside, text = inside ++ Ascii.closeBrace :: rest ∧
      Listing (Member written) entries inside ∧ entries.foldlM add gathered = some result := by
  -- Each member is followed by the brace or by a comma and a shorter text.
  induction size : text.length using Nat.strongRecOn generalizing text gathered with
  | ind size ih =>
    subst size
    have member := exact.member gathered
    obtain ⟨⟨first, left⟩, took, later⟩ := Option.bind_eq_some_iff.mp read
    obtain ⟨before, leading, whole⟩ := exists_blanks text
    dsimp only at later
    cases found : skipBlanks left with
    | nil =>
      rw [taken_moreMembers_nil found] at later
      cases later
    | cons b behind =>
      obtain ⟨after, trailing, same⟩ := exists_blanks_of_skipBlanks found
      rw [taken_moreMembers found] at later
      split at later
      · next closes =>
        cases later
        rw [closes] at same
        obtain ⟨entry, part, taken, spelled, added⟩ :=
          member.sound took (same ▸ ended_of_blanks trailing ended_closeBrace)
        refine ⟨[entry], before ++ (part ++ after), ?_, .last leading spelled trailing, by simp [added]⟩
        rw [whole, taken, same]
        simp
      · split at later
        · next comma =>
          split at later
          · cases later
          · have shorter : behind.length < text.length := by
              have atMost := length_skipBlanks_le left
              have taken := length_lt_of_taken took
              have wholeAtMost := length_skipBlanks_le text
              rw [found, List.length_cons] at atMost
              omega
            obtain ⟨entries, inside, rfl, listing, others⟩ := ih _ shorter later rfl
            rw [comma] at same
            obtain ⟨entry, part, taken, spelled, added⟩ :=
              member.sound took (same ▸ ended_of_blanks trailing ended_comma)
            refine ⟨entry :: entries, before ++ (part ++ (after ++ Ascii.comma :: inside)), ?_,
              .next leading spelled trailing listing, by simp [added, others]⟩
            rw [whole, taken, same]
            simp
        · cases later

theorem ExactMember.members_sound (exact : ExactMember step written add)
    (read : taken (members step gathered text) = some (result, rest)) :
    ∃ entries inside, text = inside ++ Ascii.closeBrace :: rest ∧
      Group (Member written) entries inside ∧ entries.foldlM add gathered = some result := by
  cases found : skipBlanks text with
  | nil =>
    rw [taken_members_nil found] at read
    cases read
  | cons b behind =>
    rw [taken_members found] at read
    split at read
    · next closes =>
      cases read
      obtain ⟨before, blanks, same⟩ := exists_blanks_of_skipBlanks found
      exact ⟨[], before, closes ▸ same, .empty blanks, rfl⟩
    · obtain ⟨entries, inside, same, listing, added⟩ := exact.entered_sound read
      exact ⟨entries, inside, same, .filled listing, added⟩

/-! ## Colons -/

theorem colon_eq_ok_iff {left : { rest : Bytes // rest.length < text.length }} :
    colon text = .ok left ↔ skipBlanks text = Ascii.colon :: left.1 := by
  unfold colon
  split
  · next none => simp [none]
  · next b behind found =>
    split
    · next same =>
      simp only [Except.ok.injEq, found, same, List.cons.injEq, true_and, Subtype.ext_iff]
    · next other => simp [found, other]

/-- A reader takes a colon and a value after it, of which it makes something else. -/
def AfterColon (reader : Reader α) (turn : α → σ) (step : Reader σ) : Prop :=
  ∀ text, ∃ next, step text = colon text >>= next ∧
    ∀ left, taken (next left) = (taken (reader (skipBlanks left.1))).map fun read => (turn read.1, read.2)

variable {reader : Reader α} {turn : α → σ} {reading : Reader σ} {spells : β → Bytes → Prop}
  {make : β → Option α} {content : β}

theorem AfterColon.complete (colon : AfterColon reader turn reading) (exact : Exact reader spells make)
    (leading : Blanks before) (trailing : Blanks after) (spelled : spells content part) (ended : Ended rest) :
    taken (reading (before ++ Ascii.colon :: (after ++ (part ++ rest)))) =
      ((make content).map turn).map (·, rest) := by
  obtain ⟨next, same, second⟩ := colon (before ++ Ascii.colon :: (after ++ (part ++ rest)))
  have found : skipBlanks (before ++ Ascii.colon :: (after ++ (part ++ rest))) =
      Ascii.colon :: (after ++ (part ++ rest)) := skipBlanks_around leading (by decide)
  have shorter := length_skipBlanks_le (before ++ Ascii.colon :: (after ++ (part ++ rest)))
  rw [found] at shorter
  have read : Json.colon (before ++ Ascii.colon :: (after ++ (part ++ rest))) =
      .ok ⟨after ++ (part ++ rest), shorter⟩ := colon_eq_ok_iff.mpr found
  rw [same, read]
  refine (second _).trans ?_
  rw [exact.skipBlanks trailing spelled, exact.complete spelled ended]
  cases make content <;> rfl

theorem AfterColon.sound (colon : AfterColon reader turn reading) (exact : Exact reader spells make)
    (read : taken (reading text) = some (result, rest)) (ended : Ended rest) :
    ∃ content before after part, text = before ++ Ascii.colon :: (after ++ (part ++ rest)) ∧
      Blanks before ∧ Blanks after ∧ spells content part ∧ (make content).map turn = some result := by
  obtain ⟨next, same, second⟩ := colon text
  rw [same] at read
  cases found : Json.colon text with
  | error fault =>
    rw [found] at read
    cases read
  | ok left =>
    rw [found] at read
    obtain ⟨⟨value, _⟩, took, turned⟩ := Option.map_eq_some_iff.mp ((second left).symm.trans read)
    cases turned
    obtain ⟨before, leading, whole⟩ := exists_blanks_of_skipBlanks (colon_eq_ok_iff.mp found)
    obtain ⟨after, trailing, behind⟩ := exists_blanks left.1
    obtain ⟨content, part, spelled, written, made⟩ := exact.sound took ended
    rw [spelled] at behind
    rw [behind] at whole
    exact ⟨content, before, after, part, whole, leading, trailing, written, by rw [made]; rfl⟩

end EntitlementRules.Json
