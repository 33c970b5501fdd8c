import EntitlementRules.Proofs.Json.Spelling

/-! The numerals of a text. Where they stand is told by the bytes alone, so that whether one of them is out of
range does not depend on the value that the text is taken for. -/
namespace EntitlementRules.Json

variable {α : Type} {text part middle rest before : Bytes} {numerals more : List Bytes} {b : UInt8}

/-- A byte that opens neither a string nor a numeral. -/
def Inert (b : UInt8) : Prop := Ascii.isDigit b = false ∧ b ≠ Ascii.minus ∧ b ≠ Ascii.quotation

/-- A text up to some rest of it, with the numerals that stand there outside of strings. The rest is there from
the start, so that no numeral ends too early. -/
inductive Scans : Bytes → (numerals : List Bytes) → (rest : Bytes) → Prop where
  | done {rest : Bytes} : Scans rest [] rest
  | inert {b : UInt8} {text rest : Bytes} {numerals : List Bytes} (inert : Inert b)
      (later : Scans text numerals rest) : Scans (b :: text) numerals rest
  | string {written text rest : Bytes} {value : String} {numerals : List Bytes} (literal : Literal written value)
      (later : Scans text numerals rest) : Scans (written ++ text) numerals rest
  | numeral {written text rest : Bytes} {numerals : List Bytes} (numeral : Numeral written) (ended : Ended text)
      (later : Scans text numerals rest) : Scans (written ++ text) (written :: numerals) rest

namespace Scans

theorem append (first : Scans text numerals middle) (last : Scans middle more rest) :
    Scans text (numerals ++ more) rest := by
  induction first with
  | done => exact last
  | inert inert _ ih => exact .inert inert (ih last)
  | string literal _ ih => exact .string literal (ih last)
  | numeral numeral ended _ ih => exact .numeral numeral ended (ih last)

theorem all_inert (inert : ∀ b ∈ part, Inert b) : Scans (part ++ rest) [] rest := by
  induction part with
  | nil => exact .done
  | cons b others ih =>
    exact .inert (inert b (.head _)) (ih fun other member => inert other (.tail _ member))

theorem blanks (blanks : Blanks part) : Scans (part ++ rest) [] rest := by
  apply all_inert
  intro b member
  rcases blanks b member with rfl | rfl | rfl | rfl <;> exact ⟨rfl, by decide, by decide⟩

end Scans

/-! ## One way to scan -/

theorem Literal.opens {value : String} (literal : Literal part value) :
    ∃ others, part = Ascii.quotation :: others := by
  obtain ⟨inside, rfl, -⟩ := literal
  exact ⟨_, rfl⟩

theorem Literal.complete {value : String} (literal : Literal part value) (rest : Bytes) :
    taken (stringLiteral (part ++ rest)) = some (value, rest) :=
  stringLiteral_iff.mpr ⟨part, rfl, literal⟩

theorem Numeral.opens (numeral : Numeral part) :
    ∃ b others, part = b :: others ∧ ¬ Inert b ∧ b ≠ Ascii.quotation := by
  cases numeral with
  | positive magnitude =>
    obtain ⟨b, others, same, digit⟩ := magnitude.opens
    refine ⟨b, others, same, fun inert => ?_, ?_⟩
    · cases inert.1.symm.trans digit
    · rintro rfl
      cases digit
  | negative _ => exact ⟨_, _, rfl, fun inert => inert.2.1 rfl, by decide⟩

namespace Scans

theorem of_nil (scans : Scans [] numerals []) : numerals = [] := by
  generalize same : ([] : Bytes) = text at scans
  cases scans with
  | done => rfl
  | inert _ _ => cases same
  | string literal _ =>
    obtain ⟨_, rfl⟩ := literal.opens
    cases same
  | numeral numeral _ _ =>
    obtain ⟨_, _, rfl, -⟩ := numeral.opens
    cases same

theorem of_inert (inert : Inert b) (scans : Scans (b :: text) numerals []) : Scans text numerals [] := by
  generalize same : b :: text = whole at scans
  cases scans with
  | done => cases same
  | inert _ later =>
    cases same
    exact later
  | string literal _ =>
    obtain ⟨_, rfl⟩ := literal.opens
    cases same
    exact absurd rfl inert.2.2
  | numeral numeral _ _ =>
    obtain ⟨_, _, rfl, solid, -⟩ := numeral.opens
    cases same
    exact absurd inert solid

theorem of_string {value : String} (literal : Literal part value) (scans : Scans (part ++ text) numerals []) :
    Scans text numerals [] := by
  have read := literal.complete text
  obtain ⟨others, opens⟩ := literal.opens
  generalize same : part ++ text = whole at scans
  rw [same] at read
  rw [opens] at same
  cases scans with
  | done => cases same
  | inert inert _ =>
    cases same
    exact absurd rfl inert.2.2
  | string literal later =>
    -- A string is read in one way only, so it ends in the same place.
    rw [literal.complete] at read
    cases read
    exact later
  | numeral numeral _ _ =>
    obtain ⟨b, _, rfl, -, unquoted⟩ := numeral.opens
    rw [List.cons_append, List.cons_append] at same
    exact absurd (List.cons.inj same).1.symm unquoted

theorem of_numeral {number : Number} (numeral : Numeral part) (stands : StandsFor number part)
    (ended : Ended text) (scans : Scans (part ++ text) numerals []) :
    ∃ later, numerals = part :: later ∧ Scans text later [] := by
  have read := stands.complete ended
  obtain ⟨b, others, opens, solid, unquoted⟩ := numeral.opens
  generalize same : part ++ text = whole at scans
  rw [same] at read
  cases scans with
  | done =>
    rw [opens] at same
    cases same
  | inert inert _ =>
    rw [opens] at same
    cases same
    exact absurd inert solid
  | string literal _ =>
    obtain ⟨_, rfl⟩ := literal.opens
    rw [opens, List.cons_append, List.cons_append] at same
    exact absurd (List.cons.inj same).1 unquoted
  | numeral other stops later =>
    -- A numeral is read in one way only, and one that is out of range would be refused.
    rcases other.stands_or_outOfRange with ⟨_, stands⟩ | outOfRange
    · cases read.symm.trans (stands.complete stops)
      rw [List.append_cancel_right same]
      exact ⟨_, rfl, later⟩
    · obtain ⟨unread, refused⟩ := outOfRange.refused stops
      rw [refused] at read
      cases read

/-- Where all numerals stand for numbers, there are no other numerals to be found. -/
theorem unique (scans : Scans text numerals []) (stand : ∀ numeral ∈ numerals, ∃ number, StandsFor number numeral)
    (other : Scans text more []) : more = numerals := by
  generalize none : ([] : Bytes) = rest at scans
  induction scans generalizing more with
  | done =>
    subst none
    exact other.of_nil
  | inert inert _ ih => exact ih stand (other.of_inert inert) none
  | string literal _ ih => exact ih stand (other.of_string literal) none
  | numeral numeral ended _ ih =>
    obtain ⟨_, stands⟩ := stand _ (.head _)
    obtain ⟨later, rfl, remaining⟩ := other.of_numeral numeral stands ended
    rw [ih (fun numeral member => stand numeral (.tail _ member)) remaining none]

end Scans

/-! ## Numerals of written values -/

variable {stands other : Number → Bytes → Prop} {again whole : Prop}

/-- What is written with numerals of one kind, and would be written again if they were all of another kind. -/
def Counted (stands other : Number → Bytes → Prop) (part : Bytes) (again : Prop) : Prop :=
  ∃ numerals, (∀ rest, Ended rest → Scans (part ++ rest) numerals rest) ∧
    (∀ numeral ∈ numerals, Numeral numeral ∧ ∃ number, stands number numeral) ∧
    ((∀ numeral ∈ numerals, ∃ number, other number numeral) → again)

namespace Counted

theorem none (scans : ∀ rest, Scans (part ++ rest) [] rest) (done : again) : Counted stands other part again :=
  ⟨[], fun rest _ => scans rest, nofun, fun _ => done⟩

theorem imp (counted : Counted stands other part again) (turn : again → whole) :
    Counted stands other part whole := by
  obtain ⟨numerals, scans, written, done⟩ := counted
  exact ⟨numerals, scans, written, fun all => turn (done all)⟩

theorem behind (counted : Counted stands other part again) (leads : ∀ rest, Scans (before ++ rest) [] rest) :
    Counted stands other (before ++ part) again := by
  obtain ⟨numerals, scans, written, done⟩ := counted
  refine ⟨numerals, fun rest ended => ?_, written, done⟩
  rw [List.append_assoc]
  exact (leads _).append (scans rest ended)

theorem append (first : Counted stands other part again) (second : Counted stands other text whole)
    (stops : ∀ rest, Ended rest → Ended (text ++ rest)) :
    Counted stands other (part ++ text) (again ∧ whole) := by
  obtain ⟨numerals, scans, written, done⟩ := first
  obtain ⟨more, later, others, rest⟩ := second
  refine ⟨numerals ++ more, fun rest ended => ?_, ?_, fun all => ⟨done ?_, rest ?_⟩⟩
  · rw [List.append_assoc]
    exact (scans _ (stops rest ended)).append (later rest ended)
  · intro numeral member
    exact (List.mem_append.mp member).elim (written numeral) (others numeral)
  · exact fun numeral member => all numeral (List.mem_append_left _ member)
  · exact fun numeral member => all numeral (List.mem_append_right _ member)

end Counted

theorem Listing.counted {item retold : α → Bytes → Prop} {values : List α}
    (each : ∀ value part, item value part → Counted stands other part (∃ value, retold value part))
    (listing : Listing item values text) : Counted stands other text (∃ values, Listing retold values text) := by
  induction listing with
  | last leading written trailing =>
    have padded := (each _ _ written).append (.none (fun _ => .blanks trailing) trivial)
      fun _ => ended_of_blanks trailing
    apply (padded.behind fun _ => .blanks leading).imp
    rintro ⟨⟨value, again⟩, -⟩
    exact ⟨[value], .last leading again trailing⟩
  | @next _ _ _ _ after rest leading written trailing _ ih =>
    have comma : Inert Ascii.comma := ⟨rfl, by decide, by decide⟩
    have others : Counted stands other (after ++ Ascii.comma :: rest) _ :=
      (ih.behind fun _ => .inert comma .done : Counted stands other ([Ascii.comma] ++ rest) _).behind
        fun _ => .blanks trailing
    have stops (left : Bytes) (_ : Ended left) : Ended (after ++ Ascii.comma :: rest ++ left) := by
      rw [List.append_assoc]
      exact ended_of_blanks trailing ended_comma
    apply (((each _ _ written).append others stops).behind fun _ => .blanks leading).imp
    rintro ⟨⟨value, again⟩, values, later⟩
    exact ⟨value :: values, .next leading again trailing later⟩

theorem Group.counted {item retold : α → Bytes → Prop} {values : List α}
    (each : ∀ value part, item value part → Counted stands other part (∃ value, retold value part))
    (group : Group item values text) : Counted stands other text (∃ values, Group retold values text) := by
  cases group with
  | empty blanks => exact .none (fun _ => .blanks blanks) ⟨[], .empty blanks⟩
  | filled listing => exact (listing.counted each).imp fun ⟨values, again⟩ => ⟨values, .filled again⟩

theorem Member.counted {written retold : Json → Bytes → Prop}
    (each : ∀ value part, written value part → Counted stands other part (∃ value, retold value part))
    (member : String × Json) (text : Bytes) (named : Member written member text) :
    Counted stands other text (∃ member, Member retold member text) := by
  obtain @⟨name, content, key, before, after, part, keyed, leading, trailing, value⟩ := named
  have colon : Inert Ascii.colon := ⟨rfl, by decide, by decide⟩
  have valued := (each _ _ value).behind fun _ => .blanks trailing
  have parted : Counted stands other (before ++ Ascii.colon :: (after ++ part)) _ :=
    (valued.behind fun _ => .inert colon .done : Counted stands other ([Ascii.colon] ++ (after ++ part)) _).behind
      fun _ => .blanks leading
  exact (parted.behind fun _ => .string keyed .done).imp
    fun ⟨content, again⟩ => ⟨(name, content), .named keyed leading trailing again⟩

theorem Scalar.counted {value : Json} (scalar : Scalar stands value text) :
    Counted stands other text (∃ value, Scalar other value text) := by
  have word {letters : Bytes} (value : Json) (inert : ∀ b ∈ letters, Inert b) (again : Scalar other value letters) :
      Counted stands other letters (∃ value, Scalar other value letters) :=
    .none (fun _ => .all_inert inert) ⟨value, again⟩
  cases scalar with
  | null => exact word _ (by unfold Inert; decide +kernel) .null
  | true => exact word _ (by unfold Inert; decide +kernel) .true
  | false => exact word _ (by unfold Inert; decide +kernel) .false
  | string literal => exact .none (fun _ => .string literal .done) ⟨_, .string literal⟩
  | number numeral value =>
    refine ⟨[text], fun _ ended => .numeral numeral ended .done, ?_, fun all => ?_⟩
    · intro _ member
      cases List.mem_singleton.mp member
      exact ⟨numeral, _, value⟩
    · obtain ⟨number, again⟩ := all text (.head _)
      exact ⟨.number number, .number numeral again⟩

/-- A bracket or brace on either side. -/
theorem Counted.enclosed {opening closing : UInt8} (counted : Counted stands other part again)
    (opens : Inert opening) (closes : Inert closing) (stops : ∀ rest, Ended (closing :: rest)) :
    Counted stands other (opening :: (part ++ [closing])) again := by
  have last : Counted stands other [closing] True := .none (fun _ => .inert closes .done) trivial
  have closed := counted.append last fun rest _ => stops rest
  exact (closed.behind fun _ => .inert opens .done :
    Counted stands other ([opening] ++ (part ++ [closing])) _).imp And.left

theorem Spells.counted {depth : Nat} {value : Json} (spells : Spells stands depth value text) :
    Counted stands other text (∃ value, Spells other depth value text) := by
  induction depth generalizing value text with
  | zero => exact Scalar.counted spells
  | succ depth ih =>
    cases spells with
    | scalar scalar => exact scalar.counted.imp fun ⟨value, again⟩ => ⟨value, .scalar again⟩
    | array group =>
      have items := group.counted fun _ _ => ih
      exact (items.enclosed ⟨rfl, by decide, by decide⟩ ⟨rfl, by decide, by decide⟩
        fun _ => ended_closeBracket).imp fun ⟨values, again⟩ => ⟨.array values, .array again⟩
    | object group =>
      have members := group.counted (Member.counted fun _ _ => ih)
      exact (members.enclosed ⟨rfl, by decide, by decide⟩ ⟨rfl, by decide, by decide⟩
        fun _ => ended_closeBrace).imp fun ⟨values, again⟩ => ⟨ofMembers values, .object again⟩

/-- A well-formed object has numerals, and it is one whose numerals all stand for numbers exactly where none of
them is out of range. -/
theorem exists_numerals {depth : Nat} {entries : List (String × Json)}
    (object : Padded (ObjectOf stands depth entries) text) :
    ∃ numerals, Scans text numerals [] ∧
      ((∃ entries, Padded (ObjectOf StandsFor depth entries) text) ↔
        ∀ numeral ∈ numerals, ¬ OutOfRange numeral) := by
  have counted (stands : Number → Bytes → Prop) {entries : List (String × Json)}
      (object : Padded (ObjectOf stands depth entries) text) :
      Counted stands StandsFor text (∃ entries, Padded (ObjectOf StandsFor depth entries) text) := by
    obtain @⟨before, _, after, leading, ⟨inside, rfl, group⟩, trailing⟩ := object
    have members : Counted stands StandsFor inside
        (∃ entries, Group (Member (Spells StandsFor depth)) entries inside) :=
      group.counted (Member.counted fun _ _ => Spells.counted)
    have enclosed : Counted stands StandsFor (Ascii.openBrace :: (inside ++ [Ascii.closeBrace])) _ :=
      members.enclosed ⟨rfl, by decide, by decide⟩ ⟨rfl, by decide, by decide⟩ fun _ => ended_closeBrace
    have padded := enclosed.append (.none (fun _ => .blanks trailing) trivial) fun _ => ended_of_blanks trailing
    exact (padded.behind fun _ => .blanks leading).imp
      fun ⟨⟨entries, again⟩, _⟩ => ⟨entries, .around leading ⟨inside, rfl, again⟩ trailing⟩
  obtain ⟨numerals, scans, written, done⟩ := counted stands object
  have scanned := scans [] ended_nil
  rw [List.append_nil] at scanned
  refine ⟨numerals, scanned, ?_, fun inRange => ?_⟩
  · rintro ⟨entries, object⟩
    obtain ⟨found, scans, stand, -⟩ := counted StandsFor object
    have again := scans [] ended_nil
    rw [List.append_nil] at again
    cases again.unique (fun numeral member => (stand numeral member).2) scanned
    exact fun numeral member => (stand numeral member).1.stands_iff.mp (stand numeral member).2
  · exact done fun numeral member => (written numeral member).1.stands_iff.mpr (inRange numeral member)

end EntitlementRules.Json
