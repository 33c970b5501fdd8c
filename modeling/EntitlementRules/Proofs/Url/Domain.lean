import EntitlementRules.Proofs.Procedure
import EntitlementRules.Proofs.Text.Split
import EntitlementRules.Proofs.Unicode.Ascii
import EntitlementRules.Proofs.Url.Punycode.RoundTrip
import EntitlementRules.Url.Domain
import Mathlib.Data.Bool.AllAny

/-! Names of hosts: a name in its form has that form again. -/
namespace EntitlementRules.Domain

open Punycode (isAscii digitChars)

variable {text name : String} {chars label read written : List Char} {parts : List (List Char)} {c : Char}

/-! ## Characters -/

theorem isAscii_iff : isAscii c = true ↔ c.toNat < 128 := by
  simp [isAscii]

theorem toLower_eq_self (allowed : isForbidden c = false) : c.toLower = c := by
  simp only [isForbidden, Bool.or_eq_false_iff, Bool.and_eq_false_iff, decide_eq_false_iff_not] at allowed
  refine dif_neg ?_
  rintro ⟨above, below⟩
  rcases allowed.2 with low | high
  · exact low above
  · exact high below

theorem plain_digitChars : ∀ c ∈ digitChars, isAscii c = true ∧ isForbidden c = false ∧ c ≠ '.' :=
  List.all_iff_forall_prop.mp (by decide)

theorem plain_encodingMark : ∀ c ∈ encodingMark, isAscii c = true ∧ isForbidden c = false ∧ c ≠ '.' :=
  List.all_iff_forall_prop.mp (by decide)

/-! ## Labels -/

theorem labels_stop (rest : List Char) : labels ('.' :: rest) = [] :: labels rest := by
  rw [labels]

theorem labels_cons {first : List Char} {others : List (List Char)} (other : c ≠ '.')
    (later : labels chars = first :: others) : labels (c :: chars) = (c :: first) :: others := by
  rw [labels.eq_def]
  simp only [later]

theorem labels_eq_splitOn (chars : List Char) : labels chars = chars.splitOn '.' := by
  induction chars with
  | nil => rfl
  | cons c rest ih =>
    rw [List.splitOn_cons_eq_if_modifyHead, ← ih]
    by_cases stop : c = '.'
    · subst c
      exact labels_stop rest
    · obtain ⟨first, others, later⟩ := List.exists_cons_of_ne_nil (List.splitOn_ne_nil '.' rest)
      rw [ih, if_neg (by simpa using stop), later]
      exact labels_cons stop (ih.trans later)

theorem mem_of_mem_labels (inside : label ∈ labels chars) (member : c ∈ label) : c ∈ chars ∧ c ≠ '.' := by
  rw [labels_eq_splitOn] at inside
  exact (Text.mem_of_mem_splitOnP inside member).imp_right ne_of_beq_false

/-! ## Reading and writing -/

/-- Text that is not ASCII, in the form that names are brought to. -/
structure Brought (label : List Char) : Prop where
  foreign : label.all isAscii = false
  kept : ∀ c ∈ label, Unicode.fate c = .kept
  composed : Unicode.compositionForm label = label

theorem decodeLabel?_eq_some_iff {encoded : List Char} : decodeLabel? encoded = some read ↔
    encoded.length ≤ decodingLimit ∧ Punycode.decode? encoded = some read ∧ Brought read := by
  simp only [decodeLabel?, Option.bind_eq_bind, Option.bind_none, Option.ite_none_left_eq_some,
    Option.bind_eq_some_iff, Bool.not_eq_true, Option.pure_def, Option.some.injEq, Nat.not_lt]
  constructor
  · rintro ⟨short, text, found, foreign, kept, composed, rfl⟩
    exact ⟨short, found, foreign, by simpa using kept, by simpa using composed⟩
  · rintro ⟨short, found, brought⟩
    exact ⟨short, read, found, brought.foreign, by simpa using brought.kept, by simpa using brought.composed, rfl⟩

/-- A label is read as it is, or decoded to a text that is not ASCII. -/
theorem read?_cases (came : read? label = some read) :
    read = label ∨ (read.all isAscii = false ∧ ∀ c ∈ read, isAscii c = true → c ∈ label) := by
  unfold read? at came
  split at came
  · next encoded marked =>
    obtain ⟨-, decoded, brought⟩ := decodeLabel?_eq_some_iff.mp came
    refine .inr ⟨brought.foreign, fun c member ascii => ?_⟩
    rw [← List.isPrefixOf?_eq_some_iff_append_eq.mp marked]
    exact List.mem_append_right _ (Punycode.mem_of_decode? decoded member ascii)
  · cases came
    exact .inl rfl

theorem read?_marked (encoded : List Char) : read? (encodingMark ++ encoded) = decodeLabel? encoded :=
  rfl

/-- A text is written as it is, or encoded. What is encoded must be brought and not too long, and always reads
back then. -/
theorem write?_eq_some_iff : write? read = some written ↔
    (read.all isAscii = true ∧ written = read) ∨
      (Brought read ∧ read.length ≤ encodingLimit ∧ (Punycode.encode read).length ≤ decodingLimit ∧
        written = encodingMark ++ Punycode.encode read) := by
  have back : read? (encodingMark ++ Punycode.encode read) = some read ↔
      (Punycode.encode read).length ≤ decodingLimit ∧ Brought read := by
    rw [read?_marked, decodeLabel?_eq_some_iff]
    simp only [Punycode.decode?_encode, true_and]
  unfold write?
  simp only
  by_cases ascii : read.all isAscii = true
  · rw [if_pos ascii]
    refine ⟨fun went => .inl ⟨ascii, (Option.some.inj went).symm⟩, ?_⟩
    rintro (⟨-, rfl⟩ | ⟨brought, -⟩)
    · rfl
    · exact absurd (brought.foreign.symm.trans ascii) Bool.false_ne_true
  · rw [if_neg ascii, Option.ite_none_right_eq_some, back, Option.some.injEq]
    constructor
    · rintro ⟨⟨few, short, brought⟩, rfl⟩
      exact .inr ⟨brought, few, short, rfl⟩
    · rintro (⟨all, -⟩ | ⟨brought, few, short, rfl⟩)
      · exact absurd all ascii
      · exact ⟨⟨few, short, brought⟩, rfl⟩

theorem read?_of_write? (came : read? label = some read) (went : write? read = some written) :
    read? written = some read := by
  rcases write?_eq_some_iff.mp went with ⟨ascii, rfl⟩ | ⟨brought, -, short, rfl⟩
  · rcases read?_cases came with rfl | ⟨foreign, -⟩
    · exact came
    · rw [ascii] at foreign
      cases foreign
  · rw [read?_marked]
    exact decodeLabel?_eq_some_iff.mpr ⟨short, Punycode.decode?_encode read, brought⟩

/-- What is written for a label is ASCII. It stood in the label, or it belongs to an encoding. -/
theorem mem_of_write? (came : read? label = some read) (went : write? read = some written)
    (member : c ∈ written) :
    (c ∈ label ∧ isAscii c = true) ∨ c ∈ encodingMark ∨ c ∈ digitChars := by
  have kept (inside : c ∈ read) (ascii : isAscii c = true) : c ∈ label := by
    rcases read?_cases came with rfl | ⟨-, drawn⟩
    · exact inside
    · exact drawn c inside ascii
  rcases write?_eq_some_iff.mp went with ⟨ascii, rfl⟩ | ⟨-, -, -, rfl⟩
  · have low := List.all_eq_true.mp ascii c member
    exact .inl ⟨kept member low, low⟩
  · rcases List.mem_append.mp member with mark | encoded
    · exact .inr (.inl mark)
    · rcases Punycode.mem_encode encoded with ⟨inside, low⟩ | rfl | digit
      · exact .inl ⟨kept inside low, low⟩
      · exact .inr (.inl (by decide))
      · exact .inr (.inr digit)

/-! ## Names -/

/-- How a name comes to its form: it is brought to lower case and taken apart; its labels are read, checked,
written and put together again. -/
structure Formed (text name : String) (brought : List Char) (read written : List (List Char)) : Prop where
  starts : bring? text.toList = some brought
  allowed : brought.any isForbidden = false
  reads : List.Forall₂ (read? · = some ·) (labels brought) read
  sound : read.all isLabel = true
  directed : (isTurned read && !read.all Unicode.isDirected) = false
  writes : List.Forall₂ (write? · = some ·) read written
  joined : name.toList = ['.'].intercalate written

theorem toAscii?_eq_some_iff :
    toAscii? text = some name ↔ ∃ brought read written, Formed text name brought read written := by
  have joins (written : List (List Char)) :
      ".".intercalate (written.map String.ofList) = name ↔ name.toList = ['.'].intercalate written := by
    rw [← String.toList_inj, eq_comm, String.toList_intercalate]
    simp [Function.comp_def]
  simp only [toAscii?, Option.bind_eq_bind, Option.bind_none, Option.ite_none_left_eq_some,
    Option.bind_eq_some_iff, Bool.not_eq_true, Bool.not_eq_false', Option.pure_def, Option.some.injEq, mapM_eq_some_iff, joins]
  constructor
  · rintro ⟨brought, starts, allowed, read, reads, sound, directed, written, writes, joined⟩
    exact ⟨brought, read, written, starts, allowed, reads, sound, directed, writes,
      joined⟩
  · rintro ⟨brought, read, written, formed⟩
    exact ⟨brought, formed.starts, formed.allowed, read, formed.reads, formed.sound,
      formed.directed, written, formed.writes, formed.joined⟩

/-- All labels that are written read back, and each was read from a label. -/
theorem reads_written {labels read written : List (List Char)}
    (reads : List.Forall₂ (read? · = some ·) labels read)
    (writes : List.Forall₂ (write? · = some ·) read written) :
    List.Forall₂ (read? · = some ·) written read ∧
      ∀ part ∈ written, ∃ label ∈ labels, ∃ text, read? label = some text ∧ write? text = some part := by
  induction reads generalizing written with
  | nil =>
    cases writes
    exact ⟨.nil, nofun⟩
  | cons came _ ih =>
    cases writes with
    | cons went more =>
      obtain ⟨back, sources⟩ := ih more
      refine ⟨.cons (read?_of_write? came went) back, fun part member => ?_⟩
      rcases List.mem_cons.mp member with rfl | later
      · exact ⟨_, .head _, _, came, went⟩
      · obtain ⟨label, inside, text, read⟩ := sources part later
        exact ⟨label, .tail _ inside, text, read⟩

variable {brought : List Char} {texts parts : List (List Char)}

/-- No character of a label that is written parts names or is left out of them. -/
theorem Formed.plain (formed : Formed text name brought texts parts) {part : List Char}
    (inside : part ∈ parts) (member : c ∈ part) : isAscii c = true ∧ isForbidden c = false ∧ c ≠ '.' := by
  obtain ⟨label, among, read, came, went⟩ := (reads_written formed.reads formed.writes).2 part inside
  rcases mem_of_write? came went member with ⟨kept, ascii⟩ | mark | digit
  · obtain ⟨source, stop⟩ := mem_of_mem_labels among kept
    exact ⟨ascii, Bool.not_eq_true _ ▸ List.any_eq_false.mp formed.allowed c source, stop⟩
  · exact plain_encodingMark c mark
  · exact plain_digitChars c digit

theorem Formed.settled (formed : Formed text name brought texts parts) (member : c ∈ name.toList) :
    isAscii c = true ∧ isForbidden c = false := by
  rw [formed.joined] at member
  rcases Text.mem_intercalate member with stop | ⟨part, inside, among⟩
  · cases List.mem_singleton.mp stop
    decide
  · exact (formed.plain inside among).imp_right And.left

/-- The characters of a name in its form are ASCII, without capitals and signs that part a URL. -/
theorem settled_of_toAscii? (formed : toAscii? text = some name) (member : c ∈ name.toList) :
    isAscii c = true ∧ isForbidden c = false := by
  obtain ⟨brought, texts, parts, formed⟩ := toAscii?_eq_some_iff.mp formed
  exact formed.settled member

theorem bring?_eq_self (settled : ∀ c ∈ chars, isAscii c = true ∧ isForbidden c = false) :
    bring? chars = some chars := by
  rw [bring?, if_pos (List.all_eq_true.mpr fun c member => (settled c member).1),
    List.map_congr_left fun c member => toLower_eq_self (settled c member).2, List.map_id']

theorem toAscii?_idem (formed : toAscii? text = some name) : toAscii? name = some name := by
  obtain ⟨brought, texts, parts, formed⟩ := toAscii?_eq_some_iff.mp formed
  have settled := fun c => formed.settled (c := c)
  have filled : parts ≠ [] := by
    rintro rfl
    have count := formed.reads.length_eq.trans formed.writes.length_eq
    rw [labels_eq_splitOn] at count
    exact List.splitOn_ne_nil '.' brought (List.length_eq_zero_iff.mp count)
  have apart : labels name.toList = parts := by
    rw [formed.joined, labels_eq_splitOn]
    exact List.splitOn_intercalate '.' (fun part inside stop => (formed.plain inside stop).2.2 rfl) filled
  refine toAscii?_eq_some_iff.mpr ⟨name.toList, texts, parts, bring?_eq_self settled, ?_, ?_, formed.sound,
    formed.directed, formed.writes, formed.joined⟩
  · exact List.any_eq_false.mpr fun c member => Bool.eq_false_iff.mp (settled c member).2
  · rw [apart]
    exact (reads_written formed.reads formed.writes).1

theorem toAscii?_of_plain (settled : ∀ c ∈ name.toList, isAscii c = true ∧ isForbidden c = false)
    (unmarked : ∀ label ∈ labels name.toList, encodingMark.isPrefixOf? label = none) :
    toAscii? name = some name := by
  have ascii {label : List Char} (inside : label ∈ labels name.toList) {c : Char} (member : c ∈ label) :
      c.toNat < 128 :=
    isAscii_iff.mp (settled c (mem_of_mem_labels inside member).1).1
  have reads : List.Forall₂ (read? · = some ·) (labels name.toList) (labels name.toList) :=
    List.forall₂_same.mpr fun label inside => by rw [read?, unmarked label inside]
  have writes : List.Forall₂ (write? · = some ·) (labels name.toList) (labels name.toList) :=
    List.forall₂_same.mpr fun label inside => by
      rw [write?, if_pos (List.all_eq_true.mpr fun c member => isAscii_iff.mpr (ascii inside member))]
  have sound : (labels name.toList).all isLabel = true := by
    refine List.all_eq_true.mpr fun label inside => ?_
    have begins : label.head?.any Unicode.isMark = false := by
      cases label with
      | nil => rfl
      | cons c rest =>
        rw [List.head?_cons, Option.any_some]
        exact Unicode.isMark_ascii (ascii inside (.head _))
    rw [isLabel, begins, Unicode.joinersFit_ascii fun c member => ascii inside member]
    rfl
  have straight : isTurned (labels name.toList) = false :=
    List.any_eq_false.mpr fun label inside => Bool.not_eq_true _ ▸ List.any_eq_false.mpr fun c member =>
      Bool.eq_false_iff.mp (Unicode.turns_ascii (ascii inside member))
  refine toAscii?_eq_some_iff.mpr ⟨name.toList, _, _, bring?_eq_self settled, ?_, reads, sound, ?_, writes, ?_⟩
  · exact List.any_eq_false.mpr fun c member => Bool.eq_false_iff.mp (settled c member).2
  · rw [straight, Bool.false_and]
  · rw [labels_eq_splitOn, List.intercalate_splitOn]

end EntitlementRules.Domain
