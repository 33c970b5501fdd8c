import EntitlementRules.Toml.Reading

/-! Quoted strings: on one line or over several, with escapes between quotation marks and without them
between apostrophes. -/
namespace EntitlementRules.Toml

/-- The number that a hexadecimal digit of either case stands for. -/
def hexDigit? (c : Char) : Option Nat :=
  if '0' ≤ c && c ≤ '9' then some (c.toNat - '0'.toNat)
  else if 'a' ≤ c && c ≤ 'f' then some (c.toNat - 'a'.toNat + 10)
  else if 'A' ≤ c && c ≤ 'F' then some (c.toNat - 'A'.toNat + 10)
  else none

/-- The number that hexadecimal digits write. -/
def hexValue? (digits : List Char) : Option Nat :=
  digits.foldl (fun value c => do return (← value) * 16 + (← hexDigit? c)) (some 0)

/-- The character at a code point, surrogates and numbers beyond all code points excepted. -/
def charAt? (point : Nat) : Option Char :=
  if point.isValidChar then some (Char.ofNat point) else none

/-- The character that so many hexadecimal digits name. -/
def hexEscape (count : Nat) (text : List Char) : Option (Char × List Char) :=
  if text.length < count then none
  else ((hexValue? (text.take count)).bind charAt?).map (·, text.drop count)

/-- The character that an escape stands for, after its backslash. -/
def escape (text : List Char) : Option (Char × List Char) :=
  match text with
  | 'b' :: rest => some ('\x08', rest)
  | 'f' :: rest => some ('\x0c', rest)
  | 'n' :: rest => some ('\n', rest)
  | 'r' :: rest => some ('\r', rest)
  | 't' :: rest => some ('\t', rest)
  | '\\' :: rest => some ('\\', rest)
  | '"' :: rest => some ('"', rest)
  | 'u' :: rest => hexEscape 4 rest
  | 'U' :: rest => hexEscape 8 rest
  | _ => none

theorem length_hexEscape_le {count : Nat} {text rest : List Char} {c : Char}
    (found : hexEscape count text = some (c, rest)) : rest.length ≤ text.length := by
  unfold hexEscape at found
  split at found
  · simp at found
  · obtain ⟨_, _, same⟩ := Option.map_eq_some_iff.mp found
    have : rest = text.drop count := (Prod.mk.inj same).2.symm
    simp [this]

theorem length_escape_lt {text rest : List Char} {c : Char}
    (found : escape text = some (c, rest)) : rest.length < text.length := by
  unfold escape at found
  split at found
  case h_8 => exact Nat.lt_succ_of_le (length_hexEscape_le found)
  case h_9 => exact Nat.lt_succ_of_le (length_hexEscape_le found)
  all_goals simp_all

/-- A string on one line, after its opening quotation mark. -/
def basicBody : Reader (List Char) := fun text =>
  match text with
  | [] => none
  | '"' :: rest => some ⟨[], rest, Nat.lt_succ_self _⟩
  | '\\' :: rest =>
    match inspect : escape rest with
    | none => none
    | some (c, after) =>
      have shorter := length_escape_lt inspect
      (basicBody after).map fun read =>
        (read.map (c :: ·)).widen (by simp only [List.length_cons]; omega)
  | c :: rest =>
    if isShown c then (basicBody rest).map fun read => (read.map (c :: ·)).behind c
    else none
termination_by text => text.length
decreasing_by all_goals simp only [List.length_cons]; omega

/-- A string on one line, after its opening apostrophe. -/
def literalBody : Reader (List Char) := fun text =>
  match text with
  | [] => none
  | '\'' :: rest => some ⟨[], rest, Nat.lt_succ_self _⟩
  | c :: rest =>
    if isShown c then (literalBody rest).map fun read => (read.map (c :: ·)).behind c
    else none

/-- Blanks and line ends, all taken off. -/
def skipBlankLines (text : List Char) : List Char :=
  match text with
  | '\r' :: '\n' :: rest => skipBlankLines rest
  | c :: rest => if isBlank c || c == '\n' then skipBlankLines rest else text
  | [] => []

theorem length_skipBlankLines_le (text : List Char) :
    (skipBlankLines text).length ≤ text.length := by
  fun_induction skipBlankLines text with
  | case1 rest ih => simp only [List.length_cons]; omega
  | case2 c rest _ _ ih => simp only [List.length_cons]; omega
  | case3 => exact Nat.le_refl _
  | case4 => exact Nat.le_refl _

/-- What a line that a backslash ends is joined with: the text after all blanks and line ends. -/
def joinedLine? (text : List Char) : Option { rest : List Char // rest.length < text.length } :=
  match lineEnd (skipBlanks text) with
  | none => none
  | some read => some ⟨skipBlankLines read.rest, by
      have := length_skipBlankLines_le read.rest
      have := length_skipBlanks_le text
      have := read.shorter
      omega⟩

/-- The closing mark of a string over several lines: three marks, with up to two more that belong to the
string. Gives those and the rest. -/
def closing? (mark : Char) (text : List Char) : Option (Read (List Char) text) :=
  match text with
  | a :: b :: c :: rest =>
    if a = mark ∧ b = mark ∧ c = mark then
      match rest with
      | d :: e :: others =>
        if d = mark ∧ e = mark then some ⟨[mark, mark], others, by simp only [List.length_cons]; omega⟩
        else if d = mark then some ⟨[mark], e :: others, by simp only [List.length_cons]; omega⟩
        else some ⟨[], d :: e :: others, by simp only [List.length_cons]; omega⟩
      | [d] =>
        if d = mark then some ⟨[mark], [], by simp only [List.length_cons]; omega⟩
        else some ⟨[], [d], by simp only [List.length_cons]; omega⟩
      | [] => some ⟨[], [], by simp only [List.length_cons]; omega⟩
    else none
  | _ => none

/-- A string over several lines, after its opening quotation marks. -/
def basicLines : Reader (List Char) := fun text =>
  match closing? '"' text with
  | some read => some read
  | none =>
    match text with
    | [] => none
    | '\\' :: rest =>
      match joinedLine? rest with
      | some ⟨after, shorter⟩ =>
        (basicLines after).map (·.widen (Nat.le_succ_of_le (Nat.le_of_lt shorter)))
      | none =>
        match inspect : escape rest with
        | none => none
        | some (c, after) =>
          have shorter := length_escape_lt inspect
          (basicLines after).map fun read =>
            (read.map (c :: ·)).widen (by simp only [List.length_cons]; omega)
    | '\r' :: '\n' :: rest =>
      (basicLines rest).map fun read =>
        ((read.map ('\n' :: ·)).behind '\n').behind '\r'
    | c :: rest =>
      if isShown c || c == '\n' then
        (basicLines rest).map fun read => (read.map (c :: ·)).behind c
      else none
termination_by text => text.length
decreasing_by all_goals simp only [List.length_cons]; omega

/-- A string over several lines, after its opening apostrophes. -/
def literalLines : Reader (List Char) := fun text =>
  match closing? '\'' text with
  | some read => some read
  | none =>
    match text with
    | [] => none
    | '\r' :: '\n' :: rest =>
      (literalLines rest).map fun read =>
        ((read.map ('\n' :: ·)).behind '\n').behind '\r'
    | c :: rest =>
      if isShown c || c == '\n' then
        (literalLines rest).map fun read => (read.map (c :: ·)).behind c
      else none

/-- The text without a line end at its start. -/
def dropLineEnd (text : List Char) : List Char :=
  match lineEnd text with
  | some read => read.rest
  | none => text

theorem length_dropLineEnd_le (text : List Char) : (dropLineEnd text).length ≤ text.length := by
  unfold dropLineEnd
  split
  next read _ => exact Nat.le_of_lt read.shorter
  next => exact Nat.le_refl _

/-- A string over several lines, after its opening marks. A line end right after them is left out. -/
def linesAfter {text : List Char} (body : Reader (List Char)) (opened : List Char)
    (shorter : opened.length ≤ text.length) : Option (Read (List Char) text) :=
  (body (dropLineEnd opened)).map (·.widen (Nat.le_trans (length_dropLineEnd_le opened) shorter))

/-- A string on one line. -/
def quotedLine : Reader String := fun text =>
  match text with
  | '"' :: rest => (basicBody rest).map fun read => (read.map String.ofList).behind '"'
  | '\'' :: rest => (literalBody rest).map fun read => (read.map String.ofList).behind '\''
  | _ => none

def quotedText : Reader String := fun text =>
  match text with
  | '"' :: '"' :: '"' :: rest =>
    (linesAfter basicLines rest (by simp only [List.length_cons]; omega)).map (·.map String.ofList)
  | '\'' :: '\'' :: '\'' :: rest =>
    (linesAfter literalLines rest (by simp only [List.length_cons]; omega)).map (·.map String.ofList)
  | other => quotedLine other

end EntitlementRules.Toml
