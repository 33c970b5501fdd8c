/-! Reading from the start of a list of characters, and the blanks, comments and line ends of a
configuration text. -/
namespace EntitlementRules.Toml

/-- What was taken from the start of a text, with the shorter text after it. -/
structure Read (α : Type) (text : List Char) where
  value : α
  rest : List Char
  shorter : rest.length < text.length

/-- A reader of something that starts at the first character of a text. -/
abbrev Reader (α : Type) := (text : List Char) → Option (Read α text)

/-- The same reading, seen as one from a longer text. -/
def Read.widen {α : Type} {text longer : List Char} (read : Read α text)
    (shorter : text.length ≤ longer.length) : Read α longer :=
  ⟨read.value, read.rest, Nat.lt_of_lt_of_le read.shorter shorter⟩

def Read.map {α β : Type} {text : List Char} (f : α → β) (read : Read α text) : Read β text :=
  ⟨f read.value, read.rest, read.shorter⟩

/-- The same reading, seen as one from the text with a character in front. -/
def Read.behind {α : Type} {text : List Char} (read : Read α text) (c : Char) : Read α (c :: text) :=
  read.widen (Nat.le_succ _)

/-- A reading that follows another one, seen as one from the whole text. -/
def Read.join {α β : Type} {text : List Char} (first : Read α text) (next : Read β first.rest) :
    Read β text :=
  next.widen (Nat.le_of_lt first.shorter)

def isBlank (c : Char) : Bool := c == ' ' || c == '\t'

def skipBlanks (text : List Char) : List Char := text.dropWhile isBlank

theorem length_skipBlanks_le (text : List Char) : (skipBlanks text).length ≤ text.length :=
  (List.dropWhile_sublist isBlank).length_le

/-- A reader that steps over blanks first. -/
def afterBlanks {α : Type} (reader : Reader α) : Reader α := fun text =>
  (reader (skipBlanks text)).map (·.widen (length_skipBlanks_le text))

/-- A character that is no control character; a tab counts as none. -/
def isShown (c : Char) : Bool := c == '\t' || (' ' ≤ c && c != '\x7f')

/-- The text after a line end. -/
def lineEnd : Reader Unit := fun text =>
  match text with
  | '\n' :: rest => some ⟨(), rest, Nat.lt_succ_self _⟩
  | '\r' :: '\n' :: rest => some ⟨(), rest, Nat.lt_succ_of_lt (Nat.lt_succ_self _)⟩
  | _ => none

/-- A comment together with the end of its line. -/
def commentLine : Reader Unit := fun text =>
  match text with
  | '#' :: rest =>
    (lineEnd (rest.dropWhile isShown)).map fun read =>
      read.widen (Nat.le_succ_of_le (List.dropWhile_sublist isShown).length_le)
  | _ => none

/-- The text after blanks, line ends and comments, where all of them may stand. -/
def skipLines (text : List Char) : List Char :=
  match lineEnd (skipBlanks text), commentLine (skipBlanks text) with
  | some read, _ => skipLines read.rest
  | none, some read => skipLines read.rest
  | none, none => skipBlanks text
termination_by text.length
decreasing_by
  all_goals
    have := length_skipBlanks_le text
    have := read.shorter
    omega

theorem length_skipLines_le (text : List Char) : (skipLines text).length ≤ text.length := by
  induction text using skipLines.induct with
  | case1 text read found ih =>
    have := length_skipBlanks_le text
    have := read.shorter
    rw [skipLines]; simp only [found]; omega
  | case2 text read missing found ih =>
    have := length_skipBlanks_le text
    have := read.shorter
    rw [skipLines]; simp only [missing, found]; omega
  | case3 text missing missing' =>
    rw [skipLines]; simp only [missing, missing']; exact length_skipBlanks_le text

/-- A reader that steps over blanks, line ends and comments first. -/
def afterLines {α : Type} (reader : Reader α) : Reader α := fun text =>
  (reader (skipLines text)).map (·.widen (length_skipLines_le text))

def symbol (expected : Char) : Reader Unit := fun text =>
  match text with
  | c :: rest => if c = expected then some ⟨(), rest, Nat.lt_succ_self _⟩ else none
  | [] => none

/-- The text after what may end a line: blanks, a comment, and the line end or the end of the text. -/
def finishLine (text : List Char) : Option { rest : List Char // rest.length ≤ text.length } :=
  have atMost := length_skipBlanks_le text
  match lineEnd (skipBlanks text), commentLine (skipBlanks text) with
  | some read, _ => some ⟨read.rest, Nat.le_trans (Nat.le_of_lt read.shorter) atMost⟩
  | none, some read => some ⟨read.rest, Nat.le_trans (Nat.le_of_lt read.shorter) atMost⟩
  | none, none =>
    match skipBlanks text with
    | [] => some ⟨[], Nat.zero_le _⟩
    | '#' :: rest => if rest.all isShown then some ⟨[], Nat.zero_le _⟩ else none
    | _ => none

end EntitlementRules.Toml
