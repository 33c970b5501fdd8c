import EntitlementRules.Toml.Draft
import EntitlementRules.Toml.Word

/-! Reading configuration texts. A text is a sequence of lines, each a header, a pair of a key and a value,
or empty; a value may run over several lines. -/
namespace EntitlementRules.Toml

def isKeyPart (c : Char) : Bool := c.isAlphanum || c == '_' || c == '-'

/-- A key, quoted or not. -/
def simpleKey : Reader String := fun text =>
  match text with
  | [] => none
  | c :: rest =>
    if isKeyPart c then
      some ⟨String.ofList (c :: rest.takeWhile isKeyPart), rest.dropWhile isKeyPart,
        Nat.lt_succ_of_le (List.dropWhile_sublist isKeyPart).length_le⟩
    else quotedLine (c :: rest)

/-- Keys with points between them; blanks may stand around each key. -/
def keyParts : Reader (List String) := fun text =>
  match afterBlanks simpleKey text with
  | none => none
  | some key =>
    match afterBlanks (symbol '.') key.rest with
    | none => some (key.map ([·]))
    | some point =>
      (keyParts point.rest).map fun more => key.join (point.join (more.map (key.value :: ·)))
termination_by text => text.length
decreasing_by exact Nat.lt_trans (Read.shorter _) (Read.shorter _)

/-- How many values may be nested in one another, and how many parts a key may have. -/
def nestingLimit : Nat := 79

/-- A key of at most so many parts. -/
def key : Reader (List String) := fun text =>
  match keyParts text with
  | some read => if read.value.length ≤ nestingLimit then some read else none
  | none => none

/-- A key, an equals sign and a value. -/
def pair (value : Reader Toml) : Reader (List String × Toml) := fun text => do
  let path ← key text
  let equals ← afterBlanks (symbol '=') path.rest
  let read ← afterBlanks value equals.rest
  return path.join (equals.join (read.map (path.value, ·)))

/-- The items of an array after its opening bracket. A comma may follow the last one. -/
def items (value : Reader Toml) : Reader (List Toml) := fun text =>
  match afterLines (symbol ']') text with
  | some read => some (read.map fun _ => [])
  | none =>
    match afterLines value text with
    | none => none
    | some first =>
      match afterLines (symbol ',') first.rest with
      | some comma =>
        (items value comma.rest).map fun more =>
          first.join (comma.join (more.map (first.value :: ·)))
      | none =>
        (afterLines (symbol ']') first.rest).map fun close =>
          first.join (close.map fun _ => [first.value])
termination_by text => text.length
decreasing_by exact Nat.lt_trans (Read.shorter _) (Read.shorter _)

/-- The pairs of an inline table, from the first one on. -/
def morePairs (value : Reader Toml) (table : TableDraft) : Reader TableDraft := fun text =>
  match pair value text with
  | none => none
  | some first =>
    match table.addPair first.value.1 first.value.2 with
    | none => none
    | some table =>
      match afterBlanks (symbol ',') first.rest with
      | some comma =>
        (morePairs value table comma.rest).map fun more => first.join (comma.join more)
      | none =>
        (afterBlanks (symbol '}') first.rest).map fun close => first.join (close.map fun _ => table)
termination_by text => text.length
decreasing_by exact Nat.lt_trans (Read.shorter _) (Read.shorter _)

/-- An inline table after its opening brace. -/
def inlineTable (value : Reader Toml) : Reader TableDraft := fun text =>
  match afterBlanks (symbol '}') text with
  | some read => some (read.map fun _ => .empty)
  | none => morePairs value .empty text

/-- A value that is neither array nor inline table. -/
def scalar : Reader Toml := fun text =>
  if text.head? = some '"' || text.head? = some '\'' then (quotedText text).map (·.map .string)
  else Word.reader text

/-- A value in which at most `depth` arrays and inline tables are nested. -/
def value : (depth : Nat) → Reader Toml
  | 0 => scalar
  | depth + 1 => fun text =>
    match text with
    | '[' :: rest =>
      (items (value depth) rest).map fun read => (read.map Toml.array).behind '['
    | '{' :: rest =>
      (inlineTable (value depth) rest).map fun read =>
        (read.map fun table => Toml.table table.finish).behind '{'
    | other => scalar other

/-- What a line of a configuration text says. -/
inductive Line where
  | blank
  /-- The header of a table, or of an element of an array of tables. -/
  | header (element : Bool) (path : List String)
  | pair (path : List String) (value : Toml)

/-- A header after its opening brackets. -/
def headerEnd (element : Bool) : Reader Line := fun text => do
  let path ← key text
  let close ← afterBlanks (symbol ']') path.rest
  if element then
    let last ← symbol ']' close.rest
    return path.join (close.join (last.map fun _ => .header true path.value))
  else return path.join (close.map fun _ => .header false path.value)

/-- A line that is not blank, up to what may end it. -/
def statement : Reader Line := fun text =>
  match text with
  | '[' :: '[' :: rest => (headerEnd true rest).map fun read => (read.behind '[').behind '['
  | '[' :: rest => (headerEnd false rest).map (·.behind '[')
  | other => (pair (value nestingLimit) other).map fun read =>
      read.map fun (path, value) => .pair path value

def line : Reader Line := fun text =>
  have atMost := length_skipBlanks_le text
  match lineEnd (skipBlanks text), commentLine (skipBlanks text) with
  | some read, _ => some ((read.map fun _ => .blank).widen atMost)
  | none, some read => some ((read.map fun _ => .blank).widen atMost)
  | none, none => do
    let read ← statement (skipBlanks text)
    let ⟨rest, shorter⟩ ← finishLine read.rest
    return (⟨read.value, rest, Nat.lt_of_le_of_lt shorter read.shorter⟩ : Read _ _).widen atMost

/-- A text that is read in part: its tables so far, and the path of the last header. -/
structure Progress where
  root : TableDraft := .empty
  current : List String := []

def Progress.take (progress : Progress) : Line → Option Progress
  | .blank => some progress
  | .header element path => do
    let root ← progress.root.openHeader element path
    return ⟨root, path⟩
  | .pair path value => do
    let root ← progress.root.alterAt .inner (·.addPair path value) progress.current
    return { progress with root }

/-- Whether nothing but blanks and a comment is left. -/
def isDone (text : List Char) : Bool :=
  match finishLine text with
  | some ⟨[], _⟩ => true
  | _ => false

def lines (progress : Progress) (text : List Char) : Option TableDraft :=
  match line text with
  | some read =>
    match progress.take read.value with
    | some next => lines next read.rest
    | none => none
  | none => if isDone text then some progress.root else none
termination_by text.length
decreasing_by exact read.shorter

/-- The table that a text writes, with its keys in the order of their characters. A byte order mark in
front is no part of the text. -/
def parse (text : String) : Option Table :=
  let content := if text.toList.head? = some '\ufeff' then text.toList.drop 1 else text.toList
  (lines {} content).map fun root => root.finish.mergeSort fun a b => a.1 ≤ b.1

end EntitlementRules.Toml
