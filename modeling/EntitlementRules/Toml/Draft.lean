import EntitlementRules.Toml.Value

/-! Tables in the making: a configuration text names its tables in headers and in dotted keys, and each of
these may extend some of the tables that exist and must not touch the others. -/
namespace EntitlementRules.Toml

/-- What made a table. -/
inductive Origin where
  /-- A header of its own, or the text as a whole. -/
  | header
  /-- A header of a table inside it. -/
  | inner
  /-- A dotted key. -/
  | dotted
  deriving Repr, DecidableEq

/-- What a key of a table in the making stands for. -/
inductive Draft where
  | value (value : Toml)
  | table (origin : Origin) (members : List (String × Draft))
  /-- An array of tables, each under a header of its own. -/
  | tables (elements : List (List (String × Draft)))

/-- A table in the making. -/
structure TableDraft where
  origin : Origin
  entries : List (String × Draft)

namespace TableDraft

/-- The table that a text or an inline table starts as. -/
def empty : TableDraft := ⟨.header, []⟩

def find? (key : String) (table : TableDraft) : Option Draft := table.entries.lookup key

def set (key : String) (draft : Draft) (table : TableDraft) : TableDraft :=
  ⟨table.origin, table.entries.filter (·.1 != key) ++ [(key, draft)]⟩

/-- Changes the table at the end of a path. Tables that are missing on the way are made; an array of
tables stands for its last one. Dotted keys pass through tables only that have no header of their own. -/
def alterAt (made : Origin) (change : TableDraft → Option TableDraft) :
    (path : List String) → TableDraft → Option TableDraft
  | [], here => change here
  | key :: path, here =>
    match here.find? key with
    | none => do
      let inner ← alterAt made change path ⟨made, []⟩
      return here.set key (.table inner.origin inner.entries)
    | some (.value _) => none
    | some (.table origin entries) =>
      if made = .dotted ∧ origin = .header then none
      else do
        let inner ← alterAt made change path ⟨origin, entries⟩
        return here.set key (.table inner.origin inner.entries)
    | some (.tables elements) => do
      let inner ← alterAt made change path ⟨.header, elements.getLast?.getD []⟩
      return here.set key (.tables (elements.dropLast ++ [inner.entries]))

/-- Adds a value under a new key. A key that is not dotted goes into the table of a header, the last part
of a dotted key into a table that such keys made. -/
def addValue (dotted : Bool) (key : String) (value : Toml) (table : TableDraft) : Option TableDraft :=
  if dotted ≠ (table.origin = .dotted) then none
  else if (table.find? key).isSome then none
  else some (table.set key (.value value))

/-- Adds a value under a dotted key of one or more parts. -/
def addPair (path : List String) (value : Toml) (table : TableDraft) : Option TableDraft :=
  match path.getLast? with
  | none => none
  | some key =>
    alterAt .dotted (addValue (!path.dropLast.isEmpty) key value) path.dropLast table

/-- Opens the table of a header. It may have been made on the way to another one. -/
def openTable (key : String) (table : TableDraft) : Option TableDraft :=
  match table.find? key with
  | none => some (table.set key (.table .header []))
  | some (.table .inner entries) => some (table.set key (.table .header entries))
  | some _ => none

/-- Opens another table in an array of tables. -/
def openElement (key : String) (table : TableDraft) : Option TableDraft :=
  match table.find? key with
  | none => some (table.set key (.tables [[]]))
  | some (.tables elements) => some (table.set key (.tables (elements ++ [[]])))
  | some _ => none

/-- Opens what a header with a path of one or more keys names. -/
def openHeader (element : Bool) (path : List String) (table : TableDraft) : Option TableDraft :=
  match path.getLast? with
  | none => none
  | some key => alterAt .inner (if element then openElement key else openTable key) path.dropLast table

end TableDraft

namespace Draft

mutual

def finish : Draft → Toml
  | .value finished => finished
  | .table _ entries => .table (finishEntries entries)
  | .tables elements => .array (finishElements elements)

def finishEntries : List (String × Draft) → List (String × Toml)
  | [] => []
  | (key, draft) :: rest => (key, finish draft) :: finishEntries rest

def finishElements : List (List (String × Draft)) → List Toml
  | [] => []
  | entries :: rest => .table (finishEntries entries) :: finishElements rest

end

end Draft

def TableDraft.finish (table : TableDraft) : Table := Draft.finishEntries table.entries

end EntitlementRules.Toml
