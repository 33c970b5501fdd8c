import EntitlementRules.Text.Split
import EntitlementRules.Text.Utf8

/-! Files: a tree of files and folders below one folder, the paths that lead to them, and the refusals of
the operating system. -/
namespace EntitlementRules

/-- Why a path cannot be read or written. -/
inductive FileError where
  | notFound
  | notFolder
  | isFolder
  | nameTooLong
  | nulInPath
  | notUtf8
  /-- A refusal of the operating system, in its own words. -/
  | other (text : String)
  deriving Repr, DecidableEq

def FileError.message : FileError → String
  | notFound => "No such file or directory (os error 2)"
  | notFolder => "Not a directory (os error 20)"
  | isFolder => "Is a directory (os error 21)"
  | nameTooLong => "File name too long (os error 36)"
  | nulInPath => "file name contained an unexpected NUL byte"
  | notUtf8 => "stream did not contain valid UTF-8"
  | other text => text

/-- What a program can see of files: whether a path leads anywhere, and what a file holds. -/
structure Files where
  stat : String → Except FileError Unit
  read : String → Except FileError Bytes

def Files.readText (files : Files) (path : String) : Except FileError String := do
  match Text.Utf8.decode? (← files.read path) with
  | some text => return text
  | none => throw .notUtf8

namespace Files

/-- Whether a path leads to a file, which may still refuse to be read. All that is no folder counts as one. -/
def isFile (files : Files) (path : String) : Bool :=
  match files.stat path, files.read path with
  | .error _, _ | _, .error .isFolder => false
  | _, _ => true

/-- A file with its content, or a folder. -/
inductive Entry where
  | file (content : Bytes)
  | folder
  deriving Repr, DecidableEq

/-- The names that lead from the top folder to a place below it. -/
abbrev Place := List String

/-- A folder that relative paths start from, with what it holds. `home` is its own absolute path. Nothing
outside it is known. -/
structure Tree where
  home : String
  entries : List (Place × Entry)
  deriving Repr

namespace Tree

def below (place inner : Place) : Bool := place.isPrefixOf inner && place != inner

/-- What stands at a place. Folders on the way to an entry need no entry of their own. -/
def at? (tree : Tree) (place : Place) : Option Entry :=
  match tree.entries.lookup place with
  | some entry => some entry
  | none =>
    if place = [] || tree.entries.any fun (inner, _) => below place inner then some .folder else none

/-- Follows the steps of a path from a place. An empty step or a point stays in a folder, two points lead
to the folder above; above the top nothing is known. -/
def walk (tree : Tree) : (place : Place) → (steps : List String) → Except FileError Place
  | place, [] => .ok place
  | place, step :: rest =>
    match tree.at? place with
    | none => .error .notFound
    | some (.file _) => .error .notFolder
    | some .folder =>
      if step = "" || step = "." then walk tree place rest
      else if step = ".." then
        if place = [] then .error .notFound else walk tree place.dropLast rest
      else if 255 < step.utf8ByteSize then .error .nameTooLong
      else walk tree (place ++ [step]) rest

/-- The steps of a text that is split at its slashes. -/
def splitSteps (path : String) : List String := Text.split '/' path

/-- The steps of a path below the top folder. An absolute path must start with the folder's own. -/
def steps (tree : Tree) (path : String) : Except FileError (List String) :=
  if path = "" then .error .notFound
  else if path.toList.contains '\x00' then .error .nulInPath
  else if path.toList.head? != some '/' then .ok (splitSteps path)
  else if tree.home.toList.isPrefixOf path.toList then
    match path.toList.drop tree.home.length with
    | [] => .ok ["."]
    | '/' :: rest => .ok (splitSteps (String.ofList rest))
    | _ => .error .notFound
  else .error .notFound

/-- The place that a path leads to, with what stands there. -/
def find (tree : Tree) (path : String) : Except FileError (Place × Entry) := do
  let place ← tree.walk [] (← tree.steps path)
  match tree.at? place with
  | some entry => return (place, entry)
  | none => throw .notFound

/-- The tree as a program sees it. -/
def view (tree : Tree) : Files where
  stat path := (tree.find path).map fun _ => ()
  read path := do
    match ← tree.find path with
    | (_, .file content) => return content
    | (_, .folder) => throw .isFolder

def set (tree : Tree) (place : Place) (entry : Entry) : Tree :=
  { tree with entries := (place, entry) :: tree.entries.filter (·.1 != place) }

/-- Writes a file, which is made where its folder exists. -/
def write (tree : Tree) (path : String) (content : Bytes) : Except FileError Tree := do
  let steps ← tree.steps path
  match steps.getLast? with
  | none => throw .notFound
  | some name =>
    let folder ← tree.walk [] steps.dropLast
    match tree.at? folder with
    | none => throw .notFound
    | some (.file _) => throw .notFolder
    | some .folder =>
      if name = "" || name = "." || name = ".." then throw .isFolder
      else if 255 < name.utf8ByteSize then throw .nameTooLong
      else if tree.at? (folder ++ [name]) = some .folder then throw .isFolder
      else return tree.set (folder ++ [name]) (.file content)

/-- The tree of a listing of paths, each with the content of a file or with none for a folder. -/
def ofListing (home : String) (listing : List (String × Option Bytes)) : Tree :=
  listing.foldl (fun tree (path, content) =>
    let place := (splitSteps path).filter (fun step => step != "" && step != ".")
    tree.set place (match content with | some bytes => .file bytes | none => .folder)) ⟨home, []⟩

/-- The files of a tree that another tree lacks or holds with another content. -/
def changesFrom (after before : Tree) : List (Place × Bytes) :=
  after.entries.filterMap fun (place, entry) =>
    match entry with
    | .file content => if before.at? place = some entry then none else some (place, content)
    | .folder => none

end Tree

end Files

end EntitlementRules
