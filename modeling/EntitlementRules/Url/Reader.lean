import EntitlementRules.Url.Basic

/-! Reading URLs, alone or relative to another one. Spaces and control characters around a text are left
out, tabs and line ends everywhere. -/
namespace EntitlementRules.Url

/-! ## Characters -/

def isIgnored (c : Char) : Bool := c == '\t' || c == '\n' || c == '\r'

/-- The characters of a text that count. -/
def significant (text : String) : List Char :=
  let start := text.toList.dropWhile (· ≤ ' ')
  ((start.reverse.dropWhile (· ≤ ' ')).reverse).filter (!isIgnored ·)

/-- A slash, or in a scheme with a meaning of its own a backslash too. -/
def isSlash (special : Bool) (c : Char) : Bool := c == '/' || (special && c == '\\')

/-- A character that ends the part of a URL with the host. -/
def endsAuthority (special : Bool) (c : Char) : Bool := isSlash special c || c == '?' || c == '#'

/-- A character that ends the path of a URL. -/
def endsPath (c : Char) : Bool := c == '?' || c == '#'

def isSchemePart (c : Char) : Bool := c.isAlphanum || c == '+' || c == '-' || c == '.'

/-- The scheme at the start of a text, with what follows its colon. -/
def scheme? (text : List Char) : Option (String × List Char) :=
  match text with
  | c :: _ =>
    match text.span isSchemePart with
    | (name, ':' :: rest) =>
      if c.isAlpha then some (String.ofList (name.map Char.toLower), rest) else none
    | _ => none
  | [] => none

/-! ## Authority -/

/-- What an authority says of the user: a name and, if it is not empty, a password. -/
def credentials (text : List Char) : String × Option String :=
  let encode (part : List Char) : String := String.ofList (Percent.encode Percent.userinfo part)
  match text.span (· != ':') with
  | (name, _ :: password) =>
    (encode name, if password.isEmpty then none else some (encode password))
  | (name, []) => (encode name, none)

/-- A text cut at the last at sign. -/
def cutAtLast? (text : List Char) : Option (List Char × List Char) :=
  match text.reverse.span (· != '@') with
  | (after, _ :: before) => some (before.reverse, after.reverse)
  | (_, []) => none

/-- The characters up to the end of a host, and the rest. A colon between brackets belongs to the host. -/
def hostSpan (special : Bool) (inBrackets : Bool) : List Char → List Char × List Char
  | [] => ([], [])
  | c :: rest =>
    if (c == ':' && !inBrackets) || endsAuthority special c then ([], c :: rest)
    else
      let inBrackets := if c == '[' then true else if c == ']' then false else inBrackets
      let (host, after) := hostSpan special inBrackets rest
      (c :: host, after)

def portValue? (digits : List Char) : Option Nat :=
  let value := digits.foldl (fun value c => value * 10 + (c.toNat - '0'.toNat)) 0
  if value ≤ 65535 then some value else none

/-- A port after its colon, with what follows. The port of the scheme is not kept. -/
def readPort (scheme : String) (text : List Char) : Except Error (Option Nat × List Char) :=
  let (digits, rest) := text.span Char.isDigit
  let ends := match rest with
    | [] => true
    | c :: _ => endsAuthority true c
  if !ends then .error .invalidPort
  else if digits.isEmpty then .ok (none, rest)
  else
    match portValue? digits with
    | none => .error .invalidPort
    | some value => .ok (if defaultPort? scheme = some value then none else some value, rest)

/-- A URL up to its path. -/
structure Origin where
  scheme : String
  username : String := ""
  password : Option String := none
  host : Option Host := none
  port : Option Nat := none

/-- A URL with an origin. -/
def Origin.withPath (origin : Origin) (path : Path) (query fragment : Option String) : Url :=
  ⟨origin.scheme, origin.username, origin.password, origin.host, origin.port, path, query, fragment⟩

/-- What comes before the path of a URL. -/
def origin (url : Url) : Origin :=
  ⟨url.scheme, url.username, url.password, url.host, url.port⟩

/-- The user, host and port after two slashes, with the rest. -/
def authority (scheme : String) (text : List Char) : Except Error (Origin × List Char) := do
  let special := isSpecial scheme
  let (before, after) := text.span fun c => !endsAuthority special c
  let ((username, password), rest) ←
    match cutAtLast? before with
    | none => pure (("", none), text)
    | some (user, hosts) =>
      if user.isEmpty && hosts.isEmpty && !after.isEmpty then throw .emptyHost
      else pure (credentials user, hosts ++ after)
  let (hostText, rest) := hostSpan special false rest
  if hostText.isEmpty && (special || rest.head? = some ':') then throw .emptyHost
  let host ← Host.parse special hostText
  let (port, rest) ←
    match rest with
    | ':' :: rest => readPort scheme rest
    | _ => pure (none, rest)
  if host = .domain "" && (username != "" || password.isSome) then throw .emptyHost
  return (⟨scheme, username, password, some host, port⟩, rest)

/-! ## Path, query and fragment -/

/-- A name in a path that stands for its folder. -/
def isSingleDot (name : String) : Bool := [".", "%2e", "%2E"].contains name

/-- A name in a path that stands for the folder above. -/
def isDoubleDot (name : String) : Bool :=
  ["..", ".%2e", ".%2E", "%2e.", "%2E.", "%2e%2e", "%2e%2E", "%2E%2e", "%2E%2E"].contains name

/-- A name that is a letter and a colon or a bar: a drive, which no step leads out of. -/
def isDrive (name : String) : Bool :=
  match name.toList with
  | [letter, mark] => letter.isAlpha && (mark == ':' || mark == '|')
  | _ => false

/-- The folder above a folder. -/
def parent (names : List String) : List String :=
  match names.getLast? with
  | some last => if isDrive last then names else names.dropLast
  | none => []

/-- Follows the names of a path from a folder. A dotted name at the end leads to the folder itself. -/
def resolve (folder : List String) : List String → List String
  | [] => folder
  | [last] =>
    if isDoubleDot last then parent folder ++ [""]
    else if isSingleDot last then folder ++ [""]
    else folder ++ [last]
  | name :: rest =>
    if isDoubleDot name then resolve (parent folder) rest
    else if isSingleDot name then resolve folder rest
    else resolve (folder ++ [name]) rest

/-- A list split at each element of a kind. -/
def splitWhere (ends : Char → Bool) : List Char → List (List Char)
  | [] => [[]]
  | c :: rest =>
    if ends c then [] :: splitWhere ends rest
    else
      match splitWhere ends rest with
      | first :: others => (c :: first) :: others
      | [] => [[c]]

def names (special : Bool) (text : List Char) : List String :=
  (splitWhere (isSlash special) text).map fun name =>
    String.ofList (Percent.encode Percent.paths name)

/-- A query and a fragment, each from its mark on. -/
def queryAndFragment (special : Bool) (text : List Char) : Option String × Option String :=
  let (front, fragment) := text.span (· != '#')
  let query := match front with
    | '?' :: rest =>
      let set := if special then Percent.specialQueries else Percent.queries
      some (String.ofList (Percent.encode set rest))
    | _ => none
  let fragment := match fragment with
    | _ :: rest => some (String.ofList (Percent.encode Percent.fragments rest))
    | [] => none
  (query, fragment)

/-- A URL whose path goes on from a folder. -/
def withTail (origin : Origin) (folder : List String) (text : List Char) : Url :=
  let special := isSpecial origin.scheme
  let (path, tail) := text.span fun c => !endsPath c
  let (query, fragment) := queryAndFragment special tail
  origin.withPath (.segments (resolve folder (names special path))) query fragment

/-- A URL with what follows its authority. Only other schemes may have no path at all. -/
def afterAuthority (origin : Origin) (text : List Char) : Url :=
  let special := isSpecial origin.scheme
  match text with
  | c :: rest =>
    if isSlash special c then withTail origin [] rest
    else if endsPath c && !special then
      let (query, fragment) := queryAndFragment special text
      origin.withPath (.segments []) query fragment
    else withTail origin [] text
  | [] => origin.withPath (.segments (if special then [""] else [])) none none

/-- A URL after the two slashes before its host. -/
def afterSlashes (scheme : String) (text : List Char) : Except Error Url := do
  let (origin, rest) ← authority scheme text
  return afterAuthority origin rest

/-! ## Files -/

/-- The names of a path to a file: a drive in front is written with a colon, and empty names in front of
all others are left out. -/
def fileNames (names : List String) : List String :=
  match names.dropWhile (· == "") with
  | [] => [""]
  | first :: rest =>
    (if isDrive first then String.ofList (first.toList.take 1 ++ [':']) else first) :: rest

/-- The URL of a file on a host. -/
def fileUrl (host : Host) (text : List Char) : Url :=
  let (path, tail) := text.span fun c => !endsPath c
  let (query, fragment) := queryAndFragment true tail
  let all := names true path
  let names := fileNames (resolve [] (if all.head? = some "" then all.drop 1 else all))
  (⟨"file", "", none, some (if (names.head?.any isDrive) then .domain "" else host), none⟩ :
    Origin).withPath (.segments names) query fragment

def file (text : List Char) : Except Error Url :=
  let slashes := (text.takeWhile (isSlash true)).length
  if slashes < 2 then .ok (fileUrl (.domain "") text)
  else
    let (hostText, rest) := (text.drop 2).span fun c => !endsAuthority true c
    if isDrive (String.ofList hostText) then .ok (fileUrl (.domain "") (text.drop 2))
    else if hostText.isEmpty then .ok (fileUrl (.domain "") rest)
    else do
      let host ← Host.parse true hostText
      return fileUrl (if host = .domain "localhost" then .domain "" else host) rest

/-! ## Whole URLs -/

/-- A URL of a scheme without a meaning of its own, after its scheme. -/
def otherUrl (scheme : String) (text : List Char) : Except Error Url :=
  match text with
  | '/' :: '/' :: rest => afterSlashes scheme rest
  | '/' :: rest => .ok (withTail { scheme } [] rest)
  | _ =>
    let (path, tail) := text.span fun c => !endsPath c
    let (query, fragment) := queryAndFragment false tail
    .ok (({ scheme } : Origin).withPath
      (.opaqueText (String.ofList (Percent.encode Percent.controls path))) query fragment)

def absolute (scheme : String) (text : List Char) : Except Error Url :=
  if scheme = "file" then file text
  else if isSpecial scheme then afterSlashes scheme (text.dropWhile (isSlash true))
  else otherUrl scheme text

def parse (text : String) : Except Error Url :=
  match scheme? (significant text) with
  | some (scheme, rest) => absolute scheme rest
  | none => .error .relativeWithoutBase

def Path.names : Path → List String
  | .segments names => names
  | .opaqueText _ => []

/-- What a text without a scheme leads to from a URL. -/
def relative (base : Url) (text : List Char) : Except Error Url :=
  let special := isSpecial base.scheme
  match text with
  | [] => .ok { base with fragment := none }
  | '?' :: _ =>
    let (query, fragment) := queryAndFragment special text
    .ok { base with query, fragment }
  | '#' :: _ => .ok { base with fragment := (queryAndFragment special text).2 }
  | c :: rest =>
    if isSlash true c then
      match rest with
      | d :: others =>
        if isSlash true d then
          afterSlashes base.scheme
            (if c == '/' && d == '/' then others else rest.dropWhile (isSlash true))
        else .ok (withTail base.origin [] rest)
      | [] => .ok (withTail base.origin [] [])
    else .ok (withTail base.origin base.path.names.dropLast text)

/-- The URL that a text leads to from another one. A text with the same scheme and less than two slashes
goes on from there too. -/
def join (base : Url) (text : String) : Except Error Url :=
  match scheme? (significant text) with
  | some (scheme, rest) =>
    if scheme = base.scheme && isSpecial scheme && scheme != "file"
        && (rest.takeWhile (isSlash true)).length < 2 then
      relative base rest
    else absolute scheme rest
  | none =>
    match base.path with
    | .opaqueText _ =>
      if (significant text).head? = some '#' then relative base (significant text)
      else .error .relativeToOpaque
    | .segments _ => relative base (significant text)

end EntitlementRules.Url
