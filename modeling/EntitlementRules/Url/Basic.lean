import EntitlementRules.Url.Host

/-! URLs, taken apart, and their texts. -/
namespace EntitlementRules

/-- The way to a resource: names with slashes between them, or a text without structure. -/
inductive Url.Path where
  | segments (names : List String)
  | opaqueText (text : String)
  deriving Repr, DecidableEq

/-- A URL. All texts are encoded as they are written. -/
structure Url where
  scheme : String
  username : String := ""
  password : Option String := none
  host : Option Host := none
  port : Option Nat := none
  path : Url.Path
  query : Option String := none
  fragment : Option String := none
  deriving Repr, DecidableEq

namespace Url

/-- The port of a scheme when none is given. -/
def defaultPort? (scheme : String) : Option Nat :=
  match scheme with
  | "http" => some 80
  | "https" => some 443
  | "ws" => some 80
  | "wss" => some 443
  | "ftp" => some 21
  | _ => none

/-- Whether a scheme has a meaning of its own. -/
def isSpecial (scheme : String) : Bool := scheme == "file" || (defaultPort? scheme).isSome

def Path.text : Path → String
  | segments names => String.join (names.map ("/" ++ ·))
  | opaqueText text => text

/-- The part of the text that names the user, up to the host. -/
def userText (url : Url) : String :=
  let password := match url.password with
    | some password => ":" ++ password
    | none => ""
  if url.username = "" && url.password.isNone then "" else url.username ++ password ++ "@"

/-- The part of the text between scheme and path. A path that starts with an empty name is kept apart
from the scheme where no host does it. -/
def authorityText (url : Url) : String :=
  match url.host with
  | some host =>
    let port := match url.port with
      | some port => ":" ++ toString port
      | none => ""
    "//" ++ url.userText ++ host.text ++ port
  | none =>
    match url.path with
    | .segments ("" :: _ :: _) => "/."
    | _ => ""

def originText (url : Url) : String := url.scheme ++ ":" ++ url.authorityText

def text (url : Url) : String :=
  url.originText ++ url.path.text
    ++ (match url.query with | some query => "?" ++ query | none => "")
    ++ (match url.fragment with | some fragment => "#" ++ fragment | none => "")

/-- What a request for the URL names to its party. -/
def target (url : Url) : String :=
  url.path.text ++ (match url.query with | some query => "?" ++ query | none => "")

/-- Whether a URL has a host that is the machine itself. -/
def isLoopback (url : Url) : Bool := url.host.any Host.isLoopback

def effectivePort? (url : Url) : Option Nat := url.port <|> defaultPort? url.scheme

/-- The URL without query and fragment, and with a slash at the end of its path. -/
def asFolder (url : Url) : Url :=
  { url with
    path := match url.path with
      | .segments names =>
        .segments (if names.getLast? = some "" then names else names ++ [""])
      | other => other
    query := none
    fragment := none }

end Url

end EntitlementRules
