import EntitlementRules.Base64
import EntitlementRules.Http.Message
import EntitlementRules.Text.Ascii

/-! How users sign in: with a name and a password in a field of the request. A URL can name them too. -/
namespace EntitlementRules.Http

/-- The field with which a user signs in. -/
def basicAuthorization (username : Bytes) (password : Bytes) : String :=
  "Basic " ++ Base64.encode (username ++ Ascii.colon :: password)

/-- The bytes that a part of a URL stands for, where they are text. -/
def decoded? (text : String) : Option Bytes :=
  let bytes := Percent.decode (Text.Utf8.encode text)
  if (Text.Utf8.decode? bytes).isSome then some bytes else none

/-- How the user signs in whom a URL names. -/
def urlAuthorization? (url : Url) : Option String := do
  let username ← decoded? url.username
  let password := url.password.bind decoded?
  if username.isEmpty && password.isNone then none
  else some (basicAuthorization username (password.getD []))

/-- A request to a URL. The user whom the URL names signs in. -/
def Request.to (url : Url) (method : Method) (headers : Headers) (body : Option Bytes) : Request where
  method := method
  url := { url with username := "", password := none }
  headers := headers ++ (urlAuthorization? url).toList.map ("authorization", ·)
  body := body

end EntitlementRules.Http
