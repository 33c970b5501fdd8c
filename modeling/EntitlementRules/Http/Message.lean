import EntitlementRules.Text.Utf8
import EntitlementRules.Url.Basic

/-! Requests and responses. -/
namespace EntitlementRules.Http

inductive Method where
  | get
  | post
  | delete
  deriving Repr, DecidableEq

def Method.name : Method → String
  | get => "GET"
  | post => "POST"
  | delete => "DELETE"

/-- Fields of a message, by their names in lower case. -/
abbrev Headers := List (String × String)

/-- The fields of a name. -/
def Headers.all (headers : Headers) (name : String) : List String :=
  (headers.filter (·.1 == name)).map (·.2)

def Headers.without (headers : Headers) (name : String) : Headers := headers.filter (·.1 != name)

/-- A request. Its URL names no user. -/
structure Request where
  method : Method
  url : Url
  headers : Headers := []
  body : Option Bytes := none
  deriving Repr

structure Response where
  status : Nat
  /-- Where the resource is said to be. -/
  location : Option String := none
  /-- The body, unless it broke off. -/
  body : Option Bytes := some []
  deriving Repr, DecidableEq

def Response.isSuccess (response : Response) : Bool :=
  200 ≤ response.status && response.status < 300

inductive Failure where
  /-- The network did not bring one, for a reason in its own words. -/
  | broken (reason : String)
  | tooManyRedirects
  | unsupportedScheme (scheme : String)
  deriving Repr, DecidableEq

def Failure.message : Failure → String
  | broken reason => reason
  | tooManyRedirects => "too many redirects"
  | unsupportedScheme scheme => s!"URL scheme '{scheme}' is not allowed"

def Failure.summary : Failure → String
  | broken _ => "error sending request"
  | tooManyRedirects => "error following redirect"
  | unsupportedScheme _ => "builder error"

/-- The name of a status code, where it has one. -/
def reason? : (status : Nat) → Option String
  | 100 => some "Continue"
  | 101 => some "Switching Protocols"
  | 102 => some "Processing"
  | 103 => some "Early Hints"
  | 200 => some "OK"
  | 201 => some "Created"
  | 202 => some "Accepted"
  | 203 => some "Non Authoritative Information"
  | 204 => some "No Content"
  | 205 => some "Reset Content"
  | 206 => some "Partial Content"
  | 207 => some "Multi-Status"
  | 208 => some "Already Reported"
  | 226 => some "IM Used"
  | 300 => some "Multiple Choices"
  | 301 => some "Moved Permanently"
  | 302 => some "Found"
  | 303 => some "See Other"
  | 304 => some "Not Modified"
  | 305 => some "Use Proxy"
  | 307 => some "Temporary Redirect"
  | 308 => some "Permanent Redirect"
  | 400 => some "Bad Request"
  | 401 => some "Unauthorized"
  | 402 => some "Payment Required"
  | 403 => some "Forbidden"
  | 404 => some "Not Found"
  | 405 => some "Method Not Allowed"
  | 406 => some "Not Acceptable"
  | 407 => some "Proxy Authentication Required"
  | 408 => some "Request Timeout"
  | 409 => some "Conflict"
  | 410 => some "Gone"
  | 411 => some "Length Required"
  | 412 => some "Precondition Failed"
  | 413 => some "Payload Too Large"
  | 414 => some "URI Too Long"
  | 415 => some "Unsupported Media Type"
  | 416 => some "Range Not Satisfiable"
  | 417 => some "Expectation Failed"
  | 418 => some "I'm a teapot"
  | 421 => some "Misdirected Request"
  | 422 => some "Unprocessable Entity"
  | 423 => some "Locked"
  | 424 => some "Failed Dependency"
  | 425 => some "Too Early"
  | 426 => some "Upgrade Required"
  | 428 => some "Precondition Required"
  | 429 => some "Too Many Requests"
  | 431 => some "Request Header Fields Too Large"
  | 451 => some "Unavailable For Legal Reasons"
  | 500 => some "Internal Server Error"
  | 501 => some "Not Implemented"
  | 502 => some "Bad Gateway"
  | 503 => some "Service Unavailable"
  | 504 => some "Gateway Timeout"
  | 505 => some "HTTP Version Not Supported"
  | 506 => some "Variant Also Negotiates"
  | 507 => some "Insufficient Storage"
  | 508 => some "Loop Detected"
  | 510 => some "Not Extended"
  | 511 => some "Network Authentication Required"
  | _ => none

def statusText (status : Nat) : String :=
  toString status ++ " " ++ (reason? status).getD "<unknown status code>"

/-- Whether a text may stand in a field: no control character but the tab. -/
def isFieldText (text : String) : Bool :=
  text.toList.all fun c => c == '\t' || (' ' ≤ c && c != '\x7f')

end EntitlementRules.Http
