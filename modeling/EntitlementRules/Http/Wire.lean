import EntitlementRules.Http.Message
import EntitlementRules.Text.Ascii
import EntitlementRules.Text.Blank
import EntitlementRules.Text.Digits
import EntitlementRules.Text.Split

/-! The bytes of requests and responses as a connection carries them. Every connection carries one request and
is closed by the party that answers. -/
namespace EntitlementRules.Http

/-- What ends a line. -/
def lineEnd : Bytes := [Ascii.carriageReturn, Ascii.lineFeed]

def lineBytes (line : String) : Bytes := Text.Utf8.encode line ++ lineEnd

/-- The host and port that a request is for. -/
def partyText (url : Url) : String :=
  (match url.host with | some host => host.text | none => "")
    ++ (match url.port with | some port => ":" ++ toString port | none => "")

/-- The fields of a request, with those that each request has. -/
def Request.fields (request : Request) : Headers :=
  let accept := if (request.headers.all "accept").isEmpty then [("accept", "*/*")] else []
  let length := request.body.toList.map fun body => ("content-length", toString body.length)
  ("host", partyText request.url) :: request.headers ++ accept ++ length ++ [("connection", "close")]

def Request.bytes (request : Request) : Bytes :=
  lineBytes (request.method.name ++ " " ++ request.url.target ++ " HTTP/1.1")
    ++ request.fields.flatMap (fun (name, value) => lineBytes (name ++ ": " ++ value))
    ++ lineEnd ++ request.body.getD []

/-! ## Responses -/

/-- The first line, with what follows it. -/
def takeLine? : Bytes → Option (Bytes × Bytes)
  | [] => none
  | b :: rest =>
    if b = Ascii.lineFeed then some ([], rest)
    else (takeLine? rest).map fun (line, rest) =>
      (if b = Ascii.carriageReturn ∧ line = [] then [] else b :: line, rest)

theorem takeLine?_length {input line rest : Bytes} (taken : takeLine? input = some (line, rest)) :
    rest.length < input.length := by
  induction input generalizing line with
  | nil => simp [takeLine?] at taken
  | cons b tail ih =>
    rw [takeLine?] at taken
    split at taken
    · obtain ⟨_, rfl⟩ := Prod.mk.inj (Option.some.inj taken)
      simp
    · obtain ⟨⟨first, left⟩, found, equal⟩ := Option.map_eq_some_iff.1 taken
      obtain ⟨_, rfl⟩ := Prod.mk.inj equal
      exact Nat.lt_succ_of_lt (ih found)

/-- A field of a line, by its name in lower case. -/
def field? (line : Bytes) : Option (String × String) :=
  (Text.cut? ':' (Text.Utf8.decodeLossy line)).map fun (name, value) =>
    (String.ofList (name.toList.map Char.toLower), Text.trim value)

/-- The fields up to an empty line, with what follows it. -/
def takeFields? (input : Bytes) : Option (Headers × Bytes) :=
  match _found : takeLine? input with
  | none => none
  | some ([], rest) => some ([], rest)
  | some (line, rest) => (takeFields? rest).map fun (fields, rest) =>
      ((field? line).toList ++ fields, rest)
termination_by input.length
decreasing_by exact takeLine?_length _found

/-- The number that hexadecimal digits at the start of a line write. -/
def sizeOf (line : Bytes) : Nat :=
  (line.map Ascii.hexValue?).takeWhile Option.isSome
    |>.foldl (fun value digit => value * 16 + digit.getD 0) 0

/-- The content of a body that comes in pieces, each behind its size; a size of zero ends it. -/
def joinPieces? (input : Bytes) : Option Bytes :=
  match _found : takeLine? input with
  | none => none
  | some (line, rest) =>
    let size := sizeOf line
    if size = 0 then some []
    else if rest.length < size then none
    else (joinPieces? (rest.drop (size + 2))).map (rest.take size ++ ·)
termination_by input.length
decreasing_by
  have shorter := takeLine?_length _found
  simp only [List.length_drop]
  omega

/-- The body of a response as its fields describe it, unless it broke off. -/
def bodyFrom (fields : Headers) (rest : Bytes) : Option Bytes :=
  if fields.all "transfer-encoding" |>.contains "chunked" then joinPieces? rest
  else
    match (fields.all "content-length").head?.bind fun text =>
        Text.decimalBelow? (Nat.pow 2 64) text.toList with
    | some length => if rest.length < length then none else some (rest.take length)
    | none => some rest

/-- The status of a first line. -/
def status? (line : Bytes) : Option Nat :=
  match Text.split ' ' (Text.Utf8.decodeLossy line) with
  | _ :: status :: _ => Text.decimalBelow? 1000 status.toList
  | _ => none

/-- The response that a connection brought. Provisional responses are passed over. -/
def Response.ofBytes? (input : Bytes) : Option Response :=
  match takeLine? input with
  | none => none
  | some (line, rest) => do
    let status ← status? line
    let (fields, rest) ← takeFields? rest
    if status < 200 then
      if rest.length < input.length then Response.ofBytes? rest else none
    else
      let hasBody := status ≠ 204 ∧ status ≠ 304
      return {
        status
        location := (fields.all "location").head?
        body := if hasBody then bodyFrom fields rest else some [] }
termination_by input.length

end EntitlementRules.Http
