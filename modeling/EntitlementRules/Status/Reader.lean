import EntitlementRules.Json.Reader
import EntitlementRules.Status.Basic

/-! Reading a status from JSON: each field of known name at most once and with a value of its kind; all
other members are kept. -/
namespace EntitlementRules.Status

open Json (Reader Read MemberReader)

/-- A value that is neither array nor object and that is accepted; others are refused by their kind, an
array or object at its start. -/
def expectScalar {α : Type} (expected : String) (accept : Json → Option α) : Reader α := fun text =>
  if text.head? = some Ascii.openBracket then
    .error (.before (.wrongKind (.array []) expected) text)
  else if text.head? = some Ascii.openBrace then
    .error (.before (.wrongKind (.object []) expected) text)
  else do
    let read ← Json.scalar text
    match accept read.value with
    | some value => return ⟨value, read.rest, read.shorter⟩
    | none => .error (.before (.wrongKind read.value expected) read.rest)

def text : Reader String := expectScalar "a string" Json.string?

/-- Accepts what another test accepts, and null as a value that is absent. -/
def orNull {α : Type} (accept : Json → Option α) : Json → Option (Option α)
  | .null => some none
  | value => (accept value).map some

def textOrNull : Reader (Option String) := expectScalar "a string" (orNull Json.string?)

def flagOrNull : Reader (Option Bool) :=
  expectScalar "a boolean" (orNull fun | .bool value => some value | _ => none)

def texts : Reader (List String) := fun bytes =>
  match bytes with
  | [] => expectScalar "a sequence" (fun _ => none) []
  | b :: rest =>
    if b = Ascii.openBracket then (Json.items text rest).map (·.behind b)
    else expectScalar "a sequence" (fun _ => none) (b :: rest)

/-- What was gathered from the members so far. A field that was null is given all the same. -/
structure Draft where
  rulesVersion : Option String := none
  rulesSource : Option (Option String) := none
  result : Option (Option Bool) := none
  version : Option (Option String) := none
  release : Option (Option String) := none
  standalone : Option (Option Bool) := none
  time : Option (Option String) := none
  capabilities : Option (List String) := none
  extra : Json.Members := []

/-- The status of a whole draft. -/
def Draft.finish? (draft : Draft) : Option Status := do
  return {
    rulesVersion := ← draft.rulesVersion
    rulesSource := draft.rulesSource.join
    result := draft.result.join
    version := draft.version.join
    release := draft.release.join
    standalone := draft.standalone.join
    time := draft.time.join
    capabilities := draft.capabilities.getD []
    extra := draft.extra }

/-- The colon after a key and the value after it. -/
def afterColon {α : Type} (reader : Reader α) : Reader α := fun rest => do
  let ⟨after, afterShorter⟩ ← Json.colon rest
  let read ← Json.afterBlanks reader after
  return ⟨read.value, read.rest, Nat.lt_trans read.shorter afterShorter⟩

/-- The fault for a key that was given before. A brace that closes the object right after the key still
counts as read. -/
def repeated (name : String) (rest : Bytes) : Json.Fault :=
  let after := Json.skipBlanks rest
  .before (.repeatedField name) (if after.head? = some Ascii.closeBrace then after.drop 1 else after)

/-- The value of a known field, which may be given once. -/
def once {α : Type} (name : String) (given : Option α) (reader : Reader α) (set : α → Draft) :
    Reader Draft := fun rest =>
  if given.isSome then .error (repeated name rest)
  else (afterColon reader rest).map (·.map set)

/-- How deep the value of another member may be nested, inside the status itself. -/
def extraDepth : Nat := Json.depthLimit - 1

def field : MemberReader Draft := fun draft key =>
  match key with
  | "rulesVersion" =>
    once key draft.rulesVersion text fun value => { draft with rulesVersion := some value }
  | "rulesSource" =>
    once key draft.rulesSource textOrNull fun value => { draft with rulesSource := some value }
  | "result" => once key draft.result flagOrNull fun value => { draft with result := some value }
  | "version" => once key draft.version textOrNull fun value => { draft with version := some value }
  | "release" => once key draft.release textOrNull fun value => { draft with release := some value }
  | "standalone" =>
    once key draft.standalone flagOrNull fun value => { draft with standalone := some value }
  | "timeUTC" => once key draft.time textOrNull fun value => { draft with time := some value }
  | "managerCapabilities" =>
    once key draft.capabilities texts fun value => { draft with capabilities := some value }
  | _ => fun rest =>
    (afterColon (Json.value extraDepth) rest).map (·.map fun value =>
      { draft with extra := Json.Members.insert key value draft.extra })

def reader : Reader Status := fun bytes =>
  match bytes with
  | [] => expectScalar "struct ServerStatus" (fun _ => none) []
  | b :: rest =>
    if b = Ascii.openBrace then do
      let read ← Json.members field {} rest
      match read.value.finish? with
      | some status => return ⟨status, read.rest, Nat.lt_succ_of_lt read.shorter⟩
      | none => .error (.before (.missingField "rulesVersion") read.rest)
    else expectScalar "struct ServerStatus" (fun _ => none) (b :: rest)

def parse (bytes : Bytes) : Except Json.Fault Status := Json.whole reader bytes

end EntitlementRules.Status
