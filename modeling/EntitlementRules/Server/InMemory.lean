import EntitlementRules.Rules.Call
import EntitlementRules.Rules.Sample

/-! A rules server that lives in memory. It holds at most one custom blob, keeps a log of its calls, and
misbehaves on demand. -/
namespace EntitlementRules

/-- What a server does instead of serving the active rules. -/
inductive ListingFault where
  | fail
  | alter
  deriving Repr, DecidableEq

/-- The faults of a server. All but the refusal of uploads show only once an upload was accepted. -/
structure Faults where
  misreportedVersion : Option String := none
  listing : Option ListingFault := none
  stickyVersion : Bool := false
  refusedUploads : Bool := false
  deriving Repr, DecidableEq

structure Server where
  /-- The version of the built-in rules. -/
  defaultVersion : Version := Sample.defaultVersion
  /-- Whether an empty text is served in place of the built-in rules. -/
  emptyDefault : Bool := false
  custom : Option EncodedBlob := none
  lastUpload : Option EncodedBlob := none
  /-- The calls received so far, in order. -/
  calls : List Call := []
  /-- How many uploads were accepted. -/
  uploads : Nat := 0
  faults : Faults := {}
  deriving Repr, DecidableEq

/-- A change to a server's faults. -/
inductive Fault where
  /-- Report a given version text. -/
  | misreportVersion (text : String)
  /-- Refuse to serve rules. -/
  | failListing
  /-- Append a line to the rules that are served. -/
  | alterListing
  /-- Keep reporting the version of the last upload after a deletion. -/
  | stickyVersion
  /-- Refuse all uploads. -/
  | failUploads
  /-- Clear all faults. -/
  | heal
  deriving Repr, DecidableEq

namespace Server

/-- Whether an upload was accepted, so that faults show. -/
def armed (server : Server) : Bool := 0 < server.uploads

def inject (server : Server) (fault : Fault) : Server :=
  { server with faults :=
      match fault with
      | .misreportVersion text => { server.faults with misreportedVersion := some text }
      | .failListing => { server.faults with listing := some .fail }
      | .alterListing => { server.faults with listing := some .alter }
      | .stickyVersion => { server.faults with stickyVersion := true }
      | .failUploads => { server.faults with refusedUploads := true }
      | .heal => {} }

/-- The version marked in a stored blob; the default version where none is marked. -/
def versionOf (server : Server) (stored : Option EncodedBlob) : Version :=
  (stored.bind fun encoded => encoded.decode.toOption.bind Blob.version?).getD server.defaultVersion

/-- The blob that the reported version is taken from. -/
def reported (server : Server) : Option EncodedBlob :=
  if server.faults.stickyVersion then server.custom <|> server.lastUpload else server.custom

/-- The version text that the status shows. -/
def shownVersion (server : Server) : String :=
  match server.faults.misreportedVersion with
  | some text => if server.armed then text else (server.versionOf server.reported).text
  | none => (server.versionOf server.reported).text

def status (server : Server) : Status where
  rulesVersion := server.shownVersion
  rulesSource := some (if server.custom.isSome then "database" else "default")
  result := some true

/-- The line that an altered listing ends with. -/
def alteration : Bytes := Text.Utf8.encode "\n// altered in storage"

def listing (server : Server) : Except RulesError EncodedBlob :=
  if server.faults.listing = some .fail && server.armed then
    .error (.server "list_rules" 500 "rules listing unavailable")
  else
    match server.custom with
    | some custom =>
      if server.faults.listing = some .alter && server.armed then
        custom.decode.map fun blob => (Blob.mk (blob.bytes ++ alteration)).encode
      else .ok custom
    | none =>
      if server.emptyDefault then .ok ⟨""⟩
      else .ok (Sample.builtinRules server.defaultVersion).encode

/-- What comes of an upload, apart from the call log. Only text that decodes is stored. -/
def store (server : Server) (encoded : EncodedBlob) : Except RulesError Server :=
  if server.faults.refusedUploads then
    .error (.server "upload_rules" 503 "rules storage offline")
  else
    encoded.decode.map fun _ =>
      { server with custom := some encoded, lastUpload := some encoded, uploads := server.uploads + 1 }

/-- The server with a call noted in its log. -/
def note (server : Server) (call : Call) : Server := { server with calls := server.calls ++ [call] }

def answer : Backend Server
  | .getStatus, server => (.ok server.status, server.note .getStatus)
  | .listRules, server => (server.listing, server.note .listRules)
  | .uploadRules encoded, server =>
    let noted := server.note (.uploadRules encoded)
    match noted.store encoded with
    | .ok stored => (.ok (), stored)
    | .error refusal => (.error refusal, noted)
  | .deleteRules, server => (.ok (), { server.note .deleteRules with custom := none })

end Server

end EntitlementRules
