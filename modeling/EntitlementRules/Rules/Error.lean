import EntitlementRules.Base64

/-! What can go wrong in an exchange about rules, and the words for it. -/
namespace EntitlementRules

inductive RulesError where
  /-- The request brought back no whole response. -/
  | transport (operation detail : String)
  /-- The server answered with a status that is no success. -/
  | server (operation : String) (status : Nat) (diagnostic : String)
  /-- A payload is not base64. -/
  | malformedBlob (cause : Base64.Error)
  /-- A text is not `MAJOR.MINOR`. -/
  | invalidVersion (text : String)
  /-- A success response does not carry what the operation expects. -/
  | unexpectedResponse (operation detail : String)
  deriving Repr, DecidableEq

namespace RulesError

def message : RulesError → String
  | transport operation detail => s!"transport failure during {operation}: {detail}"
  | server operation status diagnostic =>
    s!"server rejected {operation} with status {status}: {diagnostic}"
  | malformedBlob _ => "encoded rules blob is malformed"
  | invalidVersion text => s!"invalid rules version '{text}'"
  | unexpectedResponse operation detail => s!"unexpected {operation} response: {detail}"

/-- The words for what lies behind an error, where something does. -/
def cause? : RulesError → Option String
  | malformedBlob cause => some cause.message
  | _ => none

/-- The message followed by its cause. -/
def chain (error : RulesError) : String :=
  match error.cause? with
  | some cause => error.message ++ ": " ++ cause
  | none => error.message

/-- The status that a server error carries. -/
def status? : RulesError → Option Nat
  | server _ status _ => some status
  | _ => none

end RulesError

end EntitlementRules
