import EntitlementRules.Rules.Call

/-! A server whose replies are laid down beforehand: each call, whatever its kind, takes the next one. -/
namespace EntitlementRules

/-- A reply. It refuses every call, or holds what suits some calls. -/
inductive Reply where
  | refuse (error : RulesError)
  | serve (status : Option Status) (rules : Option EncodedBlob) (accepts : Bool)

/-- A server with the replies that are left and the calls it received, in order. -/
structure ScriptedServer where
  replies : List Reply
  calls : List Call := []

namespace Reply

/-- The refusal of a call without a suitable reply. -/
def unscripted (call : Call) : RulesError := .transport call.operation "unscripted call"

/-- The value of a reply, or the refusal of the call. -/
def orUnscripted {α : Type} (call : Call) : Option α → Except RulesError α
  | some value => .ok value
  | none => .error (unscripted call)

def outcome (reply : Reply) : (call : Call) → call.Outcome := fun call =>
  match reply, call with
  | .refuse error, _ => .error error
  | .serve status _ _, .getStatus => orUnscripted .getStatus status
  | .serve _ rules _, .listRules => orUnscripted .listRules rules
  | .serve _ _ accepts, .uploadRules encoded =>
    orUnscripted (.uploadRules encoded) (if accepts then some () else none)
  | .serve _ _ accepts, .deleteRules =>
    orUnscripted .deleteRules (if accepts then some () else none)

end Reply

def ScriptedServer.answer : Backend ScriptedServer := fun call server =>
  let noted := server.calls ++ [call]
  match server.replies with
  | reply :: rest => (reply.outcome call, ⟨rest, noted⟩)
  | [] => (.error (Reply.unscripted call), ⟨[], noted⟩)

end EntitlementRules
