import EntitlementRules.Rules.Blob
import EntitlementRules.Status.Basic

/-! The calls that a rules server understands. A server holds one active rules record; the last upload
wins. -/
namespace EntitlementRules

inductive Call where
  /-- Report the status. -/
  | getStatus
  /-- Serve the active rules: custom ones, built-in ones or none. -/
  | listRules
  /-- Replace the active rules. -/
  | uploadRules (encoded : EncodedBlob)
  /-- Drop custom rules, if there are any. -/
  | deleteRules
  deriving Repr, DecidableEq

namespace Call

def operation : Call → String
  | getStatus => "get_status"
  | listRules => "list_rules"
  | uploadRules _ => "upload_rules"
  | deleteRules => "delete_rules"

abbrev Answer : Call → Type
  | getStatus => Status
  | listRules => EncodedBlob
  | uploadRules _ => Unit
  | deleteRules => Unit

abbrev Outcome (call : Call) : Type := Except RulesError call.Answer

end Call

/-- A party that answers calls and changes its state with each. -/
abbrev Backend (σ : Type) := (call : Call) → σ → call.Outcome × σ

end EntitlementRules
