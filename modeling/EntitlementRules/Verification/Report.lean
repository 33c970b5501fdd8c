import EntitlementRules.Rules.Error
import EntitlementRules.Status.Text
import EntitlementRules.Text.Quoted

/-! The outcome of a verification run: the checks, what became of the rules that were active before, and
the reasons for which a run does not pass. -/
namespace EntitlementRules

/-- An assertion of a verification run, in the order in which a run makes them. -/
inductive Check where
  | listRules
  | baselineVersion
  | syntheticVersionOrdering
  | uploadRoundtrip
  | uploadVersion
  | deleteRevertsVersion
  | deleteIdempotent
  deriving Repr, DecidableEq

namespace Check

def name : Check → String
  | listRules => "list_rules"
  | baselineVersion => "baseline_version"
  | syntheticVersionOrdering => "synthetic_version_ordering"
  | uploadRoundtrip => "upload_roundtrip"
  | uploadVersion => "upload_version"
  | deleteRevertsVersion => "delete_reverts_version"
  | deleteIdempotent => "delete_idempotent"

def all : List Check :=
  [listRules, baselineVersion, syntheticVersionOrdering, uploadRoundtrip, uploadVersion,
    deleteRevertsVersion, deleteIdempotent]

end Check

/-- How the rules that were active before a run were put back. -/
inductive Restore where
  | reuploaded
  | deleted
  | failed (detail : String)
  deriving Repr, DecidableEq

namespace Restore

def text : Restore → String
  | reuploaded => "original rules re-uploaded"
  | deleted => "custom rules cleared"
  | failed detail => s!"FAILED ({detail})"

def toJson : Restore → Json
  | reuploaded => .object [("outcome", .string "reuploaded")]
  | deleted => .object [("outcome", .string "deleted")]
  | failed detail => .object [("outcome", .string "failed"), ("detail", .string detail)]

/-- How a log line shows an outcome. -/
def debugText : Restore → String
  | reuploaded => "Reuploaded"
  | deleted => "Deleted"
  | failed detail => "Failed \x7b detail: " ++ Text.quote detail ++ " \x7d"

end Restore

structure Report where
  baselineVersion : String
  syntheticVersion : String
  passed : List Check
  restore : Restore
  deriving Repr, DecidableEq

namespace Report

def toJson (report : Report) : Json :=
  .object [("baseline_version", .string report.baselineVersion),
    ("synthetic_version", .string report.syntheticVersion),
    ("passed", .array (report.passed.map fun check => .string check.name)),
    ("restore", report.restore.toJson)]

def output (report : Report) : OutputFormat → String
  | .table => lineOutput (["baseline version: " ++ report.baselineVersion,
      "synthetic version: " ++ report.syntheticVersion]
      ++ report.passed.map (fun check => "  ok  " ++ check.name)
      ++ ["restore: " ++ report.restore.text])
  | .json => jsonOutput report.toJson

end Report

inductive VerificationError where
  /-- The active rules could not be captured, so nothing was changed. -/
  | setup (cause : RulesError)
  | check (check : Check) (detail : String)
  | call (operation : String) (cause : RulesError)
  /-- All checks passed, but the rules that were active before are not. -/
  | restore (detail : String)
  deriving Repr, DecidableEq

namespace VerificationError

def message : VerificationError → String
  | .setup _ => "could not capture the active rules"
  | .check failed detail => s!"check '{failed.name}' failed: {detail}"
  | .call operation _ => s!"{operation} failed during verification"
  | .restore detail =>
    s!"verification passed but the original rules could not be restored: {detail}"

/-- The error behind this one, where there is one. -/
def cause? : VerificationError → Option RulesError
  | .setup cause => some cause
  | .call _ cause => some cause
  | _ => none

/-- The message followed by all that lies behind it. -/
def chain (error : VerificationError) : String :=
  match error.cause? with
  | some cause => error.message ++ ": " ++ cause.chain
  | none => error.message

end VerificationError

end EntitlementRules
