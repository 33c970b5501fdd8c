import EntitlementRules.Files.Tree
import EntitlementRules.Verification.Report

/-! Why a command fails or breaks off, and the exit code that tells callers whose problem it is. -/
namespace EntitlementRules

inductive CommandError where
  /-- Something the caller asked for or gave is not acceptable. -/
  | validation (message : String)
  /-- Something went wrong along the way. -/
  | failure (message : String)
  deriving Repr, DecidableEq

namespace CommandError

def message : CommandError → String
  | validation message => message
  | failure message => message

def exitCode : CommandError → Nat
  | validation _ => 2
  | failure _ => 3

/-- The statuses with which a server blames the request. -/
def blamesRequest (status : Nat) : Bool := status == 400 || status == 409 || status == 422

/-- A request that the server blames is the caller's problem. -/
def ofRules (error : RulesError) : CommandError :=
  if error.status?.any blamesRequest then validation error.message else failure error.chain

/-- A run that could not start is judged by its cause. -/
def ofVerification : VerificationError → CommandError
  | .setup cause => ofRules cause
  | error => failure error.chain

end CommandError

/-- Why a run of a command ends before all is done. -/
inductive Halt where
  | failed (error : CommandError)
  /-- Standard output did not take a report, and the program breaks off. -/
  | unprinted (refusal : FileError)
  deriving Repr, DecidableEq

namespace Halt

def message : Halt → String
  | failed error => error.message
  | unprinted refusal => s!"failed printing to stdout: {refusal.message}"

def exitCode : Halt → Nat
  | failed error => error.exitCode
  | unprinted _ => 101

end Halt

end EntitlementRules
