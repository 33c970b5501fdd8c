import EntitlementRules.Http.Scripted
import EntitlementRules.Main
import EntitlementRules.Proofs.Verification.Detection
import EntitlementRules.Proofs.Verification.Neutrality
import EntitlementRules.Proofs.Verification.Restoration
import EntitlementRules.Proofs.Verification.Verdict
import EntitlementRules.Proofs.Client.Calls
import EntitlementRules.Proofs.Command.ExitCode
import EntitlementRules.Proofs.Command.Saved
import EntitlementRules.Server.InMemory
import EntitlementRules.Server.Scripted
import EntitlementRules.Proofs.Text.Utf8.WellFormed
import EntitlementRules.Proofs.Rules.Marker
import EntitlementRules.Proofs.Command.Upload
import EntitlementRules.Proofs.Command.Listing
import EntitlementRules.Proofs.Configuration.Fault
import EntitlementRules.Proofs.Program.Start
import EntitlementRules.Proofs.Json.Grammar
import EntitlementRules.Proofs.Json.Literal
import EntitlementRules.Proofs.Json.Whole
import EntitlementRules.Proofs.Text.Blank
import EntitlementRules.Proofs.Client.Answered
import EntitlementRules.Proofs.Client.Listing
import EntitlementRules.Proofs.Client.Refusal
import EntitlementRules.Proofs.Json.Exact
import EntitlementRules.Proofs.Json.Integer
import EntitlementRules.Proofs.Json.Ordered
import EntitlementRules.Proofs.Json.Printing
import EntitlementRules.Proofs.Status.Acceptance
import EntitlementRules.Proofs.Status.RoundTrip
import EntitlementRules.Proofs.Configuration.Credentials
import EntitlementRules.Proofs.Client.SignIn
import EntitlementRules.Proofs.Url.Endpoint
import EntitlementRules.Proofs.Url.Normal
import EntitlementRules.Proofs.Client.Building
import EntitlementRules.Proofs.Status.Table
import EntitlementRules.Proofs.Url.Loopback
import EntitlementRules.Proofs.Rules.FirstLine
import EntitlementRules.Proofs.Verification.Ordering
