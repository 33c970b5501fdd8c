import EntitlementRules.Proofs.Server.InMemory
import EntitlementRules.Proofs.Verification.Cleanup

/-! Restoration: what a verification run leaves in a server in memory. Synthetic rules never outlive a
run, whatever faults the server has. -/
namespace EntitlementRules.Verification

open Server (Reachable Sound)
open Session (Turn World callsIn serverAfter turnsIn)

/-- The first call that changes a server deletes its custom rules. -/
theorem Examined.deletes_first {turns : List Turn} {objection : Option VerificationError}
    (examined : Examined (requirements turns) turns objection) :
    ∃ later, turns.map (·.call) = .deleteRules :: later := by
  have followed := examined.calls_prefix
  cases turns with
  | nil => exact (examined.turns_ne_nil rfl).elim
  | cons turn rest =>
    have deletes : turn.call = .deleteRules := (List.cons_prefix_cons.mp followed).1
    exact ⟨rest.map (·.call), by rw [List.map_cons, deletes]⟩

/-- Where uploads are refused, nothing is stored after a deletion. -/
theorem custom_after_deletion {server : Server} (refused : server.faults.refusedUploads = true)
    (later : List Call) :
    (serverAfter Server.answer (.deleteRules :: later) server).custom = none := by
  have still : (Server.answer .deleteRules server).2.faults.refusedUploads = true := refused
  exact Server.custom_serverAfter_refused still rfl later

/-- The restoring call leaves the captured rules, unless they are blank or uploads are refused. -/
theorem custom_restored {server : Server} {captured : EncodedBlob} {blob : Blob}
    (decoded : captured.decode = .ok blob)
    (bare : server.faults.refusedUploads = true → server.custom = none) :
    (Server.answer (restoringCall captured) server).2.custom =
      if captured.text.toList.all Text.isBlank || server.faults.refusedUploads then none
      else some captured := by
  rw [restoringCall]
  cases captured.text.toList.all Text.isBlank with
  | true => rfl
  | false =>
    cases refused : server.faults.refusedUploads with
    | true =>
      rw [if_neg Bool.false_ne_true, Server.answer_refused refused]
      exact bare refused
    | false =>
      rw [if_neg Bool.false_ne_true, Server.answer_accepted refused decoded]
      rfl

/-- After a run, passed or not, a server in memory holds the rules that were captured, and none where
they were blank or uploads are refused. Without a capture its rules are untouched. -/
theorem run_leaves_captured_rules {world : World Server} (reachable : Reachable world.server)
    (pause : Nat) :
    ((run pause).runIn Server.answer world).2.server.custom =
      match (Server.answer .listRules world.server).1 with
      | .error _ => world.server.custom
      | .ok captured =>
        if captured.text.toList.all Text.isBlank || world.server.faults.refusedUploads then none
        else some captured := by
  have judged := run_judged Server.answer pause world
  have answered := Session.answered_turnsIn Server.answer (run pause) world
  rw [Session.server_runIn, callsIn]
  generalize turnsIn Server.answer (run pause) world = turns at judged answered ⊢
  generalize ((run pause).runIn Server.answer world).1 = result at judged
  cases judged with
  | uncaptured =>
    rw [← answered.1]
    rfl
  | @captured captured changes _ outcome _ examined _ =>
    rw [← answered.1]
    -- What was captured decodes, so only a refusal of all uploads keeps it from being stored again.
    obtain ⟨blob, decoded⟩ := reachable.sound.listing_decodes answered.1.symm
    obtain ⟨later, deletes⟩ := examined.deletes_first
    have last : (⟨.listRules, .ok captured⟩ :: changes ++ [restoringTurn captured outcome]).map
        (·.call) = (.listRules :: .deleteRules :: later) ++ [restoringCall captured] := by
      rw [List.map_append, List.map_cons, deletes, List.map_singleton, call_restoringTurn]
    rw [last, Session.serverAfter_append]
    have faults := Server.faults_serverAfter (.listRules :: .deleteRules :: later) world.server
    rw [← faults]
    refine custom_restored decoded fun refused => ?_
    exact custom_after_deletion (faults.symm ▸ refused) later

/-- A server that alters its listing once it is armed gets back the rules that it held. -/
theorem run_leaves_captured_rules_altered :
    Reachable (Server.inject { custom := some ⟨"QQ=="⟩ } .alterListing) ∧
      ((run 0).runIn Server.answer
        ⟨Server.inject { custom := some ⟨"QQ=="⟩ } .alterListing, ⟨"", []⟩, []⟩).2.server.custom =
          some ⟨"QQ=="⟩ := by
  have decoded : EncodedBlob.decode ⟨"QQ=="⟩ = .ok ⟨[65]⟩ := by decide
  have reachable := (Reachable.seeded Sample.defaultVersion false decoded).inject .alterListing
  exact ⟨reachable, (run_leaves_captured_rules reachable 0).trans (by decide)⟩

end EntitlementRules.Verification
