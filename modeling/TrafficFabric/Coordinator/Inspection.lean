import TrafficFabric.Coordinator.State

/-
  The self check of a coordinator: the flow accounting of
  its ledger, every open flow against what it is for, and
  the counters of the coordinator.

  The check walks hash tables, so which of several failures
  it reports depends on their order; whether it fails does
  not.
-/

namespace TrafficFabric

namespace Coordinator

def inspectServing (s : Coordinator) (flow : FlowRecord) : Result Unit :=
  match s.ledger.snapshotRequest flow.request with
  | none => .failure .internal "flow references a request that no longer exists"
  | some record =>
    if record.lifecycle = .cancelled then
      .failure .internal "cancelled request retains an open flow"
    else .ok ()

/- The transfer of a flow and the request that owns it. -/
def inspectCarrying (s : Coordinator) (flow : FlowRecord) : Result Unit :=
  match s.transfers.lookup flow.transfer with
  | none => .failure .internal "flow references a transfer that no longer exists"
  | some transfer =>
    if transfer.state.isTerminal then .failure .internal "terminal transfer retains an open flow"
    else if !transfer.request.isNil &&
        (s.ledger.snapshotRequest transfer.request).any
          (fun owner => owner.lifecycle.isTerminal) then
      .failure .internal ("transfer of a terminal request retains an open " ++ "flow")
    else .ok ()

def inspectFlow (s : Coordinator) (flow : FlowRecord) : Result Unit :=
  if flow.request.isNil && flow.transfer.isNil then .failure .internal "flow record has no subject"
  else if !flow.request.isNil then s.inspectServing flow
  else s.inspectCarrying flow

/- The open serving flows, as the check counts them. -/
def servingFlows (s : Coordinator) : UInt32 :=
  s.flows.values.foldl (fun count flow =>
      if flow.request.isNil then count else count + 1)
    0

/- The open bulk bytes, as the check sums them. -/
def openBulkBytes (s : Coordinator) : UInt64 :=
  s.flows.values.foldl (fun bytes flow =>
      if flow.bulk then bytes + flow.declaredBytes
      else bytes)
    0

/- The protected deferrals, as the check counts them. -/
def protectedDefers (s : Coordinator) : UInt32 :=
  s.defers.values.foldl (fun count record =>
      if record.starvationClass then count + 1 else count)
    0

def verifyCounters (s : Coordinator) : Result Unit :=
  if s.servingFlows ≠ s.ledger.accounting.activeFlowsTotal then
    .failure .internal ("coordinator and ledger disagree about active " ++ "serving flows")
  else if s.openBulkBytes ≠ s.bulkInFlightBytes then
    .failure .internal "bulk in-flight byte accounting diverged"
  else if s.protectedDefers ≠ s.streamingDeferrals then
    .failure .internal "streaming deferral counter diverged"
  else if s.config.limits.maxDeferRecords.toNat < s.defers.size then
    .failure .internal "deferral records exceed their configured ceiling"
  else if s.config.limits.ledger.maxActiveFlowsTotal < s.flows.size then
    .failure .internal "flow records exceed their configured ceiling"
  else .ok ()

def verifyInvariants (s : Coordinator) : Result Unit := do
  s.ledger.verifyClosure
  s.flows.values.forM s.inspectFlow
  s.verifyCounters

/- The check found a flow that outlived its request. -/
def OwnerFailure (result : Result Unit) : Prop :=
  result = .failure .internal "cancelled request retains an open flow" ∨
    result = .failure .internal ("transfer of a terminal request retains an open " ++ "flow")

theorem not_ownerFailure_ok : ¬ OwnerFailure (.ok ()) := by
  rintro (hSame | hSame)
  · cases hSame
  · cases hSame

/- Other checks fail with other texts. -/
theorem not_ownerFailure_failure {text : String}
    (hServing : text ≠ "cancelled request retains an open flow")
    (hCarrying : text ≠ "transfer of a terminal request retains " ++ "an open flow") :
    ¬ OwnerFailure (Result.failure .internal text) := by
  rintro (hSame | hSame)
  · exact hServing (congrArg Status.message (Except.error.inj hSame))
  · exact hCarrying (congrArg Status.message (Except.error.inj hSame))

/- The request a flow serves or its transfer is owned by. -/
def OwnedBy (s : Coordinator) (flow : FlowRecord) (request : RequestId) : Prop :=
  flow.request = request ∨
    ∃ transfer, s.transfers.lookup flow.transfer = some transfer ∧ transfer.request = request

/- What the checks of owners report is a terminal owner. -/
theorem inspectFlow_terminal_owner {s : Coordinator} {flow : FlowRecord}
    (hFails : OwnerFailure (s.inspectFlow flow)) :
    ∃ request record,
      s.OwnedBy flow request ∧
        s.ledger.requests.lookup request = some record ∧ record.lifecycle.isTerminal = true := by
  unfold inspectFlow at hFails
  split at hFails
  · exact (not_ownerFailure_failure (by decide) (by decide) hFails).elim
  · split at hFails
    · unfold inspectServing at hFails
      split at hFails
      · exact (not_ownerFailure_failure (by decide) (by decide) hFails).elim
      · rename_i record hRecord
        split at hFails
        · rename_i hCancelled
          refine ⟨flow.request, record, .inl rfl, hRecord, ?_⟩
          rw [hCancelled]
          rfl
        · exact (not_ownerFailure_ok hFails).elim
    · unfold inspectCarrying at hFails
      split at hFails
      · exact (not_ownerFailure_failure (by decide) (by decide) hFails).elim
      · rename_i transfer hTransfer
        split at hFails
        · exact (not_ownerFailure_failure (by decide) (by decide) hFails).elim
        · split at hFails
          · rename_i hOwner
            have hAny := (Bool.and_eq_true_iff.mp hOwner).2
            cases hRecord : s.ledger.snapshotRequest transfer.request with
            | none =>
              rw [hRecord] at hAny
              cases hAny
            | some record =>
              rw [hRecord] at hAny
              exact ⟨transfer.request, record, .inr ⟨transfer, hTransfer, rfl⟩, hRecord, hAny⟩
          · exact (not_ownerFailure_ok hFails).elim

end Coordinator

end TrafficFabric
