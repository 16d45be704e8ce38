import TrafficFabric.Codec.Text
import TrafficFabric.Service.Handle

/-
  The bodies that the handler writes, and how much of a
  frame they take.

  The state of the coordinator does not change the size of a
  body: a decision writes a bounded number of steps, and a
  table has one entry for each class of traffic.
-/

namespace TrafficFabric

open Enumeration Writer

---
-- Bodies
---

instance : Enumeration Disposition where
  listed := [.unknown, .committed, .duplicateSuppressed, .refused]

def RegisterRequestResponse.encode (writer : Writer) (value : RegisterRequestResponse) : Writer :=
  writer
    |>.id value.request
    |>.generation value.generation
    |> value.authority.encode

def RegisterAttemptResponse.encode (writer : Writer) (value : RegisterAttemptResponse) : Writer :=
  writer
    |>.id value.request
    |>.id value.attempt
    |>.generation value.generation
    |>.generation value.modelGeneration
    |>.generation value.routeGeneration
    |>.generation value.sloGeneration
    |> value.authority.encode

def OpenFlowResponse.encode (writer : Writer) (value : OpenFlowResponse) : Writer :=
  value.authority.encode (writer.id value.flow)

def RegisterTransferResponse.encode (writer : Writer) (value : RegisterTransferResponse) : Writer :=
  writer
    |>.id value.transfer
    |>.generation value.modelGeneration
    |>.generation value.stateGeneration
    |>.enumeration value.state
    |> value.authority.encode

def TransferAuthorization.encode (writer : Writer) (value : TransferAuthorization) : Writer :=
  writer
    |>.id value.transfer
    |>.enumeration value.trafficClass
    |>.enumeration value.integrity
    |>.enumeration value.pacing
    |>.enumeration value.priority
    |> value.authority.encode
    |>.enumeration value.reason
    |>.boolean value.authorized
    |>.id value.flow

def TransferDecisionResponse.encode (writer : Writer) (value : TransferDecisionResponse) : Writer :=
  writer
    |> value.authorization.encode
    |> value.subject.encode
    |> value.binding.encode
    |> value.authority.encode

def PublishOutcome.encode (writer : Writer) (value : PublishOutcome) : Writer :=
  writer
    |>.enumeration value.disposition
    |>.u16 (code value.refusal)
    |>.enumeration value.reason
    |>.u64 value.accountedBytesIn
    |>.u64 value.accountedBytesOut
    |>.u32 value.releasedFlows

def ClassAccounting.encode (writer : Writer) (value : ClassAccounting) : Writer :=
  writer
    |>.u64 value.allowed
    |>.u64 value.degraded
    |>.u64 value.deferred
    |>.u64 value.rejected
    |>.u64 value.bytesAllowed
    |>.u64 value.bytesDeferred
    |>.u64 value.bytesRejected
    |>.u32 value.activeFlows
    |>.u32 value.peakActiveFlows
    |>.u32 value.starvationAdmissions

def AccountingSnapshot.encode (writer : Writer) (value : AccountingSnapshot) : Writer :=
  writer
    |>.u16 trafficClassCount
    |>.each (fun writer traffic => (value.perClass traffic).encode writer) listed
    |>.u64 value.requestsRegistered
    |>.u64 value.requestsCompleted
    |>.u64 value.requestsCancelled
    |>.u64 value.requestsFailed
    |>.u64 value.requestsInterrupted
    |>.u64 value.requestsEvicted
    |>.u64 value.attemptsRegistered
    |>.u64 value.attemptsCompleted
    |>.u64 value.attemptsFailed
    |>.u64 value.attemptsSuperseded
    |>.u64 value.completionsCommitted
    |>.u64 value.completionsSuppressed
    |>.u64 value.completionsRefused
    |>.u64 value.transfersStarted
    |>.u64 value.transfersCompleted
    |>.u64 value.transfersRefused
    |>.u32 value.activeFlowsTotal
    |>.u32 value.peakActiveFlowsTotal
    |>.u32 value.pendingDeferrals
    |>.u64 (.ofNat value.liveRequests)
    |>.u64 (.ofNat value.retainedRequests)

def CoordinatorStatus.encode (writer : Writer) (value : CoordinatorStatus) : Writer :=
  writer
    |>.generation value.epoch
    |>.id value.incarnation
    |>.generation value.policyGeneration
    |>.generation value.topologyGeneration
    |>.enumeration value.topologyState
    |>.enumeration value.topologyProvenance
    |>.u64 (.ofNat value.liveRequests)
    |>.u64 (.ofNat value.transfers)
    |>.u32 value.activeFlows
    |>.u64 value.authoritySequence

def TopologyResponse.encode (writer : Writer) (value : TopologyResponse) : Writer :=
  writer
    |>.generation value.generation
    |>.enumeration value.state
    |>.enumeration value.provenance

def SloContract.encode (writer : Writer) (value : SloContract) : Writer :=
  writer
    |>.generation value.generation
    |>.id value.request
    |>.u64 value.tailLatencyBudgetNanos
    |>.u64 value.registrationDeadlineNanos
    |>.u32 value.minStreamSharePerMille

def RouteDecision.encode (writer : Writer) (value : RouteDecision) : Writer :=
  writer
    |>.generation value.generation
    |>.id value.request
    |>.id value.attempt
    |>.u32 value.targetNode
    |>.boolean value.lateral
    |>.boolean value.disaggregatedHandoff

def ModelGenerationResponse.encode (writer : Writer) (value : ModelGenerationResponse) : Writer :=
  writer
    |>.u64 value.modelHash
    |>.generation value.generation
    |>.generation value.stateGeneration
    |>.boolean value.requiresRevalidation

def Reply.encode (writer : Writer) : Reply → Writer
| .simpleAck detail => (writer.u16 (code StatusCode.ok)).stringField (textBytes detail)
| .registerRequest value => value.encode writer
| .registerAttempt value => value.encode writer
| .decision value => value.encode writer
| .openFlow value => value.encode writer
| .registerTransfer value => value.encode writer
| .transferDecision value => value.encode writer
| .completion value => value.encode writer
| .accounting value => value.encode writer
| .status value => value.encode writer
| .policy value => value.encode writer
| .topology value => value.encode writer
| .sloContract value => value.encode writer
| .routeDecision value => value.encode writer
| .modelGeneration value => value.encode writer

def buildBody (reply : Reply) : Result (List UInt8) :=
  let writer := reply.encode {}
  if !writer.ok then .failure writer.failCode "response exceeds the frame ceiling"
  else .ok writer.buffer

/- What the session is given for what the handler came to. -/
def CoordinatorService.answer (handled : Result Reply) : Result (List UInt8) :=
  handled.bind buildBody

---
-- Sizes
---

namespace Writer

instance {tag : GenerationTag} : Sized (@optionalGeneration tag) 9 where
  grows writer value := by
    unfold optionalGeneration
    split
    · exact Sized.last (Nat.add_le_add_left (by decide) _)
    · exact Sized.last (Sized.next (Nat.le_refl _))

instance : Sized instant 9 where
  grows writer value := by
    unfold instant
    split
    · exact Sized.last (Sized.next (Nat.le_refl _))
    · exact Sized.last (Nat.add_le_add_left (by decide) _)

/- The loop adds up what its entries take. -/
theorem Sized.each {α : Type} {encode : Writer → α → Writer} {size later total : Nat}
    {values : List α} {writer : Writer}
    (hEntry : ∀ writer value, (encode writer value).buffer.length ≤ writer.buffer.length + size)
    (hFits : writer.buffer.length + (size * values.length + later) ≤ total) :
    (writer.each encode values).buffer.length + later ≤ total := by
  induction values generalizing writer with
  | nil =>
    rw [List.length_nil, Nat.mul_zero, Nat.zero_add] at hFits
    exact hFits
  | cons value rest ih =>
    have hValue := hEntry writer value
    rw [List.length_cons, Nat.mul_succ] at hFits
    apply ih
    omega

end Writer

instance : Sized TrafficSubject.encode 58 where
  grows writer value := by
    unfold TrafficSubject.encode
    apply Sized.last
    iterate 4 apply Sized.next
    omega

instance : Sized GenerationBinding.encode 72 where
  grows writer value := by
    unfold GenerationBinding.encode
    apply Sized.last
    iterate 7 apply Sized.next
    omega

instance : Sized TrafficTreatment.encode 59 where
  grows writer value := by
    unfold TrafficTreatment.encode
    apply Sized.last
    iterate 10 apply Sized.next
    omega

instance : Sized AuthorityStamp.encode 40 where
  grows writer value := by
    unfold AuthorityStamp.encode
    apply Sized.last
    iterate 3 apply Sized.next
    omega

instance : Sized ExplanationStep.encode 18 where
  grows writer value := by
    unfold ExplanationStep.encode
    apply Sized.last
    iterate 2 apply Sized.next
    omega

instance : Sized Decision.encodeSubject 58 where
  grows writer value := by
    unfold Decision.encodeSubject
    split
    · exact Sized.last (Nat.le_refl _)
    · exact Nat.le_add_right _ _

instance : Sized ClassPolicyRule.encode 57 where
  grows writer value := by
    unfold ClassPolicyRule.encode
    apply Sized.last
    iterate 18 apply Sized.next
    omega

instance : Sized ClassAccounting.encode 68 where
  grows writer value := by
    unfold ClassAccounting.encode
    apply Sized.last
    iterate 9 apply Sized.next
    omega

instance : Sized TransferAuthorization.encode 83 where
  grows writer value := by
    unfold TransferAuthorization.encode
    apply Sized.last
    iterate 8 apply Sized.next
    omega

instance : Sized Decision.encode 678 where
  grows writer value := by
    have hSteps := List.length_take_le maxExplanationSteps value.explanation
    unfold maxExplanationSteps at hSteps
    dsimp only [Decision.encode, maxExplanationSteps]
    refine (Nat.le_add_right _ 0).trans ?_
    apply Sized.each Sized.grows
    iterate 9 apply Sized.next
    omega

instance : Sized AccountingSnapshot.encode 974 where
  grows writer value := by
    unfold AccountingSnapshot.encode
    apply Sized.last
    iterate 20 apply Sized.next
    apply Sized.each (fun writer traffic => Sized.grows writer (value.perClass traffic))
    apply Sized.next
    exact Nat.add_le_add_left (by decide) _

instance : Sized PolicyConfig.encode 729 where
  grows writer value := by
    unfold PolicyConfig.encode
    refine (Nat.le_add_right _ 0).trans ?_
    apply Sized.each (fun writer traffic => Sized.grows writer (value.rule traffic))
    iterate 10 apply Sized.next
    exact Nat.add_le_add_left (by decide) _

theorem Reply.length_encode_le (reply : Reply) : (reply.encode {}).buffer.length ≤ 4192 := by
  cases reply with
  | simpleAck | decision | accounting | policy =>
    simp only [encode]
    apply Sized.last
    repeat apply Sized.next
    decide
  | registerRequest | registerAttempt | openFlow | registerTransfer | transferDecision
  | completion | status | topology | sloContract | routeDecision | modelGeneration =>
    simp only [encode, RegisterRequestResponse.encode, RegisterAttemptResponse.encode,
      OpenFlowResponse.encode, RegisterTransferResponse.encode, TransferDecisionResponse.encode,
      PublishOutcome.encode, CoordinatorStatus.encode, TopologyResponse.encode, SloContract.encode,
      RouteDecision.encode, ModelGenerationResponse.encode]
    apply Sized.last
    repeat apply Sized.next
    decide

/- No answer of the service takes more than this. -/
theorem CoordinatorService.length_answer_le {handled : Result Reply} {body : List UInt8}
    (hAnswer : answer handled = .ok body) : body.length ≤ 4192 := by
  cases handled with
  | error status => cases hAnswer
  | ok reply =>
    change buildBody reply = .ok body at hAnswer
    dsimp only [buildBody] at hAnswer
    split at hAnswer
    · cases hAnswer
    · cases hAnswer
      exact reply.length_encode_le

end TrafficFabric
