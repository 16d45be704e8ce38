import TrafficFabric.Coordinator.Steps
import TrafficFabric.Ledger.Closure

/-
  Everything an operation of the coordinator can leave
  behind, as one relation. The guards of the operations are
  read here once; what later modules say about a step is
  read off the relation.

  A refused operation leaves the state as it was, up to the
  sequence a refused cancellation uses up and what the
  ledger counts.

  Main declarations:
    * `Op.ledgerOps`
    * `Op.Configures`
    * `Coordinator.step_configured`
    * `Coordinator.step_outcome`
-/

---
-- Opening A Flow
---

namespace TrafficFabric

namespace Coordinator

variable (s : Coordinator) {decision : Decision} {bytes : UInt64}

/- The flow a decision describes before it has a subject. -/
def describedFlow (decision : Decision) (bytes : UInt64) : FlowRecord where
  traffic := decision.treatment.trafficClass
  declaredBytes := bytes
  sequence := decision.authority.sequence
  bulk := (s.policy.rule decision.treatment.trafficClass).yieldsToLatency

/- The checks a flow passes before its subject is read. -/
structure Clears (decision : Decision) (bytes : UInt64) : Prop where
  valid : s.validateDecision decision = .ok ()
  sized : bytes ≤ s.config.limits.maxSinglePayloadBytes
  room : s.bulkExhausted decision.treatment.trafficClass bytes = false

/- The ledger is asked for the flow of a serving attempt. -/
def askLedger (decision : Decision) (bytes : UInt64) (now : Int64) :
    Result FlowId × RequestLedger :=
  s.ledger.openFlow decision.subject.request decision.subject.attempt
    decision.treatment.trafficClass bytes now

/- What the ledger has checked and done for a flow. -/
theorem askLedger_ok {s : Coordinator} {now : Int64} {id : FlowId}
    (hOk : (s.askLedger decision bytes now).1 = .ok id) :
    id = ledgerFlowId (s.ledger.nextFlowSequence + 1)
        decision.subject.request decision.subject.attempt decision.treatment.trafficClass ∧
      (s.askLedger decision bytes now).2.nextFlowSequence = s.ledger.nextFlowSequence + 1 ∧
      ∃ record entry,
        s.ledger.requests.lookup decision.subject.request = some record ∧
          record.OpensFlow s.ledger.limits decision.subject.attempt entry := by
  rcases RequestLedger.openFlow_ok hOk with ⟨hId, record, entry, hRecord, hOpens, hAfter⟩
  exact ⟨hId, congrArg RequestLedger.nextFlowSequence hAfter, record, entry, hRecord, hOpens⟩

/- A transfer takes on the next flow identity. -/
def bindFlow (id : StateTransferId) (transfer : TransferRecord) : Coordinator :=
  { s with
    nextFlowSequence := s.nextFlowSequence + 1
    transfers := s.transfers.insert id { transfer with
        flow := transferFlowId (s.nextFlowSequence + 1) id } }

/- What opening a flow answers and leaves behind. -/
inductive Opening (decision : Decision) (bytes : UInt64) (now : Int64) :
    Result FlowId × Coordinator → Prop
| refused (status : Status) : Opening decision bytes now (.error status, s)
| served (id : FlowId) (hClears : s.Clears decision bytes)
    (hKind : decision.subject.kind = .serving) (hOk : (s.askLedger decision bytes now).1 = .ok id) :
    Opening decision bytes now
      (.ok id,
        (s.withLedger
          (s.askLedger decision bytes now).2).addFlow { s.describedFlow decision bytes with
              id
              request := decision.subject.request
              attempt := decision.subject.attempt })
| found (transfer : TransferRecord) (hClears : s.Clears decision bytes)
    (hKind : decision.subject.kind ≠ .serving)
    (hTransfer : s.transfers.lookup decision.subject.transfer = some transfer)
    (hBusy : transfer.flow ≠ .nil) : Opening decision bytes now (.ok transfer.flow, s)
| carried (transfer : TransferRecord) (hClears : s.Clears decision bytes)
    (hKind : decision.subject.kind ≠ .serving)
    (hTransfer : s.transfers.lookup decision.subject.transfer = some transfer)
    (hFree : transfer.flow = .nil) :
    Opening decision bytes now
      (.ok (transferFlowId (s.nextFlowSequence + 1) decision.subject.transfer),
        (s.bindFlow decision.subject.transfer
          transfer).addFlow { s.describedFlow decision bytes with
              id := transferFlowId (s.nextFlowSequence + 1) decision.subject.transfer
              transfer := decision.subject.transfer })

theorem openServingFlow_opening (now : Int64) (hClears : s.Clears decision bytes)
    (hKind : decision.subject.kind = .serving) :
    s.Opening decision bytes now
      (s.openServingFlow decision.subject (s.describedFlow decision bytes) now) := by
  unfold openServingFlow describedFlow
  rcases RequestLedger.openFlow_cases s.ledger decision.subject.request decision.subject.attempt
    decision.treatment.trafficClass bytes now with
    ⟨status, hRefused⟩ | ⟨record, entry, -, -, -, hOpened⟩
  · simp only [hRefused]
    exact .refused status
  · have hOk := congrArg Prod.fst hOpened
    simp only [hOk]
    exact .served _ hClears hKind hOk

theorem openTransferFlow_opening (now : Int64) (hClears : s.Clears decision bytes)
    (hKind : decision.subject.kind ≠ .serving) :
    s.Opening decision bytes now
      (s.openTransferFlow decision.subject (s.describedFlow decision bytes)) := by
  unfold openTransferFlow
  split
  · exact .refused _
  · rename_i transfer hTransfer
    split
    · rename_i hBusy
      exact .found transfer hClears hKind hTransfer (by simpa using hBusy)
    · rename_i hFree
      exact .carried transfer hClears hKind hTransfer (by simpa using hFree)

theorem openFlow_opening (decision : Decision) (bytes : UInt64) (now : Int64) :
    s.Opening decision bytes now (s.openFlow decision bytes now) := by
  unfold openFlow
  cases hValid : s.validateDecision decision with
  | error status => exact .refused status
  | ok value =>
    simp only
    split_ifs with hLarge hFull hKind
    · exact .refused _
    · exact .refused _
    · exact openServingFlow_opening s now
        ⟨hValid, UInt64.not_lt.mp hLarge, Bool.eq_false_of_not_eq_true hFull⟩ hKind
    · exact openTransferFlow_opening s now
        ⟨hValid, UInt64.not_lt.mp hLarge, Bool.eq_false_of_not_eq_true hFull⟩ hKind

/- A flow that is refused leaves nothing behind. -/
theorem openFlow_of_error {s : Coordinator} {now : Int64} {status : Status}
    (hRefused : (s.openFlow decision bytes now).1 = .error status) :
    (s.openFlow decision bytes now).2 = s := by
  have hOpening := openFlow_opening s decision bytes now
  generalize s.openFlow decision bytes now = answer at hOpening hRefused ⊢
  cases hOpening with
  | refused => rfl
  | _ => cases hRefused

end Coordinator

---
-- Authorizing And Completing Transfers
---

/- Whether the transfer may run. -/
def TransferRecord.isUnderWay (transfer : TransferRecord) : Bool :=
  transfer.state = .authorized || transfer.state = .inProgress

namespace Coordinator

variable (s : Coordinator)

/- A permitted transfer is bound to its flow and counted. -/
def markAuthorized (id : StateTransferId) (flow : FlowId) : Coordinator :=
  { s with
    transfers := s.transfers.modify id (fun current => { current with
          state := .authorized
          flow })
    transfersStarted := s.transfersStarted + 1 }

/- A transfer is ended, its flows released and counted. -/
def closeTransfer (id : StateTransferId) (state : TransferState) (reason : ReasonCode) :
    Coordinator :=
  ((s.settleTransfer id state reason).releaseTransferFlows id).countRefused

section Authorization

variable (request : TrafficRequest) (now : Int64) (victim : Nat)

/- What an authorization answers and leaves behind. -/
inductive Authorizing :
    Result TransferAuthorization × Coordinator → Prop
| misaddressed (status : Status)
    (hOther : ∀ subject, request.subject = some subject → subject.kind ≠ .transfer) :
    Authorizing (.error status, s)
| unknown (subject : TrafficSubject) (hSubject : request.subject = some subject)
    (hKind : subject.kind = .transfer)
    (hDenied : (s.evaluate request now victim).1.permitsTraffic = false)
    (hUnknown : (s.evaluate request now victim).2.transfers.lookup subject.transfer = none) :
    Authorizing
      (.ok (authorizationOf subject (s.evaluate request now victim).1),
        (s.evaluate request now victim).2.countRefused)
| denied (subject : TrafficSubject) (transfer : TransferRecord)
    (hSubject : request.subject = some subject) (hKind : subject.kind = .transfer)
    (hDenied : (s.evaluate request now victim).1.permitsTraffic = false)
    (hTransfer :
      (s.evaluate request now victim).2.transfers.lookup subject.transfer = some transfer) :
    Authorizing
      (.ok (authorizationOf subject (s.evaluate request now victim).1),
        (s.evaluate request now victim).2.closeTransfer subject.transfer .refused
          (s.evaluate request now victim).1.reason)
| missing (subject : TrafficSubject) (status : Status) (hSubject : request.subject = some subject)
    (hKind : subject.kind = .transfer)
    (hPermits : (s.evaluate request now victim).1.permitsTraffic = true)
    (hUnknown : (s.evaluate request now victim).2.transfers.lookup subject.transfer = none) :
    Authorizing (.error status, (s.evaluate request now victim).2)
| declined (subject : TrafficSubject) (transfer : TransferRecord) (status : Status)
    (hSubject : request.subject = some subject) (hKind : subject.kind = .transfer)
    (hPermits : (s.evaluate request now victim).1.permitsTraffic = true)
    (hTransfer :
      (s.evaluate request now victim).2.transfers.lookup subject.transfer = some transfer)
    (hRefused :
      ((s.evaluate request now victim).2.openFlow (s.evaluate request now victim).1
        transfer.payloadBytes now).1 = .error status) :
    Authorizing (.ok { authorizationOf subject (s.evaluate request now victim).1 with
          authorized := false
          reason := .rejectedFlowLimit },
        ((s.evaluate request now victim).2.settleTransfer subject.transfer .refused
          .rejectedFlowLimit).countRefused)
| granted (subject : TrafficSubject) (transfer : TransferRecord) (flow : FlowId)
    (hSubject : request.subject = some subject) (hKind : subject.kind = .transfer)
    (hPermits : (s.evaluate request now victim).1.permitsTraffic = true)
    (hTransfer :
      (s.evaluate request now victim).2.transfers.lookup subject.transfer = some transfer)
    (hOpened :
      ((s.evaluate request now victim).2.openFlow (s.evaluate request now victim).1
        transfer.payloadBytes now).1 = .ok flow) :
    Authorizing (.ok { authorizationOf subject (s.evaluate request now victim).1 with
          flow },
        ((s.evaluate request now victim).2.openFlow (s.evaluate request now victim).1
          transfer.payloadBytes now).2.markAuthorized subject.transfer flow)

theorem authorizeTransfer_authorizing :
    s.Authorizing request now victim (s.authorizeTransfer request now victim) := by
  unfold authorizeTransfer
  split
  · rename_i hNone
    refine .misaddressed _ ?_
    intro subject hSubject
    rw [hNone] at hSubject
    cases hSubject
  · rename_i subject hSubject
    split
    · rename_i hKind
      refine .misaddressed _ ?_
      intro other hOther
      rw [hSubject] at hOther
      cases hOther
      exact hKind
    · rename_i hKind
      rw [not_not] at hKind
      simp only
      split
      · rename_i hDenied
        rw [Bool.not_eq_true'] at hDenied
        unfold refuseTransfer
        split
        · rename_i hUnknown
          exact .unknown subject hSubject hKind hDenied hUnknown
        · rename_i transfer hTransfer
          exact .denied subject transfer hSubject hKind hDenied hTransfer
      · rename_i hPermits
        rw [Bool.not_eq_true', Bool.not_eq_false] at hPermits
        split
        · rename_i hUnknown
          exact .missing subject _ hSubject hKind hPermits hUnknown
        · rename_i transfer hTransfer
          unfold startAuthorized
          simp only
          split
          · rename_i status hRefused
            rw [openFlow_of_error hRefused]
            exact .declined subject transfer status hSubject hKind hPermits hTransfer hRefused
          · rename_i flow hOpened
            exact .granted subject transfer flow hSubject hKind hPermits hTransfer hOpened

end Authorization

/- The byte count of a completion is not acceptable. -/
def Mismatches (transfer : TransferRecord) (bytes : UInt64) : Prop :=
  (transfer.requiredIntegrity = .checksumAndVerify ∧
      bytes ≠ transfer.payloadBytes) ∨
    transfer.payloadBytes < bytes

/- What a completion answers and leaves behind. -/
inductive Completing (id : StateTransferId) (bytes : UInt64) : Result Unit × Coordinator → Prop
| refused (status : Status) : Completing id bytes (.error status, s)
| mismatched (transfer : TransferRecord) (status : Status)
    (hTransfer : s.transfers.lookup id = some transfer) (hUnderWay : transfer.isUnderWay = true)
    (hWrong : Mismatches transfer bytes) :
    Completing id bytes (.error status, s.closeTransfer id .refused .rejectedIntegrityUnavailable)
| completed (transfer : TransferRecord) (hTransfer : s.transfers.lookup id = some transfer)
    (hUnderWay : transfer.isUnderWay = true) (hRight : ¬ Mismatches transfer bytes) :
    Completing id bytes
      (.ok (), ((s.markCompleted id transfer bytes).releaseTransferFlows id).countCompleted)

theorem completeTransfer_completing (id : StateTransferId) (bytes : UInt64) :
    s.Completing id bytes (s.completeTransfer id bytes) := by
  unfold completeTransfer
  split
  · exact .refused _
  · rename_i transfer hTransfer
    split_ifs with hIdle hWrong hLarge
    · exact .refused _
    all_goals
      have hUnderWay : transfer.isUnderWay = true := by
        unfold TransferRecord.isUnderWay
        simp only [Bool.or_eq_true, decide_eq_true_eq]
        by_contra hNeither
        exact hIdle (not_or.mp hNeither)
    · exact .mismatched transfer _ hTransfer hUnderWay (.inl hWrong)
    · exact .mismatched transfer _ hTransfer hUnderWay (.inr hLarge)
    · exact .completed transfer hTransfer hUnderWay (not_or.mpr ⟨hWrong, hLarge⟩)

end Coordinator

---
-- Operations
---

namespace Op

/- The ledger operation that can change an authority. -/
def ledgerOps (s : Coordinator) : Op → List LedgerOp
| .registerRequest request now => [.registerRequest request now]
| .registerAttempt request attempt hash now =>
  match s.resolveModel hash with
  | .error _ => []
  | .ok model => [.registerAttempt request attempt hash model .unset now]
| .revalidateRequest request attempt now => [.revalidateRequest request attempt now]
| .advanceStage request attempt target now => [.advanceStage request attempt target now]
| .cancelRequest request reason now => [.cancelRequest request reason s.nextSequence now]
| .failAttempt request attempt reason now => [.failAttempt request attempt reason now]
| .replaceAttempt request old new hash now =>
  match s.resolveModel hash with
  | .error _ => []
  | .ok _ => [.supersedeAttempt request old new now]
| .publishCompletion publication now => [.publishCompletion publication now]
| _ => []

/- Operations that set durable configuration. -/
def Configures : Op → Prop
| .applyPolicy _ | .publishTopology _ _
| .setModelGeneration _ _ | .revalidateModelGeneration _
| .advanceStateGeneration _ _
| .revalidateStateGeneration _ => True
| _ => False

end Op

namespace Coordinator

variable (s : Coordinator)
variable (request : RequestId) (attempt : AttemptId)
variable (op : Op) (reason : ReasonCode) (now : Int64)

/- What an operation that configures can do. -/
inductive Configured : Op → Coordinator → Prop
| refused (op : Op) : Configured op s
| policy (policy : PolicyConfig) (hValid : policy.validate = .valid) :
    Configured (.applyPolicy policy) { s with policy := withNextGeneration policy }
| topology (evidence : TopologyEvidence) (now : Int64)
    (hFit : (s.assignTopology evidence now).isAuthoritative = true) :
    Configured (.publishTopology evidence now) { s with
        topology := s.assignTopology evidence now
        topologyPresent := true }
| modelAdvanced (hash : UInt64) (expected : Option ModelGeneration) (value : ModelGeneration)
    (hOk :
      advanceGeneration "model" ModelState.generation ModelState.requiresRevalidation
        s.config.limits.maxModelRecords s.models hash expected = .ok value) :
    Configured (.setModelGeneration hash expected) { s with
        models := s.models.insert hash
          { modelHash := hash
            generation := value
            requiresRevalidation := false } }
| modelRevalidated (hash : UInt64) (held : ModelState) (hHeld : s.models.lookup hash = some held) :
    Configured (.revalidateModelGeneration hash) { s with
        models := s.models.insert hash { held with requiresRevalidation := false } }
| stateAdvanced (hash : UInt64) (expected : Option StateGeneration) (value : StateGeneration)
    (hOk :
      advanceGeneration "state" StateGenerationRecord.generation
        StateGenerationRecord.requiresRevalidation s.config.limits.maxStateRecords s.states hash
        expected = .ok value) :
    Configured (.advanceStateGeneration hash expected) { s with
        states := s.states.insert hash
          { stateHash := hash
            generation := value
            requiresRevalidation := false } }
| stateRevalidated (hash : UInt64) (held : StateGenerationRecord)
    (hHeld : s.states.lookup hash = some held) :
    Configured (.revalidateStateGeneration hash) { s with
        states := s.states.insert hash { held with requiresRevalidation := false } }

theorem step_configured (hOp : op.Configures) : s.Configured op (s.step op) := by
  cases op with
  | applyPolicy policy =>
    simp only [step, applyPolicy]
    split
    · exact .refused _
    · rename_i hValid
      exact .policy policy (not_not.mp hValid)
  | publishTopology evidence now =>
    simp only [step]
    rcases publishTopology_cases s evidence now with ⟨-, status, hAnswer⟩ | ⟨hFit, hAnswer⟩
    · rw [hAnswer]
      exact .refused _
    · rw [hAnswer]
      exact .topology evidence now hFit
  | setModelGeneration hash expected =>
    simp only [step, setModelGeneration]
    split
    · exact .refused _
    · rename_i value hOk
      exact .modelAdvanced hash expected value hOk
  | revalidateModelGeneration hash =>
    simp only [step, revalidateModelGeneration]
    split
    · exact .refused _
    · rename_i held hHeld
      exact .modelRevalidated hash held hHeld
  | advanceStateGeneration hash expected =>
    simp only [step, advanceStateGeneration]
    split
    · exact .refused _
    · rename_i value hOk
      exact .stateAdvanced hash expected value hOk
  | revalidateStateGeneration hash =>
    simp only [step, revalidateStateGeneration]
    split
    · exact .refused _
    · rename_i held hHeld
      exact .stateRevalidated hash held hHeld
  | _ => exact hOp.elim

def Retains (s : Coordinator) (id : RequestId) (attempt : AttemptId) : Prop :=
  ∃ record, s.ledger.snapshotRequest id = some record ∧ (record.findAttempt attempt).isSome = true

def withContract (request : RequestId) (contract : SloContract) : Coordinator :=
  { s with sloContracts := s.sloContracts.insert request contract }

def withRoute (attempt : AttemptId) (route : RouteDecision) : Coordinator :=
  { s with routeDecisions := s.routeDecisions.insert attempt route }

/-
  What an operation can leave behind. Openings,
  authorizations and completions have relations of their
  own, which say what their functions answer.
-/
inductive Outcome : Op → Coordinator → Prop
| unchanged (op : Op) (hOps : op.ledgerOps s = []) : Outcome op s
| configured (op : Op) (t : Coordinator) (hOp : op.Configures) (hConfigured : s.Configured op t) :
    Outcome op t
| contracted
    (request : RequestId) (tail deadline : UInt64) (share : UInt32) (contract : SloContract)
    (hHeld : s.ledger.contains request = true) :
    Outcome (.registerSloContract request tail deadline share) (s.withContract request contract)
| routed (request : RequestId) (attempt : AttemptId) (node : UInt32) (lateral handoff : Bool)
    (route : RouteDecision) (hRetains : s.Retains request attempt)
    (hRequest : route.request = request) :
    Outcome (.issueRouteDecision request attempt node lateral handoff) (s.withRoute attempt route)
| ruled (op : Op) (ruling : LedgerOp) (hOps : op.ledgerOps s = [ruling]) :
    Outcome op (s.withLedger (s.ledger.step ruling))
| cancelRefused (request : RequestId) (reason : ReasonCode) (now : Int64)
    (hRefused : (s.ledger.cancelRequest request reason s.nextSequence now).1.isOk = false) :
    Outcome (.cancelRequest request reason now)
      (s.advanceSequence.withLedger
        (s.ledger.step (.cancelRequest request reason s.nextSequence now)))
| cancelled (request : RequestId) (reason : ReasonCode) (now : Int64)
    (hOk : (s.ledger.cancelRequest request reason s.nextSequence now).1.isOk = true) :
    Outcome (.cancelRequest request reason now)
      ((s.advanceSequence.withLedger
        (s.ledger.step (.cancelRequest request reason
          s.nextSequence now))).releaseRequestFlows request)
| failed (request : RequestId) (attempt : AttemptId) (reason : ReasonCode) (now : Int64)
    (hOk : (s.ledger.failAttempt request attempt reason now).1.isOk = true) :
    Outcome (.failAttempt request attempt reason now)
      ((s.withLedger
        (s.ledger.step (.failAttempt request attempt reason now))).releaseRequestFlows request)
| replaced (request : RequestId) (old new : AttemptId) (hash : UInt64) (now : Int64)
    (model : ModelGeneration) (generation : AttemptGeneration)
    (hModel : s.resolveModel hash = .ok model)
    (hOk : (s.ledger.supersedeAttempt request old new now).1 = .ok generation) :
    Outcome (.replaceAttempt request old new hash now)
      (((s.withLedger
        (s.ledger.step (.supersedeAttempt request old new
          now))).releaseRequestFlows request).finishReplacement request old new hash model)
| published (publication : CompletionPublication) (now : Int64) (outcome : PublishOutcome)
    (hOk : (s.ledger.publishCompletion publication now).1 = .ok outcome)
    (hCommitted : outcome.disposition = .committed) :
    Outcome (.publishCompletion publication now)
      (((s.withLedger
        (s.ledger.step (.publishCompletion publication
          now))).releaseRequestFlows
            publication.request).retainCompletion publication.request outcome)
| registered (registration : TransferRegistration) (now : Int64) (model : ModelGeneration)
    (state : StateGeneration) (hCheck : s.checkRegistration registration = .ok (model, state)) :
    Outcome (.registerTransfer registration now) (s.registerTransfer registration now).2
| authorizing (request : TrafficRequest) (now : Int64) (victim : Nat) :
    Outcome (.authorizeTransfer request now victim) (s.authorizeTransfer request now victim).2
| started (id : StateTransferId) (authorization : TransferAuthorization) (transfer : TransferRecord)
    (hTransfer : s.transfers.lookup id = some transfer) (hState : transfer.state = .authorized) :
    Outcome (.startTransfer id authorization) { s with
        transfers := s.transfers.insert id { transfer with state := .inProgress } }
| completing (id : StateTransferId) (bytes : UInt64) :
    Outcome (.completeTransfer id bytes) (s.completeTransfer id bytes).2
| abandoned (id : StateTransferId) (reason : ReasonCode) (transfer : TransferRecord)
    (hTransfer : s.transfers.lookup id = some transfer) (hState : transfer.state ≠ .completed) :
    Outcome (.abandonTransfer id reason) (s.closeTransfer id .abandoned reason)
| evaluated (request : TrafficRequest) (now : Int64) (victim : Nat) :
    Outcome (.evaluate request now victim) (s.evaluate request now victim).2
| opening (decision : Decision) (bytes : UInt64) (now : Int64) :
    Outcome (.openFlow decision bytes now) (s.openFlow decision bytes now).2
| released (id : FlowId) (flow : FlowRecord) (hFlow : s.flows.lookup id = some flow) :
    Outcome (.releaseFlow id) (s.releaseFlowLocked flow)
| observed (id : FlowId) (bytes : UInt64) (inbound : Bool) (flow : FlowRecord) (updated : UInt64)
    (hFlow : s.flows.lookup id = some flow) (hRequest : flow.request = .nil) :
    Outcome (.recordFlowBytes id bytes inbound) { s with
        flows := s.flows.insert id { flow with observedBytes := updated } }
| charged (id : FlowId) (bytes : UInt64) (inbound : Bool) (flow : FlowRecord) (updated : UInt64)
    (hFlow : s.flows.lookup id = some flow) (hRequest : flow.request ≠ .nil) :
    Outcome (.recordFlowBytes id bytes inbound) ({ s with
        flows := s.flows.insert id { flow with observedBytes := updated } }.withLedger
        (s.ledger.step (.recordFlowBytes id bytes inbound)))

/- The generation that follows the one of an entry. -/
def nextGeneration {tag : GenerationTag} : Option (Generation tag) → Generation tag
| none => ⟨1⟩
| some held => held.next

/- A contract is written for a retained request. -/
theorem registerSloContract_cases (tail deadline : UInt64) (share : UInt32) :
    (∃ status, s.registerSloContract request tail deadline share = (.error status, s)) ∨
      s.ledger.contains request = true ∧
        ∃ contract,
          contract.generation =
              nextGeneration ((s.sloContracts.lookup request).map SloContract.generation) ∧
            s.registerSloContract request tail deadline share =
              (.ok contract, s.withContract request contract) := by
  simp only [registerSloContract]
  split
  · exact .inl ⟨_, rfl⟩
  · split
    · exact .inl ⟨_, rfl⟩
    · rename_i hHeld
      split
      · exact .inl ⟨_, rfl⟩
      · split
        · exact .inl ⟨_, rfl⟩
        · generalize hWritten : SloContract.mk _ request tail deadline _ = contract
          split
          · exact .inl ⟨_, rfl⟩
          · refine .inr ⟨by simpa using hHeld, contract, ?_, rfl⟩
            rw [← hWritten]
            cases s.sloContracts.lookup request with
            | _ => rfl

theorem issueRouteDecision_cases (node : UInt32) (lateral handoff : Bool) :
    (∃ status, s.issueRouteDecision request attempt node lateral handoff = (.error status, s)) ∨
      s.Retains request attempt ∧
        ∃ route : RouteDecision, route.request = request ∧ route.attempt = attempt ∧
          route.generation =
              nextGeneration ((s.routeDecisions.lookup attempt).map RouteDecision.generation) ∧
            s.issueRouteDecision request attempt node lateral handoff =
              (.ok route, s.withRoute attempt route) := by
  simp only [issueRouteDecision]
  split
  · exact .inl ⟨_, rfl⟩
  · rename_i record hRecord
    split
    · exact .inl ⟨_, rfl⟩
    · rename_i hFind
      split
      · exact .inl ⟨_, rfl⟩
      · generalize hIssued : RouteDecision.mk _ request attempt node lateral handoff = issued
        split
        · exact .inl ⟨_, rfl⟩
        · refine .inr ⟨⟨record, hRecord, ?_⟩, issued, ?_⟩
          · simpa [Option.isSome_iff_ne_none] using hFind
          · rw [← hIssued]
            refine ⟨rfl, rfl, ?_, rfl⟩
            cases s.routeDecisions.lookup attempt with
            | _ => rfl

theorem registerAttempt_outcome (hash : UInt64) (now : Int64) :
    s.Outcome (.registerAttempt request attempt hash now)
      (s.registerAttempt request attempt hash now).2 := by
  unfold registerAttempt
  split
  · rename_i status hModel
    refine .unchanged _ ?_
    simp only [Op.ledgerOps, hModel]
  · rename_i model hModel
    refine .ruled _ (.registerAttempt request attempt hash model .unset now) ?_
    simp only [Op.ledgerOps, hModel]

theorem cancelRequest_outcome :
    s.Outcome (.cancelRequest request reason now) (s.cancelRequest request reason now).2 := by
  unfold cancelRequest releaseOnSuccess
  simp only
  split
  · rename_i hOk
    exact .cancelled request reason now hOk
  · rename_i hRefused
    exact .cancelRefused request reason now (Bool.eq_false_of_not_eq_true hRefused)

theorem failAttempt_outcome :
    s.Outcome (.failAttempt request attempt reason now)
      (s.failAttempt request attempt reason now).2 := by
  unfold failAttempt releaseOnSuccess
  simp only
  split
  · rename_i hOk
    exact .failed request attempt reason now hOk
  · exact .ruled _ (.failAttempt request attempt reason now) rfl

theorem replaceAttempt_outcome (old new : AttemptId) (hash : UInt64) (now : Int64) :
    s.Outcome (.replaceAttempt request old new hash now)
      (s.replaceAttempt request old new hash now).2 := by
  unfold replaceAttempt
  split
  · rename_i status hModel
    refine .unchanged _ ?_
    simp only [Op.ledgerOps, hModel]
  · rename_i model hModel
    simp only
    split
    · refine .ruled _ (.supersedeAttempt request old new now) ?_
      simp only [Op.ledgerOps, hModel]
    · rename_i generation hOk
      exact .replaced request old new hash now model generation hModel hOk

theorem publishCompletion_outcome (publication : CompletionPublication) (now : Int64) :
    s.Outcome (.publishCompletion publication now) (s.publishCompletion publication now).2 := by
  unfold publishCompletion
  simp only
  split
  · exact .ruled _ (.publishCompletion publication now) rfl
  · rename_i outcome hOk
    split
    · rename_i hCommitted
      exact .published publication now outcome hOk hCommitted
    · exact .ruled _ (.publishCompletion publication now) rfl

theorem startTransfer_outcome (id : StateTransferId) (authorization : TransferAuthorization) :
    s.Outcome (.startTransfer id authorization) (s.startTransfer id authorization).2 := by
  unfold startTransfer
  split
  · exact .unchanged _ rfl
  · rename_i transfer hTransfer
    split_ifs with hOther hDenied hRunning hState
    · exact .unchanged _ rfl
    · exact .unchanged _ rfl
    · exact .unchanged _ rfl
    · exact .unchanged _ rfl
    · exact .started id authorization transfer hTransfer (not_not.mp hState)

theorem recordFlowBytes_outcome (id : FlowId) (bytes : UInt64) (inbound : Bool) :
    s.Outcome (.recordFlowBytes id bytes inbound) (s.recordFlowBytes id bytes inbound).2 := by
  unfold recordFlowBytes
  split
  · exact .unchanged _ rfl
  · rename_i flow hFlow
    split
    · exact .unchanged _ rfl
    · rename_i updated hUpdated
      split
      · rename_i hRequest
        exact .observed id bytes inbound flow updated hFlow (by simpa using hRequest)
      · rename_i hRequest
        exact .charged id bytes inbound flow updated hFlow (by simpa using hRequest)

/- Every operation leaves behind what is listed. -/
theorem step_outcome : s.Outcome op (s.step op) := by
  by_cases hOp : op.Configures
  · exact .configured op _ hOp (step_configured s op hOp)
  cases op with
  | registerSloContract request tail deadline share =>
    rcases registerSloContract_cases s request tail deadline share with
      ⟨status, hSame⟩ | ⟨hHeld, contract, -, hWritten⟩
    · simp only [step, hSame]
      exact .unchanged _ rfl
    · simp only [step, hWritten]
      exact .contracted request tail deadline share contract hHeld
  | issueRouteDecision request attempt node lateral handoff =>
    rcases issueRouteDecision_cases s request attempt node lateral handoff with
      ⟨status, hSame⟩ | ⟨hRetains, route, hRequest, -, -, hWritten⟩
    · simp only [step, hSame]
      exact .unchanged _ rfl
    · simp only [step, hWritten]
      exact .routed request attempt node lateral handoff route hRetains hRequest
  | registerRequest request now => exact .ruled _ (.registerRequest request now) rfl
  | registerAttempt => exact registerAttempt_outcome ..
  | revalidateRequest request attempt now =>
    exact .ruled _ (.revalidateRequest request attempt now) rfl
  | advanceStage request attempt target now =>
    exact .ruled _ (.advanceStage request attempt target now) rfl
  | cancelRequest => exact cancelRequest_outcome ..
  | failAttempt => exact failAttempt_outcome ..
  | replaceAttempt => exact replaceAttempt_outcome ..
  | publishCompletion => exact publishCompletion_outcome ..
  | registerTransfer registration now =>
    cases hCheck : s.checkRegistration registration with
    | error status =>
      simp only [step, registerTransfer, hCheck]
      exact .unchanged _ rfl
    | ok generations => exact .registered registration now generations.1 generations.2 hCheck
  | authorizeTransfer request now victim => exact .authorizing request now victim
  | startTransfer => exact startTransfer_outcome ..
  | completeTransfer id bytes => exact .completing id bytes
  | abandonTransfer id reason =>
    simp only [step, abandonTransfer]
    split
    · exact .unchanged _ rfl
    · rename_i transfer hTransfer
      split
      · exact .unchanged _ rfl
      · rename_i hState
        exact .abandoned id reason transfer hTransfer hState
  | evaluate request now victim => exact .evaluated request now victim
  | openFlow decision bytes now => exact .opening decision bytes now
  | releaseFlow id =>
    simp only [step, releaseFlow]
    split
    · exact .unchanged _ rfl
    · rename_i flow hFlow
      exact .released id flow hFlow
  | recordFlowBytes => exact recordFlowBytes_outcome ..
  | _ => exact (hOp trivial).elim

end Coordinator

end TrafficFabric
