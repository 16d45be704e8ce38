import TrafficFabric.Coordinator.Evaluate

/-
  Flows: the validation of a decision when it is used, the
  flow it opens, and the release of flows.
-/

namespace TrafficFabric

namespace Coordinator

/- The stamp of a decision against the current authority. -/
def checkStamp (s : Coordinator) (stamp : AuthorityStamp) : Result Unit :=
  match validateAuthority stamp s.epoch s.incarnation s.policy.generation with
  | .current => .ok ()
  | .staleEpoch => .failure .staleEpoch "decision was issued by a previous coordinator epoch"
  | .stalePolicy => .failure .staleGeneration "decision was issued under a previous policy"
  | .staleIncarnation => .failure .staleEpoch "decision was issued by a previous incarnation"
  | .absent => .failure .staleAuthority "decision carries no authority stamp"
  | .unknown => .failure .staleAuthority "decision authority could not be established"

/- The sequence does not exceed a floor that is set. -/
def belowFloor (record : RequestRecord) (sequence : AuthoritySequence) : Bool :=
  !record.authorityFloor.isUnset && sequence.value ≤ record.authorityFloor.value

def checkServingDecision (s : Coordinator) (subject : TrafficSubject)
    (sequence : AuthoritySequence) : Result Unit :=
  match s.ledger.snapshotRequest subject.request with
  | none => .failure .notFound "request no longer exists"
  | some record =>
    if record.lifecycle = .cancelled then
      .failure .cancelled "request was cancelled after the decision was issued"
    else if record.requiresRevalidation then
      .failure .revalidationRequired "request requires revalidation"
    else if record.lifecycle.isTerminal then .failure .conflict "request is terminal"
    else if !record.isCurrentAttempt subject.attempt then
      .failure .staleGeneration "attempt was superseded after the decision"
    else if belowFloor record sequence then
      .failure .staleAuthority "decision predates the request's current authority floor"
    else .ok ()

/- A transfer is still at the current model generation. -/
def checkDecisionModel (s : Coordinator) (transfer : TransferRecord) : Result Unit :=
  if transfer.modelHash = 0 then .ok ()
  else
    match s.requireModelGeneration transfer.modelHash with
    | .error status => .error status
    | .ok current =>
      if current ≠ transfer.modelGeneration then
        .failure .staleGeneration "model generation advanced"
      else .ok ()

/- A transfer is still at the current state generation. -/
def checkDecisionState (s : Coordinator) (transfer : TransferRecord) : Result Unit :=
  match s.requireStateGeneration transfer.stateHash with
  | .error status => .error status
  | .ok current =>
    if current ≠ transfer.stateGeneration then .failure .staleGeneration "state generation advanced"
    else .ok ()

def checkTransferDecision (s : Coordinator) (subject : TrafficSubject) : Result Unit :=
  match s.transfers.lookup subject.transfer with
  | none => .failure .notFound "transfer no longer exists"
  | some transfer =>
    if transfer.state.isTerminal then .failure .conflict "transfer is terminal"
    else do
      s.checkDecisionModel transfer
      s.checkDecisionState transfer

/-
  A decision is checked again when it is used. The source
  has no branch for a subject of unknown kind.
-/
def validateDecision (s : Coordinator) (decision : Decision) : Result Unit := do
  s.checkStamp decision.authority
  if !decision.permitsTraffic then .failure .refused "decision does not permit traffic"
  else
    match decision.subject.kind with
    | .serving => s.checkServingDecision decision.subject decision.authority.sequence
    | .transfer => s.checkTransferDecision decision.subject
    | .unknown => .ok ()

/- Store a flow and index it by its subject. -/
def addFlow (s : Coordinator) (flow : FlowRecord) : Coordinator :=
  { s with
    flows := s.flows.emplace flow.id flow
    flowsByRequest :=
      if flow.request.isNil then s.flowsByRequest
      else s.flowsByRequest ++ [(flow.request, flow.id)]
    flowsByTransfer :=
      if flow.transfer.isNil then s.flowsByTransfer
      else s.flowsByTransfer ++ [(flow.transfer, flow.id)]
    bulkInFlightBytes :=
      if flow.bulk then s.bulkInFlightBytes + flow.declaredBytes
      else s.bulkInFlightBytes }

/- Open a flow of a serving attempt through the ledger. -/
def openServingFlow (s : Coordinator) (subject : TrafficSubject) (flow : FlowRecord) (now : Int64) :
    Result FlowId × Coordinator :=
  let opened :=
    s.ledger.openFlow subject.request subject.attempt flow.traffic flow.declaredBytes now
  match opened.1 with
  | .error status => (.error status, s.withLedger opened.2)
  | .ok id =>
    (.ok id, (s.withLedger opened.2).addFlow { flow with
          id
          request := subject.request
          attempt := subject.attempt })

/- The flow identity the coordinator issues. -/
def transferFlowId (sequence : UInt64) (transfer : StateTransferId) : FlowId :=
  ⟨sequence, mix64 (transfer.low ^^^ (transfer.high + (0xA24BAED4963EE407 : UInt64)))⟩

def openTransferFlow (s : Coordinator) (subject : TrafficSubject) (flow : FlowRecord) :
    Result FlowId × Coordinator :=
  match s.transfers.lookup subject.transfer with
  | none => (.failure .notFound "transfer no longer exists", s)
  | some transfer =>
    if !transfer.flow.isNil then (.ok transfer.flow, s)
    else
      let sequence := s.nextFlowSequence + 1
      let id := transferFlowId sequence subject.transfer
      (.ok id, { s with
          nextFlowSequence := sequence
          transfers := s.transfers.insert subject.transfer { transfer with flow := id } }.addFlow
          { flow with
            id
            transfer := subject.transfer })

/- A flow of this class and size exceeds the bulk cap. -/
def bulkExhausted (s : Coordinator) (traffic : TrafficClass) (declaredBytes : UInt64) : Bool :=
  (s.policy.rule traffic).yieldsToLatency && 0 < s.policy.bulkInFlightCapBytes &&
    s.policy.bulkInFlightCapBytes < s.bulkInFlightBytes + declaredBytes

def openFlow (s : Coordinator) (decision : Decision) (declaredBytes : UInt64) (now : Int64) :
    Result FlowId × Coordinator :=
  let traffic := decision.treatment.trafficClass
  let flow : FlowRecord :=
    { traffic, declaredBytes
      sequence := decision.authority.sequence
      bulk := (s.policy.rule traffic).yieldsToLatency }
  match s.validateDecision decision with
  | .error status => (.error status, s)
  | .ok () =>
    if s.config.limits.maxSinglePayloadBytes < declaredBytes then
      (.failure .boundsExceeded "declared flow size is too large", s)
    else if s.bulkExhausted traffic declaredBytes then
      (.failure .capacityExhausted "bulk in-flight capacity is exhausted", s)
    else if decision.subject.kind = .serving then s.openServingFlow decision.subject flow now
    else s.openTransferFlow decision.subject flow

end Coordinator

/- Terminate a transfer with the request that owns it. -/
def TransferRecord.abandonOwned (transfer : TransferRecord) : TransferRecord :=
  if transfer.state.isTerminal then transfer
  else
    { transfer with
      state := .abandoned
      terminalReason := .rejectedRequestTerminal }

namespace Coordinator

/- Remove a flow from the table and the bulk total. -/
def dropFlow (s : Coordinator) (flow : FlowRecord) : Coordinator :=
  { s with
    bulkInFlightBytes :=
      if flow.bulk then
        if flow.declaredBytes ≤ s.bulkInFlightBytes then s.bulkInFlightBytes - flow.declaredBytes
        else 0
      else s.bulkInFlightBytes
    flows := s.flows.erase flow.id }

def detachRequest (s : Coordinator) (flow : FlowRecord) : Coordinator :=
  if flow.request.isNil then s
  else
    { s with
      flowsByRequest := s.flowsByRequest.erase (flow.request, flow.id)
      ledger := (s.ledger.releaseFlow flow.id).2 }

def detachTransfer (s : Coordinator) (flow : FlowRecord) : Coordinator :=
  if flow.transfer.isNil then s
  else
    { s with
      flowsByTransfer := s.flowsByTransfer.erase (flow.transfer, flow.id)
      transfers := s.transfers.modify flow.transfer (fun transfer =>
            if transfer.flow = flow.id then { transfer with flow := .nil }
            else transfer) }

def releaseFlowLocked (s : Coordinator) (flow : FlowRecord) : Coordinator :=
  ((s.dropFlow flow).detachRequest flow).detachTransfer flow

/- Release a flow by identity if it is still open. -/
def releaseVictim (s : Coordinator) (id : FlowId) : Coordinator :=
  match s.flows.lookup id with
  | none => s
  | some flow => s.releaseFlowLocked flow

/- Release a list of flows, one after the other. -/
def releaseVictims (s : Coordinator) (victims : List FlowId) : Coordinator :=
  victims.foldl releaseVictim s

/- Terminate every transfer a request owns. -/
def abandonOwnedTransfers (s : Coordinator) (request : RequestId) : Coordinator :=
  { s with
    transfers :=
      (s.transfersByRequest.equalRange request).foldl
        (fun transfers id => transfers.modify id TransferRecord.abandonOwned) s.transfers }

def ownedTransferFlows (s : Coordinator) (request : RequestId) : List FlowId :=
  (s.transfersByRequest.equalRange request).filterMap (fun id =>
      match s.transfers.lookup id with
      | none => none
      | some transfer =>
        if transfer.flow.isNil then none
        else some transfer.flow)

def releaseRequestFlows (s : Coordinator) (request : RequestId) : Coordinator :=
  if request.isNil then s
  else
    (s.abandonOwnedTransfers request).releaseVictims
      (s.flowsByRequest.equalRange request ++ s.ownedTransferFlows request)

def releaseTransferFlows (s : Coordinator) (transfer : StateTransferId) : Coordinator :=
  if transfer.isNil then s
  else s.releaseVictims (s.flowsByTransfer.equalRange transfer)

def releaseFlow (s : Coordinator) (id : FlowId) : Result Unit × Coordinator :=
  match s.flows.lookup id with
  | none => (.failure .notFound "unknown flow", s)
  | some flow => (.ok (), s.releaseFlowLocked flow)

def recordFlowBytes (s : Coordinator) (id : FlowId) (bytes : UInt64) (inbound : Bool) :
    Result Unit × Coordinator :=
  match s.flows.lookup id with
  | none => (.failure .notFound "unknown flow", s)
  | some flow =>
    match checkedAdd flow.observedBytes bytes with
    | none => (.failure .boundsExceeded "flow accounting overflow", s)
    | some updated =>
      let observed := { s with flows := s.flows.insert id { flow with observedBytes := updated } }
      if flow.request.isNil then (.ok (), observed)
      else
        let recorded := observed.ledger.recordFlowBytes id bytes inbound
        (recorded.1, observed.withLedger recorded.2)

end Coordinator

end TrafficFabric
