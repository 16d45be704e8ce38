import TrafficFabric.Coordinator.Flows

/-
  State transfers: registration, authorization, start,
  completion and abandonment.
-/

namespace TrafficFabric

def TransferRegistration.record (registration : TransferRegistration) (model : ModelGeneration)
    (state : StateGeneration) (now : Int64) : TransferRecord where
  id := registration.id
  stateHash := registration.stateHash
  modelHash := registration.modelHash
  payloadBytes := registration.payloadBytes
  modelGeneration := model
  stateGeneration := state
  request := registration.request
  attempt := registration.attempt
  declaredClass := registration.declaredClass
  direction := registration.direction
  requiredIntegrity := registration.requiredIntegrity
  state := .registered
  deadline := registration.deadline
  registeredAt := ⟨now⟩

namespace Coordinator

def checkRegistration (s : Coordinator) (registration : TransferRegistration) :
    Result (ModelGeneration × StateGeneration) :=
  if registration.id.isNil then .failure .invalidArgument "nil transfer id"
  else if !registration.declaredClass.isTransferClass then
    .failure .invalidArgument "transfer requires a transfer traffic class"
  else if s.config.limits.maxSinglePayloadBytes < registration.payloadBytes then
    .failure .boundsExceeded "transfer payload exceeds the single-transfer limit"
  else if (s.transfers.lookup registration.id).isSome then
    .failure .alreadyExists "transfer already registered"
  else if s.config.limits.maxTransferRecords ≤ s.transfers.size then
    .failure .capacityExhausted "transfer registry is full"
  else do
    let model ← s.requireModelGeneration registration.modelHash
    let state ← s.requireStateGeneration registration.stateHash
    if !registration.request.isNil && s.ledger.isCancelled registration.request then
      .failure .cancelled "owner request is cancelled"
    else .ok (model, state)

def registerTransfer (s : Coordinator) (registration : TransferRegistration) (now : Int64) :
    Result StateTransferId × Coordinator :=
  match s.checkRegistration registration with
  | .error status => (.error status, s)
  | .ok (model, state) =>
    (.ok registration.id, { s with
        transfers := s.transfers.emplace registration.id (registration.record model state now)
        transfersByRequest :=
          if registration.request.isNil then s.transfersByRequest
          else s.transfersByRequest ++ [(registration.request, registration.id)] })

def settleTransfer (s : Coordinator) (id : StateTransferId) (state : TransferState)
    (reason : ReasonCode) : Coordinator :=
  { s with
    transfers := s.transfers.modify id (fun transfer => { transfer with
          state
          terminalReason := reason }) }

def countRefused (s : Coordinator) : Coordinator :=
  { s with transfersRefused := s.transfersRefused + 1 }

/- Refuse a transfer the evaluation did not permit. -/
def refuseTransfer (s : Coordinator) (id : StateTransferId) (reason : ReasonCode) : Coordinator :=
  match s.transfers.lookup id with
  | none => s.countRefused
  | some _ => ((s.settleTransfer id .refused reason).releaseTransferFlows id).countRefused

def authorizationOf (subject : TrafficSubject) (decision : Decision) : TransferAuthorization where
  transfer := subject.transfer
  authority := decision.authority
  reason := decision.reason
  authorized := decision.permitsTraffic
  trafficClass := decision.treatment.trafficClass
  integrity := decision.treatment.integrity
  pacing := decision.treatment.pacing
  priority := decision.treatment.priority

/- Open the flow of a permitted transfer. -/
def startAuthorized (s : Coordinator) (subject : TrafficSubject) (decision : Decision)
    (transfer : TransferRecord) (now : Int64) : Result TransferAuthorization × Coordinator :=
  let authorization := authorizationOf subject decision
  let opened := s.openFlow decision transfer.payloadBytes now
  match opened.1 with
  | .error _ =>
    (.ok { authorization with
        authorized := false
        reason := .rejectedFlowLimit },
      (opened.2.settleTransfer subject.transfer .refused .rejectedFlowLimit).countRefused)
  | .ok flow =>
    (.ok { authorization with flow }, { opened.2 with
        transfers := opened.2.transfers.modify subject.transfer (fun current => { current with
              state := .authorized
              flow })
        transfersStarted := opened.2.transfersStarted + 1 })

def authorizeTransfer (s : Coordinator) (request : TrafficRequest) (now : Int64) (victim : Nat) :
    Result TransferAuthorization × Coordinator :=
  match request.subject with
  | none =>
    (.failure .invalidArgument ("transfer authorization requires a " ++ "transfer subject"), s)
  | some subject =>
    if subject.kind ≠ .transfer then
      (.failure .invalidArgument ("transfer authorization requires a " ++ "transfer subject"), s)
    else
      let decided := s.evaluate request now victim
      if !decided.1.permitsTraffic then
        (.ok (authorizationOf subject decided.1),
          decided.2.refuseTransfer subject.transfer decided.1.reason)
      else
        match decided.2.transfers.lookup subject.transfer with
        | none => (.failure .notFound "transfer no longer exists", decided.2)
        | some transfer => decided.2.startAuthorized subject decided.1 transfer now

def startTransfer (s : Coordinator) (id : StateTransferId) (authorization : TransferAuthorization) :
    Result Unit × Coordinator :=
  match s.transfers.lookup id with
  | none => (.failure .notFound "unknown transfer", s)
  | some transfer =>
    if authorization.transfer ≠ id then
      (.failure .invalidArgument "authorization belongs to a different transfer", s)
    else if !authorization.authorized then
      (.failure .notAuthorized "transfer was not authorized", s)
    else if transfer.state = .inProgress then (.ok (), s)
    else if transfer.state ≠ .authorized then
      (.failure .conflict "transfer is not in an authorized state", s)
    else
      (.ok (), { s with transfers := s.transfers.insert id { transfer with state := .inProgress } })

/- Refuse a transfer whose verified bytes are wrong. -/
def refuseMismatch (s : Coordinator) (id : StateTransferId) : Coordinator :=
  ((s.settleTransfer id .refused
    .rejectedIntegrityUnavailable).releaseTransferFlows id).countRefused

def markCompleted (s : Coordinator) (id : StateTransferId) (transfer : TransferRecord)
    (verifiedBytes : UInt64) : Coordinator :=
  { s with
    transfers := s.transfers.insert id { transfer with
        verifiedBytes
        state := .completed
        terminalReason := .committedCompletion } }

def countCompleted (s : Coordinator) : Coordinator :=
  { s with transfersCompleted := s.transfersCompleted + 1 }

def completeTransfer (s : Coordinator) (id : StateTransferId) (verifiedBytes : UInt64) :
    Result Unit × Coordinator :=
  match s.transfers.lookup id with
  | none => (.failure .notFound "unknown transfer", s)
  | some transfer =>
    if transfer.state ≠ .authorized ∧ transfer.state ≠ .inProgress then
      (.failure .conflict "transfer is not in an authorized state", s)
    else if transfer.requiredIntegrity = .checksumAndVerify ∧
        verifiedBytes ≠ transfer.payloadBytes then
      (.failure .integrityMismatch
        ("verified byte count does not match the " ++ "authorized payload"), s.refuseMismatch id)
    else if transfer.payloadBytes < verifiedBytes then
      (.failure .integrityMismatch
        ("verified byte count exceeds the authorized " ++ "payload"), s.refuseMismatch id)
    else
      (.ok (), ((s.markCompleted id transfer verifiedBytes).releaseTransferFlows id).countCompleted)

def abandonTransfer (s : Coordinator) (id : StateTransferId) (reason : ReasonCode) :
    Result Unit × Coordinator :=
  match s.transfers.lookup id with
  | none => (.failure .notFound "unknown transfer", s)
  | some transfer =>
    if transfer.state = .completed then (.failure .conflict "transfer already completed", s)
    else (.ok (), ((s.settleTransfer id .abandoned reason).releaseTransferFlows id).countRefused)

end Coordinator

end TrafficFabric
