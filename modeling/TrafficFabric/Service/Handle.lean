import TrafficFabric.Library.Threads
import TrafficFabric.Coordinator.Accounting
import TrafficFabric.Service.Dispatch
import TrafficFabric.Service.Host

/-
  The handler of the service: what it does with a message of
  a peer, as the atomic steps it takes on the state that
  all sessions share.

  Every operation of the coordinator, every reading of the
  clock and every section under the snapshot mutex is one
  step. A handler takes several of them, so the handlers of
  other sessions may act in between.
-/

namespace TrafficFabric

open Generation

structure AdvanceGenerationMessage where
  targetHash : UInt64 := 0
  expectedGeneration : UInt64 := 0
  hasExpected : Bool := false
  revalidateOnly : Bool := false
  stateTarget : Bool := false
deriving DecidableEq

/-
  A message whose body was decoded, a body that was refused,
  or a type without a handler.
-/
inductive Message
| heartbeat
| registerRequest (request : RequestId)
| registerAttempt (request : RequestId) (attempt : AttemptId) (modelHash : UInt64)
| stageUpdate (request : RequestId) (attempt : AttemptId) (stage : ServingStage)
| cancelRequest (request : RequestId) (reason : ReasonCode)
| failAttempt (request : RequestId) (attempt : AttemptId) (reason : ReasonCode)
| replaceAttempt (request : RequestId) (superseded replacement : AttemptId) (modelHash : UInt64)
| evaluateTraffic (request : TrafficRequest)
| openFlow (body : OpenFlowMessage)
| registerTransfer (registration : TransferRegistration)
| authorizeTransfer (request : TrafficRequest)
| transferComplete (transfer : StateTransferId) (verifiedBytes : UInt64)
| completionPublish (publication : CompletionPublication)
| accountingQuery
| statusQuery
| policyQuery
| topologyPublish (evidence : TopologyEvidence)
| publishSloContract
    (request : RequestId) (tailLatencyBudgetNanos : UInt64) (registrationDeadlineNanos : UInt64)
    (minStreamSharePerMille : UInt32)
| issueRouteDecision (request : RequestId) (attempt : AttemptId) (targetNode : UInt32)
    (lateral disaggregatedHandoff : Bool)
| advanceModelGeneration (body : AdvanceGenerationMessage)
| shutdown
| undecodable (status : Status)
| unhandled

/- The messages that a snapshot follows. -/
def Message.mutates : Message → Bool
| .heartbeat | .evaluateTraffic _ | .accountingQuery
| .statusQuery | .policyQuery | .shutdown
| .undecodable _ | .unhandled => false
| _ => true

structure RegisterRequestResponse where
  request : RequestId := .nil
  generation : RequestGeneration := .unset
  authority : AuthorityStamp := {}
deriving DecidableEq

structure RegisterAttemptResponse where
  request : RequestId := .nil
  attempt : AttemptId := .nil
  generation : AttemptGeneration := .unset
  modelGeneration : ModelGeneration := .unset
  routeGeneration : RouteDecisionGeneration := .unset
  sloGeneration : SloContractGeneration := .unset
  authority : AuthorityStamp := {}
deriving DecidableEq

structure RegisterTransferResponse where
  transfer : StateTransferId := .nil
  modelGeneration : ModelGeneration := .unset
  stateGeneration : StateGeneration := .unset
  state : TransferState := .unknown
  authority : AuthorityStamp := {}
deriving DecidableEq

structure TransferDecisionResponse where
  authorization : TransferAuthorization := {}
  subject : TrafficSubject := {}
  binding : GenerationBinding := {}
  authority : AuthorityStamp := {}
deriving DecidableEq

structure TopologyResponse where
  generation : TopologyGeneration := .unset
  state : EvidenceState := .unknown
  provenance : EvidenceProvenance := .unknown
deriving DecidableEq

structure ModelGenerationResponse where
  modelHash : UInt64 := 0
  generation : ModelGeneration := .unset
  stateGeneration : StateGeneration := .unset
  requiresRevalidation : Bool := false
deriving DecidableEq

/- The body of a reply, before it is encoded. -/
inductive Reply
| simpleAck (detail : String)
| registerRequest (response : RegisterRequestResponse)
| registerAttempt (response : RegisterAttemptResponse)
| decision (decision : Decision)
| openFlow (response : OpenFlowResponse)
| registerTransfer (response : RegisterTransferResponse)
| transferDecision (response : TransferDecisionResponse)
| completion (outcome : PublishOutcome)
| accounting (snapshot : AccountingSnapshot)
| status (status : CoordinatorStatus)
| policy (policy : PolicyConfig)
| topology (response : TopologyResponse)
| sloContract (contract : SloContract)
| routeDecision (decision : RouteDecision)
| modelGeneration (response : ModelGenerationResponse)

structure ServiceConfig where
  snapshotPath : String := ""
  snapshotIntervalNanos : Int64 := 0
  persist : Bool := false
deriving DecidableEq

/-
  What the sessions share. The history is never read: it
  tells which handler made each call of the coordinator, and
  the coordinator that call left.
-/
structure CoordinatorService where
  coordinator : Coordinator
  disk : Option (List UInt8) := none
  lastSnapshotNanos : Int64 := 0
  shutdownRequested : Bool := false
  history : List (Option Nat × Coordinator)

namespace CoordinatorService

/- A service that has made no call yet. -/
def create (coordinator : Coordinator) (disk : Option (List UInt8)) : CoordinatorService where
  coordinator
  disk
  history := [(none, coordinator)]

/- The handler with a ticket left this coordinator. -/
def record (service : CoordinatorService) (ticket : Nat) (coordinator : Coordinator) :
    CoordinatorService :=
  { service with
    coordinator
    history := service.history ++ [(some ticket, coordinator)] }

def snapshotOf (s : Coordinator) : Result (List UInt8) :=
  SnapshotStore.savePayload maxSnapshotPayloadBytes s.exportState

/- The section of `saveSnapshot` under the mutex. -/
def saved (service : CoordinatorService) (now : Int64) : CoordinatorService :=
  match snapshotOf service.coordinator with
  | .error _ => service
  | .ok payload =>
    { service with
      disk := some payload
      lastSnapshotNanos := now }

abbrev Steps (α : Type) : Type :=
  Script CoordinatorService Int64 α

def call {α : Type} (ticket : Nat) (operation : Coordinator → Int64 → α × Coordinator) : Steps α :=
  .act (fun service now => service.record ticket (operation service.coordinator now).2)
    (fun service now => .done (operation service.coordinator now).1)

/- One operation that only looks at the coordinator. -/
def look {α : Type} (ticket : Nat) (query : Coordinator → Int64 → α) : Steps α :=
  call ticket (fun s now => (query s now, s))

def readClock : Steps Int64 :=
  .act (fun service _ => service) (fun _ now => .done now)

/- A snapshot is younger than the interval asks for. -/
def recent (config : ServiceConfig) (service : CoordinatorService) (now : Int64) : Bool :=
  service.lastSnapshotNanos ≠ 0 &&
    now.toInt - service.lastSnapshotNanos.toInt < config.snapshotIntervalNanos.toInt

def maybeSnapshot (config : ServiceConfig) (mutated : Bool) : Steps Unit :=
  if !mutated || !config.persist || config.snapshotPath.isEmpty then .done ()
  else
    readClock.bind (fun now => .act (fun service _ => service) (fun service _ =>
        if recent config service now then .done ()
        else .act (fun held later => held.saved later) (fun _ _ => .done ())))

def requestShutdown : Steps Unit :=
  .act (fun service _ => { service with shutdownRequested := true }) (fun _ _ => .done ())

end CoordinatorService

---
-- The Handler
---

def Generation.reported {tag : GenerationTag} (found : Result (Generation tag)) : Generation tag :=
  match found with
  | .ok generation => generation
  | .error _ => .unset

namespace CoordinatorService

variable (ticket : Nat)

def namedModel (modelHash : UInt64) : Steps ModelGeneration :=
  if modelHash = 0 then .done .unset
  else
    (look ticket (fun s _ =>
      s.requireModelGeneration modelHash)).bind (fun found => .done (reported found))

def performAdvance (body : AdvanceGenerationMessage) : Steps (Result Reply) :=
  let response : ModelGenerationResponse := { modelHash := body.targetHash }
  if body.stateTarget then
    let expected : Option StateGeneration :=
      if body.hasExpected then some ⟨body.expectedGeneration⟩
      else none
    (call ticket (fun s _ =>
      if body.revalidateOnly then s.revalidateStateGeneration body.targetHash
      else s.advanceStateGeneration body.targetHash expected)).orFail (fun generation =>
      .done (.ok (.modelGeneration { response with stateGeneration := generation })))
  else if body.revalidateOnly then
    (call ticket (fun s _ => s.revalidateModelGeneration body.targetHash)).bind (fun model =>
      (call ticket (fun s _ => s.revalidateStateGeneration body.targetHash)).bind (fun state =>
        match model, state with
        | .error status, .error _ => .done (.error status)
        | model, state =>
          .done (.ok (.modelGeneration { response with
              generation := reported model
              stateGeneration := reported state }))))
  else
    let expected : Option ModelGeneration :=
      if body.hasExpected then some ⟨body.expectedGeneration⟩
      else none
    (call ticket (fun s _ =>
      s.setModelGeneration body.targetHash expected)).orFail (fun generation =>
      .done (.ok (.modelGeneration { response with generation })))

/-
  What the handler does with a message before it turns to
  the snapshot. The victim is the choice an evaluation
  makes among the deferrals it may forget.
-/
def perform (victim : Nat) : Message → Steps (Result Reply)
| .heartbeat => .done (.ok (.simpleAck ""))
| .registerRequest request =>
  (call ticket (fun s now =>
    s.registerRequest request now)).orFail (fun generation =>
    (look ticket (fun s _ => s.authority)).bind (fun authority =>
    .done (.ok (.registerRequest { request, generation, authority }))))
| .registerAttempt request attempt modelHash =>
  (call ticket (fun s now =>
    s.registerAttempt request attempt modelHash now)).orFail (fun generation =>
    (namedModel ticket modelHash).bind (fun model =>
    (look ticket (fun s _ => s.authority)).bind (fun authority =>
    .done (.ok (.registerAttempt
      { request, attempt, generation
        modelGeneration := model
        authority })))))
| .stageUpdate request attempt stage =>
  (call ticket (fun s now =>
    s.advanceStage request attempt stage now)).orFail (fun _ => .done (.ok (.simpleAck "")))
| .cancelRequest request reason =>
  (call ticket (fun s now =>
    s.cancelRequest request reason now)).orFail (fun _ => .done (.ok (.simpleAck "")))
| .failAttempt request attempt reason =>
  (call ticket (fun s now =>
    s.failAttempt request attempt reason now)).orFail (fun _ => .done (.ok (.simpleAck "")))
| .replaceAttempt request superseded replacement modelHash =>
  (call ticket (fun s now =>
    s.replaceAttempt request superseded replacement modelHash now)).orFail (fun generation =>
    (look ticket (fun s _ => s.authority)).bind (fun authority =>
    .done (.ok (.registerAttempt
      { request
        attempt := replacement
        generation, authority }))))
| .evaluateTraffic request =>
  (call ticket (fun s now => s.evaluate request now victim)).bind (fun decision =>
    .done (.ok (.decision decision)))
| .openFlow body =>
  (call ticket (fun s now =>
    s.openFlow body.decision body.declaredBytes now)).orFail (fun flow =>
    (look ticket (fun s _ => s.authority)).bind (fun authority =>
    .done (.ok (.openFlow { flow, authority }))))
| .registerTransfer registration =>
  (call ticket (fun s now =>
    s.registerTransfer registration now)).orFail (fun transfer =>
    (look ticket (fun s _ => s.requireModelGeneration registration.modelHash)).bind (fun model =>
    (look ticket (fun s _ => s.requireStateGeneration registration.stateHash)).bind (fun state =>
    (look ticket (fun s _ => s.authority)).bind (fun authority =>
    .done (.ok (.registerTransfer
      { transfer
        modelGeneration := reported model
        stateGeneration := reported state
        state := .registered
        authority }))))))
| .authorizeTransfer request =>
  (call ticket (fun s now =>
    s.authorizeTransfer request now victim)).orFail (fun authorization =>
    .done (.ok (.transferDecision
      { authorization
        subject := request.subject.getD {}
        binding := request.binding
        authority := authorization.authority })))
| .transferComplete transfer verifiedBytes =>
  (call ticket (fun s _ =>
    s.completeTransfer transfer verifiedBytes)).orFail (fun _ => .done (.ok (.simpleAck "")))
| .completionPublish publication =>
  (call ticket (fun s now => s.publishCompletion publication now)).orFail (fun outcome =>
    .done (.ok (.completion outcome)))
| .accountingQuery =>
  (look ticket (fun s _ => s.accounting)).bind (fun snapshot => .done (.ok (.accounting snapshot)))
| .statusQuery => (look ticket Coordinator.status).bind (fun status => .done (.ok (.status status)))
| .policyQuery =>
  (look ticket (fun s _ => s.policy)).bind (fun policy => .done (.ok (.policy policy)))
| .topologyPublish evidence =>
  (call ticket (fun s now =>
    s.publishTopology evidence now)).orFail (fun generation =>
    .done (.ok (.topology
      { generation
        state := .current
        provenance := evidence.provenance })))
| .publishSloContract request tail deadline share =>
  (call ticket (fun s _ =>
    s.registerSloContract request tail deadline share)).orFail (fun contract =>
    .done (.ok (.sloContract contract)))
| .issueRouteDecision request attempt node lateral handoff =>
  (call ticket (fun s _ =>
    s.issueRouteDecision request attempt node lateral handoff)).orFail (fun decision =>
    .done (.ok (.routeDecision decision)))
| .advanceModelGeneration body => performAdvance ticket body
| .shutdown => requestShutdown.bind (fun _ => .done (.ok (.simpleAck "shutdown accepted")))
| .undecodable status => .done (.error status)
| .unhandled =>
  .done (.failure .unsupported ("this endpoint does not handle the requested " ++ "message type"))

/- A refused message leaves without a snapshot. -/
def handle (config : ServiceConfig) (victim : Nat) (message : Message) : Steps (Result Reply) :=
  (perform ticket victim message).orFail (fun reply =>
    (maybeSnapshot config message.mutates).bind (fun _ => .done (.ok reply)))

end CoordinatorService

end TrafficFabric
