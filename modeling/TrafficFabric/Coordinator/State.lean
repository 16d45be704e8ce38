import TrafficFabric.Core.Evidence
import TrafficFabric.Core.Policy
import TrafficFabric.Ledger.Ledger

/-
  The state of the coordinator, its configuration and the
  durable document it exports.

  The clock is read once per operation, so its reading is
  an argument of the operations that use it. The generator
  of boot identities is kept as its seed and the number of
  values drawn from it; the function from seeds to values
  is a parameter of the operations that draw.
-/

namespace TrafficFabric

structure CoordinatorLimits where
  ledger : LedgerLimits := {}
  maxSloContracts : Nat := 4096
  maxRouteDecisions : Nat := 8192
  maxModelRecords : Nat := 256
  maxStateRecords : Nat := 4096
  maxTransferRecords : Nat := 4096
  maxDeferRecords : UInt32 := 8192
  maxSinglePayloadBytes : UInt64 := 4294967296
deriving DecidableEq

structure CoordinatorConfig where
  policy : PolicyConfig := PolicyConfig.canonicalDefaults ⟨1⟩
  limits : CoordinatorLimits := {}
  defaultEvidenceMaxAgeNanos : UInt64 := 5000000000
  maxRetainedCompletionRecords : Nat := 4096
  bootSeed : UInt64 := 0
deriving Inhabited

inductive TransferState
| unknown
| registered
| authorized
| inProgress
| completed
| refused
| abandoned
deriving DecidableEq, Inhabited

instance : Enumeration TransferState where
  listed := [.unknown, .registered, .authorized, .inProgress, .completed, .refused, .abandoned]

/- The test the source repeats at each use. -/
def TransferState.isTerminal (state : TransferState) : Bool :=
  state == .completed || state == .refused || state == .abandoned

structure TransferRegistration where
  id : StateTransferId := .nil
  stateHash : UInt64 := 0
  modelHash : UInt64 := 0
  payloadBytes : UInt64 := 0
  declaredClass : TrafficClass := .unknown
  direction : FlowDirection := .lateral
  requiredIntegrity : IntegrityClass := .checksumAndVerify
  request : RequestId := .nil
  attempt : AttemptId := .nil
  deadline : Instant := .unset
deriving DecidableEq

structure TransferRecord where
  id : StateTransferId := .nil
  stateHash : UInt64 := 0
  modelHash : UInt64 := 0
  payloadBytes : UInt64 := 0
  verifiedBytes : UInt64 := 0
  modelGeneration : ModelGeneration := .unset
  stateGeneration : StateGeneration := .unset
  request : RequestId := .nil
  attempt : AttemptId := .nil
  declaredClass : TrafficClass := .unknown
  direction : FlowDirection := .lateral
  requiredIntegrity : IntegrityClass := .unknown
  state : TransferState := .unknown
  terminalReason : ReasonCode := .unknown
  deadline : Instant := .unset
  registeredAt : Instant := .unset
  flow : FlowId := .nil
deriving DecidableEq

structure TransferAuthorization where
  transfer : StateTransferId := .nil
  trafficClass : TrafficClass := .unknown
  integrity : IntegrityClass := .unknown
  pacing : PacingClass := .unknown
  priority : PriorityClass := .unknown
  authority : AuthorityStamp := {}
  reason : ReasonCode := .unknown
  authorized : Bool := false
  flow : FlowId := .nil
deriving DecidableEq

/- Deferral state of one subject and class. -/
structure DeferRecord where
  kind : SubjectKind := .unknown
  request : RequestId := .nil
  attempt : AttemptId := .nil
  transfer : StateTransferId := .nil
  traffic : TrafficClass := .unknown
  count : UInt32 := 0
  firstDeferNanos : Int64 := 0
  lastDeferNanos : Int64 := 0
  starvationClass : Bool := false
deriving DecidableEq

/- An open flow as the coordinator sees it. -/
structure FlowRecord where
  id : FlowId := .nil
  request : RequestId := .nil
  attempt : AttemptId := .nil
  transfer : StateTransferId := .nil
  traffic : TrafficClass := .unknown
  declaredBytes : UInt64 := 0
  observedBytes : UInt64 := 0
  sequence : AuthoritySequence := .unset
  bulk : Bool := false
deriving DecidableEq

/- A generator: its seed and how much was drawn. -/
structure RandomState where
  seed : UInt64
  drawn : Nat
deriving DecidableEq

structure Coordinator where
  config : CoordinatorConfig
  epoch : CoordinatorEpoch := .unset
  incarnation : BootId := .nil
  authoritySequence : AuthoritySequence := .unset
  policy : PolicyConfig
  topology : TopologyEvidence := {}
  topologyPresent : Bool := false
  models : Table UInt64 ModelState := ∅
  states : Table UInt64 StateGenerationRecord := ∅
  sloContracts : Table RequestId SloContract := ∅
  routeDecisions : Table AttemptId RouteDecision := ∅
  transfers : Table StateTransferId TransferRecord := ∅
  flows : Table FlowId FlowRecord := ∅
  flowsByRequest : Multimap RequestId FlowId := []
  flowsByTransfer : Multimap StateTransferId FlowId := []
  transfersByRequest :
    Multimap RequestId StateTransferId := []
  defers : Table UInt64 DeferRecord := ∅
  completions : Table RequestId PublishOutcome := ∅
  completionOrder : List RequestId := []
  ledger : RequestLedger
  transferClassAccounting : TrafficClass → ClassAccounting := fun _ => {}
  bootCount : UInt64 := 0
  bulkInFlightBytes : UInt64 := 0
  streamingDeferrals : UInt32 := 0
  transfersStarted : UInt64 := 0
  transfersCompleted : UInt64 := 0
  transfersRefused : UInt64 := 0
  nextFlowSequence : UInt64 := 0
  random : RandomState

namespace Coordinator

/- A policy whose generation is established. -/
def withGeneration (policy : PolicyConfig) : PolicyConfig :=
  if policy.generation.isUnset then policy.setGeneration ⟨1⟩
  else policy

/- A policy at the generation after its own. -/
def withNextGeneration (policy : PolicyConfig) : PolicyConfig :=
  policy.setGeneration (if policy.generation.isUnset then ⟨1⟩
      else policy.generation.next)

/-
  The constructed coordinator. The entropy stands for the
  value of the random device, used when no seed is set.
-/
def create (config : CoordinatorConfig) (entropy : UInt64) : Coordinator where
  config
  policy := withGeneration config.policy
  ledger := RequestLedger.create config.limits.ledger
  random :=
    { seed := if config.bootSeed ≠ 0 then config.bootSeed else entropy
      drawn := 0 }

/- The sequence after the current one. -/
def nextSequence (s : Coordinator) : AuthoritySequence :=
  if s.authoritySequence.isUnset then ⟨1⟩
  else s.authoritySequence.next

/- The stamp of the authority now in force. -/
def authority (s : Coordinator) : AuthorityStamp where
  epoch := s.epoch
  incarnation := s.incarnation
  policy := s.policy.generation
  sequence := s.authoritySequence

def advanceSequence (s : Coordinator) : Coordinator :=
  { s with authoritySequence := s.nextSequence }

/- Mint a stamp under the next sequence. -/
def mintStamp (s : Coordinator) : AuthorityStamp × Coordinator :=
  (s.advanceSequence.authority, s.advanceSequence)

/- Replace the ledger. -/
def withLedger (s : Coordinator) (ledger : RequestLedger) : Coordinator :=
  { s with ledger }

end Coordinator

def snapshotFormatVersion : UInt16 := 1

structure PersistedCoordinatorState where
  formatVersion : UInt16 := snapshotFormatVersion
  epoch : CoordinatorEpoch := .unset
  previousIncarnation : BootId := .nil
  bootCount : UInt64 := 0
  policy : PolicyConfig := {}
  topologyPresent : Bool := false
  topology : TopologyEvidence := {}
  models : List ModelState := []
  states : List StateGenerationRecord := []
  terminalRequests : List RequestRecord := []
  interruptedRequests : List RequestRecord := []

end TrafficFabric
