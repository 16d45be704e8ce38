import TrafficFabric.Core.Identity
import TrafficFabric.Library.Enumeration

/-
  Traffic classes, serving stages and the treatment
  vocabulary, with the rules that tie a class to a stage.

  Every enumeration lists its members in the numeric order
  of the source; the closing `Count` member of the source,
  which is a bound and never a value, has no constructor.
-/

namespace TrafficFabric

/- Semantic class of inference traffic. -/
inductive TrafficClass
| unknown
| requestIngress
| prefillInput
| prefillDecodeHandoff
| kvTransfer
| stateTransfer
| modelTransfer
| adapterTransfer
| decodeStream
| speculativeBranch
| responseEgress
| control
deriving DecidableEq, Inhabited

instance : Enumeration TrafficClass where
  listed :=
    [.unknown, .requestIngress, .prefillInput,
      .prefillDecodeHandoff, .kvTransfer, .stateTransfer,
      .modelTransfer, .adapterTransfer, .decodeStream,
      .speculativeBranch, .responseEgress, .control]

/- Classes a registered transfer may carry. -/
def TrafficClass.isTransferClass (traffic : TrafficClass) : Bool :=
  traffic == .kvTransfer || traffic == .stateTransfer ||
    traffic == .modelTransfer || traffic == .adapterTransfer

/- Serving stage of a request or an attempt. -/
inductive ServingStage
| unknown
| admitted
| routing
| prefillQueued
| prefillRunning
| handoffPending
| decodeQueued
| decodeRunning
| streaming
| completing
| completed
| cancelled
| failed
deriving DecidableEq, Inhabited

instance : Enumeration ServingStage where
  listed :=
    [.unknown, .admitted, .routing, .prefillQueued,
      .prefillRunning, .handoffPending, .decodeQueued,
      .decodeRunning, .streaming, .completing, .completed,
      .cancelled, .failed]

namespace ServingStage

def label : ServingStage → String
| .unknown => "UNKNOWN"
| .admitted => "ADMITTED"
| .routing => "ROUTING"
| .prefillQueued => "PREFILL_QUEUED"
| .prefillRunning => "PREFILL_RUNNING"
| .handoffPending => "HANDOFF_PENDING"
| .decodeQueued => "DECODE_QUEUED"
| .decodeRunning => "DECODE_RUNNING"
| .streaming => "STREAMING"
| .completing => "COMPLETING"
| .completed => "COMPLETED"
| .cancelled => "CANCELLED"
| .failed => "FAILED"

def isTerminal (stage : ServingStage) : Bool :=
  stage == .completed || stage == .cancelled || stage == .failed

def isServingActive (stage : ServingStage) : Bool :=
  stage != .unknown && !stage.isTerminal

/- Whether the second stage may follow the first. -/
def isLegalTransition (source target : ServingStage) : Bool :=
  if target = .unknown then false
  else if source = target then true
  else if source.isTerminal then false
  else
    match source with
    | .unknown => target == .admitted
    | .admitted =>
      target == .routing || target == .prefillQueued ||
        target == .decodeQueued || target == .cancelled || target == .failed
    | .routing =>
      target == .prefillQueued ||
        target == .decodeQueued || target == .cancelled || target == .failed
    | .prefillQueued => target == .prefillRunning || target == .cancelled || target == .failed
    | .prefillRunning =>
      target == .handoffPending ||
        target == .decodeQueued || target == .cancelled || target == .failed
    | .handoffPending =>
      target == .decodeQueued ||
        target == .decodeRunning || target == .cancelled || target == .failed
    | .decodeQueued => target == .decodeRunning || target == .cancelled || target == .failed
    | .decodeRunning =>
      target == .streaming || target == .completing || target == .cancelled || target == .failed
    | .streaming => target == .completing || target == .cancelled || target == .failed
    | .completing => target == .completed || target == .cancelled || target == .failed
    | .completed | .cancelled | .failed => false

end ServingStage

/- The class a stage authorises without a declaration. -/
def canonicalClassForStage : ServingStage → TrafficClass
| .admitted | .routing => .requestIngress
| .prefillQueued | .prefillRunning => .prefillInput
| .handoffPending | .decodeQueued => .prefillDecodeHandoff
| .decodeRunning | .streaming => .decodeStream
| .completing => .responseEgress
| .unknown | .completed | .cancelled | .failed => .unknown

/- Whether the stage legally produces the class. -/
def isClassLegalForStage (traffic : TrafficClass) (stage : ServingStage) : Bool :=
  if traffic = .control then stage.isServingActive
  else
    match stage with
    | .admitted | .routing => traffic == .requestIngress
    | .prefillQueued | .prefillRunning => traffic == .prefillInput
    | .handoffPending =>
      traffic == .prefillDecodeHandoff || traffic == .kvTransfer || traffic == .stateTransfer
    | .decodeQueued => traffic == .prefillDecodeHandoff || traffic == .kvTransfer
    | .decodeRunning =>
      traffic == .kvTransfer || traffic == .decodeStream || traffic == .speculativeBranch
    | .streaming =>
      traffic == .decodeStream || traffic == .speculativeBranch || traffic == .responseEgress
    | .completing => traffic == .responseEgress
    | .unknown | .completed | .cancelled | .failed => false

inductive FlowDirection
| unknown
| ingress
| egress
| lateral
deriving DecidableEq, Inhabited

instance : Enumeration FlowDirection where
  listed := [.unknown, .ingress, .egress, .lateral]

inductive PriorityClass
| unknown
| latencyCritical
| interactive
| standard
| background
| bulk
deriving DecidableEq, Inhabited

instance : Enumeration PriorityClass where
  listed := [.unknown, .latencyCritical, .interactive, .standard, .background, .bulk]

inductive PacingClass
| unknown
| immediate
| paced
| rateLimited
| bestEffort
deriving DecidableEq, Inhabited

instance : Enumeration PacingClass where
  listed := [.unknown, .immediate, .paced, .rateLimited, .bestEffort]

/- Integrity metadata a transfer must carry. -/
inductive IntegrityClass
| unknown
| none
| checksum
| checksumAndVerify
deriving DecidableEq, Inhabited

instance : Enumeration IntegrityClass where
  listed := [.unknown, .none, .checksum, .checksumAndVerify]

/- The stronger of two integrity requirements. -/
def maxIntegrity (a b : IntegrityClass) : IntegrityClass :=
  if Enumeration.code b ≤ Enumeration.code a then a else b

inductive IsolationDomain
| unknown
| latencyCritical
| interactive
| background
| bulk
| control
deriving DecidableEq, Inhabited

instance : Enumeration IsolationDomain where
  listed := [.unknown, .latencyCritical, .interactive, .background, .bulk, .control]

inductive PriorityHint
| none
| latencyCritical
| interactive
| batch
| background
deriving DecidableEq, Inhabited

instance : Enumeration PriorityHint where
  listed := [.none, .latencyCritical, .interactive, .batch, .background]

/- Whether traffic belongs to a request or to a transfer. -/
inductive SubjectKind
| unknown
| serving
| transfer
deriving DecidableEq, Inhabited

instance : Enumeration SubjectKind where
  listed := [.unknown, .serving, .transfer]

/- What the traffic is about. -/
structure TrafficSubject where
  kind : SubjectKind := .unknown
  request : RequestId := .nil
  attempt : AttemptId := .nil
  requestGeneration : RequestGeneration := .unset
  transfer : StateTransferId := .nil
deriving DecidableEq

def TrafficSubject.isValid (subject : TrafficSubject) : Bool :=
  match subject.kind with
  | .serving =>
    !subject.request.isNil && !subject.attempt.isNil && !subject.requestGeneration.isUnset
  | .transfer => !subject.transfer.isNil
  | .unknown => false

/-
  The generations a caller believes are current. An absent
  field leaves that dimension unbound.
-/
structure GenerationBinding where
  requestGeneration : Option RequestGeneration := none
  modelGeneration : Option ModelGeneration := none
  stateGeneration : Option StateGeneration := none
  routeDecision : Option RouteDecisionGeneration := none
  sloContract : Option SloContractGeneration := none
  topology : Option TopologyGeneration := none
  policy : Option PolicyGeneration := none
  coordinatorEpoch : Option CoordinatorEpoch := none
deriving DecidableEq

/- Description of traffic a peer asks about. -/
structure TrafficRequest where
  subject : Option TrafficSubject := none
  declaredClass : TrafficClass := .unknown
  declaredStage : ServingStage := .unknown
  direction : FlowDirection := .unknown
  priorityHint : PriorityHint := .none
  payloadBytes : UInt64 := 0
  observedBytes : UInt64 := 0
  tokenCount : UInt32 := 0
  chunkIndex : UInt32 := 0
  totalChunks : UInt32 := 0
  tenantHash : UInt64 := 0
  modelHash : UInt64 := 0
  adapterHash : UInt64 := 0
  deadline : Instant := .unset
  deadlineAfterNanos : UInt64 := 0
  binding : GenerationBinding := {}
deriving DecidableEq

def TrafficRequest.structurallyValid (request : TrafficRequest) : Bool :=
  if request.subject.any (fun s => !s.isValid) then false
  else if request.subject.isNone && request.declaredClass != .modelTransfer &&
      request.declaredClass != .adapterTransfer && request.declaredClass != .control then false
  else if request.totalChunks ≠ 0 && request.totalChunks ≤ request.chunkIndex then false
  else if request.deadline.isSet && request.deadlineAfterNanos ≠ 0 then false
  else true

/- Concrete network treatment granted by a decision. -/
structure TrafficTreatment where
  trafficClass : TrafficClass := .unknown
  priority : PriorityClass := .unknown
  pacing : PacingClass := .unknown
  integrity : IntegrityClass := .unknown
  isolation : IsolationDomain := .unknown
  reservedWeight : UInt32 := 0
  maxBurstBytes : UInt64 := 0
  rateLimitBytesPerSec : UInt64 := 0
  flow : FlowId := .nil
  holdUntil : Instant := .unset
  deferCount : UInt32 := 0
deriving DecidableEq

end TrafficFabric
