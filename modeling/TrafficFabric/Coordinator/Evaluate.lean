import TrafficFabric.Coordinator.Registries

/-
  The evaluation of a traffic request: authority, subject,
  class, policy, evidence, deadline, deferral, treatment.

  The rules up to the deadline only read the state. Each is
  a function that refuses, with the reason, the class to
  account and the log so far, or passes its findings on.
  What follows decides between admission and deferral and
  writes the deferral table.

  The entry the source evicts when the deferral table is
  full is the first in the iteration order of a hash table;
  the model takes its position as an argument.

  Main declarations:
    * `Refusal`
    * `ResolvedSubject`
    * `Coordinator.resolveSubject`
    * `Coordinator.classify`
-/

---
-- Findings
---

namespace TrafficFabric

/- Why an evaluation ends in a rejection. -/
structure Refusal where
  reason : ReasonCode
  traffic : TrafficClass
  log : ExplanationLog

/- The subject of a request as the coordinator found it. -/
inductive ResolvedSubject
| serving (record : RequestRecord) (attempt : AttemptRecord)
| transfer (transfer : TransferRecord)

/-
  When the owning request was registered. The source leaves
  the record of a transfer empty, with the time zero.
-/
def ResolvedSubject.registeredAtNanos : ResolvedSubject → Int64
| .serving record _ => record.registeredAtNanos
| .transfer _ => 0

/- Findings of the rules applied so far. -/
structure Admission where
  subject : ResolvedSubject
  effective : TrafficClass
  degrade : Option ReasonCode
  log : ExplanationLog

def bindsOther {tag : GenerationTag} (bound : Option (Generation tag)) (current : Generation tag) :
    Bool :=
  bound.any (fun value => value ≠ current)

def boundOperand {tag : GenerationTag} (bound : Option (Generation tag)) : Int64 :=
  (bound.getD .unset).operand

theorem bindsOther_eq_false_iff {tag : GenerationTag}
    (bound : Option (Generation tag)) (current : Generation tag) :
    bindsOther bound current = false ↔ ∀ value, bound = some value → value = current := by
  unfold bindsOther
  cases bound with
  | none | some => simp

---
-- Authority And Subject
---

namespace Coordinator

def checkAuthority (s : Coordinator) (request : TrafficRequest) (log : ExplanationLog) :
    Except Refusal ExplanationLog :=
  if !request.structurallyValid || request.subject.isNone then
    .error ⟨.rejectedSubjectKindMismatch, request.declaredClass, log.add .requestLookup 0 0⟩
  else if bindsOther request.binding.coordinatorEpoch s.epoch then
    .error ⟨.rejectedStaleEpoch, request.declaredClass,
      log.add .authorityBinding (boundOperand request.binding.coordinatorEpoch) s.epoch.operand⟩
  else if bindsOther request.binding.policy s.policy.generation then
    .error ⟨.rejectedStalePolicyGeneration,
      request.declaredClass,
      log.add .authorityBinding (boundOperand request.binding.policy) s.policy.generation.operand⟩
  else .ok log

/- Resolve a request and its attempt in the ledger. -/
def resolveServing (s : Coordinator) (request : TrafficRequest) (subject : TrafficSubject)
    (log : ExplanationLog) : Except Refusal (ResolvedSubject × ExplanationLog) :=
  match s.ledger.snapshotRequest subject.request with
  | none => .error ⟨.rejectedUnknownRequest, request.declaredClass, log.add .requestLookup 0 0⟩
  | some record =>
    let found := log.add .requestLookup record.generation.operand (enumOperand record.lifecycle)
    if record.lifecycle = .cancelled then
      .error ⟨.rejectedRequestCancelled,
        request.declaredClass,
        found.add .terminalState (enumOperand record.lifecycle) 1⟩
    else if record.requiresRevalidation then
      .error ⟨.rejectedRevalidationRequired, request.declaredClass, found.add .requestLookup 0 1⟩
    else if record.lifecycle.isTerminal then
      .error ⟨.rejectedRequestTerminal,
        request.declaredClass,
        found.add .terminalState (enumOperand record.lifecycle) 0⟩
    else
      match record.findAttempt subject.attempt with
      | none => .error ⟨.rejectedUnknownAttempt, request.declaredClass, found⟩
      | some attempt =>
        if !record.isCurrentAttempt subject.attempt then
          .error ⟨.rejectedStaleAttempt, request.declaredClass, found⟩
        else if bindsOther request.binding.requestGeneration record.generation then
          .error ⟨.rejectedStaleRequestGeneration,
            request.declaredClass,
            found.add .requestLookup (boundOperand request.binding.requestGeneration)
              record.generation.operand⟩
        else
          .ok (.serving record attempt,
            found.add .stageResolution (enumOperand attempt.stage)
              (enumOperand request.declaredStage))

/- Reason for a registry entry that cannot be used. -/
def registryReason (status : Status) (stale : ReasonCode) : ReasonCode :=
  if status.code = .revalidationRequired then .rejectedRevalidationRequired
  else stale

/- The model generation a transfer was registered under. -/
def checkTransferModel (s : Coordinator) (transfer : TransferRecord) (log : ExplanationLog) :
    Except Refusal Unit :=
  if transfer.modelHash = 0 then .ok ()
  else
    match s.requireModelGeneration transfer.modelHash with
    | .error status =>
      .error ⟨registryReason status .rejectedStaleModelGeneration, transfer.declaredClass, log⟩
    | .ok current =>
      if transfer.modelGeneration ≠ current then
        .error ⟨.rejectedStaleModelGeneration,
          transfer.declaredClass,
          log.add .modelGeneration transfer.modelGeneration.operand current.operand⟩
      else .ok ()

/- The state generation a transfer was registered under. -/
def checkTransferState (s : Coordinator) (transfer : TransferRecord) (log : ExplanationLog) :
    Except Refusal Unit :=
  match s.requireStateGeneration transfer.stateHash with
  | .error status =>
    .error ⟨registryReason status .rejectedStaleStateGeneration, transfer.declaredClass, log⟩
  | .ok current =>
    if transfer.stateGeneration ≠ current then
      .error ⟨.rejectedStaleStateGeneration,
        transfer.declaredClass,
        log.add .stateGeneration transfer.stateGeneration.operand current.operand⟩
    else .ok ()

/- Resolve a transfer with its owner and generations. -/
def resolveTransfer (s : Coordinator) (request : TrafficRequest) (subject : TrafficSubject)
    (log : ExplanationLog) : Except Refusal (ResolvedSubject × ExplanationLog) :=
  match s.transfers.lookup subject.transfer with
  | none => .error ⟨.rejectedUnknownTransfer, request.declaredClass, log⟩
  | some transfer =>
    let found := log.add .transferBinding (enumOperand transfer.state) 0
    if transfer.state.isTerminal then
      .error ⟨.rejectedTransferAlreadyTerminal, transfer.declaredClass, found⟩
    else if !transfer.request.isNil && s.ledger.isCancelled transfer.request then
      .error ⟨.rejectedRequestCancelled, transfer.declaredClass, found⟩
    else do
      s.checkTransferModel transfer found
      s.checkTransferState transfer found
      if bindsOther request.binding.modelGeneration transfer.modelGeneration then
        .error ⟨.rejectedStaleModelGeneration, transfer.declaredClass, found⟩
      else if bindsOther request.binding.stateGeneration transfer.stateGeneration then
        .error ⟨.rejectedStaleStateGeneration, transfer.declaredClass, found⟩
      else .ok (.transfer transfer, found)

def resolveSubject (s : Coordinator) (request : TrafficRequest) (subject : TrafficSubject)
    (log : ExplanationLog) : Except Refusal (ResolvedSubject × ExplanationLog) :=
  match subject.kind with
  | .serving => s.resolveServing request subject log
  | .transfer => s.resolveTransfer request subject log
  | .unknown => .error ⟨.rejectedSubjectKindMismatch, request.declaredClass, log⟩

def classifyActive (s : Coordinator) (request : TrafficRequest) (subject : ResolvedSubject)
    (stage : ServingStage) (log : ExplanationLog) : Except Refusal Admission :=
  let claimed : Option ReasonCode :=
    if request.declaredStage ≠ .unknown ∧ request.declaredStage ≠ stage then
      some .degradedStageClaimOverridden
    else none
  let derived := canonicalClassForStage stage
  let classified : Admission :=
    if request.declaredClass = .unknown then
      { subject
        effective := derived
        degrade := claimed
        log := log.add .classClassification (enumOperand derived) 0 }
    else if !isClassLegalForStage request.declaredClass stage then
      { subject
        effective := derived
        degrade := some .degradedClassRederived
        log := log.add .classClassification (enumOperand request.declaredClass)
          (enumOperand derived) }
    else
      { subject
        effective := request.declaredClass
        degrade := claimed
        log }
  if classified.effective = .unknown then
    if !s.policy.allowUnknownTrafficClass then
      .error ⟨.rejectedUnknownClass, request.declaredClass, classified.log⟩
    else
      .ok { classified with degrade := some .admittedConservative }
  else .ok classified

def classifyServing (s : Coordinator) (request : TrafficRequest) (subject : ResolvedSubject)
    (stage : ServingStage) (log : ExplanationLog) : Except Refusal Admission :=
  if !stage.isServingActive then
    if stage ≠ .unknown then
      .error ⟨.rejectedRequestTerminal,
        request.declaredClass,
        log.add .terminalState (enumOperand stage) 0⟩
    else if !s.policy.allowUnknownStage then
      .error ⟨.rejectedUnknownStage, request.declaredClass, log.add .stageResolution 0 0⟩
    else
      .ok
        { subject
          effective := .unknown
          degrade := some .admittedConservative
          log := log.add .stageResolution 0 2 }
  else s.classifyActive request subject stage log

def classifyTransfer (s : Coordinator) (request : TrafficRequest) (transfer : TransferRecord)
    (log : ExplanationLog) : Except Refusal Admission :=
  let declared :=
    if request.declaredClass = .unknown then transfer.declaredClass
    else request.declaredClass
  if !declared.isTransferClass then
    if !s.policy.allowUnknownTrafficClass then
      .error ⟨.rejectedClassNotLegalForStage, declared, log⟩
    else
      .ok
        { subject := .transfer transfer
          effective := declared
          degrade := some .admittedConservative
          log }
  else if declared ≠ transfer.declaredClass then
    .ok
      { subject := .transfer transfer
        effective := transfer.declaredClass
        degrade := some .degradedClassRederived
        log := log.add .classClassification (enumOperand declared)
          (enumOperand transfer.declaredClass) }
  else
    .ok
      { subject := .transfer transfer
        effective := declared
        degrade := none
        log }

def classify (s : Coordinator) (request : TrafficRequest) (subject : ResolvedSubject)
    (log : ExplanationLog) : Except Refusal Admission :=
  match subject with
  | .serving _ attempt => s.classifyServing request subject attempt.stage log
  | .transfer transfer => s.classifyTransfer request transfer log

---
-- Policy And Evidence
---

def checkPolicyRule (s : Coordinator) (admission : Admission) : Except Refusal Admission :=
  let rule := s.policy.rule admission.effective
  if !rule.enabled then
    .error ⟨.rejectedClassDisabled, admission.effective,
      admission.log.add .policyRule (enumOperand admission.effective) 0⟩
  else
    .ok { admission with
        log := admission.log.add .policyRule (enumOperand rule.priority)
          rule.reservedWeight.toUInt64.toInt64 }

/- Old evidence is still inside the grace of the policy. -/
def withinGrace (s : Coordinator) (now : Int64) : Bool :=
  0 < s.policy.staleEvidenceGraceNanos && s.topologyPresent && s.topology.observedAtNanos < now &&
    s.topologyAge now ≤ s.policy.staleEvidenceGraceNanos

def checkEvidence (s : Coordinator) (admission : Admission) (now : Int64) :
    Except Refusal Admission :=
  let evidence := s.topologyState now
  if evidence = .unknown then
    .error ⟨.rejectedEvidenceUnknown, admission.effective, admission.log.add .topologyEvidence 0 0⟩
  else if evidence = .current then .ok admission
  else if !s.withinGrace now then
    .error ⟨if evidence = .revalidationRequired then
          .rejectedRevalidationRequired
        else .rejectedEvidenceStale,
        admission.effective,
        admission.log.add .topologyEvidence (enumOperand evidence) 0⟩
  else
    .ok { admission with
        degrade := some .degradedStaleTopology
        log := admission.log.add .topologyEvidence (enumOperand evidence) 1 }

def checkTopology (s : Coordinator) (request : TrafficRequest) (admission : Admission)
    (now : Int64) : Except Refusal Admission :=
  let rule := s.policy.rule admission.effective
  if !rule.requiresCurrentTopology then .ok admission
  else do
    let admission ← s.checkEvidence admission now
    if bindsOther request.binding.topology s.topology.generation then
      .error ⟨.rejectedStaleTopologyGeneration,
        admission.effective,
        admission.log.add .topologyEvidence (boundOperand request.binding.topology)
          s.topology.generation.operand⟩
    else .ok admission

/-
  The contract of the request the traffic serves. A
  transfer inherits the contract of its owner.
-/
def sloContractOf (s : Coordinator) (subject : TrafficSubject) :
    ResolvedSubject → Option SloContract
| .serving _ _ => s.sloContracts.lookup subject.request
| .transfer transfer =>
  if transfer.request.isNil then none
  else s.sloContracts.lookup transfer.request

def checkSloContract (s : Coordinator) (request : TrafficRequest) (subject : TrafficSubject)
    (admission : Admission) : Except Refusal Admission :=
  let rule := s.policy.rule admission.effective
  if !rule.requiresSloContract then .ok admission
  else
    match s.sloContractOf subject admission.subject with
    | none =>
      .error ⟨.rejectedStaleSloContract, admission.effective, admission.log.add .sloContract 0 0⟩
    | some contract =>
      if bindsOther request.binding.sloContract contract.generation then
        .error ⟨.rejectedStaleSloContract,
          admission.effective,
          admission.log.add .sloContract (boundOperand request.binding.sloContract)
            contract.generation.operand⟩
      else .ok admission

/- The attempt whose route the traffic takes. -/
def routeAttempt (subject : TrafficSubject) : ResolvedSubject → AttemptId
| .serving _ _ => subject.attempt
| .transfer transfer => transfer.attempt

def checkRoute (s : Coordinator) (request : TrafficRequest) (subject : TrafficSubject)
    (admission : Admission) : Except Refusal Admission :=
  let rule := s.policy.rule admission.effective
  let attempt := routeAttempt subject admission.subject
  if !(rule.requiresCurrentRoute && !attempt.isNil) then .ok admission
  else
    match s.routeDecisions.lookup attempt with
    | none =>
      .error ⟨.rejectedStaleRouteDecision,
        admission.effective,
        admission.log.add .routeDecision 0 0⟩
    | some route =>
      if bindsOther request.binding.routeDecision route.generation then
        .error ⟨.rejectedStaleRouteDecision,
          admission.effective,
          admission.log.add .routeDecision (boundOperand request.binding.routeDecision)
            route.generation.operand⟩
      else .ok admission

/- The model generation a serving attempt runs under. -/
def checkAttemptModel (s : Coordinator) (request : TrafficRequest) (attempt : AttemptRecord)
    (admission : Admission) : Except Refusal Admission :=
  if attempt.modelHash = 0 then
    .error ⟨.rejectedStaleModelGeneration,
      admission.effective,
      admission.log.add .modelGeneration 0 0⟩
  else
    match s.requireModelGeneration attempt.modelHash with
    | .error status =>
      .error ⟨registryReason status .rejectedStaleModelGeneration,
        admission.effective, admission.log⟩
    | .ok current =>
      if attempt.modelGeneration ≠ current then
        .error ⟨.rejectedStaleModelGeneration,
          admission.effective,
          admission.log.add .modelGeneration attempt.modelGeneration.operand current.operand⟩
      else if bindsOther request.binding.modelGeneration attempt.modelGeneration then
        .error ⟨.rejectedStaleModelGeneration, admission.effective, admission.log⟩
      else .ok admission

def checkModel (s : Coordinator) (request : TrafficRequest) (admission : Admission) :
    Except Refusal Admission :=
  let rule := s.policy.rule admission.effective
  match admission.subject with
  | .serving _ attempt =>
    if rule.requiresModelGeneration then s.checkAttemptModel request attempt admission
    else .ok admission
  | .transfer _ => .ok admission

/- Longest delay a relative deadline may ask for. -/
def maxDeadlineAfterNanos : UInt64 := 3600000000000

/- The deadline the request itself asks for. -/
def explicitDeadline (request : TrafficRequest) (now : Int64) : Instant :=
  if !request.deadline.isSet && 0 < request.deadlineAfterNanos then
    Instant.fromNow now (if maxDeadlineAfterNanos < request.deadlineAfterNanos then
        maxDeadlineAfterNanos
      else request.deadlineAfterNanos).toInt64
  else request.deadline

def deadlineOf (request : TrafficRequest) (contract : Option SloContract)
    (registeredAtNanos now : Int64) : Instant :=
  let asked := explicitDeadline request now
  if asked.isSet then asked
  else
    match contract with
    | none => asked
    | some contract =>
      if 0 < contract.tailLatencyBudgetNanos && 0 < registeredAtNanos then
        ⟨registeredAtNanos + contract.tailLatencyBudgetNanos.toInt64⟩
      else asked

def checkDeadline (s : Coordinator) (request : TrafficRequest) (subject : TrafficSubject)
    (admission : Admission) (now : Int64) : Except Refusal Admission :=
  let rule := s.policy.rule admission.effective
  let deadline :=
    deadlineOf request (s.sloContractOf subject admission.subject)
      admission.subject.registeredAtNanos now
  if deadline.isSet && deadline.expiredAt now then
    .error ⟨.rejectedDeadlineExpired, admission.effective,
      admission.log.add .deadline deadline.nanos now⟩
  else if rule.requiresDeadline && !deadline.isSet then
    .ok { admission with
        degrade := some .degradedMissingSloContract
        log := admission.log.add .deadline 0 1 }
  else .ok admission

/- Every rule that can reject the traffic, in order. -/
def admissionOf (s : Coordinator) (request : TrafficRequest) (subject : TrafficSubject)
    (now : Int64) : Except Refusal Admission := do
  let opened := ExplanationLog.add [] .authorityBinding s.epoch.operand s.policy.generation.operand
  let log ← s.checkAuthority request opened
  let found ← s.resolveSubject request subject log
  let classified ← s.classify request found.1 found.2
  let ruled ← s.checkPolicyRule classified
  let placed ← s.checkTopology request ruled now
  let agreed ← s.checkSloContract request subject placed
  let routed ← s.checkRoute request subject agreed
  let modelled ← s.checkModel request routed
  s.checkDeadline request subject modelled now

end Coordinator

---
-- Deferral
---

def mix64 (value : UInt64) : UInt64 :=
  let a := value ^^^ (value >>> 30)
  let b := a * (0xBF58476D1CE4E5B9 : UInt64)
  let c := b ^^^ (b >>> 27)
  let d := c * (0x94D049BB133111EB : UInt64)
  d ^^^ (d >>> 31)

/- Key of the deferral state of a subject and a class. -/
def deferKey (subject : TrafficSubject) (traffic : TrafficClass) : UInt64 :=
  let key :=
    mix64
      ((Enumeration.code traffic).toUInt64 * (0x9E3779B97F4A7C15 : UInt64) +
        (0x165667B19E3779F9 : UInt64))
  if subject.kind = .serving then
    key ^^^ mix64 (subject.request.high ^^^ (0xD6E8FEB86659FD93 : UInt64)) ^^^
      mix64 (subject.request.low + (0x9E3779B97F4A7C15 : UInt64)) ^^^
      mix64 (subject.attempt.high + (0xBF58476D1CE4E5B9 : UInt64)) ^^^
      mix64 (subject.attempt.low ^^^ (0x94D049BB133111EB : UInt64))
  else
    key ^^^ mix64 (subject.transfer.high + (0x2545F4914F6CDD1D : UInt64)) ^^^
      mix64 (subject.transfer.low ^^^ (0x9E3779B97F4A7C15 : UInt64))

/- The record under a key is the one of the subject. -/
def deferMatches (record : DeferRecord) (subject : TrafficSubject) : Bool :=
  record.kind == subject.kind && (if subject.kind = .serving then
      record.request == subject.request && record.attempt == subject.attempt
    else record.transfer == subject.transfer)

namespace Coordinator

/- Forget one deferral record and what it counted for. -/
def dropDefer (s : Coordinator) (key : UInt64) (record : DeferRecord) : Coordinator :=
  { s with
    defers := s.defers.erase key
    streamingDeferrals :=
      if record.starvationClass && 0 < s.streamingDeferrals then s.streamingDeferrals - 1
      else s.streamingDeferrals }

/- Make room by dropping the entry at the given position. -/
def evictDeferRecords (s : Coordinator) (victim : Nat) : Coordinator :=
  match s.defers.entries[victim % s.defers.size]? with
  | none => s
  | some entry => s.dropDefer entry.1 entry.2

/- Drop the record of another subject under the same key. -/
def dropForeignDefer (s : Coordinator) (subject : TrafficSubject) (traffic : TrafficClass) :
    Coordinator :=
  match s.defers.lookup (deferKey subject traffic) with
  | none => s
  | some record =>
    if deferMatches record subject then s
    else s.dropDefer (deferKey subject traffic) record

/- Start the deferral record of a subject. -/
def addDefer (s : Coordinator) (subject : TrafficSubject) (traffic : TrafficClass) (now : Int64)
    (victim : Nat) : Coordinator :=
  let room :=
    if s.config.limits.maxDeferRecords.toNat ≤ s.defers.size then s.evictDeferRecords victim
    else s
  let starvationClass := (s.policy.rule traffic).starvationProtected
  { room with
    defers := room.defers.emplace
      (deferKey subject traffic)
      { kind := subject.kind
        request := subject.request
        attempt := subject.attempt
        transfer := subject.transfer
        traffic
        count := 1
        firstDeferNanos := now
        lastDeferNanos := now
        starvationClass }
    streamingDeferrals :=
      if starvationClass then room.streamingDeferrals + 1
      else room.streamingDeferrals }

/- Count one more deferral of a subject. -/
def noteDefer (s : Coordinator) (subject : TrafficSubject) (traffic : TrafficClass) (now : Int64)
    (victim : Nat) : UInt32 × Coordinator :=
  let own := s.dropForeignDefer subject traffic
  match own.defers.lookup (deferKey subject traffic) with
  | none => (1, own.addDefer subject traffic now victim)
  | some record =>
    (record.count + 1, { own with
        defers := own.defers.insert (deferKey subject traffic) { record with
            count := record.count + 1
            lastDeferNanos := now } })

def clearDefer (s : Coordinator) (subject : TrafficSubject) (traffic : TrafficClass) :
    Coordinator :=
  match s.defers.lookup (deferKey subject traffic) with
  | none => s
  | some record =>
    if !deferMatches record subject then s
    else s.dropDefer (deferKey subject traffic) record

def streamingPressure (s : Coordinator) : Bool :=
  0 < s.streamingDeferrals

/- A current topology reports congestion. -/
def congested (s : Coordinator) (now : Int64) : Bool :=
  s.topologyState now == .current && s.topologyPresent && s.topology.congestionSignalled

/- Why admissible traffic of a class has to wait. -/
def deferReason (s : Coordinator) (request : TrafficRequest) (effective : TrafficClass)
    (now : Int64) : Option ReasonCode :=
  let rule := s.policy.rule effective
  if rule.yieldsToLatency then
    if s.congested now && s.policy.congestionYieldsBulk then some .deferredCongestion
    else if s.streamingPressure then some .deferredBulkYield
    else if 0 < s.policy.bulkInFlightCapBytes && 0 < request.payloadBytes &&
        s.policy.bulkInFlightCapBytes < s.bulkInFlightBytes + request.payloadBytes then
      some .deferredBulkCapacity
    else none
  else if s.congested now && s.policy.congestionQueueDepth ≤ s.topology.queueDepth &&
      rule.reservedWeight == 0 then
    some .deferredCongestion
  else none

---
-- Decisions
---

def accountDecision (s : Coordinator) (traffic : TrafficClass) (outcome : DecisionOutcome)
    (bytes : UInt64) : Coordinator :=
  { s with
    transferClassAccounting := fun entry =>
      if entry = traffic then (s.transferClassAccounting entry).recordOutcome outcome bytes
      else s.transferClassAccounting entry }

/- Account a decision where its subject is accounted. -/
def recordDecision (s : Coordinator) (request : TrafficRequest) (subject : TrafficSubject)
    (outcome : DecisionOutcome) (reason : ReasonCode) (traffic : TrafficClass) : Coordinator :=
  if subject.kind = .serving ∧ s.ledger.contains subject.request then
    s.withLedger
      (s.ledger.recordDecision subject.request subject.attempt traffic outcome reason
        request.payloadBytes).2
  else s.accountDecision traffic outcome request.payloadBytes

/- Steps of a log the policy lets a decision carry. -/
def explanationLimit (s : Coordinator) : Nat :=
  min s.policy.maxExplanationSteps.toNat maxExplanationSteps

/- Mint and account a decision without a treatment. -/
def build (s : Coordinator) (request : TrafficRequest) (subject : TrafficSubject)
    (outcome : DecisionOutcome) (reason : ReasonCode) (traffic : TrafficClass)
    (log : ExplanationLog) : Decision × Coordinator :=
  ({ outcome, reason, subject
     binding := request.binding
     authority := s.mintStamp.1
     explanation := log.take s.explanationLimit },
    s.mintStamp.2.recordDecision request subject outcome reason traffic)

/- The treatment a rule gives before adjustments. -/
def baseTreatment (rule : ClassPolicyRule) (admission : Admission) : TrafficTreatment :=
  let conservative := admission.degrade = some .degradedMissingSloContract
  { trafficClass := admission.effective
    priority := rule.priority
    pacing := if conservative then .bestEffort else rule.pacing
    integrity :=
      match admission.subject with
      | .serving _ _ => rule.integrity
      | .transfer transfer => maxIntegrity rule.integrity transfer.requiredIntegrity
    isolation := rule.isolation
    reservedWeight := if conservative then 0 else rule.reservedWeight
    maxBurstBytes := rule.maxBurstBytes
    rateLimitBytesPerSec := rule.rateLimitBytesPerSec }

/- The caller asks for less than the rule would give. -/
def lowersPriority (request : TrafficRequest) (rule : ClassPolicyRule) : Bool :=
  request.priorityHint == .background &&
    Enumeration.code rule.priority < Enumeration.code PriorityClass.background

/- Findings after the priority hint is honoured. -/
def lowered (request : TrafficRequest) (rule : ClassPolicyRule) (admission : Admission) :
    Admission :=
  if lowersPriority request rule then
    { admission with
      degrade := some (admission.degrade.getD .degradedPriorityLowered)
      log := admission.log.add .policyRule (enumOperand PriorityHint.background) 1 }
  else admission

def treatmentOf (request : TrafficRequest) (rule : ClassPolicyRule) (admission : Admission) :
    TrafficTreatment :=
  let base := baseTreatment rule admission
  let prioritised :=
    if lowersPriority request rule then { base with priority := .background }
    else base
  if (lowered request rule admission).degrade = some .admittedConservative then
    { prioritised with
      pacing := .bestEffort
      reservedWeight := 0
      isolation := .background }
  else prioritised

/- Decide that traffic is admitted. -/
def grant (s : Coordinator) (request : TrafficRequest) (subject : TrafficSubject)
    (admission : Admission) (byGuard : Bool) : Decision × Coordinator :=
  let rule := s.policy.rule admission.effective
  let final := lowered request rule admission
  let outcome : DecisionOutcome :=
    if byGuard then .allowed
    else if final.degrade.isSome then .degraded
    else .allowed
  let reason : ReasonCode :=
    if byGuard then .admittedStarvationGuard
    else final.degrade.getD .admitted
  let built := s.build request subject outcome reason admission.effective final.log
  ({ built.1 with
      treatment := treatmentOf request rule admission },
    built.2)

/- Decide that traffic has to wait. -/
def defer (s : Coordinator) (request : TrafficRequest) (subject : TrafficSubject)
    (admission : Admission) (reason : ReasonCode) (count : UInt32) (now : Int64) :
    Decision × Coordinator :=
  let rule := s.policy.rule admission.effective
  let built := s.build request subject .deferred reason admission.effective admission.log
  ({ built.1 with
      deferHintNanos := s.policy.deferHintNanos
      treatment :=
        { trafficClass := admission.effective
          priority := rule.priority
          pacing := rule.pacing
          integrity := rule.integrity
          isolation := rule.isolation
          holdUntil := Instant.fromNow now s.policy.deferHintNanos.toInt64
          deferCount := count } },
    built.2)

/- When the deferral of a subject began. -/
def firstDefer (s : Coordinator) (subject : TrafficSubject) (traffic : TrafficClass) (now : Int64) :
    Int64 :=
  match s.defers.lookup (deferKey subject traffic) with
  | none => now
  | some record => record.firstDeferNanos

/- A protected class has waited as long as it may. -/
def deferExhausted (rule : ClassPolicyRule) (count : UInt32) (first now : Int64) : Bool :=
  rule.starvationProtected &&
    ((0 < rule.maxDeferCount && rule.maxDeferCount ≤ count) ||
      (0 < rule.maxDeferHorizonNanos && first < now &&
        rule.maxDeferHorizonNanos ≤ (now - first).toUInt64))

/- Defer the traffic, or grant it by starvation guard. -/
def deferOrGuard (s : Coordinator) (request : TrafficRequest) (subject : TrafficSubject)
    (admission : Admission) (reason : ReasonCode) (now : Int64) (victim : Nat) :
    Decision × Coordinator :=
  let rule := s.policy.rule admission.effective
  let noted := s.noteDefer subject admission.effective now victim
  let first := noted.2.firstDefer subject admission.effective now
  let logged := { admission with
      log := admission.log.add .deferState noted.1.toUInt64.toInt64 (enumOperand reason) }
  if deferExhausted rule noted.1 first now then
    (noted.2.clearDefer subject admission.effective).grant request subject { logged with
        log := logged.log.add .starvationGuard noted.1.toUInt64.toInt64 (now - first) }
      true
  else noted.2.defer request subject logged reason noted.1 now

def evaluate (s : Coordinator) (request : TrafficRequest) (now : Int64) (victim : Nat) :
    Decision × Coordinator :=
  let subject := request.subject.getD {}
  match s.admissionOf request subject now with
  | .error refusal => s.build request subject .rejected refusal.reason refusal.traffic refusal.log
  | .ok admission =>
    match s.deferReason request admission.effective now with
    | none => (s.clearDefer subject admission.effective).grant request subject admission false
    | some reason => s.deferOrGuard request subject admission reason now victim

end Coordinator

end TrafficFabric
