import TrafficFabric.Core.Traffic

/-
  Decisions, their reason codes and explanation logs, and
  the authority stamp that fences them.
-/

namespace TrafficFabric

inductive DecisionOutcome
| unknown
| allowed
| degraded
| deferred
| rejected
deriving DecidableEq, Inhabited

instance : Enumeration DecisionOutcome where
  listed := [.unknown, .allowed, .degraded, .deferred, .rejected]

/- Deterministic reason carried by every decision. -/
inductive ReasonCode
| unknown
| admitted
| admittedStarvationGuard
| admittedConservative
| degradedStageClaimOverridden
| degradedClassRederived
| degradedStaleTopology
| degradedMissingSloContract
| degradedIntegrityRaised
| degradedPriorityLowered
| deferredCapacity
| deferredCongestion
| deferredBulkYield
| deferredBulkCapacity
| deferredBulkConcurrency
| rejectedUnknownRequest
| rejectedUnknownAttempt
| rejectedRequestCancelled
| rejectedRequestTerminal
| rejectedStaleAttempt
| rejectedStaleRequestGeneration
| rejectedStaleRouteDecision
| rejectedStaleModelGeneration
| rejectedStaleStateGeneration
| rejectedStaleSloContract
| rejectedStaleTopologyGeneration
| rejectedStalePolicyGeneration
| rejectedStaleEpoch
| rejectedStaleAuthority
| rejectedUnknownStage
| rejectedUnknownClass
| rejectedClassNotLegalForStage
| rejectedClassDisabled
| rejectedSubjectKindMismatch
| rejectedUnknownTransfer
| rejectedEvidenceUnknown
| rejectedEvidenceStale
| rejectedRevalidationRequired
| rejectedDeadlineExpired
| rejectedCapacityExhausted
| rejectedFlowLimit
| rejectedNotAuthorized
| rejectedIntegrityUnavailable
| rejectedDuplicateCompletion
| rejectedTransferAlreadyTerminal
| committedCompletion
| duplicateCompletionSuppressed
| attemptFailed
| attemptSuperseded
| cancelled
deriving DecidableEq, Inhabited

instance : Enumeration ReasonCode where
  listed :=
    [.unknown, .admitted, .admittedStarvationGuard,
      .admittedConservative,
      .degradedStageClaimOverridden,
      .degradedClassRederived, .degradedStaleTopology,
      .degradedMissingSloContract,
      .degradedIntegrityRaised, .degradedPriorityLowered,
      .deferredCapacity, .deferredCongestion,
      .deferredBulkYield, .deferredBulkCapacity,
      .deferredBulkConcurrency, .rejectedUnknownRequest,
      .rejectedUnknownAttempt, .rejectedRequestCancelled,
      .rejectedRequestTerminal, .rejectedStaleAttempt,
      .rejectedStaleRequestGeneration,
      .rejectedStaleRouteDecision,
      .rejectedStaleModelGeneration,
      .rejectedStaleStateGeneration,
      .rejectedStaleSloContract,
      .rejectedStaleTopologyGeneration,
      .rejectedStalePolicyGeneration, .rejectedStaleEpoch,
      .rejectedStaleAuthority, .rejectedUnknownStage,
      .rejectedUnknownClass,
      .rejectedClassNotLegalForStage,
      .rejectedClassDisabled,
      .rejectedSubjectKindMismatch,
      .rejectedUnknownTransfer, .rejectedEvidenceUnknown,
      .rejectedEvidenceStale,
      .rejectedRevalidationRequired,
      .rejectedDeadlineExpired,
      .rejectedCapacityExhausted, .rejectedFlowLimit,
      .rejectedNotAuthorized,
      .rejectedIntegrityUnavailable,
      .rejectedDuplicateCompletion,
      .rejectedTransferAlreadyTerminal,
      .committedCompletion,
      .duplicateCompletionSuppressed, .attemptFailed,
      .attemptSuperseded, .cancelled]

/- Identity of one rule application. -/
inductive ExplanationRule
| unknown
| authorityBinding
| requestLookup
| stageResolution
| classClassification
| policyRule
| topologyEvidence
| sloContract
| routeDecision
| modelGeneration
| stateGeneration
| capacity
| congestion
| bulkIsolation
| starvationGuard
| deadline
| deferState
| flowAccounting
| terminalState
| transferBinding
deriving DecidableEq, Inhabited

instance : Enumeration ExplanationRule where
  listed :=
    [.unknown, .authorityBinding, .requestLookup,
      .stageResolution, .classClassification, .policyRule,
      .topologyEvidence, .sloContract, .routeDecision,
      .modelGeneration, .stateGeneration, .capacity,
      .congestion, .bulkIsolation, .starvationGuard,
      .deadline, .deferState, .flowAccounting,
      .terminalState, .transferBinding]

/- One rule application with its numeric context. -/
structure ExplanationStep where
  rule : ExplanationRule
  value : Int64
  secondary : Int64
deriving DecidableEq

def maxExplanationSteps : Nat := 24

/- The recorded steps, oldest first. -/
abbrev ExplanationLog :=
  List ExplanationStep

/- Append a step while the log is below its ceiling. -/
def ExplanationLog.add (log : ExplanationLog) (rule : ExplanationRule) (value secondary : Int64) :
    ExplanationLog :=
  if maxExplanationSteps ≤ log.length then log
  else log ++ [⟨rule, value, secondary⟩]

def Generation.operand {tag : GenerationTag} (generation : Generation tag) : Int64 :=
  generation.value.toInt64

/- The numeric value of an enumerator as a log operand. -/
def enumOperand {E : Type} [DecidableEq E] [Enumeration E] (value : E) : Int64 :=
  (Enumeration.code value).toUInt64.toInt64

/- Identity of one coordinator incarnation at one moment. -/
structure AuthorityStamp where
  epoch : CoordinatorEpoch := .unset
  incarnation : BootId := .nil
  policy : PolicyGeneration := .unset
  sequence : AuthoritySequence := .unset
deriving DecidableEq

def AuthorityStamp.isValid (stamp : AuthorityStamp) : Bool :=
  !stamp.epoch.isUnset && !stamp.incarnation.isNil &&
    !stamp.policy.isUnset && !stamp.sequence.isUnset

inductive AuthorityVerdict
| unknown
| current
| staleEpoch
| stalePolicy
| staleIncarnation
| absent
deriving DecidableEq

/- Compare a stamp with the authority now in force. -/
def validateAuthority (stamp : AuthorityStamp) (currentEpoch : CoordinatorEpoch)
    (currentIncarnation : BootId) (currentPolicy : PolicyGeneration) : AuthorityVerdict :=
  if stamp.epoch.isUnset || stamp.incarnation.isNil then .absent
  else if stamp.epoch ≠ currentEpoch then .staleEpoch
  else if stamp.incarnation ≠ currentIncarnation then .staleIncarnation
  else if stamp.policy ≠ currentPolicy then .stalePolicy
  else if stamp.sequence.isUnset then .absent
  else .current

/-
  A stamp is current exactly when it names the epoch, the
  incarnation and the policy in force and its sequence is
  set.
-/
theorem validateAuthority_eq_current_iff (stamp : AuthorityStamp) (epoch : CoordinatorEpoch)
    (incarnation : BootId) (policy : PolicyGeneration) :
    validateAuthority stamp epoch incarnation policy = .current ↔
      stamp.epoch ≠ .unset ∧ stamp.incarnation ≠ .nil ∧
        stamp.epoch = epoch ∧ stamp.incarnation = incarnation ∧ stamp.policy = policy ∧
        stamp.sequence ≠ .unset := by
  unfold validateAuthority
  by_cases hEpochSet : stamp.epoch = .unset
  · simp [hEpochSet]
  by_cases hBootSet : stamp.incarnation = .nil
  · simp [hBootSet]
  by_cases hEpoch : stamp.epoch = epoch
  · by_cases hBoot : stamp.incarnation = incarnation
    · by_cases hPolicy : stamp.policy = policy
      · by_cases hSequence : stamp.sequence = .unset
        · simp [hSequence]
          split <;> simp
        · simp_all
      · simp_all
    · simp_all
  · simp_all

/- The answer to one traffic request. -/
structure Decision where
  outcome : DecisionOutcome := .unknown
  reason : ReasonCode := .unknown
  treatment : TrafficTreatment := {}
  subject : TrafficSubject := {}
  binding : GenerationBinding := {}
  authority : AuthorityStamp := {}
  deferHintNanos : UInt64 := 0
  explanation : List ExplanationStep := []
deriving DecidableEq

def Decision.permitsTraffic (decision : Decision) : Bool :=
  decision.outcome == .allowed || decision.outcome == .degraded

end TrafficFabric
