import TrafficFabric.Coordinator.Docket

/-
  Bulk traffic yields while protected traffic waits.

  The rule reads one counter. It is the number of protected
  records that are pending, through evictions, collisions
  and policy changes, so bulk traffic is held back exactly
  while such a record is pending.
-/

namespace TrafficFabric

open DeferRecord Waiting

/- The reasons given to traffic that has to wait. -/
def ReasonCode.isDeferral (reason : ReasonCode) : Bool :=
  reason == .deferredCapacity || reason == .deferredCongestion || reason == .deferredBulkYield ||
    reason == .deferredBulkCapacity || reason == .deferredBulkConcurrency

/- The reasons of rules: no deferral, and not the guard. -/
def ReasonCode.isFinding (reason : ReasonCode) : Bool :=
  !reason.isDeferral && reason != .admittedStarvationGuard

namespace Coordinator

/-
  A rule refuses with a finding, and passes on what
  satisfies a condition.
-/
def Finds {α : Type} (passed : α → Prop) : Except Refusal α → Prop
| .error refusal => refusal.reason.isFinding = true
| .ok value => passed value

theorem Finds.bind {α β : Type} {first : Except Refusal α} {rest : α → Except Refusal β}
    {passed : α → Prop} {settled : β → Prop} (hFirst : Finds passed first)
    (hRest : ∀ value, passed value → Finds settled (rest value)) :
    Finds settled (first >>= rest) := by
  cases first with
  | error refusal => exact hFirst
  | ok value => exact hRest value hFirst

/- What degrades the traffic is a finding. -/
def Found (admission : Admission) : Prop :=
  admission.degrade.all ReasonCode.isFinding = true

variable {s : Coordinator} {request : TrafficRequest} {subject : TrafficSubject}
variable {admission : Admission} {log : ExplanationLog} {now : Int64} {traffic : TrafficClass}
variable {reason : ReasonCode} {mt : Generator}
variable (transfer : TransferRecord) (found : ResolvedSubject) (rule : ClassPolicyRule)

theorem checkAuthority_finds : Finds (fun _ => True) (s.checkAuthority request log) := by
  unfold checkAuthority
  split_ifs
  · rfl
  · rfl
  · rfl
  · trivial

theorem registryReason_finds (status : Status) {stale : ReasonCode}
    (hStale : stale.isFinding = true) : (registryReason status stale).isFinding = true := by
  unfold registryReason
  split
  · rfl
  · exact hStale

theorem resolveServing_finds : Finds (fun _ => True) (s.resolveServing request subject log) := by
  unfold resolveServing
  split
  · rfl
  split
  · rfl
  split
  · rfl
  split
  · rfl
  split
  · rfl
  split
  · rfl
  split
  · rfl
  · trivial

theorem checkTransferModel_finds : Finds (fun _ => True) (s.checkTransferModel transfer log) := by
  unfold checkTransferModel
  split
  · trivial
  · split
    · exact registryReason_finds _ rfl
    · split
      · rfl
      · trivial

theorem checkTransferState_finds : Finds (fun _ => True) (s.checkTransferState transfer log) := by
  unfold checkTransferState
  split
  · exact registryReason_finds _ rfl
  · split
    · rfl
    · trivial

theorem resolveTransfer_finds : Finds (fun _ => True) (s.resolveTransfer request subject log) := by
  unfold resolveTransfer
  split
  · rfl
  · rename_i transfer hTransfer
    split
    · rfl
    · split
      · rfl
      · refine (checkTransferModel_finds transfer).bind
          (fun _ _ => (checkTransferState_finds transfer).bind (fun _ _ => ?_))
        split_ifs
        · rfl
        · rfl
        · trivial

theorem resolveSubject_finds : Finds (fun _ => True) (s.resolveSubject request subject log) := by
  unfold resolveSubject
  split
  · exact resolveServing_finds
  · exact resolveTransfer_finds
  · rfl

theorem classifyActive_finds (stage : ServingStage) :
    Finds Found (s.classifyActive request found stage log) := by
  unfold classifyActive
  simp only
  split_ifs
  all_goals rfl

theorem classify_finds : Finds Found (s.classify request found log) := by
  unfold classify
  split
  · unfold classifyServing
    split_ifs
    · rfl
    · rfl
    · rfl
    · exact classifyActive_finds _ _
  · unfold classifyTransfer
    simp only
    split_ifs
    all_goals rfl

theorem checkPolicyRule_finds (hAdmission : Found admission) :
    Finds Found (s.checkPolicyRule admission) := by
  unfold checkPolicyRule
  simp only
  split
  · rfl
  · exact hAdmission

theorem checkEvidence_finds (hAdmission : Found admission) :
    Finds Found (s.checkEvidence admission now) := by
  unfold checkEvidence
  simp only
  split_ifs
  · rfl
  · exact hAdmission
  · rfl
  · rfl
  · rfl

theorem checkTopology_finds (hAdmission : Found admission) :
    Finds Found (s.checkTopology request admission now) := by
  unfold checkTopology
  simp only
  split
  · exact hAdmission
  · refine (checkEvidence_finds hAdmission).bind (fun placed hPlaced => ?_)
    split
    · rfl
    · exact hPlaced

theorem checkSloContract_finds (hAdmission : Found admission) :
    Finds Found (s.checkSloContract request subject admission) := by
  unfold checkSloContract
  simp only
  split
  · exact hAdmission
  · split
    · rfl
    · split
      · rfl
      · exact hAdmission

theorem checkRoute_finds (hAdmission : Found admission) :
    Finds Found (s.checkRoute request subject admission) := by
  unfold checkRoute
  simp only
  split
  · exact hAdmission
  · split
    · rfl
    · split
      · rfl
      · exact hAdmission

theorem checkModel_finds (hAdmission : Found admission) :
    Finds Found (s.checkModel request admission) := by
  unfold checkModel
  simp only
  split
  · split
    · unfold checkAttemptModel
      split
      · rfl
      · split
        · exact registryReason_finds _ rfl
        · split_ifs
          · rfl
          · rfl
          · exact hAdmission
    · exact hAdmission
  · exact hAdmission

theorem checkDeadline_finds (hAdmission : Found admission) :
    Finds Found (s.checkDeadline request subject admission now) := by
  unfold checkDeadline
  simp only
  split_ifs
  · rfl
  · rfl
  · exact hAdmission

/- No rule up to the deadline speaks of waiting. -/
theorem admissionOf_finds : Finds Found (s.admissionOf request subject now) := by
  refine checkAuthority_finds.bind (fun _ _ => ?_)
  refine resolveSubject_finds.bind (fun _ _ => ?_)
  refine (classify_finds _).bind (fun _ hClassified => ?_)
  refine (checkPolicyRule_finds hClassified).bind (fun _ hRuled => ?_)
  refine (checkTopology_finds hRuled).bind (fun _ hPlaced => ?_)
  refine (checkSloContract_finds hPlaced).bind (fun _ hAgreed => ?_)
  refine (checkRoute_finds hAgreed).bind (fun _ hRouted => ?_)
  refine (checkModel_finds hRouted).bind (fun _ hModelled => ?_)
  exact checkDeadline_finds hModelled

/-
  A rule refuses for other reasons than a deferral, and
  passes on what satisfies a condition.
-/
def Undeferred {α : Type} (passed : α → Prop) : Except Refusal α → Prop
| .error refusal => refusal.reason.isDeferral = false
| .ok value => passed value

/- Findings that are not degraded by a deferral. -/
def Undelayed (admission : Admission) : Prop :=
  admission.degrade.all (fun reason => !reason.isDeferral) = true

theorem not_isDeferral (hFinding : reason.isFinding = true) : reason.isDeferral = false := by
  unfold ReasonCode.isFinding at hFinding
  simp only [Bool.and_eq_true, Bool.not_eq_true'] at hFinding
  exact hFinding.1

theorem admissionOf_undeferred : Undeferred Undelayed (s.admissionOf request subject now) := by
  have hFinds : Finds Found (s.admissionOf request subject now) := admissionOf_finds
  cases hAdmitted : s.admissionOf request subject now with
  | error refusal =>
    rw [hAdmitted] at hFinds
    exact not_isDeferral hFinds
  | ok admission =>
    rw [hAdmitted] at hFinds
    change admission.degrade.all (fun reason => !reason.isDeferral) = true
    cases hDegrade : admission.degrade with
    | none => rfl
    | some reason =>
      have hFinding : reason.isFinding = true := by simpa [Finds, Found, hDegrade] using hFinds
      simp [not_isDeferral hFinding]

theorem deferReason_isDeferral (hWaits : s.deferReason request traffic now = some reason) :
    reason.isDeferral = true := by
  unfold deferReason at hWaits
  simp only at hWaits
  split_ifs at hWaits
  all_goals
    cases hWaits
    rfl

/- What holds of every finding holds of the reason given. -/
theorem lowered_degrade_all {p : ReasonCode → Bool} (hAdmission : admission.degrade.all p = true)
    (hAdmitted : p .admitted = true) (hLowered : p .degradedPriorityLowered = true) :
    p ((lowered request rule admission).degrade.getD .admitted) = true := by
  unfold lowered
  cases hDegrade : admission.degrade with
  | none =>
    split
    · exact hLowered
    · rw [hDegrade]
      exact hAdmitted
  | some reason =>
    rw [hDegrade] at hAdmission
    split
    · simpa using hAdmission
    · rw [hDegrade]
      simpa using hAdmission

/- The reason of admitted traffic is not a deferral. -/
theorem lowered_degrade_isDeferral (hAdmission : Undelayed admission) :
    ((lowered request rule admission).degrade.getD .admitted).isDeferral = false := by
  rw [← Bool.not_eq_true']
  exact lowered_degrade_all (p := fun reason => !reason.isDeferral) rule hAdmission rfl rfl

/- A decision speaks of a deferral when it defers. -/
theorem evaluate_isDeferral
    (s : Coordinator) (request : TrafficRequest) (now : Int64) (victim : Nat) :
    (s.evaluate request now victim).1.reason.isDeferral = true ↔
      (s.evaluate request now victim).1.outcome = .deferred := by
  have hPlain :
      Undeferred Undelayed
        (s.admissionOf request (request.subject.getD {}) now) := admissionOf_undeferred
  have hVerdict := evaluate_verdict s request now victim
  generalize (s.evaluate request now victim).1 = decision at hVerdict ⊢
  generalize (s.evaluate request now victim).2.waiting = after at hVerdict
  cases hVerdict with
  | rejected refusal hRefused hOutcome hReason =>
    rw [hRefused] at hPlain
    have hOther := hPlain
    rw [hReason, hOther, hOutcome]
    simp
  | granted subject admission hSubject hAdmitted hFree hPermits hReason hClass =>
    rw [hSubject] at hPlain
    change Undeferred Undelayed (s.admissionOf request subject now) at hPlain
    rw [hAdmitted] at hPlain
    rw [hReason, lowered_degrade_isDeferral _ hPlain]
    constructor
    · intro hFalse
      cases hFalse
    · intro hDeferred
      rw [Decision.permitsTraffic, hDeferred] at hPermits
      cases hPermits
  | guarded subject admission reason hSubject hAdmitted hWaits hExhausted hPermits hReason hClass =>
    rw [hReason]
    constructor
    · intro hFalse
      cases hFalse
    · intro hDeferred
      rw [Decision.permitsTraffic, hDeferred] at hPermits
      cases hPermits
  | deferred subject admission hSubject hAdmitted hWaits hOpen hOutcome hClass =>
    rw [deferReason_isDeferral hWaits, hOutcome]
    simp

/- The table of a coordinator, counted at its limit. -/
def Counted (s : Coordinator) : Prop :=
  s.waiting.Counted s.config.limits.maxDeferRecords

/- An evaluation keeps the count. -/
theorem Counted.evaluate (hCounted : s.Counted) (request : TrafficRequest) (now : Int64)
    (victim : Nat) :
    (s.evaluate request now victim).2.waiting.Counted s.config.limits.maxDeferRecords := by
  have hVerdict := evaluate_verdict s request now victim
  generalize (s.evaluate request now victim).2.waiting = after at hVerdict ⊢
  cases hVerdict with
  | rejected => exact hCounted
  | granted subject admission => exact Counted.clear hCounted _ _
  | guarded subject admission => exact (Counted.note hCounted _ _ _ _ _).clear _ _
  | deferred subject admission => exact Counted.note hCounted _ _ _ _ _

theorem Counted.transition {t : Coordinator} {label : Label} (hCounted : s.Counted)
    (hTransition : Transition mt s label t) : t.Counted := by
  unfold Counted
  rw [hTransition.config]
  rcases hTransition.docket with hEmpty | ⟨op, -, rfl⟩
  · have hWaiting : t.waiting = .empty := congrArg Docket.waiting hEmpty
    rw [hWaiting]
    exact counted_empty
  · rw [step_waiting]
    split
    · exact hCounted
    · exact hCounted.evaluate _ _ _

theorem Reachable.counted {config : CoordinatorConfig} (hReachable : Reachable mt config s) :
    s.Counted := by
  rcases hReachable with ⟨start, labels, hStarted, hRun⟩
  apply hRun.invariant Counted
  · intro state label next hStep hCounted
    exact hCounted.transition hStep
  · rcases hStarted with ⟨entropy, rfl⟩
    exact counted_empty

---
-- Bulk Isolation
---

/- A deferral of a protected class is pending. -/
def Pressing (s : Coordinator) : Prop :=
  ∃ key record, s.defers.lookup key = some record ∧ record.starvationClass = true

theorem weight_pos_iff (record : DeferRecord) :
    0 < record.weight ↔ record.starvationClass = true := by
  unfold weight
  split
  · rename_i hShielded
    simp [hShielded]
  · rename_i hShielded
    simp [hShielded]

/- The rule sees pressure only when there is some. -/
theorem pressing_of_streamingPressure (hCounted : s.Counted)
    (hPressure : s.streamingPressure = true) : s.Pressing := by
  have hPositive := UInt32.lt_iff_toNat_lt.mp (of_decide_eq_true hPressure)
  have hTotal := Nat.lt_of_lt_of_eq hPositive hCounted.exact
  rcases AList.exists_of_total_pos weight hTotal with ⟨key, record, hHeld, hWeight⟩
  exact ⟨key, record, hHeld, (weight_pos_iff record).mp hWeight⟩

/- The rule misses no pressure. -/
theorem streamingPressure_of_pressing (hCounted : s.Counted) (hPressing : s.Pressing) :
    s.streamingPressure = true := by
  rcases hPressing with ⟨key, record, hHeld, hShielded⟩
  have hWeight := (weight_pos_iff record).mpr hShielded
  have hTotal := AList.measure_le_total weight hHeld
  have hExact : s.streamingDeferrals.toNat = s.defers.total weight := hCounted.exact
  apply decide_eq_true
  rw [UInt32.lt_iff_toNat_lt, hExact]
  exact Nat.lt_of_lt_of_le hWeight hTotal

theorem streamingPressure_of_deferReason
    (hWaits : s.deferReason request traffic now = some .deferredBulkYield) :
    s.streamingPressure = true := by
  unfold deferReason at hWaits
  simp only at hWaits
  split at hWaits
  · split at hWaits
    · cases hWaits
    · split at hWaits
      · assumption
      · split at hWaits
        · cases hWaits
        · cases hWaits
  · split at hWaits
    · cases hWaits
    · cases hWaits

/- Traffic yields only while protected traffic waits. -/
theorem pressing_of_bulkYield (hCounted : s.Counted) (request : TrafficRequest) (now : Int64)
    (victim : Nat) (hReason : (s.evaluate request now victim).1.reason = .deferredBulkYield) :
    s.Pressing := by
  have hVerdict := evaluate_verdict s request now victim
  have hDeferred : (s.evaluate request now victim).1.outcome = .deferred := by
    apply (evaluate_isDeferral s request now victim).mp
    rw [hReason]
    rfl
  generalize (s.evaluate request now victim).1 = decision at hVerdict hReason hDeferred
  generalize (s.evaluate request now victim).2.waiting = after at hVerdict
  cases hVerdict with
  | rejected refusal _ hOutcome =>
    rw [hOutcome] at hDeferred
    cases hDeferred
  | granted _ _ _ _ _ hPermits | guarded _ _ _ _ _ _ _ hPermits =>
    rw [Decision.permitsTraffic, hDeferred] at hPermits
    cases hPermits
  | deferred subject admission _ _ hWaits =>
    rw [hReason] at hWaits
    exact pressing_of_streamingPressure hCounted (streamingPressure_of_deferReason hWaits)

/-
  While a protected deferral is pending, no traffic of an
  unprotected bulk class is permitted; and traffic is told
  to yield to waiting traffic only while there is some.
-/
theorem bulk_isolated (mt : Generator) (config : CoordinatorConfig) (s : Coordinator)
    (hReachable : Reachable mt config s) (request : TrafficRequest) (now : Int64) (victim : Nat) :
    let decision := (s.evaluate request now victim).1
    let rule := s.policy.rule decision.treatment.trafficClass
    (s.Pressing → decision.permitsTraffic = true →
      rule.yieldsToLatency = true →
      rule.starvationProtected = true) ∧
    (decision.reason = .deferredBulkYield → s.Pressing) := by
  intro decision rule
  have hCounted := hReachable.counted
  have hVerdict := evaluate_verdict s request now victim
  refine ⟨?_, ?_⟩
  · intro hPressing hPermits hYields
    have hPressure := streamingPressure_of_pressing hCounted hPressing
    generalize (s.evaluate request now victim).2.waiting = after at hVerdict
    cases hVerdict with
    | rejected _ _ hOutcome | deferred _ _ _ _ _ _ hOutcome =>
      rw [Decision.permitsTraffic, hOutcome] at hPermits
      cases hPermits
    | granted subject admission _ _ hFree _ _ hClass =>
      rw [show rule = s.policy.rule admission.effective
        from congrArg s.policy.rule hClass] at hYields
      -- under pressure bulk traffic has a reason to wait
      simp only [deferReason, hYields, hPressure, if_true] at hFree
      split at hFree
      · simp at hFree
      · simp at hFree
    | guarded subject admission reason _ _ _ hExhausted _ _ hClass =>
      rw [show rule = s.policy.rule admission.effective from congrArg s.policy.rule hClass]
      exact (Bool.and_eq_true_iff.mp hExhausted).1
  · exact pressing_of_bulkYield hCounted request now victim

/- A policy under which protected ingress can wait. -/
def pressedPolicy : PolicyConfig :=
  { PolicyConfig.canonicalDefaults ⟨1⟩ with
    rule := fun traffic =>
      if traffic = .requestIngress then
        { PolicyConfig.canonicalRule .requestIngress with reservedWeight := 0 }
      else PolicyConfig.canonicalRule traffic
    congestionQueueDepth := 1
    congestionYieldsBulk := false }

def pressedStart : Coordinator :=
  ((create { policy := pressedPolicy } 1).bootFresh sampleGenerator).2

/- Congested ingress waits beside a bulk transfer. -/
def pressedOps : List Op :=
  [ .setModelGeneration 1 none,
    .advanceStateGeneration 1 none,
    .publishTopology
      { provenance := .measured
        nodeCount := 1
        queueDepth := 2
        congestionSignalled := true } 1,
    .registerTransfer (sampleTransfer .modelTransfer) 1 ] ++ ingressOps ++
  [.evaluate ingressTraffic 5 0]

/- Traffic of a transfer that binds no generation. -/
def transferTraffic (id : StateTransferId) (bytes : UInt64) : TrafficRequest where
  subject := some { kind := .transfer, transfer := id }
  payloadBytes := bytes

theorem bulk_isolated_pressed :
    let s := pressedStart.steps pressedOps
    let decision := (s.evaluate (transferTraffic ⟨0, 9⟩ 8) 6 0).1
    decision.reason = .deferredBulkYield ∧ s.Pressing := by
  intro s decision
  have hReason : decision.reason = .deferredBulkYield := by decide
  exact ⟨hReason,
    (bulk_isolated sampleGenerator { policy := pressedPolicy }
      s (Reachable.steps ⟨_, [], ⟨1, rfl⟩, .nil _⟩ _) (transferTraffic ⟨0, 9⟩ 8) 6 0).2 hReason⟩

---
-- Integrity Of The Table
---

end Coordinator

def DeferRecord.subject (record : DeferRecord) : TrafficSubject where
  kind := record.kind
  request := record.request
  attempt := record.attempt
  transfer := record.transfer

def TrafficSubject.names (subject : TrafficSubject) :
    SubjectKind × (RequestId × AttemptId ⊕ StateTransferId) :=
  (subject.kind, if subject.kind = .serving then .inl (subject.request, subject.attempt)
    else .inr subject.transfer)

/- The record is stored under the key of its subject. -/
def DeferRecord.Keyed (key : UInt64) (record : DeferRecord) : Prop :=
  key = deferKey record.subject record.traffic

theorem deferMatches_iff (record : DeferRecord) (subject : TrafficSubject) :
    deferMatches record subject = true ↔ record.subject.names = subject.names := by
  unfold deferMatches TrafficSubject.names
  rw [Bool.and_eq_true, beq_iff_eq, Prod.mk.injEq]
  refine and_congr_right fun hKind => ?_
  have hSame : record.subject.kind = subject.kind := hKind
  rw [hSame]
  split
  · simp [DeferRecord.subject]
  · simp [DeferRecord.subject]

/- The key is made of what identifies the subject. -/
theorem deferKey_congr {subject other : TrafficSubject} (hNames : subject.names = other.names)
    (traffic : TrafficClass) : deferKey subject traffic = deferKey other traffic := by
  rcases Prod.mk.inj hNames with ⟨hKind, hNamed⟩
  unfold deferKey
  rw [hKind] at hNamed ⊢
  split
  · rename_i hServing
    simp only [hServing, if_true, Sum.inl.injEq, Prod.mk.injEq] at hNamed
    rw [hNamed.1, hNamed.2]
  · rename_i hOther
    simp only [hOther, if_false, Sum.inr.injEq] at hNamed
    rw [hNamed]

namespace Coordinator

theorem Reachable.keyed {mt : Generator} {config : CoordinatorConfig}
    {s : Coordinator} (hReachable : Reachable mt config s) : s.waiting.Each Keyed := by
  rcases hReachable with ⟨start, labels, hStarted, hRun⟩
  have hNone : empty.Each Keyed := fun _ _ hHeld => by cases hHeld
  apply hRun.invariant (fun s => s.waiting.Each Keyed)
  · intro state label next hStep hKeyed
    rcases hStep.docket with hEmpty | ⟨op, -, rfl⟩
    · have hWaiting : next.waiting = .empty := congrArg Docket.waiting hEmpty
      rw [hWaiting]
      exact hNone
    · rw [step_waiting]
      split
      · exact hKeyed
      · exact evaluate_each hKeyed _ _ (fun _ _ _ _ _ => rfl) (fun _ _ hRecord => hRecord)
  · rcases hStarted with ⟨entropy, rfl⟩
    exact hNone

/-
  In every reachable state the pressure is the number of
  protected records, the table is within its limit, every
  record is under the key of its own subject and class, and
  a record that matches a subject under the key of a class
  was made for that subject and that class.
-/
theorem deferrals_intact (mt : Generator) (config : CoordinatorConfig)
    (s : Coordinator) (hReachable : Reachable mt config s) :
    s.streamingDeferrals.toNat = s.defers.total weight ∧
      s.defers.size ≤ max 1 config.limits.maxDeferRecords.toNat ∧
      (∀ key record, s.defers.lookup key = some record →
        key = deferKey record.subject record.traffic) ∧
      ∀ subject traffic record,
        s.defers.lookup (deferKey subject traffic) = some record →
        deferMatches record subject = true →
        record.subject.names = subject.names ∧ record.traffic = traffic := by
  have hCounted := hReachable.counted
  have hKeyed := hReachable.keyed
  unfold Counted at hCounted
  rw [hReachable.config] at hCounted
  refine ⟨hCounted.exact, hCounted.bounded, hKeyed, ?_⟩
  intro subject traffic record hHeld hMatches
  have hNames := (deferMatches_iff record subject).mp hMatches
  refine ⟨hNames, deferKey_traffic_injective subject ?_⟩
  rw [← deferKey_congr hNames]
  exact (hKeyed _ record hHeld).symm

/- One record is pending, of the ingress that waits. -/
theorem deferrals_intact_pressed :
    let s := pressedStart.steps pressedOps
    s.defers.size = 1 ∧ s.streamingDeferrals.toNat = s.defers.total weight := by
  intro s
  refine ⟨by decide, ?_⟩
  exact (deferrals_intact sampleGenerator { policy := pressedPolicy } s
    (Reachable.steps ⟨_, [], ⟨1, rfl⟩, .nil _⟩ _)).1

end Coordinator

end TrafficFabric
