import TrafficFabric.Coordinator.Steps

/-
  Soundness of the evaluation: what holds of the state
  whenever a decision permits traffic, the admissions by
  starvation guard included.

  Each rule of the evaluation has one lemma that says what
  its success means; the theorem assembles them along the
  chain of rules.

  Main declarations:
    * `Binds`
    * `Coordinator.ServingGrounds`
    * `Coordinator.evaluate_permits`
    * `Coordinator.evaluate_sound`
-/

---
-- Grounds
---

namespace TrafficFabric

open Except

def Binds {tag : GenerationTag} (bound : Option (Generation tag)) (current : Generation tag) :
    Prop :=
  ∀ value, bound = some value → value = current

theorem binds_of_not_bindsOther {tag : GenerationTag} {bound : Option (Generation tag)}
    {current : Generation tag} (hBound : ¬ bindsOther bound current = true) : Binds bound current :=
  (bindsOther_eq_false_iff bound current).mp (Bool.eq_false_of_not_eq_true hBound)

namespace Coordinator

def ContractGround (s : Coordinator) (request : TrafficRequest) (owner : RequestId) : Prop :=
  ∃ contract, s.sloContracts.lookup owner = some contract ∧
    Binds request.binding.sloContract contract.generation

def RouteGround (s : Coordinator) (request : TrafficRequest) (attempt : AttemptId) : Prop :=
  ∃ route, s.routeDecisions.lookup attempt = some route ∧
    Binds request.binding.routeDecision route.generation

def ModelCurrent (s : Coordinator) (hash : UInt64) (generation : ModelGeneration) : Prop :=
  ∃ model, s.models.lookup hash = some model ∧
    model.requiresRevalidation = false ∧ model.generation = generation

/- A state at a generation, not awaiting revalidation. -/
def StateCurrent (s : Coordinator) (hash : UInt64) (generation : StateGeneration) : Prop :=
  ∃ state, s.states.lookup hash = some state ∧
    state.requiresRevalidation = false ∧ state.generation = generation

/- What permitted serving traffic rests on. -/
structure ServingGrounds
    (s : Coordinator) (request : TrafficRequest) (subject : TrafficSubject) (rule : ClassPolicyRule)
    (record : RequestRecord) (attempt : AttemptRecord) : Prop where
  retained : s.ledger.snapshotRequest subject.request = some record
  live : record.lifecycle.isTerminal = false
  valid : record.requiresRevalidation = false
  found : record.findAttempt subject.attempt = some attempt
  current : record.isCurrentAttempt subject.attempt = true
  generation : Binds request.binding.requestGeneration record.generation
  contract : rule.requiresSloContract = true → s.ContractGround request subject.request
  route : rule.requiresCurrentRoute = true → s.RouteGround request subject.attempt
  model :
    rule.requiresModelGeneration = true →
      s.ModelCurrent attempt.modelHash attempt.modelGeneration ∧
        Binds request.binding.modelGeneration attempt.modelGeneration
  last : record.FindsLast → record.attempts.getLast? = some attempt

/- What permitted transfer traffic rests on. -/
structure TransferGrounds
    (s : Coordinator) (request : TrafficRequest) (subject : TrafficSubject) (rule : ClassPolicyRule)
    (transfer : TransferRecord) : Prop where
  retained : s.transfers.lookup subject.transfer = some transfer
  live : transfer.state.isTerminal = false
  owner : transfer.request ≠ .nil → s.ledger.isCancelled transfer.request = false
  model : transfer.modelHash ≠ 0 → s.ModelCurrent transfer.modelHash transfer.modelGeneration
  state : s.StateCurrent transfer.stateHash transfer.stateGeneration
  boundModel : Binds request.binding.modelGeneration transfer.modelGeneration
  boundState : Binds request.binding.stateGeneration transfer.stateGeneration
  contract :
    rule.requiresSloContract = true →
      transfer.request ≠ .nil ∧ s.ContractGround request transfer.request
  route :
    rule.requiresCurrentRoute = true →
      transfer.attempt ≠ .nil → s.RouteGround request transfer.attempt

/- What permitted traffic of a kind rests on. -/
def SubjectGrounds (s : Coordinator) (request : TrafficRequest) (subject : TrafficSubject)
    (rule : ClassPolicyRule) : Prop :=
  match subject.kind with
  | .serving => ∃ record attempt, s.ServingGrounds request subject rule record attempt
  | .transfer => ∃ transfer, s.TransferGrounds request subject rule transfer
  | .unknown => False

/- What a permission of traffic of a class rests on. -/
structure PermitGrounds (s : Coordinator) (request : TrafficRequest) (traffic : TrafficClass)
    (now : Int64) : Prop where
  epoch : Binds request.binding.coordinatorEpoch s.epoch
  policy : Binds request.binding.policy s.policy.generation
  enabled : (s.policy.rule traffic).enabled = true
  deadline :
    (explicitDeadline request now).isSet = true → now < (explicitDeadline request now).nanos
  topology :
    (s.policy.rule traffic).requiresCurrentTopology = true →
      (s.topologyState now = .current ∨
          s.withinGrace now = true) ∧
        Binds request.binding.topology s.topology.generation
  subject :
    ∃ subject, request.subject = some subject ∧
      s.SubjectGrounds request subject (s.policy.rule traffic)

---
-- Rules
---

variable {s : Coordinator} {request : TrafficRequest} {subject : TrafficSubject}
variable {log after : ExplanationLog} {admission next : Admission} {now : Int64}
variable {found : ResolvedSubject × ExplanationLog}

/- A rule that keeps the subject and the class. -/
def Admission.Agrees (next admission : Admission) : Prop :=
  next.subject = admission.subject ∧ next.effective = admission.effective

theorem checkAuthority_ok (hOk : s.checkAuthority request log = .ok after) :
    request.structurallyValid = true ∧
      request.subject.isSome = true ∧ Binds request.binding.coordinatorEpoch s.epoch ∧
      Binds request.binding.policy s.policy.generation := by
  unfold checkAuthority at hOk
  simp only [guard_eq_ok_iff] at hOk
  rcases hOk with ⟨hShape, hEpoch, hPolicy, -⟩
  simp only [Bool.or_eq_true, Bool.not_eq_true', Option.isNone_iff_eq_none, not_or] at hShape
  exact ⟨by simpa using hShape.1, Option.isSome_iff_ne_none.mpr hShape.2,
    binds_of_not_bindsOther hEpoch, binds_of_not_bindsOther hPolicy⟩

/- How the subject of permitted traffic was resolved. -/
inductive Resolves (s : Coordinator) (request : TrafficRequest)
    (subject : TrafficSubject) : ResolvedSubject → Prop
| serving (record : RequestRecord) (attempt : AttemptRecord) (hKind : subject.kind = .serving)
    (hRetained : s.ledger.snapshotRequest subject.request = some record)
    (hLive : record.lifecycle.isTerminal = false) (hValid : record.requiresRevalidation = false)
    (hFound : record.findAttempt subject.attempt = some attempt)
    (hCurrent : record.isCurrentAttempt subject.attempt = true)
    (hGeneration : Binds request.binding.requestGeneration record.generation) :
    Resolves s request subject (.serving record attempt)
| transfer (transfer : TransferRecord) (hKind : subject.kind = .transfer)
    (hRetained : s.transfers.lookup subject.transfer = some transfer)
    (hLive : transfer.state.isTerminal = false)
    (hOwner : transfer.request ≠ .nil → s.ledger.isCancelled transfer.request = false)
    (hModel : transfer.modelHash ≠ 0 → s.ModelCurrent transfer.modelHash transfer.modelGeneration)
    (hState : s.StateCurrent transfer.stateHash transfer.stateGeneration)
    (hBoundModel : Binds request.binding.modelGeneration transfer.modelGeneration)
    (hBoundState : Binds request.binding.stateGeneration transfer.stateGeneration) :
    Resolves s request subject (.transfer transfer)

theorem resolveServing_ok (hKind : subject.kind = .serving)
    (hOk : s.resolveServing request subject log = .ok found) :
    s.Resolves request subject found.1 := by
  unfold resolveServing at hOk
  cases hRecord : s.ledger.snapshotRequest subject.request with
  | none => simp [hRecord] at hOk
  | some record =>
    simp only [hRecord, guard_eq_ok_iff] at hOk
    rcases hOk with ⟨-, hValid, hLive, hOk⟩
    cases hAttempt : record.findAttempt subject.attempt with
    | none => simp [hAttempt] at hOk
    | some attempt =>
      simp only [hAttempt, guard_eq_ok_iff, ok.injEq] at hOk
      rcases hOk with ⟨hCurrent, hBound, rfl⟩
      exact .serving record attempt hKind hRecord (by simpa using hLive) (by simpa using hValid)
        hAttempt (by simpa using hCurrent) (binds_of_not_bindsOther hBound)

theorem checkTransferModel_ok {transfer : TransferRecord}
    (hOk : s.checkTransferModel transfer log = .ok ()) (hNamed : transfer.modelHash ≠ 0) :
    s.ModelCurrent transfer.modelHash transfer.modelGeneration := by
  unfold checkTransferModel at hOk
  rw [if_neg hNamed] at hOk
  cases hModel : s.requireModelGeneration transfer.modelHash with
  | error status => simp [hModel] at hOk
  | ok current =>
    simp only [hModel, guard_eq_ok_iff, ne_eq, not_not] at hOk
    rw [hOk.1]
    exact (requireGeneration_eq_ok_iff _ _ _ _ _ _).mp hModel

theorem checkTransferState_ok {transfer : TransferRecord}
    (hOk : s.checkTransferState transfer log = .ok ()) :
    s.StateCurrent transfer.stateHash transfer.stateGeneration := by
  unfold checkTransferState at hOk
  cases hState : s.requireStateGeneration transfer.stateHash with
  | error status => simp [hState] at hOk
  | ok current =>
    simp only [hState, guard_eq_ok_iff, ne_eq, not_not] at hOk
    rw [hOk.1]
    exact (requireGeneration_eq_ok_iff _ _ _ _ _ _).mp hState

theorem resolveTransfer_ok (hKind : subject.kind = .transfer)
    (hOk : s.resolveTransfer request subject log = .ok found) :
    s.Resolves request subject found.1 := by
  unfold resolveTransfer at hOk
  cases hTransfer : s.transfers.lookup subject.transfer with
  | none => simp [hTransfer] at hOk
  | some transfer =>
    simp only [hTransfer, guard_eq_ok_iff, bind_eq_ok_iff, ok.injEq] at hOk
    rcases hOk with ⟨hLive, hOwner, ⟨⟩, hModel, ⟨⟩, hState, hBoundModel, hBoundState, rfl⟩
    refine .transfer transfer hKind hTransfer (by simpa using hLive) ?_
      (checkTransferModel_ok hModel) (checkTransferState_ok hState)
      (binds_of_not_bindsOther hBoundModel) (binds_of_not_bindsOther hBoundState)
    intro hOwned
    simpa [hOwned] using hOwner

theorem resolveSubject_ok (hOk : s.resolveSubject request subject log = .ok found) :
    s.Resolves request subject found.1 := by
  unfold resolveSubject at hOk
  cases hKind : subject.kind with
  | serving =>
    simp only [hKind] at hOk
    exact resolveServing_ok hKind hOk
  | transfer =>
    simp only [hKind] at hOk
    exact resolveTransfer_ok hKind hOk
  | unknown => simp [hKind] at hOk

/- Classification keeps the resolved subject. -/
theorem classify_ok {resolved : ResolvedSubject}
    (hOk : s.classify request resolved log = .ok admission) : admission.subject = resolved := by
  unfold classify at hOk
  cases resolved with
  | serving record attempt =>
    simp only [classifyServing, classifyActive] at hOk
    repeat' split at hOk
    all_goals cases hOk <;> rfl
  | transfer transfer =>
    simp only [classifyTransfer] at hOk
    repeat' split at hOk
    all_goals cases hOk <;> rfl

theorem checkPolicyRule_ok (hOk : s.checkPolicyRule admission = .ok next) :
    Admission.Agrees next admission ∧ (s.policy.rule admission.effective).enabled = true := by
  unfold checkPolicyRule at hOk
  simp only [guard_eq_ok_iff, ok.injEq] at hOk
  rcases hOk with ⟨hEnabled, rfl⟩
  exact ⟨⟨rfl, rfl⟩, by simpa using hEnabled⟩

theorem checkEvidence_ok (hOk : s.checkEvidence admission now = .ok next) :
    Admission.Agrees next admission ∧
      (s.topologyState now = .current ∨ s.withinGrace now = true) := by
  unfold checkEvidence at hOk
  simp only [guard_eq_ok_iff] at hOk
  rcases hOk with ⟨-, hOk⟩
  by_cases hCurrent : s.topologyState now = .current
  · rw [if_pos hCurrent] at hOk
    cases hOk
    exact ⟨⟨rfl, rfl⟩, .inl hCurrent⟩
  · rw [if_neg hCurrent] at hOk
    simp only [guard_eq_ok_iff, ok.injEq] at hOk
    rcases hOk with ⟨hGrace, rfl⟩
    exact ⟨⟨rfl, rfl⟩, .inr (by simpa using hGrace)⟩

theorem checkTopology_ok (hOk : s.checkTopology request admission now = .ok next) :
    Admission.Agrees next admission ∧
      ((s.policy.rule admission.effective).requiresCurrentTopology = true →
        (s.topologyState now = .current ∨
            s.withinGrace now = true) ∧
          Binds request.binding.topology s.topology.generation) := by
  unfold checkTopology at hOk
  cases hRule : (s.policy.rule admission.effective).requiresCurrentTopology with
  | false =>
    simp only [hRule, Bool.not_false, if_true, ok.injEq] at hOk
    subst hOk
    exact ⟨⟨rfl, rfl⟩, fun hAbsurd => by cases hAbsurd⟩
  | true =>
    simp only [hRule, Bool.not_true, Bool.false_eq_true, if_false, bind_eq_ok_iff,
      guard_eq_ok_iff, ok.injEq] at hOk
    rcases hOk with ⟨placed, hPlaced, hBound, rfl⟩
    rcases checkEvidence_ok hPlaced with ⟨hAgrees, hEvidence⟩
    exact ⟨hAgrees, fun _ => ⟨hEvidence, binds_of_not_bindsOther hBound⟩⟩

theorem checkSloContract_ok (hOk : s.checkSloContract request subject admission = .ok next) :
    next = admission ∧
      ((s.policy.rule admission.effective).requiresSloContract = true →
        ∃ contract,
          s.sloContractOf subject admission.subject = some contract ∧
            Binds request.binding.sloContract contract.generation) := by
  unfold checkSloContract at hOk
  cases hRule : (s.policy.rule admission.effective).requiresSloContract with
  | false =>
    simp only [hRule, Bool.not_false, if_true, ok.injEq] at hOk
    exact ⟨hOk.symm, fun hAbsurd => by cases hAbsurd⟩
  | true =>
    simp only [hRule, Bool.not_true, Bool.false_eq_true, if_false] at hOk
    cases hContract : s.sloContractOf subject admission.subject with
    | none => simp [hContract] at hOk
    | some contract =>
      simp only [hContract, guard_eq_ok_iff, ok.injEq] at hOk
      exact ⟨hOk.2.symm, fun _ => ⟨contract, rfl, binds_of_not_bindsOther hOk.1⟩⟩

theorem checkRoute_ok (hOk : s.checkRoute request subject admission = .ok next) :
    next = admission ∧
      ((s.policy.rule admission.effective).requiresCurrentRoute = true →
        routeAttempt subject admission.subject ≠ .nil →
        s.RouteGround request (routeAttempt subject admission.subject)) := by
  unfold checkRoute at hOk
  simp only at hOk
  split at hOk
  · rename_i hSkipped
    cases hOk
    refine ⟨rfl, fun hRule hSet => ?_⟩
    simp [hRule, hSet] at hSkipped
  · cases hRoute : s.routeDecisions.lookup (routeAttempt subject admission.subject) with
    | none => simp [hRoute] at hOk
    | some route =>
      simp only [hRoute, guard_eq_ok_iff, ok.injEq] at hOk
      exact ⟨hOk.2.symm, fun _ _ => ⟨route, hRoute, binds_of_not_bindsOther hOk.1⟩⟩

theorem checkAttemptModel_ok {attempt : AttemptRecord}
    (hOk : s.checkAttemptModel request attempt admission = .ok next) :
    next = admission ∧
      s.ModelCurrent attempt.modelHash attempt.modelGeneration ∧
      Binds request.binding.modelGeneration attempt.modelGeneration := by
  unfold checkAttemptModel at hOk
  simp only [guard_eq_ok_iff] at hOk
  rcases hOk with ⟨-, hOk⟩
  cases hModel : s.requireModelGeneration attempt.modelHash with
  | error status => simp [hModel] at hOk
  | ok current =>
    simp only [hModel, guard_eq_ok_iff, ok.injEq, ne_eq, not_not] at hOk
    rcases hOk with ⟨hSame, hBound, hNext⟩
    refine ⟨hNext.symm, ?_, binds_of_not_bindsOther hBound⟩
    rw [hSame]
    exact (requireGeneration_eq_ok_iff _ _ _ _ _ _).mp hModel

theorem checkModel_ok (hOk : s.checkModel request admission = .ok next) :
    next = admission ∧
      ∀ record attempt,
        admission.subject = .serving record attempt →
        (s.policy.rule admission.effective).requiresModelGeneration = true →
        s.ModelCurrent attempt.modelHash attempt.modelGeneration ∧
          Binds request.binding.modelGeneration attempt.modelGeneration := by
  unfold checkModel at hOk
  cases hSubject : admission.subject with
  | transfer transfer =>
    simp only [hSubject, ok.injEq] at hOk
    exact ⟨hOk.symm, fun _ _ hOther => by cases hOther⟩
  | serving record attempt =>
    simp only [hSubject] at hOk
    split at hOk
    · rcases checkAttemptModel_ok hOk with ⟨hNext, hModel⟩
      refine ⟨hNext, ?_⟩
      rintro _ _ ⟨⟩ -
      exact hModel
    · rename_i hSkipped
      cases hOk
      exact ⟨rfl, fun _ _ _ hRule => (hSkipped hRule).elim⟩

theorem checkDeadline_ok (hOk : s.checkDeadline request subject admission now = .ok next) :
    Admission.Agrees next admission ∧
      ((explicitDeadline request now).isSet = true →
        now < (explicitDeadline request now).nanos) := by
  unfold checkDeadline at hOk
  simp only [guard_eq_ok_iff] at hOk
  rcases hOk with ⟨hOpen, hOk⟩
  constructor
  · split at hOk
    · cases hOk
      exact ⟨rfl, rfl⟩
    · cases hOk
      exact ⟨rfl, rfl⟩
  · intro hSet
    simp only [deadlineOf, hSet, if_true] at hOpen
    simpa [Instant.expiredAt, hSet] using hOpen

---
-- Soundness
---

theorem isValid_of_structurallyValid (hSubject : request.subject = some subject)
    (hValid : request.structurallyValid = true) : subject.isValid = true := by
  unfold TrafficRequest.structurallyValid at hValid
  by_contra hInvalid
  simp [hSubject, hInvalid] at hValid

theorem attempt_ne_nil_of_isValid (hKind : subject.kind = .serving)
    (hValid : subject.isValid = true) : subject.attempt ≠ .nil := by
  unfold TrafficSubject.isValid at hValid
  simp only [hKind, Bool.and_eq_true, Bool.not_eq_true', Id128.isNil_eq_false_iff] at hValid
  exact hValid.1.2

theorem subjectGrounds_of_resolves {resolved : ResolvedSubject} {rule : ClassPolicyRule}
    (hValid : subject.isValid = true) (hResolves : s.Resolves request subject resolved)
    (hContract :
      rule.requiresSloContract = true →
        ∃ contract,
          s.sloContractOf subject resolved = some contract ∧
            Binds request.binding.sloContract contract.generation)
    (hRoute :
      rule.requiresCurrentRoute = true →
        routeAttempt subject resolved ≠ .nil →
        s.RouteGround request (routeAttempt subject resolved))
    (hModel :
      ∀ record attempt,
        resolved = .serving record attempt → rule.requiresModelGeneration = true →
        s.ModelCurrent attempt.modelHash attempt.modelGeneration ∧
          Binds request.binding.modelGeneration attempt.modelGeneration) :
    s.SubjectGrounds request subject rule := by
  unfold SubjectGrounds
  cases hResolves with
  | serving record attempt hKind hRetained hLive hCurrent hFound hIs hGeneration =>
    rw [hKind]
    exact ⟨record, attempt, hRetained, hLive, hCurrent, hFound, hIs, hGeneration, hContract,
      fun hRule => hRoute hRule (attempt_ne_nil_of_isValid hKind hValid), hModel record attempt rfl,
      fun hFinds => (hFinds.getLast?_eq hIs).trans hFound⟩
  | transfer transfer hKind hRetained hLive hOwner hCurrent hState hBoundModel hBoundState =>
    rw [hKind]
    refine ⟨transfer, hRetained, hLive, hOwner, hCurrent,
      hState, hBoundModel, hBoundState, ?_, hRoute⟩
    intro hRule
    rcases hContract hRule with ⟨contract, hHeld, hBound⟩
    unfold sloContractOf at hHeld
    by_cases hNil : transfer.request = .nil
    · simp [hNil] at hHeld
    · refine ⟨hNil, contract, ?_, hBound⟩
      simpa [hNil] using hHeld

/- Every rule that the admitted traffic passed. -/
theorem admissionOf_grounds (hSubject : request.subject = some subject)
    (hOk : s.admissionOf request subject now = .ok admission) :
    s.PermitGrounds request admission.effective now := by
  unfold admissionOf at hOk
  simp only [bind_eq_ok_iff] at hOk
  rcases hOk with ⟨log, hAuthority, found, hFound, classified,
    hClassified, ruled, hRuled, placed, hPlaced, agreed,
    hAgreed, routed, hRouted, modelled, hModelled, hDeadline⟩
  rcases checkAuthority_ok hAuthority with ⟨hShape, -, hEpoch, hPolicy⟩
  have hResolves := resolveSubject_ok hFound
  rw [← classify_ok hClassified] at hResolves
  rcases checkPolicyRule_ok hRuled with ⟨⟨hRuledSubject, hRuledClass⟩, hEnabled⟩
  rcases checkTopology_ok hPlaced with ⟨⟨hPlacedSubject, hPlacedClass⟩, hTopology⟩
  rcases checkSloContract_ok hAgreed with ⟨rfl, hContract⟩
  rcases checkRoute_ok hRouted with ⟨rfl, hRoute⟩
  rcases checkModel_ok hModelled with ⟨rfl, hModel⟩
  rcases checkDeadline_ok hDeadline with ⟨⟨-, hClass⟩, hOpen⟩
  rw [← hRuledSubject, ← hPlacedSubject] at hResolves
  rw [← hRuledClass, ← hPlacedClass, ← hClass] at hEnabled
  rw [← hPlacedClass, ← hClass] at hTopology
  rw [← hClass] at hContract hRoute hModel
  exact
    { epoch := hEpoch
      policy := hPolicy
      enabled := hEnabled
      deadline := hOpen
      topology := hTopology
      subject := ⟨subject, hSubject,
        subjectGrounds_of_resolves (isValid_of_structurallyValid hSubject hShape)
          hResolves hContract hRoute hModel⟩ }

/- What a permission rests on for a subject of a kind. -/
theorem PermitGrounds.serving {traffic : TrafficClass}
    (hGrounds : s.PermitGrounds request traffic now) (hSubject : request.subject = some subject)
    (hKind : subject.kind = .serving) :
    ∃ record attempt, s.ServingGrounds request subject (s.policy.rule traffic) record attempt := by
  rcases hGrounds.subject with ⟨named, hNamed, hGround⟩
  cases hSubject.symm.trans hNamed
  simpa only [SubjectGrounds, hKind] using hGround

theorem PermitGrounds.transfer {traffic : TrafficClass}
    (hGrounds : s.PermitGrounds request traffic now) (hSubject : request.subject = some subject)
    (hKind : subject.kind = .transfer) :
    ∃ transfer, s.TransferGrounds request subject (s.policy.rule traffic) transfer := by
  rcases hGrounds.subject with ⟨named, hNamed, hGround⟩
  cases hSubject.symm.trans hNamed
  simpa only [SubjectGrounds, hKind] using hGround

theorem admissionOf_subject
    (hOk : s.admissionOf request (request.subject.getD {}) now = .ok admission) :
    ∃ subject, request.subject = some subject := by
  unfold admissionOf at hOk
  simp only [bind_eq_ok_iff] at hOk
  rcases hOk with ⟨log, hAuthority, -⟩
  exact Option.isSome_iff_exists.mp (checkAuthority_ok hAuthority).2.1

theorem grant_trafficClass (byGuard : Bool) :
    (s.grant request subject admission byGuard).1.treatment.trafficClass = admission.effective := by
  unfold grant treatmentOf
  simp only
  split_ifs
  all_goals rfl

/-
  A permission comes from an admission, by the rules alone
  or by the starvation guard.
-/
theorem evaluate_permits {victim : Nat}
    (hPermits : (s.evaluate request now victim).1.permitsTraffic = true) :
    ∃ subject admission,
      request.subject = some subject ∧
        s.admissionOf request subject now = .ok admission ∧
        (s.evaluate request now victim).1.treatment.trafficClass = admission.effective := by
  unfold evaluate at hPermits ⊢
  cases hAdmit : s.admissionOf request (request.subject.getD {}) now with
  | error refusal =>
    simp only [hAdmit] at hPermits
    cases hPermits
  | ok admission =>
    rcases admissionOf_subject hAdmit with ⟨subject, hSubject⟩
    simp only [hSubject, Option.getD_some] at hAdmit
    refine ⟨subject, admission, hSubject, hAdmit, ?_⟩
    simp only [hSubject, Option.getD_some, hAdmit] at hPermits ⊢
    cases hDefer : s.deferReason request admission.effective now with
    | none => exact grant_trafficClass false
    | some reason =>
      simp only [hDefer] at hPermits
      unfold deferOrGuard at hPermits ⊢
      simp only at hPermits ⊢
      split
      · exact grant_trafficClass true
      · rename_i hOpen
        rw [if_neg hOpen] at hPermits
        cases hPermits

theorem evaluate_grounds {victim : Nat}
    (hPermits : (s.evaluate request now victim).1.permitsTraffic = true) :
    s.PermitGrounds request (s.evaluate request now victim).1.treatment.trafficClass now := by
  rcases evaluate_permits hPermits with ⟨subject, admission, hSubject, hAdmit, hClass⟩
  rw [hClass]
  exact admissionOf_grounds hSubject hAdmit

/-
  A decision that permits traffic rests on current
  authority. The request generation is compared for serving
  subjects only: a transfer is fenced by its model and
  state generations.
-/
theorem evaluate_sound (s : Coordinator) (request : TrafficRequest) (now : Int64) (victim : Nat)
    (hPermits : (s.evaluate request now victim).1.permitsTraffic = true) :
    s.PermitGrounds request (s.evaluate request now victim).1.treatment.trafficClass now :=
  evaluate_grounds hPermits

def ownedTransferOps : List Op :=
  generationOps ++ [.registerRequest ⟨0, 1⟩ 1, .registerTransfer ownedRegistration 1]

def ownedTransfer : Coordinator :=
  sampleStart.steps ownedTransferOps

def ownedTransferTraffic (bound : RequestGeneration) : TrafficRequest :=
  { subject :=
      some { kind := .transfer, transfer := ⟨0, 9⟩ }
    binding := { requestGeneration := some bound } }

theorem evaluate_sound_ownedTransfer :
    (ownedTransfer.evaluate (ownedTransferTraffic ⟨1⟩) 2 0).1.permitsTraffic = true ∧
      ownedTransfer.PermitGrounds (ownedTransferTraffic ⟨1⟩)
        (ownedTransfer.evaluate (ownedTransferTraffic ⟨1⟩) 2 0).1.treatment.trafficClass 2 :=
  ⟨by decide, evaluate_sound ownedTransfer (ownedTransferTraffic ⟨1⟩) 2 0 (by decide)⟩

/-
  The owner is at generation 1, the traffic binds
  generation 7 of it, and the decision permits traffic.
-/
theorem stale_request_generation_permitted :
    Reachable sampleGenerator {} ownedTransfer ∧
      (ownedTransfer.transfers.lookup ⟨0, 9⟩).map TransferRecord.request = some ⟨0, 1⟩ ∧
      (ownedTransfer.ledger.snapshotRequest ⟨0, 1⟩).map RequestRecord.generation = some ⟨1⟩ ∧
      (ownedTransferTraffic ⟨7⟩).binding.requestGeneration = some ⟨7⟩ ∧
      (ownedTransfer.evaluate (ownedTransferTraffic ⟨7⟩) 2 0).1.permitsTraffic = true :=
  ⟨sampleStart_reachable _, by decide, by decide, rfl, by decide⟩

end Coordinator

end TrafficFabric
