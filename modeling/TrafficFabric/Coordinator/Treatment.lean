import TrafficFabric.Coordinator.Frames

/-
  What a permission grants.

  The class of serving traffic follows from the stage of
  the attempt, and the treatment from the rule of the
  class; a caller can only ask for less. A registered
  transfer may still be granted a class that it was not
  registered with, traffic of an unknown stage may lose its
  conservative treatment to a later finding, and no rule
  reads the state generation that serving traffic binds.

  Main declarations:
    * `servedClass`
    * `TrafficTreatment.Within`
    * `Coordinator.unknown_stage_conservative`
    * `Coordinator.state_generation_unchecked`
-/

---
-- Permitted Classes
---

namespace TrafficFabric

open Except Enumeration

variable {stage : ServingStage}
variable (declared : TrafficClass)

def servedClass (declared : TrafficClass) (stage : ServingStage) : TrafficClass :=
  if isClassLegalForStage declared stage then declared
  else canonicalClassForStage stage

theorem servedClass_legal (hActive : stage.isServingActive = true) :
    isClassLegalForStage (servedClass declared stage) stage = true := by
  unfold servedClass
  split
  · assumption
  · revert hActive
    cases stage
    all_goals decide

theorem not_isClassLegalForStage_unknown (stage : ServingStage) :
    isClassLegalForStage .unknown stage = false := by
  cases stage
  all_goals rfl

theorem servedClass_eq_unknown_iff (hServed : stage.isServingActive = true ∨ stage = .unknown) :
    servedClass declared stage = .unknown ↔ stage = .unknown := by
  constructor
  · intro hUnknown
    refine hServed.resolve_left (fun hActive => ?_)
    have hLegal := servedClass_legal declared hActive
    rw [hUnknown, not_isClassLegalForStage_unknown] at hLegal
    cases hLegal
  · rintro rfl
    cases declared
    all_goals rfl

/- A treatment asks for no more than a rule gives. -/
structure TrafficTreatment.Within (treatment : TrafficTreatment)
    (rule : ClassPolicyRule) : Prop where
  priority : code rule.priority ≤ code treatment.priority
  reserved : treatment.reservedWeight ≤ rule.reservedWeight
  integrity : code rule.integrity ≤ code treatment.integrity
  burst : treatment.maxBurstBytes = rule.maxBurstBytes
  rate : treatment.rateLimitBytesPerSec = rule.rateLimitBytesPerSec

/- The decision treats its traffic as unknown. -/
structure Decision.Conservative (decision : Decision) : Prop where
  outcome : decision.outcome = .degraded
  reason : decision.reason = .admittedConservative
  reserved : decision.treatment.reservedWeight = 0
  pacing : decision.treatment.pacing = .bestEffort
  isolation : decision.treatment.isolation = .background

theorem le_maxIntegrity (a b : IntegrityClass) :
    code a ≤ code (maxIntegrity a b) ∧ code b ≤ code (maxIntegrity a b) := by
  unfold maxIntegrity
  split
  · rename_i hLe
    exact ⟨UInt16.le_refl _, hLe⟩
  · rename_i hLt
    exact ⟨UInt16.le_of_lt (UInt16.not_le.mp hLt), UInt16.le_refl _⟩

namespace Coordinator

variable {s : Coordinator} {request : TrafficRequest} {subject : TrafficSubject}
variable {admission next : Admission} {now : Int64} {victim : Nat}
variable {decision : Decision}
variable (rule : ClassPolicyRule)
variable {log : ExplanationLog} {transfer : TransferRecord} {record : RequestRecord}
  {attempt : AttemptRecord}

theorem classifyServing_effective {resolved : ResolvedSubject}
    (hOk : s.classifyServing request resolved stage log = .ok admission) :
    admission.effective = servedClass request.declaredClass stage ∧
      (stage.isServingActive = true ∨
        stage = .unknown ∧ s.policy.allowUnknownStage = true ∧
          admission.degrade = some .admittedConservative) := by
  unfold classifyServing at hOk
  by_cases hActive : stage.isServingActive = true
  · refine ⟨?_, .inl hActive⟩
    simp only [hActive, Bool.not_true, Bool.false_eq_true, if_false] at hOk
    unfold classifyActive at hOk
    unfold servedClass
    by_cases hLegal : isClassLegalForStage request.declaredClass stage = true
    · have hDeclared : request.declaredClass ≠ .unknown := by
        intro hUnknown
        rw [hUnknown, not_isClassLegalForStage_unknown] at hLegal
        cases hLegal
      simp only [hDeclared, hLegal, Bool.not_true, Bool.false_eq_true, if_false] at hOk
      cases hOk
      rw [if_pos hLegal]
    · rw [if_neg hLegal]
      simp only [hLegal, Bool.not_false, if_true] at hOk
      repeat' split at hOk
      all_goals cases hOk <;> rfl
  · simp only [hActive, Bool.not_false, if_true, guard_eq_ok_iff, Except.ok.injEq,
      Bool.not_eq_true', Bool.not_eq_false] at hOk
    rcases hOk with ⟨hStage, hAllowed, rfl⟩
    have hUnknown := not_not.mp hStage
    refine ⟨((servedClass_eq_unknown_iff _ (.inr hUnknown)).mpr hUnknown).symm, .inr ?_⟩
    exact ⟨hUnknown, hAllowed, rfl⟩

theorem classifyTransfer_effective (hOk : s.classifyTransfer request transfer log = .ok admission) :
    admission.effective =
      if request.declaredClass = .unknown ∨ request.declaredClass.isTransferClass = true then
        transfer.declaredClass
      else request.declaredClass := by
  unfold classifyTransfer at hOk
  by_cases hDeclared : request.declaredClass = .unknown
  · rw [if_pos (.inl hDeclared)]
    simp only [hDeclared, if_true] at hOk
    repeat' split at hOk
    all_goals cases hOk <;> rfl
  · simp only [hDeclared, if_false, false_or] at hOk ⊢
    by_cases hClass : request.declaredClass.isTransferClass = true
    · rw [if_pos hClass]
      simp only [hClass, Bool.not_true, Bool.false_eq_true, if_false] at hOk
      split at hOk
      · cases hOk
        rfl
      · rename_i hSame
        cases hOk
        exact not_not.mp hSame
    · rw [if_neg hClass]
      simp only [hClass, Bool.not_false, if_true, guard_eq_ok_iff, Except.ok.injEq] at hOk
      rw [← hOk.2]

---
-- Findings
---

theorem checkTopology_degrade (hOk : s.checkTopology request admission now = .ok next) :
    next.degrade =
      if (s.policy.rule admission.effective).requiresCurrentTopology = true ∧
          s.topologyState now ≠ .current then
        some .degradedStaleTopology
      else admission.degrade := by
  unfold checkTopology checkEvidence at hOk
  cases hRule : (s.policy.rule admission.effective).requiresCurrentTopology with
  | false =>
    simp only [hRule, Bool.not_false, if_true, Except.ok.injEq] at hOk
    simp [hOk]
  | true =>
    simp only [hRule, Bool.not_true, Bool.false_eq_true, if_false, bind_eq_ok_iff,
      guard_eq_ok_iff, Except.ok.injEq] at hOk
    rcases hOk with ⟨placed, ⟨-, hPlaced⟩, -, rfl⟩
    by_cases hCurrent : s.topologyState now = .current
    · rw [if_pos hCurrent] at hPlaced
      cases hPlaced
      simp [hCurrent]
    · rw [if_neg hCurrent] at hPlaced
      simp only [guard_eq_ok_iff, Except.ok.injEq] at hPlaced
      rcases hPlaced with ⟨-, rfl⟩
      simp [hCurrent]

def admittedDeadline (s : Coordinator) (request : TrafficRequest) (subject : TrafficSubject)
    (resolved : ResolvedSubject) (now : Int64) : Instant :=
  deadlineOf request (s.sloContractOf subject resolved) resolved.registeredAtNanos now

theorem checkDeadline_degrade (hOk : s.checkDeadline request subject admission now = .ok next) :
    next.degrade =
      if (s.policy.rule admission.effective).requiresDeadline = true ∧
          (s.admittedDeadline request subject admission.subject now).isSet = false then
        some .degradedMissingSloContract
      else admission.degrade := by
  unfold checkDeadline at hOk
  simp only [guard_eq_ok_iff] at hOk
  rcases hOk with ⟨-, hOk⟩
  unfold admittedDeadline
  split at hOk
  · rename_i hMissing
    cases hOk
    rw [if_pos (by simpa using hMissing)]
  · rename_i hSet
    cases hOk
    rw [if_neg (by simpa using hSet)]

/- What the rules after classification may still find. -/
structure Classified
    (s : Coordinator) (request : TrafficRequest) (subject : TrafficSubject) (now : Int64)
    (classified admission : Admission) : Prop where
  agrees : Admission.Agrees admission classified
  degrade : admission.degrade =
      if (s.policy.rule admission.effective).requiresDeadline = true ∧
          (s.admittedDeadline request subject admission.subject now).isSet = false then
        some .degradedMissingSloContract
      else if (s.policy.rule admission.effective).requiresCurrentTopology = true ∧
          s.topologyState now ≠ .current then
        some .degradedStaleTopology
      else classified.degrade

/- The rules after classification keep the class. -/
theorem admissionOf_classified (hOk : s.admissionOf request subject now = .ok admission) :
    ∃ resolved log found classified,
      s.resolveSubject request subject log = .ok (resolved, found) ∧
        s.classify request resolved found = .ok classified ∧
        s.Classified request subject now classified admission := by
  unfold admissionOf at hOk
  simp only [bind_eq_ok_iff] at hOk
  rcases hOk with ⟨log, -, found, hFound, classified,
    hClassified, ruled, hRuled, placed, hPlaced, agreed,
    hAgreed, routed, hRouted, modelled, hModelled, hDeadline⟩
  refine ⟨found.1, log, found.2, classified, hFound, hClassified, ?_⟩
  rcases checkSloContract_ok hAgreed with ⟨rfl, -⟩
  rcases checkRoute_ok hRouted with ⟨rfl, -⟩
  rcases checkModel_ok hModelled with ⟨rfl, -⟩
  have hLast := (checkDeadline_ok hDeadline).1
  have hMiddle := (checkTopology_ok hPlaced).1
  have hFirst := (checkPolicyRule_ok hRuled).1
  have hDegrade : ruled.degrade = classified.degrade := by
    unfold checkPolicyRule at hRuled
    simp only [guard_eq_ok_iff, Except.ok.injEq] at hRuled
    rw [← hRuled.2]
  refine ⟨⟨?_, ?_⟩, ?_⟩
  · rw [hLast.1, hMiddle.1, hFirst.1]
  · rw [hLast.2, hMiddle.2, hFirst.2]
  · rw [checkDeadline_degrade hDeadline, checkTopology_degrade hPlaced, hDegrade,
      hLast.1, hLast.2, hMiddle.2]

theorem admissionOf_serving (hOk : s.admissionOf request subject now = .ok admission)
    (hKind : subject.kind = .serving)
    (hRetained : s.ledger.snapshotRequest subject.request = some record)
    (hFound : record.findAttempt subject.attempt = some attempt) :
    ∃ found classified,
      s.classifyServing request (.serving record attempt) attempt.stage found = .ok classified ∧
        admission.subject = .serving record attempt ∧
        s.Classified request subject now classified admission := by
  rcases admissionOf_classified hOk with
    ⟨resolved, log, found, classified, hResolved, hClassified, hKept⟩
  have hSubject := hKept.agrees.1.trans (classify_ok hClassified)
  cases resolveSubject_ok hResolved with
  | transfer _ hOther =>
    rw [hKind] at hOther
    cases hOther
  | serving held entry _ hHeld _ _ hEntry =>
    cases hRetained.symm.trans hHeld
    cases hFound.symm.trans hEntry
    exact ⟨found, classified, hClassified, hSubject, hKept⟩

theorem admissionOf_transfer (hOk : s.admissionOf request subject now = .ok admission)
    (hKind : subject.kind = .transfer)
    (hRetained : s.transfers.lookup subject.transfer = some transfer) :
    ∃ found classified,
      s.classifyTransfer request transfer found = .ok classified ∧
        admission.subject = .transfer transfer ∧
        s.Classified request subject now classified admission := by
  rcases admissionOf_classified hOk with
    ⟨resolved, log, found, classified, hResolved, hClassified, hKept⟩
  have hSubject := hKept.agrees.1.trans (classify_ok hClassified)
  cases resolveSubject_ok hResolved with
  | serving _ _ hOther =>
    rw [hKind] at hOther
    cases hOther
  | transfer held _ hHeld =>
    cases hRetained.symm.trans hHeld
    exact ⟨found, classified, hClassified, hSubject, hKept⟩

theorem lowered_degrade :
    (lowered request rule admission).degrade =
      if lowersPriority request rule then some (admission.degrade.getD .degradedPriorityLowered)
      else admission.degrade := by
  unfold lowered
  split
  · rfl
  · rfl

/- The treatment of admitted traffic, field by field. -/
theorem treatmentOf_eq :
    treatmentOf request rule admission = { baseTreatment rule admission with
        priority := if lowersPriority request rule then .background else rule.priority
        pacing :=
          if (lowered request rule admission).degrade = some .admittedConservative then .bestEffort
          else (baseTreatment rule admission).pacing
        reservedWeight :=
          if (lowered request rule admission).degrade = some .admittedConservative then 0
          else (baseTreatment rule admission).reservedWeight
        isolation :=
          if (lowered request rule admission).degrade = some .admittedConservative then .background
          else rule.isolation } := by
  unfold treatmentOf
  split_ifs
  all_goals rfl

/- A hint lowers the priority and nothing raises it. -/
theorem treatmentOf_within : (treatmentOf request rule admission).Within rule := by
  rw [treatmentOf_eq]
  refine ⟨?_, ?_, ?_, rfl, rfl⟩
  · split
    · rename_i hLowers
      unfold lowersPriority at hLowers
      simp only [Bool.and_eq_true, decide_eq_true_eq] at hLowers
      exact UInt16.le_of_lt hLowers.2
    · exact UInt16.le_refl _
  · simp only [baseTreatment]
    split_ifs
    all_goals simp
  · simp only [baseTreatment]
    split
    · exact UInt16.le_refl _
    · exact (le_maxIntegrity _ _).1

/- How a permission came from an admission. -/
structure Granted
    (s : Coordinator) (request : TrafficRequest) (now : Int64) (subject : TrafficSubject)
    (admission : Admission) (decision : Decision) : Prop where
  asked : request.subject = some subject
  admitted : s.admissionOf request subject now = .ok admission
  treatment : decision.treatment = treatmentOf request (s.policy.rule admission.effective) admission
  free :
    s.deferReason request admission.effective now = none →
      decision.outcome =
          (if (lowered request (s.policy.rule admission.effective) admission).degrade.isSome then
            .degraded
          else .allowed) ∧
        decision.reason =
          (lowered request (s.policy.rule admission.effective) admission).degrade.getD .admitted
  guarded :
    s.deferReason request admission.effective now ≠ none →
      decision.reason = .admittedStarvationGuard

theorem evaluate_granted (hPermits : (s.evaluate request now victim).1.permitsTraffic = true) :
    ∃ subject admission,
      s.Granted request now subject admission (s.evaluate request now victim).1 := by
  rcases evaluate_permits hPermits with ⟨subject, admission, hSubject, hAdmit, -⟩
  refine ⟨subject, admission, ?_⟩
  have hAsked : s.admissionOf request (request.subject.getD {}) now = .ok admission := by
    rw [hSubject]
    exact hAdmit
  unfold evaluate at hPermits ⊢
  simp only [hAsked] at hPermits ⊢
  cases hWaits : s.deferReason request admission.effective now with
  | none =>
    rw [clearDefer_eq]
    exact ⟨hSubject, hAdmit, rfl, fun _ => ⟨rfl, rfl⟩, fun hOther => (hOther hWaits).elim⟩
  | some reason =>
    simp only [hWaits] at hPermits ⊢
    unfold deferOrGuard at hPermits ⊢
    rw [noteDefer_eq] at hPermits ⊢
    simp only at hPermits ⊢
    split
    · rw [clearDefer_eq]
      refine ⟨hSubject, hAdmit, ?_, fun hFree => ?_, fun _ => rfl⟩
      · change treatmentOf request (s.policy.rule admission.effective) _ = _
        simp only [treatmentOf_eq, lowered_degrade]
        rfl
      · cases hWaits.symm.trans hFree
    · rename_i hOpen
      rw [if_neg hOpen] at hPermits
      cases hPermits

/- A finding of the rules decides over the reason. -/
theorem Granted.finding {reason : ReasonCode}
    (hGranted : s.Granted request now subject admission decision)
    (hFree : s.deferReason request admission.effective now = none)
    (hDegrade : admission.degrade = some reason) :
    decision.outcome = .degraded ∧ decision.reason = reason := by
  have hFinding := hGranted.free hFree
  simp only [lowered_degrade, hDegrade, Option.getD_some, ite_self, Option.isSome_some,
    if_true] at hFinding
  exact hFinding

theorem Granted.conservative (hGranted : s.Granted request now subject admission decision)
    (hFree : s.deferReason request admission.effective now = none)
    (hDegrade : admission.degrade = some .admittedConservative) : decision.Conservative := by
  rcases hGranted.finding hFree hDegrade with ⟨hOutcome, hReason⟩
  have hTreatment := hGranted.treatment
  simp only [treatmentOf_eq, lowered_degrade, hDegrade, Option.getD_some, ite_self,
    if_true] at hTreatment
  refine ⟨hOutcome, hReason, ?_, ?_, ?_⟩
  all_goals rw [hTreatment]

theorem Granted.trafficClass (hGranted : s.Granted request now subject admission decision) :
    decision.treatment.trafficClass = admission.effective := by
  rw [hGranted.treatment, treatmentOf_eq]
  rfl

theorem Granted.served (hGranted : s.Granted request now subject admission decision)
    (hKind : subject.kind = .serving)
    (hRetained : s.ledger.snapshotRequest subject.request = some record)
    (hFound : record.findAttempt subject.attempt = some attempt) :
    decision.treatment.trafficClass = servedClass request.declaredClass attempt.stage ∧
      (attempt.stage.isServingActive = true ∨
        attempt.stage = .unknown ∧ s.policy.allowUnknownStage = true) := by
  rcases admissionOf_serving hGranted.admitted hKind hRetained hFound with
    ⟨found, classified, hClassified, -, hKept⟩
  rcases classifyServing_effective hClassified with ⟨hClass, hStage⟩
  rw [hGranted.trafficClass, hKept.agrees.2]
  exact ⟨hClass, hStage.imp_right (fun hUnknown => ⟨hUnknown.1, hUnknown.2.1⟩)⟩

/-
  A permitted transfer has its registered class exactly
  when the caller declares no class, a transfer class or
  the registered one.
-/
theorem transfer_class_granted (s : Coordinator) (request : TrafficRequest) (now : Int64)
    (victim : Nat) (subject : TrafficSubject) (transfer : TransferRecord)
    (hPermits : (s.evaluate request now victim).1.permitsTraffic = true)
    (hSubject : request.subject = some subject) (hKind : subject.kind = .transfer)
    (hTransfer : s.transfers.lookup subject.transfer = some transfer) :
    (s.evaluate request now victim).1.treatment.trafficClass = transfer.declaredClass ↔
      request.declaredClass = .unknown ∨ request.declaredClass.isTransferClass = true ∨
        request.declaredClass = transfer.declaredClass := by
  rcases evaluate_granted hPermits with ⟨named, admission, hGranted⟩
  cases hSubject.symm.trans hGranted.asked
  rcases admissionOf_transfer hGranted.admitted hKind hTransfer with
    ⟨found, classified, hClassified, -, hKept⟩
  rw [hGranted.trafficClass, hKept.agrees.2, classifyTransfer_effective hClassified]
  split
  · rename_i hDeclared
    exact iff_of_true rfl (hDeclared.imp_right .inl)
  · rename_i hDeclared
    rw [not_or] at hDeclared
    simp [hDeclared.1, hDeclared.2]

/- The default policy, opted in to unknown stages. -/
def unknownStagePolicy : PolicyConfig where
  allowUnknownStage := true
  rule traffic :=
    if traffic = .unknown then
      { enabled := true
        priority := .background
        pacing := .bestEffort
        integrity := .checksum
        isolation := .background }
    else PolicyConfig.canonicalRule traffic

/- A model transfer under a policy for unknown classes. -/
def modelTransferOps : List Op :=
  .applyPolicy { unknownStagePolicy with allowUnknownTrafficClass := true } ::
    (generationOps ++ [.registerTransfer (sampleTransfer .modelTransfer) 1])

def modelTransferTraffic (declared : TrafficClass) : TrafficRequest where
  subject := some { kind := .transfer, transfer := ⟨0, 9⟩ }
  declaredClass := declared

theorem transfer_class_granted_undeclared :
    let s := sampleStart.steps modelTransferOps
    (s.evaluate (modelTransferTraffic .unknown) 2 0).1.permitsTraffic = true ∧
      (s.evaluate (modelTransferTraffic .unknown) 2 0).1.treatment.trafficClass =
        .modelTransfer := by
  intro s
  have hPermits : (s.evaluate (modelTransferTraffic .unknown) 2 0).1.permitsTraffic = true := by
    decide
  refine ⟨hPermits, ?_⟩
  cases hTransfer : s.transfers.lookup ⟨0, 9⟩ with
  | none => exact (by decide : s.transfers.lookup ⟨0, 9⟩ ≠ none) hTransfer |>.elim
  | some transfer =>
    have hClass : (s.transfers.lookup ⟨0, 9⟩).map TransferRecord.declaredClass =
        some .modelTransfer := by
      decide
    rw [hTransfer] at hClass
    rw [(transfer_class_granted s (modelTransferTraffic .unknown) 2 0 _ transfer hPermits rfl rfl
      hTransfer).mpr (.inl rfl)]
    exact Option.some.inj hClass

/-
  The caller declares the control class for a model
  transfer, which then has the priority of control traffic
  and does not yield.
-/
theorem transfer_class_claimed :
    let s := sampleStart.steps modelTransferOps
    let decision := (s.evaluate (modelTransferTraffic .control) 2 0).1
    Reachable sampleGenerator {} s ∧
      s.policy.validate = .valid ∧
      (s.transfers.lookup ⟨0, 9⟩).map TransferRecord.declaredClass = some .modelTransfer ∧
      decision.permitsTraffic = true ∧ decision.treatment.trafficClass = .control ∧
      (s.policy.rule .modelTransfer).yieldsToLatency = true ∧
      (s.policy.rule .control).yieldsToLatency = false :=
  ⟨sampleStart_reachable modelTransferOps, by decide, by decide, by decide, by decide, rfl, rfl⟩

/-
  Traffic of an unknown stage is treated conservatively
  exactly when no later rule replaces the finding: evidence
  inside its grace, a missing deadline, or a deferral that
  the starvation guard cuts short.
-/
theorem unknown_stage_conservative (s : Coordinator) (request : TrafficRequest) (now : Int64)
    (victim : Nat) (subject : TrafficSubject) (record : RequestRecord) (attempt : AttemptRecord)
    (hPermits : (s.evaluate request now victim).1.permitsTraffic = true)
    (hSubject : request.subject = some subject) (hKind : subject.kind = .serving)
    (hRecord : s.ledger.snapshotRequest subject.request = some record) (hFinds : record.FindsLast)
    (hLast : record.attempts.getLast? = some attempt) (hStage : attempt.stage = .unknown) :
    (s.evaluate request now victim).1.Conservative ↔
      ((s.policy.rule .unknown).requiresCurrentTopology = true → s.topologyState now = .current) ∧
        ((s.policy.rule .unknown).requiresDeadline = true →
          (s.admittedDeadline request subject (.serving record attempt) now).isSet = true) ∧
        s.deferReason request .unknown now = none := by
  rcases evaluate_granted hPermits with ⟨named, admission, hGranted⟩
  cases hSubject.symm.trans hGranted.asked
  have hAttempt : record.findAttempt subject.attempt = some attempt := by
    rcases (evaluate_grounds hPermits).serving hSubject hKind with ⟨held, found, hGrounds⟩
    cases hRecord.symm.trans hGrounds.retained
    exact (hFinds.getLast?_eq hGrounds.current).symm.trans hLast
  rcases admissionOf_serving hGranted.admitted hKind hRecord hAttempt with
    ⟨found, classified, hClassified, hResolved, hKept⟩
  rcases classifyServing_effective hClassified with ⟨hClass, hActive | ⟨-, -, hFinding⟩⟩
  · rw [hStage] at hActive
    cases hActive
  have hUnknown : admission.effective = .unknown := by
    rw [hKept.agrees.2, hClass]
    exact (servedClass_eq_unknown_iff _ (.inr hStage)).mpr hStage
  have hDegrade := hKept.degrade
  rw [hUnknown, hResolved, hFinding] at hDegrade
  cases hWaits : s.deferReason request .unknown now with
  | some reason =>
    refine iff_of_false (fun hConservative => ?_) (fun hQuiet => ?_)
    · have hGuard := hGranted.guarded (by rw [hUnknown, hWaits]; exact Option.some_ne_none _)
      cases hConservative.reason.symm.trans hGuard
    · cases hQuiet.2.2
  | none =>
    rw [← hUnknown] at hWaits
    split_ifs at hDegrade with hLate hOld
    · refine iff_of_false (fun hConservative => ?_) (fun hQuiet => ?_)
      · cases hConservative.reason.symm.trans (hGranted.finding hWaits hDegrade).2
      · cases (hQuiet.2.1 hLate.1).symm.trans hLate.2
    · refine iff_of_false (fun hConservative => ?_) (fun hQuiet => ?_)
      · cases hConservative.reason.symm.trans (hGranted.finding hWaits hDegrade).2
      · exact hOld.2 (hQuiet.1 hOld.1)
    · refine iff_of_true (hGranted.conservative hWaits hDegrade) ⟨?_, ?_, rfl⟩
      · exact fun hRule => by_contra (fun hStale => hOld ⟨hRule, hStale⟩)
      · exact fun hRule => Bool.eq_true_of_not_eq_false (fun hUnset => hLate ⟨hRule, hUnset⟩)

/- An attempt that has not entered a stage. -/
def unstagedOps : List Op :=
  [.applyPolicy unknownStagePolicy, .registerRequest ⟨0, 1⟩ 1, .registerAttempt ⟨0, 1⟩ ⟨0, 2⟩ 0 2]

theorem unknown_stage_conservative_unstaged :
    let s := sampleStart.steps unstagedOps
    (s.evaluate ingressTraffic 3 0).1.permitsTraffic = true ∧
      (s.evaluate ingressTraffic 3 0).1.Conservative := by
  intro s
  have hPermits : (s.evaluate ingressTraffic 3 0).1.permitsTraffic = true := by decide
  refine ⟨hPermits, (unknown_stage_conservative s ingressTraffic 3 0 _ _ _ hPermits rfl rfl rfl rfl
    rfl (by decide)).mpr ⟨?_, ?_, by decide⟩⟩
  · exact fun hRule => absurd hRule (by decide)
  · exact fun hRule => absurd hRule (by decide)

def unknownDeadlinePolicy : PolicyConfig where
  allowUnknownStage := true
  rule traffic :=
    if traffic = .unknown then
      { unknownStagePolicy.rule .unknown with
        isolation := .interactive
        requiresDeadline := true }
    else PolicyConfig.canonicalRule traffic

/-
  The finding that a deadline is missing replaces the
  conservative one, and the traffic keeps the isolation of
  its rule.
-/
theorem unknown_stage_lenient :
    let s := sampleStart.steps
      [.applyPolicy unknownDeadlinePolicy, .registerRequest ⟨0, 1⟩ 1,
        .registerAttempt ⟨0, 1⟩ ⟨0, 2⟩ 0 2]
    let decision := (s.evaluate ingressTraffic 3 0).1
    Reachable sampleGenerator {} s ∧
      s.policy.validate = .valid ∧ s.policy.allowUnknownStage = true ∧
      ((s.ledger.snapshotRequest ⟨0, 1⟩).bind (RequestRecord.findAttempt · ⟨0, 2⟩)).map
          AttemptRecord.stage = some .unknown ∧
      decision.permitsTraffic = true ∧ decision.reason = .degradedMissingSloContract ∧
      decision.treatment.isolation = .interactive :=
  ⟨sampleStart_reachable _, by decide, rfl, by decide, by decide, by decide, by decide⟩

---
-- State Generations
---

def bindingState (request : TrafficRequest) (bound : Option StateGeneration) : TrafficRequest :=
  { request with binding := { request.binding with stateGeneration := bound } }

/- No rule reads the state generation serving traffic binds. -/
theorem evaluate_bindingState (victim : Nat) (bound : Option StateGeneration)
    (hSubject : request.subject = some subject) (hKind : subject.kind = .serving) :
    (s.evaluate (bindingState request bound) now victim).1.outcome =
        (s.evaluate request now victim).1.outcome ∧
      (s.evaluate (bindingState request bound) now victim).1.treatment =
        (s.evaluate request now victim).1.treatment := by
  have hSame :
      s.admissionOf (bindingState request bound) subject now =
        s.admissionOf request subject now := by
    unfold admissionOf resolveSubject
    simp only [hKind]
    rfl
  have hAsked : (bindingState request bound).subject = some subject := hSubject
  unfold evaluate
  rw [hAsked, hSubject]
  simp only [Option.getD_some, hSame]
  cases s.admissionOf request subject now with
  | error refusal => exact ⟨rfl, rfl⟩
  | ok admission =>
    have hWaits :
        s.deferReason (bindingState request bound) admission.effective now =
          s.deferReason request admission.effective now :=
      rfl
    simp only [hWaits]
    cases s.deferReason request admission.effective now with
    | none => exact ⟨rfl, rfl⟩
    | some reason =>
      simp only [deferOrGuard]
      split
      · exact ⟨rfl, rfl⟩
      · exact ⟨rfl, rfl⟩

/- A bound state generation that some entry has. -/
def BindsCurrentState (s : Coordinator) (bound : Option StateGeneration) : Prop :=
  ∃ hash generation, bound = some generation ∧ s.StateCurrent hash generation

/-
  Permitted serving traffic is permitted whatever state
  generation it binds. So a required state generation is
  checked for no traffic: what a rule requires is met for
  every binding exactly when it requires nothing.
-/
theorem state_generation_unchecked (s : Coordinator) (request : TrafficRequest) (now : Int64)
    (victim : Nat) (subject : TrafficSubject) (record : RequestRecord) (attempt : AttemptRecord)
    (hPermits : (s.evaluate request now victim).1.permitsTraffic = true)
    (hSubject : request.subject = some subject) (hKind : subject.kind = .serving)
    (hRecord : s.ledger.snapshotRequest subject.request = some record)
    (hAttempt : record.findAttempt subject.attempt = some attempt) :
    (∀ bound, (s.evaluate (bindingState request bound) now victim).1.permitsTraffic = true) ∧
      ((∀ bound,
          (s.policy.rule (s.evaluate (bindingState request bound) now
            victim).1.treatment.trafficClass).requiresStateGeneration = true →
          s.BindsCurrentState bound) ↔
        (s.policy.rule (servedClass request.declaredClass
          attempt.stage)).requiresStateGeneration = false) := by
  have hSame (bound : Option StateGeneration) :=
    @evaluate_bindingState s request subject now victim bound hSubject hKind
  rcases evaluate_granted hPermits with ⟨named, admission, hGranted⟩
  cases hSubject.symm.trans hGranted.asked
  have hClass := (hGranted.served hKind hRecord hAttempt).1
  constructor
  · intro bound
    unfold Decision.permitsTraffic at hPermits ⊢
    rw [(hSame bound).1]
    exact hPermits
  · simp only [fun bound => (hSame bound).2, hClass]
    constructor
    · intro hBound
      refine Bool.eq_false_of_not_eq_true (fun hRule => ?_)
      rcases hBound none hRule with ⟨hash, generation, hNone, -⟩
      cases hNone
    · intro hRule bound hRequired
      cases hRule.symm.trans hRequired

/- An attempt that may hand its prefill over. -/
def handoffOps : List Op :=
  [ .setModelGeneration 1 none,
    .publishTopology { provenance := .measured, nodeCount := 1 } 1,
    .registerRequest ⟨0, 1⟩ 1,
    .registerAttempt ⟨0, 1⟩ ⟨0, 2⟩ 1 2,
    .advanceStage ⟨0, 1⟩ ⟨0, 2⟩ .admitted 3,
    .advanceStage ⟨0, 1⟩ ⟨0, 2⟩ .prefillQueued 3,
    .advanceStage ⟨0, 1⟩ ⟨0, 2⟩ .prefillRunning 3,
    .advanceStage ⟨0, 1⟩ ⟨0, 2⟩ .handoffPending 3,
    .registerSloContract ⟨0, 1⟩ 1000 1000 1,
    .issueRouteDecision ⟨0, 1⟩ ⟨0, 2⟩ 1 false false ]

theorem state_generation_unchecked_ingress :
    let s := sampleStart.steps handoffOps
    let decision (bound : Option StateGeneration) :=
      (s.evaluate (bindingState ingressTraffic bound) 4 0).1
    (∀ bound, (decision bound).permitsTraffic = true) ∧
      ¬ ∀ bound,
        (s.policy.rule (decision bound).treatment.trafficClass).requiresStateGeneration = true →
        s.BindsCurrentState bound := by
  intro s decision
  have hPermits : (s.evaluate ingressTraffic 4 0).1.permitsTraffic = true := by decide
  have hBoth := state_generation_unchecked s ingressTraffic 4 0 _ _ _ hPermits rfl rfl rfl rfl
  refine ⟨hBoth.1, fun hBound => ?_⟩
  have hRule := hBoth.2.mp hBound
  revert hRule
  decide

/-
  The default policy requires a state generation for the
  handoff, the request binds none, no state is registered,
  and the decision permits the traffic.
-/
theorem required_state_generation_ignored :
    let s := sampleStart.steps handoffOps
    let decision := (s.evaluate ingressTraffic 4 0).1
    Reachable sampleGenerator {} s ∧
      s.policy.validate = .valid ∧ decision.permitsTraffic = true ∧
      (s.policy.rule decision.treatment.trafficClass).requiresStateGeneration = true ∧
      ingressTraffic.binding.stateGeneration = none :=
  ⟨sampleStart_reachable handoffOps, by decide, by decide, by decide, rfl⟩

end Coordinator

end TrafficFabric
