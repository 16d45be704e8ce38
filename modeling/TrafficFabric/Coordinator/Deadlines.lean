import TrafficFabric.Coordinator.TransferLifecycle

/-
  The deadlines that evaluations enforce.

  The budget of a contract is added to the registration time
  of its request in signed 64 bits, so the sum is exact while
  it is in range. The deadline of a transfer is only the one
  its request names: neither the deadline it was registered
  with nor the contract of its owner is looked at.
-/

namespace TrafficFabric

namespace Instant

/- The instant is set, and to this moment. -/
def Is (instant : Instant) (moment : Int) : Prop :=
  instant.isSet = true ∧ instant.nanos.toInt = moment

theorem Is.expiredAt_iff {instant : Instant} {moment : Int} (hIs : instant.Is moment)
    (now : Int64) : instant.expiredAt now = true ↔ moment ≤ now.toInt := by
  rw [expiredAt, hIs.1, Bool.true_and, decide_eq_true_eq, Int64.le_iff_toInt_le, hIs.2]

theorem toInt_add_toInt64 (nanos : Int64) (delay : UInt64) :
    (nanos + delay.toInt64).toInt = (nanos.toInt + delay.toNat).bmod (2 ^ 64) := by
  have hDelay : delay.toInt64.toInt = (delay.toNat : Int).bmod (2 ^ 64) := by
    have hWord := Int64.toInt_ofNat' (n := delay.toNat)
    rw [← UInt64.toInt64_ofNat', UInt64.ofNat_toNat] at hWord
    exact hWord
  rw [Int64.toInt_add, hDelay, Int.add_bmod_bmod]

/- A moment after a delay is exact if it is in range. -/
theorem is_add_iff {nanos : Int64} (delay : UInt64) (hPositive : 0 < nanos) :
    Is ⟨nanos + delay.toInt64⟩ (nanos.toInt + delay.toNat) ↔
      nanos.toInt + delay.toNat < 2 ^ 63 := by
  have hStart : 0 < nanos.toInt := Int64.lt_iff_toInt_lt.mp hPositive
  constructor
  · rintro ⟨-, hExact⟩
    rw [← hExact]
    exact Int64.toInt_lt _
  · intro hRange
    have hExact : (nanos + delay.toInt64).toInt = nanos.toInt + delay.toNat := by
      rw [toInt_add_toInt64, Int.bmod_eq_of_le (by omega) (by omega)]
    refine ⟨?_, hExact⟩
    rw [isSet, bne_iff_ne]
    intro hUnset
    have hLeast : (nanos + delay.toInt64).toInt = -2 ^ 63 := by
      rw [show nanos + delay.toInt64 = Int64.minValue from hUnset]
      rfl
    omega

end Instant

namespace Coordinator

variable {s : Coordinator} {request : TrafficRequest} {subject : TrafficSubject}
variable {admission : Admission} {now : Int64}

/- The admission by every rule before the deadline. -/
def undatedAdmission (s : Coordinator) (request : TrafficRequest) (subject : TrafficSubject)
    (now : Int64) : Except Refusal Admission := do
  let opened := ExplanationLog.add [] .authorityBinding s.epoch.operand s.policy.generation.operand
  let log ← s.checkAuthority request opened
  let found ← s.resolveSubject request subject log
  let classified ← s.classify request found.1 found.2
  let ruled ← s.checkPolicyRule classified
  let placed ← s.checkTopology request ruled now
  let agreed ← s.checkSloContract request subject placed
  let routed ← s.checkRoute request subject agreed
  s.checkModel request routed

theorem undatedAdmission_resolves
    (hPassed : s.undatedAdmission request subject now = .ok admission) :
    s.Resolves request subject admission.subject := by
  unfold undatedAdmission at hPassed
  simp only [Except.bind_eq_ok_iff] at hPassed
  rcases hPassed with ⟨log, -, found, hFound, classified, hClassified, ruled, hRuled, placed,
    hPlaced, agreed, hAgreed, routed, hRouted, hModelled⟩
  rcases checkSloContract_ok hAgreed with ⟨rfl, -⟩
  rcases checkRoute_ok hRouted with ⟨rfl, -⟩
  rcases checkModel_ok hModelled with ⟨rfl, -⟩
  rw [(checkTopology_ok hPlaced).1.1, (checkPolicyRule_ok hRuled).1.1, classify_ok hClassified]
  exact resolveSubject_ok hFound

theorem admissionOf_eq (s : Coordinator) (request : TrafficRequest) (subject : TrafficSubject)
    (now : Int64) :
    s.admissionOf request subject now =
      s.undatedAdmission request subject now >>= fun admission =>
        s.checkDeadline request subject admission now := by
  simp only [undatedAdmission, admissionOf, bind_assoc]

/- A rule defers the class and the guard does not admit it. -/
def keepsWaiting (s : Coordinator) (request : TrafficRequest) (subject : TrafficSubject)
    (effective : TrafficClass) (now : Int64) (victim : Nat) : Bool :=
  let noted := s.noted subject effective now victim
  (s.deferReason request effective now).isSome &&
    !deferExhausted (s.policy.rule effective) noted.1 (noted.2.firstDefer subject effective now) now

/- Admitted traffic is permitted unless it keeps waiting. -/
theorem evaluate_admitted (victim : Nat) (hSubject : request.subject = some subject)
    (hAdmitted : s.admissionOf request subject now = .ok admission) :
    let decision := (s.evaluate request now victim).1
    decision.outcome ≠ .rejected ∧
      decision.permitsTraffic = !s.keepsWaiting request subject admission.effective now victim := by
  have hVerdict := evaluate_verdict s request now victim
  intro decision
  change Verdict s request now victim decision _ at hVerdict
  generalize decision = answer at hVerdict ⊢
  generalize (s.evaluate request now victim).2.waiting = after at hVerdict
  have hKnown {other : TrafficSubject} {found : Admission} (hOther : request.subject = some other)
      (hFound : s.admissionOf request other now = .ok found) :
      other = subject ∧ found = admission := by
    cases hSubject.symm.trans hOther
    cases hAdmitted.symm.trans hFound
    exact ⟨rfl, rfl⟩
  have hServed (hPermits : answer.permitsTraffic = true) : answer.outcome ≠ .rejected := by
    intro hRejected
    rw [Decision.permitsTraffic, hRejected] at hPermits
    cases hPermits
  cases hVerdict with
  | rejected _ hRefused =>
    rw [hSubject, Option.getD_some, hAdmitted] at hRefused
    cases hRefused
  | granted _ _ hOther hFound hFree hPermits =>
    rcases hKnown hOther hFound with ⟨rfl, rfl⟩
    refine ⟨hServed hPermits, ?_⟩
    rw [hPermits, keepsWaiting, hFree]
    rfl
  | guarded _ _ _ hOther hFound _ hExhausted hPermits =>
    rcases hKnown hOther hFound with ⟨rfl, rfl⟩
    refine ⟨hServed hPermits, ?_⟩
    simp only [hPermits, keepsWaiting, hExhausted, Bool.not_true, Bool.and_false, Bool.not_false]
  | deferred _ _ hOther hFound hWaits hSparse hOutcome =>
    rcases hKnown hOther hFound with ⟨rfl, rfl⟩
    simp only [Decision.permitsTraffic, hOutcome, keepsWaiting, hWaits, hSparse]
    exact ⟨by decide, rfl⟩

/- The deadline is the last rule that can refuse traffic. -/
theorem evaluate_dated (victim : Nat) (hSubject : request.subject = some subject)
    (hPassed : s.undatedAdmission request subject now = .ok admission) :
    let decision := (s.evaluate request now victim).1
    if (s.admittedDeadline request subject admission.subject now).expiredAt now then
      decision.outcome = .rejected ∧ decision.reason = .rejectedDeadlineExpired
    else
      decision.outcome ≠ .rejected ∧
        decision.permitsTraffic =
          !s.keepsWaiting request subject admission.effective now victim := by
  have hAdmission :
      s.admissionOf request subject now = s.checkDeadline request subject admission now := by
    rw [admissionOf_eq, hPassed]
    rfl
  have hSet (deadline : Instant) :
      (deadline.isSet && deadline.expiredAt now) = deadline.expiredAt now := by
    rw [Instant.expiredAt, ← Bool.and_assoc, Bool.and_self]
  intro decision
  rw [checkDeadline, hSet] at hAdmission
  change _ = if (s.admittedDeadline request subject admission.subject now).expiredAt now then _
    else _ at hAdmission
  split
  · rename_i hExpired
    rw [if_pos hExpired] at hAdmission
    simp only [decision, evaluate, hSubject, Option.getD_some, hAdmission]
    exact ⟨rfl, rfl⟩
  · rename_i hOpen
    rw [if_neg hOpen] at hAdmission
    -- A missing deadline only degrades the admission.
    split at hAdmission
    · have hDegraded := evaluate_admitted victim hSubject hAdmission
      exact hDegraded
    · exact evaluate_admitted victim hSubject hAdmission

---
-- The Deadline Of A Contract
---

/- The request names no deadline of its own. -/
def Undated (request : TrafficRequest) : Prop :=
  request.deadline.isSet = false ∧ request.deadlineAfterNanos = 0

/- When the budget of the contract is used up. -/
def budgetEnd (record : RequestRecord) (contract : SloContract) : Int :=
  record.registeredAtNanos.toInt + contract.tailLatencyBudgetNanos.toNat

theorem explicitDeadline_of_undated (hUndated : Undated request) :
    explicitDeadline request now = request.deadline := by
  unfold explicitDeadline
  rw [hUndated.2, if_neg (by simp)]

/- The derived deadline is exact for a range of budgets. -/
theorem deadlineOf_is_iff {record : RequestRecord} {contract : SloContract}
    (hUndated : Undated request) (hBudget : contract.tailLatencyBudgetNanos ≠ 0) :
    (deadlineOf request (some contract) record.registeredAtNanos now).Is
        (budgetEnd record contract) ↔
      0 < record.registeredAtNanos ∧ budgetEnd record contract < 2 ^ 63 := by
  have hPositive := UInt64.pos_iff_ne_zero.mpr hBudget
  unfold deadlineOf
  simp only [explicitDeadline_of_undated hUndated, hUndated.1, hPositive, decide_true,
    Bool.true_and, decide_eq_true_eq, Bool.false_eq_true, if_false]
  split
  · rename_i hRegistered
    rw [budgetEnd, Instant.is_add_iff _ hRegistered]
    exact (and_iff_right hRegistered).symm
  · rename_i hUnregistered
    constructor
    · intro hIs
      cases hUndated.1.symm.trans hIs.1
    · exact fun hBoth => (hUnregistered hBoth.1).elim

/-
  The deadline that a contract gives its request is exact if
  and only if the request was registered at a positive time
  and the sum is in range. Then the traffic is refused as
  expired exactly when the sum is reached.
-/
theorem slo_deadline_exact (s : Coordinator) {record : RequestRecord} {contract : SloContract}
    (hSubject : request.subject = some subject) (hKind : subject.kind = .serving)
    (hUndated : Undated request)
    (hRecord : s.ledger.snapshotRequest subject.request = some record)
    (hContract : s.sloContracts.lookup subject.request = some contract)
    (hBudget : contract.tailLatencyBudgetNanos ≠ 0) :
    ((∀ now, (deadlineOf request (some contract) record.registeredAtNanos now).Is
          (budgetEnd record contract)) ↔
        0 < record.registeredAtNanos ∧ budgetEnd record contract < 2 ^ 63) ∧
      (0 < record.registeredAtNanos ∧ budgetEnd record contract < 2 ^ 63 →
        ∀ now victim admission, s.undatedAdmission request subject now = .ok admission →
          ((s.evaluate request now victim).1.outcome = .rejected ∧
              (s.evaluate request now victim).1.reason = .rejectedDeadlineExpired ↔
            budgetEnd record contract ≤ now.toInt)) := by
  refine ⟨?_, ?_⟩
  · constructor
    · exact fun hIs => (deadlineOf_is_iff hUndated hBudget).mp (hIs 0)
    · exact fun hRange now => (deadlineOf_is_iff hUndated hBudget).mpr hRange
  · intro hRange now victim admission hPassed
    have hIs : (s.admittedDeadline request subject admission.subject now).Is
        (budgetEnd record contract) := by
      have hResolves := undatedAdmission_resolves hPassed
      generalize admission.subject = resolved at hResolves ⊢
      cases hResolves with
      | transfer _ hOther => cases hKind.symm.trans hOther
      | serving held _ _ hHeld =>
        cases hRecord.symm.trans hHeld
        rw [admittedDeadline, sloContractOf, hContract]
        exact (deadlineOf_is_iff hUndated hBudget).mpr hRange
    have hDated := evaluate_dated victim hSubject hPassed
    rw [← hIs.expiredAt_iff]
    split at hDated
    · rename_i hExpired
      exact iff_of_true hDated hExpired
    · rename_i hOpen
      exact iff_of_false (fun hBoth => hDated.1 hBoth.1) hOpen

/- A request registered at a time, with a budget. -/
def budgetOps (registered : Int64) (budget : UInt64) : List Op :=
  [ .registerRequest ⟨0, 1⟩ registered,
    .registerAttempt ⟨0, 1⟩ ⟨0, 2⟩ 0 2,
    .advanceStage ⟨0, 1⟩ ⟨0, 2⟩ .admitted 3,
    .registerSloContract ⟨0, 1⟩ budget 1000 1,
    .issueRouteDecision ⟨0, 1⟩ ⟨0, 2⟩ 1 false false ]

theorem slo_deadline_exact_ingress :
    let s := sampleStart.steps (budgetOps 1 1000)
    (s.evaluate ingressTraffic 1001 0).1.outcome = .rejected ∧
      (s.evaluate ingressTraffic 1001 0).1.reason = .rejectedDeadlineExpired := by
  intro s
  have hRegistered :
      (s.ledger.snapshotRequest ⟨0, 1⟩).map RequestRecord.registeredAtNanos = some 1 := by
    decide
  have hHeld :
      (s.sloContracts.lookup ⟨0, 1⟩).map SloContract.tailLatencyBudgetNanos = some 1000 := by
    decide
  have hPasses :
      (s.undatedAdmission ingressTraffic (ingressTraffic.subject.getD {}) 1001).toOption.isSome =
        true := by
    decide
  rcases Option.map_eq_some_iff.mp hRegistered with ⟨record, hRecord, hTime⟩
  rcases Option.map_eq_some_iff.mp hHeld with ⟨contract, hContract, hBudget⟩
  have hSum : budgetEnd record contract = 1001 := by
    rw [budgetEnd, hTime, hBudget]
    rfl
  cases hPassed : s.undatedAdmission ingressTraffic (ingressTraffic.subject.getD {}) 1001 with
  | error refusal =>
    rw [hPassed] at hPasses
    cases hPasses
  | ok admission =>
    refine ((slo_deadline_exact s rfl rfl ⟨rfl, rfl⟩ hRecord hContract
      (by rw [hBudget]; decide)).2 ⟨by rw [hTime]; decide, by rw [hSum]; decide⟩ 1001 0 admission
        hPassed).mpr ?_
    rw [hSum]
    decide

/-
  The largest budget ends before the request was registered,
  and a request registered at time zero never expires.
-/
theorem slo_deadline_wrapped :
    let s := sampleStart.steps (budgetOps 1 (-1))
    let t := sampleStart.steps (budgetOps 0 1000)
    (Reachable sampleGenerator {} s ∧
        (s.sloContracts.lookup ⟨0, 1⟩).map SloContract.tailLatencyBudgetNanos = some (-1) ∧
        (s.evaluate ingressTraffic 5 0).1.reason = .rejectedDeadlineExpired) ∧
      Reachable sampleGenerator {} t ∧
        (t.sloContracts.lookup ⟨0, 1⟩).map SloContract.tailLatencyBudgetNanos = some 1000 ∧
        (t.evaluate ingressTraffic 2000 0).1.permitsTraffic = true := by
  intro s t
  exact ⟨⟨sampleStart_reachable _, by decide, by decide⟩, sampleStart_reachable _,
    by decide, by decide⟩

---
-- The Deadline Of A Transfer
---

/-
  The deadline the transfer was registered with, or the one
  its owner's contract gives a request without its own, has
  been reached.
-/
def Overdue (s : Coordinator) (request : TrafficRequest) (id : StateTransferId) (now : Int64) :
    Prop :=
  ∃ transfer, s.transfers.lookup id = some transfer ∧
    (transfer.deadline.expiredAt now = true ∨
      Undated request ∧
        ∃ record contract,
          s.ledger.snapshotRequest transfer.request = some record ∧
            s.sloContracts.lookup transfer.request = some contract ∧
            budgetEnd record contract ≤ now.toInt)

/- The deadline of a transfer is the one its request names. -/
theorem admittedDeadline_transfer (transfer : TransferRecord) :
    s.admittedDeadline request subject (.transfer transfer) now = explicitDeadline request now := by
  unfold admittedDeadline deadlineOf
  cases s.sloContractOf subject (.transfer transfer) with
  | none => simp
  | some contract => simp [ResolvedSubject.registeredAtNanos]

/-
  A rule before the deadline refuses the traffic, or one
  after it defers it and the guard does not admit it.
-/
def Withheld (s : Coordinator) (request : TrafficRequest) (subject : TrafficSubject)
    (now : Int64) (victim : Nat) : Prop :=
  ∀ admission, s.undatedAdmission request subject now = .ok admission →
    s.keepsWaiting request subject admission.effective now victim = true

theorem evaluate_transfer_refused_iff (victim : Nat) (hSubject : request.subject = some subject)
    (hKind : subject.kind = .transfer) :
    (s.evaluate request now victim).1.permitsTraffic = false ↔
      (explicitDeadline request now).expiredAt now = true ∨
        s.Withheld request subject now victim := by
  cases hPassed : s.undatedAdmission request subject now with
  | error refusal =>
    have hRefused : s.admissionOf request subject now = .error refusal := by
      rw [admissionOf_eq, hPassed]
      rfl
    refine iff_of_true ?_ (.inr fun admission hOk => ?_)
    · simp only [evaluate, hSubject, Option.getD_some, hRefused]
      rfl
    · cases hPassed.symm.trans hOk
  | ok admission =>
    have hDated := evaluate_dated victim hSubject hPassed
    have hResolves := undatedAdmission_resolves hPassed
    have hWithheld : s.Withheld request subject now victim ↔
        s.keepsWaiting request subject admission.effective now victim = true := by
      rw [Withheld, hPassed]
      simp
    rw [hWithheld]
    generalize admission.subject = resolved at hResolves hDated
    cases hResolves with
    | serving _ _ hOther => cases hKind.symm.trans hOther
    | transfer found =>
      rw [admittedDeadline_transfer] at hDated
      split at hDated
      · rename_i hExpired
        refine iff_of_true ?_ (.inl hExpired)
        rw [Decision.permitsTraffic, hDated.1]
        rfl
      · rename_i hOpen
        rw [hDated.2, Bool.not_eq_false', or_iff_right hOpen]

/-
  A transfer is kept from running once the deadline that its
  request names is reached. An overdue one is kept from
  running if and only if that deadline is reached as well or
  another rule withholds the traffic.
-/
theorem overdue_transfer_refused (s : Coordinator) (victim : Nat)
    (hSubject : request.subject = some subject) (hKind : subject.kind = .transfer) :
    ((explicitDeadline request now).expiredAt now = true →
        (s.evaluate request now victim).1.permitsTraffic = false) ∧
      ((s.Overdue request subject.transfer now →
          (s.evaluate request now victim).1.permitsTraffic = false) ↔
        (s.Overdue request subject.transfer now →
          (explicitDeadline request now).expiredAt now = true ∨
            s.Withheld request subject now victim)) := by
  rw [evaluate_transfer_refused_iff victim hSubject hKind]
  exact ⟨.inl, Iff.rfl⟩

def datedOps (budget : UInt64) (deadline : Instant) : List Op :=
  generationOps ++ budgetOps 1 budget ++
    [.registerTransfer { ownedRegistration with deadline } 4]

theorem overdue_transfer_refused_dated :
    let s := sampleStart.steps (datedOps 1000 ⟨5⟩)
    let request := { ownedTraffic with deadline := ⟨5⟩ }
    s.Overdue request ⟨0, 9⟩ 6 ∧ (s.evaluate request 6 0).1.permitsTraffic = false := by
  intro s request
  have hHeld : (s.transfers.lookup ⟨0, 9⟩).map TransferRecord.deadline = some ⟨5⟩ := by decide
  rcases Option.map_eq_some_iff.mp hHeld with ⟨transfer, hTransfer, hDeadline⟩
  have hOverdue : s.Overdue request ⟨0, 9⟩ 6 := by
    refine ⟨transfer, hTransfer, .inl ?_⟩
    rw [hDeadline]
    decide
  exact ⟨hOverdue,
    (overdue_transfer_refused s 0 rfl rfl).2.mpr (fun _ => .inl (by decide)) hOverdue⟩

/- Past either deadline, the transfer is authorized. -/
theorem overdue_transfer_permitted :
    let s := sampleStart.steps (datedOps 1000 ⟨5⟩)
    let t := sampleStart.steps (datedOps 2 .unset)
    (Reachable sampleGenerator {} s ∧
        (s.transfers.lookup ⟨0, 9⟩).map TransferRecord.deadline = some ⟨5⟩ ∧
        (s.evaluate ownedTraffic 6 0).1.permitsTraffic = true) ∧
      Reachable sampleGenerator {} t ∧
        (t.transfers.lookup ⟨0, 9⟩).map TransferRecord.request = some ⟨0, 1⟩ ∧
        (t.ledger.snapshotRequest ⟨0, 1⟩).map RequestRecord.registeredAtNanos = some 1 ∧
        (t.sloContracts.lookup ⟨0, 1⟩).map SloContract.tailLatencyBudgetNanos = some 2 ∧
        (t.evaluate ownedTraffic 6 0).1.permitsTraffic = true := by
  intro s t
  exact ⟨⟨sampleStart_reachable _, by decide, by decide⟩, sampleStart_reachable _,
    by decide, by decide, by decide, by decide⟩

end Coordinator

end TrafficFabric
