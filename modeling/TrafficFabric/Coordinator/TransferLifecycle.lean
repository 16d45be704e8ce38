import TrafficFabric.Coordinator.Lifetimes

/-
  The life of a transfer from its registration to its end:
  what it was registered with never changes, an ending is
  final unless the transfer is authorized or abandoned once
  more, and a completion is checked against what was
  registered and not against what was granted.
-/

---
-- Registered Terms
---

namespace TrafficFabric

open TransferRecord

/- What a transfer was registered with. -/
def TransferRecord.terms (transfer : TransferRecord) : TransferRecord :=
  { transfer with
    verifiedBytes := 0
    state := .unknown
    terminalReason := .unknown
    flow := .nil }

theorem TransferRecord.terms_abandonOwned (transfer : TransferRecord) :
    transfer.abandonOwned.terms = transfer.terms := by
  unfold abandonOwned
  split
  · rfl
  · rfl

namespace Coordinator

variable {s : Coordinator} {op : Op} {id : StateTransferId} {transfer : TransferRecord}
variable {after : Option TransferRecord}

theorem exists_of_unbound {unbound : TransferRecord}
    (hUnbound : s.unboundTransfer id = some unbound) :
    ∃ transfer, s.transfers.lookup id = some transfer ∧ transfer.unbound = unbound :=
  Option.map_eq_some_iff.mp hUnbound

/- A change keeps what was registered. -/
theorem TransferChange.terms {old : TransferRecord}
    (hChange : TransferChange s id op (some old) after) :
    ∃ next, after = some next ∧ next.terms = old.terms := by
  cases hChange with
  | ended => exact ⟨_, rfl, old.terms_abandonOwned⟩
  | _ => exact ⟨_, rfl, rfl⟩

theorem step_terms (hTransfer : s.transfers.lookup id = some transfer) (op : Op) :
    ∃ next, (s.step op).transfers.lookup id = some next ∧ next.terms = transfer.terms := by
  have hChange := step_transferChange s id op
  rw [unboundTransfer_of_lookup hTransfer] at hChange
  rcases hChange.terms with ⟨unbound, hUnbound, hTerms⟩
  rcases exists_of_unbound hUnbound with ⟨next, hNext, rfl⟩
  exact ⟨next, hNext, hTerms⟩

theorem steps_terms (hTransfer : s.transfers.lookup id = some transfer) (ops : List Op) :
    ∃ next, (s.steps ops).transfers.lookup id = some next ∧ next.terms = transfer.terms := by
  induction ops generalizing s transfer with
  | nil => exact ⟨transfer, hTransfer, rfl⟩
  | cons op rest ih =>
    rcases step_terms hTransfer op with ⟨middle, hMiddle, hSame⟩
    rcases ih hMiddle with ⟨next, hNext, hTerms⟩
    exact ⟨next, hNext, hTerms.trans hSame⟩

/- What a permitted transfer rests on. -/
theorem grounds_of_permits {request : TrafficRequest} {now : Int64} {victim : Nat}
    (hSubject : Authorizes id request)
    (hPermits : (s.evaluate request now victim).1.permitsTraffic = true) :
    ∃ subject rule held, request.subject = some subject ∧
      subject.transfer = id ∧ s.TransferGrounds request subject rule held := by
  rcases hSubject with ⟨subject, hSubject, hKind, hId⟩
  rcases (evaluate_grounds hPermits).transfer hSubject hKind with ⟨held, hHeld⟩
  exact ⟨subject, _, held, hSubject, hId, hHeld⟩

end Coordinator

---
-- Final Endings
---

def TransferRecord.ending (transfer : TransferRecord) : TransferState × ReasonCode × UInt64 :=
  (transfer.state, transfer.terminalReason, transfer.verifiedBytes)

theorem TransferRecord.live_of_underWay {transfer : TransferRecord}
    (hUnderWay : transfer.isUnderWay = true) : transfer.state.isTerminal = false := by
  unfold isUnderWay at hUnderWay
  rw [Bool.or_eq_true, decide_eq_true_eq, decide_eq_true_eq] at hUnderWay
  rcases hUnderWay with hState | hState
  · rw [hState]
    rfl
  · rw [hState]
    rfl

/- The operation would settle the transfer once more. -/
def Op.Resettles (id : StateTransferId) (transfer : TransferRecord) : Op → Prop
| .authorizeTransfer request _ _ => Coordinator.Authorizes id request
| .abandonTransfer other _ => other = id ∧ transfer.state ≠ .completed
| _ => False

namespace Coordinator

/- No transfer that has ended is settled once more. -/
def LeavesEnded (s : Coordinator) (label : Label) : Prop :=
  ∀ op id transfer,
    label = .op op → s.transfers.lookup id = some transfer → transfer.state.isTerminal = true →
    ¬ op.Resettles id transfer

variable {mt : Generator} {s t : Coordinator} {op : Op} {id : StateTransferId}
variable {transfer : TransferRecord} {after : Option TransferRecord}

theorem TransferChange.ending {old : TransferRecord}
    (hChange : TransferChange s id op (some old) after) (hDone : old.state.isTerminal = true)
    (hOp : ¬ op.Resettles id old) : after = some old := by
  cases hChange with
  | same => rfl
  | granted _ _ _ _ hSubject | refused _ _ _ _ _ hSubject => exact (hOp hSubject).elim
  | started _ _ hState =>
    rw [hState] at hDone
    cases hDone
  | completed _ _ hUnderWay | mismatched _ _ hUnderWay =>
    rw [live_of_underWay hUnderWay] at hDone
    cases hDone
  | abandoned _ _ hState => exact (hOp ⟨rfl, hState⟩).elim
  | ended =>
    unfold abandonOwned
    rw [if_pos hDone]

theorem step_ending (hTransfer : s.transfers.lookup id = some transfer)
    (hDone : transfer.state.isTerminal = true) (hLeaves : s.LeavesEnded (.op op)) :
    ∃ next, (s.step op).transfers.lookup id = some next ∧ next.ending = transfer.ending := by
  have hChange := step_transferChange s id op
  rw [unboundTransfer_of_lookup hTransfer] at hChange
  rcases exists_of_unbound (hChange.ending hDone (hLeaves op id transfer rfl hTransfer hDone)) with
    ⟨next, hNext, hSame⟩
  have hEnding := congrArg ending hSame
  exact ⟨next, hNext, hEnding⟩

/-
  From any state on, operations that settle no transfer
  again leave every ending as it is.
-/
theorem ended_transfer_absorbing (ops : List Op)
    (hRun : Run (Guarded LeavesEnded (Transition mt)) s (ops.map Label.op) t)
    (hTransfer : s.transfers.lookup id = some transfer) (hDone : transfer.state.isTerminal = true) :
    ∃ next, t.transfers.lookup id = some next ∧
      next.state = transfer.state ∧ next.terminalReason = transfer.terminalReason ∧
      next.verifiedBytes = transfer.verifiedBytes := by
  have hEnding : ∃ next, t.transfers.lookup id = some next ∧
        next.ending = transfer.ending := by
    induction ops generalizing s transfer with
    | nil =>
      cases hRun
      exact ⟨transfer, hTransfer, rfl⟩
    | cons op rest ih =>
      cases hRun with
      | cons hStep hRest =>
        rcases hStep with ⟨hLeaves, hStep⟩
        cases hStep
        rcases step_ending hTransfer hDone hLeaves with ⟨middle, hMiddle, hSame⟩
        have hState : middle.state = transfer.state := congrArg Prod.fst hSame
        rcases ih hRest hMiddle (hState ▸ hDone) with ⟨next, hNext, hLater⟩
        exact ⟨next, hNext, hLater.trans hSame⟩
  rcases hEnding with ⟨next, hNext, hSame⟩
  have hParts := Prod.ext_iff.mp hSame
  have hRest := Prod.ext_iff.mp hParts.2
  exact ⟨next, hNext, hParts.1, hRest.1, hRest.2⟩

/- Whether an operation is seen to settle nothing again. -/
def plainlyLeaves (s : Coordinator) : Op → Bool
| .authorizeTransfer request _ _ =>
  request.subject.all (fun subject =>
    (s.transfers.lookup subject.transfer).all (fun transfer => !transfer.state.isTerminal))
| .abandonTransfer id _ => (s.transfers.lookup id).all (fun transfer => !transfer.state.isTerminal)
| _ => true

theorem leavesEnded_of_plainlyLeaves (s : Coordinator) (op : Op)
    (hPlain : plainlyLeaves s op = true) : s.LeavesEnded (.op op) := by
  rintro other id transfer hSame hTransfer hDone hResettles
  cases hSame
  cases op with
  | authorizeTransfer request now victim =>
    rcases hResettles with ⟨subject, hSubject, -, rfl⟩
    simp [plainlyLeaves, hSubject, hTransfer, hDone] at hPlain
  | abandonTransfer other reason =>
    rcases hResettles with ⟨rfl, -⟩
    simp [plainlyLeaves, hTransfer, hDone] at hPlain
  | _ => exact hResettles

/- A transfer is carried to its end. -/
def finishedOps : List Op :=
  timelyOps ++ [.completeTransfer ⟨0, 9⟩ 0]

/- Operations asked of a transfer after it completed. -/
def afterwards : List Op :=
  [ .startTransfer ⟨0, 9⟩ { transfer := ⟨0, 9⟩, authorized := true },
    .completeTransfer ⟨0, 9⟩ 7,
    .cancelRequest ⟨0, 1⟩ .cancelled 8 ]

theorem ended_transfer_absorbing_afterwards :
    let s := sampleStart.steps finishedOps
    ∃ transfer next,
      s.transfers.lookup ⟨0, 9⟩ = some transfer ∧
        transfer.state = .completed ∧ (s.steps afterwards).transfers.lookup ⟨0, 9⟩ = some next ∧
        next.state = .completed := by
  intro s
  have hState : (s.transfers.lookup ⟨0, 9⟩).map state = some .completed := by decide
  rcases Option.map_eq_some_iff.mp hState with ⟨transfer, hTransfer, hCompleted⟩
  rcases ended_transfer_absorbing afterwards
    (run_passes sampleGenerator plainlyLeaves leavesEnded_of_plainlyLeaves s afterwards (by decide))
    hTransfer (by rw [hCompleted]; rfl) with ⟨next, hNext, hSame, -⟩
  exact ⟨transfer, next, hTransfer, hCompleted, hNext, hSame.trans hCompleted⟩

/-
  A completed transfer is authorized again. It is rejected as
  terminal already, and is refused from then on.
-/
theorem completed_transfer_refused :
    let s := sampleStart.steps finishedOps
    let t := s.step (.authorizeTransfer ownedTraffic 9 0)
    Reachable sampleGenerator {} s ∧
      (s.transfers.lookup ⟨0, 9⟩).map ending = some (.completed, .committedCompletion, 0) ∧
      (t.transfers.lookup ⟨0, 9⟩).map ending =
        some (.refused, .rejectedTransferAlreadyTerminal, 0) := by
  intro s t
  exact ⟨sampleStart_reachable _, by decide, by decide⟩

---
-- Deferred Authorizations
---

section Deferred

variable {request : TrafficRequest} {now : Int64} {victim : Nat}

/- A transfer is granted on a permission only. -/
theorem Grants.permits (hGrants : s.Grants request now victim) :
    (s.evaluate request now victim).1.permitsTraffic = true := by
  rcases hGrants with ⟨authorization, hOk, hAuthorized⟩
  have hAuthorizing := authorizeTransfer_authorizing s request now victim
  generalize s.authorizeTransfer request now victim = answer at hAuthorizing hOk
  cases hAuthorizing with
  | misaddressed | missing => cases hOk
  | unknown | denied =>
    cases hOk
    exact hAuthorized
  | declined =>
    cases hOk
    cases hAuthorized
  | granted _ _ _ _ _ hPermits => exact hPermits

theorem live_of_permits (hSubject : Authorizes id request)
    (hPermits : (s.evaluate request now victim).1.permitsTraffic = true)
    (hTransfer : s.transfers.lookup id = some transfer) : transfer.state.isTerminal = false := by
  rcases grounds_of_permits hSubject hPermits with ⟨subject, rule, held, -, rfl, hGrounds⟩
  cases hTransfer.symm.trans hGrounds.retained
  exact hGrounds.live

theorem step_ended (hTransfer : s.transfers.lookup id = some transfer)
    (hDone : transfer.state.isTerminal = true) (op : Op) :
    ∃ next, (s.step op).transfers.lookup id = some next ∧ next.state.isTerminal = true := by
  have hChange := step_transferChange s id op
  rw [unboundTransfer_of_lookup hTransfer] at hChange
  have hAfter : ∃ next, (s.step op).unboundTransfer id = some next ∧
        next.state.isTerminal = true := by
    by_cases hOp : op.Resettles id transfer
    · generalize (s.step op).unboundTransfer id = after at hChange ⊢
      cases hChange with
      | same => exact ⟨_, rfl, hDone⟩
      | granted _ _ _ _ hSubject hPermits =>
        rw [live_of_permits hSubject hPermits hTransfer] at hDone
        cases hDone
      | refused | abandoned => exact ⟨_, rfl, rfl⟩
      | ended _ _ _ hEnds =>
        cases op with
        | authorizeTransfer | abandonTransfer => cases hEnds
        | _ => exact hOp.elim
      | _ => exact hOp.elim
    · exact ⟨_, hChange.ending hDone hOp, hDone⟩
  rcases hAfter with ⟨unbound, hUnbound, hEnded⟩
  rcases exists_of_unbound hUnbound with ⟨next, hNext, rfl⟩
  exact ⟨next, hNext, hEnded⟩

theorem steps_ended (hTransfer : s.transfers.lookup id = some transfer)
    (hDone : transfer.state.isTerminal = true) (ops : List Op) :
    ∃ next, (s.steps ops).transfers.lookup id = some next ∧ next.state.isTerminal = true := by
  induction ops generalizing s transfer with
  | nil => exact ⟨transfer, hTransfer, hDone⟩
  | cons op rest ih =>
    rcases step_ended hTransfer hDone op with ⟨middle, hMiddle, hEnded⟩
    exact ih hMiddle hEnded

theorem authorizeTransfer_denied (hSubject : Authorizes id request)
    (hDenied : (s.evaluate request now victim).1.permitsTraffic = false)
    (hTransfer : s.transfers.lookup id = some transfer) :
    ∃ next, (s.step (.authorizeTransfer request now victim)).transfers.lookup id = some next ∧
        next.state = .refused := by
  rcases hSubject with ⟨subject, hSubject, hKind, rfl⟩
  have hHeld := evaluate_unbound s subject.transfer request now victim
  rw [unboundTransfer_of_lookup hTransfer] at hHeld
  have hAuthorizing := authorizeTransfer_authorizing s request now victim
  simp only [step]
  generalize s.authorizeTransfer request now victim = answer at hAuthorizing ⊢
  cases hAuthorizing with
  | misaddressed _ hOther => exact (hOther subject hSubject hKind).elim
  | unknown other hOther _ _ hUnknown =>
    cases hSubject.symm.trans hOther
    rw [evaluate_transfers, hTransfer] at hUnknown
    cases hUnknown
  | denied other _ hOther =>
    cases hSubject.symm.trans hOther
    have hClosed := closeTransfer_settled
      (s.evaluate request now victim).2 subject.transfer .refused
      (s.evaluate request now victim).1.reason
    rw [hHeld] at hClosed
    rcases exists_of_unbound hClosed with ⟨next, hNext, hSame⟩
    exact ⟨next, hNext, (congrArg state hSame :)⟩
  | missing _ _ _ _ hPermits | declined _ _ _ _ _ hPermits | granted _ _ _ _ _ hPermits =>
    exact (Bool.eq_false_iff.mp hDenied hPermits).elim

/-
  An authorization whose evaluation is a deferral refuses a
  transfer that had not ended, and no authorization of the
  transfer is granted from then on, whatever is done before
  it.
-/
theorem deferred_transfer_refused (hSubject : Authorizes id request)
    (hDeferred : (s.evaluate request now victim).1.outcome = .deferred) :
    (∃ transfer, s.transfers.lookup id = some transfer ∧
        transfer.state.isTerminal = false) ∧
      (s.step (.authorizeTransfer request now victim)).transferState id = some .refused ∧
      ∀ ops later at' choice,
        Authorizes id later →
        ¬ ((s.step (.authorizeTransfer request now victim)).steps ops).Grants later at' choice := by
  have hLive : s.TransferLive id := by
    rcases hSubject with ⟨subject, hSubject, hKind, rfl⟩
    rcases admitted_of_deferred hDeferred with ⟨named, admission, hNamed, hAdmitted⟩
    cases hSubject.symm.trans hNamed
    rcases (admissionOf_grounds hSubject hAdmitted).transfer hSubject hKind with
      ⟨transfer, hTransfer⟩
    exact ⟨transfer, hTransfer.retained, hTransfer.live⟩
  rcases hLive with ⟨transfer, hTransfer, hOpen⟩
  rcases authorizeTransfer_denied hSubject (permitsTraffic_of_deferred hDeferred) hTransfer with
    ⟨next, hNext, hRefused⟩
  refine ⟨⟨transfer, hTransfer, hOpen⟩, ?_, ?_⟩
  · rw [transferState, hNext, Option.map_some, hRefused]
  · intro ops later at' choice hLater hGrants
    have hDone : next.state.isTerminal = true := by
      rw [hRefused]
      rfl
    rcases steps_ended hNext hDone ops with ⟨ended, hEnded, hOver⟩
    rw [live_of_permits hLater hGrants.permits hEnded] at hOver
    cases hOver

/- State transfers yield, and are guarded against waiting. -/
def guardedPolicy : PolicyConfig :=
  { PolicyConfig.canonicalDefaults ⟨1⟩ with
    rule := fun traffic =>
      if traffic = .stateTransfer then
        { PolicyConfig.canonicalRule .stateTransfer with
          reservedWeight := 0
          yieldsToLatency := true
          starvationProtected := true
          maxDeferCount := 2 }
      else PolicyConfig.canonicalRule traffic }

/- The transfer has its flow when congestion is measured. -/
def congestedTransferOps : List Op :=
  .applyPolicy guardedPolicy :: timelyOps ++
    [ .publishTopology
        { provenance := .measured
          nodeCount := 1
          queueDepth := 2
          congestionSignalled := true } 6 ]

theorem deferred_transfer_refused_congested :
    let s := sampleStart.steps congestedTransferOps
    (s.evaluate ownedTraffic 7 0).1.outcome = .deferred ∧
      ∀ ops,
        ¬ ((s.step (.authorizeTransfer ownedTraffic 7 0)).steps ops).Grants ownedTraffic 8 0 := by
  intro s
  have hDeferred : (s.evaluate ownedTraffic 7 0).1.outcome = .deferred := by decide +kernel
  have hSubject : Authorizes ⟨0, 9⟩ ownedTraffic := ⟨_, rfl, rfl, rfl⟩
  exact ⟨hDeferred, fun ops =>
    (deferred_transfer_refused hSubject hDeferred).2.2 ops ownedTraffic 8 0 hSubject⟩

/-
  The transfer has an open flow. Its authorization is
  deferred, the transfer is refused and the flow released;
  authorized again, as often as the guard asks for, it is
  refused.
-/
theorem deferred_transfer_ended :
    let s := sampleStart.steps congestedTransferOps
    let again := Op.authorizeTransfer ownedTraffic 7 0
    Reachable sampleGenerator {} s ∧
      s.policy.validate = .valid ∧ (s.policy.rule .stateTransfer).starvationProtected = true ∧
      (s.policy.rule .stateTransfer).maxDeferCount = 2 ∧ s.transferState ⟨0, 9⟩ = some .authorized ∧
      s.flows.size = 1 ∧ (s.evaluate ownedTraffic 7 0).1.outcome = .deferred ∧
      (s.step again).transferState ⟨0, 9⟩ = some .refused ∧ (s.step again).flows.size = 0 ∧
      ((s.steps [again, again, again]).authorizeTransfer ownedTraffic 7 0).1.toOption.map
          TransferAuthorization.authorized = some false := by
  intro s again
  refine ⟨sampleStart_reachable _, ?_⟩
  decide +kernel

end Deferred

---
-- Granted Integrity
---

/- From the state on, only the whole payload completes it. -/
def CompletesVerified (s : Coordinator) (id : StateTransferId) (payload : UInt64) : Prop :=
  ∀ ops bytes, ((s.steps ops).completeTransfer id bytes).1 = .ok () → bytes = payload

variable {request : TrafficRequest} {now : Int64} {victim : Nat}
variable {authorization : TransferAuthorization}

/- What a completion has checked. -/
theorem completeTransfer_verified {bytes : UInt64}
    (hTransfer : s.transfers.lookup id = some transfer)
    (hOk : (s.completeTransfer id bytes).1 = .ok ()) :
    bytes ≤ transfer.payloadBytes ∧
      (transfer.requiredIntegrity = .checksumAndVerify → bytes = transfer.payloadBytes) := by
  have hCompleting := completeTransfer_completing s id bytes
  generalize s.completeTransfer id bytes = answer at hCompleting hOk
  cases hCompleting with
  | refused | mismatched => cases hOk
  | completed held hHeld _ hRight =>
    rw [hTransfer] at hHeld
    cases hHeld
    unfold Mismatches at hRight
    rw [not_or] at hRight
    refine ⟨UInt64.not_lt.mp hRight.2, ?_⟩
    intro hVerify
    by_contra hDiffer
    exact hRight.1 ⟨hVerify, hDiffer⟩

/- A completion of nothing is checked by integrity alone. -/
theorem completeTransfer_nothing (hTransfer : s.transfers.lookup id = some transfer)
    (hState : transfer.state = .authorized)
    (hPlain : transfer.requiredIntegrity ≠ .checksumAndVerify) :
    (s.completeTransfer id 0).1 = .ok () := by
  have hFits : ¬ transfer.payloadBytes < 0 := UInt64.not_lt.mpr UInt64.zero_le
  unfold completeTransfer
  simp only [hTransfer, hState, hPlain, if_neg hFits, ne_eq, not_true_eq_false, false_and, if_false]

theorem authorizeTransfer_granted
    (hOk : (s.authorizeTransfer request now victim).1 = .ok authorization)
    (hAuthorized : authorization.authorized = true)
    (hTransfer : s.transfers.lookup authorization.transfer = some transfer) :
    ∃ granted,
      (s.step (.authorizeTransfer request now victim)).transfers.lookup authorization.transfer =
        some granted ∧
      granted.state = .authorized ∧ granted.terms = transfer.terms := by
  have hAuthorizing := authorizeTransfer_authorizing s request now victim
  simp only [step]
  generalize s.authorizeTransfer request now victim = answer at hAuthorizing hOk ⊢
  have hDenies (hDenied : (s.evaluate request now victim).1.permitsTraffic = false)
      (hTrue : (s.evaluate request now victim).1.permitsTraffic = true) : False := by
    rw [hDenied] at hTrue
    cases hTrue
  cases hAuthorizing with
  | misaddressed | missing => cases hOk
  | unknown _ _ _ hDenied | denied _ _ _ _ hDenied =>
    cases hOk
    exact (hDenies hDenied hAuthorized).elim
  | declined =>
    cases hOk
    cases hAuthorized
  | granted subject held flow _ _ _ hHeld =>
    cases hOk
    change s.transfers.lookup subject.transfer = some transfer at hTransfer
    have hOpened :=
      (openFlow_unbound (s.evaluate request now victim).2 subject.transfer
        (s.evaluate request now victim).1
        held.payloadBytes now).trans (evaluate_unbound s subject.transfer request now victim)
    have hAfter := markAuthorized_unbound
      ((s.evaluate request now victim).2.openFlow (s.evaluate request now victim).1
        held.payloadBytes now).2 subject.transfer flow
    rw [hOpened, unboundTransfer_of_lookup hTransfer] at hAfter
    rcases exists_of_unbound hAfter with ⟨granted, hGranted, hSame⟩
    exact ⟨granted, hGranted, (congrArg state hSame :),
      (congrArg terms hSame :)⟩

/-
  A transfer that was granted verification can complete with
  the registered payload only, whatever happens in between,
  if and only if its own registration asks for verification
  or there is nothing to verify.
-/
theorem granted_integrity_enforced
    (hOk : (s.authorizeTransfer request now victim).1 = .ok authorization)
    (hAuthorized : authorization.authorized = true)
    (hTransfer : s.transfers.lookup authorization.transfer = some transfer) :
    (authorization.integrity = .checksumAndVerify →
      (s.step (.authorizeTransfer request now
        victim)).CompletesVerified authorization.transfer transfer.payloadBytes) ↔
    (authorization.integrity = .checksumAndVerify →
      transfer.requiredIntegrity = .checksumAndVerify ∨ transfer.payloadBytes = 0) := by
  rcases authorizeTransfer_granted hOk hAuthorized hTransfer with ⟨granted, hGranted, hState, hSame⟩
  refine imp_congr_right ?_
  intro _
  constructor
  · intro hVerified
    by_cases hVerify : transfer.requiredIntegrity = .checksumAndVerify
    · exact .inl hVerify
    · refine .inr (hVerified [] 0 ?_).symm
      have hRequired := congrArg requiredIntegrity hSame
      refine completeTransfer_nothing hGranted hState ?_
      exact fun hSame => hVerify (hRequired.symm.trans hSame)
  · intro hEither ops bytes hCompleted
    rcases steps_terms hGranted ops with ⟨later, hLater, hLaterSame⟩
    have hTerms := hLaterSame.trans hSame
    have hPayload : later.payloadBytes = transfer.payloadBytes := (congrArg payloadBytes hTerms :)
    have hRequired : later.requiredIntegrity = transfer.requiredIntegrity :=
      (congrArg requiredIntegrity hTerms :)
    have hChecked := completeTransfer_verified hLater hCompleted
    rw [hPayload, hRequired] at hChecked
    rcases hEither with hVerify | hNothing
    · exact hChecked.2 hVerify
    · rw [hNothing] at hChecked ⊢
      exact UInt64.le_zero_iff.mp hChecked.1

/- A transfer with bytes to move, to be verified. -/
def verifiedRegistration : TransferRegistration :=
  { ownedRegistration with payloadBytes := 8 }

/- The same transfer, asking for checksums only. -/
def checksumRegistration : TransferRegistration :=
  { verifiedRegistration with requiredIntegrity := .checksum }

/- A live request owns a registered transfer. -/
def registeredOps (registration : TransferRegistration) : List Op :=
  generationOps ++ ingressOps ++ [.registerTransfer registration 4]

def granted (answer : Result TransferAuthorization) :
    Option (StateTransferId × Bool × IntegrityClass) :=
  answer.toOption.map (fun authorization =>
    (authorization.transfer, authorization.authorized, authorization.integrity))

/-
  Registered to be verified, the transfer completes with its
  whole payload only.
-/
theorem granted_integrity_enforced_verified :
    let s := sampleStart.steps (registeredOps verifiedRegistration)
    granted (s.authorizeTransfer ownedTraffic 5 0).1 = some (⟨0, 9⟩, true, .checksumAndVerify) ∧
      (s.step (.authorizeTransfer ownedTraffic 5 0)).CompletesVerified ⟨0, 9⟩ 8 := by
  intro s
  have hGranted :
      granted (s.authorizeTransfer ownedTraffic 5 0).1 =
        some (⟨0, 9⟩, true, .checksumAndVerify) := by
    decide
  have hHeld :
      (s.transfers.lookup ⟨0, 9⟩).map (fun transfer =>
          (transfer.payloadBytes, transfer.requiredIntegrity)) = some (8, .checksumAndVerify) := by
    decide
  refine ⟨hGranted, ?_⟩
  rcases Option.map_eq_some_iff.mp hHeld with ⟨transfer, hTransfer, hTerms⟩
  cases hOk : (s.authorizeTransfer ownedTraffic 5 0).1 with
  | error _ =>
    rw [hOk] at hGranted
    cases hGranted
  | ok authorization =>
    rw [hOk] at hGranted
    have hParts := Prod.ext_iff.mp (Option.some.inj hGranted)
    have hRest := Prod.ext_iff.mp hParts.2
    have hId : authorization.transfer = ⟨0, 9⟩ := hParts.1
    have hBytes := (Prod.ext_iff.mp hTerms).1
    simp only at hBytes
    have hEnforced := granted_integrity_enforced hOk hRest.1 (hId ▸ hTransfer)
    rw [← hId, ← hBytes]
    exact hEnforced.mpr (fun _ => .inl (Prod.ext_iff.mp hTerms).2) hRest.2

/-
  Registered for checksums, it is granted verification by the
  policy and completes with no byte verified.
-/
theorem granted_integrity_skipped :
    let s := sampleStart.steps (registeredOps checksumRegistration)
    let answer := s.authorizeTransfer ownedTraffic 5 0
    Reachable sampleGenerator {} s ∧
      granted answer.1 = some (⟨0, 9⟩, true, .checksumAndVerify) ∧
      (answer.2.transfers.lookup ⟨0, 9⟩).map payloadBytes = some 8 ∧
      (answer.2.completeTransfer ⟨0, 9⟩ 0).1 = .ok () := by
  intro s answer
  exact ⟨sampleStart_reachable _, by decide, by decide, by decide⟩

end Coordinator

end TrafficFabric
