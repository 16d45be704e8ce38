import TrafficFabric.Coordinator.Histories
import TrafficFabric.Coordinator.Treatment

/-
  Whether a permission can be used.

  A decision that permits traffic is checked again when its
  flow is opened, by the coordinator and by the ledger. What
  the evaluation established makes most of these checks
  pass. The ledger also refuses the unknown class, which a
  policy may permit, and an attempt that has ended, which a
  revalidation may make current again.

  Main declarations:
    * `Result.Honoured`
    * `Coordinator.Usable`
    * `Coordinator.permission_usable`
    * `Coordinator.unknown_stage_unusable`
-/

---
-- Answers
---

namespace TrafficFabric

open Result

namespace Result

variable {α : Type}

/- A success, or a refusal for want of capacity. -/
def Honoured (answer : Result α) : Prop :=
  ∀ status, answer = .error status → status.code = .capacityExhausted

@[simp] theorem honoured_ok (value : α) : Honoured (.ok value : Result α) := by
  intro status hError
  cases hError

@[simp] theorem honoured_error_iff (status : Status) :
    Honoured (.error status : Result α) ↔ status.code = .capacityExhausted := by
  constructor
  · intro hHonoured
    exact hHonoured status rfl
  · intro hCode other hSame
    cases hSame
    exact hCode

@[simp] theorem honoured_failure_iff (code : StatusCode) (message : String) :
    Honoured (failure code message : Result α) ↔ code = .capacityExhausted :=
  honoured_error_iff ⟨code, message⟩

end Result

variable {record : RequestRecord} {entry : AttemptRecord} {attempt : AttemptId}

theorem RequestRecord.checkOpenFlow_honoured_iff (limits : LedgerLimits)
    (hLive : record.lifecycle.isTerminal = false) (hValid : record.requiresRevalidation = false)
    (hFound : record.findAttempt attempt = some entry)
    (hCurrent : record.isCurrentAttempt attempt = true) :
    Honoured (record.checkOpenFlow limits attempt) ↔ entry.lifecycle.isTerminal = false := by
  have hOpen : record.lifecycle ≠ .cancelled := by
    intro hCancelled
    rw [hCancelled] at hLive
    cases hLive
  unfold checkOpenFlow
  simp only [hOpen, hLive, hValid, hFound, hCurrent, if_false, Bool.not_true, Bool.false_eq_true]
  by_cases hSuperseded : entry.lifecycle = .superseded
  · simp [hSuperseded, AttemptLifecycle.isTerminal]
  · rw [if_neg hSuperseded]
    cases hEnded : entry.lifecycle.isTerminal with
    | true => simp
    | false =>
      simp only [Bool.false_eq_true, if_false, iff_true]
      split
      · simp
      · simp

/- The ledger opens flows of known classes. -/
theorem RequestLedger.openFlow_honoured_iff {ledger : RequestLedger} {id : RequestId}
    (traffic : TrafficClass) (declaredBytes : UInt64) (now : Int64)
    (hRecord : ledger.requests.lookup id = some record)
    (hLive : record.lifecycle.isTerminal = false) (hValid : record.requiresRevalidation = false)
    (hFound : record.findAttempt attempt = some entry)
    (hCurrent : record.isCurrentAttempt attempt = true) :
    Honoured (ledger.openFlow id attempt traffic declaredBytes now).1 ↔
      traffic ≠ .unknown ∧ entry.lifecycle.isTerminal = false := by
  rw [← RequestRecord.checkOpenFlow_honoured_iff ledger.limits hLive hValid hFound hCurrent]
  unfold openFlow
  by_cases hUnknown : traffic = .unknown
  · simp [hUnknown]
  · simp only [hUnknown, if_false, hRecord, ne_eq, not_false_eq_true, true_and]
    cases record.checkOpenFlow ledger.limits attempt with
    | error status => simp
    | ok value =>
      simp only [honoured_ok, iff_true]
      split
      · simp
      · simp

---
-- Opening In The Coordinator
---

namespace Coordinator

variable {s : Coordinator} {subject : TrafficSubject} {decision : Decision} {declaredBytes : UInt64}
variable {now : Int64}
variable {flow : FlowRecord} {id : FlowId}

/- No refusal of a stamp is for want of capacity. -/
theorem checkStamp_honoured_iff (s : Coordinator) (stamp : AuthorityStamp) :
    Honoured (s.checkStamp stamp) ↔ s.StampCurrent stamp := by
  rw [← checkStamp_eq_ok_iff]
  unfold checkStamp
  split
  all_goals simp

/- With a usable subject only the stamp can be refused. -/
theorem validateDecision_of_use (hPermits : decision.permitsTraffic = true)
    (hUse : s.SubjectUse decision.subject decision.authority.sequence) :
    s.validateDecision decision = s.checkStamp decision.authority := by
  cases hStamp : s.checkStamp decision.authority with
  | ok value =>
    exact validateDecision_eq_ok_iff.mpr ⟨(checkStamp_eq_ok_iff s _).mp hStamp, hPermits, hUse⟩
  | error status =>
    unfold validateDecision
    rw [hStamp]
    rfl

theorem openServingFlow_honoured_iff (flow : FlowRecord) :
    Honoured (s.openServingFlow subject flow now).1 ↔
      Honoured
        (s.ledger.openFlow subject.request subject.attempt
          flow.traffic flow.declaredBytes now).1 := by
  unfold openServingFlow
  simp only
  cases (s.ledger.openFlow subject.request subject.attempt
      flow.traffic flow.declaredBytes now).1 with
  | error status => simp
  | ok id => simp

/- The flow of a usable transfer is opened or returned. -/
theorem openTransferFlow_of_use (flow : FlowRecord) {sequence : AuthoritySequence}
    (hUse : s.SubjectUse subject sequence) (hKnown : subject.kind ≠ .unknown)
    (hKind : subject.kind ≠ .serving) : Honoured (s.openTransferFlow subject flow).1 := by
  unfold SubjectUse at hUse
  cases hOwn : subject.kind with
  | serving => exact (hKind hOwn).elim
  | unknown => exact (hKnown hOwn).elim
  | transfer =>
    rw [hOwn] at hUse
    rcases hUse with ⟨transfer, hUse⟩
    unfold openTransferFlow
    simp only [hUse.retained]
    split
    · simp
    · simp

/- The stamp is checked first, then the bulk capacity. -/
theorem openFlow_honoured_iff (hPermits : decision.permitsTraffic = true)
    (hUse : s.SubjectUse decision.subject decision.authority.sequence)
    (hKnown : decision.subject.kind ≠ .unknown)
    (hSize : declaredBytes ≤ s.config.limits.maxSinglePayloadBytes) :
    Honoured (s.openFlow decision declaredBytes now).1 ↔
      s.StampCurrent decision.authority ∧
        (decision.subject.kind = .serving →
          s.bulkExhausted decision.treatment.trafficClass declaredBytes = true ∨
            Honoured
              (s.ledger.openFlow decision.subject.request decision.subject.attempt
                decision.treatment.trafficClass declaredBytes now).1) := by
  rw [← checkStamp_honoured_iff]
  unfold openFlow
  rw [validateDecision_of_use hPermits hUse]
  cases hStamp : s.checkStamp decision.authority with
  | error status =>
    have hRefused := checkStamp_honoured_iff s decision.authority
    rw [← checkStamp_eq_ok_iff, hStamp] at hRefused
    simp only [honoured_error_iff, reduceCtorEq, iff_false] at hRefused
    simp [hRefused]
  | ok value =>
    simp only [honoured_ok, true_and, if_neg (UInt64.not_lt.mpr hSize)]
    cases hBulk : s.bulkExhausted decision.treatment.trafficClass declaredBytes with
    | true => simp
    | false =>
      simp only [Bool.false_eq_true, if_false, false_or]
      by_cases hServing : decision.subject.kind = .serving
      · simp only [hServing, if_true, true_implies]
        exact openServingFlow_honoured_iff _
      · simp only [hServing, if_false, false_implies, iff_true]
        exact openTransferFlow_of_use _ hUse hKnown hServing

/- The flow was opened, or its transfer had it already. -/
def Obtains (s : Coordinator) (subject : TrafficSubject) (flow : FlowId) (after : Coordinator) :
    Prop :=
  flow ∈ after.flows ∨
    ∃ transfer,
      s.transfers.lookup subject.transfer = some transfer ∧ transfer.flow = flow ∧ flow ≠ .nil

theorem addFlow_mem (s : Coordinator) (flow : FlowRecord) : flow.id ∈ (s.addFlow flow).flows := by
  change flow.id ∈ s.flows.emplace flow.id flow
  unfold AList.emplace
  split
  · assumption
  · exact (AList.mem_insert _).mpr (.inl rfl)

theorem openServingFlow_obtains (hOk : (s.openServingFlow subject flow now).1 = .ok id) :
    id ∈ (s.openServingFlow subject flow now).2.flows := by
  unfold openServingFlow at hOk ⊢
  simp only at hOk ⊢
  cases hOpened :
      (s.ledger.openFlow subject.request subject.attempt flow.traffic flow.declaredBytes now).1 with
  | error status =>
    rw [hOpened] at hOk
    cases hOk
  | ok opened =>
    rw [hOpened] at hOk
    cases hOk
    exact addFlow_mem _ _

theorem openTransferFlow_obtains (hOk : (s.openTransferFlow subject flow).1 = .ok id) :
    s.Obtains subject id (s.openTransferFlow subject flow).2 := by
  unfold openTransferFlow at hOk ⊢
  cases hHeld : s.transfers.lookup subject.transfer with
  | none =>
    rw [hHeld] at hOk
    cases hOk
  | some transfer =>
    simp only [hHeld] at hOk ⊢
    split at hOk
    · rename_i hBusy
      cases hOk
      exact .inr ⟨transfer, hHeld, rfl, by simpa using hBusy⟩
    · rename_i hFree
      cases hOk
      rw [if_neg hFree]
      exact .inl (addFlow_mem _ _)

theorem openFlow_obtains {flow : FlowId}
    (hOk : (s.openFlow decision declaredBytes now).1 = .ok flow) :
    s.Obtains decision.subject flow (s.openFlow decision declaredBytes now).2 := by
  unfold openFlow at hOk ⊢
  cases hValid : s.validateDecision decision with
  | error status =>
    rw [hValid] at hOk
    cases hOk
  | ok value =>
    simp only [hValid] at hOk ⊢
    split at hOk
    · cases hOk
    · rename_i hSmall
      rw [if_neg hSmall]
      split at hOk
      · cases hOk
      · rename_i hRoom
        rw [if_neg hRoom]
        split at hOk
        · rename_i hKind
          rw [if_pos hKind]
          exact .inl (openServingFlow_obtains hOk)
        · rename_i hKind
          rw [if_neg hKind]
          exact openTransferFlow_obtains hOk

end Coordinator

namespace RequestView

/- Only a cancellation leaves a floor. -/
def Unfloored (view : RequestView) : Prop :=
  view.lifecycle.isTerminal = false → view.authorityFloor = .unset

theorem Step.unfloored {limits : LedgerLimits} {view next : RequestView} {event : RequestEvent}
    (hStep : Step limits view event next) (hUnfloored : view.Unfloored) : next.Unfloored := by
  intro hAfter
  cases hStep with
  | attemptRegistered _ hLive | revalidated _ hLive | superseded _ _ _ hLive
  | stageAdvanced _ _ _ hLive | interrupted hLive => exact hUnfloored hLive
  | cancelledAgain reason sequence now hCancelled =>
    rw [hCancelled] at hAfter
    cases hAfter
  | _ => cases hAfter

theorem Unfloored.restored {view : RequestView} (hUnfloored : view.Unfloored) :
    view.restored.Unfloored := by
  unfold RequestView.restored
  split
  · exact hUnfloored
  · rename_i hLive
    exact fun _ => hUnfloored (Bool.eq_false_of_not_eq_true hLive)

end RequestView

namespace Coordinator

variable {mt : Generator}
variable {s : Coordinator}
variable {t : Coordinator} {label : Label} {config : CoordinatorConfig}

/- No live request has a floor. -/
def Unfloored (s : Coordinator) : Prop :=
  ∀ id view, s.ledger.view id = some view → view.Unfloored

theorem Transition.unfloored (hTransition : Transition mt s label t)
    (hCoherent : s.ledger.Coherent) (hUnfloored : s.Unfloored) : t.Unfloored := by
  intro id view hView
  have hBefore := hUnfloored id
  have hChange := hTransition.viewChange hCoherent id
  rw [hView] at hChange
  generalize s.ledger.view id = before at hBefore hChange
  cases hChange with
  | same => exact hBefore view rfl
  | registered => exact fun _ => rfl
  | evolved old _ op event hLabel hEvent hStep => exact hStep.unfloored (hBefore old rfl)
  | restored old => exact (hBefore old rfl).restored

theorem Reachable.unfloored (hReachable : Reachable mt config s) : s.Unfloored := by
  rcases hReachable with ⟨start, labels, hStarted, hRun⟩
  refine hRun.invariant_of_invariant (fun state => state.ledger.Coherent) Unfloored
    (fun _ _ _ hStep => hStep.coherent) (fun _ _ _ hStep => hStep.unfloored) hStarted.coherent ?_
  rcases hStarted with ⟨entropy, rfl⟩
  intro id view hView
  cases hView

/- A boot makes an incarnation, or none is replaced. -/
theorem bootFrom_incarnation
    (mt : Generator) (s : Coordinator) (document : PersistedCoordinatorState) :
    (s.bootFrom mt document).2.incarnation ≠ .nil ∨
      (s.bootFrom mt document).1.isOk = false ∧
        (s.bootFrom mt document).2.incarnation = s.incarnation := by
  have hRestored : (s.clearState.restoreState document).2.incarnation = s.incarnation := by
    unfold restoreState
    split
    · rfl
    · rfl
  unfold bootFrom
  simp only
  split
  · exact .inr ⟨rfl, hRestored⟩
  · exact .inl (makeRandomId_ne_nil mt _)

theorem Transition.incarnation (hTransition : Transition mt s label t)
    (hSet : s.incarnation ≠ .nil) : t.incarnation ≠ .nil := by
  cases hTransition with
  | op op =>
    rw [(step_boot s op).2.2.1]
    exact hSet
  | bootFresh => exact makeRandomId_ne_nil mt _
  | reboot =>
    rcases bootFrom_incarnation mt s s.exportState with hMade | ⟨-, hKept⟩
    · exact hMade
    · rw [hKept]
      exact hSet
  | restart _ entropy epoch hBoot =>
    have hMade := bootFrom_incarnation mt (create s.config entropy) s.exportState
    rw [hBoot] at hMade
    rcases hMade with hMade | ⟨hFailed, -⟩
    · exact hMade
    · cases hFailed

theorem Reachable.incarnation (hReachable : Reachable mt config s) : s.incarnation ≠ .nil := by
  rcases hReachable with ⟨start, labels, hStarted, hRun⟩
  refine hRun.invariant (fun state => state.incarnation ≠ .nil)
    (fun _ _ _ hStep => hStep.incarnation) ?_
  rcases hStarted with ⟨entropy, rfl⟩
  exact makeRandomId_ne_nil mt _

end Coordinator

---
-- Using A Permission
---

/- The sequence after the last one is unset. -/
theorem Coordinator.nextSequence_eq_unset_iff (s : Coordinator) :
    s.nextSequence = .unset ↔ s.authoritySequence = .max := by
  unfold nextSequence
  constructor
  · intro hUnset
    by_contra hBelow
    split at hUnset
    · exact Generation.first_ne_unset hUnset
    · exact Generation.next_ne_unset _ hBelow hUnset
  · intro hMax
    rw [hMax]
    decide

namespace Coordinator

variable {s : Coordinator} {request : TrafficRequest} {subject : TrafficSubject} {now : Int64}
variable {victim : Nat}
variable {rule : ClassPolicyRule}

/- An evaluation keeps the authority of every request. -/
theorem evaluate_view (s : Coordinator) (request : TrafficRequest) (now : Int64) (victim : Nat)
    (id : RequestId) : (s.evaluate request now victim).2.ledger.view id = s.ledger.view id := by
  rcases (evaluate_bookkeeping s request now victim).incidental.quiet with ⟨ops, hQuiet, hLedger⟩
  rw [hLedger]
  exact RequestLedger.steps_quiet s.ledger id ops hQuiet

/- The stamp of the decision is set and current. -/
theorem evaluate_stamp_iff
    (s : Coordinator) (request : TrafficRequest) (now : Int64) (victim : Nat) :
    (s.evaluate request now victim).2.StampCurrent (s.evaluate request now victim).1.authority ↔
      s.epoch ≠ .unset ∧ s.incarnation ≠ .nil ∧ s.authoritySequence ≠ .max := by
  have hSame := (evaluate_bookkeeping s request now victim).incidental.durable
  have hEpoch := congrArg DurableState.epoch hSame
  have hIncarnation := congrArg DurableState.incarnation hSame
  have hPolicy := congrArg DurableState.policy hSame
  have hSequence := nextSequence_eq_unset_iff s
  rw [evaluate_authority]
  constructor
  · intro hStamp
    exact ⟨hStamp.epochSet, hStamp.incarnationSet, hSequence.not.mp hStamp.sequence⟩
  · rintro ⟨hEpochSet, hIncarnationSet, hBelow⟩
    exact
      { epochSet := hEpochSet
        incarnationSet := hIncarnationSet
        epoch := hEpoch.symm
        incarnation := hIncarnation.symm
        policy := (congrArg PolicyConfig.generation hPolicy).symm
        sequence := hSequence.not.mpr hBelow }

/- What a live serving subject is like after evaluation. -/
theorem evaluate_serving_use (hUnfloored : s.Unfloored)
    (hGrounds : s.ServingGrounds request subject rule record entry) (sequence : AuthoritySequence) :
    ∃ after held,
      (s.evaluate request now victim).2.ServingUse subject sequence after ∧
        after.findAttempt subject.attempt = some held ∧ held.lifecycle = entry.lifecycle := by
  have hBefore := (RequestLedger.view_eq_some_iff _ _ _).mpr ⟨record, hGrounds.retained, rfl⟩
  have hFloor := hUnfloored _ _ hBefore hGrounds.live
  rw [← s.evaluate_view request now victim] at hBefore
  rcases (RequestLedger.view_eq_some_iff _ _ _).mp hBefore with ⟨after, hAfter, hView⟩
  have hFound := record.view_findAttempt subject.attempt
  rw [hGrounds.found, ← hView, after.view_findAttempt] at hFound
  rcases Option.map_eq_some_iff.mp hFound with ⟨held, hHeld, hSame⟩
  refine ⟨after, held, ?_, hHeld, (congrArg AttemptView.lifecycle hSame :)⟩
  have hCurrent : after.currentAttempt = record.currentAttempt :=
    congrArg RequestView.currentAttempt hView
  have hUnset : after.authorityFloor = .unset :=
    (congrArg RequestView.authorityFloor hView).trans hFloor
  constructor
  · exact hAfter
  · exact (congrArg (fun view => view.lifecycle.isTerminal) hView).trans hGrounds.live
  · exact (congrArg RequestView.requiresRevalidation hView).trans hGrounds.valid
  · have hOwn := hGrounds.current
    unfold RequestRecord.isCurrentAttempt at hOwn ⊢
    rw [hCurrent]
    exact hOwn
  · unfold belowFloor
    rw [hUnset]
    rfl

theorem evaluate_transfer_use {transfer : TransferRecord}
    (hGrounds : s.TransferGrounds request subject rule transfer) :
    (s.evaluate request now victim).2.TransferUse subject transfer := by
  have hSame := (evaluate_bookkeeping s request now victim).incidental.durable
  have hModels := congrArg DurableState.models hSame
  have hStates := congrArg DurableState.states hSame
  have hTransfers := congrArg Carriage.transfers
    (evaluate_bookkeeping s request now victim).carriage
  constructor
  · exact (congrArg (fun transfers =>
      transfers.lookup subject.transfer) hTransfers).trans hGrounds.retained
  · exact hGrounds.live
  · intro hHash
    rcases hGrounds.model hHash with ⟨model, hHeld, hModel⟩
    exact ⟨model, (congrArg (fun models =>
      models.lookup transfer.modelHash) hModels).trans hHeld, hModel⟩
  · rcases hGrounds.state with ⟨state, hHeld, hState⟩
    exact ⟨state, (congrArg (fun states =>
      states.lookup transfer.stateHash) hStates).trans hHeld, hState⟩

/-
  The permission of an evaluation in this state can be used.
  Serving traffic needs a stage, and a current attempt that
  has not ended, unless bulk capacity is wanting before the
  ledger is asked.
-/
structure Usable (s : Coordinator) (request : TrafficRequest) (traffic : TrafficClass)
    (declaredBytes : UInt64) : Prop where
  epoch : s.epoch ≠ .unset
  sequence : s.authoritySequence ≠ .max
  serving :
    ∀ subject record entry,
      request.subject = some subject → subject.kind = .serving →
      s.ledger.snapshotRequest subject.request = some record →
      record.findAttempt subject.attempt = some entry →
      s.bulkExhausted traffic declaredBytes = true ∨
        entry.stage ≠ .unknown ∧ entry.lifecycle.isTerminal = false

/- The bulk capacity is not touched by an evaluation. -/
theorem evaluate_bulkExhausted (s : Coordinator) (request : TrafficRequest) (now : Int64)
    (victim : Nat) (traffic : TrafficClass) (declaredBytes : UInt64) :
    (s.evaluate request now victim).2.bulkExhausted traffic declaredBytes =
      s.bulkExhausted traffic declaredBytes := by
  rcases evaluate_frame s request now victim with ⟨sequence, ledger, accounting, hAfter⟩
  rw [hAfter]
  rfl

/- The subject of permitted traffic can use the decision. -/
theorem evaluate_subject_use (hUnfloored : s.Unfloored)
    (hPermits : (s.evaluate request now victim).1.permitsTraffic = true)
    (sequence : AuthoritySequence) :
    (s.evaluate request now victim).2.SubjectUse
        (s.evaluate request now victim).1.subject sequence ∧
      (s.evaluate request now victim).1.subject.kind ≠ .unknown := by
  have hPermit := evaluate_grounds hPermits
  rcases hPermit.subject with ⟨subject, hSubject, hGrounds⟩
  rw [evaluate_subject, hSubject]
  change (s.evaluate request now victim).2.SubjectUse subject sequence ∧ subject.kind ≠ .unknown
  unfold SubjectUse
  cases hKind : subject.kind with
  | serving =>
    rcases hPermit.serving hSubject hKind with ⟨record, entry, hServing⟩
    rcases evaluate_serving_use hUnfloored hServing sequence with ⟨after, held, hUse, -⟩
    exact ⟨⟨after, hUse⟩, by decide⟩
  | transfer =>
    rcases hPermit.transfer hSubject hKind with ⟨transfer, hTransfer⟩
    exact ⟨⟨transfer, evaluate_transfer_use hTransfer⟩, by decide⟩
  | unknown => simp only [SubjectGrounds, hKind] at hGrounds

/- What the ledger asks of permitted serving traffic. -/
theorem evaluate_ledger_honoured_iff (hUnfloored : s.Unfloored)
    (hPermits : (s.evaluate request now victim).1.permitsTraffic = true)
    (hSubject : request.subject = some subject) (hKind : subject.kind = .serving)
    (hRetained : s.ledger.snapshotRequest subject.request = some record)
    (hFound : record.findAttempt subject.attempt = some entry) (declaredBytes : UInt64)
    (opened : Int64) :
    Honoured
        ((s.evaluate request now victim).2.ledger.openFlow subject.request subject.attempt
          (s.evaluate request now victim).1.treatment.trafficClass declaredBytes opened).1 ↔
      entry.stage ≠ .unknown ∧ entry.lifecycle.isTerminal = false := by
  rcases (evaluate_grounds hPermits).serving hSubject hKind with ⟨kept, current, hServing⟩
  cases hRetained.symm.trans hServing.retained
  cases hFound.symm.trans hServing.found
  rcases evaluate_serving_use hUnfloored hServing .unset with ⟨after, held, hUse, hHeld, hSame⟩
  rcases evaluate_granted hPermits with ⟨own, admission, hGranted⟩
  cases hSubject.symm.trans hGranted.asked
  rcases hGranted.served hKind hRetained hFound with ⟨hClass, hStage⟩
  rw [RequestLedger.openFlow_honoured_iff _ declaredBytes
    opened hUse.retained hUse.live hUse.valid hHeld hUse.current, hSame, ne_eq, hClass,
    servedClass_eq_unknown_iff _ (hStage.imp_right And.left)]

/-
  A permission is honoured when it is used at once, in any
  reachable state in which it is usable and in no other. A
  flow that is granted was opened, or the transfer already
  had it.
-/
theorem permission_usable (mt : Generator) (config : CoordinatorConfig)
    (s : Coordinator) (hReachable : Reachable mt config s) (request : TrafficRequest)
    (now opened : Int64) (victim : Nat) (declaredBytes : UInt64)
    (hPermits : (s.evaluate request now victim).1.permitsTraffic = true)
    (hSize : declaredBytes ≤ config.limits.maxSinglePayloadBytes) :
    let decision := (s.evaluate request now victim).1
    let after := (s.evaluate request now victim).2
    let answer := after.openFlow decision declaredBytes opened
    (Honoured answer.1 ↔ s.Usable request decision.treatment.trafficClass declaredBytes) ∧
      ∀ flow, answer.1 = .ok flow → after.Obtains decision.subject flow answer.2 := by
  intro decision after answer
  refine ⟨?_, fun flow hOk => openFlow_obtains hOk⟩
  have hUnfloored := hReachable.unfloored
  rcases evaluate_subject_use hUnfloored hPermits decision.authority.sequence with ⟨hUse, hKnown⟩
  have hConfig := (congrArg DurableState.config
      (evaluate_bookkeeping s request now victim).incidental.durable).trans hReachable.config
  rw [← hConfig] at hSize
  rw [openFlow_honoured_iff hPermits hUse hKnown hSize, evaluate_stamp_iff, evaluate_bulkExhausted]
  rcases (evaluate_grounds hPermits).subject with ⟨subject, hSubject, -⟩
  have hOwn : decision.subject = subject := by
    rw [show decision.subject = _ from s.evaluate_subject request now victim, hSubject]
    rfl
  rw [hOwn]
  constructor
  · rintro ⟨⟨hEpoch, -, hBelow⟩, hServing⟩
    refine ⟨hEpoch, hBelow, ?_⟩
    intro named record entry hNamed hKind hRetained hFound
    cases hSubject.symm.trans hNamed
    rw [← evaluate_ledger_honoured_iff hUnfloored hPermits
      hSubject hKind hRetained hFound declaredBytes opened]
    exact hServing hKind
  · intro hUsable
    refine ⟨⟨hUsable.epoch, hReachable.incarnation, hUsable.sequence⟩, ?_⟩
    intro hKind
    rcases (evaluate_grounds hPermits).serving hSubject hKind with ⟨record, entry, hServing⟩
    rw [evaluate_ledger_honoured_iff hUnfloored hPermits
      hSubject hKind hServing.retained hServing.found declaredBytes opened]
    exact hUsable.serving subject record entry hSubject hKind hServing.retained hServing.found

theorem permission_usable_ingress :
    let s := sampleStart.steps ingressOps
    (s.evaluate ingressTraffic 4 0).1.permitsTraffic = true ∧
      Honoured
        ((s.evaluate ingressTraffic 4 0).2.openFlow (s.evaluate ingressTraffic 4 0).1 64 5).1 := by
  intro s
  have hPermits : (s.evaluate ingressTraffic 4 0).1.permitsTraffic = true := by decide
  have hUsable :
      s.Usable ingressTraffic (s.evaluate ingressTraffic 4 0).1.treatment.trafficClass 64 := by
    refine ⟨by decide, by decide, ?_⟩
    intro subject record entry hSubject hKind hRetained hFound
    cases hSubject
    cases hRetained
    cases hFound
    exact .inr ⟨by decide, by decide⟩
  have hIff := permission_usable sampleGenerator {} s
    (sampleStart_reachable ingressOps) ingressTraffic 4 5 0 64 hPermits (by decide)
  exact ⟨hPermits, hIff.1.mpr hUsable⟩

/-
  The policy opts in to traffic of an unknown stage and the
  decision permits it. The flow is then refused, because the
  ledger has no flows of the unknown class.
-/
theorem unknown_stage_unusable :
    let s := sampleStart.steps unstagedOps
    let decision := (s.evaluate ingressTraffic 3 0).1
    Reachable sampleGenerator {} s ∧
      s.policy.validate = .valid ∧ decision.permitsTraffic = true ∧
      ((s.evaluate ingressTraffic 3 0).2.openFlow decision 64 4).1 =
        .failure .invalidArgument "unknown traffic class for flow" := by
  intro s decision
  exact ⟨sampleStart_reachable unstagedOps, by decide, by decide, by decide⟩

end Coordinator

end TrafficFabric
