import TrafficFabric.Coordinator.Authority
import TrafficFabric.Coordinator.Pressure
import TrafficFabric.Coordinator.Settlement

/-
  Who the pending deferrals are for.

  A deferral is recorded for a subject that could be served
  at that moment. Nothing forgets it when the subject ends,
  so it goes on pressing on bulk traffic, unless no
  operation ends a subject that waits.
-/

---
-- The Records After An Evaluation
---

namespace TrafficFabric

/- The record is of the subject. -/
structure DeferRecord.For (subject : TrafficSubject) (record : DeferRecord) : Prop where
  kind : record.kind = subject.kind
  request : record.request = subject.request
  attempt : record.attempt = subject.attempt
  transfer : record.transfer = subject.transfer

/- Both records are of one subject. -/
structure DeferRecord.Alike (old record : DeferRecord) : Prop where
  kind : record.kind = old.kind
  request : record.request = old.request
  attempt : record.attempt = old.attempt
  transfer : record.transfer = old.transfer
  shielded : record.starvationClass = old.starvationClass

theorem DeferRecord.Alike.refl (record : DeferRecord) : record.Alike record :=
  ⟨rfl, rfl, rfl, rfl, rfl⟩

namespace Coordinator

/- The request has to wait, and the record is its first. -/
structure Records (s : Coordinator) (request : TrafficRequest) (now : Int64)
    (subject : TrafficSubject) (admission : Admission) (record : DeferRecord) : Prop where
  about : request.subject = some subject
  admitted : s.admissionOf request subject now = .ok admission
  waits : s.deferReason request admission.effective now ≠ none
  own : record.For subject
  shielded : record.starvationClass = (s.policy.rule admission.effective).starvationProtected

/- An evaluation records a subject that has to wait at most. -/
theorem evaluate_continues (s : Coordinator) (request : TrafficRequest) (now : Int64) (victim : Nat)
    {key : UInt64} {record : DeferRecord}
    (hHeld : (s.evaluate request now victim).2.waiting.records.lookup key = some record) :
    (∃ old, s.defers.lookup key = some old ∧ old.Alike record) ∨
      ∃ subject admission, s.Records request now subject admission record := by
  refine evaluate_each (P := fun key record =>
    (∃ old, s.defers.lookup key = some old ∧ old.Alike record) ∨
      ∃ subject admission, s.Records request now subject admission record)
    ?_ now victim ?_ ?_ key record hHeld
  · exact fun key record hOld => .inl ⟨record, hOld, .refl record⟩
  · exact fun subject admission hSubject hOk hWaits =>
      .inr ⟨subject, admission, hSubject, hOk, hWaits, ⟨rfl, rfl, rfl, rfl⟩, rfl⟩
  · intro key record hRecord
    rcases hRecord with ⟨old, hOld, hAlike⟩ | ⟨subject, admission, hNew⟩
    · exact .inl ⟨old, hOld, hAlike.kind, hAlike.request, hAlike.attempt, hAlike.transfer,
        hAlike.shielded⟩
    · have hOwn := hNew.own
      exact .inr ⟨subject, admission, hNew.about, hNew.admitted, hNew.waits,
        ⟨hOwn.kind, hOwn.request, hOwn.attempt, hOwn.transfer⟩, hNew.shielded⟩

---
-- Subjects That Can Be Served
---

/- The transfer is registered and has not ended. -/
def TransferLive (s : Coordinator) (id : StateTransferId) : Prop :=
  ∃ transfer, s.transfers.lookup id = some transfer ∧ transfer.state.isTerminal = false

/- The subject of the deferral can still be served. -/
def Servable (s : Coordinator) (record : DeferRecord) : Prop :=
  match record.kind with
  | .serving =>
    ∃ held,
      s.ledger.snapshotRequest record.request = some held ∧
        held.lifecycle.isTerminal = false ∧ held.isCurrentAttempt record.attempt = true
  | .transfer => s.TransferLive record.transfer
  | .unknown => False

end Coordinator

/- The event leaves a live request with its attempt. -/
def RequestEvent.KeepsAttempt : RequestEvent → Prop
| .stageAdvanced _ _ => True
| _ => False

/-
  The operation ends the transfer when it succeeds; an
  authorization ends it when it is not granted.
-/
def Op.Closes (s : Coordinator) (id : StateTransferId) : Op → Prop
| .authorizeTransfer request now victim =>
  (∃ subject, request.subject = some subject ∧
    subject.kind = .transfer ∧ subject.transfer = id) ∧
    ∀ authorization,
      (s.authorizeTransfer request now victim).1 = .ok authorization →
      authorization.authorized = false
| .completeTransfer transfer _
| .abandonTransfer transfer _ => transfer = id
| .cancelRequest request _ _ | .failAttempt request _ _ _
| .replaceAttempt request _ _ _ _ => id ∈ s.transfersByRequest.equalRange request
| .publishCompletion publication _ => id ∈ s.transfersByRequest.equalRange publication.request
| _ => False

/- The operation ends or displaces the deferred subject. -/
def Op.EndsSubject (s : Coordinator) (record : DeferRecord) (op : Op) : Prop :=
  (record.kind = .serving ∧
      ∃ event, op.event s = some (record.request, event) ∧ ¬ event.KeepsAttempt) ∨
    (record.kind = .transfer ∧ op.Closes s record.transfer)

namespace Coordinator

variable {s : Coordinator} {id : StateTransferId} {record : DeferRecord}

theorem transferLive_of_state (state : TransferState) (hState : s.transferState id = some state)
    (hLive : state.isTerminal = false) : s.TransferLive id := by
  rcases Option.map_eq_some_iff.mp hState with ⟨transfer, hHeld, hSame⟩
  exact ⟨transfer, hHeld, hSame ▸ hLive⟩

/- A transfer lives until an operation closes it. -/
theorem TransferLive.step (hLive : s.TransferLive id) (op : Op) (hOp : ¬ op.Closes s id) :
    (s.step op).TransferLive id := by
  rcases hLive with ⟨transfer, hHeld, hOpen⟩
  have hChange := step_transferChange s id op
  rw [unboundTransfer_of_lookup hHeld] at hChange
  have hLive (state : TransferState)
      (hState : ((s.step op).unboundTransfer id).map TransferRecord.state = some state)
      (hTerminal : state.isTerminal = false) : (s.step op).TransferLive id :=
    transferLive_of_state state ((transferState_eq_unbound _ id).trans hState) hTerminal
  generalize (s.step op).unboundTransfer id = after at hChange hLive
  cases hChange with
  | same => exact hLive transfer.state rfl hOpen
  | granted => exact hLive .authorized rfl rfl
  | started => exact hLive .inProgress rfl rfl
  | refused request now victim reason _ hSubject hDenies =>
    refine (hOp ⟨hSubject, ?_⟩).elim
    intro authorization hOk
    by_contra hGranted
    exact hDenies ⟨authorization, hOk, Bool.eq_true_of_not_eq_false hGranted⟩
  | ended _ request _ hEnds hOwned =>
    refine (hOp ?_).elim
    cases op with
    | cancelRequest | failAttempt | replaceAttempt | publishCompletion =>
      cases hEnds
      exact hOwned
    | _ => cases hEnds
  | _ => exact (hOp rfl).elim

theorem Servable.step (hServable : s.Servable record) (hCoherent : s.ledger.Coherent) (op : Op)
    (hOp : ¬ op.EndsSubject s record) : (s.step op).Servable record := by
  unfold Servable at hServable ⊢
  cases hKind : record.kind with
  | unknown =>
    rw [hKind] at hServable
    exact hServable.elim
  | transfer =>
    rw [hKind] at hServable
    exact TransferLive.step hServable op (fun hCloses => hOp (.inr ⟨hKind, hCloses⟩))
  | serving =>
    rw [hKind] at hServable
    rcases hServable with ⟨held, hHeld, hLive, hCurrent⟩
    have hView := RequestLedger.view_of_lookup hHeld
    have hKeeps (event : RequestEvent) (hEvent : op.event s = some (record.request, event)) :
        event.KeepsAttempt := by
      by_contra hEnds
      exact hOp (.inl ⟨hKind, event, hEvent, hEnds⟩)
    rcases step_contains_of_live hCoherent op hView hLive (fun event hEvent hEnds => by
          have hStage := hKeeps event hEvent
          cases event with
          | stageAdvanced => exact hEnds
          | _ => exact hStage) with ⟨next, hNext⟩
    have hSame :
        next.lifecycle.isTerminal = false ∧ next.currentAttempt = held.view.currentAttempt := by
      have hChange := step_viewChange s op record.request
      rw [hView, hNext] at hChange
      cases hChange with
      | same => exact ⟨hLive, rfl⟩
      | evolved _ _ other event hLabel hEvent hStep =>
        cases hLabel
        have hKept := hKeeps event hEvent
        cases hStep with
        | stageAdvanced attempt target entry hLive =>
          refine ⟨?_, rfl⟩
          split
          · rfl
          · exact hLive
        | _ => exact hKept.elim
      | restored _ hLabel => exact (hLabel op rfl).elim
    rcases Option.map_eq_some_iff.mp hNext with ⟨later, hLater, rfl⟩
    refine ⟨later, hLater, hSame.1, ?_⟩
    rw [RequestRecord.isCurrentAttempt_iff] at hCurrent ⊢
    unfold RequestView.IsCurrent at hCurrent ⊢
    rw [hSame.2]
    exact hCurrent

theorem servable_of_admitted {request : TrafficRequest} {subject : TrafficSubject}
    {admission : Admission} {now : Int64} (hSubject : request.subject = some subject)
    (hOk : s.admissionOf request subject now = .ok admission) (hFor : record.For subject) :
    s.Servable record := by
  have hPermit := admissionOf_grounds hSubject hOk
  unfold Servable
  rw [hFor.kind, hFor.request, hFor.attempt, hFor.transfer]
  cases hKind : subject.kind with
  | unknown =>
    rcases hPermit.subject with ⟨ground, hGround, hGrounds⟩
    cases hSubject.symm.trans hGround
    simp only [SubjectGrounds, hKind] at hGrounds
  | serving =>
    rcases hPermit.serving hSubject hKind with ⟨held, attempt, hServing⟩
    exact ⟨held, hServing.retained, hServing.live, hServing.current⟩
  | transfer =>
    rcases hPermit.transfer hSubject hKind with ⟨transfer, hTransfer⟩
    exact ⟨transfer, hTransfer.retained, hTransfer.live⟩

theorem Servable.alike {old : DeferRecord} (hServable : s.Servable old)
    (hAlike : old.Alike record) : s.Servable record := by
  unfold Servable at hServable ⊢
  rw [hAlike.kind, hAlike.request, hAlike.attempt, hAlike.transfer]
  exact hServable

---
-- Runs
---

/- A deferral is pending, or an authorization records it. -/
def Awaits (s : Coordinator) (op : Op) (record : DeferRecord) : Prop :=
  (∃ key, s.defers.lookup key = some record) ∨
    ∃ request now victim subject admission,
      op = .authorizeTransfer request now victim ∧ s.Records request now subject admission record

/-
  The step ends no subject of a protected deferral that is
  pending, and no transfer that it makes wait itself.
-/
def SparesWaiting (s : Coordinator) (label : Label) : Prop :=
  ∀ op record,
    label = .op op → s.Awaits op record → record.starvationClass = true → ¬ op.EndsSubject s record

/- Every protected deferral is of a subject to be served. -/
def WaitsServable (s : Coordinator) : Prop :=
  ∀ key record,
    s.defers.lookup key = some record → record.starvationClass = true → s.Servable record

variable {mt : Generator} {t : Coordinator} {label : Label}

/- A record after an operation was held, or is of an evaluation. -/
theorem step_continues (s : Coordinator) (op : Op) {key : UInt64}
    (hHeld : (s.step op).defers.lookup key = some record) :
    (∃ old, s.defers.lookup key = some old ∧ old.Alike record) ∨
      ∃ request now victim subject admission,
        op.evaluation = some (request, now, victim) ∧
          s.Records request now subject admission record := by
  have hWritten := congrArg Waiting.records (step_waiting s op)
  change (s.step op).defers = _ at hWritten
  rw [hWritten] at hHeld
  cases hEvaluation : op.evaluation with
  | none =>
    rw [hEvaluation] at hHeld
    exact .inl ⟨record, hHeld, .refl record⟩
  | some evaluation =>
    rcases evaluation with ⟨request, now, victim⟩
    rw [hEvaluation] at hHeld
    rcases evaluate_continues s request now victim hHeld with hOld | ⟨subject, admission, hNew⟩
    · exact .inl hOld
    · exact .inr ⟨request, now, victim, subject, admission, rfl, hNew⟩

/- After an operation the records are of subjects that were. -/
theorem servable_before_step (hWaits : s.WaitsServable) (op : Op) {key : UInt64}
    (hHeld : (s.step op).defers.lookup key = some record)
    (hShielded : record.starvationClass = true) : s.Servable record := by
  rcases step_continues s op hHeld with
    ⟨old, hOld, hAlike⟩ | ⟨request, now, victim, subject, admission, -, hNew⟩
  · rw [hAlike.shielded] at hShielded
    exact (hWaits key old hOld hShielded).alike hAlike
  · exact servable_of_admitted hNew.about hNew.admitted hNew.own

theorem evaluate_spares (request : TrafficRequest) (now : Int64) (victim : Nat) :
    ¬ (Op.evaluate request now victim).EndsSubject s record := by
  rintro (⟨-, event, hEvent, -⟩ | ⟨-, hCloses⟩)
  · cases hEvent
  · exact hCloses

/- The subjects of all records after a step are spared. -/
theorem SparesWaiting.after {op : Op} {key : UInt64} (hSpares : s.SparesWaiting (.op op))
    (hHeld : (s.step op).defers.lookup key = some record)
    (hShielded : record.starvationClass = true) : ¬ op.EndsSubject s record := by
  intro hEnds
  rcases step_continues s op hHeld with
    ⟨old, hOld, hAlike⟩ | ⟨request, now, victim, subject, admission, hEvaluation, hNew⟩
  · rw [hAlike.shielded] at hShielded
    refine hSpares op old rfl (.inl ⟨key, hOld⟩) hShielded ?_
    unfold Op.EndsSubject at hEnds ⊢
    rw [← hAlike.kind, ← hAlike.request, ← hAlike.transfer]
    exact hEnds
  · cases op with
    | evaluate => exact evaluate_spares _ _ _ hEnds
    | authorizeTransfer =>
      simp only [Op.evaluation] at hEvaluation
      split at hEvaluation
      · cases hEvaluation
        exact hSpares _ record rfl (.inr ⟨_, _, _, subject, admission, rfl, hNew⟩) hShielded hEnds
      · cases hEvaluation
    | _ => cases hEvaluation

theorem WaitsServable.transition (hWaits : s.WaitsServable) (hCoherent : s.ledger.Coherent)
    (hStep : Guarded SparesWaiting (Transition mt) s label t) : t.WaitsServable := by
  rcases hStep with ⟨hSpares, hTransition⟩
  rcases hTransition.docket with hEmpty | ⟨op, hLabel, hNext⟩
  · intro key record hHeld
    have hRecords := congrArg (fun docket : Docket => docket.waiting.records) hEmpty
    change t.defers = ∅ at hRecords
    rw [hRecords] at hHeld
    cases hHeld
  · subst hNext
    intro key record hHeld hShielded
    subst hLabel
    exact (servable_before_step hWaits op hHeld hShielded).step hCoherent op
      (hSpares.after hHeld hShielded)

/-
  In a run that ends no waiting subject, every pending
  deferral that counts as pressure is of a subject that can
  still be served, and traffic is told to yield only while
  such a subject waits.
-/
theorem pressure_from_servable (mt : Generator) (config : CoordinatorConfig)
    (start s : Coordinator) (labels : List Label) (hStarted : Started mt config start)
    (hRun : Run (Guarded SparesWaiting (Transition mt)) start labels s) :
    (∀ key record,
      s.defers.lookup key = some record → record.starvationClass = true →
      s.Servable record) ∧
    ∀ request now victim,
      (s.evaluate request now victim).1.reason = .deferredBulkYield →
      ∃ key record,
        s.defers.lookup key = some record ∧ record.starvationClass = true ∧ s.Servable record := by
  have hWaits : s.WaitsServable := by
    refine hRun.invariant_of_invariant (fun state => state.ledger.Coherent) WaitsServable
      (fun _ _ _ hStep hCoherent => hStep.2.coherent hCoherent)
      (fun _ _ _ hStep hCoherent hBefore => hBefore.transition hCoherent hStep) hStarted.coherent ?_
    rcases hStarted with ⟨entropy, rfl⟩
    intro key record hHeld
    cases hHeld
  refine ⟨hWaits, ?_⟩
  intro request now victim hReason
  have hReachable : Reachable mt config s :=
    ⟨start, labels, hStarted, hRun.mono (fun _ _ _ hStep => hStep.2)⟩
  rcases pressing_of_bulkYield hReachable.counted request now
      victim hReason with ⟨key, record, hHeld, hShielded⟩
  exact ⟨key, record, hHeld, hShielded, hWaits key record hHeld hShielded⟩

/- Nothing waits, or the operation only evaluates. -/
def plainlySpares (s : Coordinator) : Op → Bool
| .evaluate _ _ _ => true
| .authorizeTransfer _ _ _ => false
| _ => s.defers.entries.isEmpty

theorem sparesWaiting_of_plainlySpares (s : Coordinator) (op : Op)
    (hPlain : plainlySpares s op = true) : s.SparesWaiting (.op op) := by
  rintro other record hSame hAwaits - hEnds
  cases hSame
  rcases hAwaits with ⟨key, hHeld⟩ | ⟨_, _, _, _, _, rfl, -⟩
  swap
  · cases hPlain
  have hMem := (AList.mem_entries_iff s.defers key record).mpr hHeld
  cases op with
  | evaluate => exact evaluate_spares _ _ _ hEnds
  | authorizeTransfer => cases hPlain
  | _ =>
    rw [List.isEmpty_iff.mp hPlain] at hMem
    cases hMem

theorem pressure_from_servable_pressed :
    let s := pressedStart.steps pressedOps
    (s.evaluate (transferTraffic ⟨0, 9⟩ 8) 6 0).1.reason = .deferredBulkYield ∧
      ∃ key record,
        s.defers.lookup key = some record ∧ record.starvationClass = true ∧ s.Servable record := by
  intro s
  have hReason : (s.evaluate (transferTraffic ⟨0, 9⟩ 8) 6 0).1.reason = .deferredBulkYield := by
    decide
  exact ⟨hReason,
    (pressure_from_servable sampleGenerator { policy := pressedPolicy } pressedStart s _ ⟨1, rfl⟩
      (run_passes sampleGenerator plainlySpares sparesWaiting_of_plainlySpares pressedStart
        pressedOps (by decide))).2
      (transferTraffic ⟨0, 9⟩ 8) 6 0 hReason⟩

/- A subject that is seen to be past serving. -/
def plainlyEnded (s : Coordinator) (record : DeferRecord) : Bool :=
  record.kind = .serving &&
    (s.ledger.snapshotRequest record.request).all (fun held => held.lifecycle.isTerminal)

theorem not_servable_of_plainlyEnded (hEnded : plainlyEnded s record = true) :
    ¬ s.Servable record := by
  simp only [plainlyEnded, Bool.and_eq_true, decide_eq_true_eq] at hEnded
  unfold Servable
  rw [hEnded.1]
  rintro ⟨held, hHeld, hLive, -⟩
  have hDone := hEnded.2
  rw [hHeld] at hDone
  change held.lifecycle.isTerminal = true at hDone
  rw [hLive] at hDone
  exact Bool.noConfusion hDone

/-
  The request is cancelled while its ingress waits. Bulk
  traffic still yields, though nothing is left to serve.
-/
theorem cancelled_request_presses :
    let s := pressedStart.steps (pressedOps ++ [.cancelRequest ⟨0, 1⟩ .cancelled 6])
    Reachable sampleGenerator { policy := pressedPolicy } s ∧
      (s.evaluate (transferTraffic ⟨0, 9⟩ 8) 7 0).1.reason = .deferredBulkYield ∧
      ∀ key record, s.defers.lookup key = some record → ¬ s.Servable record := by
  intro s
  refine ⟨Reachable.steps ⟨_, [], ⟨1, rfl⟩, .nil _⟩ _, by decide, ?_⟩
  intro key record hHeld
  have hAll : s.defers.entries.all (fun entry => plainlyEnded s entry.2) = true := by decide
  have hMem := (AList.mem_entries_iff s.defers key record).mpr hHeld
  exact not_servable_of_plainlyEnded (List.all_eq_true.mp hAll _ hMem)

end Coordinator

end TrafficFabric
