import TrafficFabric.Coordinator.Histories

/-
  Cancellation closes a request: from a successful
  cancellation on, for as long as the record is retained,
  nothing acts for the request or for a transfer it owns.
-/

namespace TrafficFabric

open RequestLedger RequestView

namespace Coordinator

variable {mt : Generator} {s t : Coordinator} {label : Label} {id : RequestId}
variable {labels : List Label} {now : Int64}
variable {reason : ReasonCode}

/- The label opens no flow outside the guards. -/
def Orderly (s : Coordinator) (label : Label) : Prop :=
  ∀ op, label = .op op → ¬ op.Unguarded s

/- What every state of an orderly run satisfies. -/
structure Kept (s : Coordinator) : Prop where
  coherent : s.ledger.Coherent
  indexed : s.carriage.Indexed
  closed : ∀ id view, s.ledger.view id = some view → view.lifecycle = .cancelled → view.Closed

/- A cancelled request has no open attempt. -/
theorem Transition.closed (hTransition : Transition mt s label t) (hKept : s.Kept)
    (view : RequestView) (hView : t.ledger.view id = some view)
    (hCancelled : view.lifecycle = .cancelled) : view.Closed := by
  have hChange := hTransition.viewChange hKept.coherent id
  rw [hView] at hChange
  generalize hBefore : s.ledger.view id = before at hChange
  cases hChange with
  | same => exact hKept.closed id view hBefore hCancelled
  | registered => cases hCancelled
  | evolved old _ op event _ _ hStep =>
    exact hStep.closed_of_cancelled (hKept.closed id old hBefore) hCancelled
  | restored old =>
    unfold restored at hCancelled ⊢
    split
    · rename_i hDone
      rw [if_pos hDone] at hCancelled
      exact hKept.closed id old hBefore hCancelled
    · rename_i hLive
      rw [if_neg hLive] at hCancelled
      cases hCancelled

theorem Transition.indexed (hTransition : Transition mt s label t) (hOrderly : s.Orderly label)
    (hIndexed : s.carriage.Indexed) : t.carriage.Indexed := by
  rcases hTransition.carriage with hEmpty | ⟨op, hLabel, hMoves⟩
  · rw [hEmpty]
    exact Carriage.indexed_empty
  · exact hMoves.invariant Carriage.Indexed
      (fun _ _ hMove => hMove.indexed (hOrderly op hLabel)) hIndexed

theorem Kept.transition (hKept : s.Kept) (hTransition : Transition mt s label t)
    (hOrderly : s.Orderly label) :
    t.Kept where
  coherent := hTransition.coherent hKept.coherent
  indexed := hTransition.indexed hOrderly hKept.indexed
  closed _ := hTransition.closed hKept

theorem Started.kept {config : CoordinatorConfig} (hStarted : Started mt config s) : s.Kept where
  coherent := hStarted.coherent
  indexed := by
    rcases hStarted with ⟨entropy, rfl⟩
    exact Carriage.indexed_empty
  closed := by
    rcases hStarted with ⟨entropy, rfl⟩
    intro id view hView
    cases hView

theorem Kept.run (hKept : s.Kept) (hRun : Run (Guarded Orderly (Transition mt)) s labels t) :
    t.Kept :=
  hRun.invariant Kept (fun _ _ _ hStep hBefore => hBefore.transition hStep.2 hStep.1) hKept

/- Operations that open no flow make an orderly run. -/
theorem run_orderly (mt : Generator) (s : Coordinator) (ops : List Op)
    (hGuarded : ∀ op ∈ ops, ∀ state, ¬ op.Unguarded state) :
    Run (Guarded Orderly (Transition mt)) s (ops.map Label.op) (s.steps ops) := by
  induction ops generalizing s with
  | nil => exact .nil s
  | cons op rest ih =>
    refine .cons ⟨?_, .op s op⟩ (ih (s.step op) ?_)
    · rintro other ⟨⟩
      exact hGuarded op (by simp) s
    · intro other hMem
      exact hGuarded other (by simp [hMem])

---
-- Cancelled Requests
---

/- Nothing is left that could act for the request. -/
structure Cut (id : RequestId) (s : Coordinator) : Prop where
  closed : ∀ view, s.ledger.view id = some view → view.Closed
  severed : s.carriage.Severed id

/- What a successful cancellation does to the request. -/
theorem cancelRequest_view (hCancelled : (s.cancelRequest id reason now).1.isOk = true) :
    ∃ record next,
      s.ledger.requests.lookup id = some record ∧
        Step s.ledger.limits record.view (.cancelled reason s.nextSequence now) next ∧
        next.lifecycle = .cancelled ∧
        ∀ view,
          (s.step (.cancelRequest id reason now)).ledger.view id = some view → view = next := by
  rcases cancelRequest_ok hCancelled with ⟨record, next, hRecord, hStep, hAfter⟩
  refine ⟨record, next, hRecord, hStep, ?_, ?_⟩
  · cases hStep with
    | cancelled => rfl
    | cancelledAgain _ _ _ hAgain => exact hAgain
  · intro view hView
    rcases step_ledger s (.cancelRequest id reason now) with ⟨quiet, hQuiet, hLedger⟩
    rw [hLedger, steps_quiet _ _ quiet hQuiet] at hView
    change (s.ledger.cancelRequest id reason s.nextSequence now).2.view id = some view at hView
    rcases hAfter with hSome | hNone
    · rw [hSome] at hView
      cases hView
      rfl
    · rw [hNone] at hView
      cases hView

/- A successful cancellation cuts the request off. -/
theorem cancelRequest_cut (hKept : s.Kept)
    (hCancelled : (s.cancelRequest id reason now).1.isOk = true) :
    (s.step (.cancelRequest id reason now)).Cut id := by
  rcases cancelRequest_view hCancelled with ⟨record, next, hRecord, hStep, hDone, hAfter⟩
  have hBefore := hKept.closed id record.view (view_of_lookup hRecord)
  have hClosed : next.Closed := hStep.closed_of_cancelled hBefore hDone
  refine ⟨?_, ?_⟩
  · intro view hView
    rw [hAfter view hView]
    exact hClosed
  · have hReleased := releaseRequestFlows_severed
      (s.advanceSequence.withLedger
        (s.ledger.cancelRequest id reason s.nextSequence now).2) hKept.indexed
      (hKept.coherent.ne_nil hRecord)
    have hStepped :
        s.step (.cancelRequest id reason now) =
          (s.advanceSequence.withLedger
            (s.ledger.cancelRequest id reason
              s.nextSequence now).2).releaseRequestFlows
                id := by
      exact if_pos hCancelled
    rw [hStepped]
    exact hReleased

/- A closed request that is retained may do nothing. -/
theorem not_serves_of_closed (hClosed : ∀ view, s.ledger.view id = some view → view.Closed) :
    ¬ s.Serves id := by
  rintro ⟨record, hRecord, hLive, -⟩
  have hDone := (hClosed record.view (view_of_lookup hRecord)).cancelled
  rw [RequestRecord.view_lifecycle] at hDone
  rw [hDone] at hLive
  cases hLive

theorem not_owns_of_closed (hHeld : s.ledger.contains id = true)
    (hClosed : ∀ view, s.ledger.view id = some view → view.Closed) : ¬ s.Owns id := by
  rcases exists_view_of_contains hHeld with ⟨view, hView⟩
  rcases (view_eq_some_iff _ _ _).mp hView with ⟨record, hRecord, rfl⟩
  have hDone := (hClosed _ hView).cancelled
  rw [RequestRecord.view_lifecycle] at hDone
  unfold Owns RequestLedger.isCancelled
  rw [hRecord]
  simp [hDone]

/- An orderly transition keeps a retained request cut. -/
theorem Cut.step (hCut : s.Cut id) (hKept : s.Kept)
    (hStep : Guarded Orderly (Holding mt id) s label t) : t.Cut id := by
  rcases hStep with ⟨hOrderly, hHolding⟩
  refine ⟨?_, ?_⟩
  · have hAllowed :
        Guarded (fun _ _ => True) (Holding mt id) s label
          t := ⟨trivial, hHolding⟩
    refine step_view ?_ ?_ hAllowed hKept.coherent hCut.closed
    · intro op event view next _ _ _ _ hMachine hBefore
      exact (hMachine.closed hBefore).1
    · intro view hBefore
      unfold restored
      rw [if_pos (by rw [hBefore.cancelled]; rfl)]
      exact hBefore
  · rcases hHolding.2.carriage with hEmpty | ⟨op, hLabel, hMoves⟩
    · rw [hEmpty]
      exact Carriage.severed_empty id
    · rcases exists_view_of_contains hHolding.1 with ⟨view, hView⟩
      rcases (view_eq_some_iff _ _ _).mp hView with ⟨record, hRecord, -⟩
      exact (hMoves.severed (hOrderly op hLabel) hKept.indexed (hKept.coherent.ne_nil hRecord)
        (not_serves_of_closed hCut.closed) (not_owns_of_closed hHolding.1 hCut.closed)
        hCut.severed).2

theorem Cut.run (hCut : s.Cut id) (hKept : s.Kept)
    (hRun : Run (Guarded Orderly (Holding mt id)) s labels t) : t.Kept ∧ t.Cut id := by
  apply hRun.invariant (fun state => state.Kept ∧ state.Cut id)
  · rintro before entry after hStep ⟨hFine, hBefore⟩
    exact ⟨hFine.transition hStep.2.2 hStep.1, hBefore.step hFine hStep⟩
  · exact ⟨hKept, hCut⟩

theorem run_floor {first : RequestView} (hRun : Run (Guarded Orderly (Holding mt id)) s labels t)
    (hCoherent : s.ledger.Coherent) (hClosed : ∀ view, s.ledger.view id = some view → view.Closed)
    (hFirst : s.ledger.view id = some first) (last : RequestView)
    (hLast : t.ledger.view id = some last) :
    first.authorityFloor.value ≤ last.authorityFloor.value := by
  have hBoth := run_view (P := fun view => view.Closed ∧
        first.authorityFloor.value ≤ view.authorityFloor.value)
      (fun state op event view next _ _ _ _ hMachine hBefore => by
          rcases hMachine.closed hBefore.1 with ⟨hAfter, hFloor⟩
          exact ⟨hAfter, UInt64.le_trans hBefore.2 hFloor⟩)
      (fun view hBefore => by
        unfold restored
        rw [if_pos (by rw [hBefore.1.cancelled]; rfl)]
        exact hBefore)
      hRun hCoherent
      (fun view hView => by
        have hSame := hFirst.symm.trans hView
        cases hSame
        exact ⟨hClosed first hFirst, UInt64.le_refl _⟩)
      last hLast
  exact hBoth.2

/-
  After a successful cancellation in an orderly run, for as
  long as the record is retained: the request stays
  cancelled, its floor never sinks, no decision permits its
  traffic or that of a transfer it owns, no such decision
  opens a flow, no completion is committed, and no open
  flow belongs to it or to a transfer it owns.
-/
theorem cancelled_request_closed (mt : Generator) (config : CoordinatorConfig)
    (start s u t : Coordinator) (before middle after : List Label) (id : RequestId)
    (reason : ReasonCode) (now : Int64) (hStarted : Started mt config start)
    (hBefore : Run (Guarded Orderly (Transition mt)) start before s)
    (hCancelled : (s.cancelRequest id reason now).1.isOk = true)
    (hMiddle :
      Run (Guarded Orderly (Holding mt id)) (s.step (.cancelRequest id reason now)) middle u)
    (hAfter : Run (Guarded Orderly (Holding mt id)) u after t) :
    (∀ last,
      t.ledger.snapshotRequest id = some last →
      last.lifecycle = .cancelled) ∧
      (∀ first last,
        u.ledger.snapshotRequest id = some first → t.ledger.snapshotRequest id = some last →
        first.authorityFloor.value ≤ last.authorityFloor.value) ∧
      (∀ request subject moment victim,
        request.subject = some subject →
        (subject.kind = .serving ∧ subject.request = id) ∨
          (subject.kind = .transfer ∧
            ∃ transfer,
              t.transfers.lookup subject.transfer = some transfer ∧ transfer.request = id) →
        (t.evaluate request moment victim).1.permitsTraffic = false) ∧
      (∀ decision bytes moment,
        (decision.subject.kind = .serving ∧
            decision.subject.request = id) ∨
          (decision.subject.kind = .transfer ∧
            ∃ transfer,
              t.transfers.lookup decision.subject.transfer = some transfer ∧
                transfer.request = id) →
        (t.openFlow decision bytes moment).1.isOk = false) ∧
      (∀ publication moment outcome,
        publication.request = id → (t.publishCompletion publication moment).1 = .ok outcome →
        outcome.disposition ≠ .committed) ∧
      (∀ flow opened,
        t.flows.lookup flow = some opened →
        opened.request ≠ id ∧
          ∀ transfer, t.transfers.lookup opened.transfer = some transfer → transfer.request ≠ id) ∧
      ∀ flow opened, t.ledger.flows.lookup flow = some opened → opened.request ≠ id := by
  have hKept := hStarted.kept.run hBefore
  have hCut := cancelRequest_cut hKept hCancelled
  have hOrderly : s.Orderly (.op (.cancelRequest id reason now)) := by
    rintro op ⟨⟩ hUnguarded
    exact hUnguarded
  have hStepped :
      Transition mt s (.op (.cancelRequest id reason now))
        (s.step (.cancelRequest id reason now)) := .op s _
  rcases hCut.run (hKept.transition hStepped hOrderly) hMiddle with ⟨hKeptMiddle, hCutMiddle⟩
  rcases hCutMiddle.run hKeptMiddle hAfter with ⟨hKeptLast, hCutLast⟩
  have hServes := not_serves_of_closed hCutLast.closed
  have hCancelledLast :
      ∀ last, t.ledger.snapshotRequest id = some last → last.lifecycle = .cancelled := by
    intro last hLast
    exact (hCutLast.closed _ (view_of_lookup hLast)).cancelled
  have hTerminal {transfer : TransferRecord} {key : StateTransferId}
      (hTransfer : t.transfers.lookup key = some transfer)
      (hOwner : transfer.request = id)
      (hLive : transfer.state.isTerminal = false) : False := by
    have hDone := hCutLast.severed.closed key transfer hTransfer hOwner
    rw [hLive] at hDone
    cases hDone
  refine ⟨hCancelledLast, ?_, ?_, ?_, ?_, ?_, ?_⟩
  · intro first last hFirst hLast
    exact run_floor hAfter hKeptMiddle.coherent hCutMiddle.closed
      (view_of_lookup hFirst) last.view (view_of_lookup hLast)
  · intro request subject moment victim hSubject hOwn
    by_contra hPermits
    rw [Bool.not_eq_false] at hPermits
    rcases hOwn with ⟨hKind, rfl⟩ | ⟨hKind, owned, hOwned, hOwner⟩
    · rcases evaluate_serving hSubject hKind hPermits with ⟨record, hRecord, hLive, hValid, -⟩
      exact hServes ⟨record, hRecord, hLive, hValid⟩
    · rcases (evaluate_grounds hPermits).transfer hSubject hKind with ⟨transfer, hTransfer⟩
      cases hOwned.symm.trans hTransfer.retained
      exact hTerminal hOwned hOwner hTransfer.live
  · intro decision bytes moment hOwn
    by_contra hOk
    rw [Bool.not_eq_false] at hOk
    rcases hOwn with ⟨hKind, rfl⟩ | ⟨hKind, owned, hOwned, hOwner⟩
    · rcases openFlow_servingUse hKind hOk with ⟨record, hUse⟩
      exact hServes ⟨record, hUse.retained, hUse.live, hUse.valid⟩
    · have hUse := (openFlow_use hOk).2.2
      rw [SubjectUse, hKind] at hUse
      rcases hUse with ⟨transfer, hTransfer⟩
      cases hOwned.symm.trans hTransfer.retained
      exact hTerminal hOwned hOwner hTransfer.live
  · rintro publication moment outcome rfl hPublish hCommitted
    rcases (publishCompletion_committed hPublish hCommitted).1 with ⟨view, next, hView, hStep⟩
    have hLive := hStep.published_live.1
    rw [(hCutLast.closed view hView).cancelled] at hLive
    cases hLive
  · intro flow opened hOpened
    exact ⟨hCutLast.severed.unserved flow opened hOpened,
      fun transfer => hCutLast.severed.uncarried flow opened transfer hOpened⟩
  · rintro flow opened hOpened rfl
    rcases hKeptLast.coherent.served flow opened hOpened with ⟨record, hRecord, hLive⟩
    rw [hCancelledLast record hRecord] at hLive
    cases hLive

def currentStamp (s : Coordinator) : AuthorityStamp where
  epoch := s.epoch
  incarnation := s.incarnation
  policy := s.policy.generation
  sequence := ⟨1⟩

def cancelledOwner : Coordinator :=
  ownedTransfer.step (.cancelRequest ⟨0, 1⟩ .rejectedRequestCancelled 3)

theorem cancelled_request_closed_owner :
    let u := cancelledOwner.step (.registerRequest ⟨0, 5⟩ 4)
    let t := u.step (.cancelRequest ⟨0, 1⟩ .rejectedRequestCancelled 5)
    let decision : Decision :=
      { outcome := .allowed
        subject := { kind := .transfer, transfer := ⟨0, 9⟩ }
        authority := t.currentStamp }
    (t.openFlow decision 0 6).1.isOk = false := by
  intro u t decision
  have hRun :=
    run_orderly sampleGenerator sampleStart ownedTransferOps
      (by simp [ownedTransferOps, generationOps, Op.Unguarded])
  have hOrderly (state : Coordinator) (op : Op) (hGuarded : ¬ op.Unguarded state) :
      state.Orderly (.op op) := by
    rintro other ⟨⟩
    exact hGuarded
  have hMiddle :
      Run (Guarded Orderly (Holding sampleGenerator ⟨0, 1⟩)) cancelledOwner
        [.op (.registerRequest ⟨0, 5⟩ 4)] u :=
    Run.single ⟨hOrderly _ _ id, by decide, .op _ _⟩
  have hAfter :
      Run (Guarded Orderly (Holding sampleGenerator ⟨0, 1⟩)) u
        [.op (.cancelRequest ⟨0, 1⟩ .rejectedRequestCancelled 5)] t :=
    Run.single ⟨hOrderly _ _ id, by decide, .op _ _⟩
  have hTransfer : (t.transfers.lookup ⟨0, 9⟩).map TransferRecord.request = some ⟨0, 1⟩ := by
    decide
  rcases Option.map_eq_some_iff.mp hTransfer with ⟨transfer, hHeld, hOwner⟩
  exact (cancelled_request_closed sampleGenerator {} sampleStart ownedTransfer u t _ _ _ ⟨0, 1⟩
    .rejectedRequestCancelled 3 sampleStart_started hRun (by decide) hMiddle
    hAfter).2.2.2.1 decision 0 6 (.inr ⟨rfl, transfer, hHeld, hOwner⟩)

/-
  A permitting decision whose subject is of no known kind
  opens a flow on the terminal transfer of the cancelled
  request.
-/
theorem cancelled_owner_flow_opened :
    let decision : Decision :=
      { outcome := .allowed
        treatment := { trafficClass := .stateTransfer }
        subject := { kind := .unknown, transfer := ⟨0, 9⟩ }
        authority := cancelledOwner.currentStamp }
    let opened := cancelledOwner.step (.openFlow decision 0 4)
    Reachable sampleGenerator {} cancelledOwner ∧
      (ownedTransfer.cancelRequest ⟨0, 1⟩ .rejectedRequestCancelled 3).1.isOk = true ∧
      (cancelledOwner.openFlow decision 0 4).1.isOk = true ∧
      opened.ledger.isCancelled ⟨0, 1⟩ = true ∧
      (opened.transfers.lookup ⟨0, 9⟩).map TransferRecord.request = some ⟨0, 1⟩ ∧
      opened.flows.values.map FlowRecord.transfer = [⟨0, 9⟩] :=
  ⟨(sampleStart_reachable ownedTransferOps).step (.op ownedTransfer _),
    by decide, by decide, by decide, by decide, by decide⟩

end Coordinator

end TrafficFabric
