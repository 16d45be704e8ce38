import TrafficFabric.Coordinator.Frames

/-
  What a transition of the coordinator can do to the
  authority of one request: nothing, removal, registration,
  one step of the request machine, or the interruption by a
  restart.
-/

namespace TrafficFabric

open RequestLedger

/- The request an operation is about, and the event. -/
def Op.event (s : Coordinator) : Op → Option (RequestId × RequestEvent)
| .registerAttempt request attempt _ _ => some (request, .attemptRegistered attempt)
| .revalidateRequest request attempt _ => some (request, .revalidated attempt)
| .advanceStage request attempt target _ => some (request, .stageAdvanced attempt target)
| .cancelRequest request reason now => some (request, .cancelled reason s.nextSequence now)
| .failAttempt request attempt reason now => some (request, .attemptFailed attempt reason now)
| .replaceAttempt request old new _ _ => some (request, .superseded old new)
| .publishCompletion publication now => some (publication.request, .published publication now)
| _ => none

/- The ledger operation of an operation, when it has one. -/
theorem Op.ledgerOps_cases (s : Coordinator) (op : Op) :
    op.ledgerOps s = [] ∨
      ∃ main, op.ledgerOps s = [main] ∧
        (∀ pair, main.event = some pair → op.event s = some pair) ∧
        (∀ id now, main = .registerRequest id now → op = .registerRequest id now) ∧
        main.Ordinary := by
  cases op with
  | registerRequest request now =>
    refine .inr ⟨_, rfl, ?_, ?_, trivial⟩
    · intro pair hPair
      cases hPair
    · rintro id moment ⟨⟩
      rfl
  | registerAttempt _ _ hash | replaceAttempt _ _ _ hash =>
    simp only [ledgerOps]
    cases s.resolveModel hash with
    | error status => exact .inl rfl
    | ok model =>
      refine .inr ⟨_, rfl, fun _ hPair => hPair, ?_, trivial⟩
      rintro id moment ⟨⟩
  | revalidateRequest | advanceStage | cancelRequest | failAttempt | publishCompletion =>
    refine .inr ⟨_, rfl, fun _ hPair => hPair, ?_, trivial⟩
    rintro id moment ⟨⟩
  | _ => exact .inl rfl

theorem RequestLedger.steps_restoreRecord_view
    (restored : List RequestRecord) (ledger : RequestLedger) (id : RequestId) (view : RequestView)
    (hView : (ledger.steps (restored.map LedgerOp.restoreRecord)).view id = some view) :
    ledger.view id = some view ∨
      ∃ record ∈ restored, record.id = id ∧ view = record.view.restored := by
  induction restored generalizing ledger with
  | nil => exact .inl hView
  | cons record rest ih =>
    rcases ih (ledger.step (.restoreRecord record)) hView with hBefore | ⟨later, hMem, hLater⟩
    · have hChange := step_change ledger id (.restoreRecord record)
      rw [hBefore] at hChange
      generalize hOld : ledger.view id = old at hChange
      cases hChange with
      | same => exact .inl rfl
      | restored restored hOp hId =>
        cases hOp
        exact .inr ⟨record, by simp, hId, rfl⟩
      | registered _ hOp | evolved _ _ _ hOp => cases hOp
    · exact .inr ⟨later, by simp [hMem], hLater⟩

---
-- Transitions
---

namespace Coordinator

variable {mt : Generator} {s : Coordinator}
variable {id : RequestId} {view : RequestView} {config : CoordinatorConfig}

/- What a transition may do to the view of a request. -/
inductive ViewChange (s : Coordinator) (label : Label) (id : RequestId) :
    Option RequestView → Option RequestView → Prop
| same (view : Option RequestView) : ViewChange s label id view view
| removed (view : Option RequestView) : ViewChange s label id view none
| registered (now : Int64) (hLabel : label = .op (.registerRequest id now)) :
    ViewChange s label id none (some (RequestRecord.registered id now).view)
| evolved (view next : RequestView) (op : Op) (event : RequestEvent) (hLabel : label = .op op)
    (hEvent : op.event s = some (id, event))
    (hStep : RequestView.Step s.ledger.limits view event next) :
    ViewChange s label id (some view) (some next)
| restored (view : RequestView) (hLabel : ∀ op, label ≠ .op op) :
    ViewChange s label id (some view) (some view.restored)

theorem step_viewChange (s : Coordinator) (op : Op) (id : RequestId) :
    ViewChange s (.op op) id (s.ledger.view id) ((s.step op).ledger.view id) := by
  rcases step_ledger s op with ⟨quiet, hQuiet, hLedger⟩
  rw [hLedger, steps_quiet _ id quiet hQuiet]
  rcases op.ledgerOps_cases s with hNone | ⟨main, hMain, hEvent, hRegister, hOrdinary⟩
  · rw [hNone]
    exact .same _
  · rw [hMain]
    have hChange := step_change s.ledger id main
    change ViewChange s (.op op) id (s.ledger.view id) ((s.ledger.step main).view id)
    generalize s.ledger.view id = before at hChange ⊢
    generalize (s.ledger.step main).view id = after at hChange ⊢
    cases hChange with
    | same => exact .same _
    | removed => exact .removed _
    | registered now hOp => exact .registered now (by rw [hRegister id now hOp])
    | restored record hOp =>
      rw [hOp] at hOrdinary
      exact hOrdinary.elim
    | evolved view next event hOp hStep =>
      exact .evolved view next op event rfl (hEvent _ hOp) hStep

/- A live request is retained until an operation ends it. -/
theorem step_contains_of_live (hCoherent : s.ledger.Coherent) (op : Op)
    (hView : s.ledger.view id = some view) (hLive : view.lifecycle.isTerminal = false)
    (hSpared : ∀ event, op.event s = some (id, event) → ¬ event.Ends) :
    ∃ next, (s.step op).ledger.view id = some next := by
  rcases step_ledger s op with ⟨quiet, hQuiet, hLedger⟩
  rw [hLedger, steps_quiet _ id quiet hQuiet]
  rcases op.ledgerOps_cases s with hNone | ⟨main, hMain, hEvent, -, hOrdinary⟩
  · rw [hNone]
    exact ⟨view, hView⟩
  · have hHeld := contains_step_of_live hCoherent main hOrdinary hView hLive
      (fun event hOp => hSpared event (hEvent _ hOp))
    rw [hMain]
    rcases Option.isSome_iff_exists.mp hHeld with ⟨record, hRecord⟩
    exact ⟨record.view, view_of_lookup hRecord⟩

/- A boot restores records of the document, or none. -/
theorem bootFrom_ledger (mt : Generator) (s : Coordinator) (document : PersistedCoordinatorState) :
    ∃ restored ⊆ document.terminalRequests ++ document.interruptedRequests,
      (s.bootFrom mt document).2.ledger =
        s.ledger.clear.steps (restored.map LedgerOp.restoreRecord) := by
  rcases restoreRecords_steps
    (document.terminalRequests ++ document.interruptedRequests) s.ledger.clear with
    ⟨restored, hSubset, hSteps⟩
  unfold bootFrom restoreState
  cases s.clearState.validateRestoredState document with
  | error => exact ⟨[], List.nil_subset _, rfl⟩
  | ok =>
    simp only
    split
    · refine ⟨[], List.nil_subset _, ?_⟩
      change clear (s.ledger.clear.restoreRecords _).2 = _
      rw [hSteps, clear, steps_limits]
      rfl
    · exact ⟨restored, hSubset, hSteps⟩

theorem bootFrom_view {document : PersistedCoordinatorState}
    (hView : (s.bootFrom mt document).2.ledger.view id = some view) :
    ∃ record ∈ document.terminalRequests ++ document.interruptedRequests,
      record.id = id ∧ view = record.view.restored := by
  rcases bootFrom_ledger mt s document with ⟨restored, hSubset, hLedger⟩
  rw [hLedger] at hView
  rcases steps_restoreRecord_view restored _ id view hView with hOld | ⟨record, hMem, hRecord⟩
  · cases hOld
  · exact ⟨record, hSubset hMem, hRecord⟩

/- Booting the exported document interrupts live requests. -/
theorem bootFrom_exportState_viewChange (mt : Generator) (base : Coordinator) {label : Label}
    (hCoherent : s.ledger.Coherent) (hLabel : ∀ op, label ≠ .op op) (id : RequestId) :
    ViewChange s label id (s.ledger.view id)
      ((base.bootFrom mt s.exportState).2.ledger.view id) := by
  cases hAfter : (base.bootFrom mt s.exportState).2.ledger.view id with
  | none => exact .removed _
  | some view =>
    rcases bootFrom_view hAfter with ⟨record, hMem, hId, rfl⟩
    rcases mem_exportRecords hMem with ⟨key, hLookup⟩
    have hKey := hCoherent.keyed key record hLookup
    have hBefore : s.ledger.view id = some record.view := by
      unfold view
      rw [← hId, hKey, hLookup]
      rfl
    rw [hBefore]
    exact .restored record.view hLabel

theorem Booted.ledger (hBooted : Booted mt s) :
    ∃ (ledger : RequestLedger) (restored : List RequestRecord),
      s.ledger = ledger.clear.steps (restored.map LedgerOp.restoreRecord) := by
  cases hBooted with
  | fresh base => exact ⟨base.ledger, [], rfl⟩
  | restored base document =>
    rcases bootFrom_ledger mt base document with ⟨restored, -, hLedger⟩
    exact ⟨base.ledger, restored, hLedger⟩

theorem Booted.coherent (hBooted : Booted mt s) : s.ledger.Coherent := by
  rcases hBooted.ledger with ⟨ledger, restored, hLedger⟩
  rw [hLedger]
  exact (Coherent.clear ledger).steps _

namespace Transition

variable {mt : Generator} {s t : Coordinator} {label : Label}

/- The tables of the ledger stay coherent. -/
theorem coherent (hTransition : Transition mt s label t) (hCoherent : s.ledger.Coherent) :
    t.ledger.Coherent := by
  rcases hTransition.booted_or_step with hBooted | ⟨op, -, rfl⟩
  · exact hBooted.coherent
  · rcases step_ledger s op with ⟨quiet, -, hLedger⟩
    rw [hLedger]
    exact (hCoherent.steps _).steps quiet

/- Everything a transition does to one request. -/
theorem viewChange (hTransition : Transition mt s label t) (hCoherent : s.ledger.Coherent)
    (id : RequestId) : ViewChange s label id (s.ledger.view id) (t.ledger.view id) := by
  cases hTransition with
  | op op => exact step_viewChange s op id
  | bootFresh => exact .removed _
  | reboot =>
    exact bootFrom_exportState_viewChange mt s hCoherent (fun _ hLabel => by cases hLabel) id
  | restart _ entropy epoch hBoot =>
    have hChange : ViewChange s (.restart entropy) id _ _ :=
      bootFrom_exportState_viewChange mt (create s.config entropy) hCoherent
        (fun _ hLabel => by cases hLabel) id
    rw [hBoot] at hChange
    exact hChange

end Transition

theorem Started.coherent (hStarted : Started mt config s) : s.ledger.Coherent :=
  hStarted.booted.coherent

theorem Reachable.coherent (hReachable : Reachable mt config s) : s.ledger.Coherent := by
  rcases hReachable with ⟨start, labels, hStarted, hRun⟩
  exact hRun.invariant (fun state => state.ledger.Coherent)
    (fun _ _ _ hStep => hStep.coherent) hStarted.coherent

end Coordinator

end TrafficFabric
