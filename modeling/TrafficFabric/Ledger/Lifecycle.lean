import TrafficFabric.Ledger.Machine
import TrafficFabric.Ledger.Refinement

/-
  Runs of the ledger: when terminal requests stay as they
  are, and when only the current attempt can finish a
  request.

  Main declarations:
    * `RequestLedger.Performs`
    * `RequestLedger.Retains`
    * `RequestLedger.terminal_request_absorbing`
    * `RequestLedger.committed_attempt_current`
-/

---
-- Runs
---

namespace TrafficFabric

open RequestRecord RequestView

namespace RequestLedger

variable {op : LedgerOp} {id : RequestId} {ledger : RequestLedger} {view : RequestView}
variable {record : RequestRecord} {publication : CompletionPublication} {now : Int64}

/- A step by an operation that the condition allows. -/
def Performs (allowed : RequestLedger → LedgerOp → Prop) (ledger : RequestLedger) (op : LedgerOp)
    (after : RequestLedger) : Prop :=
  allowed ledger op ∧ after = ledger.step op

/- An allowed step that does not lose the request. -/
def Retains (id : RequestId) (allowed : RequestLedger → LedgerOp → Prop) (ledger : RequestLedger)
    (op : LedgerOp) (after : RequestLedger) : Prop :=
  Performs allowed ledger op after ∧ after.contains id = true

theorem view_eq_some_iff (ledger : RequestLedger) (id : RequestId) (view : RequestView) :
    ledger.view id = some view ↔
      ∃ record, ledger.requests.lookup id = some record ∧ record.view = view :=
  Option.map_eq_some_iff

/-
  A retained request changes by a step of the machine or
  not at all.
-/
theorem step_retained (hView : ledger.view id = some view)
    (hRetained : (ledger.step op).contains id = true) :
    (ledger.step op).view id = some view ∨
      ∃ event next,
        op.event = some (id, event) ∧
          Step ledger.limits view event next ∧ (ledger.step op).view id = some next := by
  have hChange := step_change ledger id op
  have hPresent : ∃ next, (ledger.step op).view id = some next := by
    rcases Option.isSome_iff_exists.mp hRetained with ⟨record, hRecord⟩
    refine ⟨record.view, ?_⟩
    unfold RequestLedger.view
    rw [hRecord]
    rfl
  rcases hPresent with ⟨next, hNext⟩
  rw [hView, hNext] at hChange
  rw [hNext]
  cases hChange with
  | same => exact .inl rfl
  | evolved _ _ event hOp hStep => exact .inr ⟨event, next, hOp, hStep, rfl⟩

---
-- Terminal Requests
---

/-
  The operation fails an attempt of a terminal request
  that is still current and not terminal.
-/
def FailsTerminal (ledger : RequestLedger) (op : LedgerOp) : Prop :=
  ∃ id attempt reason now record entry,
    op = .failAttempt id attempt reason now ∧
      ledger.requests.lookup id = some record ∧ record.lifecycle.isTerminal = true ∧
      record.isCurrentAttempt attempt = true ∧ record.findAttempt attempt = some entry ∧
      entry.lifecycle.isTerminal = false

theorem failsTerminal_of_event {event : RequestEvent}
    (hRecord : ledger.requests.lookup id = some record)
    (hTerminal : record.lifecycle.isTerminal = true) (hOp : op.event = some (id, event))
    (hFails : record.view.FailsOpenAttempt event) : ledger.FailsTerminal op := by
  cases op with
  | failAttempt target attempt reason now =>
    simp only [LedgerOp.event, Option.some.injEq, Prod.mk.injEq] at hOp
    rcases hOp with ⟨rfl, rfl⟩
    rcases hFails with ⟨hCurrent, shown, hFind, hOpen⟩
    rw [view_findAttempt] at hFind
    rcases Option.map_eq_some_iff.mp hFind with ⟨entry, hEntry, rfl⟩
    exact ⟨target, attempt, reason, now, record, entry, rfl, hRecord, hTerminal,
      (record.isCurrentAttempt_iff attempt).mpr hCurrent, hEntry, hOpen⟩
  | _ =>
    simp only [LedgerOp.event, Option.some.injEq, Prod.mk.injEq, reduceCtorEq] at hOp
    try
      rcases hOp with ⟨-, rfl⟩
      exact hFails.elim

/- One step keeps the facts of a terminal request. -/
theorem step_terminalFacts (hView : ledger.view id = some view)
    (hTerminal : view.lifecycle.isTerminal = true) (hAllowed : ¬ ledger.FailsTerminal op)
    (hRetained : (ledger.step op).contains id = true) :
    ∃ next, (ledger.step op).view id = some next ∧ next.terminalFacts = view.terminalFacts := by
  rcases step_retained hView hRetained with hSame | ⟨event, next, hOp, hStep, hNext⟩
  · exact ⟨view, hSame, rfl⟩
  · refine ⟨next, hNext, hStep.terminalFacts_eq hTerminal ?_⟩
    intro hFails
    rcases (view_eq_some_iff ledger id view).mp hView with ⟨record, hRecord, rfl⟩
    exact hAllowed (failsTerminal_of_event hRecord hTerminal hOp hFails)

theorem run_terminalFacts {after : RequestLedger} {ops : List LedgerOp}
    (hView : ledger.view id = some view) (hTerminal : view.lifecycle.isTerminal = true)
    (hRun : Run (Retains id (fun state op => ¬ state.FailsTerminal op)) ledger ops after) :
    ∃ last, after.view id = some last ∧ last.terminalFacts = view.terminalFacts := by
  apply hRun.invariant (fun state =>
    ∃ shown, state.view id = some shown ∧ shown.terminalFacts = view.terminalFacts)
  · rintro state op next ⟨⟨hAllowed, rfl⟩, hRetained⟩ ⟨shown, hShown, hFacts⟩
    have hLifecycle : shown.lifecycle = view.lifecycle := congrArg Prod.fst hFacts
    rcases step_terminalFacts hShown (by rw [hLifecycle]; exact hTerminal) hAllowed
        hRetained with ⟨later, hLater, hSame⟩
    exact ⟨later, hLater, hSame.trans hFacts⟩
  · exact ⟨view, hView, rfl⟩

/- No operation on a terminal request counts it again. -/
theorem step_terminalCounts (hRecord : ledger.requests.lookup id = some record)
    (hTerminal : record.lifecycle.isTerminal = true) (hAllowed : ¬ ledger.FailsTerminal op)
    (hOp : op.request = some id) :
    (ledger.step op).accounting.terminalCounts = ledger.accounting.terminalCounts := by
  have hUncounted {f : AccountingSnapshot → AccountingSnapshot}
      (hCount : AccountingSnapshot.Uncounted f) :
      (f ledger.accounting).terminalCounts = ledger.accounting.terminalCounts :=
    congrArg (fun counts : RequestCounts => (counts.completed, counts.cancelled, counts.failed))
      (hCount.requests ledger.accounting)
  have hOutcome := step_outcome ledger op
  generalize ledger.succeeds op = success at hOutcome
  generalize ledger.step op = after at hOutcome ⊢
  cases hOutcome with
  | counted _ _ _ hCount | rewritten _ _ _ _ _ _ _ hCount => exact hUncounted hCount
  | retired _ _ _ _ updated _ hFound hRetires =>
    cases hRetires with
    | failed attempt reason now _ _ hOk =>
      cases hOp
      cases hRecord.symm.trans hFound
      have hStep :
          Step ledger.limits record.view (.attemptFailed attempt reason now)
            updated.view :=
        failAttempt_step hOk
      exact (hAllowed (failsTerminal_of_event hRecord hTerminal rfl hStep.failsOpenAttempt)).elim
    | cancelled _ _ _ _ hOk =>
      cases hOp
      cases hRecord.symm.trans hFound
      simp only [RequestRecord.cancelRequest, hTerminal, Result.failure] at hOk
      split at hOk
      all_goals simp at hOk
    | published _ _ _ _ hId hResult hCommitted =>
      cases hOp
      cases hId
      cases hRecord.symm.trans hFound
      rcases publishCompletion_cases ledger.limits hResult with
        ⟨hRefused, -⟩ | ⟨hSuppressed, -⟩ | ⟨-, hStep⟩
      · cases hRefused.symm.trans hCommitted
      · cases hSuppressed.symm.trans hCommitted
      · have hLive := hStep.published_live.1
        rw [view_lifecycle, hTerminal] at hLive
        cases hLive
  | interrupted _ _ _ _ hFound hLive =>
    cases hOp
    cases hRecord.symm.trans hFound
    rw [hTerminal] at hLive
    cases hLive
  | registered _ _ _ hFresh | restored _ _ _ hFresh =>
    cases hOp
    cases hRecord.symm.trans hFresh
  | refused | opened => rfl
  | _ => cases hOp

/-
  A terminal request keeps its lifecycle, stage, reason and
  timestamp for as long as it is retained, and is never
  counted again, as long as no operation fails an open
  current attempt of a terminal request.
-/
theorem terminal_request_absorbing (ledger after : RequestLedger) (ops : List LedgerOp)
    (id : RequestId) (record : RequestRecord) (hRecord : ledger.snapshotRequest id = some record)
    (hTerminal : record.lifecycle.isTerminal = true)
    (hRun : Run (Retains id (fun state op => ¬ state.FailsTerminal op)) ledger ops after) :
    (∃ later,
      after.snapshotRequest id = some later ∧
        later.lifecycle = record.lifecycle ∧ later.stage = record.stage ∧
        later.terminalReason = record.terminalReason ∧
        later.terminalAtNanos = record.terminalAtNanos) ∧
      ∀ op : LedgerOp,
        op.request = some id → ¬ after.FailsTerminal op →
        (after.step op).accounting.terminalCounts = after.accounting.terminalCounts := by
  have hView := (view_eq_some_iff ledger id record.view).mpr ⟨record, hRecord, rfl⟩
  rcases run_terminalFacts hView hTerminal hRun with ⟨last, hLast, hFacts⟩
  rcases (view_eq_some_iff after id last).mp hLast with ⟨later, hLater, rfl⟩
  simp only [terminalFacts, Prod.mk.injEq,
    view_lifecycle, view_stage, view_terminalReason,
    view_terminalAtNanos] at hFacts
  refine ⟨⟨later, hLater, hFacts⟩, ?_⟩
  intro op hOp hAllowed
  exact step_terminalCounts hLater (by rw [hFacts.1]; exact hTerminal) hAllowed hOp

theorem terminal_request_absorbing_resubmitted :
    let request : RequestId := ⟨1, 1⟩
    let publication : CompletionPublication := { request, attempt := ⟨2, 1⟩ }
    let completed :=
      (create {}).steps
        [.registerRequest request 1,
          .registerAttempt request ⟨2, 1⟩ 0 .unset .unset 2,
          .publishCompletion publication 3]
    ∃ later,
      (completed.step (.publishCompletion publication 4)).snapshotRequest request = some later ∧
        later.lifecycle = .completed := by
  intro request publication completed
  have hLifecycle :
      (completed.snapshotRequest request).map RequestRecord.lifecycle = some .completed := by
    decide
  rcases Option.map_eq_some_iff.mp hLifecycle with ⟨record, hRecord, hCompleted⟩
  have hRun :
      Run (Retains request (fun state op => ¬ state.FailsTerminal op)) completed
        [.publishCompletion publication 4] (completed.step (.publishCompletion publication 4)) := by
    apply Run.single
    refine ⟨⟨?_, rfl⟩, by decide⟩
    rintro ⟨_, _, _, _, _, _, hOp, -⟩
    cases hOp
  rcases terminal_request_absorbing completed _ _ request
      record hRecord (by rw [hCompleted]; rfl) hRun with ⟨⟨later, hLater, hSame, -⟩, -⟩
  exact ⟨later, hLater, hSame.trans hCompleted⟩

/-
  A second attempt that is still open fails a request that
  its first attempt has completed.
-/
theorem completed_request_fails_again :
    let request : RequestId := ⟨1, 1⟩
    let completed :=
      (create {}).steps
        [.registerRequest request 1,
          .registerAttempt request ⟨2, 1⟩ 0 .unset .unset 2,
          .registerAttempt request ⟨2, 2⟩ 0 .unset .unset 3,
          .publishCompletion { request, attempt := ⟨2, 1⟩ } 4]
    let failed := completed.step (.failAttempt request ⟨2, 2⟩ .attemptFailed 5)
    (completed.snapshotRequest request).map (fun record => record.view.terminalFacts) =
        some (.completed, .completed, .committedCompletion, 4) ∧
      (failed.snapshotRequest request).map (fun record => record.view.terminalFacts) =
        some (.failed, .failed, .attemptFailed, 5) ∧
      completed.accounting.terminalCounts = (1, 0, 0) ∧
      failed.accounting.terminalCounts = (1, 0, 1) := by
  decide

---
-- Displaced Attempts
---

/- Every retained request is fenced. -/
def Fenced (ledger : RequestLedger) : Prop :=
  ∀ id view, ledger.view id = some view → view.Fenced

/-
  The operation binds a new attempt over a current one
  that can still publish, or restores a record in which an
  attempt other than the current one can.
-/
def Displaces (ledger : RequestLedger) (op : LedgerOp) : Prop :=
  (∃ id event view,
    op.event = some (id, event) ∧ ledger.view id = some view ∧ view.Displaces event) ∨
    ∃ record, op = .restoreRecord record ∧ ¬ record.view.Fenced

theorem fenced_create (limits : LedgerLimits) : (create limits).Fenced := by
  intro id view hView
  cases hView

/- A step that displaces nobody keeps the fences. -/
theorem step_fenced (hFenced : ledger.Fenced) (hAllowed : ¬ ledger.Displaces op) :
    (ledger.step op).Fenced := by
  intro id view hView
  have hChange := step_change ledger id op
  rw [hView] at hChange
  cases hBefore : ledger.view id with
  | none =>
    rw [hBefore] at hChange
    cases hChange with
    | registered now hOp =>
      refine .inr ?_
      intro attempt entry hFind
      cases hFind
    | restored record hOp hId =>
      apply fenced_restored
      by_contra hOpen
      exact hAllowed (.inr ⟨record, hOp, hOpen⟩)
  | some before =>
    rw [hBefore] at hChange
    cases hChange with
    | same => exact hFenced id view hBefore
    | evolved _ _ event hOp hStep =>
      apply hStep.fenced (hFenced id before hBefore)
      intro hDisplaces
      exact hAllowed (.inl ⟨id, event, before, hOp, hBefore, hDisplaces⟩)

/-
  A committed publication is a step of the machine, and
  the record is retained as the step left it or not at all.
-/
theorem publishCompletion_committed {outcome : PublishOutcome}
    (hPublish : (ledger.publishCompletion publication now).1 = .ok outcome)
    (hCommitted : outcome.disposition = .committed) :
    publication.attempt ≠ .nil ∧
      ∃ record next,
        ledger.requests.lookup publication.request = some record ∧
          Step ledger.limits record.view (.published publication now) next ∧
          ((ledger.publishCompletion publication now).2.view publication.request = some next ∨
            (ledger.publishCompletion publication now).2.view publication.request = none) := by
  revert hPublish
  unfold publishCompletion
  split
  · simp
  rename_i hNamed
  split
  · simp
  rename_i record hRecord
  cases hResult : record.publishCompletion publication now with
  | mk result updated =>
  dsimp only
  split
  case h_4 hCommit =>
    intro _
    rcases publishCompletion_cases ledger.limits hResult with ⟨hOther, -⟩ | ⟨hOther, -⟩ | ⟨-, hStep⟩
    · cases hCommit.symm.trans hOther
    · cases hCommit.symm.trans hOther
    · refine ⟨?_, record, updated.view, hRecord, hStep,
        view_retire ledger publication.request record.id updated _⟩
      simp only [Bool.or_eq_true, not_or] at hNamed
      simpa using hNamed.2
  all_goals
    rename_i hOther
    rintro ⟨⟩
    rw [hCommitted] at hOther
    cases hOther

theorem current_of_published {limits : LedgerLimits} {next : RequestView} (hFenced : view.Fenced)
    (hStep : Step limits view (.published publication now) next) :
    publication.attempt = view.currentAttempt := by
  have hLive := hStep.published_live.1
  have hFence := hFenced.resolve_left (by simp [hLive])
  cases hStep with
  | publishedFailure _ _ entry _ _ hFind _ hOpen | publishedSuccess _ _ entry _ hFind _ hOpen =>
    exact hFence publication.attempt entry hFind hOpen

/-
  In every run that never displaces a publishable attempt,
  a publication is committed only for the current attempt
  of its request, and only the current attempt is failed.
-/
theorem committed_attempt_current
    (limits : LedgerLimits) (ledger : RequestLedger) (ops : List LedgerOp)
    (hRun : Run (Performs (fun state op => ¬ state.Displaces op)) (create limits) ops ledger) :
    (∀ publication now outcome,
      (ledger.publishCompletion publication now).1 = .ok outcome →
      outcome.disposition = .committed →
      ∃ record,
        ledger.snapshotRequest publication.request = some record ∧
          record.isCurrentAttempt publication.attempt = true) ∧
      ∀ id attempt reason now,
        (ledger.failAttempt id attempt reason now).1.isOk = true →
        ∃ record,
          ledger.snapshotRequest id = some record ∧ record.isCurrentAttempt attempt = true := by
  have hFenced : ledger.Fenced := by
    apply hRun.invariant Fenced
    · rintro state op next ⟨hAllowed, rfl⟩ hState
      exact step_fenced hState hAllowed
    · exact fenced_create limits
  refine ⟨?_, ?_⟩
  · intro publication now outcome hPublish hCommitted
    rcases publishCompletion_committed hPublish hCommitted with
      ⟨hSet, record, next, hRecord, hStep, -⟩
    have hView := (view_eq_some_iff _ _ _).mpr ⟨record, hRecord, rfl⟩
    have hCurrent := current_of_published (hFenced _ _ hView) hStep
    refine ⟨record, hRecord, ?_⟩
    rw [record.isCurrentAttempt_iff]
    exact ⟨by rw [← hCurrent]; exact hSet, hCurrent.symm⟩
  · intro id attempt reason now hOk
    unfold failAttempt at hOk
    split at hOk
    · cases hOk
    rename_i record hRecord
    refine ⟨record, hRecord, ?_⟩
    split at hOk
    · cases hOk
    · rename_i hFail
      exact failAttempt_current hFail
    · rename_i hFail
      exact failAttempt_current hFail

theorem committed_attempt_current_single :
    let request : RequestId := ⟨1, 1⟩
    let publication : CompletionPublication := { request, attempt := ⟨2, 2⟩ }
    let ops : List LedgerOp :=
      [ .registerRequest request 1,
        .registerAttempt request ⟨2, 1⟩ 0 .unset .unset 2,
        .supersedeAttempt request ⟨2, 1⟩ ⟨2, 2⟩ 3 ]
    let ledger := (create {}).steps ops
    (ledger.publishCompletion publication 4).1.map PublishOutcome.disposition = .ok .committed ∧
      ∃ record,
        ledger.snapshotRequest request = some record ∧
          record.isCurrentAttempt publication.attempt = true := by
  intro request publication ops ledger
  have hRun : Run (Performs (fun state op => ¬ state.Displaces op)) (create {}) ops ledger := by
    refine .cons ⟨?_, rfl⟩ (.cons ⟨?_, rfl⟩ (Run.single ⟨?_, rfl⟩))
    · rintro (⟨_, _, _, hOp, -⟩ | ⟨_, hOp, -⟩)
      · cases hOp
      · cases hOp
    · rintro (⟨id, event, view, hOp, hView, hDisplaces⟩ | ⟨_, hOp, -⟩)
      · cases hOp
        cases hView
        rcases hDisplaces with ⟨-, entry, hFind, -⟩
        cases hFind
      · cases hOp
    · rintro (⟨_, _, _, hOp, -, hDisplaces⟩ | ⟨_, hOp, -⟩)
      · cases hOp
        exact hDisplaces
      · cases hOp
  refine ⟨by decide, ?_⟩
  exact (committed_attempt_current {} ledger _ hRun).1 publication 4
    { disposition := .committed, reason := .committedCompletion } (by decide) rfl

/-
  The first attempt, displaced by a second registration,
  completes the request.
-/
theorem displaced_attempt_completes :
    let request : RequestId := ⟨1, 1⟩
    let publication : CompletionPublication := { request, attempt := ⟨2, 1⟩ }
    let ledger :=
      (create {}).steps
        [.registerRequest request 1,
          .registerAttempt request ⟨2, 1⟩ 0 .unset .unset 2,
          .registerAttempt request ⟨2, 2⟩ 0 .unset .unset 3]
    (ledger.snapshotRequest request).map RequestRecord.currentAttempt = some ⟨2, 2⟩ ∧
      (ledger.publishCompletion publication 4).1 =
        .ok
          { disposition := .committed
            reason := .committedCompletion } := by
  decide

end RequestLedger

end TrafficFabric
