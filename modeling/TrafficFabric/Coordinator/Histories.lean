import TrafficFabric.Coordinator.Fleet
import TrafficFabric.Ledger.Lifecycle

/-
  Histories of one request, for as long as its record is
  retained: a completion is committed at most once, a
  superseded attempt stays behind its fence, and a restored
  request stays idle until it is revalidated.

  Main declarations:
    * `Coordinator.Holding`
    * `Coordinator.commits`
    * `Coordinator.superseded_attempt_fenced`
    * `Coordinator.restored_request_idle`
-/

---
-- Retained Requests
---

namespace TrafficFabric

open RequestLedger RequestView

namespace Coordinator

variable {mt : Generator} {s t : Coordinator} {label : Label} {id : RequestId}
variable {allowed : Coordinator → Label → Prop} {P : RequestView → Prop}

/- A transition from a state that retains the request. -/
def Holding (mt : Generator) (id : RequestId) (s : Coordinator) (label : Label) (t : Coordinator) :
    Prop :=
  s.ledger.contains id = true ∧ Transition mt s label t

theorem exists_view_of_contains (hHeld : s.ledger.contains id = true) :
    ∃ view, s.ledger.view id = some view := by
  rcases Option.isSome_iff_exists.mp hHeld with ⟨record, hRecord⟩
  exact ⟨record.view, view_of_lookup hRecord⟩

/-
  One transition keeps a property of the view that the
  allowed steps of the machine and restarts keep.
-/
theorem step_view
    (hEvent :
      ∀ op event view next,
        allowed s (.op op) → op.event s = some (id, event) → s.ledger.view id = some view →
        (s.step op).ledger.view id = some next → Step s.ledger.limits view event next →
        P view → P next) (hRestored : ∀ view, P view → P view.restored)
    (hStep : Guarded allowed (Holding mt id) s label t) (hCoherent : s.ledger.Coherent)
    (hBefore : ∀ view, s.ledger.view id = some view → P view) (view : RequestView)
    (hAfter : t.ledger.view id = some view) : P view := by
  rcases hStep with ⟨hAllowed, hHeld, hTransition⟩
  rcases exists_view_of_contains hHeld with ⟨old, hOld⟩
  have hChange := hTransition.viewChange hCoherent id
  rw [hOld, hAfter] at hChange
  cases hChange with
  | same => exact hBefore _ hOld
  | evolved _ _ op event hLabel hOp hMachine =>
    subst hLabel
    cases hTransition
    exact hEvent op event old view hAllowed hOp hOld hAfter hMachine (hBefore old hOld)
  | restored _ hLabel => exact hRestored old (hBefore old hOld)

/- The same along a run that retains the request. -/
theorem run_view {labels : List Label}
    (hEvent :
      ∀ s op event view next,
        allowed s (.op op) → op.event s = some (id, event) → s.ledger.view id = some view →
        (s.step op).ledger.view id = some next → Step s.ledger.limits view event next →
        P view → P next) (hRestored : ∀ view, P view → P view.restored)
    (hRun : Run (Guarded allowed (Holding mt id)) s labels t) (hCoherent : s.ledger.Coherent)
    (hStart : ∀ view, s.ledger.view id = some view → P view) :
    ∀ view, t.ledger.view id = some view → P view := by
  apply hRun.invariant_of_invariant (fun state => state.ledger.Coherent)
    (fun state => ∀ view, state.ledger.view id = some view → P view)
  · rintro before entry after ⟨-, -, hTransition⟩ hBefore
    exact hTransition.coherent hBefore
  · intro before entry after hStep hFine hBefore
    exact step_view (hEvent before) hRestored hStep hFine hBefore
  · exact hCoherent
  · exact hStart

end Coordinator

---
-- Committed Completions
---

def countPublication (disposition : Disposition) (accounting : AccountingSnapshot) :
    AccountingSnapshot :=
  match disposition with
  | .duplicateSuppressed =>
    { accounting with completionsSuppressed := accounting.completionsSuppressed + 1 }
  | .refused =>
    { accounting with completionsRefused := accounting.completionsRefused + 1 }
  | .unknown | .committed => accounting

namespace Coordinator

variable {mt : Generator} {s t : Coordinator} {label : Label} {id : RequestId}
variable {publication : CompletionPublication} {now : Int64} {outcome : PublishOutcome}

def commits (id : RequestId) (s : Coordinator) : Label → Bool
| .op (.publishCompletion publication now) =>
  decide (publication.request = id) &&
    match (s.publishCompletion publication now).1 with
    | .ok outcome => decide (outcome.disposition = .committed)
    | .error _ => false
| _ => false

/- The coordinator answers what the ledger answered. -/
theorem publishCompletion_disposition
    (hPublish : (s.publishCompletion publication now).1 = .ok outcome) :
    ∃ inner,
      (s.ledger.publishCompletion publication now).1 = .ok inner ∧
        inner.disposition = outcome.disposition := by
  unfold publishCompletion at hPublish
  dsimp only at hPublish
  split at hPublish
  · cases hPublish
  rename_i inner hInner
  refine ⟨inner, hInner, ?_⟩
  split at hPublish
  · cases hPublish
    rfl
  · cases hPublish
    unfold repeatTotals
    split
    · rfl
    · split
      · rfl
      · rfl

/- A commit needs a live request and ends it. -/
theorem publishCompletion_committed
    (hPublish : (s.publishCompletion publication now).1 = .ok outcome)
    (hCommitted : outcome.disposition = .committed) :
    (∃ view next,
      s.ledger.view publication.request = some view ∧
        Step s.ledger.limits view (.published publication now) next) ∧
      ∀ view,
        (s.step (.publishCompletion publication now)).ledger.view publication.request = some view →
        view.lifecycle.isTerminal = true := by
  rcases publishCompletion_disposition hPublish with ⟨inner, hInner, hSame⟩
  rcases RequestLedger.publishCompletion_committed hInner (hSame.trans hCommitted) with
    ⟨-, record, next, hRecord, hStep, hAfter⟩
  refine ⟨⟨record.view, next, RequestLedger.view_of_lookup hRecord, hStep⟩, ?_⟩
  intro view hView
  rcases step_ledger s (.publishCompletion publication now) with ⟨quiet, hQuiet, hLedger⟩
  rw [hLedger, RequestLedger.steps_quiet _ _ quiet hQuiet] at hView
  change (s.ledger.publishCompletion publication
    now).2.view publication.request = some view at hView
  rcases hAfter with hKept | hGone
  · rw [hKept] at hView
    cases hView
    exact hStep.published_live.2
  · rw [hGone] at hView
    cases hView

theorem commits_step (hCommits : commits id s label = true)
    (hTransition : Transition mt s label t) :
    (∃ view, s.ledger.view id = some view ∧
      view.lifecycle.isTerminal = false) ∧
      ∀ view, t.ledger.view id = some view → view.lifecycle.isTerminal = true := by
  unfold commits at hCommits
  split at hCommits
  · simp only [Bool.and_eq_true, decide_eq_true_eq] at hCommits
    rcases hCommits with ⟨rfl, hCommits⟩
    cases hTransition
    split at hCommits
    · rename_i outcome hPublish
      rcases publishCompletion_committed hPublish (of_decide_eq_true hCommits) with
        ⟨⟨view, next, hView, hStep⟩, hAfter⟩
      exact ⟨⟨view, hView, hStep.published_live.1⟩, hAfter⟩
    · cases hCommits
  · cases hCommits

/- How often a history commits a completion. -/
def commitCount (id : RequestId) (history : List (Coordinator × Label)) : Nat :=
  history.countP (fun entry => commits id entry.1 entry.2)

theorem commitCount_cons
    (id : RequestId) (entry : Coordinator × Label) (rest : List (Coordinator × Label)) :
    commitCount id (entry :: rest) = commitCount id rest +
        if commits id entry.1 entry.2 then 1 else 0 :=
  List.countP_cons

/- A terminal request stays terminal while retained. -/
theorem Holding.terminal (hHolding : Holding mt id s label t) (hCoherent : s.ledger.Coherent)
    (hTerminal : ∀ view, s.ledger.view id = some view → view.lifecycle.isTerminal = true) :
    ∀ view, t.ledger.view id = some view → view.lifecycle.isTerminal = true := by
  have hStep : Guarded (fun _ _ => True) (Holding mt id) s label t := ⟨trivial, hHolding⟩
  refine step_view ?_ ?_ hStep hCoherent hTerminal
  · intro op event view next _ _ _ _ hMachine hDone
    exact hMachine.terminal hDone
  · intro view hDone
    unfold restored
    rw [if_pos hDone]
    exact hDone

/- Nothing is committed for a terminal request. -/
theorem commitCount_of_terminal {history : List (Coordinator × Label)}
    (hRun : Run (Traced (Holding mt id)) s history t) (hCoherent : s.ledger.Coherent)
    (hTerminal : ∀ view, s.ledger.view id = some view → view.lifecycle.isTerminal = true) :
    commitCount id history = 0 := by
  induction hRun with
  | nil => rfl
  | cons hStep hRest ih =>
    rename_i before after _ entry rest
    rcases hStep with ⟨rfl, hHolding⟩
    have hQuiet : ¬ commits id entry.1 entry.2 = true := by
      intro hCommits
      rcases (commits_step hCommits hHolding.2).1 with ⟨view, hView, hLive⟩
      rw [hTerminal view hView] at hLive
      cases hLive
    rw [commitCount_cons, if_neg hQuiet]
    exact ih (hHolding.2.coherent hCoherent) (hHolding.terminal hCoherent hTerminal)

/- A publication that is not committed is only counted. -/
theorem publishCompletion_uncommitted
    (hPublish : (s.publishCompletion publication now).1 = .ok outcome)
    (hDisposition : outcome.disposition = .duplicateSuppressed ∨ outcome.disposition = .refused) :
    (s.publishCompletion publication now).2 =
      s.withLedger (s.ledger.account (countPublication outcome.disposition)) := by
  rcases publishCompletion_disposition hPublish with ⟨inner, hInner, hSame⟩
  rw [← hSame] at hDisposition ⊢
  have hOther : inner.disposition ≠ .committed := by
    rcases hDisposition with hKind | hKind
    · rw [hKind]
      decide
    · rw [hKind]
      decide
  have hLedger :
      (s.ledger.publishCompletion publication now).2 =
        s.ledger.account (countPublication inner.disposition) := by
    revert hInner
    unfold RequestLedger.publishCompletion
    split
    · simp
    split
    · simp
    rename_i record _
    generalize record.publishCompletion publication now = result
    rcases hDisposition with hKind | hKind
    all_goals
      dsimp only
      split
      all_goals
        rename_i hFound
        rintro ⟨⟩
        first | rw [hFound]; rfl | cases hFound.symm.trans hKind
  unfold publishCompletion
  simp only [hInner, if_neg hOther, hLedger]

/-
  In every history of a retained request at most one
  publication is committed, and a publication that is
  suppressed or refused changes its counter and nothing
  else.
-/
theorem completion_committed_once (mt : Generator) (config : CoordinatorConfig)
    (s t : Coordinator) (id : RequestId) (history : List (Coordinator × Label))
    (hReachable : Reachable mt config s) (hRun : Run (Traced (Holding mt id)) s history t) :
    commitCount id history ≤ 1 ∧
      ∀ (state : Coordinator) (publication : CompletionPublication) (now : Int64)
        (outcome : PublishOutcome), (state.publishCompletion publication now).1 = .ok outcome →
        outcome.disposition = .duplicateSuppressed ∨ outcome.disposition = .refused →
        (state.publishCompletion publication now).2 =
          state.withLedger (state.ledger.account (countPublication outcome.disposition)) := by
  refine ⟨?_, ?_⟩
  · have hCoherent := hReachable.coherent
    clear hReachable
    induction hRun with
    | nil => exact Nat.zero_le 1
    | cons hStep hRest ih =>
      rename_i before after _ entry rest
      rcases hStep with ⟨rfl, hHolding⟩
      have hNext := hHolding.2.coherent hCoherent
      by_cases hCommits : commits id entry.1 entry.2 = true
      · rw [commitCount_cons, if_pos hCommits,
          commitCount_of_terminal hRest hNext (commits_step hCommits hHolding.2).2]
      · rw [commitCount_cons, if_neg hCommits]
        exact ih hNext
  · intro state publication now outcome hPublish hOther
    exact publishCompletion_uncommitted hPublish hOther

def singleAttempt : Coordinator :=
  sampleStart.steps [.registerRequest ⟨0, 1⟩ 1, .registerAttempt ⟨0, 1⟩ ⟨0, 2⟩ 0 2]

theorem completion_committed_once_repeated :
    let publication : CompletionPublication := { request := ⟨0, 1⟩, attempt := ⟨0, 2⟩ }
    let first := Op.publishCompletion publication 3
    let again := Op.publishCompletion publication 4
    let history : List (Coordinator × Label) :=
      [(singleAttempt, .op first), (singleAttempt.step first, .op again)]
    commits ⟨0, 1⟩ singleAttempt (.op first) = true ∧ commitCount ⟨0, 1⟩ history ≤ 1 := by
  intro publication first again history
  have hRun :
      Run (Traced (Holding sampleGenerator ⟨0, 1⟩)) singleAttempt history
        ((singleAttempt.step first).step again) :=
    .cons ⟨rfl, by decide, .op _ _⟩ (Run.single ⟨rfl, by decide, .op _ _⟩)
  exact ⟨by decide,
    (completion_committed_once sampleGenerator {} singleAttempt _ ⟨0, 1⟩ history
      (sampleStart_reachable _) hRun).1⟩

/-
  A process that starts from a snapshot taken before the
  commit retains the request, and commits it again once it
  is revalidated.
-/
theorem older_snapshot_commits_twice :
    let first := Op.publishCompletion { request := ⟨0, 1⟩, attempt := ⟨0, 2⟩ } 3
    let again := Op.publishCompletion { request := ⟨0, 1⟩, attempt := ⟨0, 3⟩ } 5
    let restarted := (create {} 2).bootFrom sampleGenerator singleAttempt.exportState
    let revalidated := restarted.2.step (.revalidateRequest ⟨0, 1⟩ ⟨0, 3⟩ 4)
    Reachable sampleGenerator {} singleAttempt ∧
      commits ⟨0, 1⟩ singleAttempt (.op first) = true ∧
      (singleAttempt.step first).ledger.contains ⟨0, 1⟩ = true ∧ restarted.1.isOk = true ∧
      restarted.2.ledger.contains ⟨0, 1⟩ = true ∧ commits ⟨0, 1⟩ revalidated (.op again) = true :=
  ⟨sampleStart_reachable _, by decide, by decide, by decide, by decide, by decide⟩

---
-- Superseded Attempts
---

variable {attempt : AttemptId} {current : AttemptId} {stage : ServingStage}
variable {view : RequestView}
variable {record : RequestRecord} {next : RequestView}

/- The label revalidates under a superseded identity. -/
def Revives (s : Coordinator) (label : Label) : Prop :=
  ∃ request attempt now record entry,
    label = .op (.revalidateRequest request attempt now) ∧
      s.ledger.snapshotRequest request = some record ∧ record.findAttempt attempt = some entry ∧
      entry.lifecycle = .superseded

/- The event of a revalidation comes from one. -/
theorem revalidate_of_event {op : Op} (hEvent : op.event s = some (id, .revalidated attempt)) :
    ∃ now, op = .revalidateRequest id attempt now := by
  cases op with
  | revalidateRequest request bound now =>
    cases hEvent
    exact ⟨now, rfl⟩
  | _ => cases hEvent

/- A retired attempt is found superseded in its record. -/
theorem revives_of_retired (hView : s.ledger.view id = some view)
    (hRetired : view.Retired attempt) : s.Revives (.op (.revalidateRequest id attempt now)) := by
  rcases (view_eq_some_iff _ _ _).mp hView with ⟨record, hRecord, rfl⟩
  rcases hRetired.superseded with ⟨shown, hShown, hDone⟩
  rw [RequestRecord.view_findAttempt] at hShown
  rcases Option.map_eq_some_iff.mp hShown with ⟨entry, hEntry, rfl⟩
  exact ⟨id, attempt, now, record, entry, rfl, hRecord, hEntry, hDone⟩

theorem replaceAttempt_step {replacement : AttemptId} {modelHash : UInt64}
    (hReplaced : (s.replaceAttempt id attempt replacement modelHash now).1.isOk = true) :
    ∃ view next, s.ledger.view id = some view ∧
      Step s.ledger.limits view (.superseded attempt replacement) next ∧
      (s.step (.replaceAttempt id attempt replacement modelHash now)).ledger.view id =
        some next := by
  rcases step_ledger s
      (.replaceAttempt id attempt replacement modelHash now) with ⟨quiet, hQuiet, hLedger⟩
  rw [hLedger, steps_quiet _ _ quiet hQuiet]
  unfold replaceAttempt at hReplaced
  simp only [Op.ledgerOps]
  cases hModel : s.resolveModel modelHash with
  | error status => simp [hModel] at hReplaced
  | ok model =>
    simp only [hModel] at hReplaced
    have hOk : (s.ledger.supersedeAttempt id attempt replacement now).1.isOk = true := by
      split at hReplaced
      · cases hReplaced
      · rename_i hInner
        rw [hInner]
        rfl
    rcases supersedeAttempt_ok hOk with ⟨record, next, hRecord, hStep, hNext⟩
    exact ⟨record.view, next, view_of_lookup hRecord, hStep, hNext⟩

theorem current_ne_of_retired
    (hRetired : ∀ view, s.ledger.view id = some view → view.Retired attempt)
    (hRecord : s.ledger.snapshotRequest id = some record) :
    record.isCurrentAttempt attempt = false := by
  have hView := view_of_lookup hRecord
  by_contra hCurrent
  rw [Bool.not_eq_false, record.isCurrentAttempt_iff] at hCurrent
  exact (hRetired _ hView).displaced hCurrent.2

/- A permission for serving traffic names what it serves. -/
theorem evaluate_serving {request : TrafficRequest} {subject : TrafficSubject} {victim : Nat}
    (hSubject : request.subject = some subject) (hKind : subject.kind = .serving)
    (hPermits : (s.evaluate request now victim).1.permitsTraffic = true) :
    ∃ record,
      s.ledger.snapshotRequest subject.request = some record ∧
        record.lifecycle.isTerminal = false ∧ record.requiresRevalidation = false ∧
        record.isCurrentAttempt subject.attempt = true := by
  rcases (evaluate_grounds hPermits).serving hSubject hKind with ⟨record, entry, hServing⟩
  exact ⟨record, hServing.retained, hServing.live, hServing.valid, hServing.current⟩

theorem openFlow_servingUse {decision : Decision} {declaredBytes : UInt64}
    (hKind : decision.subject.kind = .serving)
    (hOk : (s.openFlow decision declaredBytes now).1.isOk = true) :
    ∃ record, s.ServingUse decision.subject decision.authority.sequence record := by
  have hUse := (openFlow_use hOk).2.2
  unfold SubjectUse at hUse
  rw [hKind] at hUse
  exact hUse

/-
  A replaced attempt never again becomes current, advances
  a stage, is permitted traffic, opens a flow or commits a
  completion, as long as no revalidation names an attempt
  that was superseded.
-/
theorem superseded_attempt_fenced (mt : Generator) (config : CoordinatorConfig)
    (s t : Coordinator) (labels : List Label) (id : RequestId) (old new : AttemptId)
    (modelHash : UInt64) (now : Int64) (hReachable : Reachable mt config s)
    (hReplaced : (s.replaceAttempt id old new modelHash now).1.isOk = true)
    (hRun :
      Run (Guarded (fun state label => ¬ state.Revives label) (Holding mt id))
        (s.step (.replaceAttempt id old new modelHash now)) labels t) :
    (∀ record,
      t.ledger.snapshotRequest id = some record →
      record.currentAttempt ≠ old) ∧
      (∀ target moment, (t.advanceStage id old target moment).1.isOk = false) ∧
      (∀ request subject moment victim,
        request.subject = some subject → subject.kind = .serving → subject.request = id →
        subject.attempt = old →
        (t.evaluate request moment victim).1.permitsTraffic = false) ∧
      (∀ decision bytes moment,
        decision.subject.kind = .serving → decision.subject.request = id →
        decision.subject.attempt = old →
        (t.openFlow decision bytes moment).1.isOk = false) ∧
      ∀ publication moment outcome,
        publication.request = id → publication.attempt = old →
        (t.publishCompletion publication moment).1 = .ok outcome →
        outcome.disposition ≠ .committed := by
  have hStep :
      Transition mt s (.op (.replaceAttempt id old new modelHash now))
        (s.step (.replaceAttempt id old new modelHash now)) := .op s _
  have hCoherent := hStep.coherent hReachable.coherent
  have hRetired : ∀ view, t.ledger.view id = some view → view.Retired old := by
    refine run_view ?_ ?_ hRun hCoherent ?_
    · intro state op event view next hAllowed hOp hView _ hStep hBefore
      apply hStep.retired hBefore
      rintro rfl
      rcases revalidate_of_event hOp with ⟨moment, rfl⟩
      exact hAllowed (revives_of_retired hView hBefore)
    · exact fun view => retired_restored
    · intro view hView
      rcases replaceAttempt_step hReplaced with ⟨_, next, -, hStep, hNext⟩
      cases hNext.symm.trans hView
      exact hStep.retired_of_superseded
  refine ⟨?_, ?_, ?_, ?_, ?_⟩
  · intro record hRecord
    exact (hRetired _ (view_of_lookup hRecord)).displaced
  · intro target moment
    by_contra hOk
    rw [Bool.not_eq_false] at hOk
    rcases advanceStage_ok hOk with ⟨record, next, hRecord, hStep⟩
    have hDisplaced := (hRetired _ (view_of_lookup hRecord)).displaced
    cases hStep with
    | stageAdvanced _ _ _ _ _ _ hCurrent => exact hDisplaced hCurrent.2
  · rintro request subject moment victim hSubject hKind rfl rfl
    by_contra hPermits
    rw [Bool.not_eq_false] at hPermits
    rcases evaluate_serving hSubject hKind hPermits with ⟨record, hRecord, -, -, hCurrent⟩
    rw [current_ne_of_retired hRetired hRecord] at hCurrent
    cases hCurrent
  · rintro decision bytes moment hKind rfl rfl
    by_contra hOk
    rw [Bool.not_eq_false] at hOk
    rcases openFlow_servingUse hKind hOk with ⟨record, hUse⟩
    have hCurrent := hUse.current
    rw [current_ne_of_retired hRetired hUse.retained] at hCurrent
    cases hCurrent
  · rintro publication moment outcome rfl rfl hPublish hCommitted
    rcases (publishCompletion_committed hPublish hCommitted).1 with ⟨view, next, hView, hStep⟩
    rcases (hRetired view hView).superseded with ⟨entry, hEntry, hDone⟩
    cases hStep with
    | publishedFailure _ _ _ _ _ hHeld _ hOpen | publishedSuccess _ _ _ _ hHeld _ hOpen =>
      rw [hEntry] at hHeld
      cases hHeld
      exact hOpen.1 hDone

def admittedAttempt : Coordinator :=
  sampleStart.steps
    [.registerRequest ⟨0, 1⟩ 1,
      .registerAttempt ⟨0, 1⟩ ⟨0, 2⟩ 0 2,
      .advanceStage ⟨0, 1⟩ ⟨0, 2⟩ .admitted 3]

theorem superseded_attempt_fenced_replaced :
    let replace := Op.replaceAttempt ⟨0, 1⟩ ⟨0, 2⟩ ⟨0, 3⟩ 0 4
    let stage := Op.advanceStage ⟨0, 1⟩ ⟨0, 3⟩ .admitted 5
    let t := (admittedAttempt.step replace).step stage
    ∀ target moment, (t.advanceStage ⟨0, 1⟩ ⟨0, 2⟩ target moment).1.isOk = false := by
  intro replace stage t
  have hRun :
      Run (Guarded (fun state label => ¬ state.Revives label) (Holding sampleGenerator ⟨0, 1⟩))
        (admittedAttempt.step replace) [.op stage] t := by
    refine Run.single ⟨?_, by decide, .op _ _⟩
    rintro ⟨_, _, _, _, _, hLabel, -⟩
    simp [stage] at hLabel
  exact (superseded_attempt_fenced sampleGenerator {}
    admittedAttempt t [.op stage] ⟨0, 1⟩ ⟨0, 2⟩ ⟨0, 3⟩ 0 4
    (sampleStart_reachable _) (by decide) hRun).2.1

/-
  After a restart the request is revalidated under the
  superseded identity, which is current again and permitted
  traffic at the stage it had reached.
-/
theorem superseded_attempt_revived :
    let replace := Op.replaceAttempt ⟨0, 1⟩ ⟨0, 2⟩ ⟨0, 3⟩ 0 4
    let replaced := admittedAttempt.step replace
    let restarted := (replaced.bootFrom sampleGenerator replaced.exportState).2
    let revalidate := Op.revalidateRequest ⟨0, 1⟩ ⟨0, 2⟩ 5
    let contract := Op.registerSloContract ⟨0, 1⟩ 1000 1000 1
    let route := Op.issueRouteDecision ⟨0, 1⟩ ⟨0, 2⟩ 1 false false
    let revived := restarted.steps [revalidate, contract, route]
    let traffic : TrafficRequest :=
      { subject := some
          { kind := .serving
            request := ⟨0, 1⟩
            attempt := ⟨0, 2⟩
            requestGeneration := ⟨1⟩ } }
    Reachable sampleGenerator {} admittedAttempt ∧
      (admittedAttempt.replaceAttempt ⟨0, 1⟩ ⟨0, 2⟩ ⟨0, 3⟩ 0 4).1.isOk = true ∧
      Run (Holding sampleGenerator ⟨0, 1⟩) replaced
        [.reboot, .op revalidate, .op contract, .op route] revived ∧
      (revived.ledger.snapshotRequest ⟨0, 1⟩).map RequestRecord.currentAttempt = some ⟨0, 2⟩ ∧
      (revived.evaluate traffic 6 0).1.permitsTraffic = true := by
  intro replace replaced restarted revalidate contract route revived traffic
  refine ⟨sampleStart_reachable _, by decide, ?_, by decide, by decide⟩
  exact .cons ⟨by decide, .reboot _⟩
    (.cons ⟨by decide, .op _ _⟩ (.cons ⟨by decide, .op _ _⟩ (Run.single ⟨by decide, .op _ _⟩)))

---
-- Restored Requests
---

/-
  The label revalidates, cancels or fails the request, and
  so ends its wait.
-/
def Settles (id : RequestId) (s : Coordinator) : Label → Prop
| .op (.revalidateRequest request attempt now) =>
  request = id ∧ (s.revalidateRequest request attempt now).1.isOk = true
| .op (.cancelRequest request reason now) =>
  request = id ∧ (s.cancelRequest request reason now).1.isOk = true
| .op (.failAttempt request attempt reason now) =>
  request = id ∧
    ∃ record,
      (s.failAttempt request attempt reason now).2.ledger.snapshotRequest id = some record ∧
        record.lifecycle = .failed
| _ => False

/-
  The label publishes for an attempt that is still open in
  the restored record, or replaces the current attempt.
  Neither operation looks at the revalidation flag.
-/
def Oversteps (id : RequestId) (s : Coordinator) : Label → Prop
| .op (.publishCompletion publication _) =>
  publication.request = id ∧
    ∃ record entry,
      s.ledger.snapshotRequest id = some record ∧
        record.findAttempt publication.attempt = some entry ∧ entry.view.Publishable
| .op (.replaceAttempt request old _ _ _) =>
  request = id ∧
    ∃ record, s.ledger.snapshotRequest id = some record ∧ record.isCurrentAttempt old = true
| _ => False

/- A published step names a publishable entry. -/
theorem oversteps_of_published {moment : Int64} {limits : LedgerLimits}
    (hView : s.ledger.view publication.request = some view)
    (hStep : Step limits view (.published publication now) next) :
    Oversteps publication.request s (.op (.publishCompletion publication moment)) := by
  rcases (view_eq_some_iff _ _ _).mp hView with ⟨record, hRecord, rfl⟩
  refine ⟨rfl, record, ?_⟩
  have hShown :
      ∃ shown, record.view.findAttempt publication.attempt = some shown ∧ shown.Publishable := by
    cases hStep with
    | publishedFailure _ _ held _ _ hHeld _ hOpen | publishedSuccess _ _ held _ hHeld _ hOpen =>
      exact ⟨held, hHeld, hOpen⟩
  rcases hShown with ⟨shown, hFind, hOpen⟩
  rw [RequestRecord.view_findAttempt] at hFind
  rcases Option.map_eq_some_iff.mp hFind with ⟨entry, hEntry, rfl⟩
  exact ⟨entry, hRecord, hEntry, hOpen⟩

/- The wait, with what it started from. -/
structure Waits (stage : ServingStage) (current : AttemptId) (view : RequestView) : Prop where
  awaiting : view.Awaiting
  stage : view.stage = stage
  current : view.currentAttempt = current

theorem Waits.restored (hWaits : Waits stage current view) : Waits stage current view.restored := by
  have hLive : view.lifecycle.isTerminal = false := by
    rw [hWaits.awaiting.interrupted]
    rfl
  refine ⟨RequestView.awaiting_restored hLive, ?_, ?_⟩
  · unfold RequestView.restored
    rw [hLive]
    exact hWaits.stage
  · unfold RequestView.restored
    rw [hLive]
    exact hWaits.current

/- A step that neither settles nor oversteps keeps a wait. -/
theorem waits_step {op : Op} {event : RequestEvent}
    (hAllowed : ¬ Settles id s (.op op) ∧ ¬ Oversteps id s (.op op))
    (hOp : op.event s = some (id, event)) (hView : s.ledger.view id = some view)
    (hNext : (s.step op).ledger.view id = some next)
    (hStep : RequestView.Step s.ledger.limits view event next) (hWaits : Waits stage current view) :
    Waits stage current next := by
  have hKeep (hResolve : ¬ RequestView.Resolves event) (hOverstep : ¬ RequestView.Oversteps event) :
      Waits stage current next := by
    rcases hStep.awaiting hWaits.awaiting hResolve hOverstep with ⟨hAwaiting, hStage, hCurrent⟩
    exact ⟨hAwaiting, hStage.trans hWaits.stage, hCurrent.trans hWaits.current⟩
  cases op with
  | registerAttempt | advanceStage =>
    cases hOp
    exact hKeep (fun h => h) (fun h => h)
  | revalidateRequest request attempt now =>
    cases hOp
    have hSame := RequestLedger.step_of_refused s.ledger (.revalidateRequest id attempt now)
      (fun hOk => hAllowed.1 ⟨rfl, hOk⟩) (by simp)
    cases hView.symm.trans ((congrArg (RequestLedger.view · id) hSame).symm.trans hNext)
    exact hWaits
  | cancelRequest request reason now =>
    cases hOp
    have hSame := RequestLedger.step_of_refused s.ledger
      (.cancelRequest id reason s.nextSequence now) (fun hOk => hAllowed.1 ⟨rfl, hOk⟩) (by simp)
    rcases step_ledger s (.cancelRequest id reason now) with ⟨quiet, hQuiet, hLedger⟩
    rw [hLedger, RequestLedger.steps_quiet _ _ quiet hQuiet] at hNext
    cases hView.symm.trans ((congrArg (RequestLedger.view · id) hSame).symm.trans hNext)
    exact hWaits
  | failAttempt request attempt reason now =>
    cases hOp
    rcases (RequestLedger.view_eq_some_iff _ _ _).mp hNext with ⟨record, hRecord, rfl⟩
    refine (hAllowed.1 ⟨rfl, record, hRecord, ?_⟩).elim
    have hFailed : record.view.lifecycle = .failed := by
      generalize record.view = failed at hStep ⊢
      cases hStep with
      | attemptFailed => rfl
    exact hFailed
  | replaceAttempt request old new hash now =>
    cases hOp
    rcases (RequestLedger.view_eq_some_iff _ _ _).mp hView with ⟨record, hRecord, rfl⟩
    refine (hAllowed.2 ⟨rfl, record, hRecord, ?_⟩).elim
    rw [record.isCurrentAttempt_iff]
    cases hStep with
    | superseded _ _ _ _ _ hCurrent => exact hCurrent
  | publishCompletion publication now =>
    cases hOp
    exact (hAllowed.2 (oversteps_of_published hView hStep)).elim
  | _ => cases hOp

/- A waiting request serves no flow. -/
theorem not_serves_of_awaiting (hAwaiting : ∀ view, s.ledger.view id = some view → view.Awaiting) :
    ¬ s.Serves id := by
  rintro ⟨record, hRecord, -, hValid⟩
  have hFlag := (hAwaiting record.view (view_of_lookup hRecord)).flagged
  rw [RequestRecord.view_requiresRevalidation, hValid] at hFlag
  cases hFlag

theorem Holding.unserved (hHolding : Holding mt id s label t) (hCoherent : s.ledger.Coherent)
    (hServes : ¬ s.Serves id) (hBefore : s.carriage.Unserved id) : t.carriage.Unserved id := by
  rcases hHolding.2.carriage with hEmpty | ⟨op, -, hMoves⟩
  · rw [hEmpty]
    intro flow held hHeld
    cases hHeld
  · rcases exists_view_of_contains hHolding.1 with ⟨view, hView⟩
    rcases (view_eq_some_iff _ _ _).mp hView with ⟨record, hRecord, -⟩
    exact hMoves.unserved (hCoherent.ne_nil hRecord) hServes hBefore

theorem bootFrom_waits {base : Coordinator} {document : PersistedCoordinatorState}
    {epoch : CoordinatorEpoch} (hBoot : base.bootFrom mt document = (.ok epoch, s))
    (hRecord : s.ledger.snapshotRequest id = some record)
    (hInterrupted : record.lifecycle = .interrupted) :
    Waits record.stage record.currentAttempt record.view := by
  have hView : (base.bootFrom mt document).2.ledger.view id = some record.view := by
    rw [hBoot]
    exact view_of_lookup hRecord
  rcases bootFrom_view hView with ⟨saved, -, -, hSaved⟩
  refine ⟨⟨hInterrupted, ?_⟩, rfl, rfl⟩
  have hLifecycle : saved.view.restored.lifecycle = .interrupted := by
    rw [← hSaved]
    exact hInterrupted
  rw [hSaved]
  unfold restored at hLifecycle ⊢
  split
  · rename_i hDone
    rw [if_pos hDone] at hLifecycle
    rw [hLifecycle] at hDone
    cases hDone
  · rfl

/- A wait and the absence of flows along a run. -/
theorem run_waits {labels : List Label}
    (hRun :
      Run (Guarded (fun state label => ¬ Settles id state label ∧ ¬ Oversteps id state label)
          (Holding mt id)) s labels t) (hCoherent : s.ledger.Coherent)
    (hWaits : ∀ view, s.ledger.view id = some view → Waits stage current view)
    (hUnserved : s.carriage.Unserved id) :
    (∀ view, t.ledger.view id = some view → Waits stage current view) ∧ t.carriage.Unserved id := by
  induction hRun with
  | nil => exact ⟨hWaits, hUnserved⟩
  | cons hStep hRest ih =>
    rename_i before after _ _ _
    have hCoherentNext := hStep.2.2.coherent hCoherent
    have hWaitsNext := step_view (fun op event view next hAllowed hOp hView hNext hMachine =>
            waits_step hAllowed hOp hView hNext hMachine)
        (fun view => Waits.restored) hStep hCoherent hWaits
    have hServes := not_serves_of_awaiting (fun view hView => (hWaits view hView).awaiting)
    exact ih hCoherentNext hWaitsNext (hStep.2.unserved hCoherent hServes hUnserved)

/-
  A request restored as interrupted keeps its stage and
  current attempt, has no open flow, and gains no stage, no
  permission and no flow until its wait is settled, as long
  as no publication and no replacement oversteps it. Such a
  publication is never committed.
-/
theorem restored_request_idle (mt : Generator) (base s t : Coordinator)
    (document : PersistedCoordinatorState) (epoch : CoordinatorEpoch) (labels : List Label)
    (id : RequestId) (record : RequestRecord) (hBoot : base.bootFrom mt document = (.ok epoch, s))
    (hRecord : s.ledger.snapshotRequest id = some record)
    (hInterrupted : record.lifecycle = .interrupted)
    (hRun :
      Run (Guarded (fun state label => ¬ Settles id state label ∧ ¬ Oversteps id state label)
          (Holding mt id)) s labels t) :
    (∀ later,
      t.ledger.snapshotRequest id = some later →
      later.lifecycle = .interrupted ∧
        later.requiresRevalidation = true ∧ later.stage = record.stage ∧
        later.currentAttempt = record.currentAttempt) ∧
      (∀ flow opened, t.flows.lookup flow = some opened → opened.request ≠ id) ∧
      (∀ attempt target moment, (t.advanceStage id attempt target moment).1.isOk = false) ∧
      (∀ request subject moment victim,
        request.subject = some subject → subject.kind = .serving → subject.request = id →
        (t.evaluate request moment victim).1.permitsTraffic = false) ∧
      (∀ decision bytes moment,
        decision.subject.kind = .serving → decision.subject.request = id →
        (t.openFlow decision bytes moment).1.isOk = false) ∧
      ∀ publication moment outcome,
        publication.request = id → ¬ Oversteps id t (.op (.publishCompletion publication moment)) →
        (t.publishCompletion publication moment).1 = .ok outcome →
        outcome.disposition ≠ .committed := by
  have hBooted : Booted mt s := .of_bootFrom hBoot
  have hStart :
      ∀ view, s.ledger.view id = some view → Waits record.stage record.currentAttempt view := by
    intro view hView
    have hSame := (view_of_lookup hRecord).symm.trans hView
    cases hSame
    exact bootFrom_waits hBoot hRecord hInterrupted
  have hUnserved : s.carriage.Unserved id := by
    rw [hBooted.carriage]
    exact AList.forall_empty
  rcases run_waits hRun hBooted.coherent hStart hUnserved with ⟨hWaits, hFlows⟩
  have hAwaiting := fun view hView => (hWaits view hView).awaiting
  have hServes := not_serves_of_awaiting hAwaiting
  refine ⟨?_, hFlows, ?_, ?_, ?_, ?_⟩
  · intro later hLater
    have hKept := hWaits _ (view_of_lookup hLater)
    exact ⟨hKept.awaiting.interrupted, hKept.awaiting.flagged, hKept.stage, hKept.current⟩
  · intro attempt target moment
    by_contra hOk
    rw [Bool.not_eq_false] at hOk
    rcases advanceStage_ok hOk with ⟨held, next, hHeld, hStep⟩
    have hFlag := (hAwaiting _ (view_of_lookup hHeld)).flagged
    cases hStep with
    | stageAdvanced _ _ _ _ hValid =>
      rw [hFlag] at hValid
      cases hValid
  · rintro request subject moment victim hSubject hKind rfl
    by_contra hPermits
    rw [Bool.not_eq_false] at hPermits
    rcases evaluate_serving hSubject hKind hPermits with ⟨held, hHeld, hLive, hValid, -⟩
    exact hServes ⟨held, hHeld, hLive, hValid⟩
  · rintro decision bytes moment hKind rfl
    by_contra hOk
    rw [Bool.not_eq_false] at hOk
    rcases openFlow_servingUse hKind hOk with ⟨held, hUse⟩
    exact hServes ⟨held, hUse.retained, hUse.live, hUse.valid⟩
  · rintro publication moment outcome rfl hAllowed hPublish hCommitted
    rcases (publishCompletion_committed hPublish hCommitted).1 with ⟨view, next, hView, hStep⟩
    exact hAllowed (oversteps_of_published hView hStep)

/- The admitted request after a restart. -/
def restartedAttempt : Coordinator :=
  (admittedAttempt.bootFrom sampleGenerator admittedAttempt.exportState).2

theorem restored_request_idle_restarted :
    let stage := Op.advanceStage ⟨0, 1⟩ ⟨0, 2⟩ .routing 5
    let t := restartedAttempt.step stage
    ∀ attempt target moment, (t.advanceStage ⟨0, 1⟩ attempt target moment).1.isOk = false := by
  intro stage t
  have hLifecycle :
      (restartedAttempt.ledger.snapshotRequest ⟨0, 1⟩).map
        RequestRecord.lifecycle = some .interrupted := by
    decide
  rcases Option.map_eq_some_iff.mp hLifecycle with ⟨record, hRecord, hInterrupted⟩
  have hRun :
      Run (Guarded
          (fun state label => ¬ Settles ⟨0, 1⟩ state label ∧ ¬ Oversteps ⟨0, 1⟩ state label)
          (Holding sampleGenerator ⟨0, 1⟩)) restartedAttempt [.op stage] t :=
    Run.single ⟨⟨fun h => h, fun h => h⟩, by decide, .op _ _⟩
  have hBoot :
      admittedAttempt.bootFrom sampleGenerator admittedAttempt.exportState =
        (.ok ⟨2⟩, restartedAttempt) := by
    have hEpoch :
        (admittedAttempt.bootFrom sampleGenerator admittedAttempt.exportState).1 = .ok ⟨2⟩ := by
      decide
    exact Prod.ext hEpoch rfl
  exact (restored_request_idle sampleGenerator admittedAttempt restartedAttempt t
    admittedAttempt.exportState ⟨2⟩ [.op stage] ⟨0, 1⟩ record hBoot hRecord hInterrupted hRun).2.2.1

/-
  Without a revalidation the restored attempt commits a
  completion, and the current attempt is replaced.
-/
theorem restored_request_acts :
    (admittedAttempt.bootFrom sampleGenerator admittedAttempt.exportState).1 = .ok ⟨2⟩ ∧
      (restartedAttempt.ledger.snapshotRequest ⟨0, 1⟩).map
        (fun record => (record.lifecycle, record.requiresRevalidation, record.currentAttempt)) =
        some (.interrupted, true, ⟨0, 2⟩) ∧
      commits ⟨0, 1⟩ restartedAttempt
        (.op (.publishCompletion { request := ⟨0, 1⟩, attempt := ⟨0, 2⟩ } 5)) = true ∧
      ((restartedAttempt.step (.replaceAttempt ⟨0, 1⟩
        ⟨0, 2⟩ ⟨0, 3⟩ 0 5)).ledger.snapshotRequest ⟨0, 1⟩).map RequestRecord.currentAttempt =
        some ⟨0, 3⟩ :=
  ⟨by decide, by decide, by decide, by decide⟩

end Coordinator

end TrafficFabric
