import Mathlib.Logic.Basic
import Mathlib.Tactic.Simps.Basic
import TrafficFabric.Ledger.Record

/-
  The authority a request carries, apart from its byte and
  decision counters: an abstract machine with one state per
  request and one event per kind of change.

  The machine says everything that can happen to the
  authority of a request that the ledger retains. The
  record of the ledger is mapped to it by
  `RequestRecord.view`, and every record operation that
  succeeds is shown to be a step of the machine.

  Main declarations:
    * `AttemptView`
    * `RequestView`
    * `RequestRecord.cancelRequest_step`
    * `RequestRecord.publishCompletion_cases`
-/

---
-- Views
---

namespace TrafficFabric

open Result

/- What an attempt entry says about authority. -/
structure AttemptView where
  id : AttemptId
  stage : ServingStage
  lifecycle : AttemptLifecycle
  generation : AttemptGeneration
  successPublished : Bool
  failurePublished : Bool
deriving DecidableEq

/- What a request record says about authority. -/
structure RequestView where
  generation : RequestGeneration
  lifecycle : RequestLifecycle
  stage : ServingStage
  currentAttempt : AttemptId
  attempts : List AttemptView
  terminalReason : ReasonCode
  terminalAtNanos : Int64
  requiresRevalidation : Bool
  authorityFloor : AuthoritySequence
deriving DecidableEq

namespace RequestView

def findAttempt (view : RequestView) (attempt : AttemptId) : Option AttemptView :=
  view.attempts.findKey? AttemptView.id attempt

def updateAttempt (view : RequestView) (attempt : AttemptId) (f : AttemptView → AttemptView) :
    RequestView :=
  { view with attempts := view.attempts.updateKey AttemptView.id attempt f }

/- Whether the attempt is the set current attempt. -/
def IsCurrent (view : RequestView) (attempt : AttemptId) : Prop :=
  view.currentAttempt ≠ .nil ∧ view.currentAttempt = attempt

/- Append a registered attempt and make it current. -/
def bindAttempt (view : RequestView) (attempt : AttemptId) : RequestView :=
  { view with
    attempts := view.attempts ++
      [{ id := attempt
         stage := .unknown
         lifecycle := .registered
         generation := ⟨UInt64.ofNat (view.attempts.length + 1)⟩
         successPublished := false
         failurePublished := false }]
    currentAttempt := attempt
    stage := .unknown }

/- Become terminal in the given lifecycle. -/
def finish (view : RequestView) (lifecycle : RequestLifecycle) (stage : ServingStage)
    (reason : ReasonCode) (now : Int64) : RequestView :=
  { view with
    lifecycle, stage
    terminalReason := reason
    terminalAtNanos := now }

/- The floor after a cancellation at a sequence. -/
def raisedFloor (floor sequence : AuthoritySequence) : AuthoritySequence :=
  if !sequence.isUnset && floor.value < sequence.value then sequence
  else floor

/- The view after the record is restored at a boot. -/
def restored (view : RequestView) : RequestView :=
  if view.lifecycle.isTerminal then view
  else
    { view with
      lifecycle := .interrupted
      requiresRevalidation := true }

end RequestView

namespace AttemptView

/- The entry may still publish a completion. -/
def Publishable (entry : AttemptView) : Prop :=
  entry.lifecycle ≠ .superseded ∧ entry.lifecycle ≠ .failed ∧ entry.lifecycle ≠ .cancelled

instance (entry : AttemptView) : Decidable entry.Publishable :=
  inferInstanceAs (Decidable (_ ∧ _ ∧ _))

def cancel (entry : AttemptView) : AttemptView :=
  if entry.lifecycle.isTerminal then entry
  else
    { entry with
      lifecycle := .cancelled
      stage := .cancelled }

def interrupt (entry : AttemptView) : AttemptView :=
  if entry.lifecycle.isTerminal then entry
  else { entry with lifecycle := .cancelled }

def advance (target : ServingStage) (entry : AttemptView) : AttemptView :=
  { entry with
    stage := target
    lifecycle :=
      if target = .completing then .draining
      else if entry.lifecycle = .registered then .active
      else entry.lifecycle }

def fail (entry : AttemptView) : AttemptView :=
  { entry with
    lifecycle := .failed
    stage := .failed
    failurePublished := true }

def complete (entry : AttemptView) : AttemptView :=
  { entry with
    lifecycle := .completed
    stage := .completed
    successPublished := true }

end AttemptView

---
-- The Request Machine
---

/- What can happen to a retained request. -/
inductive RequestEvent
| attemptRegistered (attempt : AttemptId)
| revalidated (attempt : AttemptId)
| superseded (attempt replacement : AttemptId)
| stageAdvanced (attempt : AttemptId) (target : ServingStage)
| attemptFailed (attempt : AttemptId) (reason : ReasonCode) (now : Int64)
| cancelled (reason : ReasonCode) (sequence : AuthoritySequence) (now : Int64)
| interrupted
| published (publication : CompletionPublication) (now : Int64)

/- The attempt an event makes current. -/
def RequestEvent.bound : RequestEvent → Option AttemptId
| .attemptRegistered attempt | .revalidated attempt => some attempt
| .superseded _ replacement => some replacement
| .stageAdvanced _ _ | .attemptFailed _ _ _
| .cancelled _ _ _ | .interrupted | .published _ _ => none

/- One change of the authority of a request. -/
inductive RequestView.Step (limits : LedgerLimits) :
    RequestView → RequestEvent → RequestView → Prop
| attemptRegistered (view : RequestView) (attempt : AttemptId)
    (hLive : view.lifecycle.isTerminal = false) (hValid : view.requiresRevalidation = false)
    (hFresh : view.findAttempt attempt = none)
    (hRoom : view.attempts.length < limits.maxAttemptsPerRequest) (hSet : attempt ≠ .nil) :
    Step limits view (.attemptRegistered attempt) { view.bindAttempt attempt with
        lifecycle :=
          if view.lifecycle = .interrupted then .active
          else view.lifecycle
        requiresRevalidation := false }
| revalidated (view : RequestView) (attempt : AttemptId) (hLive : view.lifecycle.isTerminal = false)
    (hAwaiting : view.requiresRevalidation = true)
    (hRoom : view.attempts.length < limits.maxAttemptsPerRequest) (hSet : attempt ≠ .nil) :
    Step limits view (.revalidated attempt) { view.bindAttempt attempt with
        lifecycle := .active
        requiresRevalidation := false
        generation := view.generation.next }
| superseded (view : RequestView) (attempt replacement : AttemptId) (entry : AttemptView)
    (hLive : view.lifecycle.isTerminal = false) (hFind : view.findAttempt attempt = some entry)
    (hCurrent : view.IsCurrent attempt) (hFresh : view.findAttempt replacement = none)
    (hRoom : view.attempts.length < limits.maxAttemptsPerRequest) (hSet : replacement ≠ .nil) :
    Step limits view (.superseded attempt replacement)
      { (view.updateAttempt attempt (fun old =>
          { old with lifecycle := .superseded })).bindAttempt replacement with
        generation := view.generation.next }
| stageAdvanced
    (view : RequestView) (attempt : AttemptId) (target : ServingStage) (entry : AttemptView)
    (hLive : view.lifecycle.isTerminal = false) (hValid : view.requiresRevalidation = false)
    (hFind : view.findAttempt attempt = some entry) (hCurrent : view.IsCurrent attempt)
    (hOpen : entry.lifecycle.isTerminal = false)
    (hLegal : ServingStage.isLegalTransition entry.stage target = true) :
    Step limits view (.stageAdvanced attempt target)
      { view.updateAttempt attempt (AttemptView.advance target) with
        stage := target
        lifecycle :=
          if target = .completing then .completing
          else view.lifecycle }
| attemptFailed (view : RequestView) (attempt : AttemptId) (reason : ReasonCode) (now : Int64)
    (entry : AttemptView) (hFind : view.findAttempt attempt = some entry)
    (hCurrent : view.IsCurrent attempt) (hOpen : entry.lifecycle.isTerminal = false) :
    Step limits view (.attemptFailed attempt reason now)
      ((view.updateAttempt attempt AttemptView.fail).finish .failed .failed reason now)
| cancelled (view : RequestView) (reason : ReasonCode) (sequence : AuthoritySequence) (now : Int64)
    (hLive : view.lifecycle.isTerminal = false) :
    Step limits view (.cancelled reason sequence now)
      { view.finish .cancelled .cancelled reason now with
        attempts := view.attempts.map AttemptView.cancel
        requiresRevalidation := false
        authorityFloor := raisedFloor view.authorityFloor sequence }
| cancelledAgain
    (view : RequestView) (reason : ReasonCode) (sequence : AuthoritySequence) (now : Int64)
    (hCancelled : view.lifecycle = .cancelled) :
    Step limits view (.cancelled reason sequence now) { view with
        authorityFloor := raisedFloor view.authorityFloor sequence }
| interrupted (view : RequestView) (hLive : view.lifecycle.isTerminal = false) :
    Step limits view .interrupted { view with
        lifecycle := .interrupted
        requiresRevalidation := true
        attempts := view.attempts.map AttemptView.interrupt }
| publishedFailure
    (view : RequestView) (publication : CompletionPublication) (now : Int64) (entry : AttemptView)
    (reason : ReasonCode) (hLive : view.lifecycle.isTerminal = false)
    (hFind : view.findAttempt publication.attempt = some entry)
    (hGeneration :
      publication.attemptGeneration = .unset ∨ publication.attemptGeneration = entry.generation)
    (hOpen : entry.Publishable)
    (hReport : publication.success = false)
    (hFirst : entry.failurePublished = false) :
    Step limits view (.published publication now)
      ((view.updateAttempt publication.attempt AttemptView.fail).finish .failed .failed reason now)
| publishedSuccess
    (view : RequestView) (publication : CompletionPublication) (now : Int64) (entry : AttemptView)
    (hLive : view.lifecycle.isTerminal = false)
    (hFind : view.findAttempt publication.attempt = some entry)
    (hGeneration :
      publication.attemptGeneration = .unset ∨ publication.attemptGeneration = entry.generation)
    (hOpen : entry.Publishable)
    (hReport : publication.success = true)
    (hFirst : entry.successPublished = false) :
    Step limits view (.published publication now)
      ((view.updateAttempt publication.attempt
        AttemptView.complete).finish .completed .completed .committedCompletion now)

/- A step to a view with the same entries and the same rest. -/
theorem RequestView.Step.of_attempts {limits : LedgerLimits} {view next other : RequestView}
    {event : RequestEvent} (hStep : Step limits view event next)
    (hAttempts : other.attempts = next.attempts)
    (hRest : { other with attempts := next.attempts } = next) : Step limits view event other := by
  rw [← hAttempts] at hRest
  rw [← hRest] at hStep
  exact hStep

@[simps] def AttemptRecord.view (entry : AttemptRecord) : AttemptView where
  id := entry.id
  stage := entry.stage
  lifecycle := entry.lifecycle
  generation := entry.generation
  successPublished := entry.successPublished
  failurePublished := entry.failurePublished

namespace RequestRecord

open RequestView (Step)

@[simps] def view (record : RequestRecord) : RequestView where
  generation := record.generation
  lifecycle := record.lifecycle
  stage := record.stage
  currentAttempt := record.currentAttempt
  attempts := record.attempts.map AttemptRecord.view
  terminalReason := record.terminalReason
  terminalAtNanos := record.terminalAtNanos
  requiresRevalidation := record.requiresRevalidation
  authorityFloor := record.authorityFloor

theorem view_findAttempt (record : RequestRecord) (attempt : AttemptId) :
    record.view.findAttempt attempt = (record.findAttempt attempt).map AttemptRecord.view := by
  exact List.findKey?_map AttemptRecord.id AttemptView.id AttemptRecord.view (fun _ => rfl) attempt
    record.attempts

/- Rewriting an entry rewrites its view. -/
theorem map_view_updateKey {f : AttemptRecord → AttemptRecord} {g : AttemptView → AttemptView}
    (hView : ∀ entry, (f entry).view = g entry.view) (attempt : AttemptId)
    (attempts : List AttemptRecord) :
    (attempts.updateKey AttemptRecord.id attempt f).map AttemptRecord.view =
      (attempts.map AttemptRecord.view).updateKey AttemptView.id attempt g :=
  List.map_updateKey AttemptRecord.id AttemptView.id
    AttemptRecord.view (fun _ => rfl) attempt f g hView attempts

/- Rewriting what a view does not show keeps the view. -/
theorem view_updateAttempt_of_same (record : RequestRecord) (attempt : AttemptId)
    (f : AttemptRecord → AttemptRecord) (hView : ∀ entry, (f entry).view = entry.view) :
    (record.updateAttempt attempt f).view = record.view := by
  unfold updateAttempt view
  rw [map_view_updateKey (g := fun entry => entry) hView, List.updateKey_self]

theorem isCurrentAttempt_iff (record : RequestRecord) (attempt : AttemptId) :
    record.isCurrentAttempt attempt = true ↔ record.view.IsCurrent attempt := by
  unfold isCurrentAttempt RequestView.IsCurrent view
  simp

theorem view_restored (record : RequestRecord) : record.restored.view = record.view.restored := by
  unfold restored RequestView.restored
  by_cases hTerminal : record.lifecycle.isTerminal
  · have hView : record.view.lifecycle.isTerminal = true := hTerminal
    rw [if_pos hTerminal, if_pos hView]
    rfl
  · have hView : ¬ record.view.lifecycle.isTerminal = true := hTerminal
    rw [if_neg hTerminal, if_neg hView]
    rfl

theorem view_raiseFloor (record : RequestRecord) (sequence : AuthoritySequence) :
    (record.raiseFloor sequence).view = { record.view with
        authorityFloor := RequestView.raisedFloor record.authorityFloor sequence } := by
  unfold raiseFloor RequestView.raisedFloor
  split
  · rfl
  · rfl

---
-- Record Operations Are Steps
---

variable {limits : LedgerLimits} {record updated : RequestRecord} {attempt replacement : AttemptId}
variable {generation : AttemptGeneration} {now : Int64} {publication : CompletionPublication}
variable {reason : ReasonCode}
variable {entry : AttemptRecord}

theorem map_view_bindAttempt (record : RequestRecord) (entry : AttemptRecord)
    (hFresh :
      entry.view =
        { id := entry.id
          stage := .unknown
          lifecycle := .registered
          generation := record.nextAttemptGeneration
          successPublished := false
          failurePublished := false }) :
    (record.attempts ++ [entry]).map AttemptRecord.view =
      (record.view.bindAttempt entry.id).attempts := by
  simp [RequestView.bindAttempt, hFresh, nextAttemptGeneration]

/-
  An operation succeeds only behind its guards; the update
  it then makes is the step of the machine.
-/
theorem registerAttempt_step {modelHash : UInt64} {modelGeneration : ModelGeneration}
    {routeGeneration : RouteDecisionGeneration} (hSet : attempt ≠ .nil)
    (hOk :
      record.registerAttempt limits attempt modelHash modelGeneration routeGeneration now =
        .ok (generation, updated)) :
    Step limits record.view (.attemptRegistered attempt) updated.view := by
  simp only [registerAttempt, guard_eq_ok_iff] at hOk
  rcases hOk with ⟨hLive, hValid, hFresh, hRoom, hEq⟩
  cases hEq
  have hStep : Step limits record.view (.attemptRegistered attempt) _ :=
    .attemptRegistered record.view attempt (by simpa using hLive) (by simpa using hValid)
      (by simpa [view_findAttempt] using hFresh) (by simpa using hRoom) hSet
  exact hStep.of_attempts (map_view_bindAttempt record _ rfl) rfl

theorem revalidateRequest_step
    (hOk : record.revalidateRequest limits attempt now = .ok (generation, updated)) :
    Step limits record.view (.revalidated attempt) updated.view := by
  simp only [revalidateRequest, guard_eq_ok_iff] at hOk
  rcases hOk with ⟨hLive, hAwaiting, hSet, hRoom, hEq⟩
  cases hEq
  have hStep : Step limits record.view (.revalidated attempt) _ :=
    .revalidated record.view attempt (by simpa using hLive) (by simpa using hAwaiting)
      (by simpa using hRoom) (by simpa using hSet)
  exact hStep.of_attempts (map_view_bindAttempt record _ rfl) rfl

theorem supersedeAttempt_step (hSet : replacement ≠ .nil)
    (hOk : record.supersedeAttempt limits attempt replacement now = .ok (generation, updated)) :
    Step limits record.view (.superseded attempt replacement) updated.view := by
  unfold supersedeAttempt at hOk
  rw [guard_eq_ok_iff] at hOk
  rcases hOk with ⟨hLive, hOk⟩
  split at hOk
  · cases hOk
  rename_i entry hFind
  simp only [guard_eq_ok_iff] at hOk
  rcases hOk with ⟨hCurrent, hFresh, hRoom, hEq⟩
  cases hEq
  have hStep : Step limits record.view (.superseded attempt replacement) _ :=
    .superseded record.view attempt replacement entry.view (by simpa using hLive)
      (by simp [view_findAttempt, hFind]) (by simpa [← isCurrentAttempt_iff] using hCurrent)
      (by simpa [view_findAttempt] using hFresh) (by simpa using hRoom) hSet
  refine hStep.of_attempts
    ((map_view_bindAttempt (record.updateAttempt attempt _) _ ?_).trans ?_) rfl
  · simp [AttemptRecord.view, nextAttemptGeneration, updateAttempt]
  · simp [RequestView.bindAttempt, RequestView.updateAttempt, updateAttempt, view]
    exact map_view_updateKey (fun _ => rfl) attempt record.attempts

theorem advanceStage_step {target : ServingStage}
    (hOk : record.advanceStage attempt target now = .ok updated) :
    Step limits record.view (.stageAdvanced attempt target) updated.view := by
  unfold advanceStage at hOk
  simp only [guard_eq_ok_iff] at hOk
  rcases hOk with ⟨-, hLive, hValid, hOk⟩
  split at hOk
  · cases hOk
  rename_i entry hFind
  simp only [guard_eq_ok_iff] at hOk
  rcases hOk with ⟨hCurrent, hOpen, hLegal, hEq⟩
  cases hEq
  have hStep : Step limits record.view (.stageAdvanced attempt target) _ :=
    .stageAdvanced record.view attempt target entry.view
      (by simpa using hLive) (by simpa using hValid) (by simp [view_findAttempt, hFind])
      (by simpa [← isCurrentAttempt_iff] using hCurrent)
      (by simpa using hOpen) (by simpa using hLegal)
  refine hStep.of_attempts ?_ rfl
  exact map_view_updateKey (fun _ => rfl) attempt record.attempts

theorem failAttempt_current {result : AttemptGeneration × Option RequestRecord}
    (hOk : record.failAttempt attempt reason now = .ok result) :
    record.isCurrentAttempt attempt = true := by
  unfold failAttempt at hOk
  split at hOk
  · cases hOk
  rename_i entry hFind
  simp only [guard_eq_ok_iff] at hOk
  simpa using hOk.1

theorem failAttempt_step
    (hOk : record.failAttempt attempt reason now = .ok (generation, some updated)) :
    Step limits record.view (.attemptFailed attempt reason now) updated.view := by
  unfold failAttempt at hOk
  split at hOk
  · cases hOk
  rename_i entry hFind
  simp only [guard_eq_ok_iff] at hOk
  rcases hOk with ⟨hCurrent, hOk⟩
  by_cases hOpen : entry.lifecycle.isTerminal
  · rw [if_pos hOpen] at hOk
    split at hOk
    · cases hOk
    · cases hOk
  · rw [if_neg hOpen] at hOk
    cases hOk
    have hStep : Step limits record.view (.attemptFailed attempt reason now) _ :=
      .attemptFailed record.view attempt reason now entry.view (by simp [view_findAttempt, hFind])
        (by
          simpa [← isCurrentAttempt_iff] using hCurrent)
        (by simpa using hOpen)
    refine hStep.of_attempts ?_ rfl
    exact map_view_updateKey (fun _ => rfl) attempt record.attempts

/- Entries rewritten one by one show views rewritten so. -/
theorem map_view_map (f : AttemptRecord → AttemptRecord) (g : AttemptView → AttemptView)
    (hView : ∀ entry, (f entry).view = g entry.view) (attempts : List AttemptRecord) :
    (attempts.map f).map AttemptRecord.view = (attempts.map AttemptRecord.view).map g := by
  rw [List.map_map, List.map_map]
  exact List.map_congr_left (fun entry _ => hView entry)

theorem cancelRequest_step {sequence : AuthoritySequence} {fresh : Bool}
    (hOk : record.cancelRequest reason sequence now = .ok (updated, fresh)) :
    Step limits record.view (.cancelled reason sequence now) updated.view := by
  unfold cancelRequest at hOk
  by_cases hCancelled : record.lifecycle = .cancelled
  · rw [if_pos hCancelled] at hOk
    cases hOk
    rw [view_raiseFloor]
    exact .cancelledAgain record.view reason sequence now hCancelled
  · rw [if_neg hCancelled] at hOk
    simp only [guard_eq_ok_iff] at hOk
    rcases hOk with ⟨hLive, hEq⟩
    cases hEq
    have hStep : Step limits record.view (.cancelled reason sequence now) _ :=
      .cancelled record.view reason sequence now (by simpa using hLive)
    rw [view_raiseFloor]
    refine hStep.of_attempts (map_view_map _ _ (fun entry => ?_) record.attempts) rfl
    simp only [AttemptView.cancel, AttemptRecord.view_lifecycle]
    split
    · rfl
    · rfl

theorem markInterrupted_step (hLive : record.lifecycle.isTerminal = false) :
    Step limits record.view .interrupted (record.markInterrupted now).view := by
  have hStep : Step limits record.view .interrupted _ := .interrupted record.view hLive
  refine hStep.of_attempts (map_view_map _ _ (fun entry => ?_) record.attempts) rfl
  simp only [AttemptView.interrupt, AttemptRecord.view_lifecycle]
  split
  · rfl
  · rfl

theorem commitFailure_step (hLive : record.lifecycle.isTerminal = false)
    (hFind : record.findAttempt publication.attempt = some entry)
    (hGeneration :
      publication.attemptGeneration = .unset ∨ publication.attemptGeneration = entry.generation)
    (hOpen : entry.view.Publishable) (hReport : publication.success = false)
    (hFirst : entry.failurePublished = false) :
    Step limits record.view (.published publication now)
      (record.commitFailure publication now).view := by
  have hStep (reason : ReasonCode) :
      Step limits record.view (.published publication now) _ :=
    .publishedFailure record.view publication now entry.view
      reason hLive (by simp [view_findAttempt, hFind]) hGeneration hOpen hReport hFirst
  refine (hStep (if publication.reason = .unknown then .attemptFailed
      else publication.reason)).of_attempts ?_ rfl
  exact map_view_updateKey (fun _ => rfl) publication.attempt record.attempts

theorem commitSuccess_step (hLive : record.lifecycle.isTerminal = false)
    (hFind : record.findAttempt publication.attempt = some entry)
    (hGeneration :
      publication.attemptGeneration = .unset ∨ publication.attemptGeneration = entry.generation)
    (hOpen : entry.view.Publishable) (hReport : publication.success = true)
    (hFirst : entry.successPublished = false) :
    Step limits record.view (.published publication now)
      (record.commitSuccess publication now).view := by
  have hStep : Step limits record.view (.published publication now) _ :=
    .publishedSuccess record.view publication now entry.view
      hLive (by simp [view_findAttempt, hFind]) hGeneration hOpen hReport hFirst
  refine hStep.of_attempts ?_ rfl
  exact map_view_updateKey (fun _ => rfl) publication.attempt record.attempts

/-
  A publication is refused or suppressed and leaves the
  record alone, or it is committed and is a step.
-/
theorem publishCompletion_cases (limits : LedgerLimits) {outcome : PublishOutcome}
    (hResult : record.publishCompletion publication now = (outcome, updated)) :
    (outcome.disposition = .refused ∧ updated = record) ∨
      (outcome.disposition = .duplicateSuppressed ∧ updated = record) ∨
      (outcome.disposition = .committed ∧
        Step limits record.view (.published publication now) updated.view) := by
  unfold publishCompletion at hResult
  split at hResult
  · cases hResult
    exact .inl ⟨rfl, rfl⟩
  rename_i entry hFind
  simp only [ite_eq_iff] at hResult
  rcases hResult with ⟨-, hResult⟩ | ⟨hStale, ⟨-, hResult⟩ | ⟨-, ⟨-, hResult⟩ | ⟨-, ⟨-, hResult⟩ |
    ⟨hTerminal, ⟨-, hResult⟩ | ⟨hSuperseded, ⟨-, hResult⟩ | ⟨hFailed, ⟨-, hResult⟩ | ⟨hDropped,
      ⟨hReport, ⟨-, hResult⟩ | ⟨hFirst, hResult⟩⟩ |
      ⟨hReport, ⟨-, hResult⟩ | ⟨hFirst, hResult⟩⟩⟩⟩⟩⟩⟩⟩⟩
  all_goals cases hResult
  · exact .inl ⟨rfl, rfl⟩
  · exact .inl ⟨rfl, rfl⟩
  · exact .inr (.inl ⟨rfl, rfl⟩)
  · exact .inl ⟨rfl, rfl⟩
  · exact .inl ⟨rfl, rfl⟩
  · exact .inl ⟨rfl, rfl⟩
  · exact .inl ⟨rfl, rfl⟩
  · exact .inr (.inl ⟨rfl, rfl⟩)
  · refine .inr (.inr ⟨rfl, ?_⟩)
    exact commitFailure_step (by simpa using hTerminal) hFind
      (by simpa [or_iff_not_imp_left] using hStale) ⟨hSuperseded, hFailed, hDropped⟩
      (by simpa using hReport) (by simpa using hFirst)
  · exact .inr (.inl ⟨rfl, rfl⟩)
  · refine .inr (.inr ⟨rfl, ?_⟩)
    exact commitSuccess_step (by simpa using hTerminal) hFind
      (by simpa [or_iff_not_imp_left] using hStale) ⟨hSuperseded, hFailed, hDropped⟩
      (by simpa using hReport) (by simpa using hFirst)

end RequestRecord

end TrafficFabric
