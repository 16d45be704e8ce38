import TrafficFabric.Ledger.View

/-
  What the steps of the request machine keep: terminal
  lifecycles, the facts recorded when a request became
  terminal, cancellation, supersession, the wait for
  revalidation, the fence around displaced attempts and the
  attempts a request is bound to.

  Main declarations:
    * `RequestView.terminalFacts`
    * `RequestView.Closed`
    * `RequestView.Step.fenced`
    * `RequestView.Step.bound`
-/

namespace TrafficFabric

open List AttemptView

namespace RequestView

variable {limits : LedgerLimits} {view next : RequestView} {event : RequestEvent}
variable {entry : AttemptView}

/- What is recorded when a request becomes terminal. -/
def terminalFacts (view : RequestView) : RequestLifecycle × ServingStage × ReasonCode × Int64 :=
  (view.lifecycle, view.stage, view.terminalReason, view.terminalAtNanos)

/-
  The event fails an attempt that is current and not
  terminal, although the request may be terminal.
-/
def FailsOpenAttempt (view : RequestView) : RequestEvent → Prop
| .attemptFailed attempt _ _ =>
  view.IsCurrent attempt ∧
    ∃ entry, view.findAttempt attempt = some entry ∧ entry.lifecycle.isTerminal = false
| _ => False

theorem Step.failsOpenAttempt {attempt : AttemptId} {reason : ReasonCode} {now : Int64}
    (hStep : Step limits view (.attemptFailed attempt reason now) next) :
    view.FailsOpenAttempt (.attemptFailed attempt reason now) := by
  cases hStep with
  | attemptFailed _ _ _ entry hFind hCurrent hOpen => exact ⟨hCurrent, entry, hFind, hOpen⟩

/- A terminal request stays terminal. -/
theorem Step.terminal (hStep : Step limits view event next)
    (hTerminal : view.lifecycle.isTerminal = true) : next.lifecycle.isTerminal = true := by
  cases hStep with
  | attemptFailed => rfl
  | cancelledAgain => exact hTerminal
  | _ => simp_all

/- The attempt is current exactly as bound or as before. -/
theorem Step.currentAttempt_eq (hStep : Step limits view event next) :
    next.currentAttempt = event.bound.getD view.currentAttempt := by
  cases hStep with
  | attemptRegistered | revalidated | superseded | stageAdvanced | attemptFailed | cancelled
  | cancelledAgain | interrupted | publishedFailure | publishedSuccess => rfl

theorem Step.terminalFacts_eq (hStep : Step limits view event next)
    (hTerminal : view.lifecycle.isTerminal = true) (hEvent : ¬ view.FailsOpenAttempt event) :
    next.terminalFacts = view.terminalFacts := by
  cases hStep with
  | attemptFailed attempt reason now entry hFind hCurrent hOpen =>
    exact (hEvent ⟨hCurrent, entry, hFind, hOpen⟩).elim
  | cancelledAgain => rfl
  | _ => simp_all

/- A publication is committed once: it needs a live view. -/
theorem Step.published_live {publication : CompletionPublication} {now : Int64}
    (hStep : Step limits view (.published publication now) next) :
    view.lifecycle.isTerminal = false ∧ next.lifecycle.isTerminal = true := by
  cases hStep with
  | publishedFailure _ _ _ _ hLive | publishedSuccess _ _ _ hLive => exact ⟨hLive, rfl⟩

/- A cancelled request none of whose attempts is open. -/
structure Closed (view : RequestView) : Prop where
  cancelled : view.lifecycle = .cancelled
  finished : ∀ entry ∈ view.attempts, entry.lifecycle.isTerminal = true

theorem cancel_isTerminal (entry : AttemptView) : entry.cancel.lifecycle.isTerminal = true := by
  unfold cancel
  split
  · assumption
  · rfl

theorem le_raisedFloor (floor sequence : AuthoritySequence) :
    floor.value ≤ (raisedFloor floor sequence).value := by
  unfold raisedFloor
  split
  · rename_i hAbove
    simp only [Bool.and_eq_true, decide_eq_true_eq] at hAbove
    exact UInt64.le_of_lt hAbove.2
  · exact UInt64.le_refl floor.value

/- Every way to become cancelled closes the request. -/
theorem Step.closed_of_cancelled (hStep : Step limits view event next)
    (hBefore : view.lifecycle = .cancelled → view.Closed) (hAfter : next.lifecycle = .cancelled) :
    next.Closed := by
  cases hStep with
  | cancelled =>
    refine ⟨rfl, ?_⟩
    intro entry hMem
    rcases mem_map.mp hMem with ⟨old, -, rfl⟩
    exact cancel_isTerminal old
  | cancelledAgain reason sequence now hCancelled =>
    exact ⟨hCancelled, (hBefore hCancelled).finished⟩
  | attemptRegistered _ hLive | stageAdvanced _ _ _ hLive =>
    split at hAfter
    · cases hAfter
    · rw [hAfter] at hLive
      cases hLive
  | superseded attempt replacement entry hLive =>
    change view.lifecycle = .cancelled at hAfter
    rw [hAfter] at hLive
    cases hLive
  | _ => cases hAfter

/- A closed request stays closed; its floor never sinks. -/
theorem Step.closed (hStep : Step limits view event next) (hClosed : view.Closed) :
    next.Closed ∧ view.authorityFloor.value ≤ next.authorityFloor.value := by
  have hTerminal : view.lifecycle.isTerminal = true := by
    rw [hClosed.cancelled]
    rfl
  cases hStep with
  | attemptFailed attempt reason now entry hFind hCurrent hOpen =>
    have hDone := hClosed.finished entry (mem_of_findKey? hFind)
    rw [hOpen] at hDone
    cases hDone
  | cancelledAgain reason sequence now hCancelled =>
    exact ⟨⟨hClosed.cancelled, hClosed.finished⟩, le_raisedFloor view.authorityFloor sequence⟩
  | _ => simp_all

---
-- Superseded Attempts
---

/- The attempt is superseded and not current. -/
structure Retired (attempt : AttemptId) (view : RequestView) : Prop where
  superseded : ∃ entry, view.findAttempt attempt = some entry ∧ entry.lifecycle = .superseded
  displaced : view.currentAttempt ≠ attempt

theorem findAttempt_bindAttempt (view : RequestView) (bound attempt : AttemptId)
    (entry : AttemptView) (hFind : view.findAttempt attempt = some entry) :
    (view.bindAttempt bound).findAttempt attempt = some entry := by
  unfold findAttempt bindAttempt at *
  rw [List.findKey?_append, hFind]
  rfl

theorem findAttempt_updateAttempt (view : RequestView) (updated attempt : AttemptId)
    (f : AttemptView → AttemptView) (hId : ∀ entry, (f entry).id = entry.id) :
    (view.updateAttempt updated f).findAttempt attempt =
      if attempt = updated then (view.findAttempt updated).map f
      else view.findAttempt attempt := by
  exact List.findKey?_updateKey AttemptView.id updated attempt f hId view.attempts

/- A supersession retires the attempt it names. -/
theorem Step.retired_of_superseded {attempt replacement : AttemptId}
    (hStep : Step limits view (.superseded attempt replacement) next) : next.Retired attempt := by
  cases hStep with
  | superseded _ _ entry hLive hFind hCurrent hFresh =>
    refine ⟨⟨{ entry with lifecycle := .superseded }, ?_, rfl⟩, ?_⟩
    · apply findAttempt_bindAttempt
      rw [findAttempt_updateAttempt]
      · simp [hFind]
      · intro old
        rfl
    · intro hSame
      change replacement = attempt at hSame
      rw [hSame, hFind] at hFresh
      cases hFresh

/- Rewriting another attempt leaves a retired one retired. -/
theorem retired_updateAttempt {attempt updated : AttemptId} (f : AttemptView → AttemptView)
    (hRetired : view.Retired attempt) (hOther : attempt ≠ updated)
    (hId : ∀ entry, (f entry).id = entry.id) : (view.updateAttempt updated f).Retired attempt := by
  rcases hRetired.superseded with ⟨entry, hFind, hDone⟩
  refine ⟨⟨entry, ?_, hDone⟩, hRetired.displaced⟩
  rw [findAttempt_updateAttempt view updated attempt f hId, if_neg hOther]
  exact hFind

theorem retired_bindAttempt {attempt bound : AttemptId} (hRetired : view.Retired attempt)
    (hOther : bound ≠ attempt) : (view.bindAttempt bound).Retired attempt := by
  rcases hRetired.superseded with ⟨entry, hFind, hDone⟩
  exact ⟨⟨entry, findAttempt_bindAttempt view bound attempt entry hFind, hDone⟩, hOther⟩

/- Marking every entry leaves superseded ones as they are. -/
theorem retired_map {attempt : AttemptId} {f : AttemptView → AttemptView}
    (hRetired : view.Retired attempt) (hId : ∀ entry, (f entry).id = entry.id)
    (hKeep : ∀ entry, entry.lifecycle = .superseded → f entry = entry) :
    Retired attempt { view with attempts := view.attempts.map f } := by
  rcases hRetired.superseded with ⟨entry, hFind, hDone⟩
  refine ⟨⟨entry, ?_, hDone⟩, hRetired.displaced⟩
  unfold findAttempt at *
  rw [List.findKey?_map AttemptView.id AttemptView.id f hId,
    hFind, Option.map_some, hKeep entry hDone]

/- The parts of a view that retirement reads. -/
theorem Retired.congr {attempt : AttemptId} (hRetired : view.Retired attempt)
    (hAttempts : next.attempts = view.attempts)
    (hCurrent : next.currentAttempt = view.currentAttempt) : next.Retired attempt := by
  rcases hRetired with ⟨⟨entry, hFind, hDone⟩, hOther⟩
  refine ⟨⟨entry, ?_, hDone⟩, by rw [hCurrent]; exact hOther⟩
  unfold findAttempt at *
  rw [hAttempts]
  exact hFind

/- Only a revalidation under its own name revives it. -/
theorem Step.retired {attempt : AttemptId} (hStep : Step limits view event next)
    (hRetired : view.Retired attempt) (hEvent : event ≠ .revalidated attempt) :
    next.Retired attempt := by
  rcases hRetired.superseded with ⟨old, hOld, hDone⟩
  cases hStep with
  | attemptRegistered bound hLive hValid hFresh =>
    have hOther : bound ≠ attempt := by
      intro hSame
      rw [hSame, hOld] at hFresh
      cases hFresh
    exact (retired_bindAttempt hRetired hOther).congr rfl rfl
  | revalidated bound =>
    have hOther : bound ≠ attempt := by
      intro hSame
      exact hEvent (by rw [hSame])
    exact (retired_bindAttempt hRetired hOther).congr rfl rfl
  | superseded other replacement entry hLive hFind hCurrent hFresh =>
    have hOther : attempt ≠ other := by
      intro hSame
      exact hRetired.displaced (by rw [hSame, hCurrent.2])
    have hBound : replacement ≠ attempt := by
      intro hSame
      rw [hSame, hOld] at hFresh
      cases hFresh
    have hUpdated :=
      retired_updateAttempt (fun entry => { entry with lifecycle := .superseded })
        hRetired hOther (fun _ => rfl)
    exact (retired_bindAttempt hUpdated hBound).congr rfl rfl
  | stageAdvanced other target entry hLive hValid hFind hCurrent =>
    have hOther : attempt ≠ other := by
      intro hSame
      exact hRetired.displaced (by rw [hSame, hCurrent.2])
    exact (retired_updateAttempt (advance target) hRetired hOther
      (fun _ => rfl)).congr rfl rfl
  | attemptFailed other reason now entry hFind hCurrent =>
    have hOther : attempt ≠ other := by
      intro hSame
      exact hRetired.displaced (by rw [hSame, hCurrent.2])
    exact (retired_updateAttempt fail hRetired hOther (fun _ => rfl)).congr rfl rfl
  | cancelled reason sequence now =>
    refine (retired_map hRetired ?_ ?_).congr rfl rfl
    · intro entry
      unfold cancel
      split
      · rfl
      · rfl
    · intro entry hSuperseded
      unfold cancel
      rw [hSuperseded]
      rfl
  | cancelledAgain => exact hRetired.congr rfl rfl
  | interrupted =>
    refine (retired_map hRetired ?_ ?_).congr rfl rfl
    · intro entry
      unfold interrupt
      split
      · rfl
      · rfl
    · intro entry hSuperseded
      unfold interrupt
      rw [hSuperseded]
      rfl
  | publishedFailure publication now entry reason hLive hFind hGeneration hOpen =>
    have hOther : attempt ≠ publication.attempt := by
      intro hSame
      rw [← hSame, hOld] at hFind
      cases hFind
      exact hOpen.1 hDone
    exact (retired_updateAttempt fail hRetired hOther (fun _ => rfl)).congr rfl rfl
  | publishedSuccess publication now entry hLive hFind hGeneration hOpen =>
    have hOther : attempt ≠ publication.attempt := by
      intro hSame
      rw [← hSame, hOld] at hFind
      cases hFind
      exact hOpen.1 hDone
    exact (retired_updateAttempt complete hRetired hOther (fun _ => rfl)).congr rfl rfl

theorem retired_restored {attempt : AttemptId} (hRetired : view.Retired attempt) :
    view.restored.Retired attempt := by
  unfold restored
  split
  · exact hRetired
  · exact hRetired.congr rfl rfl

/- The request survived a restart and awaits revalidation. -/
structure Awaiting (view : RequestView) : Prop where
  interrupted : view.lifecycle = .interrupted
  flagged : view.requiresRevalidation = true

/- Events that end the wait in their own right. -/
def Resolves : RequestEvent → Prop
| .revalidated _ | .attemptFailed _ _ _
| .cancelled _ _ _ => True
| _ => False

/- Events that act without the authority they need. -/
def Oversteps : RequestEvent → Prop
| .superseded _ _ | .published _ _ => True
| _ => False

/-
  While a request waits, a step resolves the wait,
  oversteps it, or leaves stage and current attempt alone.
-/
theorem Step.awaiting (hStep : Step limits view event next) (hAwaiting : view.Awaiting)
    (hResolve : ¬ Resolves event) (hOverstep : ¬ Oversteps event) :
    next.Awaiting ∧ next.stage = view.stage ∧ next.currentAttempt = view.currentAttempt := by
  have hFlag := hAwaiting.flagged
  cases hStep with
  | attemptRegistered _ _ hValid | stageAdvanced _ _ _ _ hValid =>
    rw [hValid] at hFlag
    cases hFlag
  | superseded | publishedFailure | publishedSuccess => exact (hOverstep trivial).elim
  | interrupted => exact ⟨⟨rfl, rfl⟩, rfl, rfl⟩
  | _ => exact (hResolve trivial).elim

theorem awaiting_restored (hLive : view.lifecycle.isTerminal = false) : view.restored.Awaiting := by
  unfold restored
  rw [hLive]
  exact ⟨rfl, rfl⟩

/- Only the current attempt can still publish. -/
def Fenced (view : RequestView) : Prop :=
  view.lifecycle.isTerminal = true ∨
    ∀ attempt entry,
      view.findAttempt attempt = some entry → entry.Publishable → attempt = view.currentAttempt

/-
  Binding the attempt would displace a current attempt
  that can still publish.
-/
def DisplacedBy (view : RequestView) (attempt : AttemptId) : Prop :=
  attempt ≠ view.currentAttempt ∧
    ∃ entry, view.findAttempt view.currentAttempt = some entry ∧ entry.Publishable

/- The event binds an attempt over a publishable one. -/
def Displaces (view : RequestView) : RequestEvent → Prop
| .attemptRegistered attempt | .revalidated attempt => view.DisplacedBy attempt
| _ => False

theorem findAttempt_bindAttempt_cases {bound attempt : AttemptId}
    (hFind : (view.bindAttempt bound).findAttempt attempt = some entry) :
    view.findAttempt attempt = some entry ∨ attempt = bound := by
  unfold findAttempt bindAttempt at *
  rw [List.findKey?_append] at hFind
  cases hOld : view.attempts.findKey? AttemptView.id attempt with
  | some old =>
    rw [hOld] at hFind
    exact .inl hFind
  | none =>
    rw [hOld] at hFind
    split at hFind
    · rename_i hSame
      exact .inr hSame.symm
    · cases hFind

/- Binding keeps the fence when it displaces nobody. -/
theorem fenced_bindAttempt {bound : AttemptId}
    (hFence :
      ∀ attempt entry,
        view.findAttempt attempt = some entry → entry.Publishable →
        attempt = view.currentAttempt) (hClear : ¬ view.DisplacedBy bound) (attempt : AttemptId)
    (entry : AttemptView) (hFind : (view.bindAttempt bound).findAttempt attempt = some entry)
    (hOpen : entry.Publishable) : attempt = bound := by
  rcases findAttempt_bindAttempt_cases hFind with hOld | hNew
  · have hCurrent := hFence attempt entry hOld hOpen
    by_contra hOther
    apply hClear
    rw [hCurrent] at hOld hOther
    exact ⟨fun hSame => hOther hSame.symm, entry, hOld, hOpen⟩
  · exact hNew

theorem publishable_of_interrupt (hOpen : entry.interrupt.Publishable) : entry.Publishable := by
  unfold interrupt at hOpen
  split at hOpen
  · exact hOpen
  · exact (hOpen.2.2 rfl).elim

/- A step that displaces no open attempt keeps the fence. -/
theorem Step.fenced (hStep : Step limits view event next) (hFenced : view.Fenced)
    (hEvent : ¬ view.Displaces event) : next.Fenced := by
  rcases hFenced with hTerminal | hFence
  · exact .inl (hStep.terminal hTerminal)
  cases hStep with
  | attemptRegistered | revalidated => exact .inr (fenced_bindAttempt hFence hEvent)
  | superseded old replacement held hLive hHeld hCurrent hFresh =>
    refine .inr ?_
    intro attempt entry hFind hOpen
    rcases findAttempt_bindAttempt_cases hFind with hOld | hNew
    · rw [findAttempt_updateAttempt] at hOld
      · by_cases hSame : attempt = old
        · rw [if_pos hSame, hHeld] at hOld
          cases hOld
          exact (hOpen.1 rfl).elim
        · rw [if_neg hSame] at hOld
          have hBefore := hFence attempt entry hOld hOpen
          rw [hCurrent.2] at hBefore
          exact (hSame hBefore).elim
      · intro entry
        rfl
    · exact hNew
  | stageAdvanced moved target held hLive hValid hHeld hCurrent =>
    refine .inr ?_
    intro attempt entry hFind hOpen
    change (view.updateAttempt moved
      (AttemptView.advance target)).findAttempt attempt = some entry at hFind
    rw [findAttempt_updateAttempt] at hFind
    · by_cases hSame : attempt = moved
      · exact hSame.trans hCurrent.2.symm
      · rw [if_neg hSame] at hFind
        exact hFence attempt entry hFind hOpen
    · intro entry
      rfl
  | interrupted hLive =>
    refine .inr ?_
    intro attempt entry hFind hOpen
    unfold findAttempt at hFind
    rw [List.findKey?_map AttemptView.id AttemptView.id AttemptView.interrupt] at hFind
    · rcases Option.map_eq_some_iff.mp hFind with ⟨old, hOld, rfl⟩
      exact hFence attempt old hOld (publishable_of_interrupt hOpen)
    · intro entry
      unfold AttemptView.interrupt
      split
      · rfl
      · rfl
  | cancelledAgain reason sequence now hCancelled =>
    refine .inl ?_
    rw [hCancelled]
    rfl
  | _ => exact .inl rfl

theorem fenced_restored (hFenced : view.Fenced) : view.restored.Fenced := by
  unfold restored
  split
  · exact hFenced
  · rename_i hLive
    exact .inr (hFenced.resolve_left hLive)

/-
  A request that has been served is bound to attempts, at
  most as many as a record holds, and one is current.
-/
structure Bound (view : RequestView) : Prop where
  bounded : view.attempts.length ≤ maxAttemptsPerRequest
  current : view.attempts ≠ [] → view.currentAttempt ≠ .nil
  attempted : view.lifecycle ≠ .unknown → view.lifecycle ≠ .registered → view.attempts ≠ []

/- The event takes a request away from its attempts. -/
def Withdraws : RequestEvent → Prop
| .cancelled _ _ _ | .interrupted => True
| _ => False

theorem registered_bound (id : RequestId) (now : Int64) :
    (RequestRecord.registered id now).view.Bound where
  bounded := Nat.zero_le _
  current hNone := (hNone rfl).elim
  attempted _ hOther := (hOther rfl).elim

/- A request with an entry keeps it through an update. -/
theorem Bound.updated {attempt : AttemptId} (hBound : view.Bound)
    (hFind : view.findAttempt attempt = some entry) (f : AttemptView → AttemptView)
    (hAttempts : next.attempts = view.attempts.updateKey AttemptView.id attempt f)
    (hCurrent : next.currentAttempt = view.currentAttempt) : next.Bound := by
  have hSome := ne_nil_of_mem (mem_of_findKey? hFind)
  constructor
  · rw [hAttempts, length_updateKey]
    exact hBound.bounded
  · intro _
    rw [hCurrent]
    exact hBound.current hSome
  · intro _ _
    rw [hAttempts, Ne, updateKey_eq_nil_iff]
    exact hSome

theorem Bound.appended {attempt : AttemptId} {entries : List AttemptView}
    (hRoom : entries.length < maxAttemptsPerRequest) (hSet : attempt ≠ .nil)
    (hAttempts : next.attempts = entries ++ [entry]) (hCurrent : next.currentAttempt = attempt) :
    next.Bound := by
  constructor
  · rw [hAttempts, length_append]
    exact hRoom
  · intro _
    rw [hCurrent]
    exact hSet
  · intro _ _
    rw [hAttempts]
    exact append_ne_nil_of_right_ne_nil _ (cons_ne_nil entry [])

/- Entries that are rewritten one by one. -/
theorem Bound.mapped (hBound : view.Bound) (hSome : view.attempts ≠ [])
    (f : AttemptView → AttemptView) (hAttempts : next.attempts = view.attempts.map f)
    (hCurrent : next.currentAttempt = view.currentAttempt) : next.Bound := by
  constructor
  · rw [hAttempts, length_map]
    exact hBound.bounded
  · intro _
    rw [hCurrent]
    exact hBound.current hSome
  · intro _ _
    rw [hAttempts, Ne, map_eq_nil_iff]
    exact hSome

theorem Step.bound (hStep : Step limits view event next)
    (hLimit : limits.maxAttemptsPerRequest ≤ maxAttemptsPerRequest) (hBound : view.Bound)
    (hSome : Withdraws event → view.attempts ≠ []) : next.Bound := by
  cases hStep with
  | attemptRegistered _ _ _ _ hRoom hSet | revalidated _ _ _ hRoom hSet =>
    exact .appended (hRoom.trans_le hLimit) hSet rfl rfl
  | superseded attempt replacement entry hLive hFind hCurrent hFresh hRoom hSet =>
    have hUpdated : (view.attempts.updateKey AttemptView.id attempt (fun old => { old with
              lifecycle := .superseded })).length < maxAttemptsPerRequest := by
      rw [length_updateKey]
      exact hRoom.trans_le hLimit
    exact .appended hUpdated hSet rfl rfl
  | stageAdvanced _ _ _ _ _ hFind | attemptFailed _ _ _ _ hFind
  | publishedFailure _ _ _ _ _ hFind | publishedSuccess _ _ _ _ hFind =>
    exact hBound.updated hFind _ rfl rfl
  | cancelled | interrupted => exact hBound.mapped (hSome trivial) _ rfl rfl
  | cancelledAgain reason sequence now hCancelled =>
    exact ⟨hBound.bounded, hBound.current, hBound.attempted⟩

/- A restored request stays bound, if it had attempts. -/
theorem bound_restored (hBound : view.Bound)
    (hSome : view.lifecycle.isTerminal = false → view.attempts ≠ []) : view.restored.Bound := by
  unfold restored
  split
  · exact hBound
  · rename_i hLive
    have hAttempts := hSome (Bool.eq_false_of_not_eq_true hLive)
    exact ⟨hBound.bounded, hBound.current, fun _ _ => hAttempts⟩

variable {attempt : AttemptId}

def HasAttempt (attempt : AttemptId) (view : RequestView) : Prop :=
  ∃ entry, view.findAttempt attempt = some entry

theorem hasAttempt_iff : view.HasAttempt attempt ↔ attempt ∈ view.attempts.map AttemptView.id := by
  unfold HasAttempt findAttempt
  rw [← Option.ne_none_iff_exists', Ne, List.findKey?_eq_none_iff, not_not]

/- A step adds the entry of the attempt it binds. -/
theorem Step.ids (hStep : Step limits view event next) :
    next.attempts.map AttemptView.id = view.attempts.map AttemptView.id ++ event.bound.toList := by
  have hUpdate (updated : AttemptId) (f : AttemptView → AttemptView)
      (hId : ∀ entry, (f entry).id = entry.id) :
      (view.updateAttempt updated f).attempts.map AttemptView.id =
        view.attempts.map AttemptView.id := by
    refine (map_updateKey AttemptView.id (fun key => key) AttemptView.id (fun _ => rfl) updated f
      (fun key => key) hId _).trans ?_
    exact updateKey_self _ updated _
  have hMap (f : AttemptView → AttemptView) (hId : ∀ entry, (f entry).id = entry.id) :
      (view.attempts.map f).map AttemptView.id = view.attempts.map AttemptView.id := by
    rw [map_map]
    exact map_congr_left (fun entry _ => hId entry)
  cases hStep with
  | attemptRegistered | revalidated => exact map_append
  | superseded old replacement =>
    refine map_append.trans (congrArg (· ++ _) ?_)
    exact hUpdate old _ (fun _ => rfl)
  | stageAdvanced | attemptFailed | publishedFailure | publishedSuccess =>
    refine Eq.trans ?_ (append_nil _).symm
    exact hUpdate _ _ (fun _ => rfl)
  | cancelled =>
    refine (hMap AttemptView.cancel ?_).trans (append_nil _).symm
    intro entry
    unfold AttemptView.cancel
    split
    · rfl
    · rfl
  | cancelledAgain => exact (append_nil _).symm
  | interrupted =>
    refine (hMap AttemptView.interrupt ?_).trans (append_nil _).symm
    intro entry
    unfold AttemptView.interrupt
    split
    · rfl
    · rfl

theorem Step.hasAttempt_iff (hStep : Step limits view event next) :
    next.HasAttempt attempt ↔ view.HasAttempt attempt ∨ event.bound = some attempt := by
  rw [RequestView.hasAttempt_iff, RequestView.hasAttempt_iff, hStep.ids, mem_append,
    Option.mem_toList]

end RequestView

end TrafficFabric
