import TrafficFabric.Ledger.Outcomes

/-
  The ledger refines the request machine: every operation
  of the ledger leaves the authority of every request as it
  was, removes the request, creates it, or makes exactly
  the step of the machine that the operation stands for.

  Main declarations:
    * `RequestLedger.view`
    * `LedgerOp.event`
    * `RequestLedger.step_change`
    * `RequestLedger.steps_quiet`
-/

---
-- Lookups Through Ledger Updates
---

namespace TrafficFabric

open RequestView

/- The open flows of a ledger and how they are counted. -/
structure FlowBook where
  flows : Table FlowId LedgerFlow
  index : Multimap RequestId FlowId
  total : UInt32
  sequence : UInt64

namespace RequestLedger

variable (ledger : RequestLedger) (id : RequestId) (P : RequestLedger → Prop)

def flowBook (ledger : RequestLedger) : FlowBook where
  flows := ledger.flows
  index := ledger.flowsByRequest
  total := ledger.accounting.activeFlowsTotal
  sequence := ledger.nextFlowSequence

/- The authority of a request, when it is retained. -/
def view (ledger : RequestLedger) (id : RequestId) : Option RequestView :=
  (ledger.requests.lookup id).map RequestRecord.view

@[simp] theorem account_requests (f : AccountingSnapshot → AccountingSnapshot) :
    (ledger.account f).requests = ledger.requests := rfl

@[simp] theorem refreshRequestCounts_requests :
    ledger.refreshRequestCounts.requests = ledger.requests := rfl

theorem lookup_putRecord (other : RequestId) (record : RequestRecord) :
    (ledger.putRecord id record).requests.lookup other = if other = id then some record
      else ledger.requests.lookup other :=
  AList.lookup_insert_if ledger.requests id other record

/- What closing an open flow keeps, closing a list keeps. -/
theorem foldl_dropFlow_keeps {ledger : RequestLedger}
    (hClose :
      ∀ before flow opened,
        before.flows.lookup flow = some opened → P before →
        P { before with
          flows := before.flows.erase flow
          accounting := before.accounting.flowClosed opened.traffic }) (flows : List FlowId)
    (hStart : P ledger) : P (flows.foldl dropFlow ledger) := by
  refine List.foldlRecOn flows dropFlow hStart ?_
  intro before hBefore flow _
  unfold dropFlow
  cases hFlow : before.flows.lookup flow with
  | none => exact hBefore
  | some opened => exact hClose before flow opened hFlow hBefore

/- Dropping flows touches flows and counters only. -/
theorem foldl_dropFlow_frame (flows : List FlowId) (ledger : RequestLedger) :
    (flows.foldl dropFlow ledger).requests = ledger.requests ∧
      (flows.foldl dropFlow ledger).limits = ledger.limits ∧
      (flows.foldl dropFlow ledger).terminalOrder = ledger.terminalOrder ∧
      (flows.foldl dropFlow ledger).flowsByRequest = ledger.flowsByRequest := by
  apply foldl_dropFlow_keeps (fun dropped => dropped.requests = ledger.requests ∧
    dropped.limits = ledger.limits ∧ dropped.terminalOrder = ledger.terminalOrder ∧
    dropped.flowsByRequest = ledger.flowsByRequest)
  · exact fun _ _ _ _ hFrame => hFrame
  · exact ⟨rfl, rfl, rfl, rfl⟩

@[simp] theorem releaseRequestFlows_requests :
    (ledger.releaseRequestFlows id).requests = ledger.requests :=
  (foldl_dropFlow_frame _ ledger).1

@[simp] theorem releaseRequestFlows_limits :
    (ledger.releaseRequestFlows id).limits = ledger.limits :=
  (foldl_dropFlow_frame _ ledger).2.1

@[simp] theorem releaseRequestFlows_terminalOrder :
    (ledger.releaseRequestFlows id).terminalOrder = ledger.terminalOrder :=
  (foldl_dropFlow_frame _ ledger).2.2.1

/- Everything one turn of the eviction loop can do. -/
theorem evictFront_cases :
    (ledger.terminalOrder = [] ∧
        ledger.evictFront = ledger) ∨
      ∃ victim rest,
        ledger.terminalOrder = victim :: rest ∧
        ((ledger.retainsTerminal victim = true ∧
            ledger.evictFront = evict { ledger with terminalOrder := rest } victim) ∨
          (ledger.retainsTerminal victim = false ∧
            ledger.evictFront = { ledger with terminalOrder := rest })) := by
  unfold evictFront
  cases hOrder : ledger.terminalOrder with
  | nil => exact .inl ⟨rfl, rfl⟩
  | cons victim rest =>
    refine .inr ⟨victim, rest, rfl, ?_⟩
    by_cases hVictim : ledger.retainsTerminal victim
    · exact .inl ⟨hVictim, if_pos hVictim⟩
    · exact .inr ⟨by simpa using hVictim, if_neg hVictim⟩

/- What every turn of the loop keeps, the loop keeps. -/
theorem iterate_evictFront (hTurn : ∀ ledger, P ledger → P ledger.evictFront) (turns : Nat)
    (ledger : RequestLedger) (hStart : P ledger) : P (evictFront^[turns] ledger) := by
  induction turns generalizing ledger with
  | zero => exact hStart
  | succ turns ih => exact ih ledger.evictFront (hTurn ledger hStart)

/- What removing records and their listing keep, the loop keeps. -/
theorem evictIfNeeded_keeps {ledger : RequestLedger}
    (hEvict :
      ∀ before victim, before.retainsTerminal victim = true → P before → P (before.evict victim))
    (hPop : ∀ before rest, P before → P { before with terminalOrder := rest })
    (hRefresh : ∀ before, P before → P before.refreshRequestCounts) (hStart : P ledger) :
    P ledger.evictIfNeeded := by
  refine hRefresh _ (iterate_evictFront P ?_ _ ledger hStart)
  intro turn hTurn
  rcases evictFront_cases turn with ⟨-, hSame⟩ | ⟨victim, rest, -, ⟨hVictim, hNext⟩ | ⟨-, hNext⟩⟩
  · rw [hSame]
    exact hTurn
  · rw [hNext]
    exact hEvict _ victim hVictim (hPop turn rest hTurn)
  · rw [hNext]
    exact hPop turn rest hTurn

/- Eviction removes records, and only terminal ones. -/
structure Evicted (ledger next : RequestLedger) : Prop where
  book : next.flowBook = ledger.flowBook
  subset : ∀ id record,
      next.requests.lookup id = some record → ledger.requests.lookup id = some record
  live :
    ∀ id record, ledger.requests.lookup id = some record → record.lifecycle.isTerminal = false →
      next.requests.lookup id = some record

theorem evicted_evictIfNeeded : Evicted ledger ledger.evictIfNeeded := by
  apply evictIfNeeded_keeps (Evicted ledger)
  · intro before victim hVictim hBefore
    refine ⟨hBefore.book, ?_, ?_⟩
    · intro id record hRecord
      exact hBefore.subset id record (AList.lookup_of_erase hRecord).2
    · intro id record hRecord hLive
      have hKept := hBefore.live id record hRecord hLive
      refine (AList.lookup_erase_ne ?_).trans hKept
      rintro rfl
      unfold retainsTerminal at hVictim
      simp [hKept, hLive] at hVictim
  · exact fun _ _ hBefore => ⟨hBefore.book, hBefore.subset, hBefore.live⟩
  · exact fun _ hBefore => ⟨hBefore.book, hBefore.subset, hBefore.live⟩
  · exact ⟨rfl, fun _ _ hRecord => hRecord, fun _ _ hRecord _ => hRecord⟩

theorem lookup_evictIfNeeded :
    ledger.evictIfNeeded.requests.lookup id = ledger.requests.lookup id ∨
      ledger.evictIfNeeded.requests.lookup id = none := by
  cases hRecord : ledger.evictIfNeeded.requests.lookup id with
  | none => exact .inr rfl
  | some record => exact .inl ((evicted_evictIfNeeded ledger).subset id record hRecord).symm

theorem lookup_retire (ordered other : RequestId) (record : RequestRecord)
    (count : AccountingSnapshot → AccountingSnapshot) :
    (ledger.retire id ordered record count).requests.lookup other =
        (if other = id then some record.closeAccounting
          else ledger.requests.lookup other) ∨
      (ledger.retire id ordered record count).requests.lookup other = none := by
  rcases lookup_evictIfNeeded _ other with hKept | hGone
  · refine .inl (hKept.trans ?_)
    change ((ledger.releaseRequestFlows
      record.id).putRecord id record.closeAccounting).requests.lookup other = _
    rw [lookup_putRecord, releaseRequestFlows_requests]
  · exact .inr hGone

theorem view_retire (ordered : RequestId) (record : RequestRecord)
    (count : AccountingSnapshot → AccountingSnapshot) :
    (ledger.retire id ordered record count).view id = some record.view ∨
      (ledger.retire id ordered record count).view id = none := by
  unfold view
  rcases lookup_retire ledger id ordered id record count with hKept | hGone
  · rw [hKept, if_pos rfl]
    exact .inl rfl
  · rw [hGone]
    exact .inr rfl

end RequestLedger

namespace LedgerOp

/- The request an operation is about, and the event. -/
def event : LedgerOp → Option (RequestId × RequestEvent)
| .registerAttempt id attempt _ _ _ _ => some (id, .attemptRegistered attempt)
| .revalidateRequest id attempt _ => some (id, .revalidated attempt)
| .advanceStage id attempt target _ => some (id, .stageAdvanced attempt target)
| .failAttempt id attempt reason now => some (id, .attemptFailed attempt reason now)
| .supersedeAttempt id attempt replacement _ => some (id, .superseded attempt replacement)
| .cancelRequest id reason sequence now => some (id, .cancelled reason sequence now)
| .markRequestInterrupted id _ => some (id, .interrupted)
| .publishCompletion publication now => some (publication.request, .published publication now)
| _ => none

/- Operations that never touch the authority of a request. -/
def Quiet : LedgerOp → Prop
| .setAttemptModel _ _ _ _ | .openFlow _ _ _ _ _
| .releaseFlow _ | .recordFlowBytes _ _ _
| .recordDecision _ _ _ _ _ _ => True
| _ => False

/- What an operation may do to the view of a request. -/
inductive Change (limits : LedgerLimits) (op : LedgerOp) (id : RequestId) :
    Option RequestView → Option RequestView → Prop
| same (view : Option RequestView) : Change limits op id view view
| removed (view : Option RequestView) : Change limits op id view none
| registered (now : Int64) (hOp : op = .registerRequest id now) :
    Change limits op id none (some (RequestRecord.registered id now).view)
| restored (record : RequestRecord) (hOp : op = .restoreRecord record) (hId : record.id = id) :
    Change limits op id none (some record.view.restored)
| evolved (view next : RequestView) (event : RequestEvent) (hOp : op.event = some (id, event))
    (hStep : Step limits view event next) : Change limits op id (some view) (some next)

end LedgerOp

namespace RequestLedger

variable {record updated : RequestRecord}
variable {ledger : RequestLedger} {id : RequestId}
variable {op : LedgerOp} {event : RequestEvent}

open LedgerOp (Change)

theorem change_putRecord (hRecord : ledger.requests.lookup id = some record)
    (hOp : op.event = some (id, event))
    (hStep : Step ledger.limits record.view event updated.view) (other : RequestId) :
    Change ledger.limits op other (ledger.view other)
      ((ledger.putRecord id updated).view other) := by
  unfold view
  rw [lookup_putRecord]
  by_cases hOther : other = id
  · subst hOther
    rw [if_pos rfl, hRecord]
    exact .evolved record.view updated.view event hOp hStep
  · rw [if_neg hOther]
    exact .same _

theorem change_retire {ordered : RequestId} {count : AccountingSnapshot → AccountingSnapshot}
    (hRecord : ledger.requests.lookup id = some record) (hOp : op.event = some (id, event))
    (hStep : Step ledger.limits record.view event updated.view) (other : RequestId) :
    Change ledger.limits op other (ledger.view other)
      ((ledger.retire id ordered updated count).view other) := by
  unfold view
  rcases lookup_retire ledger id ordered other updated count with hKept | hGone
  · rw [hKept]
    by_cases hOther : other = id
    · subst hOther
      rw [if_pos rfl, hRecord]
      exact .evolved record.view updated.view event hOp hStep
    · rw [if_neg hOther]
      exact .same _
  · rw [hGone]
    exact .removed _

/- Rewriting what no view shows is no change. -/
theorem view_of_insert {after : RequestLedger} (hRecord : ledger.requests.lookup id = some record)
    (hAfter : after.requests = ledger.requests.insert id updated)
    (hView : updated.view = record.view) (other : RequestId) :
    after.view other = ledger.view other := by
  unfold view
  rw [hAfter, AList.lookup_insert_if]
  by_cases hOther : other = id
  · subst hOther
    rw [if_pos rfl, hRecord]
    simp [hView]
  · rw [if_neg hOther]

end RequestLedger

---
-- Every Operation Is A Change
---

theorem RequestRecord.recordBytes_view {record total : RequestRecord} {bytes : UInt64}
    {inbound : Bool} (hOk : record.recordBytes bytes inbound = .ok total) :
    total.view = record.view := by
  unfold recordBytes at hOk
  split at hOk
  · split at hOk
    · cases hOk
    · cases hOk
      rfl
  · split at hOk
    · cases hOk
    · cases hOk
      rfl

/- Rebinding a model changes nothing the view shows. -/
theorem RequestRecord.setAttemptModel_view
    {record updated : RequestRecord} {attempt : AttemptId} {hash : UInt64} {model : ModelGeneration}
    (hOk : record.setAttemptModel attempt hash model = .ok updated) :
    updated.view = record.view := by
  unfold setAttemptModel at hOk
  split at hOk
  · cases hOk
  · cases hOk
    exact record.view_updateAttempt_of_same attempt _ (fun _ => rfl)

theorem LedgerOp.Quiet.event {op : LedgerOp} (hQuiet : op.Quiet) : op.event = none := by
  cases op with
  | setAttemptModel | openFlow | releaseFlow | recordFlowBytes | recordDecision => rfl
  | _ => exact hQuiet.elim

namespace RequestLedger

open LedgerOp (Change)

variable {ledger after : RequestLedger} {op : LedgerOp} {success : Bool} {id ordered : RequestId}
variable {record updated : RequestRecord}

/- A rewrite is a step of the machine, or unseen by it. -/
theorem Rewrites.view {limits : LedgerLimits} (hRewrites : Rewrites limits id record op updated) :
    updated.view = record.view ∨
      ∃ event, op.event = some (id, event) ∧ Step limits record.view event updated.view := by
  cases hRewrites with
  | attemptRegistered _ _ _ _ _ _ _ hSet hOk =>
    exact .inr ⟨_, rfl, RequestRecord.registerAttempt_step hSet hOk⟩
  | revalidated _ _ _ _ hOk => exact .inr ⟨_, rfl, RequestRecord.revalidateRequest_step hOk⟩
  | superseded _ _ _ _ _ hSet hOk =>
    exact .inr ⟨_, rfl, RequestRecord.supersedeAttempt_step hSet hOk⟩
  | modelSet _ _ _ _ hOk => exact .inl (RequestRecord.setAttemptModel_view hOk)
  | stageAdvanced _ _ _ _ _ _ hOk => exact .inr ⟨_, rfl, RequestRecord.advanceStage_step hOk⟩
  | cancelledAgain _ _ _ _ hOk => exact .inr ⟨_, rfl, RequestRecord.cancelRequest_step hOk⟩
  | decided attempt => exact .inl (record.view_updateAttempt_of_same attempt _ (fun _ => rfl))

/- An ending is a step of the machine. -/
theorem Retires.step (limits : LedgerLimits) (hRetires : Retires id record op ordered updated) :
    ∃ event, op.event = some (id, event) ∧ Step limits record.view event updated.view := by
  cases hRetires with
  | failed _ _ _ _ _ hOk => exact ⟨_, rfl, RequestRecord.failAttempt_step hOk⟩
  | cancelled _ _ _ _ hOk => exact ⟨_, rfl, RequestRecord.cancelRequest_step hOk⟩
  | published publication now _ _ hId hResult hCommitted =>
    subst hId
    refine ⟨_, rfl, ?_⟩
    rcases RequestRecord.publishCompletion_cases limits hResult with
      ⟨hRefused, -⟩ | ⟨hSuppressed, -⟩ | ⟨-, hStep⟩
    · rw [hRefused] at hCommitted
      cases hCommitted
    · rw [hSuppressed] at hCommitted
      cases hCommitted
    · exact hStep

/- Quiet operations change the view of no request. -/
theorem Outcome.view_of_quiet (hOutcome : Outcome ledger op success after) (hQuiet : op.Quiet)
    (other : RequestId) : after.view other = ledger.view other := by
  cases hOutcome with
  | refused | counted | observed | overflowed => rfl
  | rewritten _ id record updated f hRecord hRewrites =>
    rcases hRewrites.view with hSame | ⟨event, hEvent, -⟩
    · exact view_of_insert hRecord rfl hSame other
    · rw [hQuiet.event] at hEvent
      cases hEvent
  | retired _ _ _ _ _ _ _ hRetires =>
    rcases hRetires.step ledger.limits with ⟨event, hEvent, -⟩
    rw [hQuiet.event] at hEvent
    cases hEvent
  | opened id _ _ _ _ record _ hRecord =>
    apply view_of_insert hRecord rfl
    rfl
  | released flow opened =>
    change ((ledger.requests.modify opened.request RequestRecord.releaseOne).lookup other).map _ = _
    rw [AList.lookup_modify]
    by_cases hOther : other = opened.request
    · rw [if_pos hOther, Option.map_map]
      rfl
    · rw [if_neg hOther]
      rfl
  | charged _ _ _ _ _ _ _ _ _ hRecord hOk =>
    exact view_of_insert hRecord rfl (RequestRecord.recordBytes_view hOk) other
  | _ => exact hQuiet.elim

/- Every outcome changes a view as the machine allows. -/
theorem Outcome.change (hOutcome : Outcome ledger op success after) (other : RequestId) :
    Change ledger.limits op other (ledger.view other) (after.view other) := by
  by_cases hQuiet : op.Quiet
  · rw [hOutcome.view_of_quiet hQuiet other]
    exact .same _
  cases hOutcome with
  | refused | counted => exact .same _
  | rewritten _ id record updated f hRecord hRewrites =>
    rcases hRewrites.view with hSame | ⟨event, hEvent, hStep⟩
    · have hView : ((ledger.putRecord id updated).account f).view other = ledger.view other :=
        view_of_insert hRecord rfl hSame other
      rw [hView]
      exact .same _
    · exact change_putRecord hRecord hEvent hStep other
  | retired _ _ _ _ _ _ hRecord hRetires =>
    rcases hRetires.step ledger.limits with ⟨event, hEvent, hStep⟩
    exact change_retire hRecord hEvent hStep other
  | interrupted id now record f hRecord hLive =>
    have hReleased : (ledger.releaseRequestFlows record.id).requests.lookup id = some record := by
      rw [releaseRequestFlows_requests, hRecord]
    have hStep :
        Step ledger.limits record.view .interrupted (record.markInterrupted now).view :=
      RequestRecord.markInterrupted_step hLive
    have hView : (ledger.releaseRequestFlows record.id).view other = ledger.view other := by
      unfold view
      rw [releaseRequestFlows_requests]
    rw [← releaseRequestFlows_limits ledger record.id] at hStep ⊢
    rw [← hView]
    exact change_putRecord hReleased rfl hStep other
  | registered id now _ hFresh =>
    unfold view
    rw [refreshRequestCounts_requests, account_requests, lookup_putRecord]
    by_cases hOther : other = id
    · subst hOther
      rw [if_pos rfl, hFresh]
      exact .registered now rfl
    · rw [if_neg hOther]
      exact .same _
  | restored record _ _ hFresh =>
    unfold view restoring
    rcases lookup_evictIfNeeded _ other with hKept | hGone
    · rw [hKept, refreshRequestCounts_requests, account_requests, lookup_putRecord]
      by_cases hOther : other = record.id
      · subst hOther
        rw [if_pos rfl, hFresh, Option.map_some, RequestRecord.view_restored]
        exact .restored record rfl rfl
      · rw [if_neg hOther]
        exact .same _
    · rw [hGone]
      exact .removed _
  | cleared => exact .removed _
  | _ => exact (hQuiet trivial).elim

variable (ledger : RequestLedger) (other : RequestId)

theorem step_view_of_quiet (op : LedgerOp) (hQuiet : op.Quiet) :
    (ledger.step op).view other = ledger.view other :=
  (step_outcome ledger op).view_of_quiet hQuiet other

/- The ledger refines the request machine. -/
theorem step_change (op : LedgerOp) :
    Change ledger.limits op other (ledger.view other) ((ledger.step op).view other) :=
  (step_outcome ledger op).change other

/- A run of quiet operations changes no view. -/
theorem steps_quiet (ops : List LedgerOp) (hQuiet : ∀ op ∈ ops, op.Quiet) :
    (ledger.steps ops).view other = ledger.view other := by
  induction ops generalizing ledger with
  | nil => rfl
  | cons op rest ih =>
    have hHead := step_view_of_quiet ledger other op (hQuiet op (by simp))
    have hRest := ih (ledger.step op) (fun later hLater => hQuiet later (by simp [hLater]))
    exact hRest.trans hHead

---
-- Successes And Failures
---

variable {ledger : RequestLedger} {attempt : AttemptId} {now : Int64} {reason : ReasonCode}

theorem view_of_lookup (hRecord : ledger.requests.lookup id = some record) :
    ledger.view id = some record.view := by
  unfold view
  rw [hRecord]
  rfl

theorem advanceStage_ok {target : ServingStage}
    (hOk : (ledger.advanceStage id attempt target now).1.isOk = true) :
    ∃ record next,
      ledger.requests.lookup id = some record ∧
        Step ledger.limits record.view (.stageAdvanced attempt target) next := by
  unfold advanceStage at hOk
  split at hOk
  · cases hOk
  split at hOk
  · cases hOk
  split at hOk
  · cases hOk
  rename_i record hRecord
  split at hOk
  · cases hOk
  rename_i updated hAdvance
  exact ⟨record, updated.view, hRecord, RequestRecord.advanceStage_step hAdvance⟩

theorem supersedeAttempt_ok {replacement : AttemptId}
    (hOk : (ledger.supersedeAttempt id attempt replacement now).1.isOk = true) :
    ∃ record next,
      ledger.requests.lookup id = some record ∧
        Step ledger.limits record.view (.superseded attempt replacement) next ∧
        (ledger.supersedeAttempt id attempt replacement now).2.view id = some next := by
  revert hOk
  unfold supersedeAttempt
  split
  · simp
  rename_i hSet
  split
  · simp
  rename_i record hRecord
  split
  · simp
  rename_i updated hSupersede
  intro _
  exact ⟨record, updated.view, hRecord,
    RequestRecord.supersedeAttempt_step (by simpa using hSet) hSupersede,
    view_of_lookup (AList.lookup_insert _)⟩

/- A cancelled request is closed or no longer retained. -/
theorem cancelRequest_ok {sequence : AuthoritySequence}
    (hOk : (ledger.cancelRequest id reason sequence now).1.isOk = true) :
    ∃ record next,
      ledger.requests.lookup id = some record ∧
        Step ledger.limits record.view (.cancelled reason sequence now) next ∧
        ((ledger.cancelRequest id reason sequence now).2.view id = some next ∨
          (ledger.cancelRequest id reason sequence now).2.view id = none) := by
  revert hOk
  unfold cancelRequest
  split
  · simp
  rename_i record hRecord
  split
  · simp
  · rename_i updated hCancel
    intro _
    exact ⟨record, updated.view, hRecord, RequestRecord.cancelRequest_step hCancel,
      .inl (view_of_lookup (AList.lookup_insert _))⟩
  · rename_i updated hCancel
    intro _
    exact ⟨record, updated.view, hRecord, RequestRecord.cancelRequest_step hCancel,
      view_retire ledger id id updated _⟩

/- A publication that is not committed changes no record. -/
theorem publishCompletion_uncommitted {publication : CompletionPublication}
    (hUncommitted :
      ¬ ∃ outcome,
        (ledger.publishCompletion publication now).1 = .ok outcome ∧
          outcome.disposition = .committed) (other : RequestId) :
    (ledger.publishCompletion publication now).2.view other = ledger.view other := by
  revert hUncommitted
  unfold publishCompletion
  split
  · exact fun _ => rfl
  split
  · exact fun _ => rfl
  rename_i record hRecord
  cases hResult : record.publishCompletion publication now with
  | mk outcome updated =>
  rcases RequestRecord.publishCompletion_cases ledger.limits hResult with
    ⟨hKind, -⟩ | ⟨hKind, -⟩ | ⟨hKind, -⟩
  · simp only [hKind]
    exact fun _ => rfl
  · simp only [hKind]
    exact fun _ => rfl
  · simp only [hKind]
    exact fun hUncommitted => (hUncommitted ⟨outcome, rfl, hKind⟩).elim

end RequestLedger

end TrafficFabric
