import TrafficFabric.Coordinator.FlowAgreement
import TrafficFabric.Coordinator.Restoration

/-
  The order in which terminal requests are evicted, and what
  a restart does to it: the snapshot lists the newest first,
  recovery appends in the order of the snapshot, and so the
  order is turned around.
-/

namespace TrafficFabric

open List RequestLedger

namespace RequestLedger

variable {ledger : RequestLedger} {id : RequestId}
variable {first second : RequestId}

/-
  Some number of evictions removes the first request while
  the second is still retained.
-/
def EvictsBefore (ledger : RequestLedger) (first second : RequestId) : Prop :=
  ∃ turns,
    (evictFront^[turns] ledger).retainsTerminal first = false ∧
      (evictFront^[turns] ledger).retainsTerminal second = true

/- The terminal requests that wait to be evicted. -/
def evictable (ledger : RequestLedger) : List RequestId :=
  ledger.terminalOrder.filter ledger.retainsTerminal

theorem evictsBefore_of_evictable {rest : List RequestId}
    (hWaiting : ledger.evictable = first :: second :: rest) (hOther : first ≠ second) :
    ledger.EvictsBefore first second := by
  rcases filter_eq_cons_iff.mp hWaiting with ⟨before, after, hOrder, hBefore, -, hAfter⟩
  have hSecond := of_mem_filter (hAfter ▸ mem_cons_self)
  have hTaken : ledger.terminalOrder.take (before.length + 1) = before ++ [first] := by
    rw [hOrder, take_append]
    simp
  refine ⟨before.length + 1, ?_, ?_⟩
  · rw [← Bool.not_eq_true, (iterate_evictFront_retains _ ledger first).2, hTaken]
    simp
  · rw [(iterate_evictFront_retains _ ledger second).2, hTaken]
    refine ⟨hSecond, ?_⟩
    intro hMem
    rcases mem_append.mp hMem with hMem | hMem
    · exact hBefore second hMem hSecond
    · exact hOther (mem_singleton.mp hMem).symm

/- The last to wait is evicted before no other. -/
theorem Ordered.not_evictsBefore {live : Nat} {before : List RequestId}
    (hOrdered : ledger.Ordered live) (hOrder : ledger.terminalOrder = before ++ [first])
    (hSecond : second ∈ before) : ¬ ledger.EvictsBefore first second := by
  rintro ⟨turns, hGone, hKept⟩
  rw [← Bool.not_eq_true, (iterate_evictFront_retains _ ledger first).2] at hGone
  rw [(iterate_evictFront_retains _ ledger second).2] at hKept
  have hHeld : ledger.retainsTerminal first = true := by
    rw [← hOrdered.listed, hOrder]
    simp
  have hNodup := hOrdered.nodup
  rw [hOrder] at hNodup hGone hKept
  by_cases hTurns : turns ≤ before.length
  · rw [take_append_of_le_length hTurns] at hGone
    apply hGone
    refine ⟨hHeld, fun hMem => ?_⟩
    exact (nodup_append.mp hNodup).2.2 first (mem_of_mem_take hMem) first (by simp) rfl
  · apply hKept.2
    rw [take_append, take_of_length_le (by omega)]
    exact mem_append_left _ hSecond

/- Looking up the order finds what waits to be evicted. -/
theorem Coherent.map_id_terminal (hCoherent : ledger.Coherent) (ids : List RequestId) :
    ((ids.filterMap (fun id => ledger.requests.lookup id)).filter
      (fun record => record.lifecycle.isTerminal)).map RequestRecord.id =
      ids.filter ledger.retainsTerminal := by
  induction ids with
  | nil => rfl
  | cons id rest ih =>
    cases hRecord : ledger.requests.lookup id with
    | none => simp [hRecord, retainsTerminal, ← ih]
    | some record =>
      have hId := hCoherent.keyed id record hRecord
      by_cases hTerminal : record.lifecycle.isTerminal = true
      · simp [hRecord, retainsTerminal, hTerminal, hId, ← ih]
      · simp [hRecord, retainsTerminal, hTerminal, ← ih]

/- The terminal order is within the retention limit. -/
def Within (ledger : RequestLedger) : Prop :=
  ledger.terminalOrder.length ≤ ledger.limits.maxRetainedTerminalRequests

theorem within_evictIfNeeded (ledger : RequestLedger) : ledger.evictIfNeeded.Within := by
  unfold Within
  rw [evictIfNeeded_limits]
  exact length_terminalOrder_evictIfNeeded ledger

theorem Within.step (hWithin : ledger.Within) (op : LedgerOp) : (ledger.step op).Within := by
  have hOutcome := step_outcome ledger op
  generalize ledger.succeeds op = success, ledger.step op = after at hOutcome ⊢
  cases hOutcome with
  | retired | restored => exact within_evictIfNeeded _
  | interrupted _ _ record =>
    unfold Within
    change (ledger.releaseRequestFlows record.id).terminalOrder.length ≤
      (ledger.releaseRequestFlows record.id).limits.maxRetainedTerminalRequests
    rw [releaseRequestFlows_terminalOrder, releaseRequestFlows_limits]
    exact hWithin
  | cleared => exact Nat.zero_le _
  | _ => exact hWithin

theorem Within.steps (hWithin : ledger.Within) (ops : List LedgerOp) :
    (ledger.steps ops).Within := by
  induction ops generalizing ledger with
  | nil => exact hWithin
  | cons op rest ih => exact ih (hWithin.step op)

---
-- Retirements
---

section Retirements

variable {other : RequestId} {record : RequestRecord}
variable {count : AccountingSnapshot → AccountingSnapshot}

theorem retiring_terminalOrder :
    (ledger.retiring id id record count).terminalOrder = ledger.terminalOrder ++ [id] :=
  congrArg (· ++ [id]) (releaseRequestFlows_terminalOrder ledger record.id)

theorem retiring_requests :
    (ledger.retiring id id record count).requests =
      ledger.requests.insert id record.closeAccounting :=
  congrArg (·.insert id record.closeAccounting) (releaseRequestFlows_requests ledger record.id)

theorem evictIfNeeded_retiring :
    ledger.retire id id record count =
      refreshRequestCounts
        (evictFront^[ledger.terminalOrder.length + 1 - ledger.limits.maxRetainedTerminalRequests]
          (ledger.retiring id id record count)) := by
  have hLimits : (ledger.retiring id id record count).limits = ledger.limits :=
    releaseRequestFlows_limits ledger record.id
  change evictIfNeeded (ledger.retiring id id record count) = _
  rw [evictIfNeeded, retiring_terminalOrder, hLimits, length_append, length_singleton]

/-
  The end of a request evicts of the others what as many
  turns evict as the order is longer than the limit then.
-/
theorem retire_retains (hOther : other ≠ id) :
    (ledger.retire id id record count).retainsTerminal other =
      (evictFront^[ledger.terminalOrder.length + 1 -
        ledger.limits.maxRetainedTerminalRequests] ledger).retainsTerminal other := by
  rw [evictIfNeeded_retiring, Bool.eq_iff_iff, (iterate_evictFront_retains _ ledger other).2]
  refine (iterate_evictFront_retains _ (ledger.retiring id id record count) other).2.trans ?_
  rw [retainsTerminal_insert retiring_requests, if_neg hOther, retiring_terminalOrder, take_append]
  have hLast (turns : Nat) : other ∉ [id].take turns := fun hMem =>
    hOther (mem_singleton.mp (mem_of_mem_take hMem))
  simp [hLast]

/-
  The request that the end of another evicts: the front of
  the order, if the order is full.
-/
def evictedBy (ledger : RequestLedger) (ended : RequestId) : Option RequestId :=
  if ledger.terminalOrder.length < ledger.limits.maxRetainedTerminalRequests then none
  else (ledger.terminalOrder ++ [ended]).head?

theorem contains_evictFront (hHeld : ledger.contains other = true)
    (hSpared : ledger.terminalOrder.head? ≠ some other) :
    ledger.evictFront.contains other = true := by
  rcases evictFront_cases ledger with ⟨-, hSame⟩ | ⟨victim, rest, hOrder, ⟨-, hEvict⟩ | ⟨-, hPop⟩⟩
  · rw [hSame]
    exact hHeld
  · have hOther : other ≠ victim := by
      rintro rfl
      exact hSpared (by rw [hOrder]; rfl)
    rw [hEvict]
    change ((ledger.requests.erase victim).lookup other).isSome = true
    rw [AList.lookup_erase_if, if_neg hOther]
    exact hHeld
  · rw [hPop]
    exact hHeld

theorem contains_of_insert {after : RequestLedger} (hHeld : ledger.contains other = true)
    (hRequests : after.requests = ledger.requests.insert id record) :
    after.contains other = true := by
  unfold contains
  rw [hRequests, AList.lookup_insert_if]
  split
  · rfl
  · exact hHeld

/- One end evicts one request at most. -/
theorem contains_retire (hWithin : ledger.Within) (hHeld : ledger.contains other = true)
    (hSpared : ledger.evictedBy id ≠ some other) :
    (ledger.retire id id record count).contains other = true := by
  have hStored : (ledger.retiring id id record count).contains other = true :=
    contains_of_insert hHeld retiring_requests
  unfold Within at hWithin
  rw [evictIfNeeded_retiring]
  by_cases hRoom : ledger.terminalOrder.length < ledger.limits.maxRetainedTerminalRequests
  · rw [Nat.sub_eq_zero_of_le hRoom]
    exact hStored
  · rw [show ledger.terminalOrder.length + 1 -
      ledger.limits.maxRetainedTerminalRequests = 1 by omega]
    refine contains_evictFront hStored ?_
    rw [retiring_terminalOrder]
    rwa [evictedBy, if_neg hRoom] at hSpared

/- A request is retained until an end evicts it. -/
theorem contains_step_of_spared (hCoherent : ledger.Coherent) (hWithin : ledger.Within)
    (op : LedgerOp) (hOrdinary : op.Ordinary) (hHeld : ledger.contains other = true)
    (hSpared : ∀ ended event, op.event = some (ended, event) → event.Ends →
      ledger.evictedBy ended ≠ some other) : (ledger.step op).contains other = true := by
  have hOutcome := step_outcome ledger op
  generalize ledger.succeeds op = success, ledger.step op = after at hOutcome ⊢
  cases hOutcome with
  | refused | counted => exact hHeld
  | rewritten | registered => exact contains_of_insert hHeld rfl
  | retired _ id ordered record updated count hRecord hRetires =>
    rcases hRetires.event with ⟨event, hEvent, hEnds⟩
    have hSame : ordered = id := by
      rcases hRetires.listed with hSame | hSame
      · exact hSame
      · exact hSame.trans (hCoherent.keyed id record hRecord)
    subst hSame
    exact contains_retire hWithin hHeld (hSpared ordered event hEvent hEnds)
  | _ => exact hOrdinary.elim

end Retirements

end RequestLedger

namespace Coordinator

variable {mt : Generator} {s base : Coordinator}

theorem Booted.within (hBooted : Booted mt s) : s.ledger.Within := by
  rcases hBooted.ledger with ⟨ledger, restored, hLedger⟩
  rw [hLedger]
  exact Within.steps (Nat.zero_le _) _

theorem Reachable.retained {config : CoordinatorConfig} (hReachable : Reachable mt config s) :
    s.ledger.Within ∧ s.Limited := by
  rcases hReachable with ⟨start, labels, ⟨entropy, rfl⟩, hRun⟩
  refine hRun.invariant (fun state => state.ledger.Within ∧ state.Limited) ?_ ⟨Nat.zero_le _, rfl⟩
  rintro before label after hTransition ⟨hWithin, hLimited⟩
  refine ⟨?_, hTransition.limited hLimited⟩
  rcases hTransition.booted_or_step with hBooted | ⟨op, -, rfl⟩
  · exact hBooted.within
  · rcases step_ledger before op with ⟨quiet, -, hLedger⟩
    rw [hLedger]
    exact (hWithin.steps _).steps quiet

---
-- Restarts
---

theorem bootFrom_terminalOrder (mt : Generator) (hCoherent : s.ledger.Coherent)
    (hWithin : s.ledger.Within) (hLimited : s.Limited)
    (hLimits : base.ledger.limits = s.ledger.limits)
    (hBoot : (base.bootFrom mt s.exportState).1.isOk = true) :
    (∃ live, (base.bootFrom mt s.exportState).2.ledger.Ordered live) ∧
      s.ledger.evictable.Nodup ∧
      (base.bootFrom mt s.exportState).2.ledger.terminalOrder = s.ledger.evictable.reverse := by
  have hValid := (bootFrom_isOk_iff mt base s.exportState).mp hBoot
  rcases restoreRecords_of_validated hValid with ⟨after, live, hRestored, hOrdered, hOrder, -⟩
  rcases bootFrom_of_accepted mt hValid hRestored with ⟨-, hLedger, -⟩
  have hAll : s.exportState.terminalRequests =
      s.ledger.terminalOrder.reverse.filterMap (fun id => s.ledger.requests.lookup id) := by
    refine take_of_length_le ((length_filterMap_le _ _).trans ?_)
    unfold Within at hWithin
    rw [hLimited] at hWithin
    rw [length_reverse]
    exact hWithin
  have hLive : s.exportState.interruptedRequests.filter
      (fun record => record.lifecycle.isTerminal) = [] := by
    rw [filter_eq_nil_iff]
    intro record hMem
    simp [(mem_exportLiveRecords hMem).2]
  have hExported :
      s.exportState.terminalRecords.map RequestRecord.id = s.ledger.evictable.reverse := by
    unfold PersistedCoordinatorState.terminalRecords PersistedCoordinatorState.records
    rw [filter_append, hLive, append_nil, hAll, hCoherent.map_id_terminal,
      filter_reverse]
    rfl
  have hNodup : (s.exportState.terminalRecords.map RequestRecord.id).Nodup :=
    (restorable_of_validated hValid).1.sublist (filter_sublist.map RequestRecord.id)
  rw [hExported, nodup_reverse] at hNodup
  refine ⟨⟨live, by rw [hLedger]; exact hOrdered⟩, hNodup, ?_⟩
  have hLength : s.ledger.evictable.length ≤ s.ledger.limits.maxRetainedTerminalRequests :=
    (length_filter_le _ _).trans hWithin
  rw [hLedger, hOrder, hExported, hLimits, List.rtake, length_reverse,
    Nat.sub_eq_zero_of_le hLength, drop_zero]

/-
  A restart keeps the order of eviction only when at most
  one terminal request waits to be evicted. The export
  starts with the newest request and recovery lists them as
  they come, so the newest is evicted first.
-/
theorem retention_order_restarted
    {config : CoordinatorConfig} {restored : Coordinator} {epoch : CoordinatorEpoch}
    (hReachable : Reachable mt config s) (hLimits : base.ledger.limits = s.ledger.limits)
    (hBoot : base.bootFrom mt s.exportState = (.ok epoch, restored)) :
    ((∀ first ∈ s.ledger.evictable, ∀ second ∈ s.ledger.evictable,
      (restored.ledger.EvictsBefore first second ↔ s.ledger.EvictsBefore first second)) ↔
      s.ledger.evictable.length ≤ 1) ∧
      ∀ (ledger : RequestLedger) (id other : RequestId) (record : RequestRecord)
        (count : AccountingSnapshot → AccountingSnapshot), other ≠ id →
        (ledger.retire id id record count).retainsTerminal other =
          (evictFront^[ledger.terminalOrder.length + 1 -
            ledger.limits.maxRetainedTerminalRequests] ledger).retainsTerminal other := by
  refine ⟨?_, fun ledger id other record count hOther => retire_retains hOther⟩
  rcases hReachable.retained with ⟨hWithin, hLimited⟩
  have hBooted := bootFrom_terminalOrder mt hReachable.coherent hWithin hLimited hLimits
    (by rw [hBoot]; rfl)
  rw [hBoot] at hBooted
  rcases hBooted with ⟨⟨live, hOrdered⟩, hNodup, hOrder⟩
  generalize hWaiting : s.ledger.evictable = waiting at hNodup hOrder ⊢
  constructor
  · intro hSame
    rcases waiting with _ | ⟨first, _ | ⟨second, rest⟩⟩
    · exact Nat.zero_le 1
    · exact Nat.le_refl 1
    · have hOther : first ≠ second := fun hEq =>
        (nodup_cons.mp hNodup).1 (hEq ▸ mem_cons_self)
      have hBefore := evictsBefore_of_evictable hWaiting hOther
      have hAfter := (hSame first (by simp) second (by simp)).mpr hBefore
      rw [reverse_cons] at hOrder
      exact (hOrdered.not_evictsBefore hOrder (by simp) hAfter).elim
  · intro hFew first hFirst second hSecond
    have hSame : first = second := by
      rcases waiting with _ | ⟨only, _ | ⟨other, rest⟩⟩
      · cases hFirst
      · exact (mem_singleton.mp hFirst).trans (mem_singleton.mp hSecond).symm
      · simp at hFew
    subst hSame
    have hNever : ∀ ledger : RequestLedger, ¬ ledger.EvictsBefore first first := by
      rintro ledger ⟨turns, hGone, hKept⟩
      rw [hGone] at hKept
      cases hKept
    exact iff_of_false (hNever _) (hNever _)

/- Requests that end one after another. -/
def endedOps (id : UInt64) : List Op :=
  [.registerRequest ⟨0, id⟩ 1, .cancelRequest ⟨0, id⟩ .rejectedRequestCancelled 2]

def keepsTwo : CoordinatorConfig where
  limits := { ledger := { maxRetainedTerminalRequests := 2 } }

def keepsTwoStart : Coordinator :=
  ((create keepsTwo 1).bootFresh sampleGenerator).2

theorem retention_order_restarted_single :
    let s := sampleStart.steps (endedOps 1)
    let restored := (s.bootFrom sampleGenerator s.exportState).2
    s.ledger.evictable = [⟨0, 1⟩] ∧
      ∀ first ∈ s.ledger.evictable, ∀ second ∈ s.ledger.evictable,
        (restored.ledger.EvictsBefore first second ↔ s.ledger.EvictsBefore first second) := by
  intro s restored
  have hBoot : s.bootFrom sampleGenerator s.exportState = (.ok ⟨2⟩, restored) := by
    have hOk : (s.bootFrom sampleGenerator s.exportState).1 = .ok ⟨2⟩ := by decide +kernel
    rw [← hOk]
  have hFew : s.ledger.evictable = [⟨0, 1⟩] := by decide +kernel
  exact ⟨hFew, (retention_order_restarted (sampleStart_reachable (endedOps 1)) rfl hBoot).1.mpr
    (by rw [hFew]; exact Nat.le_refl 1)⟩

/-
  Two requests ended. The end of a third evicts the older of
  them, and after a restart it evicts the newer one.
-/
theorem newest_evicted_first :
    let s := keepsTwoStart.steps (endedOps 1 ++ endedOps 2)
    let restored := (s.bootFrom sampleGenerator s.exportState).2
    let retained (t : Coordinator) (id : UInt64) := (t.steps (endedOps 3)).ledger.contains ⟨0, id⟩
    (s.bootFrom sampleGenerator s.exportState).1 = .ok ⟨2⟩ ∧
      (retained s 1, retained s 2) = (false, true) ∧
      (retained restored 1, retained restored 2) = (true, false) := by
  decide +kernel

end Coordinator

end TrafficFabric
