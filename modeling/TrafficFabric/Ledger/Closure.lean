import TrafficFabric.Library.Index
import TrafficFabric.Ledger.Flows
import TrafficFabric.Ledger.Retention

/-
  The flow accounting of the ledger is exact: the index holds
  every open flow once, a record counts the open flows of its
  request, and the total counts all of them.

  Main declarations:
    * `RequestLedger.openFlows`
    * `RequestLedger.Exact`
    * `RequestLedger.Exact.opening`
    * `RequestLedger.Exact.closing`
-/

---
-- Exact Accounting
---

namespace TrafficFabric

open AList

variable {count : UInt32}

namespace RequestLedger

def openFlows (ledger : RequestLedger) (id : RequestId) : Nat :=
  ledger.flows.total (fun flow => (decide (flow.request = id)).toNat)

/- The counters and the index say what is open. -/
structure Exact (ledger : RequestLedger) : Prop where
  index :
    Multimap.Indexes (fun flow : LedgerFlow => some flow.request) ledger.flowsByRequest ledger.flows
  counts :
    ∀ id record,
      ledger.requests.lookup id = some record → record.activeFlows.toNat = ledger.openFlows id
  total : ledger.accounting.activeFlowsTotal.toNat = ledger.flows.size
  bounded : ledger.flows.size ≤ ledger.limits.maxActiveFlowsTotal

variable {ledger next : RequestLedger}

theorem exists_of_openFlows {id : RequestId} (hOpen : ledger.openFlows id ≠ 0) :
    ∃ key flow, ledger.flows.lookup key = some flow ∧ flow.request = id := by
  rcases exists_of_total_pos _ (Nat.pos_of_ne_zero hOpen) with ⟨key, flow, hFlow, hCounts⟩
  refine ⟨key, flow, hFlow, ?_⟩
  by_contra hOther
  simp [hOther] at hCounts

theorem openFlows_of_absent {id : RequestId} (hCoherent : ledger.Coherent)
    (hAbsent : ledger.requests.lookup id = none) : ledger.openFlows id = 0 := by
  by_contra hOpen
  rcases exists_of_openFlows hOpen with ⟨key, flow, hFlow, hOwner⟩
  rcases hCoherent.served key flow hFlow with ⟨record, hRecord, -⟩
  rw [hOwner, hAbsent] at hRecord
  cases hRecord

theorem Exact.flowCount (hExact : ledger.Exact) (hCoherent : ledger.Coherent) (id : RequestId) :
    (ledger.flowCount id).toNat = ledger.openFlows id := by
  cases hRecord : ledger.requests.lookup id with
  | none =>
    rw [openFlows_of_absent hCoherent hRecord]
    unfold RequestLedger.flowCount
    rw [hRecord]
    rfl
  | some record =>
    rw [flowCount_of_lookup hRecord]
    exact hExact.counts id record hRecord

/- Changes that leave the flows alone. -/
theorem Exact.kept (hExact : ledger.Exact) (hCoherent : ledger.Coherent)
    (hKept : FlowsKept ledger next) (hLimits : next.limits = ledger.limits) : next.Exact := by
  have hFlows : next.flows = ledger.flows := congrArg FlowBook.flows hKept.book
  have hIndex : next.flowsByRequest = ledger.flowsByRequest := congrArg FlowBook.index hKept.book
  have hTotal : next.accounting.activeFlowsTotal = ledger.accounting.activeFlowsTotal :=
    congrArg FlowBook.total hKept.book
  refine ⟨?_, ?_, ?_, ?_⟩
  · rw [hFlows, hIndex]
    exact hExact.index
  · intro id record hRecord
    unfold openFlows
    rw [hKept.counts id record hRecord, hFlows]
    exact hExact.flowCount hCoherent id
  · rw [hTotal, hFlows]
    exact hExact.total
  · rw [hFlows, hLimits]
    exact hExact.bounded

end RequestLedger

---
-- Closing Flows
---

/- Counting down where something is counted. -/
theorem toNat_countDown {rest : Nat} (hCount : count.toNat = rest + 1) :
    (if 0 < count then count - 1 else count).toNat = rest := by
  have hPositive : 0 < count := by
    rw [UInt32.lt_iff_toNat_lt, hCount]
    exact Nat.succ_pos rest
  have hOne : (1 : UInt32) ≤ count := by
    rw [UInt32.le_iff_toNat_le, hCount]
    exact Nat.succ_le_succ (Nat.zero_le rest)
  rw [if_pos hPositive, UInt32.toNat_sub_of_le _ _ hOne, hCount]
  rfl

/- Counting up within the range of the counter. -/
theorem toNat_countUp {limit : Nat} (hRoom : count.toNat < limit) (hLimit : limit < 2 ^ 32) :
    (count + 1).toNat = count.toNat + 1 := by
  exact Nat.mod_eq_of_lt (by
    change count.toNat + 1 < 2 ^ 32
    omega)

namespace RequestLedger

variable {ledger next : RequestLedger} {flow : FlowId}
variable {opened : LedgerFlow}
variable {id : RequestId} {record : RequestRecord}

theorem releaseRequestFlows_total (request : RequestId)
    (hTotal : ledger.accounting.activeFlowsTotal.toNat = ledger.flows.size) :
    (ledger.releaseRequestFlows request).accounting.activeFlowsTotal.toNat =
      (ledger.releaseRequestFlows request).flows.size := by
  apply foldl_dropFlow_keeps
    (fun dropped => dropped.accounting.activeFlowsTotal.toNat = dropped.flows.size)
  · intro before flow opened hFlow hBefore
    have hSize := size_erase_of_some before.flows flow opened hFlow
    exact toNat_countDown (hBefore.trans hSize.symm)
  · exact hTotal

theorem size_releaseRequestFlows_le (ledger : RequestLedger) (request : RequestId) :
    (ledger.releaseRequestFlows request).flows.size ≤ ledger.flows.size := by
  apply foldl_dropFlow_keeps (fun dropped => dropped.flows.size ≤ ledger.flows.size)
  · intro before flow opened hFlow hBefore
    have hSize := size_erase_of_some before.flows flow opened hFlow
    change (before.flows.erase flow).size ≤ _
    omega
  · exact Nat.le_refl _

/- The flows of other requests are still open. -/
theorem openFlows_releaseRequestFlows (hExact : ledger.Exact) (request id : RequestId) :
    (ledger.releaseRequestFlows request).openFlows id =
      if id = request then 0 else ledger.openFlows id := by
  have hRange (key : FlowId) :
      key ∈ ledger.flowsByRequest.equalRange request ↔
        ∃ flow, ledger.flows.lookup key = some flow ∧ flow.request = request := by
    rw [hExact.index.mem_equalRange]
    simp
  split
  · rename_i hSame
    subst hSame
    by_contra hOpen
    rcases exists_of_openFlows hOpen with ⟨key, flow, hFlow, hOwner⟩
    rw [lookup_releaseRequestFlows] at hFlow
    split at hFlow
    · cases hFlow
    · rename_i hNot
      exact hNot ((hRange key).mpr ⟨flow, hFlow, hOwner⟩)
  · rename_i hOther
    refine total_eq_of_lookup _ _ ?_
    intro key
    rw [lookup_releaseRequestFlows]
    split
    · rename_i hMem
      rcases (hRange key).mp hMem with ⟨flow, hFlow, hOwner⟩
      rw [hFlow]
      simp [hOwner, Ne.symm hOther]
    · rfl

theorem Exact.dropped {request : RequestId} (hExact : ledger.Exact) (hCoherent : ledger.Coherent)
    (hDropped : FlowsDropped request ledger next) (hLimits : next.limits = ledger.limits) :
    next.Exact := by
  have hFlows : next.flows = (ledger.releaseRequestFlows request).flows :=
    congrArg FlowBook.flows hDropped.book
  have hIndex : next.flowsByRequest = ledger.flowsByRequest.eraseKey request := by
    refine (congrArg FlowBook.index hDropped.book).trans ?_
    unfold flowBook releaseRequestFlows
    simp only
    rw [(foldl_dropFlow_frame _ ledger).2.2.2]
  have hTotal :
      next.accounting.activeFlowsTotal =
        (ledger.releaseRequestFlows request).accounting.activeFlowsTotal :=
    congrArg FlowBook.total hDropped.book
  refine ⟨?_, ?_, ?_, ?_⟩
  · rw [hFlows, hIndex]
    exact hExact.index.eraseKey request (lookup_releaseRequestFlows ledger request)
  · intro id record hRecord
    have hOpen := openFlows_releaseRequestFlows hExact request id
    unfold openFlows at hOpen ⊢
    rw [hDropped.counts id record hRecord, hFlows, hOpen]
    split
    · rfl
    · exact hExact.flowCount hCoherent id
  · rw [hTotal, hFlows]
    exact releaseRequestFlows_total request hExact.total
  · rw [hFlows, hLimits]
    exact (size_releaseRequestFlows_le ledger request).trans hExact.bounded

theorem Exact.closing (hExact : ledger.Exact) (hFlow : ledger.flows.lookup flow = some opened) :
    (ledger.closing flow opened).Exact := by
  have hSize := size_erase_of_some ledger.flows flow opened hFlow
  have hCount (id : RequestId) :
      (ledger.closing flow opened).openFlows id + (decide (opened.request = id)).toNat =
        ledger.openFlows id :=
    total_erase_of_some _ hFlow
  refine ⟨?_, ?_, ?_, ?_⟩
  · exact hExact.index.erase hFlow
  · intro id record hRecord
    have hBefore := hCount id
    change (ledger.requests.modify opened.request RequestRecord.releaseOne).lookup id = some record
      at hRecord
    rw [lookup_modify] at hRecord
    split at hRecord
    · rename_i hOwner
      rcases Option.map_eq_some_iff.mp hRecord with ⟨old, hOld, rfl⟩
      rw [decide_eq_true hOwner.symm, Bool.toNat_true] at hBefore
      exact toNat_countDown ((hExact.counts id old hOld).trans hBefore.symm)
    · rename_i hOther
      rw [decide_eq_false (Ne.symm hOther), Bool.toNat_false, Nat.add_zero] at hBefore
      rw [hBefore]
      exact hExact.counts id record hRecord
  · exact toNat_countDown (hExact.total.trans hSize.symm)
  · have hBound := hExact.bounded
    change (ledger.flows.erase flow).size ≤ _
    exact (by omega : _ ≤ ledger.flows.size).trans hBound

---
-- Opening Flows
---

/- A flow is refused or opened for a live request. -/
theorem openFlow_cases (ledger : RequestLedger) (id : RequestId) (attempt : AttemptId)
    (traffic : TrafficClass) (bytes : UInt64) (now : Int64) :
    (∃ status,
      ledger.openFlow id attempt traffic bytes now = (.error status, ledger)) ∨
      ∃ record entry,
        ledger.requests.lookup id = some record ∧
          record.OpensFlow ledger.limits attempt entry ∧
          ledger.accounting.activeFlowsTotal.toNat < ledger.limits.maxActiveFlowsTotal ∧
          ledger.openFlow id attempt traffic bytes now =
            (.ok (ledger.newFlow id attempt traffic bytes now).id,
              ledger.opening record id (ledger.newFlow id attempt traffic bytes now).id
                (ledger.newFlow id attempt traffic bytes now)) := by
  unfold openFlow
  split
  · exact .inl ⟨_, rfl⟩
  · cases hRecord : ledger.requests.lookup id with
    | none => exact .inl ⟨_, rfl⟩
    | some record =>
      cases hCheck : record.checkOpenFlow ledger.limits attempt with
      | error status =>
        simp only [hCheck]
        exact .inl ⟨status, rfl⟩
      | ok _ =>
        simp only [hCheck]
        split
        · exact .inl ⟨_, rfl⟩
        · rename_i hRoom
          rcases RequestRecord.opensFlow_of_check hCheck with ⟨entry, hOpens⟩
          exact .inr ⟨record, entry, rfl, hOpens, Nat.lt_of_not_le hRoom, rfl⟩

theorem openFlow_ok {attempt : AttemptId} {traffic : TrafficClass} {bytes : UInt64} {now : Int64}
    (hOk : (ledger.openFlow id attempt traffic bytes now).1 = .ok flow) :
    flow = (ledger.newFlow id attempt traffic bytes now).id ∧
      ∃ record entry,
        ledger.requests.lookup id = some record ∧
          record.OpensFlow ledger.limits attempt entry ∧
          (ledger.openFlow id attempt traffic bytes now).2 =
            ledger.opening record id flow (ledger.newFlow id attempt traffic bytes now) := by
  rcases openFlow_cases ledger id attempt traffic bytes now with
    ⟨status, hRefused⟩ | ⟨record, entry, hRecord, hOpens, -, hOpened⟩
  · rw [hRefused] at hOk
    cases hOk
  · rw [hOpened] at hOk ⊢
    cases hOk
    exact ⟨rfl, record, entry, hRecord, hOpens, rfl⟩

/- A flow was opened under an identity not in use. -/
theorem Exact.opening (hExact : ledger.Exact) (hRecord : ledger.requests.lookup id = some record)
    (hOwner : opened.request = id) (hFresh : ledger.flows.lookup flow = none)
    (hOwn : record.activeFlows.toNat < ledger.limits.maxActiveFlowsPerRequest)
    (hAll : ledger.accounting.activeFlowsTotal.toNat < ledger.limits.maxActiveFlowsTotal)
    (hOwnLimit : ledger.limits.maxActiveFlowsPerRequest < 2 ^ 32)
    (hAllLimit : ledger.limits.maxActiveFlowsTotal < 2 ^ 32) :
    (ledger.opening record id flow opened).Exact := by
  have hEmplaced : ledger.flows.emplace flow opened = ledger.flows.insert flow opened :=
    emplace_of_none _ _ _ hFresh
  have hSize : (ledger.flows.emplace flow opened).size = ledger.flows.size + 1 := by
    rw [hEmplaced]
    exact size_insert_of_none _ _ _ hFresh
  have hCount (other : RequestId) :
      (ledger.opening record id flow opened).openFlows other =
        ledger.openFlows other + (decide (opened.request = other)).toNat := by
    change (ledger.flows.emplace flow opened).total _ = _
    rw [hEmplaced]
    exact total_insert_of_none _ opened hFresh
  refine ⟨?_, ?_, ?_, ?_⟩
  · change Multimap.Indexes _ (ledger.flowsByRequest ++ [(id, flow)])
      (ledger.flows.emplace flow opened)
    rw [hEmplaced, ← hOwner]
    exact hExact.index.insert opened hFresh
  · intro other held hHeld
    have hAfter := hCount other
    change (ledger.requests.insert id { record with
        activeFlows := record.activeFlows + 1 }).lookup other = some held at hHeld
    rw [lookup_insert_if] at hHeld
    split at hHeld
    · rename_i hSame
      cases hHeld
      rw [decide_eq_true (hOwner.trans hSame.symm), Bool.toNat_true] at hAfter
      rw [hAfter, hSame, ← hExact.counts id record hRecord]
      exact toNat_countUp hOwn hOwnLimit
    · rename_i hOther
      rw [decide_eq_false (fun hSame => hOther (hSame.symm.trans hOwner)),
        Bool.toNat_false, Nat.add_zero] at hAfter
      rw [hAfter]
      exact hExact.counts other held hHeld
  · change (ledger.accounting.activeFlowsTotal + 1).toNat = (ledger.flows.emplace flow opened).size
    rw [toNat_countUp hAll hAllLimit, hSize, hExact.total]
  · change (ledger.flows.emplace flow opened).size ≤ ledger.limits.maxActiveFlowsTotal
    rw [hSize, ← hExact.total]
    exact hAll

/- An open flow is rewritten for the same request. -/
theorem Exact.putFlow {updated : LedgerFlow} (hExact : ledger.Exact)
    (hFlow : ledger.flows.lookup flow = some opened) (hOwner : updated.request = opened.request) :
    (ledger.putFlow flow updated).Exact := by
  have hSize : (ledger.flows.insert flow updated).size = ledger.flows.size :=
    size_insert_of_some _ _ _ _ hFlow
  have hCount (id : RequestId) :
      (ledger.putFlow flow updated).openFlows id = ledger.openFlows id := by
    have hTotal := total_insert_of_some
      (fun held : LedgerFlow => (decide (held.request = id)).toNat) updated hFlow
    simp only [hOwner] at hTotal
    exact Nat.add_right_cancel hTotal
  refine ⟨hExact.index.update hFlow ?_, ?_, ?_, ?_⟩
  · rw [hOwner]
  · intro id record hRecord
    rw [hCount]
    exact hExact.counts id record hRecord
  · exact hExact.total.trans hSize.symm
  · exact hSize.le.trans hExact.bounded

theorem Exact.clear (ledger : RequestLedger) : ledger.clear.Exact where
  index := .empty
  counts id record hRecord := by
    cases hRecord
  total := rfl
  bounded := Nat.zero_le _

/- Eviction removes records and nothing else. -/
theorem Exact.evicted (hExact : ledger.Exact) (hEvicted : Evicted ledger next)
    (hLimits : next.limits = ledger.limits) : next.Exact := by
  have hFlows : next.flows = ledger.flows := congrArg FlowBook.flows hEvicted.book
  have hIndex : next.flowsByRequest = ledger.flowsByRequest := congrArg FlowBook.index hEvicted.book
  have hTotal : next.accounting.activeFlowsTotal = ledger.accounting.activeFlowsTotal :=
    congrArg FlowBook.total hEvicted.book
  refine ⟨?_, ?_, ?_, ?_⟩
  · rw [hFlows, hIndex]
    exact hExact.index
  · intro id record hRecord
    unfold openFlows
    rw [hFlows]
    exact hExact.counts id record (hEvicted.subset id record hRecord)
  · rw [hTotal, hFlows]
    exact hExact.total
  · rw [hFlows, hLimits]
    exact hExact.bounded

/- A restored record counts no flow. -/
theorem flowsKept_adding (hFresh : ledger.requests.lookup record.id = none) :
    FlowsKept ledger (ledger.adding record) := by
  have hStored : FlowsKept ledger (ledger.putRecord record.id record.restored) := by
    apply flowsKept_putRecord
    rw [Coherent.activeFlows_restored]
    unfold RequestLedger.flowCount
    rw [hFresh]
    rfl
  have hCounted :
      FlowsKept ledger
        ((ledger.putRecord record.id
          record.restored).account (countRestored record.lifecycle)) := by
    refine hStored.account _ ?_
    unfold countRestored
    split
    all_goals rfl
  exact ⟨hCounted.book, hCounted.counts, hCounted.held⟩

theorem restoreRecord_cases (ledger : RequestLedger) (record : RequestRecord) :
    (ledger.restoreRecord record).2 = ledger ∨
      ∃ stored : RequestLedger,
        FlowsKept ledger stored ∧
          stored.limits = ledger.limits ∧
          (ledger.restoreRecord record).2 = stored.evictIfNeeded := by
  have hOutcome := step_outcome ledger (.restoreRecord record)
  simp only [step] at hOutcome
  generalize ledger.succeeds (.restoreRecord record) = success at hOutcome
  generalize (ledger.restoreRecord record).2 = after at hOutcome ⊢
  cases hOutcome with
  | refused => exact .inl rfl
  | counted _ _ hOp => cases hOp
  | rewritten _ _ _ _ _ _ hRewrites => cases hRewrites
  | retired _ _ _ _ _ _ _ hRetires => cases hRetires
  | restored _ _ _ hFresh => exact .inr ⟨ledger.adding record, flowsKept_adding hFresh, rfl, rfl⟩

theorem Exact.restoreRecord (hExact : ledger.Exact) (hCoherent : ledger.Coherent)
    (record : RequestRecord) : (ledger.restoreRecord record).2.Exact := by
  rcases restoreRecord_cases ledger record with hSame | ⟨stored, hKept, hLimits, hAfter⟩
  · rw [hSame]
    exact hExact
  · rw [hAfter]
    exact (hExact.kept hCoherent hKept hLimits).evicted
      (evicted_evictIfNeeded _) (evictIfNeeded_limits _)

theorem restoreRecord_flowBook (ledger : RequestLedger) (record : RequestRecord) :
    (ledger.restoreRecord record).2.flowBook = ledger.flowBook := by
  rcases restoreRecord_cases ledger record with hSame | ⟨stored, hKept, -, hAfter⟩
  · rw [hSame]
  · rw [hAfter, (evicted_evictIfNeeded stored).book]
    exact hKept.book

end RequestLedger

end TrafficFabric
