import TrafficFabric.Ledger.Lifecycle
import TrafficFabric.Ledger.Recovery

/-
  The population counters of the ledger. As long as no
  operation retires a request twice, the terminal order
  lists the retained terminal records, the counters add up
  to the records, and the live limit is applied to the
  number of live records.

  Main declarations:
    * `RequestLedger.removedBy`
    * `RequestLedger.removed`
    * `RequestLedger.Audited.step`
    * `RequestLedger.ledger_population_exact`
-/

---
-- Removed Records
---

namespace TrafficFabric

open AList List UInt64 AccountingSnapshot

namespace RequestLedger

def addedBy (ledger : RequestLedger) (op : LedgerOp) : List RequestId :=
  if ledger.succeeds op then op.newRequest.toList else []

/-
  The requests an operation removes: those retained before
  it or added by it that the ledger no longer contains.
-/
def removedBy (ledger : RequestLedger) (op : LedgerOp) : List RequestId :=
  (ledger.requests.keys ++ ledger.addedBy op).filter (fun id => !(ledger.step op).contains id)

/- The records removed so far, counted anew by `clear`. -/
def tally (ledger : RequestLedger) (count : Nat) : LedgerOp → Nat
| .clear => 0
| op => count + (ledger.removedBy op).length

/- The records removed by a list of operations. -/
def removed (ledger : RequestLedger) (count : Nat) : List LedgerOp → Nat
| [] => count
| op :: rest => removed (ledger.step op) (ledger.tally count op) rest

variable {ledger after : RequestLedger} {op : LedgerOp} {success : Bool} {id : RequestId}
variable {record updated : RequestRecord}

theorem Rewrites.newRequest {limits : LedgerLimits}
    (hRewrites : Rewrites limits id record op updated) : op.newRequest = none := by
  cases hRewrites with
  | _ => rfl

theorem Retires.newRequest {ordered : RequestId} (hRetires : Retires id record op ordered updated) :
    op.newRequest = none := by
  cases hRetires with
  | _ => rfl

/- A request is only added under a fresh identity. -/
theorem Outcome.fresh (hOutcome : Outcome ledger op true after) (hNew : op.newRequest = some id) :
    ledger.requests.lookup id = none := by
  cases hOutcome with
  | counted _ _ hOp =>
    rw [hOp] at hNew
    cases hNew
  | rewritten _ _ _ _ _ _ hRewrites =>
    rw [hRewrites.newRequest] at hNew
    cases hNew
  | retired _ _ _ _ _ _ _ hRetires =>
    rw [hRetires.newRequest] at hNew
    cases hNew
  | registered _ _ _ hFresh | restored _ _ _ hFresh =>
    cases hNew
    exact hFresh
  | _ => cases hNew

theorem contains_iff (ledger : RequestLedger) (id : RequestId) :
    ledger.contains id = true ↔ id ∈ ledger.requests.keys := by
  unfold contains
  rw [Option.isSome_iff_exists]
  exact (mem_iff_lookup _ _).symm

/- Whatever a view appears for was added. -/
theorem view_added (hAbsent : ledger.view id = none) (hHeld : (ledger.step op).view id ≠ none) :
    op.newRequest = some id := by
  have hChange := step_change ledger id op
  rw [hAbsent] at hChange
  generalize (ledger.step op).view id = next at hChange hHeld
  cases hChange with
  | same | removed => exact (hHeld rfl).elim
  | registered now hOp =>
    rw [hOp]
    rfl
  | restored record hOp hId =>
    rw [hOp, ← hId]
    rfl

/- A record is retained from before or added. -/
theorem contains_step (hHeld : (ledger.step op).contains id = true) :
    ledger.contains id = true ∨ id ∈ ledger.addedBy op := by
  by_cases hBefore : ledger.contains id = true
  · exact .inl hBefore
  · right
    have hAbsent : ledger.view id = none := by
      unfold view
      rw [Option.not_isSome_iff_eq_none.mp hBefore]
      rfl
    have hPresent : (ledger.step op).view id ≠ none := by
      unfold view
      rcases Option.isSome_iff_exists.mp hHeld with ⟨record, hRecord⟩
      rw [hRecord]
      exact Option.some_ne_none _
    have hNew := view_added hAbsent hPresent
    have hOk : ledger.succeeds op = true := by
      by_contra hFails
      rw [Bool.not_eq_true] at hFails
      have hOutcome := step_outcome ledger op
      rw [hFails] at hOutcome
      generalize ledger.step op = after at hOutcome hPresent
      cases hOutcome with
      | refused => exact hPresent hAbsent
      | overflowed => cases hNew
    unfold addedBy
    rw [if_pos hOk, hNew]
    exact mem_singleton.mpr rfl

theorem nodup_addedBy (ledger : RequestLedger) (op : LedgerOp) : (ledger.addedBy op).Nodup := by
  unfold addedBy
  split
  · cases op.newRequest with
    | none => exact nodup_nil
    | some id => exact nodup_singleton id
  · exact nodup_nil

theorem fresh_of_mem_addedBy (hMem : id ∈ ledger.addedBy op) : id ∉ ledger.requests.keys := by
  unfold addedBy at hMem
  split at hMem
  · rename_i hOk
    have hOutcome := step_outcome ledger op
    rw [hOk] at hOutcome
    have hFresh := hOutcome.fresh (Option.mem_toList.mp hMem)
    intro hKey
    rcases (mem_iff_lookup _ _).mp hKey with ⟨record, hRecord⟩
    rw [hFresh] at hRecord
    cases hRecord
  · cases hMem

/- What is removed is what was there and is not. -/
theorem length_removedBy (ledger : RequestLedger) (op : LedgerOp) :
    (ledger.step op).requests.size + (ledger.removedBy op).length =
      ledger.requests.size + (ledger.addedBy op).length := by
  have hNodup : (ledger.requests.keys ++ ledger.addedBy op).Nodup := by
    apply ledger.requests.keys_nodup.append (nodup_addedBy ledger op)
    intro id hKey hAdded
    exact fresh_of_mem_addedBy hAdded hKey
  have hKept :
      ((ledger.requests.keys ++ ledger.addedBy op).filter
        (fun id => (ledger.step op).contains id)).Perm (ledger.step op).requests.keys := by
    apply (perm_ext_iff_of_nodup (hNodup.filter _) (ledger.step op).requests.keys_nodup).mpr
    intro id
    rw [mem_filter, contains_iff, mem_append, and_iff_right_iff_imp]
    intro hHeld
    rw [← contains_iff] at hHeld ⊢
    exact contains_step hHeld
  have hSplit := length_eq_length_filter_add (l := ledger.requests.keys ++ ledger.addedBy op)
    (fun id => (ledger.step op).contains id)
  rw [hKept.length_eq, length_keys, length_append, length_keys] at hSplit
  exact hSplit.symm

---
-- Balanced Counters
---

/- The counters add up to the records and the order. -/
structure Balanced (ledger : RequestLedger) : Prop where
  stored :
    ledger.accounting.requestsRegistered =
      ofNat ledger.requests.size + ledger.accounting.requestsEvicted
  ended :
    ledger.accounting.ended = ofNat ledger.terminalOrder.length + ledger.accounting.requestsEvicted

/- The two population gauges are up to date. -/
structure Gauged (ledger : RequestLedger) : Prop where
  retained : ledger.accounting.retainedRequests = ledger.terminalOrder.length
  live : ledger.accounting.liveRequests = ledger.requests.size - ledger.terminalOrder.length

/- The records keep their number, order and counters. -/
structure Unmoved (ledger after : RequestLedger) : Prop where
  size : after.requests.size = ledger.requests.size
  order : after.terminalOrder = ledger.terminalOrder
  counts : after.accounting.requestCounts = ledger.accounting.requestCounts

variable {live : Nat}

theorem Unmoved.balanced (hUnmoved : Unmoved ledger after) (hBalanced : ledger.Balanced) :
    after.Balanced := by
  have hCounts := hUnmoved.counts
  unfold requestCounts at hCounts
  simp only [RequestCounts.mk.injEq] at hCounts
  rcases hCounts with ⟨hRegistered, hCompleted, hCancelled, hFailed, hEvicted, -, -⟩
  constructor
  · rw [hRegistered, hUnmoved.size, hEvicted]
    exact hBalanced.stored
  · unfold ended
    rw [hCompleted, hCancelled, hFailed, hUnmoved.order, hEvicted]
    exact hBalanced.ended

theorem Unmoved.gauged (hUnmoved : Unmoved ledger after) (hGauged : ledger.Gauged) :
    after.Gauged := by
  have hCounts := hUnmoved.counts
  unfold requestCounts at hCounts
  simp only [RequestCounts.mk.injEq] at hCounts
  rcases hCounts with ⟨-, -, -, -, -, hLive, hRetained⟩
  constructor
  · rw [hRetained, hUnmoved.order]
    exact hGauged.retained
  · rw [hLive, hUnmoved.size, hUnmoved.order]
    exact hGauged.live

theorem Unmoved.rewrite (updated : RequestRecord)
    (hRecord : ledger.requests.lookup id = some record)
    (hRequests : after.requests = ledger.requests.insert id updated)
    (hOrder : after.terminalOrder = ledger.terminalOrder)
    (hCounts : after.accounting.requestCounts = ledger.accounting.requestCounts) :
    Unmoved ledger after := by
  refine ⟨?_, hOrder, hCounts⟩
  rw [hRequests]
  exact size_insert_of_some _ _ _ record hRecord

theorem releaseRequestFlows_requestCounts (ledger : RequestLedger) (request : RequestId) :
    (ledger.releaseRequestFlows
      request).accounting.requestCounts = ledger.accounting.requestCounts := by
  apply foldl_dropFlow_keeps (fun dropped =>
    dropped.accounting.requestCounts = ledger.accounting.requestCounts)
  · exact fun _ _ _ _ hSame => hSame
  · rfl

/- A turn of the loop moves one record to the evicted. -/
theorem Balanced.evictFront (hBalanced : ledger.Balanced) (hOrdered : ledger.Ordered live) :
    ledger.evictFront.Balanced := by
  rcases hOrdered.evictFront_cases with hSame | ⟨victim, rest, record, hOrder, hRecord, hEvict⟩
  · rw [hSame]
    exact hBalanced
  have hSize := size_erase_of_some ledger.requests victim record hRecord
  have hStored := hBalanced.stored
  have hEnded := hBalanced.ended
  rw [← hSize, ofNat_add, add_assoc, add_comm (ofNat 1)] at hStored
  rw [hOrder, length_cons, ofNat_add, add_assoc, add_comm (ofNat 1)] at hEnded
  rw [hEvict]
  exact ⟨hStored, hEnded⟩

theorem Balanced.evictIfNeeded (hBalanced : ledger.Balanced) (hOrdered : ledger.Ordered live) :
    ledger.evictIfNeeded.Balanced := by
  have hLoop := iterate_evictFront (fun evicted => evicted.Balanced ∧ evicted.Ordered live)
    (fun _ hTurn => ⟨hTurn.1.evictFront hTurn.2, hTurn.2.evictFront⟩)
    (ledger.terminalOrder.length - ledger.limits.maxRetainedTerminalRequests) ledger
    ⟨hBalanced, hOrdered⟩
  exact ⟨hLoop.1.stored, hLoop.1.ended⟩

/- A live record is listed and counted as ended. -/
theorem Balanced.retiring {count : AccountingSnapshot → AccountingSnapshot}
    (hBalanced : ledger.Balanced) (ordered : RequestId) (updated : RequestRecord)
    (hRecord : ledger.requests.lookup id = some record) (hCount : CountsEnd count) :
    (ledger.retiring id ordered updated count).Balanced := by
  have hReleased :
      Unmoved ledger
        ((ledger.releaseRequestFlows updated.id).putRecord id updated.closeAccounting) := by
    refine .rewrite updated.closeAccounting hRecord ?_ (releaseRequestFlows_terminalOrder ledger _)
      (releaseRequestFlows_requestCounts ledger _)
    change (ledger.releaseRequestFlows updated.id).requests.insert _ _ = _
    rw [releaseRequestFlows_requests]
  have hStored := hReleased.balanced hBalanced
  constructor
  · change (count _).requestsRegistered = _ + (count _).requestsEvicted
    rw [hCount.registered, hCount.evicted]
    exact hStored.stored
  · change (count _).ended = ofNat (_ ++ [ordered]).length + (count _).requestsEvicted
    rw [hCount.ended, hCount.evicted, length_append, length_singleton, ofNat_add]
    refine (congrArg (· + 1) hStored.ended).trans ?_
    exact add_right_comm _ _ _

theorem ended_countRestored (lifecycle : RequestLifecycle) (accounting : AccountingSnapshot) :
    (countRestored lifecycle accounting).ended =
      if lifecycle.isTerminal = true then accounting.ended + 1
      else accounting.ended := by
  unfold ended
  cases lifecycle with
  | completed | cancelled | failed =>
    refine Eq.trans ?_ (if_pos rfl).symm
    simp only [countRestored]
    ac_rfl
  | _ => rfl

/- A restored record is counted with its lifecycle. -/
theorem Balanced.adding (hBalanced : ledger.Balanced)
    (hFresh : ledger.requests.lookup record.id = none) : (ledger.adding record).Balanced := by
  have hSize := size_insert_of_none ledger.requests record.id record.restored hFresh
  have hRegistered :
      (countRestored record.lifecycle
        ledger.accounting).requestsRegistered = ledger.accounting.requestsRegistered + 1 := by
    cases record.lifecycle with
    | _ => rfl
  have hEvicted :
      (countRestored record.lifecycle
        ledger.accounting).requestsEvicted = ledger.accounting.requestsEvicted := by
    cases record.lifecycle with
    | _ => rfl
  constructor
  · change (countRestored record.lifecycle ledger.accounting).requestsRegistered =
      ofNat (ledger.requests.insert _ _).size +
        (countRestored record.lifecycle ledger.accounting).requestsEvicted
    rw [hRegistered, hEvicted, hSize, ofNat_add, hBalanced.stored]
    exact add_right_comm _ _ _
  · change (countRestored record.lifecycle ledger.accounting).ended =
      ofNat (if record.lifecycle.isTerminal = true
        then ledger.terminalOrder ++ [record.id]
        else ledger.terminalOrder).length +
          (countRestored record.lifecycle ledger.accounting).requestsEvicted
    rw [hEvicted]
    rw [ended_countRestored]
    split
    · rw [hBalanced.ended, length_append, length_singleton, ofNat_add]
      exact add_right_comm _ _ _
    · exact hBalanced.ended

---
-- Audited Ledgers
---

/- The population is exact, with this many removed. -/
structure Audited (ledger : RequestLedger) (removed : Nat) : Prop where
  coherent : ledger.Coherent
  ordered : ∃ live, ledger.Ordered live
  within : ledger.terminalOrder.length ≤ ledger.limits.maxRetainedTerminalRequests
  balanced : ledger.Balanced
  gauged : ledger.Gauged
  evicted : ledger.accounting.requestsEvicted = ofNat removed

variable {count : Nat}

theorem Audited.clear (ledger : RequestLedger) : ledger.clear.Audited 0 where
  coherent := .clear ledger
  ordered := ⟨0, .clear ledger⟩
  within := Nat.zero_le _
  balanced := ⟨rfl, rfl⟩
  gauged := ⟨rfl, rfl⟩
  evicted := rfl

/- A request is listed again only by such a failure. -/
theorem failsTerminal_of_retiresAgain (hAgain : op.RetiresAgain ledger) :
    ledger.FailsTerminal op := by
  rcases hAgain with ⟨id, event, view, hOp, hView, hTerminal, hFails⟩
  rcases (view_eq_some_iff ledger id view).mp hView with ⟨record, hRecord, rfl⟩
  exact failsTerminal_of_event hRecord hTerminal hOp hFails

/- What an operation does to the counters. -/
theorem Outcome.counters (hOutcome : Outcome ledger op success after) (hCoherent : ledger.Coherent)
    (hOrdered : ledger.Ordered live) (hOnce : ¬ op.RetiresAgain ledger)
    (hBalanced : ledger.Balanced) (hGauged : ledger.Gauged) : after.Balanced ∧ after.Gauged := by
  have hKeep (hUnmoved : Unmoved ledger after) : after.Balanced ∧ after.Gauged :=
    ⟨hUnmoved.balanced hBalanced, hUnmoved.gauged hGauged⟩
  cases hOutcome with
  | refused => exact ⟨hBalanced, hGauged⟩
  | counted _ f _ hCount => exact hKeep ⟨rfl, rfl, hCount.requests _⟩
  | rewritten _ id record updated f hRecord _ hCount =>
    exact hKeep (.rewrite updated hRecord rfl rfl (hCount.requests _))
  | retired _ id ordered record updated count hRecord hRetires hCount =>
    rcases hOrdered.retiring hCoherent hRecord hRetires hOnce count with ⟨fewer, hListed, -⟩
    have hRetired := (hBalanced.retiring ordered updated hRecord hCount).evictIfNeeded hListed
    exact ⟨hRetired, ⟨rfl, rfl⟩⟩
  | interrupted id now record f hRecord _ hCount =>
    refine hKeep (.rewrite (record.markInterrupted now) hRecord ?_
      (releaseRequestFlows_terminalOrder ledger _) ?_)
    · change (ledger.releaseRequestFlows record.id).requests.insert _ _ = _
      rw [releaseRequestFlows_requests]
    · exact (hCount.requests _).trans (releaseRequestFlows_requestCounts ledger _)
  | registered id now _ hFresh =>
    refine ⟨⟨?_, hBalanced.ended⟩, ⟨rfl, rfl⟩⟩
    change ledger.accounting.requestsRegistered + 1 =
      ofNat (ledger.requests.insert _ _).size + ledger.accounting.requestsEvicted
    rw [size_insert_of_none _ _ _ hFresh, ofNat_add, hBalanced.stored]
    exact add_right_comm _ _ _
  | opened id _ _ _ _ record _ hRecord =>
    exact hKeep (.rewrite { record with activeFlows := record.activeFlows + 1 } hRecord rfl rfl rfl)
  | released flow opened => exact hKeep ⟨size_modify _ _ _, rfl, rfl⟩
  | observed | overflowed => exact hKeep ⟨rfl, rfl, rfl⟩
  | charged _ _ _ _ _ _ updated _ _ hRecord => exact hKeep (.rewrite updated hRecord rfl rfl rfl)
  | restored record _ _ hFresh =>
    exact ⟨(hBalanced.adding hFresh).evictIfNeeded (hOrdered.adding record hFresh), ⟨rfl, rfl⟩⟩
  | cleared => exact ⟨⟨rfl, rfl⟩, ⟨rfl, rfl⟩⟩

theorem evictIfNeeded_requestsRegistered (ledger : RequestLedger) :
    ledger.evictIfNeeded.accounting.requestsRegistered = ledger.accounting.requestsRegistered := by
  apply evictIfNeeded_keeps (fun evicted =>
    evicted.accounting.requestsRegistered = ledger.accounting.requestsRegistered)
  · exact fun _ _ _ hSame => hSame
  · exact fun _ _ hSame => hSame
  · exact fun _ hSame => hSame
  · rfl

/- Every record an operation adds is counted. -/
theorem Outcome.requestsRegistered (hOutcome : Outcome ledger op success after)
    (hKept : op ≠ .clear) :
    after.accounting.requestsRegistered =
      ledger.accounting.requestsRegistered + ofNat (if success = true then
          op.newRequest.toList else []).length := by
  have hKeep (hNone : op.newRequest = none)
      (hCount : after.accounting.requestsRegistered = ledger.accounting.requestsRegistered) :
      after.accounting.requestsRegistered =
        ledger.accounting.requestsRegistered + ofNat (if success = true then
            op.newRequest.toList else []).length := by
    rw [hNone, hCount, Option.toList_none, ite_self]
    exact (add_zero _).symm
  cases hOutcome with
  | refused => exact (add_zero _).symm
  | counted _ f hOp hCount =>
    exact hKeep hOp (congrArg RequestCounts.registered (hCount.requests ledger.accounting))
  | rewritten _ _ _ _ f _ hRewrites hCount =>
    exact hKeep hRewrites.newRequest
      (congrArg RequestCounts.registered (hCount.requests ledger.accounting))
  | retired _ id ordered record updated count _ hRetires hCount =>
    refine hKeep hRetires.newRequest ?_
    refine (evictIfNeeded_requestsRegistered _).trans ?_
    refine (hCount.registered _).trans ?_
    exact congrArg RequestCounts.registered (releaseRequestFlows_requestCounts ledger updated.id)
  | interrupted id now record f _ _ hCount =>
    refine hKeep rfl ?_
    exact congrArg RequestCounts.registered
      ((hCount.requests _).trans (releaseRequestFlows_requestCounts ledger record.id))
  | registered => rfl
  | restored record =>
    refine (evictIfNeeded_requestsRegistered _).trans ?_
    cases record.lifecycle with
    | _ => rfl
  | cleared => exact (hKept rfl).elim
  | _ => exact hKeep rfl rfl

/- Every operation but a second ending keeps the audit. -/
theorem Audited.step (hAudited : ledger.Audited count) (hOnce : ¬ ledger.FailsTerminal op) :
    (ledger.step op).Audited (ledger.tally count op) := by
  by_cases hClear : op = .clear
  · rw [hClear]
    exact .clear ledger
  have hAgain := fun hAgain => hOnce (failsTerminal_of_retiresAgain hAgain)
  have hOutcome := step_outcome ledger op
  rcases hAudited.ordered with ⟨live, hOrdered⟩
  rcases hOrdered.outcome hAudited.coherent hAudited.within
    hOutcome hAgain with ⟨next, hNext, hLength, -⟩
  rcases hOutcome.counters hAudited.coherent hOrdered hAgain hAudited.balanced hAudited.gauged with
    ⟨hBalanced, hGauged⟩
  refine ⟨hAudited.coherent.step op, ⟨next, hNext⟩, ?_, hBalanced, hGauged, ?_⟩
  · rw [step_limits]
    exact hLength
  have hTally : ledger.tally count op = count + (ledger.removedBy op).length := by
    cases op with
    | clear => exact (hClear rfl).elim
    | _ => rfl
  have hAdded := hOutcome.requestsRegistered hClear
  have hLengths := congrArg ofNat (length_removedBy ledger op)
  rw [ofNat_add, ofNat_add] at hLengths
  have hSum :
      ofNat (ledger.step op).requests.size + (ledger.step op).accounting.requestsEvicted =
        ofNat (ledger.step op).requests.size +
          (ofNat (ledger.removedBy op).length + ledger.accounting.requestsEvicted) := by
    rw [← hBalanced.stored, hAdded, hAudited.balanced.stored, ← add_assoc, hLengths]
    exact add_right_comm _ _ _
  rw [hTally, ofNat_add, add_left_cancel hSum, hAudited.evicted]
  exact add_comm _ _

theorem Audited.run {ops : List LedgerOp} (hAudited : ledger.Audited count)
    (hRun : Run (Performs (fun state op => ¬ state.FailsTerminal op)) ledger ops after) :
    after.Audited (ledger.removed count ops) := by
  induction hRun generalizing count with
  | nil => exact hAudited
  | cons hStep _ ih =>
    rcases hStep with ⟨hOnce, rfl⟩
    exact ih (hAudited.step hOnce)

/-
  In every run that never fails an open attempt of a
  terminal request, the terminal order lists the retained
  terminal records, each once, the counters are exact, and
  a new request is refused for capacity exactly when the
  live limit is reached.
-/
theorem ledger_population_exact
    (limits : LedgerLimits) (ledger : RequestLedger) (ops : List LedgerOp)
    (hRun : Run (Performs (fun state op => ¬ state.FailsTerminal op)) (create limits) ops ledger) :
    ledger.terminalOrder.Nodup ∧
      (∀ id,
        id ∈ ledger.terminalOrder ↔
          ∃ record, ledger.snapshotRequest id = some record ∧ record.lifecycle.isTerminal = true) ∧
      ledger.accounting.liveRequests = ledger.exportLiveRecords.length ∧
      ledger.accounting.retainedRequests = ledger.terminalRecords.length ∧
      ledger.accounting.requestsRegistered =
        UInt64.ofNat ledger.exportLiveRecords.length + ledger.accounting.requestsCompleted +
          ledger.accounting.requestsCancelled + ledger.accounting.requestsFailed ∧
      ledger.accounting.requestsEvicted = UInt64.ofNat ((create limits).removed 0 ops) ∧
      ledger.terminalRecords.length ≤ limits.maxRetainedTerminalRequests ∧
      ∀ id now,
        id ≠ .nil → ledger.snapshotRequest id = none → ledger.requests.size < UInt64.size →
        ((∃ message,
          (ledger.registerRequest id now).1 = .failure .capacityExhausted message) ↔
          limits.normalised.maxLiveRequests ≤ ledger.exportLiveRecords.length) := by
  have hAudited := Audited.run (Audited.clear (create limits)) hRun
  have hLimits : ledger.limits = limits.normalised := by
    apply hRun.invariant (fun state => state.limits = limits.normalised)
    · rintro state op next ⟨-, rfl⟩ hState
      exact (step_limits state op).trans hState
    · rfl
  rcases hAudited.ordered with ⟨live, hOrdered⟩
  have hLive := hOrdered.length_exportLiveRecords hAudited.coherent
  have hTerminal := hOrdered.length_terminalRecords hAudited.coherent
  have hBalance := hOrdered.balance
  refine ⟨hOrdered.nodup, ?_, ?_, ?_, ?_, hAudited.evicted, ?_, ?_⟩
  · intro id
    rw [hOrdered.listed, retainsTerminal_iff]
    rfl
  · rw [hAudited.gauged.live, hLive]
    omega
  · rw [hAudited.gauged.retained, hTerminal]
  · have hEnded := hAudited.balanced.ended
    rw [hAudited.balanced.stored, hBalance, hLive, ofNat_add, add_assoc, add_comm, add_assoc,
      add_comm ledger.accounting.requestsEvicted, ← hEnded]
    unfold ended
    ac_rfl
  · rw [hTerminal]
    have hWithin := hAudited.within
    rw [hLimits] at hWithin
    exact hWithin
  · intro id now hSet hFresh hSmall
    rw [hLive, ← hLimits]
    unfold snapshotRequest at hFresh
    unfold registerRequest
    rw [if_neg (by simpa using hSet), hFresh, hOrdered.toNat_liveCount hSmall]
    by_cases hFull : ledger.limits.maxLiveRequests ≤ live
    · simp [hFull]
    · simp [hFull, Result.failure]

/- Operations that are always allowed make a run. -/
theorem run_steps {allowed : RequestLedger → LedgerOp → Prop} (ledger : RequestLedger)
    (ops : List LedgerOp) (hAllowed : ∀ state, ∀ op ∈ ops, allowed state op) :
    Run (Performs allowed) ledger ops (ledger.steps ops) := by
  induction ops generalizing ledger with
  | nil => exact .nil ledger
  | cons op rest ih =>
    refine .cons ⟨hAllowed ledger op mem_cons_self, rfl⟩ (ih (ledger.step op) ?_)
    intro state other hMem
    exact hAllowed state other (mem_cons_of_mem op hMem)

/- Two completed requests, and room to retain one. -/
theorem ledger_population_exact_evicting :
    let limits : LedgerLimits := { maxRetainedTerminalRequests := 1 }
    let completing (request : RequestId) (attempt : AttemptId) : List LedgerOp :=
      [.registerRequest request 1,
        .registerAttempt request attempt 0 .unset .unset 2,
        .publishCompletion { request, attempt } 3]
    let ops := completing ⟨1, 1⟩ ⟨2, 1⟩ ++ completing ⟨1, 2⟩ ⟨2, 2⟩
    let ledger := (create limits).steps ops
    (create limits).removed 0 ops = 1 ∧
      ledger.accounting.requestsEvicted = 1 ∧
      ledger.accounting.retainedRequests = ledger.terminalRecords.length := by
  intro limits completing ops ledger
  have hRun :
      Run (Performs (fun state op => ¬ state.FailsTerminal op)) (create limits) ops ledger := by
    apply run_steps
    rintro state op hMem ⟨id, attempt, reason, now, record, entry, rfl, -⟩
    simp [ops, completing] at hMem
  have hRemoved : (create limits).removed 0 ops = 1 := by decide
  rcases ledger_population_exact limits ledger ops hRun with ⟨-, -, -, hRetained, -, hEvicted, -⟩
  rw [hRemoved] at hEvicted
  exact ⟨hRemoved, hEvicted, hRetained⟩

/-
  A completed request is failed by its second attempt and
  listed twice. No request is live, and the next one is
  refused.
-/
theorem repeated_ending_blocks_registration :
    let request : RequestId := ⟨1, 1⟩
    let ledger :=
      (create {}).steps
        [.registerRequest request 1,
          .registerAttempt request ⟨2, 1⟩ 0 .unset .unset 2,
          .registerAttempt request ⟨2, 2⟩ 0 .unset .unset 3,
          .publishCompletion { request, attempt := ⟨2, 1⟩ } 4,
          .failAttempt request ⟨2, 2⟩ .attemptFailed 5]
    ledger.terminalOrder = [request, request] ∧
      ledger.exportLiveRecords.length = 0 ∧ ledger.terminalRecords.length = 1 ∧
      ledger.accounting.retainedRequests = 2 ∧ ledger.accounting.requestsRegistered = 1 ∧
      ledger.accounting.terminalCounts = (1, 0, 1) ∧
      (ledger.registerRequest ⟨1, 2⟩ 6).1 =
        .failure .capacityExhausted "live request limit reached" := by
  decide

end RequestLedger

end TrafficFabric
