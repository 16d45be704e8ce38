import TrafficFabric.Ledger.Coherence

/-
  The population of the ledger: the terminal order lists
  the retained terminal records, each once, and the other
  records are the live ones, within their limit.

  One operation can break this: failing an open attempt of
  a request that is already terminal lists the request a
  second time.

  Main declarations:
    * `RequestLedger.Ordered`
    * `RequestLedger.Populated`
    * `RequestLedger.Ordered.outcome`
    * `RequestLedger.Populated.step`
-/

---
-- Limits
---

namespace TrafficFabric

open AList List

namespace RequestLedger

variable (ledger : RequestLedger) (id : RequestId)

theorem evictIfNeeded_limits : ledger.evictIfNeeded.limits = ledger.limits := by
  apply evictIfNeeded_keeps (fun evicted => evicted.limits = ledger.limits)
  · exact fun _ _ _ hSame => hSame
  · exact fun _ _ hSame => hSame
  · exact fun _ hSame => hSame
  · rfl

/- No operation changes the limits. -/
theorem Outcome.limits {ledger after : RequestLedger} {op : LedgerOp} {success : Bool}
    (hOutcome : Outcome ledger op success after) : after.limits = ledger.limits := by
  cases hOutcome with
  | retired =>
    unfold retire
    rw [evictIfNeeded_limits]
    exact releaseRequestFlows_limits ledger _
  | interrupted => exact releaseRequestFlows_limits ledger _
  | restored =>
    unfold restoring
    rw [evictIfNeeded_limits]
    rfl
  | _ => rfl

theorem step_limits (op : LedgerOp) : (ledger.step op).limits = ledger.limits :=
  (step_outcome ledger op).limits

theorem steps_limits (ops : List LedgerOp) : (ledger.steps ops).limits = ledger.limits := by
  induction ops generalizing ledger with
  | nil => rfl
  | cons op rest ih => exact (ih (ledger.step op)).trans (step_limits ledger op)

---
-- The Terminal Order
---

/-
  The terminal order lists the terminal records, each once,
  and `live` other records are retained.
-/
structure Ordered (ledger : RequestLedger) (live : Nat) : Prop where
  nodup : ledger.terminalOrder.Nodup
  listed : ∀ id, id ∈ ledger.terminalOrder ↔ ledger.retainsTerminal id = true
  balance : ledger.requests.size = ledger.terminalOrder.length + live

theorem retainsTerminal_iff :
    ledger.retainsTerminal id = true ↔
      ∃ record, ledger.requests.lookup id = some record ∧ record.lifecycle.isTerminal = true := by
  unfold retainsTerminal
  cases ledger.requests.lookup id with
  | none | some => simp

/- Whether an identity is terminal after a record is put. -/
theorem retainsTerminal_insert
    {ledger after : RequestLedger} {id : RequestId} {updated : RequestRecord}
    (hRequests : after.requests = ledger.requests.insert id updated) (other : RequestId) :
    after.retainsTerminal other = if other = id then updated.lifecycle.isTerminal
      else ledger.retainsTerminal other := by
  unfold retainsTerminal
  rw [hRequests, lookup_insert_if]
  by_cases hSame : other = id
  · rw [if_pos hSame, if_pos hSame]
    rfl
  · rw [if_neg hSame, if_neg hSame]

/- A turn removes the front of the order and nothing else. -/
theorem evictFront_retains :
    ledger.evictFront.terminalOrder = ledger.terminalOrder.tail ∧
      (ledger.evictFront.retainsTerminal id = true ↔
        ledger.retainsTerminal id = true ∧ id ∉ ledger.terminalOrder.take 1) := by
  rcases evictFront_cases ledger with ⟨hEmpty, hSame⟩ | ⟨victim, rest, hOrder, hTurn⟩
  · rw [hSame, hEmpty]
    simp
  · rw [hOrder]
    rcases hTurn with ⟨hVictim, hEvict⟩ | ⟨hVictim, hPop⟩
    · rw [hEvict]
      refine ⟨rfl, ?_⟩
      change ((ledger.requests.erase victim).lookup id).any _ = true ↔ _
      rw [lookup_erase_if]
      by_cases hSame : id = victim
      · simp [hSame]
      · simp [hSame, retainsTerminal]
    · rw [hPop]
      refine ⟨rfl, ?_⟩
      change ledger.retainsTerminal id = true ↔ _
      by_cases hSame : id = victim
      · simp [hSame, hVictim]
      · simp [hSame]

/- The loop removes the requests at the front. -/
theorem iterate_evictFront_retains (turns : Nat) (ledger : RequestLedger) (id : RequestId) :
    (evictFront^[turns] ledger).terminalOrder = ledger.terminalOrder.drop turns ∧
      ((evictFront^[turns] ledger).retainsTerminal id = true ↔
        ledger.retainsTerminal id = true ∧ id ∉ ledger.terminalOrder.take turns) := by
  induction turns generalizing ledger with
  | zero => simp
  | succ turns ih =>
    rcases evictFront_retains ledger id with ⟨hOrder, hTurn⟩
    rcases ih ledger.evictFront with ⟨hDropped, hLoop⟩
    rw [Function.iterate_succ_apply, hDropped, hLoop, hTurn, hOrder]
    cases hFront : ledger.terminalOrder with
    | nil => simp
    | cons victim rest => simp [and_assoc]

theorem length_terminalOrder_evictIfNeeded :
    ledger.evictIfNeeded.terminalOrder.length ≤ ledger.limits.maxRetainedTerminalRequests := by
  change (evictFront^[_] ledger).terminalOrder.length ≤ _
  rw [(iterate_evictFront_retains _ ledger .nil).1, length_drop]
  omega

namespace Ordered

variable {ledger after : RequestLedger} {live : Nat} {id : RequestId} {record : RequestRecord}
variable {next : Nat} {updated : RequestRecord}

theorem clear (ledger : RequestLedger) : ledger.clear.Ordered 0 where
  nodup := nodup_nil
  listed id := by
    constructor
    · intro hMem
      cases hMem
    · intro hRetained
      cases hRetained
  balance := rfl

/- The same records are terminal, and listed as before. -/
theorem relist (hOrdered : ledger.Ordered live)
    (hOrder : after.terminalOrder = ledger.terminalOrder)
    (hSame : ∀ id, after.retainsTerminal id = ledger.retainsTerminal id)
    (hSize : after.requests.size = ledger.terminalOrder.length + next) : after.Ordered next := by
  refine ⟨?_, fun id => ?_, ?_⟩
  · rw [hOrder]
    exact hOrdered.nodup
  · rw [hOrder, hSame]
    exact hOrdered.listed id
  · rw [hOrder]
    exact hSize

/- The order reads the records and the list only. -/
theorem congr (hOrdered : ledger.Ordered live) (hRequests : after.requests = ledger.requests)
    (hOrder : after.terminalOrder = ledger.terminalOrder) : after.Ordered live := by
  refine hOrdered.relist hOrder (fun id => ?_) ?_
  · unfold retainsTerminal
    rw [hRequests]
  · rw [hRequests]
    exact hOrdered.balance

theorem rewrite (hOrdered : ledger.Ordered live)
    (hRecord : ledger.requests.lookup id = some record)
    (hTerminal : updated.lifecycle.isTerminal = record.lifecycle.isTerminal)
    (hRequests : after.requests = ledger.requests.insert id updated)
    (hOrder : after.terminalOrder = ledger.terminalOrder) : after.Ordered live := by
  refine hOrdered.relist hOrder (fun other => ?_) ?_
  · rw [retainsTerminal_insert hRequests]
    split
    · rename_i hSame
      rw [hSame, hTerminal, retainsTerminal, hRecord]
      rfl
    · rfl
  · rw [hRequests, size_insert_of_some _ _ _ record hRecord]
    exact hOrdered.balance

theorem addLive (hOrdered : ledger.Ordered live) (hFresh : ledger.requests.lookup id = none)
    (hLive : record.lifecycle.isTerminal = false)
    (hRequests : after.requests = ledger.requests.insert id record)
    (hOrder : after.terminalOrder = ledger.terminalOrder) : after.Ordered (live + 1) := by
  refine hOrdered.relist hOrder (fun other => ?_) ?_
  · rw [retainsTerminal_insert hRequests]
    split
    · rename_i hSame
      rw [hSame, hLive, retainsTerminal, hFresh]
      rfl
    · rfl
  · rw [hRequests, size_insert_of_none _ _ _ hFresh, hOrdered.balance]
    rfl

/- One more terminal record is listed. -/
theorem addListed (hOrdered : ledger.Ordered live) (hAbsent : ledger.retainsTerminal id = false)
    (hTerminal : updated.lifecycle.isTerminal = true)
    (hRequests : after.requests = ledger.requests.insert id updated)
    (hOrder : after.terminalOrder = ledger.terminalOrder ++ [id])
    (hSize : (ledger.requests.insert id updated).size = ledger.terminalOrder.length + 1 + next) :
    after.Ordered next := by
  have hUnlisted : id ∉ ledger.terminalOrder := by
    intro hMem
    have hRetained := (hOrdered.listed id).mp hMem
    rw [hAbsent] at hRetained
    cases hRetained
  refine ⟨?_, fun other => ?_, ?_⟩
  · rw [hOrder]
    apply List.Nodup.append hOrdered.nodup (nodup_singleton id)
    rw [disjoint_singleton]
    exact hUnlisted
  · rw [hOrder, mem_append, mem_singleton,
      hOrdered.listed, retainsTerminal_insert hRequests]
    by_cases hSame : other = id
    · simp [hSame, hTerminal]
    · simp [hSame]
  · rw [hRequests, hOrder, length_append]
    exact hSize

/- A live record becomes terminal and is listed. -/
theorem finish (hOrdered : ledger.Ordered (live + 1))
    (hRecord : ledger.requests.lookup id = some record)
    (hLive : record.lifecycle.isTerminal = false)
    (hTerminal : updated.lifecycle.isTerminal = true)
    (hRequests : after.requests = ledger.requests.insert id updated)
    (hOrder : after.terminalOrder = ledger.terminalOrder ++ [id]) : after.Ordered live := by
  refine hOrdered.addListed ?_ hTerminal hRequests hOrder ?_
  · rw [retainsTerminal, hRecord]
    exact hLive
  · rw [size_insert_of_some _ _ _ record hRecord, hOrdered.balance]
    omega

theorem addTerminal (hOrdered : ledger.Ordered live) (hFresh : ledger.requests.lookup id = none)
    (hTerminal : record.lifecycle.isTerminal = true)
    (hRequests : after.requests = ledger.requests.insert id record)
    (hOrder : after.terminalOrder = ledger.terminalOrder ++ [id]) : after.Ordered live := by
  refine hOrdered.addListed ?_ hTerminal hRequests hOrder ?_
  · rw [retainsTerminal, hFresh]
    rfl
  · rw [size_insert_of_none _ _ _ hFresh, hOrdered.balance]
    omega

theorem live_pos (hOrdered : ledger.Ordered live)
    (hRecord : ledger.requests.lookup id = some record)
    (hLive : record.lifecycle.isTerminal = false) : 0 < live := by
  have hKey := (mem_iff_lookup _ _).mpr ⟨record, hRecord⟩
  have hUnlisted : id ∉ ledger.terminalOrder := by
    intro hMem
    have hRetained := (hOrdered.listed id).mp hMem
    unfold retainsTerminal at hRetained
    rw [hRecord] at hRetained
    exact absurd hRetained (by simp [hLive])
  have hSubset : id :: ledger.terminalOrder ⊆ ledger.requests.keys := by
    intro other hMem
    rcases mem_cons.mp hMem with hSame | hMem
    · rw [hSame]
      exact hKey
    · have hRetained := (hOrdered.listed other).mp hMem
      rcases (retainsTerminal_iff ledger other).mp hRetained with ⟨held, hHeld, -⟩
      exact (mem_iff_lookup _ _).mpr ⟨held, hHeld⟩
  have hLength := (subperm_of_subset (nodup_cons.mpr ⟨hUnlisted, hOrdered.nodup⟩) hSubset).length_le
  rw [length_keys, hOrdered.balance, length_cons] at hLength
  omega

/- A turn evicts the oldest terminal record, if any. -/
theorem evictFront_cases (hOrdered : ledger.Ordered live) :
    ledger.evictFront = ledger ∨
      ∃ victim rest record,
        ledger.terminalOrder = victim :: rest ∧
          ledger.requests.lookup victim = some record ∧
          ledger.evictFront = evict { ledger with terminalOrder := rest } victim := by
  rcases RequestLedger.evictFront_cases ledger with ⟨-, hSame⟩ | ⟨victim, rest, hOrder, hTurn⟩
  · exact .inl hSame
  have hVictim : ledger.retainsTerminal victim = true := by
    rw [← hOrdered.listed, hOrder]
    exact mem_cons_self
  rcases (retainsTerminal_iff ledger victim).mp hVictim with ⟨record, hRecord, -⟩
  rcases hTurn with ⟨-, hEvict⟩ | ⟨hFalse, -⟩
  · exact .inr ⟨victim, rest, record, hOrder, hRecord, hEvict⟩
  · rw [hFalse] at hVictim
    cases hVictim

theorem evictFront (hOrdered : ledger.Ordered live) : ledger.evictFront.Ordered live := by
  have hTurn := evictFront_retains ledger
  rcases hOrdered.evictFront_cases with hSame | ⟨victim, rest, record, hOrder, hRecord, hEvict⟩
  · rw [hSame]
    exact hOrdered
  have hNodup := hOrdered.nodup
  rw [hOrder, nodup_cons] at hNodup
  rw [hOrder, tail_cons] at hTurn
  refine ⟨?_, fun other => ?_, ?_⟩
  · rw [(hTurn victim).1]
    exact hNodup.2
  · rw [(hTurn other).1, (hTurn other).2, ← hOrdered.listed, hOrder]
    by_cases hSame : other = victim
    · simp [hSame, hNodup.1]
    · simp [hSame]
  · have hErased := size_erase_of_some ledger.requests victim record hRecord
    have hBalance := hOrdered.balance
    rw [hOrder, length_cons] at hBalance
    rw [hEvict]
    change (ledger.requests.erase victim).size = rest.length + live
    omega

/- The loop leaves at most the retained number. -/
theorem evictIfNeeded (hOrdered : ledger.Ordered live) :
    ledger.evictIfNeeded.Ordered live ∧
      ledger.evictIfNeeded.terminalOrder.length ≤ ledger.limits.maxRetainedTerminalRequests :=
  ⟨(iterate_evictFront (Ordered · live) (fun _ => evictFront) _ ledger hOrdered).congr rfl rfl,
    length_terminalOrder_evictIfNeeded ledger⟩

end Ordered

end RequestLedger

---
-- Operations
---

/-
  The operation fails an open attempt of a request that is
  already terminal.
-/
def LedgerOp.RetiresAgain (ledger : RequestLedger) (op : LedgerOp) : Prop :=
  ∃ id event view,
    op.event = some (id, event) ∧
      ledger.view id = some view ∧ view.lifecycle.isTerminal = true ∧ view.FailsOpenAttempt event

namespace RequestLedger

/- The ledger `retire` leaves before it evicts. -/
def retiring (ledger : RequestLedger) (id ordered : RequestId) (record : RequestRecord)
    (count : AccountingSnapshot → AccountingSnapshot) : RequestLedger :=
  account { (ledger.releaseRequestFlows record.id).putRecord id record.closeAccounting with
      terminalOrder := (ledger.releaseRequestFlows record.id).terminalOrder ++ [ordered] }
    count

/- The ledger `restoring` leaves before it evicts. -/
def adding (ledger : RequestLedger) (record : RequestRecord) : RequestLedger :=
  refreshRequestCounts (({ ledger with
      terminalOrder :=
        if record.lifecycle.isTerminal then ledger.terminalOrder ++ [record.id]
        else ledger.terminalOrder }.putRecord record.id
      record.restored).account (countRestored record.lifecycle))

/- The number of live records after an operation. -/
inductive LiveChange (ledger : RequestLedger) (op : LedgerOp) (live : Nat) : Nat → Prop
| fewer (after : Nat) (hFewer : after ≤ live) : LiveChange ledger op live after
| registered (hRoom : ledger.liveCount.toNat < ledger.limits.maxLiveRequests) :
    LiveChange ledger op live (live + 1)
| restored (record : RequestRecord) (hOp : op = .restoreRecord record) :
    LiveChange ledger op live (live + 1)

namespace Ordered

variable {ledger after : RequestLedger} {live : Nat} {op : LedgerOp} {success : Bool}

/- Before eviction, a live record is listed as terminal. -/
theorem retiring {id ordered : RequestId} {record updated : RequestRecord}
    (hOrdered : ledger.Ordered live) (hCoherent : ledger.Coherent)
    (hRecord : ledger.requests.lookup id = some record)
    (hRetires : Retires id record op ordered updated) (hOnce : ¬ op.RetiresAgain ledger)
    (count : AccountingSnapshot → AccountingSnapshot) :
    ∃ fewer, (ledger.retiring id ordered updated count).Ordered fewer ∧ fewer ≤ live := by
  have hBefore : record.lifecycle.isTerminal = false := by
    rcases hRetires.live with hLive | ⟨attempt, reason, now, rfl, hFails⟩
    · exact hLive
    · by_contra hAgain
      rw [Bool.not_eq_false] at hAgain
      exact hOnce ⟨id, _, record.view, rfl, view_of_lookup hRecord, hAgain, hFails⟩
  have hSame : ordered = id := by
    rcases hRetires.listed with hFirst | hSecond
    · exact hFirst
    · rw [hSecond, hCoherent.keyed id record hRecord]
  subst hSame
  have hPositive := hOrdered.live_pos hRecord hBefore
  cases live with
  | zero => cases hPositive
  | succ fewer =>
    refine ⟨fewer, ?_, Nat.le_succ fewer⟩
    have hClosed : updated.closeAccounting.lifecycle.isTerminal = true := hRetires.terminal.2
    refine hOrdered.finish hRecord hBefore hClosed ?_ ?_
    · change (ledger.releaseRequestFlows updated.id).requests.insert _ _ = _
      rw [releaseRequestFlows_requests]
    · change (ledger.releaseRequestFlows updated.id).terminalOrder ++ _ = _
      rw [releaseRequestFlows_terminalOrder]

/- Before eviction, a restored record is listed or live. -/
theorem adding (hOrdered : ledger.Ordered live) (record : RequestRecord)
    (hFresh : ledger.requests.lookup record.id = none) :
    (ledger.adding record).Ordered (live + (!record.lifecycle.isTerminal).toNat) := by
  unfold RequestLedger.adding
  by_cases hTerminal : record.lifecycle.isTerminal = true
  · have hRestored : record.restored.lifecycle.isTerminal = true := by
      unfold RequestRecord.restored
      rw [if_pos hTerminal]
      exact hTerminal
    rw [if_pos hTerminal, hTerminal]
    exact hOrdered.addTerminal hFresh hRestored rfl rfl
  · have hRestored : record.restored.lifecycle.isTerminal = false := by
      unfold RequestRecord.restored
      rw [if_neg hTerminal]
      rfl
    rw [if_neg hTerminal, Bool.eq_false_iff.mpr hTerminal]
    exact hOrdered.addLive hFresh hRestored rfl rfl

/- What an operation does to the population. -/
theorem outcome (hOrdered : ledger.Ordered live) (hCoherent : ledger.Coherent)
    (hRetained : ledger.terminalOrder.length ≤ ledger.limits.maxRetainedTerminalRequests)
    (hOutcome : Outcome ledger op success after) (hOnce : ¬ op.RetiresAgain ledger) :
    ∃ next, after.Ordered next ∧
      after.terminalOrder.length ≤ ledger.limits.maxRetainedTerminalRequests ∧
      LiveChange ledger op live next := by
  have hSame : LiveChange ledger op live live := .fewer live (Nat.le_refl live)
  cases hOutcome with
  | refused | counted | observed | overflowed =>
    exact ⟨live, hOrdered.congr rfl rfl, hRetained, hSame⟩
  | rewritten _ _ _ _ _ hRecord hRewrites =>
    exact ⟨live, hOrdered.rewrite hRecord hRewrites.agrees.terminal rfl rfl, hRetained, hSame⟩
  | charged _ _ _ _ _ _ _ _ _ hRecord hOk =>
    have hAgrees := RequestRecord.recordBytes_agrees hOk
    exact ⟨live, hOrdered.rewrite hRecord hAgrees.terminal rfl rfl, hRetained, hSame⟩
  | retired _ id ordered record updated count hRecord hRetires =>
    rcases hOrdered.retiring hCoherent hRecord hRetires hOnce count with ⟨fewer, hRetired, hFewer⟩
    rcases hRetired.evictIfNeeded with ⟨hEvicted, hLength⟩
    refine ⟨fewer, hEvicted, hLength.trans ?_, .fewer fewer hFewer⟩
    change (ledger.releaseRequestFlows updated.id).limits.maxRetainedTerminalRequests ≤ _
    rw [releaseRequestFlows_limits]
  | interrupted id now record f hRecord hLive =>
    refine ⟨live, ?_, ?_, hSame⟩
    · have hMarked :
          (record.markInterrupted now).lifecycle.isTerminal = record.lifecycle.isTerminal := by
        rw [hLive]
        rfl
      refine hOrdered.rewrite hRecord hMarked ?_ ?_
      · change (ledger.releaseRequestFlows record.id).requests.insert _ _ = _
        rw [releaseRequestFlows_requests]
      · exact releaseRequestFlows_terminalOrder ledger _
    · change (ledger.releaseRequestFlows record.id).terminalOrder.length ≤ _
      rw [releaseRequestFlows_terminalOrder]
      exact hRetained
  | registered id now hSet hFresh hRoom =>
    exact ⟨live + 1, hOrdered.addLive hFresh rfl rfl rfl, hRetained, .registered hRoom⟩
  | restored record _ _ hFresh =>
    rcases (hOrdered.adding record hFresh).evictIfNeeded with ⟨hNext, hLength⟩
    cases hTerminal : record.lifecycle.isTerminal with
    | true =>
      rw [hTerminal] at hNext
      exact ⟨live, hNext, hLength, hSame⟩
    | false =>
      rw [hTerminal] at hNext
      exact ⟨live + 1, hNext, hLength, .restored record rfl⟩
  | opened _ _ _ _ _ record _ hRecord =>
    have hOpened : { record with
          activeFlows := record.activeFlows + 1 }.lifecycle.isTerminal =
          record.lifecycle.isTerminal := rfl
    exact ⟨live, hOrdered.rewrite hRecord hOpened rfl rfl, hRetained, hSame⟩
  | released flow opened hFlow =>
    refine ⟨live, ?_, hRetained, hSame⟩
    cases hRecord : ledger.requests.lookup opened.request with
    | none =>
      refine hOrdered.congr ?_ rfl
      change ledger.requests.modify _ _ = _
      unfold AList.modify
      rw [hRecord]
    | some record =>
      have hReleased : record.releaseOne.lifecycle.isTerminal = record.lifecycle.isTerminal := rfl
      refine hOrdered.rewrite hRecord hReleased ?_ rfl
      change ledger.requests.modify _ _ = _
      unfold AList.modify
      rw [hRecord]
  | cleared => exact ⟨0, .clear ledger, Nat.zero_le _, .fewer 0 (Nat.zero_le live)⟩

end Ordered

/- The limits leave room for exact counts. -/
def LimitsCount (limits : LedgerLimits) : Prop :=
  limits.maxRetainedTerminalRequests + limits.maxLiveRequests < UInt64.size

/- A ledger within its limits. -/
structure Populated (ledger : RequestLedger) : Prop where
  ordered : ∃ live, ledger.Ordered live ∧ live ≤ ledger.limits.maxLiveRequests
  retained : ledger.terminalOrder.length ≤ ledger.limits.maxRetainedTerminalRequests

/- The difference the source computes is the live count. -/
theorem Ordered.toNat_liveCount {ledger : RequestLedger} {live : Nat}
    (hOrdered : ledger.Ordered live) (hSmall : ledger.requests.size < UInt64.size) :
    ledger.liveCount.toNat = live := by
  have hBalance := hOrdered.balance
  have hSize := UInt64.toNat_ofNat_of_lt' hSmall
  have hOrder : (UInt64.ofNat ledger.terminalOrder.length).toNat = ledger.terminalOrder.length :=
    UInt64.toNat_ofNat_of_lt' (by omega)
  have hLe : UInt64.ofNat ledger.terminalOrder.length ≤ UInt64.ofNat ledger.requests.size := by
    rw [UInt64.le_iff_toNat_le, hSize, hOrder]
    omega
  unfold liveCount
  rw [UInt64.toNat_sub_of_le _ _ hLe, hSize, hOrder]
  omega

namespace Populated

variable {ledger : RequestLedger}

theorem clear (ledger : RequestLedger) : ledger.clear.Populated :=
  ⟨⟨0, .clear ledger, Nat.zero_le _⟩, Nat.zero_le _⟩

/- Every operation but recovery keeps within the limits. -/
theorem step (hPopulated : ledger.Populated) (hCoherent : ledger.Coherent)
    (hLimits : LimitsCount ledger.limits) (op : LedgerOp) (hOnce : ¬ op.RetiresAgain ledger)
    (hRestore : ∀ record, op ≠ .restoreRecord record) : (ledger.step op).Populated := by
  rcases hPopulated with ⟨⟨live, hOrdered, hLive⟩, hRetained⟩
  rcases hOrdered.outcome hCoherent hRetained (step_outcome ledger op) hOnce with
    ⟨next, hNext, hLength, hChange⟩
  refine ⟨⟨next, hNext, ?_⟩, ?_⟩
  · rw [step_limits]
    cases hChange with
    | fewer _ hFewer => exact hFewer.trans hLive
    | registered hRoom =>
      rw [hOrdered.toNat_liveCount] at hRoom
      · exact hRoom
      · have hBalance := hOrdered.balance
        unfold LimitsCount at hLimits
        omega
    | restored record hOp => exact (hRestore record hOp).elim
  · rw [step_limits]
    exact hLength

end Populated

end RequestLedger

end TrafficFabric
