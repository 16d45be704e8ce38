import TrafficFabric.Ledger.Effects

/-
  The tables of the ledger agree with each other in every
  run: records are stored under their own identity, a
  terminal request has no flow, and every open flow is
  indexed under a live request.

  Main declarations:
    * `RequestLedger.Coherent`
    * `RequestLedger.Coherent.step`
    * `RequestLedger.Coherent.steps`
-/

namespace TrafficFabric

open AList RequestRecord

namespace RequestLedger

variable (ledger : RequestLedger)

theorem lookup_dropFlow (flow other : FlowId) :
    (ledger.dropFlow flow).flows.lookup other = if other = flow then none
      else ledger.flows.lookup other := by
  unfold dropFlow
  cases hFlow : ledger.flows.lookup flow with
  | none =>
    simp only
    split
    · rename_i hSame
      rw [hSame, hFlow]
    · rfl
  | some opened => exact lookup_erase_if ledger.flows flow other

theorem lookup_foldl_dropFlow (victims : List FlowId) (ledger : RequestLedger) (other : FlowId) :
    (victims.foldl dropFlow ledger).flows.lookup other = if other ∈ victims then none
      else ledger.flows.lookup other := by
  induction victims generalizing ledger with
  | nil => simp
  | cons flow rest ih =>
    rw [List.foldl_cons, ih, lookup_dropFlow]
    by_cases hRest : other ∈ rest
    · simp [hRest]
    · by_cases hSame : other = flow
      · simp [hSame]
      · simp [hRest, hSame]

theorem lookup_releaseRequestFlows (request : RequestId) (other : FlowId) :
    (ledger.releaseRequestFlows request).flows.lookup other =
      if other ∈ ledger.flowsByRequest.equalRange request
        then none
      else ledger.flows.lookup other :=
  lookup_foldl_dropFlow _ ledger other

---
-- Coherence
---

/- What the tables of a ledger agree on. -/
structure Coherent (ledger : RequestLedger) : Prop where
  keyed : ∀ id record, ledger.requests.lookup id = some record → record.id = id
  named : ledger.requests.lookup .nil = none
  drained :
    ∀ id record,
      ledger.requests.lookup id = some record → record.lifecycle.isTerminal = true →
      record.activeFlows = 0
  indexed :
    ∀ flow opened,
      ledger.flows.lookup flow = some opened → (opened.request, flow) ∈ ledger.flowsByRequest
  served :
    ∀ flow opened,
      ledger.flows.lookup flow = some opened →
      ∃ record,
        ledger.requests.lookup opened.request = some record ∧ record.lifecycle.isTerminal = false

namespace Coherent

variable {ledger : RequestLedger} {id : RequestId} {record : RequestRecord} {after : RequestLedger}
variable {opened : LedgerFlow} {flow : FlowId}

theorem clear (ledger : RequestLedger) : ledger.clear.Coherent :=
  ⟨forall_empty, rfl, forall_empty, forall_empty, forall_empty⟩

/- Coherence reads the tables only. -/
theorem congr (hCoherent : ledger.Coherent) (hRequests : after.requests = ledger.requests)
    (hFlows : after.flows = ledger.flows) (hIndex : after.flowsByRequest = ledger.flowsByRequest) :
    after.Coherent := by
  constructor
  · rw [hRequests]
    exact hCoherent.keyed
  · rw [hRequests]
    exact hCoherent.named
  · rw [hRequests]
    exact hCoherent.drained
  · rw [hFlows, hIndex]
    exact hCoherent.indexed
  · rw [hFlows, hRequests]
    exact hCoherent.served

/- Storing a record of a request that has no flow or lives. -/
theorem insert {updated : RequestRecord} (hCoherent : ledger.Coherent)
    (hRequests : after.requests = ledger.requests.insert id updated)
    (hFlows : after.flows = ledger.flows) (hIndex : after.flowsByRequest = ledger.flowsByRequest)
    (hSet : id ≠ .nil) (hId : updated.id = id)
    (hDrained : updated.lifecycle.isTerminal = true → updated.activeFlows = 0)
    (hServed :
      ∀ flow opened,
        ledger.flows.lookup flow = some opened → opened.request = id →
        updated.lifecycle.isTerminal = false) : after.Coherent := by
  constructor
  · rw [hRequests]
    exact forall_insert hCoherent.keyed hId
  · rw [hRequests, lookup_insert_ne hSet.symm]
    exact hCoherent.named
  · rw [hRequests]
    exact forall_insert hCoherent.drained hDrained
  · rw [hFlows, hIndex]
    exact hCoherent.indexed
  · intro flow opened hFlow
    rw [hFlows] at hFlow
    rw [hRequests, lookup_insert_if]
    by_cases hSame : opened.request = id
    · exact ⟨updated, by rw [if_pos hSame], hServed flow opened hFlow hSame⟩
    · rw [if_neg hSame]
      exact hCoherent.served flow opened hFlow

theorem ne_nil (hCoherent : ledger.Coherent) (hRecord : ledger.requests.lookup id = some record) :
    id ≠ .nil := by
  intro hNil
  rw [hNil, hCoherent.named] at hRecord
  cases hRecord

theorem rewrite {updated : RequestRecord} (hCoherent : ledger.Coherent)
    (hRecord : ledger.requests.lookup id = some record) (hAgrees : record.Agrees updated)
    (hRequests : after.requests = ledger.requests.insert id updated)
    (hFlows : after.flows = ledger.flows) (hIndex : after.flowsByRequest = ledger.flowsByRequest) :
    after.Coherent := by
  refine hCoherent.insert hRequests hFlows hIndex (hCoherent.ne_nil hRecord) ?_ ?_ ?_
  · rw [hAgrees.id]
    exact hCoherent.keyed id record hRecord
  · intro hTerminal
    rw [hAgrees.terminal] at hTerminal
    rw [hAgrees.flows]
    exact hCoherent.drained id record hRecord hTerminal
  · intro flow opened hFlow hOwner
    rcases hCoherent.served flow opened hFlow with ⟨held, hHeld, hLive⟩
    rw [hOwner, hRecord] at hHeld
    cases hHeld
    rw [hAgrees.terminal]
    exact hLive

/- Releasing the flows of a request leaves it without any. -/
theorem releaseRequestFlows (hCoherent : ledger.Coherent) (request : RequestId) :
    (ledger.releaseRequestFlows request).Coherent ∧
      ∀ flow opened,
        (ledger.releaseRequestFlows request).flows.lookup flow = some opened →
        opened.request ≠ request := by
  have hKept :
      ∀ flow opened,
        (ledger.releaseRequestFlows request).flows.lookup flow = some opened →
        ledger.flows.lookup flow = some opened ∧ opened.request ≠ request := by
    intro flow opened hFlow
    rw [lookup_releaseRequestFlows] at hFlow
    split at hFlow
    · cases hFlow
    · rename_i hOutside
      refine ⟨hFlow, ?_⟩
      intro hSame
      apply hOutside
      rw [Multimap.mem_equalRange_iff, ← hSame]
      exact hCoherent.indexed flow opened hFlow
  refine ⟨?_, fun flow opened hFlow => (hKept flow opened hFlow).2⟩
  have hRequests := releaseRequestFlows_requests ledger request
  have hTables : { ledger.releaseRequestFlows request with
      flows := ledger.flows
      flowsByRequest := ledger.flowsByRequest }.Coherent := hCoherent.congr hRequests rfl rfl
  refine ⟨hTables.keyed, hTables.named, hTables.drained, ?_, ?_⟩
  · intro flow opened hFlow
    rcases hKept flow opened hFlow with ⟨hOld, hOther⟩
    unfold RequestLedger.releaseRequestFlows
    rw [Multimap.mem_eraseKey_iff, (foldl_dropFlow_frame _ ledger).2.2.2]
    exact ⟨hCoherent.indexed flow opened hOld, hOther⟩
  · intro flow opened hFlow
    rw [hRequests]
    exact hCoherent.served flow opened (hKept flow opened hFlow).1

/- Eviction removes terminal records only. -/
theorem evictIfNeeded (hCoherent : ledger.Coherent) : ledger.evictIfNeeded.Coherent := by
  have hEvicted := evicted_evictIfNeeded ledger
  have hFlows : ledger.evictIfNeeded.flows = ledger.flows := congrArg FlowBook.flows hEvicted.book
  have hIndex : ledger.evictIfNeeded.flowsByRequest = ledger.flowsByRequest :=
    congrArg FlowBook.index hEvicted.book
  constructor
  · exact fun id record hRecord => hCoherent.keyed id record (hEvicted.subset id record hRecord)
  · rcases lookup_evictIfNeeded ledger .nil with hSame | hGone
    · exact hSame.trans hCoherent.named
    · exact hGone
  · exact fun id record hRecord => hCoherent.drained id record (hEvicted.subset id record hRecord)
  · rw [hFlows, hIndex]
    exact hCoherent.indexed
  · intro flow opened hFlow
    rw [hFlows] at hFlow
    rcases hCoherent.served flow opened hFlow with ⟨record, hRecord, hLive⟩
    exact ⟨record, hEvicted.live _ record hRecord hLive, hLive⟩

/- A request that becomes terminal loses its flows. -/
theorem retire {updated : RequestRecord} (hCoherent : ledger.Coherent) (ordered : RequestId)
    (count : AccountingSnapshot → AccountingSnapshot)
    (hRecord : ledger.requests.lookup id = some record) (hId : updated.id = record.id) :
    (ledger.retire id ordered updated count).Coherent := by
  have hSame : updated.id = id := by
    rw [hId]
    exact hCoherent.keyed id record hRecord
  rcases hCoherent.releaseRequestFlows updated.id with ⟨hReleased, hGone⟩
  apply evictIfNeeded
  refine hReleased.insert rfl rfl rfl (hCoherent.ne_nil hRecord) hSame (fun _ => rfl) ?_
  intro flow opened hFlow hOwner
  exact (hGone flow opened hFlow (hOwner.trans hSame.symm)).elim

theorem interrupt (hCoherent : ledger.Coherent)
    (now : Int64) (f : AccountingSnapshot → AccountingSnapshot)
    (hRecord : ledger.requests.lookup id = some record) :
    (((ledger.releaseRequestFlows record.id).putRecord id
      (record.markInterrupted now)).account f).Coherent := by
  have hSame := hCoherent.keyed id record hRecord
  rcases hCoherent.releaseRequestFlows record.id with ⟨hReleased, hGone⟩
  refine hReleased.insert rfl rfl rfl (hCoherent.ne_nil hRecord) hSame (fun _ => rfl) ?_
  intro flow opened hFlow hOwner
  exact (hGone flow opened hFlow (hOwner.trans hSame.symm)).elim

theorem id_restored (record : RequestRecord) : record.restored.id = record.id := by
  unfold restored
  split
  · rfl
  · rfl

theorem activeFlows_restored (record : RequestRecord) : record.restored.activeFlows = 0 := by
  unfold restored
  split
  · rfl
  · rfl

theorem no_flow_of_fresh (hCoherent : ledger.Coherent) (hFresh : ledger.requests.lookup id = none)
    (hFlow : ledger.flows.lookup flow = some opened) : opened.request ≠ id := by
  intro hOwner
  rcases hCoherent.served flow opened hFlow with ⟨record, hRecord, -⟩
  rw [hOwner, hFresh] at hRecord
  cases hRecord

theorem restoring (hCoherent : ledger.Coherent) (record : RequestRecord) (hSet : record.id ≠ .nil)
    (hFresh : ledger.requests.lookup record.id = none) : (ledger.restoring record).Coherent := by
  apply evictIfNeeded
  refine hCoherent.insert rfl rfl rfl hSet (id_restored record)
    (fun _ => activeFlows_restored record) ?_
  intro flow opened hFlow hOwner
  exact (hCoherent.no_flow_of_fresh hFresh hFlow hOwner).elim

theorem opening (hCoherent : ledger.Coherent) (flow : FlowId) (opened : LedgerFlow)
    (hRecord : ledger.requests.lookup id = some record)
    (hLive : record.lifecycle.isTerminal = false) (hOwner : opened.request = id) :
    (ledger.opening record id flow opened).Coherent := by
  -- the record first, then the flow under its identity
  have hStored : (ledger.putRecord id { record with
          activeFlows := record.activeFlows + 1 }).Coherent := by
    refine hCoherent.insert rfl rfl rfl (hCoherent.ne_nil hRecord)
      (hCoherent.keyed id record hRecord) ?_ (fun _ _ _ _ => hLive)
    intro hTerminal
    rw [hLive] at hTerminal
    cases hTerminal
  constructor
  · exact hStored.keyed
  · exact hStored.named
  · exact hStored.drained
  · intro other entry hEntry
    change _ ∈ ledger.flowsByRequest ++ [(id, flow)]
    rcases lookup_emplace_cases hEntry with hOld | ⟨rfl, rfl⟩
    · exact List.mem_append_left _ (hCoherent.indexed other entry hOld)
    · rw [hOwner]
      simp
  · intro other entry hEntry
    rcases lookup_emplace_cases hEntry with hOld | ⟨rfl, rfl⟩
    · exact hStored.served other entry hOld
    · refine ⟨{ record with
        activeFlows := record.activeFlows + 1 }, ?_, hLive⟩
      exact (lookup_insert_if ledger.requests id entry.request _).trans (if_pos hOwner)

theorem closing (hCoherent : ledger.Coherent) (flow : FlowId) (opened : LedgerFlow) :
    (ledger.closing flow opened).Coherent := by
  have hLookup (other : RequestId) := lookup_modify ledger.requests opened.request other releaseOne
  constructor
  · intro other record hOther
    rcases lookup_modify_cases hOther with ⟨old, hHeld, rfl | ⟨-, rfl⟩⟩
    · exact hCoherent.keyed other record hHeld
    · exact hCoherent.keyed other old hHeld
  · refine (hLookup .nil).trans ?_
    rw [hCoherent.named]
    split
    · rfl
    · rfl
  · intro other record hOther hTerminal
    rcases lookup_modify_cases hOther with ⟨old, hHeld, rfl | ⟨-, rfl⟩⟩
    · exact hCoherent.drained other record hHeld hTerminal
    · have hZero := hCoherent.drained other old hHeld hTerminal
      simp [releaseOne, hZero]
  · intro other entry hEntry
    rcases lookup_of_erase hEntry with ⟨hNe, hBefore⟩
    change _ ∈ ledger.flowsByRequest.erase (opened.request, flow)
    rw [List.mem_erase_of_ne]
    · exact hCoherent.indexed other entry hBefore
    · intro hPair
      exact hNe (congrArg Prod.snd hPair)
  · intro other entry hEntry
    rcases hCoherent.served other entry (lookup_of_erase hEntry).2 with ⟨record, hRecord, hLive⟩
    have hAfter := hLookup entry.request
    rw [hRecord] at hAfter
    by_cases hSame : entry.request = opened.request
    · rw [if_pos hSame] at hAfter
      exact ⟨record.releaseOne, hAfter, hLive⟩
    · rw [if_neg hSame] at hAfter
      exact ⟨record, hAfter, hLive⟩

theorem putFlow (hCoherent : ledger.Coherent) (updated : LedgerFlow)
    (hFlow : ledger.flows.lookup flow = some opened) (hOwner : updated.request = opened.request) :
    (ledger.putFlow flow updated).Coherent := by
  refine ⟨hCoherent.keyed, hCoherent.named, hCoherent.drained, ?_, ?_⟩
  · apply forall_insert hCoherent.indexed
    rw [hOwner]
    exact hCoherent.indexed flow opened hFlow
  · apply forall_insert hCoherent.served
    rw [hOwner]
    exact hCoherent.served flow opened hFlow

theorem outcome {op : LedgerOp} {success : Bool} (hCoherent : ledger.Coherent)
    (hOutcome : Outcome ledger op success after) : after.Coherent := by
  cases hOutcome with
  | refused | counted => exact hCoherent.congr rfl rfl rfl
  | rewritten _ _ _ _ _ hRecord hRewrites =>
    exact hCoherent.rewrite hRecord hRewrites.agrees rfl rfl rfl
  | retired _ _ ordered _ _ count hRecord hRetires =>
    exact hCoherent.retire ordered count hRecord hRetires.terminal.1
  | interrupted _ now _ f hRecord => exact hCoherent.interrupt now f hRecord
  | registered _ _ hSet hFresh =>
    refine hCoherent.insert rfl rfl rfl hSet rfl (fun _ => rfl) ?_
    intro flow opened hFlow hOwner
    exact (hCoherent.no_flow_of_fresh hFresh hFlow hOwner).elim
  | opened _ _ _ _ _ _ _ hRecord hCheck =>
    rcases opensFlow_of_check hCheck with ⟨entry, hOpens⟩
    exact hCoherent.opening _ _ hRecord hOpens.live rfl
  | released flow opened => exact hCoherent.closing flow opened
  | observed _ _ _ _ _ hFlow | overflowed _ _ _ _ _ _ _ hFlow => exact hCoherent.putFlow _ hFlow rfl
  | charged flow _ total _ opened _ _ hFlow _ hRecord hOk =>
    exact (hCoherent.putFlow { opened with observedBytes := total } hFlow rfl).rewrite hRecord
      (recordBytes_agrees hOk) rfl rfl rfl
  | restored record hSet _ hFresh => exact hCoherent.restoring record hSet hFresh
  | cleared => exact .clear ledger

/- Every operation keeps the tables coherent. -/
theorem step (hCoherent : ledger.Coherent) (op : LedgerOp) : (ledger.step op).Coherent :=
  hCoherent.outcome (step_outcome ledger op)

theorem steps (hCoherent : ledger.Coherent) (ops : List LedgerOp) :
    (ledger.steps ops).Coherent := by
  induction ops generalizing ledger with
  | nil => exact hCoherent
  | cons op rest ih => exact ih (hCoherent.step op)

end Coherent

/- Restoring records is a run of restoring operations. -/
theorem restoreRecords_steps (records : List RequestRecord) (ledger : RequestLedger) :
    ∃ restored, restored ⊆ records ∧
      (ledger.restoreRecords records).2 = ledger.steps (restored.map LedgerOp.restoreRecord) := by
  induction records generalizing ledger with
  | nil => exact ⟨[], List.Subset.refl [], rfl⟩
  | cons record rest ih =>
    unfold restoreRecords
    simp only
    split
    · exact ⟨[record], by simp, rfl⟩
    · rcases ih (ledger.restoreRecord record).2 with ⟨restored, hSubset, hSteps⟩
      refine ⟨record :: restored, ?_, hSteps⟩
      exact List.cons_subset_cons record hSubset

theorem mem_exportRecords {ledger : RequestLedger} {bound : Nat} {record : RequestRecord}
    (hMem : record ∈ ledger.exportTerminalRecords bound ++ ledger.exportLiveRecords) :
    ∃ id, ledger.requests.lookup id = some record := by
  rcases List.mem_append.mp hMem with hMem | hMem
  · have hHeld := List.mem_of_mem_take hMem
    rcases List.mem_filterMap.mp hHeld with ⟨id, -, hLookup⟩
    exact ⟨id, hLookup⟩
  · have hHeld := (List.mem_filter.mp hMem).1
    exact (mem_values_iff ledger.requests record).mp hHeld

end RequestLedger

end TrafficFabric
