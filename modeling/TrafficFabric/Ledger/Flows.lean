import TrafficFabric.Ledger.Coherence

/-
  What the operations of the ledger do to flows and to the
  records that count them. An operation leaves the flows
  alone, or drops those of the request it ends; it never
  evicts a live request.
-/

namespace TrafficFabric

namespace RequestLedger

/- The flows a request counts, none when it is unknown. -/
def flowCount (ledger : RequestLedger) (id : RequestId) : UInt32 :=
  (ledger.requests.lookup id).elim 0 RequestRecord.activeFlows

/- The flows and their counts are as before. -/
structure FlowsKept (ledger next : RequestLedger) : Prop where
  book : next.flowBook = ledger.flowBook
  counts : ∀ id record,
      next.requests.lookup id = some record → record.activeFlows = ledger.flowCount id
  held : ∀ id, ledger.contains id = true → next.contains id = true

/- The flows of one request were dropped. -/
structure FlowsDropped (request : RequestId) (ledger next : RequestLedger) : Prop where
  book :
    next.flowBook = (ledger.releaseRequestFlows request).flowBook
  counts : ∀ id record,
      next.requests.lookup id = some record →
      record.activeFlows = if id = request then 0 else ledger.flowCount id
  held :
    ∀ id record,
      ledger.requests.lookup id = some record → record.lifecycle.isTerminal = false → id ≠ request →
      next.contains id = true

variable {ledger next : RequestLedger} {id : RequestId} {record updated : RequestRecord}

theorem flowCount_of_lookup (hRecord : ledger.requests.lookup id = some record) :
    ledger.flowCount id = record.activeFlows := by
  unfold flowCount
  rw [hRecord]
  rfl

theorem FlowsKept.refl (ledger : RequestLedger) : FlowsKept ledger ledger where
  book := rfl
  counts _ _ hRecord := (flowCount_of_lookup hRecord).symm
  held _ hHeld := hHeld

/- Counting something else leaves the flows alone. -/
theorem FlowsKept.account (hKept : FlowsKept ledger next)
    (f : AccountingSnapshot → AccountingSnapshot)
    (hTotal : (f next.accounting).activeFlowsTotal = next.accounting.activeFlowsTotal) :
    FlowsKept ledger (next.account f) where
  book := by
    refine Eq.trans ?_ hKept.book
    unfold flowBook
    congr 1
  counts := hKept.counts
  held := hKept.held

theorem FlowsKept.refresh (hKept : FlowsKept ledger next) :
    FlowsKept ledger next.refreshRequestCounts :=
  hKept.account _ rfl

/- Storing a record that counts the same flows. -/
theorem flowsKept_putRecord (hFlows : updated.activeFlows = ledger.flowCount id) :
    FlowsKept ledger (ledger.putRecord id updated) where
  book := rfl
  counts other held hHeld := by
    rw [lookup_putRecord] at hHeld
    split at hHeld
    · rename_i hSame
      cases hHeld
      rw [hSame]
      exact hFlows
    · exact (flowCount_of_lookup hHeld).symm
  held other hHeld := by
    unfold contains at hHeld ⊢
    rw [lookup_putRecord]
    split
    · rfl
    · exact hHeld

theorem flowsKept_rewrite (hRecord : ledger.requests.lookup id = some record)
    (hAgrees : record.Agrees updated) : FlowsKept ledger (ledger.putRecord id updated) := by
  apply flowsKept_putRecord
  rw [flowCount_of_lookup hRecord]
  exact hAgrees.flows

theorem flowsKept_registered (now : Int64) (hFresh : ledger.requests.lookup id = none) :
    FlowsKept ledger
      ((ledger.putRecord id
        (RequestRecord.registered id now)).account (fun accounting => { accounting with
              requestsRegistered := accounting.requestsRegistered + 1 })).refreshRequestCounts := by
  have hStored : FlowsKept ledger (ledger.putRecord id (RequestRecord.registered id now)) := by
    apply flowsKept_putRecord
    unfold flowCount
    rw [hFresh]
    rfl
  exact (hStored.account _ rfl).refresh

/- A request that ends drops its flows. -/
theorem flowsDropped_retire (hId : updated.id = id)
    (ordered : RequestId) (count : AccountingSnapshot → AccountingSnapshot)
    (hTotal : ∀ accounting, (count accounting).activeFlowsTotal = accounting.activeFlowsTotal) :
    FlowsDropped id ledger (ledger.retire id ordered updated count) := by
  have hEvicted := evicted_evictIfNeeded
    (account { (ledger.releaseRequestFlows updated.id).putRecord id updated.closeAccounting with
        terminalOrder := (ledger.releaseRequestFlows updated.id).terminalOrder ++ [ordered] } count)
  have hStored (other : RequestId) :
      ((ledger.releaseRequestFlows updated.id).putRecord id
          updated.closeAccounting).requests.lookup other =
        if other = id then some updated.closeAccounting
        else ledger.requests.lookup other := by
    rw [lookup_putRecord, releaseRequestFlows_requests]
  refine ⟨?_, ?_, ?_⟩
  · refine hEvicted.book.trans ?_
    unfold flowBook account putRecord
    simp only [hTotal, hId]
  · intro other held hHeld
    have hBefore := hEvicted.subset other held hHeld
    change ((ledger.releaseRequestFlows
      updated.id).putRecord id updated.closeAccounting).requests.lookup other = _ at hBefore
    rw [hStored] at hBefore
    split at hBefore
    · rename_i hSame
      cases hBefore
      rw [if_pos hSame]
      rfl
    · rename_i hOther
      rw [if_neg hOther]
      exact (flowCount_of_lookup hBefore).symm
  · intro other held hHeld hLive hOther
    have hKept := hEvicted.live other held (by
      change ((ledger.releaseRequestFlows
        updated.id).putRecord id updated.closeAccounting).requests.lookup other = _
      rw [hStored, if_neg hOther]
      exact hHeld) hLive
    change (ledger.retire id ordered updated count).requests.lookup other = _ at hKept
    unfold contains
    rw [hKept]
    rfl

end RequestLedger

---
-- Operations
---

def RequestEvent.Ends : RequestEvent → Prop
| .attemptFailed _ _ _ | .cancelled _ _ _
| .published _ _ => True
| _ => False

theorem RequestView.Step.ends {limits : LedgerLimits} {view next : RequestView}
    {event : RequestEvent} (hStep : Step limits view event next)
    (hLive : view.lifecycle.isTerminal = false) (hDone : next.lifecycle.isTerminal = true) :
    event.Ends := by
  cases hStep with
  | attemptRegistered | stageAdvanced =>
    split at hDone
    · cases hDone
    · rw [hLive] at hDone
      cases hDone
  | revalidated | interrupted => cases hDone
  | superseded => exact Bool.noConfusion (hLive.symm.trans hDone)
  | _ => trivial

/- Operations that move a request through its lifecycle. -/
def LedgerOp.Ordinary : LedgerOp → Prop
| .markRequestInterrupted _ _ | .openFlow _ _ _ _ _
| .releaseFlow _ | .recordFlowBytes _ _ _
| .restoreRecord _ | .clear => False
| _ => True

/- Operations that move a request and end none. -/
def LedgerOp.KeepsFlows : LedgerOp → Prop
| .registerRequest _ _ | .registerAttempt _ _ _ _ _ _
| .revalidateRequest _ _ _ | .advanceStage _ _ _ _
| .supersedeAttempt _ _ _ _ | .setAttemptModel _ _ _ _
| .recordDecision _ _ _ _ _ _ => True
| _ => False

namespace RequestLedger

variable (ledger : RequestLedger)
variable {op : LedgerOp} {id : RequestId}
variable {ordered : RequestId} {record updated : RequestRecord}

theorem Retires.flowsDropped {ledger : RequestLedger}
    {count : AccountingSnapshot → AccountingSnapshot} (hCoherent : ledger.Coherent)
    (hRecord : ledger.requests.lookup id = some record)
    (hRetires : Retires id record op ordered updated)
    (hCount : AccountingSnapshot.CountsEnd count) :
    FlowsDropped id ledger (ledger.retire id ordered updated count) := by
  refine flowsDropped_retire ?_ ordered count ?_
  · rw [hRetires.terminal.1]
    exact hCoherent.keyed id record hRecord
  · intro accounting
    exact congrArg Prod.fst (hCount.flows accounting)

/- An ordinary operation keeps the flows or ends a request. -/
theorem Outcome.flows {ledger after : RequestLedger} {success : Bool}
    (hOutcome : Outcome ledger op success after) (hOp : op.Ordinary) :
    FlowsKept ledger after ∨
      ∃ id ordered record updated,
        ledger.requests.lookup id = some record ∧
          Retires id record op ordered updated ∧ success = true ∧
          (ledger.Coherent → FlowsDropped id ledger after) := by
  cases hOutcome with
  | refused => exact .inl (.refl ledger)
  | counted _ f _ hCount =>
    exact .inl ((FlowsKept.refl ledger).account f (congrArg Prod.fst (hCount.flows _)))
  | rewritten _ id record updated f hRecord hRewrites hCount =>
    exact .inl ((flowsKept_rewrite hRecord
      hRewrites.agrees).account f (congrArg Prod.fst (hCount.flows _)))
  | retired _ id ordered record updated _ hRecord hRetires hCount =>
    exact .inr ⟨id, ordered, record, updated, hRecord,
      hRetires, rfl, fun hCoherent => hRetires.flowsDropped hCoherent hRecord hCount⟩
  | registered id now _ hFresh => exact .inl (flowsKept_registered now hFresh)
  | _ => exact hOp.elim

/- Operations that end no request keep the flows. -/
theorem step_flowsKept (op : LedgerOp) (hOp : op.KeepsFlows) :
    FlowsKept ledger (ledger.step op) := by
  have hOrdinary : op.Ordinary := by
    cases op
    all_goals first | exact hOp | exact hOp.elim
  rcases (step_outcome ledger op).flows hOrdinary with hKept | ⟨_, _, _, _, -, hRetires, -⟩
  · exact hKept
  · cases hRetires with
    | _ => exact hOp.elim

variable {ledger}

theorem Retires.event (hRetires : Retires id record op ordered updated) :
    ∃ event, op.event = some (id, event) ∧ event.Ends := by
  cases hRetires with
  | failed | cancelled => exact ⟨_, rfl, trivial⟩
  | published _ _ _ _ hId =>
    subst hId
    exact ⟨_, rfl, trivial⟩

/- A live request is retained until it is ended. -/
theorem contains_step_of_live {view : RequestView} (hCoherent : ledger.Coherent) (op : LedgerOp)
    (hOrdinary : op.Ordinary) (hView : ledger.view id = some view)
    (hLive : view.lifecycle.isTerminal = false)
    (hSpared : ∀ event, op.event = some (id, event) → ¬ event.Ends) :
    (ledger.step op).contains id = true := by
  rcases Option.map_eq_some_iff.mp hView with ⟨record, hRecord, rfl⟩
  rcases (step_outcome ledger op).flows hOrdinary with
    hKept | ⟨ended, _, _, _, -, hRetires, -, hDropped⟩
  · apply hKept.held
    unfold contains
    rw [hRecord]
    rfl
  · rcases hRetires.event with ⟨event, hEvent, hEnds⟩
    refine (hDropped hCoherent).held id record hRecord hLive ?_
    intro hSame
    rw [← hSame] at hEvent
    exact hSpared event hEvent hEnds

end RequestLedger

end TrafficFabric
