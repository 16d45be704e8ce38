import TrafficFabric.Ledger.Closure

/-
  The flow accounting of the ledger over whole sequences of
  operations. The identity of a flow starts with a 64-bit
  sequence number, so the accounting is exact as long as
  that number does not wrap; a flow opened under an identity
  that is still open is counted and not stored.

  Main declarations:
    * `RequestLedger.classFlows`
    * `RequestLedger.Classed`
    * `RequestLedger.Reconciled.step`
    * `RequestLedger.ledger_flows_closed`
-/

---
-- Exact Counts
---

namespace TrafficFabric

open RequestRecord AList List AccountingSnapshot Nat

namespace RequestLedger

variable {ledger after : RequestLedger} {op : LedgerOp} {success : Bool}

/- The operation opens no flow under an open identity. -/
def OpensFresh (ledger : RequestLedger) (op : LedgerOp) : Prop :=
  ∀ id attempt traffic bytes now,
    op = .openFlow id attempt traffic bytes now →
    ledger.flows.lookup (ledger.newFlow id attempt traffic bytes now).id = none

theorem flowsDropped_interrupt
    {id : RequestId} {record : RequestRecord} {f : AccountingSnapshot → AccountingSnapshot}
    (hId : record.id = id) (now : Int64) (hCount : Uncounted f) :
    FlowsDropped id ledger
      (((ledger.releaseRequestFlows record.id).putRecord id
        (record.markInterrupted now)).account f) := by
  have hLookup (other : RequestId) :
      ((ledger.releaseRequestFlows record.id).putRecord id
          (record.markInterrupted now)).requests.lookup other =
        if other = id then some (record.markInterrupted now)
        else ledger.requests.lookup other := by
    rw [lookup_putRecord, releaseRequestFlows_requests]
  refine ⟨?_, ?_, ?_⟩
  · have hTotal (accounting : AccountingSnapshot) :
        (f accounting).activeFlowsTotal = accounting.activeFlowsTotal :=
      congrArg Prod.fst (hCount.flows accounting)
    unfold flowBook account putRecord
    simp only [hTotal, hId]
  · intro other held hHeld
    rw [account_requests, hLookup] at hHeld
    split at hHeld
    · rename_i hSame
      cases hHeld
      rw [if_pos hSame]
      rfl
    · rename_i hOther
      rw [if_neg hOther]
      exact (flowCount_of_lookup hHeld).symm
  · intro other held hHeld _ hOther
    unfold contains
    rw [account_requests, hLookup, if_neg hOther, hHeld]
    rfl

/- What an operation leaves is counted exactly. -/
theorem Outcome.exact (hOutcome : Outcome ledger op success after) (hExact : ledger.Exact)
    (hCoherent : ledger.Coherent) (hFresh : ledger.OpensFresh op)
    (hOwnLimit : ledger.limits.maxActiveFlowsPerRequest < 2 ^ 32)
    (hAllLimit : ledger.limits.maxActiveFlowsTotal < 2 ^ 32) : after.Exact := by
  have hLimits := hOutcome.limits
  cases hOutcome with
  | refused => exact hExact
  | counted _ f _ hCount =>
    exact hExact.kept hCoherent
      ((FlowsKept.refl ledger).account f (congrArg Prod.fst (hCount.flows _))) hLimits
  | rewritten _ id record updated f hRecord hRewrites hCount =>
    exact hExact.kept hCoherent
      ((flowsKept_rewrite hRecord
        hRewrites.agrees).account f (congrArg Prod.fst (hCount.flows _))) hLimits
  | retired _ _ _ _ _ _ hRecord hRetires hCount =>
    exact hExact.dropped hCoherent (hRetires.flowsDropped hCoherent hRecord hCount) hLimits
  | interrupted id now record f hRecord _ hCount =>
    exact hExact.dropped hCoherent
      (flowsDropped_interrupt (hCoherent.keyed id record hRecord) now hCount) hLimits
  | registered id now hSet hNew hRoom =>
    exact hExact.kept hCoherent (flowsKept_registered now hNew) hLimits
  | opened id attempt traffic bytes now record _ hRecord hCheck hRoom =>
    rcases opensFlow_of_check hCheck with ⟨entry, hOpens⟩
    exact hExact.opening hRecord rfl (hFresh id attempt traffic bytes now rfl)
      hOpens.room hRoom hOwnLimit hAllLimit
  | released flow opened hFlow => exact hExact.closing hFlow
  | observed _ _ _ _ _ hFlow | overflowed _ _ _ _ _ _ _ hFlow => exact hExact.putFlow hFlow rfl
  | charged flow _ total _ opened record updated hFlow _ hRecord hOk =>
    have hObserved : (ledger.putFlow flow { opened with observedBytes := total }).Exact :=
      hExact.putFlow hFlow rfl
    have hTables : (ledger.putFlow flow { opened with
            observedBytes := total }).Coherent :=
      hCoherent.putFlow _ hFlow rfl
    exact hObserved.kept hTables
      (flowsKept_rewrite hRecord (recordBytes_agrees hOk)) rfl
  | restored record _ _ hNew =>
    exact (hExact.kept hCoherent (flowsKept_adding hNew)
      rfl).evicted (evicted_evictIfNeeded _) (evictIfNeeded_limits _)
  | cleared => exact .clear ledger

end RequestLedger

---
-- Class Counters
---

namespace RequestLedger

variable {ledger after : RequestLedger} {op : LedgerOp} {success : Bool}

/- How many flows of a class are open. -/
def classFlows (ledger : RequestLedger) (traffic : TrafficClass) : Nat :=
  ledger.flows.total (fun flow => (decide (flow.traffic = traffic)).toNat)

/- Every class counts its open flows. -/
def Classed (ledger : RequestLedger) : Prop :=
  ∀ traffic, (ledger.accounting.perClass traffic).activeFlows.toNat = ledger.classFlows traffic

namespace Classed

variable {flow : FlowId}
variable {opened : LedgerFlow}

/- The class counters read the flows and their counts. -/
theorem congr (hClassed : ledger.Classed) (hFlows : after.flows = ledger.flows)
    (hCounts : after.accounting.flowCounts = ledger.accounting.flowCounts) : after.Classed := by
  intro traffic
  have hActive :
      (after.accounting.perClass traffic).activeFlows =
        (ledger.accounting.perClass traffic).activeFlows :=
    congrFun (congrArg Prod.snd hCounts) traffic
  unfold classFlows
  rw [hActive, hFlows]
  exact hClassed traffic

theorem close (hClassed : ledger.Classed) (hFlow : ledger.flows.lookup flow = some opened)
    (hFlows : after.flows = ledger.flows.erase flow)
    (hCounts : after.accounting = ledger.accounting.flowClosed opened.traffic) : after.Classed := by
  intro traffic
  have hErased :
      after.classFlows traffic + (decide (opened.traffic = traffic)).toNat =
        ledger.classFlows traffic := by
    unfold classFlows
    rw [hFlows]
    exact total_erase_of_some _ hFlow
  rw [hCounts, flowClosed, perClass_withClass]
  by_cases hSame : traffic = opened.traffic
  · rw [decide_eq_true hSame.symm, Bool.toNat_true] at hErased
    rw [if_pos hSame]
    exact toNat_countDown ((hClassed traffic).trans hErased.symm)
  · rw [decide_eq_false (Ne.symm hSame), Bool.toNat_false, add_zero] at hErased
    rw [if_neg hSame, hErased]
    exact hClassed traffic

theorem releaseRequestFlows (hClassed : ledger.Classed) (request : RequestId) :
    (ledger.releaseRequestFlows request).Classed := by
  have hDropped := foldl_dropFlow_keeps Classed
    (fun _ _ _ hFlow hBefore => hBefore.close hFlow rfl rfl)
    (ledger.flowsByRequest.equalRange request) hClassed
  exact hDropped.congr rfl rfl

theorem opening {id : RequestId} {record : RequestRecord} (hClassed : ledger.Classed)
    (hExact : ledger.Exact) (hFresh : ledger.flows.lookup flow = none)
    (hAll : ledger.accounting.activeFlowsTotal.toNat < ledger.limits.maxActiveFlowsTotal)
    (hAllLimit : ledger.limits.maxActiveFlowsTotal < 2 ^ 32) :
    (ledger.opening record id flow opened).Classed := by
  intro traffic
  have hAdded :
      (ledger.opening record id flow opened).classFlows traffic =
        ledger.classFlows traffic + (decide (opened.traffic = traffic)).toNat := by
    change (ledger.flows.emplace flow opened).total _ = _
    rw [emplace_of_none _ _ _ hFresh]
    exact total_insert_of_none _ opened hFresh
  have hRoom :
      (ledger.accounting.perClass
        traffic).activeFlows.toNat < ledger.limits.maxActiveFlowsTotal := by
    rw [hClassed traffic]
    rw [hExact.total] at hAll
    exact (total_le_size _ (fun _ => Bool.toNat_le _) _).trans_lt hAll
  change ((ledger.accounting.flowOpened opened.traffic).perClass traffic).activeFlows.toNat = _
  rw [hAdded, flowOpened, perClass_withClass]
  by_cases hSame : traffic = opened.traffic
  · rw [if_pos hSame, decide_eq_true hSame.symm, Bool.toNat_true, ← hClassed traffic]
    exact toNat_countUp hRoom hAllLimit
  · rw [if_neg hSame, decide_eq_false (Ne.symm hSame), Bool.toNat_false, add_zero]
    exact hClassed traffic

/- An open flow is rewritten in its class. -/
theorem putFlow {updated : LedgerFlow} (hClassed : ledger.Classed)
    (hFlow : ledger.flows.lookup flow = some opened) (hTraffic : updated.traffic = opened.traffic) :
    (ledger.putFlow flow updated).Classed := by
  intro traffic
  have hTotal := total_insert_of_some
    (fun held : LedgerFlow => (decide (held.traffic = traffic)).toNat) updated hFlow
  simp only [hTraffic] at hTotal
  exact (hClassed traffic).trans (add_right_cancel hTotal).symm

theorem evictIfNeeded (hClassed : ledger.Classed) : ledger.evictIfNeeded.Classed := by
  apply evictIfNeeded_keeps Classed
  · exact fun _ _ _ hBefore => hBefore.congr rfl rfl
  · exact fun _ _ hBefore => hBefore.congr rfl rfl
  · exact fun _ hBefore => hBefore.congr rfl rfl
  · exact hClassed

end Classed

/- What an operation leaves is counted in its classes. -/
theorem Outcome.classed (hOutcome : Outcome ledger op success after) (hClassed : ledger.Classed)
    (hExact : ledger.Exact) (hFresh : ledger.OpensFresh op)
    (hAllLimit : ledger.limits.maxActiveFlowsTotal < 2 ^ 32) : after.Classed := by
  cases hOutcome with
  | refused => exact hClassed
  | counted _ _ _ hCount | rewritten _ _ _ _ _ _ _ hCount =>
    exact hClassed.congr rfl (hCount.flows _)
  | retired _ id ordered _ updated count _ _ hCount =>
    have hReleased := hClassed.releaseRequestFlows updated.id
    have hListed : (ledger.retiring id ordered updated count).Classed :=
      hReleased.congr rfl (hCount.flows _)
    exact hListed.evictIfNeeded
  | interrupted _ _ record f _ _ hCount =>
    exact (hClassed.releaseRequestFlows record.id).congr rfl (hCount.flows _)
  | registered => exact hClassed.congr rfl rfl
  | opened id attempt traffic bytes now record _ _ _ hRoom =>
    exact hClassed.opening hExact (hFresh id attempt traffic bytes now rfl) hRoom hAllLimit
  | released flow opened hFlow => exact hClassed.close hFlow rfl rfl
  | observed _ _ _ _ _ hFlow | overflowed _ _ _ _ _ _ _ hFlow => exact hClassed.putFlow hFlow rfl
  | charged flow _ total _ opened _ _ hFlow =>
    have hObserved : (ledger.putFlow flow { opened with
            observedBytes := total }).Classed :=
      hClassed.putFlow hFlow rfl
    exact hObserved.congr rfl rfl
  | restored record =>
    have hAdded : (ledger.adding record).Classed := by
      refine hClassed.congr rfl ?_
      change (countRestored record.lifecycle ledger.accounting).flowCounts = _
      cases record.lifecycle with
      | _ => rfl
    exact hAdded.evictIfNeeded
  | cleared =>
    intro traffic
    rfl

end RequestLedger

---
-- Flows Of A Record
---

theorem RequestView.Step.awaits {limits : LedgerLimits} {view next : RequestView}
    {event : RequestEvent} (hStep : Step limits view event next) (hEvent : event ≠ .interrupted)
    (hAwaits : next.requiresRevalidation = true) : view.requiresRevalidation = true := by
  cases hStep with
  | attemptRegistered | revalidated | cancelled => cases hAwaits
  | interrupted => exact (hEvent rfl).elim
  | _ => exact hAwaits

/-
  A record counts flows within the limit, and none while it
  awaits revalidation.
-/
structure RequestRecord.Contained (limits : LedgerLimits) (record : RequestRecord) : Prop where
  within : record.activeFlows.toNat ≤ limits.maxActiveFlowsPerRequest
  suspended : record.requiresRevalidation = true → record.activeFlows = 0

namespace RequestRecord

variable {limits : LedgerLimits} {record : RequestRecord}

theorem contained_of_zero (record : RequestRecord) (limits : LedgerLimits)
    (hZero : record.activeFlows = 0) :
    record.Contained limits where
  within := by
    rw [hZero]
    exact zero_le _
  suspended _ := hZero

theorem Contained.agrees {updated : RequestRecord} (hContained : record.Contained limits)
    (hFlows : updated.activeFlows = record.activeFlows)
    (hAwaits : updated.requiresRevalidation = true → record.requiresRevalidation = true) :
    updated.Contained limits where
  within := by
    rw [hFlows]
    exact hContained.within
  suspended hUpdated := by
    rw [hFlows]
    exact hContained.suspended (hAwaits hUpdated)

theorem Contained.releaseOne (hContained : record.Contained limits) :
    record.releaseOne.Contained limits := by
  constructor
  · refine le_trans ?_ hContained.within
    unfold RequestRecord.releaseOne
    simp only
    split
    · rename_i hPositive
      have hOne : (1 : UInt32) ≤ record.activeFlows := by
        rw [UInt32.lt_iff_toNat_lt] at hPositive
        rw [UInt32.le_iff_toNat_le]
        exact hPositive
      rw [UInt32.toNat_sub_of_le _ _ hOne]
      exact sub_le _ _
    · exact le_refl _
  · intro hAwaits
    have hZero := hContained.suspended hAwaits
    unfold RequestRecord.releaseOne
    simp only [hZero]
    rfl

end RequestRecord

namespace RequestLedger

variable {ledger after : RequestLedger} {op : LedgerOp} {success : Bool}

def Contained (ledger : RequestLedger) : Prop :=
  ∀ id record, ledger.requests.lookup id = some record → record.Contained ledger.limits

/- Every operation leaves the records contained. -/
theorem Outcome.contained (hOutcome : Outcome ledger op success after)
    (hContained : ledger.Contained) (hOwnLimit : ledger.limits.maxActiveFlowsPerRequest < 2 ^ 32) :
    after.Contained := by
  have hZero (id : RequestId) (record : RequestRecord) (hNone : record.activeFlows = 0) :
      ∀ other held, (ledger.requests.insert id record).lookup other = some held →
        held.Contained ledger.limits :=
    forall_insert hContained (record.contained_of_zero _ hNone)
  unfold Contained
  rw [hOutcome.limits]
  cases hOutcome with
  | rewritten _ id record updated f hRecord hRewrites =>
    have hBefore := hContained id record hRecord
    refine forall_insert hContained (hBefore.agrees hRewrites.agrees.flows ?_)
    intro hAwaits
    rcases hRewrites.view with hSame | ⟨event, hEvent, hStep⟩
    · exact (congrArg RequestView.requiresRevalidation hSame).symm.trans hAwaits
    · refine hStep.awaits ?_ hAwaits
      intro hInterrupted
      rw [hInterrupted] at hEvent
      cases hRewrites with
      | _ => cases hEvent
  | retired _ id ordered record updated count =>
    intro other held hHeld
    rcases lookup_retire ledger id ordered other updated count with hKept | hGone
    · rw [hKept, ← lookup_insert_if] at hHeld
      exact hZero id updated.closeAccounting rfl other held hHeld
    · rw [hGone] at hHeld
      cases hHeld
  | interrupted id now record =>
    change ∀ other held, ((ledger.releaseRequestFlows record.id).requests.insert id
      (record.markInterrupted now)).lookup other = some held → _
    rw [releaseRequestFlows_requests]
    exact hZero id _ rfl
  | registered id now => exact hZero id _ rfl
  | opened id attempt traffic bytes now record _ hRecord hCheck =>
    rcases opensFlow_of_check hCheck with ⟨entry, hOpens⟩
    refine forall_insert hContained ⟨?_, ?_⟩
    · change (record.activeFlows + 1).toNat ≤ _
      rw [toNat_countUp hOpens.room hOwnLimit]
      exact hOpens.room
    · intro hAwaits
      change record.requiresRevalidation = true at hAwaits
      rw [hOpens.valid] at hAwaits
      cases hAwaits
  | released flow opened =>
    intro id held hHeld
    rcases lookup_modify_cases hHeld with ⟨old, hOld, rfl | ⟨-, rfl⟩⟩
    · exact hContained id held hOld
    · exact (hContained id old hOld).releaseOne
  | charged _ _ _ _ _ record updated _ _ hRecord hOk =>
    have hBefore := hContained _ record hRecord
    refine forall_insert hContained
      (hBefore.agrees (recordBytes_agrees hOk).flows ?_)
    intro hAwaits
    exact (congrArg RequestView.requiresRevalidation
      (recordBytes_view hOk)).symm.trans hAwaits
  | restored record =>
    intro other held hHeld
    exact hZero record.id record.restored (Coherent.activeFlows_restored record) other held
      ((evicted_evictIfNeeded (ledger.adding record)).subset other held hHeld)
  | cleared => exact forall_empty
  | _ => exact hContained

end RequestLedger

---
-- Flow Sequence
---

/- The operation asks for a flow. -/
def LedgerOp.opensFlow : LedgerOp → Bool
| .openFlow _ _ _ _ _ => true
| _ => false

namespace RequestLedger

variable {ledger after : RequestLedger} {op : LedgerOp} {success : Bool} {opens : Nat}
variable (sequence : UInt64)

/- Open flows were issued by a sequence of this length. -/
structure Sequenced (ledger : RequestLedger) (opens : Nat) : Prop where
  issued : ledger.nextFlowSequence.toNat ≤ opens
  flows :
    ∀ flow opened,
      ledger.flows.lookup flow = some opened → flow.high.toNat ≤ ledger.nextFlowSequence.toNat

namespace Sequenced

/- A longer sequence may have been issued. -/
theorem mono {more : Nat} (hSequenced : ledger.Sequenced opens) (hMore : opens ≤ more) :
    ledger.Sequenced more :=
  ⟨hSequenced.issued.trans hMore, hSequenced.flows⟩

theorem book (hSequenced : ledger.Sequenced opens) (hBook : after.flowBook = ledger.flowBook) :
    after.Sequenced opens := by
  have hFlows : after.flows = ledger.flows := congrArg FlowBook.flows hBook
  have hNext : after.nextFlowSequence = ledger.nextFlowSequence := congrArg FlowBook.sequence hBook
  constructor
  · rw [hNext]
    exact hSequenced.issued
  · rw [hFlows, hNext]
    exact hSequenced.flows

theorem releaseRequestFlows (hSequenced : ledger.Sequenced opens) (request : RequestId) :
    (ledger.releaseRequestFlows request).Sequenced opens := by
  have hDropped := foldl_dropFlow_keeps (Sequenced · opens)
    (fun _ _ _ _ hBefore => ⟨hBefore.issued, forall_erase hBefore.flows⟩)
    (ledger.flowsByRequest.equalRange request) hSequenced
  exact ⟨hDropped.issued, hDropped.flows⟩

/- The next identity is past every open one. -/
theorem opensFresh (hSequenced : ledger.Sequenced opens)
    (hRoom : op.opensFlow = true → opens + 1 < 2 ^ 64) : ledger.OpensFresh op := by
  rintro id attempt traffic bytes now rfl
  by_contra hHeld
  rcases Option.ne_none_iff_exists'.mp hHeld with ⟨held, hHeld⟩
  have hBound := hSequenced.flows _ held hHeld
  have hIssued := hSequenced.issued
  have hSmall := hRoom rfl
  change (ledger.nextFlowSequence + 1).toNat ≤ _ at hBound
  rw [UInt64.toNat_add, mod_eq_of_lt] at hBound
  · exact not_succ_le_self _ hBound
  · change _ + 1 < 2 ^ 64
    omega

end Sequenced

/- Every operation keeps to the sequence. -/
theorem Outcome.sequenced (hOutcome : Outcome ledger op success after)
    (hSequenced : ledger.Sequenced opens) (hRoom : op.opensFlow = true → opens + 1 < 2 ^ 64) :
    after.Sequenced (opens + op.opensFlow.toNat) := by
  have hMono : opens ≤ opens + op.opensFlow.toNat := le_add_right _ _
  have hIssued := hSequenced.issued.trans hMono
  have hFlows := hSequenced.flows
  cases hOutcome with
  | refused => exact hSequenced.mono hMono
  | retired _ id ordered _ updated count =>
    have hListed : (ledger.retiring id ordered updated count).Sequenced opens :=
      ⟨(hSequenced.releaseRequestFlows updated.id).issued,
        (hSequenced.releaseRequestFlows updated.id).flows⟩
    exact (hListed.book (evicted_evictIfNeeded _).book).mono hMono
  | interrupted _ _ record =>
    have hReleased := hSequenced.releaseRequestFlows record.id
    exact ⟨hReleased.issued.trans hMono, hReleased.flows⟩
  | opened id attempt traffic bytes now record =>
    have hSmall := hRoom rfl
    have hBefore := hSequenced.issued
    have hNext : (ledger.nextFlowSequence + 1).toNat = ledger.nextFlowSequence.toNat + 1 := by
      rw [UInt64.toNat_add]
      apply mod_eq_of_lt
      change _ + 1 < 2 ^ 64
      omega
    constructor
    · change (ledger.nextFlowSequence + 1).toNat ≤ opens + 1
      omega
    · refine forall_emplace ?_ (le_refl _)
      intro flow held hHeld
      change flow.high.toNat ≤ (ledger.nextFlowSequence + 1).toNat
      have hBound := hFlows flow held hHeld
      omega
  | released flow opened => exact ⟨hIssued, forall_erase hFlows⟩
  | observed flow _ _ _ opened hFlow | overflowed flow _ _ _ opened _ _ hFlow
  | charged flow _ _ _ opened _ _ hFlow =>
    exact ⟨hIssued, forall_insert hFlows (hFlows flow opened hFlow)⟩
  | restored record _ _ hFresh =>
    have hAdded := hSequenced.book (flowsKept_adding hFresh).book
    exact (hAdded.book (evicted_evictIfNeeded _).book).mono hMono
  | cleared => exact ⟨zero_le _, forall_empty⟩
  | _ => exact ⟨hIssued, hFlows⟩

---
-- The Self Check
---

/- The flow accounting is exact after so many requests. -/
structure Reconciled (ledger : RequestLedger) (opens : Nat) : Prop where
  coherent : ledger.Coherent
  exact : ledger.Exact
  classed : ledger.Classed
  contained : ledger.Contained
  sequenced : ledger.Sequenced opens
  ownLimit : ledger.limits.maxActiveFlowsPerRequest < 2 ^ 32
  allLimit : ledger.limits.maxActiveFlowsTotal < 2 ^ 32

namespace Reconciled

theorem create (live attempts retained perRequest total : UInt32) :
    (RequestLedger.create (.ofWords live attempts retained perRequest total)).Reconciled 0 where
  coherent := .clear (RequestLedger.create _)
  exact := .clear (RequestLedger.create _)
  classed _ := rfl
  contained := forall_empty
  sequenced := ⟨le_refl _, forall_empty⟩
  ownLimit := max_lt perRequest.toNat_lt (by decide)
  allLimit := max_lt total.toNat_lt (by decide)

theorem step (hReconciled : ledger.Reconciled opens)
    (hRoom : op.opensFlow = true → opens + 1 < 2 ^ 64) :
    (ledger.step op).Reconciled (opens + op.opensFlow.toNat) := by
  have hOutcome := step_outcome ledger op
  have hFresh := hReconciled.sequenced.opensFresh hRoom
  have hLimits := step_limits ledger op
  constructor
  · exact hReconciled.coherent.step op
  · exact hOutcome.exact hReconciled.exact hReconciled.coherent hFresh hReconciled.ownLimit
      hReconciled.allLimit
  · exact hOutcome.classed hReconciled.classed hReconciled.exact hFresh hReconciled.allLimit
  · exact hOutcome.contained hReconciled.contained hReconciled.ownLimit
  · exact hOutcome.sequenced hReconciled.sequenced hRoom
  · rw [hLimits]
    exact hReconciled.ownLimit
  · rw [hLimits]
    exact hReconciled.allLimit

theorem steps {ops : List LedgerOp} (hReconciled : ledger.Reconciled opens)
    (hRoom : opens + ops.countP LedgerOp.opensFlow < 2 ^ 64) :
    (ledger.steps ops).Reconciled (opens + ops.countP LedgerOp.opensFlow) := by
  induction ops generalizing ledger opens with
  | nil => exact hReconciled
  | cons op rest ih =>
    have hCount :
        (op :: rest).countP LedgerOp.opensFlow =
          rest.countP LedgerOp.opensFlow + op.opensFlow.toNat := by
      rw [countP_cons]
      cases op.opensFlow with
      | _ => rfl
    rw [hCount, add_comm (rest.countP _), ← add_assoc] at hRoom ⊢
    refine ih (hReconciled.step ?_) hRoom
    intro hOpens
    rw [hOpens, Bool.toNat_true] at hRoom
    omega

end Reconciled

/- The loop of the check counts the flows of a class. -/
theorem flowsOfClass_eq (ledger : RequestLedger) (traffic : TrafficClass) :
    ledger.flowsOfClass traffic = UInt32.ofNat (ledger.classFlows traffic) := by
  have hLoop (flows : List LedgerFlow) (start : UInt32) : flows.foldl (fun count flow =>
          if flow.traffic = traffic then count + 1
          else count) start =
        start + UInt32.ofNat (flows.map (fun flow =>
          (decide (flow.traffic = traffic)).toNat)).sum := by
    induction flows generalizing start with
    | nil => exact (add_zero start).symm
    | cons flow rest ih =>
      rw [foldl_cons, ih, map_cons, sum_cons, UInt32.ofNat_add, ← add_assoc]
      by_cases hSame : flow.traffic = traffic
      · rw [if_pos hSame, decide_eq_true hSame]
        rfl
      · rw [if_neg hSame, decide_eq_false hSame]
        exact congrArg (· + _) (add_zero start).symm
  exact (hLoop ledger.flows.values 0).trans (zero_add _)

/- Exact accounting passes the check. -/
theorem Reconciled.verifyClosure (hReconciled : ledger.Reconciled opens) :
    ledger.verifyClosure = .ok () := by
  have hTotal : UInt32.ofNat ledger.flows.size = ledger.accounting.activeFlowsTotal := by
    rw [← hReconciled.exact.total]
    exact UInt32.ofNat_toNat
  have hClass (traffic : TrafficClass) :
      ledger.flowsOfClass traffic = (ledger.accounting.perClass traffic).activeFlows := by
    rw [flowsOfClass_eq, ← hReconciled.classed traffic]
    exact UInt32.ofNat_toNat
  unfold RequestLedger.verifyClosure
  rw [if_neg (not_not.mpr hTotal), if_neg]
  · rw [Except.forM_eq_ok_iff]
    intro record hMem
    rcases (mem_values_iff _ record).mp hMem with ⟨id, hRecord⟩
    have hDrained := hReconciled.coherent.drained id record hRecord
    have hSuspended := (hReconciled.contained id record hRecord).suspended
    unfold verifyRecord
    rw [if_neg, if_neg]
    · simp only [Bool.and_eq_true, not_and]
      rintro ⟨-, hAwaits⟩
      simp [hSuspended hAwaits]
    · simp only [Bool.and_eq_true, not_and]
      intro hTerminal
      simp [hDrained hTerminal]
  · simp [hClass]

/-
  After every sequence of operations with fewer than 2^64
  requests for a flow, the self check of the ledger
  succeeds, every record counts its open flows, the index
  holds exactly the open flows, no flow is for a missing
  request and both flow limits are kept.
-/
theorem ledger_flows_closed (live attempts retained perRequest total : UInt32) (ops : List LedgerOp)
    (hRoom : ops.countP LedgerOp.opensFlow < 2 ^ 64) :
    let limits := LedgerLimits.ofWords live attempts retained perRequest total
    let ledger := (create limits).steps ops
    ledger.verifyClosure = .ok () ∧
      (∀ id record,
        ledger.snapshotRequest id = some record →
        record.activeFlows.toNat = ledger.openFlows id) ∧
      Multimap.Indexes (fun flow : LedgerFlow => some flow.request)
        ledger.flowsByRequest ledger.flows ∧
      (∀ key flow, ledger.flows.lookup key = some flow → ledger.contains flow.request = true) ∧
      (∀ id record,
        ledger.snapshotRequest id = some record →
        record.activeFlows.toNat ≤ limits.normalised.maxActiveFlowsPerRequest) ∧
      ledger.flows.size ≤ limits.normalised.maxActiveFlowsTotal := by
  intro limits ledger
  have hReconciled := (Reconciled.create live attempts retained perRequest
      total).steps (by rw [zero_add]; exact hRoom)
  have hLimits : ledger.limits = limits.normalised := steps_limits (create limits) ops
  refine ⟨hReconciled.verifyClosure, hReconciled.exact.counts, hReconciled.exact.index, ?_, ?_, ?_⟩
  · intro key flow hFlow
    rcases hReconciled.coherent.served key flow hFlow with ⟨record, hRecord, -⟩
    unfold contains
    rw [hRecord]
    rfl
  · intro id record hRecord
    rw [← hLimits]
    exact (hReconciled.contained id record hRecord).within
  · rw [← hLimits]
    exact hReconciled.exact.bounded

theorem ledger_flows_closed_interrupted :
    let request : RequestId := ⟨1, 1⟩
    let attempt : AttemptId := ⟨2, 1⟩
    let ops : List LedgerOp :=
      [.registerRequest request 1,
        .registerAttempt request attempt 0 .unset .unset 2,
        .openFlow request attempt .requestIngress 64 3,
        .openFlow request attempt .requestIngress 64 4,
        .markRequestInterrupted request 5]
    ((create (.ofWords 0 0 0 1 0)).steps ops).verifyClosure = .ok () := by
  intro request attempt ops
  exact (ledger_flows_closed 0 0 0 1 0 ops (by decide)).1

---
-- A Wrapped Sequence
---

/- A request with one flow open, after a second one was. -/
def wound (sequence : UInt64) : RequestLedger :=
  { (create {}).steps
      [.registerRequest ⟨1, 1⟩ 1,
        .registerAttempt ⟨1, 1⟩ ⟨2, 1⟩ 0 .unset .unset 2,
        .openFlow ⟨1, 1⟩ ⟨2, 1⟩ .requestIngress 64 3,
        .openFlow ⟨1, 1⟩ ⟨2, 1⟩ .requestIngress 64 3,
        .releaseFlow (ledgerFlowId 2 ⟨1, 1⟩ ⟨2, 1⟩ .requestIngress)] with
    nextFlowSequence := sequence }

/- The same ledger while another flow is open. -/
def busy (sequence : UInt64) (flow : LedgerFlow) : RequestLedger :=
  (wound sequence).opening (((wound 0).snapshotRequest ⟨1, 1⟩).getD {}) ⟨1, 1⟩ flow.id flow

theorem wound_opened :
    (wound sequence).step (.openFlow ⟨1, 1⟩ ⟨2, 1⟩ .requestIngress 64 3) =
      busy sequence ((wound sequence).newFlow ⟨1, 1⟩ ⟨2, 1⟩ .requestIngress 64 3) :=
  rfl

theorem busy_released {flow : LedgerFlow} (hNext : flow.id.high ≠ 1)
    (hRequest : flow.request = ⟨1, 1⟩) (hTraffic : flow.traffic = .requestIngress) :
    (busy sequence flow).step (.releaseFlow flow.id) = wound (sequence + 1) := by
  have hOther : flow.id ≠ ledgerFlowId 1 ⟨1, 1⟩ ⟨2, 1⟩ .requestIngress :=
    fun hSame => hNext (congrArg (fun id : FlowId => id.high) hSame)
  have hFresh := fun hMem => hOther (mem_singleton.mp hMem)
  have hFlows : (busy sequence flow).flows = (wound sequence).flows.insert flow.id flow :=
    if_neg hFresh
  have hHeld : (busy sequence flow).flows.lookup flow.id = some flow := by
    rw [hFlows, lookup_insert]
  have hErased : (busy sequence flow).flows.erase flow.id = (wound sequence).flows := by
    rw [hFlows]
    apply AList.ext
    change List.kerase flow.id (AList.insert flow.id flow (wound sequence).flows).entries = _
    simp only [entries_insert, kerase_cons_eq]
    exact kerase_of_notMem_keys hFresh
  have hIndex :
      (busy sequence flow).flowsByRequest.erase (flow.request, flow.id) =
        (wound sequence).flowsByRequest := by
    rw [hRequest]
    refine (erase_cons_tail ?_).trans (congrArg (List.cons _) (erase_cons_head ..))
    exact fun hPair => hOther (congrArg Prod.snd (eq_of_beq hPair)).symm
  have hCounts :
      (busy sequence flow).accounting.flowClosed flow.traffic = (wound sequence).accounting := by
    change flowClosed (flowOpened _ _) _ = _
    simp only [hTraffic, flowOpened, flowClosed,
      withClass, Function.update_self, Function.update_idem]
    exact congrArg (fun counts => { (wound sequence).accounting with perClass := counts })
      (Function.update_eq_self _ _)
  have hStep :
      (busy sequence flow).step (.releaseFlow flow.id) =
        (busy sequence flow).closing flow.id flow := by
    simp only [step, releaseFlow, hHeld]
    rfl
  rw [hStep, closing, hErased, hIndex, hCounts, hRequest]
  rfl

/- The sequence can be run through while the flow is open. -/
theorem exists_wound (turns : Nat) (hTurns : turns + 2 ≤ 2 ^ 64) :
    ∃ ops, (create {}).steps ops = wound (UInt64.ofNat (turns + 2)) := by
  induction turns with
  | zero => exact ⟨_, rfl⟩
  | succ turns ih =>
    rcases ih (le_of_succ_le hTurns) with ⟨ops, hOps⟩
    have hNext := UInt64.ofNat_add (turns + 2) 1
    have hSet : UInt64.ofNat (turns + 2) + 1 ≠ 1 := by
      intro hSame
      have hNat := congrArg UInt64.toNat (add_eq_right.mp hSame)
      rw [UInt64.toNat_ofNat_of_lt' (lt_of_succ_le hTurns)] at hNat
      cases hNat
    let flow := (wound (UInt64.ofNat (turns + 2))).newFlow ⟨1, 1⟩ ⟨2, 1⟩ .requestIngress 64 3
    refine ⟨ops ++ [.openFlow ⟨1, 1⟩ ⟨2, 1⟩ .requestIngress 64 3, .releaseFlow flow.id], ?_⟩
    unfold steps at hOps ⊢
    rw [hNext, foldl_append, hOps, foldl_cons, wound_opened]
    exact busy_released _ hSet rfl rfl

/-
  After 2^64 flows the identity of the first one is issued
  again while it is open. The second flow is counted and
  not stored.
-/
theorem wrapped_sequence_miscounts :
    ∃ ops record,
      ((create {}).steps ops).verifyClosure ≠ .ok () ∧
        ((create {}).steps ops).snapshotRequest ⟨1, 1⟩ = some record ∧ record.activeFlows = 2 ∧
        ((create {}).steps ops).flows.size = 1 := by
  rcases exists_wound (2 ^ 64 - 2) (by decide) with ⟨ops, hOps⟩
  have hSteps :
      (create {}).steps (ops ++ [.openFlow ⟨1, 1⟩ ⟨2, 1⟩ .requestIngress 64 3]) =
        (wound 0).step (.openFlow ⟨1, 1⟩ ⟨2, 1⟩ .requestIngress 64 3) := by
    unfold steps at hOps ⊢
    rw [foldl_append, hOps]
    rfl
  refine ⟨_, _, ?_, (congrArg (snapshotRequest · ⟨1, 1⟩) hSteps).trans rfl, rfl, ?_⟩
  · rw [hSteps]
    decide
  · rw [hSteps]
    rfl

end RequestLedger

end TrafficFabric
