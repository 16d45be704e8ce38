import TrafficFabric.Coordinator.Snapshots
import TrafficFabric.Ledger.Attempts

/-
  Recovery from an arbitrary document: a document that does
  not pass the inspection leaves nothing behind, and one
  that does is applied in full.

  The inspection sees every identity of the document, so no
  record can be refused later, when the ledger restores it.
  What the ledger evicts while it restores are the oldest of
  the terminal records.

  Main declarations:
    * `Coordinator.Emptied`
    * `Coordinator.Recovered`
    * `Coordinator.restorable_of_validated`
    * `Coordinator.recovery_all_or_nothing`
-/

namespace TrafficFabric

open List

/- What an inspection that passes has seen. -/
theorem inspectRecords_inversion (records : List RequestRecord) (seen after : List RequestId)
    (hOk : inspectRecords records seen = .ok after) (hSeen : seen.Nodup) :
    after = seen ++ records.map RequestRecord.id ∧
      after.Nodup ∧
      ∀ record ∈ records, record.id ≠ .nil ∧ record.attempts.length ≤ maxAttemptsPerRequest := by
  induction records generalizing seen with
  | nil =>
    cases hOk
    simp [hSeen]
  | cons record rest ih =>
    simp only [inspectRecords, Result.guard_eq_ok_iff] at hOk
    rcases hOk with ⟨hNamed, hBounded, hUnseen, hRest⟩
    have hNodup : (seen ++ [record.id]).Nodup := by
      apply List.Nodup.append hSeen (nodup_singleton _)
      rw [disjoint_singleton]
      exact hUnseen
    rcases ih _ hRest hNodup with ⟨hAfter, hAll, hOthers⟩
    refine ⟨?_, hAll, ?_⟩
    · rw [hAfter, append_assoc, map_cons, singleton_append]
    · intro other hOther
      rcases mem_cons.mp hOther with rfl | hOther
      · exact ⟨by simpa using hNamed, Nat.le_of_not_lt hBounded⟩
      · exact hOthers other hOther

/- All records of a document, in the order of recovery. -/
def PersistedCoordinatorState.records (document : PersistedCoordinatorState) : List RequestRecord :=
  document.terminalRequests ++ document.interruptedRequests

/- The terminal ones among them. -/
def PersistedCoordinatorState.terminalRecords (document : PersistedCoordinatorState) :
    List RequestRecord :=
  document.records.filter (fun record => record.lifecycle.isTerminal)

namespace Coordinator

variable {s : Coordinator} {document : PersistedCoordinatorState}

/- Validated records are distinct, named and bounded. -/
theorem restorable_of_validated (hValid : s.validateRestoredState document = .ok ()) :
    (document.records.map RequestRecord.id).Nodup ∧
      ∀ record ∈ document.records,
        record.id ≠ .nil ∧ record.attempts.length ≤ maxAttemptsPerRequest := by
  unfold validateRestoredState at hValid
  simp only [Result.guard_eq_ok_iff] at hValid
  rcases hValid with ⟨-, -, -, -, -, -, -, -, hInspected⟩
  rw [Except.bind_eq_ok_iff] at hInspected
  rcases hInspected with ⟨seen, hTerminal, hRest⟩
  rw [Except.bind_eq_ok_iff] at hRest
  rcases hRest with ⟨all, hInterrupted, -⟩
  rcases inspectRecords_inversion _ _ _ hTerminal nodup_nil with ⟨hSeen, hNodupSeen, hFirst⟩
  rcases inspectRecords_inversion _ _ _ hInterrupted hNodupSeen with ⟨hAll, hNodup, hSecond⟩
  constructor
  · rw [hAll, hSeen, nil_append, ← map_append] at hNodup
    exact hNodup
  · intro record hMem
    rcases mem_append.mp hMem with hMem | hMem
    · exact hFirst record hMem
    · exact hSecond record hMem

theorem restoreRecords_of_validated (hValid : s.validateRestoredState document = .ok ()) :
    ∃ after remaining,
      s.ledger.clear.restoreRecords document.records = (.ok (), after) ∧
        after.Ordered remaining ∧
        after.terminalOrder =
          (document.terminalRecords.map RequestRecord.id).rtake
            s.ledger.limits.maxRetainedTerminalRequests ∧
        ∀ record ∈ document.records,
          record.lifecycle.isTerminal = false →
          after.requests.lookup record.id = some record.restored := by
  rcases restorable_of_validated hValid with ⟨hNodup, hRecords⟩
  rcases (RequestLedger.Ordered.clear s.ledger).restoreRecords document.records hNodup
      (fun record hMem => (hRecords record hMem).1) (fun record hMem => (hRecords record hMem).2)
      (fun _ _ => rfl) (Nat.zero_le _) with
    ⟨after, hRestored, hOrdered, -, hOrder, -, hLive⟩
  exact ⟨after, _, hRestored, hOrdered, hOrder, hLive⟩

---
-- All Or Nothing
---

/- No evidence, no registration and no record is left. -/
structure Emptied (s : Coordinator) : Prop where
  topology : s.topologyPresent = false
  models : s.models = ∅
  states : s.states = ∅
  sloContracts : s.sloContracts = ∅
  routeDecisions : s.routeDecisions = ∅
  transfers : s.transfers = ∅
  transfersByRequest : s.transfersByRequest = []
  flows : s.flows = ∅
  flowsByRequest : s.flowsByRequest = []
  flowsByTransfer : s.flowsByTransfer = []
  defers : s.defers = ∅
  completions : s.completions = ∅
  requests : s.ledger.requests = ∅
  terminalOrder : s.ledger.terminalOrder = []
  ledgerFlows : s.ledger.flows = ∅

/- What a coordinator decides with and signs with. -/
structure SameAuthority (s after : Coordinator) : Prop where
  policy : after.policy = s.policy
  epoch : after.epoch = s.epoch
  incarnation : after.incarnation = s.incarnation
  bootCount : after.bootCount = s.bootCount
  authoritySequence : after.authoritySequence = s.authoritySequence

/-
  The document is applied: registries by their first entry,
  every live record, the last of the terminal records, and
  the policy and epoch that follow those of the document.
-/
structure Recovered (s : Coordinator) (document : PersistedCoordinatorState)
    (booted : Coordinator) : Prop where
  models :
    ∀ hash, booted.models.lookup hash =
      (document.models.findKey? ModelState.modelHash
        hash).map (fun entry => { entry with requiresRevalidation := true })
  states :
    ∀ hash, booted.states.lookup hash =
      (document.states.findKey? StateGenerationRecord.stateHash
        hash).map (fun entry => { entry with requiresRevalidation := true })
  interrupted :
    ∀ record ∈ document.records,
      record.lifecycle.isTerminal = false →
      booted.ledger.requests.lookup record.id = some { record with
            lifecycle := .interrupted
            requiresRevalidation := true
            activeFlows := 0
            accountingClosed := false }
  terminal :
    ∀ record ∈ document.terminalRecords.rtake s.ledger.limits.maxRetainedTerminalRequests,
      booted.ledger.requests.lookup record.id = some { record with
            accountingClosed := true
            activeFlows := 0 }
  retained :
    booted.ledger.terminalOrder =
      (document.terminalRecords.map RequestRecord.id).rtake
        s.ledger.limits.maxRetainedTerminalRequests
  only :
    ∀ id held,
      booted.ledger.requests.lookup id = some held →
      ∃ record ∈ document.records, record.id = id
  policy : booted.policy = document.policy.setGeneration booted.policy.generation
  generation :
    document.policy.generation ≠ .max →
    booted.policy.generation.value.toNat = document.policy.generation.value.toNat + 1
  epoch : document.epoch ≠ .max → booted.epoch.value.toNat = document.epoch.value.toNat + 1

variable (mt : Generator)

theorem lookup_of_retained {ledger : RequestLedger} {remaining : Nat}
    (hValid : s.validateRestoredState document = .ok ()) (hOrdered : ledger.Ordered remaining)
    (hOrder :
      ledger.terminalOrder =
        (document.terminalRecords.map RequestRecord.id).rtake
          s.ledger.limits.maxRetainedTerminalRequests)
    (hSource :
      ∀ id held, ledger.requests.lookup id = some held →
        ∃ record ∈ document.records, record.id = id ∧ held = record.restored)
    {record : RequestRecord}
    (hMem : record ∈ document.terminalRecords.rtake s.ledger.limits.maxRetainedTerminalRequests) :
    ledger.requests.lookup record.id = some { record with
          accountingClosed := true
          activeFlows := 0 } := by
  have hNodup := (restorable_of_validated hValid).1
  rcases mem_filter.mp (mem_of_mem_drop hMem) with ⟨hListed, hTerminal⟩
  have hOrdinal : record.id ∈ ledger.terminalOrder := by
    rw [hOrder, List.rtake, length_map, ← map_drop]
    exact mem_map_of_mem hMem
  rcases (RequestLedger.retainsTerminal_iff _ _).mp ((hOrdered.listed record.id).mp hOrdinal) with
    ⟨held, hHeld, -⟩
  rcases hSource record.id held hHeld with ⟨source, hSourceMem, hId, rfl⟩
  -- identities are distinct, so the source is the record
  have hSame : source = record := inj_on_of_nodup_map hNodup hSourceMem hListed hId
  rw [hHeld, hSame]
  unfold RequestRecord.restored
  rw [if_pos hTerminal]

theorem bootFrom_of_refused {status : Status}
    (hInvalid : s.validateRestoredState document = .error status) :
    (s.bootFrom mt document).1 = .error status ∧
      (s.bootFrom mt document).2.Emptied ∧ s.SameAuthority (s.bootFrom mt document).2 := by
  have hApplied : s.clearState.restoreState document = (.error status, s.clearState) := by
    have hCleared : s.clearState.validateRestoredState document = .error status := hInvalid
    unfold restoreState
    rw [hCleared]
  unfold bootFrom
  simp only [hApplied]
  refine ⟨trivial, ?_, ?_⟩
  · exact ⟨rfl, rfl, rfl, rfl, rfl, rfl, rfl, rfl, rfl, rfl, rfl, rfl, rfl, rfl, rfl⟩
  · exact ⟨rfl, rfl, rfl, rfl, rfl⟩

/- An accepted document is applied in full. -/
theorem bootFrom_of_validated (hValid : s.validateRestoredState document = .ok ()) :
    (s.bootFrom mt document).1.isOk = true ∧ s.Recovered document (s.bootFrom mt document).2 := by
  rcases restoreRecords_of_validated hValid with
    ⟨ledger, remaining, hRestored, hOrdered, hOrder, hLive⟩
  rcases bootFrom_of_accepted mt hValid hRestored with ⟨hOk, hLedger, -, hDurable⟩
  have hSource :
      ∀ id held, ledger.requests.lookup id = some held →
        ∃ record ∈ document.records, record.id = id ∧ held = record.restored := by
    intro id held hHeld
    have hStored :
        (s.ledger.clear.restoreRecords
          document.records).2.requests.lookup id = some held := by
      rw [hRestored]
      exact hHeld
    rcases RequestLedger.lookup_restoreRecords _ hStored with hNone | hListed
    · cases hNone
    · exact hListed
  have hPolicy : (s.bootFrom mt document).2.policy = withNextGeneration document.policy :=
    congrArg DurableState.policy hDurable
  have hEpoch : (s.bootFrom mt document).2.epoch = nextEpoch document.epoch :=
    congrArg DurableState.epoch hDurable
  refine ⟨hOk, ?_, ?_, ?_, ?_, ?_, ?_, ?_, ?_, ?_⟩
  · intro hash
    have hModels : (s.bootFrom mt document).2.models = restoreModels ∅ document.models :=
      congrArg DurableState.models hDurable
    rw [hModels]
    exact AList.lookup_foldl_emplace ModelState.modelHash
      (fun entry => { entry with requiresRevalidation := true }) document.models ∅ hash
  · intro hash
    have hStates : (s.bootFrom mt document).2.states = restoreStates ∅ document.states :=
      congrArg DurableState.states hDurable
    rw [hStates]
    exact AList.lookup_foldl_emplace StateGenerationRecord.stateHash
      (fun entry => { entry with requiresRevalidation := true }) document.states ∅ hash
  · intro record hMem hRunning
    rw [hLedger, hLive record hMem hRunning]
    unfold RequestRecord.restored
    rw [hRunning]
    rfl
  · intro record hMem
    rw [hLedger]
    exact lookup_of_retained hValid hOrdered hOrder hSource hMem
  · rw [hLedger]
    exact hOrder
  · intro id held hHeld
    rw [hLedger] at hHeld
    rcases hSource id held hHeld with ⟨record, hMem, hId, -⟩
    exact ⟨record, hMem, hId⟩
  · rw [hPolicy]
    rfl
  · intro hBelow
    rw [hPolicy]
    exact Generation.toNat_after _ hBelow
  · intro hBelow
    rw [hEpoch]
    exact Generation.toNat_after _ hBelow

theorem bootFrom_isOk_iff (s : Coordinator) (document : PersistedCoordinatorState) :
    (s.bootFrom mt document).1.isOk = true ↔ s.validateRestoredState document = .ok () := by
  constructor
  · intro hOk
    cases hValidated : s.validateRestoredState document with
    | error status =>
      rw [(bootFrom_of_refused mt hValidated).1] at hOk
      cases hOk
    | ok passed => rfl
  · intro hValid
    exact (bootFrom_of_validated mt hValid).1

/-
  Recovery is all or nothing: it fails exactly when the
  document does not pass the inspection, a failure leaves an
  emptied coordinator with the authority it had, and a
  success applies the whole document. No record of an
  inspected document is refused by the ledger.
-/
theorem recovery_all_or_nothing
    (mt : Generator) (s : Coordinator) (document : PersistedCoordinatorState) :
    ((s.bootFrom mt document).1.isOk = true ↔ s.validateRestoredState document = .ok ()) ∧
      (∀ status,
        s.validateRestoredState document = .error status →
        (s.bootFrom mt document).1 = .error status) ∧
      ((s.bootFrom mt document).1.isOk = false →
        (s.bootFrom mt document).2.Emptied ∧ s.SameAuthority (s.bootFrom mt document).2) ∧
      ((s.bootFrom mt document).1.isOk = true → s.Recovered document (s.bootFrom mt document).2) ∧
      (s.validateRestoredState document = .ok () →
        (s.ledger.clear.restoreRecords
          (document.terminalRequests ++ document.interruptedRequests)).1 = .ok ()) := by
  refine ⟨bootFrom_isOk_iff mt s document, ?_, ?_, ?_, ?_⟩
  · intro status hInvalid
    exact (bootFrom_of_refused mt hInvalid).1
  · intro hFailed
    cases hValidated : s.validateRestoredState document with
    | error status => exact (bootFrom_of_refused mt hValidated).2
    | ok passed =>
      rw [(bootFrom_isOk_iff mt s document).mpr hValidated] at hFailed
      cases hFailed
  · intro hOk
    exact (bootFrom_of_validated mt ((bootFrom_isOk_iff mt s document).mp hOk)).2
  · intro hValid
    rcases restoreRecords_of_validated hValid with ⟨after, -, hRestored, -⟩
    exact congrArg Prod.fst hRestored

end Coordinator

end TrafficFabric
