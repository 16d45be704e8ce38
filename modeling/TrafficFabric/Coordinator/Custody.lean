import TrafficFabric.Coordinator.Carriage

/-
  The indexes of flows and transfers, and what is left of a
  request after its flows were released.
-/

---
-- Indexes
---

namespace TrafficFabric

open AList List

namespace Carriage

variable {guarded : Prop} {serves owns : RequestId → Prop} {c d : Carriage} {id : StateTransferId}
variable {flow : FlowRecord} {transfer : TransferRecord}

/-
  Every flow is stored under its identity and found through
  the indexes of its request and its transfer, and every
  transfer through the index of its owner.
-/
structure Indexed (c : Carriage) : Prop where
  keyed : ∀ id flow, c.flows.lookup id = some flow → flow.id = id
  served :
    ∀ id flow,
      c.flows.lookup id = some flow → flow.request ≠ .nil → (flow.request, id) ∈ c.flowsByRequest
  carried :
    ∀ id flow,
      c.flows.lookup id = some flow → flow.transfer ≠ .nil →
      id ≠ .nil ∧ ∃ transfer, c.transfers.lookup flow.transfer = some transfer ∧ transfer.flow = id
  named : c.transfers.lookup .nil = none
  owned :
    ∀ id transfer,
      c.transfers.lookup id = some transfer → transfer.request ≠ .nil →
      (transfer.request, id) ∈ c.transfersByRequest

theorem indexed_empty : empty.Indexed :=
  ⟨forall_empty, forall_empty, forall_empty, rfl, forall_empty⟩

theorem ne_nil_of_lookup (hIndexed : c.Indexed)
    (hTransfer : c.transfers.lookup id = some transfer) : id ≠ .nil := by
  intro hNil
  rw [hNil, hIndexed.named] at hTransfer
  cases hTransfer

theorem lookup_release (hTransfer : (c.release flow).transfers.lookup id = some transfer) :
    ∃ old, c.transfers.lookup id = some old ∧
      transfer.request = old.request ∧ transfer.state = old.state ∧
      (transfer.flow = old.flow ∨ old.flow = flow.id) := by
  unfold release at hTransfer
  split at hTransfer
  · exact ⟨transfer, hTransfer, rfl, rfl, .inl rfl⟩
  · rcases lookup_modify_cases hTransfer with ⟨old, hOld, hSame | ⟨-, hChanged⟩⟩
    · subst hSame
      exact ⟨transfer, hOld, rfl, rfl, .inl rfl⟩
    · refine ⟨old, hOld, ?_⟩
      split at hChanged
      · rename_i hFlow
        subst hChanged
        exact ⟨rfl, rfl, .inr hFlow⟩
      · subst hChanged
        exact ⟨rfl, rfl, .inl rfl⟩

/- A flow that a release leaves open. -/
theorem lookup_flows_release {held : FlowRecord} {id : FlowId}
    (hHeld : (c.release flow).flows.lookup id = some held) :
    id ≠ flow.id ∧ c.flows.lookup id = some held :=
  lookup_of_erase hHeld

/- A transfer is still there after a release. -/
theorem exists_lookup_release (flow : FlowRecord) {old : TransferRecord}
    (hOld : c.transfers.lookup id = some old) (hOther : old.flow ≠ flow.id) :
    (c.release flow).transfers.lookup id = some old := by
  unfold release
  split
  · exact hOld
  · rw [lookup_modify]
    split
    · rw [hOld, Option.map_some, if_neg hOther]
    · exact hOld

/- What the index by request needs of the flows. -/
structure Filed (c : Carriage) : Prop where
  keyed : ∀ id flow, c.flows.lookup id = some flow → flow.id = id
  served :
    ∀ id flow,
      c.flows.lookup id = some flow → flow.request ≠ .nil → (flow.request, id) ∈ c.flowsByRequest

theorem Indexed.filed (hIndexed : c.Indexed) : c.Filed := ⟨hIndexed.keyed, hIndexed.served⟩

theorem Filed.observe {id : FlowId} (hFiled : c.Filed) (bytes : UInt64)
    (hFlow : c.flows.lookup id = some flow) :
    Filed { c with flows := c.flows.insert id { flow with observedBytes := bytes } } where
  keyed := forall_insert hFiled.keyed (hFiled.keyed id flow hFlow)
  served := forall_insert hFiled.served (hFiled.served id flow hFlow)

theorem Filed.release (hFiled : c.Filed) (flow : FlowRecord) : (c.release flow).Filed where
  keyed := forall_erase hFiled.keyed
  served other held hHeld hRequest := by
    rcases lookup_flows_release hHeld with ⟨hOther, hOld⟩
    have hMem := hFiled.served other held hOld hRequest
    unfold Carriage.release
    simp only
    split
    · exact hMem
    · apply (mem_erase_of_ne ?_).mpr hMem
      intro hPair
      exact hOther (congrArg Prod.snd hPair)

theorem Filed.addFlow (hFiled : c.Filed) (flow : FlowRecord) : (c.addFlow flow).Filed where
  keyed := forall_emplace hFiled.keyed rfl
  served id held hHeld hRequest := by
    unfold Carriage.addFlow
    rcases lookup_emplace_cases hHeld with hOld | ⟨rfl, rfl⟩
    · have hMem := hFiled.served id held hOld hRequest
      split
      · exact hMem
      · exact mem_append_left _ hMem
    · simp [hRequest]

/- Any move keeps the flows filed. -/
theorem Move.filed (hMove : Move guarded serves owns c d) (hFiled : c.Filed) : d.Filed := by
  cases hMove with
  | observed id flow bytes hFlow => exact hFiled.observe bytes hFlow
  | released id flow hFlow => exact hFiled.release flow
  | served flow => exact hFiled.addFlow flow
  | carried transfer flow sequence =>
    refine Filed.addFlow ?_ flow
    exact ⟨hFiled.keyed, hFiled.served⟩
  | settled | registered => exact ⟨hFiled.keyed, hFiled.served⟩

theorem Indexed.release (hIndexed : c.Indexed) (flow : FlowRecord) : (c.release flow).Indexed where
  keyed := (hIndexed.filed.release flow).keyed
  served := (hIndexed.filed.release flow).served
  carried other held hHeld hTransfer := by
    rcases lookup_flows_release hHeld with ⟨hOther, hOld⟩
    rcases hIndexed.carried other held hOld hTransfer with ⟨hNamed, transfer, hLookup, hBound⟩
    refine ⟨hNamed, transfer, ?_, hBound⟩
    apply exists_lookup_release flow hLookup
    rw [hBound]
    exact hOther
  named := by
    cases hNil : (c.release flow).transfers.lookup .nil with
    | none => rfl
    | some transfer =>
      rcases lookup_release hNil with ⟨old, hOld, -⟩
      rw [hIndexed.named] at hOld
      cases hOld
  owned other transfer hTransfer hRequest := by
    rcases lookup_release hTransfer with ⟨old, hOld, hSame, -⟩
    rw [hSame] at hRequest ⊢
    exact hIndexed.owned other old hOld hRequest

/- Rewriting a transfer keeps what the indexes read. -/
theorem Indexed.putTransfer {next : TransferRecord} (hIndexed : c.Indexed)
    (hTransfer : c.transfers.lookup id = some transfer)
    (hRequest : next.request = transfer.request)
    (hFlow : ∀ flow held, c.flows.lookup flow = some held → held.transfer = id →
        next.flow = transfer.flow) :
    (c.putTransfer id next).Indexed where
  keyed := hIndexed.keyed
  served := hIndexed.served
  carried flow held hHeld hNamed := by
    rcases hIndexed.carried flow held hHeld hNamed with ⟨hSet, old, hOld, hBound⟩
    refine ⟨hSet, ?_⟩
    unfold Carriage.putTransfer
    by_cases hSame : held.transfer = id
    · rw [hSame] at hOld ⊢
      rw [hTransfer] at hOld
      cases hOld
      exact ⟨next, lookup_insert _, (hFlow flow held hHeld hSame).trans hBound⟩
    · refine ⟨old, ?_, hBound⟩
      rw [lookup_insert_if, if_neg hSame]
      exact hOld
  named := by
    unfold Carriage.putTransfer
    rw [lookup_insert_if, if_neg (ne_nil_of_lookup hIndexed hTransfer).symm]
    exact hIndexed.named
  owned := by
    refine forall_insert hIndexed.owned ?_
    rw [hRequest]
    exact hIndexed.owned id transfer hTransfer

/- Storing a flow whose transfer points back at it. -/
theorem Indexed.addFlow (hIndexed : c.Indexed)
    (hTransfer :
      flow.transfer ≠ .nil →
      flow.id ≠ .nil ∧
        ∃ transfer, c.transfers.lookup flow.transfer = some transfer ∧ transfer.flow = flow.id) :
    (c.addFlow flow).Indexed where
  keyed := (hIndexed.filed.addFlow flow).keyed
  served := (hIndexed.filed.addFlow flow).served
  carried := forall_emplace hIndexed.carried hTransfer
  named := hIndexed.named
  owned := hIndexed.owned

/- Opening the flow of a transfer that has none. -/
theorem Indexed.carry (hIndexed : c.Indexed) (sequence : UInt64)
    (hTransfer : c.transfers.lookup flow.transfer = some transfer) (hFree : transfer.flow = .nil)
    (hNamed : flow.id ≠ .nil) :
    (({ c with
        nextFlowSequence := sequence }.putTransfer
      flow.transfer
      { transfer with flow := flow.id }).addFlow flow).Indexed := by
  have hAlone : ∀ other held, c.flows.lookup other = some held → held.transfer ≠ flow.transfer := by
    intro other held hHeld hSame
    have hSet := ne_nil_of_lookup hIndexed hTransfer
    rw [← hSame] at hTransfer hSet
    rcases hIndexed.carried other held hHeld hSet with ⟨hNotNil, bound, hBound, hFlow⟩
    rw [hTransfer] at hBound
    cases hBound
    exact hNotNil (hFlow.symm.trans hFree)
  have hCounted : Indexed { c with nextFlowSequence := sequence } :=
    ⟨hIndexed.keyed, hIndexed.served, hIndexed.carried, hIndexed.named, hIndexed.owned⟩
  have hPut : ({ c with
          nextFlowSequence := sequence }.putTransfer
        flow.transfer
        { transfer with flow := flow.id }).Indexed :=
    hCounted.putTransfer hTransfer rfl
      (fun other held hHeld hSame => (hAlone other held hHeld hSame).elim)
  exact hPut.addFlow (fun _ => ⟨hNamed, { transfer with flow := flow.id }, lookup_insert _, rfl⟩)

theorem Move.indexed (hMove : Move guarded serves owns c d) (hGuarded : guarded)
    (hIndexed : c.Indexed) : d.Indexed := by
  cases hMove with
  | observed id flow bytes hFlow =>
    have hFiled := hIndexed.filed.observe bytes hFlow
    exact ⟨hFiled.keyed, hFiled.served,
      forall_insert hIndexed.carried (hIndexed.carried id flow hFlow),
      hIndexed.named, hIndexed.owned⟩
  | released id flow hFlow => exact hIndexed.release flow
  | served flow hServes hTransfer => exact hIndexed.addFlow (fun hNamed => (hNamed hTransfer).elim)
  | carried transfer flow sequence hTransfer hLive hFree hRequest hNamed =>
    exact hIndexed.carry sequence hTransfer hFree (hNamed hGuarded)
  | settled id transfer next hTransfer hRequest hFlow hTerminal =>
    exact hIndexed.putTransfer hTransfer hRequest (fun _ _ _ _ => hFlow)
  | registered id transfer hNamed hFresh hOwner hFlow =>
    refine ⟨hIndexed.keyed, hIndexed.served, ?_, ?_, ?_⟩
    · intro other held hHeld hSet
      rcases hIndexed.carried other held hHeld hSet with ⟨hNotNil, bound, hBound, hBack⟩
      refine ⟨hNotNil, bound, ?_, hBack⟩
      change (c.transfers.insert id transfer).lookup held.transfer = some bound
      rw [lookup_insert_if, if_neg ?_]
      · exact hBound
      · intro hSame
        rw [hSame, hFresh] at hBound
        cases hBound
    · change (c.transfers.insert id transfer).lookup .nil = none
      rw [lookup_insert_if, if_neg hNamed.symm]
      exact hIndexed.named
    · refine forall_insert ?_ (fun hRequest => by simp [hRequest])
      intro other held hHeld hRequest
      have hMem := hIndexed.owned other held hHeld hRequest
      split
      · exact hMem
      · exact mem_append_left _ hMem

---
-- Severed Requests
---

variable {request : RequestId}

/-
  The request has no open flow, its transfers are terminal,
  and no open flow carries one of them.
-/
structure Severed (request : RequestId) (c : Carriage) : Prop where
  unserved : c.Unserved request
  closed :
    ∀ id transfer,
      c.transfers.lookup id = some transfer → transfer.request = request →
      transfer.state.isTerminal = true
  uncarried :
    ∀ id flow transfer,
      c.flows.lookup id = some flow → c.transfers.lookup flow.transfer = some transfer →
      transfer.request ≠ request

/- No open flow carries the transfer. -/
def Uncarried (id : StateTransferId) (c : Carriage) : Prop :=
  ∀ key flow, c.flows.lookup key = some flow → flow.transfer ≠ id

theorem severed_empty (request : RequestId) : empty.Severed request := by
  refine ⟨forall_empty, forall_empty, ?_⟩
  intro id flow transfer hFlow
  cases hFlow

/- Rewriting a transfer of the same owner. -/
theorem Severed.putTransfer {next : TransferRecord} (hSevered : c.Severed request)
    (hTransfer : c.transfers.lookup id = some transfer)
    (hRequest : next.request = transfer.request)
    (hTerminal : transfer.state.isTerminal = true → next.state.isTerminal = true) :
    (c.putTransfer id next).Severed request := by
  have hLookup (other : StateTransferId) (held : TransferRecord)
      (hHeld : (c.putTransfer id next).transfers.lookup other = some held) :
      ∃ old, c.transfers.lookup other = some old ∧
        held.request = old.request ∧
        (old.state.isTerminal = true → held.state.isTerminal = true) := by
    rcases lookup_insert_cases hHeld with ⟨rfl, rfl⟩ | ⟨-, hOld⟩
    · exact ⟨transfer, hTransfer, hRequest, hTerminal⟩
    · exact ⟨held, hOld, rfl, fun hDone => hDone⟩
  refine ⟨hSevered.unserved, ?_, ?_⟩
  · intro other held hHeld hOwner
    rcases hLookup other held hHeld with ⟨old, hOld, hSame, hDone⟩
    exact hDone (hSevered.closed other old hOld (hSame ▸ hOwner))
  · intro flow opened held hOpened hHeld
    rcases hLookup opened.transfer held hHeld with ⟨old, hOld, hSame, -⟩
    rw [hSame]
    exact hSevered.uncarried flow opened old hOpened hOld

/- Storing a flow that has nothing to do with the request. -/
theorem Severed.addFlow (hSevered : c.Severed request) (hFlow : flow.request ≠ request)
    (hTransfer :
      ∀ transfer, c.transfers.lookup flow.transfer = some transfer → transfer.request ≠ request) :
    (c.addFlow flow).Severed request where
  unserved := hSevered.unserved.addFlow hFlow
  closed := hSevered.closed
  uncarried id held transfer hHeld hLookup := by
    rcases lookup_emplace_cases hHeld with hOld | ⟨-, rfl⟩
    · exact hSevered.uncarried id held transfer hOld hLookup
    · exact hTransfer transfer hLookup

/- Moves keep a request that may do nothing severed. -/
theorem Move.severed (hMove : Move guarded serves owns c d) (hGuarded : guarded)
    (hIndexed : c.Indexed) (hNamed : request ≠ .nil) (hServes : ¬ serves request)
    (hOwns : ¬ owns request) (hSevered : c.Severed request) : d.Severed request := by
  have hUnserved := hMove.unserved hNamed hServes hSevered.unserved
  cases hMove with
  | observed id flow bytes hFlow =>
    refine ⟨hUnserved, hSevered.closed, ?_⟩
    intro other held transfer hHeld
    rcases lookup_insert_cases hHeld with ⟨-, rfl⟩ | ⟨-, hOld⟩
    · exact hSevered.uncarried id flow transfer hFlow
    · exact hSevered.uncarried other held transfer hOld
  | released id flow hFlow =>
    refine ⟨hUnserved, ?_, ?_⟩
    · intro other held hHeld hOwner
      rcases lookup_release hHeld with ⟨old, hOld, hRequest, hState, -⟩
      rw [hState]
      exact hSevered.closed other old hOld (hRequest ▸ hOwner)
    · intro other held transfer hHeld hTransfer
      rcases lookup_release hTransfer with ⟨old, hOld, hRequest, -⟩
      rw [hRequest]
      exact hSevered.uncarried other held old (lookup_flows_release hHeld).2 hOld
  | served flow hMay hTransfer =>
    apply hSevered.addFlow
    · rintro rfl
      exact hServes hMay
    · intro transfer hLookup
      rw [hTransfer, hIndexed.named] at hLookup
      cases hLookup
  | carried transfer flow sequence hTransfer hLive hFree hRequest hSet =>
    have hOwner : transfer.request ≠ request := by
      intro hOwned
      have hDone := hSevered.closed flow.transfer transfer hTransfer hOwned
      rw [hLive hGuarded] at hDone
      cases hDone
    have hCounted : Severed request { c with nextFlowSequence := sequence } :=
      ⟨hSevered.unserved, hSevered.closed, hSevered.uncarried⟩
    have hPut : ({ c with
            nextFlowSequence := sequence }.putTransfer
          flow.transfer
          { transfer with flow := flow.id }).Severed request :=
      hCounted.putTransfer hTransfer rfl (fun hDone => hDone)
    apply hPut.addFlow
    · rw [hRequest]
      exact hNamed.symm
    · intro held hHeld
      unfold Carriage.putTransfer at hHeld
      rw [lookup_insert] at hHeld
      cases hHeld
      exact hOwner
  | settled id transfer next hTransfer hRequest hFlow hTerminal =>
    exact hSevered.putTransfer hTransfer hRequest hTerminal
  | registered id transfer hId hFresh hOwner hFlow =>
    have hOther : transfer.request ≠ request := by
      intro hOwned
      rcases hOwner with hNil | hOwner
      · exact hNamed (hOwned.symm.trans hNil)
      · exact hOwns (hOwned ▸ hOwner)
    refine ⟨hUnserved, ?_, ?_⟩
    · exact forall_insert hSevered.closed (fun hOwned => (hOther hOwned).elim)
    · intro flow opened held hOpened hHeld
      rcases lookup_insert_cases hHeld with ⟨-, rfl⟩ | ⟨-, hOld⟩
      · exact hOther
      · exact hSevered.uncarried flow opened held hOpened hOld

theorem Moves.severed (hMoves : Moves guarded serves owns c d) (hGuarded : guarded)
    (hIndexed : c.Indexed) (hNamed : request ≠ .nil) (hServes : ¬ serves request)
    (hOwns : ¬ owns request) (hSevered : c.Severed request) : d.Indexed ∧ d.Severed request := by
  apply hMoves.invariant (fun state => state.Indexed ∧ state.Severed request)
  · rintro before after hMove ⟨hFine, hBefore⟩
    exact ⟨hMove.indexed hGuarded hFine, hMove.severed hGuarded hFine hNamed hServes hOwns hBefore⟩
  · exact ⟨hIndexed, hSevered⟩

end Carriage

---
-- Releasing A Request
---

namespace Coordinator

variable (s : Coordinator) {request : RequestId}
variable {id : StateTransferId}

/- What is left after the flows of a list were released. -/
structure Drained (victims : List FlowId) (c d : Carriage) : Prop where
  flows : ∀ id flow, d.flows.lookup id = some flow → c.flows.lookup id = some flow ∧ id ∉ victims
  transfers :
    ∀ id transfer,
      d.transfers.lookup id = some transfer →
      ∃ old, c.transfers.lookup id = some old ∧
        transfer.request = old.request ∧ transfer.state = old.state

theorem releaseVictim_drained (id : FlowId) (hFiled : s.carriage.Filed) :
    Drained [id] s.carriage (s.releaseVictim id).carriage := by
  unfold releaseVictim
  cases hFlow : s.flows.lookup id with
  | none =>
    refine ⟨?_, fun _ transfer hHeld => ⟨transfer, hHeld, rfl, rfl⟩⟩
    intro other held hHeld
    refine ⟨hHeld, ?_⟩
    intro hMem
    rw [mem_singleton.mp hMem] at hHeld
    exact absurd (hFlow.symm.trans hHeld) (by simp)
  | some flow =>
    rw [carriage_releaseFlowLocked]
    have hId := hFiled.keyed id flow hFlow
    refine ⟨?_, ?_⟩
    · intro other held hHeld
      rcases Carriage.lookup_flows_release hHeld with ⟨hOther, hOld⟩
      refine ⟨hOld, ?_⟩
      rw [mem_singleton, ← hId]
      exact hOther
    · intro other transfer hTransfer
      rcases Carriage.lookup_release hTransfer with ⟨old, hOld, hRequest, hState, -⟩
      exact ⟨old, hOld, hRequest, hState⟩

theorem releaseVictim_filed (id : FlowId) (hFiled : s.carriage.Filed) :
    (s.releaseVictim id).carriage.Filed := by
  unfold releaseVictim
  split
  · exact hFiled
  · rw [carriage_releaseFlowLocked]
    exact hFiled.release _

theorem releaseVictims_drained (victims : List FlowId) (hFiled : s.carriage.Filed) :
    Drained victims s.carriage (s.releaseVictims victims).carriage := by
  induction victims generalizing s with
  | nil =>
    exact ⟨fun _ _ hHeld => ⟨hHeld, not_mem_nil⟩,
      fun _ transfer hHeld => ⟨transfer, hHeld, rfl, rfl⟩⟩
  | cons id rest ih =>
    have hFirst := releaseVictim_drained s id hFiled
    have hRest := ih (s.releaseVictim id) (releaseVictim_filed s id hFiled)
    refine ⟨?_, ?_⟩
    · intro other held hHeld
      rcases hRest.flows other held hHeld with ⟨hMiddle, hLater⟩
      rcases hFirst.flows other held hMiddle with ⟨hOld, hOther⟩
      refine ⟨hOld, ?_⟩
      rw [mem_cons, not_or]
      exact ⟨by simpa using hOther, hLater⟩
    · intro other transfer hTransfer
      rcases hRest.transfers other transfer hTransfer with ⟨middle, hMiddle, hRequest, hState⟩
      rcases hFirst.transfers other middle hMiddle with ⟨old, hOld, hSameRequest, hSameState⟩
      exact ⟨old, hOld, hRequest.trans hSameRequest, hState.trans hSameState⟩

theorem lookup_abandoned (ids : List StateTransferId)
    {table : Table StateTransferId TransferRecord} {transfer : TransferRecord}
    (hTransfer :
      (ids.foldl (fun transfers id => transfers.modify id TransferRecord.abandonOwned)
        table).lookup id = some transfer) :
    ∃ old, table.lookup id = some old ∧
      transfer.request = old.request ∧ transfer.flow = old.flow ∧
      (old.state.isTerminal = true ∨ id ∈ ids → transfer.state.isTerminal = true) := by
  induction ids generalizing table with
  | nil => exact ⟨transfer, hTransfer, rfl, rfl, by simp⟩
  | cons first rest ih =>
    rcases ih hTransfer with ⟨middle, hMiddle, hRequest, hFlow, hDone⟩
    rcases lookup_modify_cases hMiddle with ⟨old, hOld, hSame | ⟨hFirst, hChanged⟩⟩
    · subst hSame
      refine ⟨middle, hOld, hRequest, hFlow, ?_⟩
      rintro (hTerminal | hMem)
      · exact hDone (.inl hTerminal)
      · rcases mem_cons.mp hMem with rfl | hMem
        · rw [lookup_modify, if_pos rfl, hOld, Option.map_some, Option.some.injEq] at hMiddle
          apply hDone
          rw [← hMiddle]
          exact .inl (abandonOwned_keeps middle).2.2
        · exact hDone (.inr hMem)
    · rcases abandonOwned_keeps old with ⟨hSameRequest, hSameFlow, hTerminal⟩
      subst hChanged
      exact ⟨old, hOld, hRequest.trans hSameRequest, hFlow.trans hSameFlow,
        fun _ => hDone (.inl hTerminal)⟩

theorem abandonOwnedTransfers_filed (request : RequestId) (hFiled : s.carriage.Filed) :
    (s.abandonOwnedTransfers request).carriage.Filed :=
  ⟨hFiled.keyed, hFiled.served⟩

theorem releaseRequestFlows_uncarried (hIndexed : s.carriage.Indexed) (hNamed : request ≠ .nil)
    (hSet : id ≠ .nil) (hMem : id ∈ s.transfersByRequest.equalRange request) :
    (s.releaseRequestFlows request).carriage.Uncarried id := by
  intro key flow hFlow hCarries
  unfold releaseRequestFlows at hFlow
  rw [if_neg (by simpa using hNamed)] at hFlow
  rcases (releaseVictims_drained _ _
    (abandonOwnedTransfers_filed s request hIndexed.filed)).flows key flow hFlow with ⟨hHeld, hNot⟩
  subst hCarries
  rcases hIndexed.carried key flow hHeld hSet with ⟨hNotNil, transfer, hTransfer, hBack⟩
  change s.transfers.lookup flow.transfer = some transfer at hTransfer
  apply hNot
  apply mem_append_right
  refine mem_filterMap.mpr ⟨flow.transfer, hMem, ?_⟩
  simp [hTransfer, hBack, hNotNil]

/- Releasing the flows of a request leaves it none. -/
theorem releaseRequestFlows_unserved (hFiled : s.carriage.Filed) (hNamed : request ≠ .nil) :
    (s.releaseRequestFlows request).carriage.Unserved request := by
  intro id flow hFlow hRequest
  unfold releaseRequestFlows at hFlow
  rw [if_neg (by simpa using hNamed)] at hFlow
  rcases (releaseVictims_drained _ _
    (abandonOwnedTransfers_filed s request hFiled)).flows id flow hFlow with ⟨hOld, hNot⟩
  apply hNot
  apply mem_append_left
  rw [Multimap.mem_equalRange_iff, ← hRequest]
  exact hFiled.served id flow hOld (hRequest ▸ hNamed)

theorem releaseRequestFlows_severed (hIndexed : s.carriage.Indexed) (hNamed : request ≠ .nil) :
    (s.releaseRequestFlows request).carriage.Severed request := by
  have hUncarried (id : StateTransferId) (hSet : id ≠ .nil)
      (hMem : id ∈ s.transfersByRequest.equalRange request) :=
    releaseRequestFlows_uncarried s hIndexed hNamed hSet hMem
  have hDrained := releaseVictims_drained (s.abandonOwnedTransfers request)
    (s.flowsByRequest.equalRange request ++ s.ownedTransferFlows request)
    (abandonOwnedTransfers_filed s request hIndexed.filed)
  have hStepped :
      s.releaseRequestFlows request =
        (s.abandonOwnedTransfers request).releaseVictims
          (s.flowsByRequest.equalRange request ++ s.ownedTransferFlows request) := by
    exact if_neg (by simpa using hNamed)
  rw [← hStepped] at hDrained
  -- what a transfer the request owns has become
  have hTransfers {id : StateTransferId} {transfer : TransferRecord}
      (hTransfer : (s.releaseRequestFlows request).carriage.transfers.lookup id = some transfer)
      (hOwner : transfer.request = request) :
      id ≠ .nil ∧
        id ∈ s.transfersByRequest.equalRange request ∧ transfer.state.isTerminal = true := by
    rcases hDrained.transfers id transfer hTransfer with ⟨middle, hMiddle, hRequest, hState⟩
    rcases lookup_abandoned _ hMiddle with ⟨old, hOld, hSameRequest, -, hDone⟩
    have hSame := hRequest.trans hSameRequest
    rw [hOwner] at hSame
    have hMem : id ∈ s.transfersByRequest.equalRange request := by
      rw [Multimap.mem_equalRange_iff, hSame]
      apply hIndexed.owned id old hOld
      rw [← hSame]
      exact hNamed
    refine ⟨Carriage.ne_nil_of_lookup hIndexed hOld, hMem, ?_⟩
    rw [hState]
    exact hDone (.inr hMem)
  refine ⟨releaseRequestFlows_unserved s hIndexed.filed hNamed, ?_, ?_⟩
  · intro id transfer hTransfer hOwner
    exact (hTransfers hTransfer hOwner).2.2
  · intro id flow transfer hFlow hTransfer hOwner
    rcases hTransfers hTransfer hOwner with ⟨hSet, hMem, -⟩
    exact hUncarried flow.transfer hSet hMem id flow hFlow rfl

end Coordinator

end TrafficFabric
