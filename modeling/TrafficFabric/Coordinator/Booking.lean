import TrafficFabric.Coordinator.Fleet

/-
  What the moves keep of the flow tables: the indexes hold
  exactly the open flows, a transfer and its flow name each
  other, and the coordinator and the ledger hold the same
  serving flows.
-/

---
-- Listed Flows
---

namespace TrafficFabric

/- An identity that is set. -/
def Id128.named {tag : IdTag} (id : Id128 tag) : Option (Id128 tag) :=
  if id.isNil then none else some id

@[simp] theorem Id128.named_eq_some_iff {tag : IdTag} (id other : Id128 tag) :
    id.named = some other ↔ id ≠ .nil ∧ id = other := by
  unfold named
  by_cases hNil : id = .nil
  · simp [hNil]
  · simp [hNil]

end TrafficFabric

namespace Multimap.Indexes

open TrafficFabric (Id128 IdTag)

variable {K V : Type} [DecidableEq K] {tag : IdTag} {label : V → Id128 tag}
variable {index : Multimap (Id128 tag) K} {m : Table K V} {key : K}

theorem insertNamed (hIndexes : Indexes (fun held => (label held).named) index m) (value : V)
    (hFresh : m.lookup key = none) :
    Indexes (fun held => (label held).named) (if (label value).isNil then index
        else index ++ [(label value, key)])
      (m.insert key value) := by
  have hInserted := hIndexes.insert value hFresh
  cases hNil : (label value).isNil with
  | true | false => simpa [Id128.named, hNil] using hInserted

/- A removed value leaves the index unless it was not in. -/
theorem eraseNamed {old : V} (hIndexes : Indexes (fun held => (label held).named) index m)
    (hOld : m.lookup key = some old) :
    Indexes (fun held => (label held).named) (if (label old).isNil then index
        else List.erase index (label old, key))
      (m.erase key) := by
  have hErased := hIndexes.erase hOld
  cases hNil : (label old).isNil with
  | true | false => simpa [Id128.named, hNil] using hErased

end Multimap.Indexes

namespace TrafficFabric

namespace Fleet

/-
  Every open flow has one subject, and the indexes hold the
  open flows by the requests and the transfers they are for.
-/
structure Listed (f : Fleet) : Prop where
  single :
    ∀ id flow, f.carriage.flows.lookup id = some flow → (flow.request = .nil ↔ flow.transfer ≠ .nil)
  byRequest :
    Multimap.Indexes (fun flow : FlowRecord => flow.request.named)
      f.carriage.flowsByRequest f.carriage.flows
  byTransfer :
    Multimap.Indexes (fun flow : FlowRecord => flow.transfer.named)
      f.flowsByTransfer f.carriage.flows

variable {f : Fleet} {flow : FlowRecord}
variable {id : FlowId}

theorem Listed.addFlow (hListed : f.Listed) (hFresh : f.carriage.flows.lookup flow.id = none)
    (hSingle : flow.request = .nil ↔ flow.transfer ≠ .nil) : (f.addFlow flow).Listed := by
  have hFlows : (f.addFlow flow).carriage.flows = f.carriage.flows.insert flow.id flow :=
    AList.emplace_of_none _ _ _ hFresh
  refine ⟨?_, ?_, ?_⟩
  · rw [hFlows]
    exact AList.forall_insert hListed.single hSingle
  · rw [hFlows]
    exact hListed.byRequest.insertNamed flow hFresh
  · rw [hFlows]
    exact hListed.byTransfer.insertNamed flow hFresh

theorem Listed.release (hListed : f.Listed) (hFlow : f.carriage.flows.lookup flow.id = some flow) :
    (f.release flow).Listed := by
  refine ⟨?_, ?_, ?_⟩
  · exact AList.forall_erase hListed.single
  · exact hListed.byRequest.eraseNamed hFlow
  · exact hListed.byTransfer.eraseNamed hFlow

theorem Listed.observe (hListed : f.Listed) (bytes : UInt64)
    (hFlow : f.carriage.flows.lookup id = some flow) :
    (f.withCarriage { f.carriage with
        flows := f.carriage.flows.insert id { flow with observedBytes := bytes } }).Listed := by
  refine ⟨?_, ?_, ?_⟩
  · exact AList.forall_insert hListed.single (hListed.single id flow hFlow)
  · exact hListed.byRequest.update hFlow rfl
  · exact hListed.byTransfer.update hFlow rfl

---
-- Booked Flows
---

/- New identities are set and not in use. -/
def Terms.Fresh (terms : Terms) : Prop :=
  ∀ id, terms.mints id → id ≠ .nil ∧ terms.base.lookup id = none

theorem Terms.Fresh.new {terms : Terms} (hFresh : terms.Fresh)
    (hBase : f.carriage.flows = terms.base) (hMinted : terms.mints id) :
    f.carriage.flows.lookup id = none := by
  rw [hBase]
  exact (hFresh id hMinted).2

/- The terms of changes that open no flow. -/
def Terms.quiet : Terms where
  base := ∅
  mints _ := False
  ends _ := False
  payload := 0
  capacity := 0

theorem Terms.quiet_fresh : Terms.quiet.Fresh := fun _ hMints => hMints.elim

/- The indexes are exact and transfers name their flows. -/
structure Booked (f : Fleet) : Prop where
  indexed : f.carriage.Indexed
  listed : f.Listed
  pointed :
    ∀ id transfer,
      f.carriage.transfers.lookup id = some transfer → transfer.flow ≠ .nil →
      ∃ flow, f.carriage.flows.lookup transfer.flow = some flow ∧ flow.transfer = id

variable {g : Fleet} {terms : Terms}

theorem Booked.release (hBooked : f.Booked) (hFlow : f.carriage.flows.lookup id = some flow) :
    (f.release flow).Booked := by
  have hKey := hBooked.indexed.keyed id flow hFlow
  rw [← hKey] at hFlow
  refine ⟨hBooked.indexed.release flow, hBooked.listed.release hFlow, ?_⟩
  intro other transfer hTransfer hNamed
  have hOpen (old : TransferRecord) (hOld : f.carriage.transfers.lookup other = some old)
      (hSame : transfer.flow = old.flow) (hOther : old.flow ≠ flow.id) :
      ∃ held,
        (f.release flow).carriage.flows.lookup transfer.flow = some held ∧
          held.transfer = other := by
    rw [hSame] at hNamed ⊢
    rcases hBooked.pointed other old hOld hNamed with ⟨held, hHeld, hBack⟩
    exact ⟨held, (AList.lookup_erase_ne hOther).trans hHeld, hBack⟩
  -- a transfer that names the released flow is its own
  have hOwn (old : TransferRecord) (hOld : f.carriage.transfers.lookup other = some old)
      (hSet : old.flow ≠ .nil) (hSame : old.flow = flow.id) : flow.transfer = other := by
    rcases hBooked.pointed other old hOld hSet with ⟨held, hHeld, hBack⟩
    rw [hSame, hFlow] at hHeld
    cases hHeld
    exact hBack
  change (f.carriage.release flow).transfers.lookup other = some transfer at hTransfer
  unfold Carriage.release at hTransfer
  split at hTransfer
  · rename_i hNil
    refine hOpen transfer hTransfer rfl ?_
    intro hSame
    have hBack := hOwn transfer hTransfer hNamed hSame
    rw [(Id128.isNil_iff _).mp hNil] at hBack
    rw [← hBack, hBooked.indexed.named] at hTransfer
    cases hTransfer
  · rw [AList.lookup_modify] at hTransfer
    split at hTransfer
    · rcases Option.map_eq_some_iff.mp hTransfer with ⟨old, hOld, hChanged⟩
      split at hChanged
      · rw [← hChanged] at hNamed
        exact (hNamed rfl).elim
      · rename_i hOther
        subst hChanged
        exact hOpen old hOld rfl hOther
    · rename_i hApart
      refine hOpen transfer hTransfer rfl ?_
      intro hSame
      exact hApart (hOwn transfer hTransfer hNamed hSame).symm

/- What is booked does not depend on the ledger. -/
theorem Booked.withLedger (hBooked : f.Booked) (next : RequestLedger) :
    (f.withLedger next).Booked :=
  ⟨hBooked.indexed,
    ⟨hBooked.listed.single, hBooked.listed.byRequest, hBooked.listed.byTransfer⟩, hBooked.pointed⟩

theorem Move.booked (hMove : Move terms f g) (hFresh : terms.Fresh) (hCoherent : f.ledger.Coherent)
    (hBooked : f.Booked) : g.Booked := by
  cases hMove with
  | ruled | charged => exact hBooked.withLedger _
  | observed id flow bytes hFlow =>
    have hMoved : Carriage.Move True (fun _ => True) (fun _ => True) f.carriage _ :=
      .observed f.carriage id flow bytes hFlow
    refine ⟨hMoved.indexed trivial hBooked.indexed, hBooked.listed.observe bytes hFlow, ?_⟩
    intro other transfer hTransfer hNamed
    exact AList.exists_lookup_insert hFlow (fun hBack => hBack)
      (hBooked.pointed other transfer hTransfer hNamed)
  | released id flow hFlow => exact hBooked.release hFlow
  | served flow now hOpened hTransfer hBase hMinted hSize =>
    have hNew := hFresh.new hBase hMinted
    rcases RequestLedger.openFlow_ok hOpened with ⟨-, record, entry, hRecord, -⟩
    have hRequest := hCoherent.ne_nil hRecord
    refine ⟨?_, ?_, ?_⟩
    · exact hBooked.indexed.addFlow (fun hNamed => (hNamed hTransfer).elim)
    · refine Listed.addFlow
        ⟨hBooked.listed.single, hBooked.listed.byRequest, hBooked.listed.byTransfer⟩ hNew ?_
      simp [hRequest, hTransfer]
    · intro other transfer hHeld hNamed
      rcases hBooked.pointed other transfer hHeld hNamed with ⟨held, hOpen, hBack⟩
      exact ⟨held, AList.lookup_emplace_of_some hOpen flow.id flow, hBack⟩
  | carried transfer flow hTransfer hFree hRequest hId hBase hMinted hSize =>
    have hNew := hFresh.new hBase hMinted
    have hSet := Carriage.ne_nil_of_lookup hBooked.indexed hTransfer
    refine ⟨?_, ?_, ?_⟩
    · exact hBooked.indexed.carry _ hTransfer hFree (hFresh flow.id hMinted).1
    · refine Listed.addFlow
        ⟨hBooked.listed.single, hBooked.listed.byRequest, hBooked.listed.byTransfer⟩ hNew ?_
      simp [hRequest, hSet]
    · refine AList.forall_insert ?_ (fun _ => ⟨flow, ?_, rfl⟩)
      · intro other held hHeld hNamed
        rcases hBooked.pointed other held hHeld hNamed with ⟨found, hOpen, hBack⟩
        exact ⟨found, AList.lookup_emplace_of_some hOpen flow.id flow, hBack⟩
      · exact (congrArg _ (AList.emplace_of_none _ _ _ hNew)).trans (AList.lookup_insert _)
  | settled id transfer next hTransfer hRequest hFlow =>
    refine ⟨hBooked.indexed.putTransfer hTransfer hRequest (fun _ _ _ _ => hFlow),
      ⟨hBooked.listed.single, hBooked.listed.byRequest, hBooked.listed.byTransfer⟩, ?_⟩
    refine AList.forall_insert hBooked.pointed ?_
    rw [hFlow]
    exact hBooked.pointed id transfer hTransfer
  | registered id transfer hNamed hAbsent hFlow hRoom =>
    have hMoved : Carriage.Move True (fun _ => True) (fun _ => True) f.carriage _ :=
      .registered f.carriage id transfer hNamed hAbsent (.inr trivial) hFlow
    refine ⟨hMoved.indexed trivial hBooked.indexed,
      ⟨hBooked.listed.single, hBooked.listed.byRequest, hBooked.listed.byTransfer⟩, ?_⟩
    exact AList.forall_insert hBooked.pointed (fun hSet => (hSet hFlow).elim)

end Fleet

namespace Fleet

variable {f g : Fleet} {terms : Terms}

theorem Moves.booked (hMoves : Moves terms f g) (hFresh : terms.Fresh)
    (hCoherent : f.ledger.Coherent) (hBooked : f.Booked) : g.Booked := by
  have hBoth := hMoves.invariant (fun h => h.ledger.Coherent ∧ h.Booked)
    (fun _ _ hMove hKept => ⟨hMove.coherent hKept.1, hMove.booked hFresh hKept.1 hKept.2⟩)
    ⟨hCoherent, hBooked⟩
  exact hBoth.2

theorem Idle.booked (hIdle : f.Idle) : f.Booked := by
  refine ⟨?_, ⟨?_, ?_, ?_⟩, ?_⟩
  · rw [hIdle.carriage]
    exact Carriage.indexed_empty
  · rw [hIdle.carriage]
    exact AList.forall_empty
  · rw [hIdle.carriage]
    exact .empty
  · rw [hIdle.carriage, hIdle.byTransfer]
    exact .empty
  · rw [hIdle.carriage]
    exact AList.forall_empty

end Fleet

namespace Coordinator

/- New flows get identities that are set and not in use. -/
def MintsFresh (s : Coordinator) (label : Label) : Prop :=
  ∀ op id, label = .op op → s.minted op = some id → id ≠ .nil ∧ s.flows.lookup id = none

variable {s t : Coordinator} {op : Op}

theorem MintsFresh.terms (hMints : s.MintsFresh (.op op)) : (op.terms s).Fresh :=
  fun id hMinted => hMints op id rfl hMinted

theorem step_booked (hMints : s.MintsFresh (.op op)) (hCoherent : s.ledger.Coherent)
    (hBooked : s.fleet.Booked) : (s.step op).fleet.Booked :=
  (step_fleet s hCoherent op).booked hMints.terms hCoherent hBooked

theorem Transition.booked {mt : Generator} {label : Label} (hTransition : Transition mt s label t)
    (hMints : s.MintsFresh label) (hCoherent : s.ledger.Coherent) (hBooked : s.fleet.Booked) :
    t.fleet.Booked := by
  rcases hTransition.fleet with hIdle | ⟨op, rfl, rfl⟩
  · exact hIdle.booked
  · exact step_booked hMints hCoherent hBooked

end Coordinator

end TrafficFabric
