import TrafficFabric.Coordinator.Booking
import TrafficFabric.Coordinator.Settlement

/-
  What becomes of one open flow: where a flow that is open
  after an operation came from, and why a flow that was open
  before it is gone.
-/

---
-- Flows Before A Move
---

namespace TrafficFabric

/- A flow apart from the bytes observed on it. -/
def FlowRecord.core (flow : FlowRecord) : FlowRecord :=
  { flow with observedBytes := 0 }

/- Moves that mint nothing leave old flows only. -/
theorem Fleet.Moves.flow_old {terms : Terms} {f g : Fleet} {key : FlowId} {flow : FlowRecord}
    (hMoves : Moves terms f g) (hQuiet : ∀ id, ¬ terms.mints id)
    (hFlow : g.carriage.flows.lookup key = some flow) :
    ∃ old, f.carriage.flows.lookup key = some old ∧ flow.core = old.core := by
  have hOld :
      ∀ id held, g.carriage.flows.lookup id = some held →
        ∃ old, f.carriage.flows.lookup id = some old ∧ held.core = old.core := by
    refine Moves.invariant
      (fun h => ∀ id held,
        h.carriage.flows.lookup id = some held →
          ∃ old, f.carriage.flows.lookup id = some old ∧ held.core = old.core) ?_ hMoves
      (fun id held hHeld => ⟨held, hHeld, rfl⟩)
    intro a b hMove hBefore id held hHeld
    cases hMove with
    | observed other found bytes hFound =>
      change (a.carriage.flows.insert other
        { found with observedBytes := bytes }).lookup id = some held at hHeld
      rw [AList.lookup_insert_if] at hHeld
      split at hHeld
      · rename_i hSame
        cases hHeld
        rw [hSame]
        exact hBefore other found hFound
      · exact hBefore id held hHeld
    | released other found hFound => exact hBefore id held (Carriage.lookup_flows_release hHeld).2
    | served _ _ _ _ _ hMinted | carried _ _ _ _ _ _ _ hMinted => exact (hQuiet _ hMinted).elim
    | _ => exact hBefore id held hHeld
  exact hOld key flow hFlow

---
-- Opened Flows
---

/- The open flows and the bytes of those that are bulk. -/
structure Cargo where
  flows : Table FlowId FlowRecord
  bulkInFlightBytes : UInt64

/- Take on a flow. -/
def Cargo.add (cargo : Cargo) (flow : FlowRecord) : Cargo where
  flows := cargo.flows.emplace flow.id flow
  bulkInFlightBytes :=
    if flow.bulk then cargo.bulkInFlightBytes + flow.declaredBytes
    else cargo.bulkInFlightBytes

namespace Coordinator

def cargo (s : Coordinator) : Cargo where
  flows := s.flows
  bulkInFlightBytes := s.bulkInFlightBytes

theorem flows_of_cargo {s t : Coordinator} (hSame : t.cargo = s.cargo) : t.flows = s.flows :=
  congrArg Cargo.flows hSame

theorem flows_of_cargo_add {s t : Coordinator} {flow : FlowRecord}
    (hStored : t.cargo = s.cargo.add flow) : t.flows = s.flows.emplace flow.id flow :=
  congrArg Cargo.flows hStored

def SubjectFlow (s : Coordinator) (subject : TrafficSubject) (flow : FlowRecord) : Prop :=
  if subject.kind = .serving then
    flow.request = subject.request ∧ flow.attempt = subject.attempt ∧ flow.transfer = .nil
  else
    flow.request = .nil ∧
      flow.transfer = subject.transfer ∧
      ∃ transfer, s.transfers.lookup subject.transfer = some transfer ∧ transfer.flow = .nil

/- The flow that a decision opens for a number of bytes. -/
structure Opens (s : Coordinator) (decision : Decision) (bytes : UInt64)
    (flow : FlowRecord) : Prop where
  valid : s.validateDecision decision = .ok ()
  sized : bytes ≤ s.config.limits.maxSinglePayloadBytes
  room : s.bulkExhausted flow.traffic bytes = false
  traffic : flow.traffic = decision.treatment.trafficClass
  declared : flow.declaredBytes = bytes
  bulk : flow.bulk = (s.policy.rule flow.traffic).yieldsToLatency
  subject : s.SubjectFlow decision.subject flow

variable (s : Coordinator)
variable (request : TrafficRequest) (now : Int64) (victim : Nat)

theorem openFlow_cargo (decision : Decision) (bytes : UInt64) (now : Int64) :
    (s.openFlow decision bytes now).2.cargo = s.cargo ∨
      ∃ flow, s.Opens decision bytes flow ∧
        (s.openFlow decision bytes now).1 = .ok flow.id ∧
        newFlowId s (s.openFlow decision bytes now).2 (.ok flow.id) = some flow.id ∧
        (s.openFlow decision bytes now).2.cargo = s.cargo.add flow := by
  have hOpening := openFlow_opening s decision bytes now
  generalize s.openFlow decision bytes now = answer at hOpening ⊢
  cases hOpening with
  | refused | found => exact .inl rfl
  | served id hClears hKind hOk =>
    refine .inr ⟨_, ⟨hClears.valid, hClears.sized, hClears.room, rfl, rfl, rfl, ?_⟩, rfl,
      newFlowId_served _ hOk, rfl⟩
    unfold SubjectFlow
    rw [if_pos hKind]
    exact ⟨rfl, rfl, rfl⟩
  | carried transfer hClears hKind hTransfer hFree =>
    refine .inr ⟨_, ⟨hClears.valid, hClears.sized, hClears.room, rfl, rfl, rfl, ?_⟩, rfl,
      newFlowId_carried s _ _ _ _, rfl⟩
    unfold SubjectFlow
    rw [if_neg hKind]
    exact ⟨rfl, rfl, transfer, hTransfer, hFree⟩

/- The operation opens the flow. -/
inductive OpenedBy (flow : FlowRecord) :
    Op → Prop
| opened (decision : Decision) (bytes : UInt64) (now : Int64) (hOpens : s.Opens decision bytes flow)
    (hOk : (s.openFlow decision bytes now).1 = .ok flow.id) :
    OpenedBy flow (.openFlow decision bytes now)
| authorized (request : TrafficRequest) (now : Int64) (victim : Nat) (transfer : TransferRecord)
    (hSubject : Authorizes flow.transfer request)
    (hPermits : (s.evaluate request now victim).1.permitsTraffic = true)
    (hTransfer : s.transfers.lookup flow.transfer = some transfer)
    (hOpens :
      (s.evaluate request now victim).2.Opens (s.evaluate request now victim).1
        transfer.payloadBytes flow) :
    OpenedBy flow (.authorizeTransfer request now victim)

---
-- Origins
---

theorem evaluate_cargo : (s.evaluate request now victim).2.cargo = s.cargo := by
  rcases evaluate_frame s request now victim with ⟨sequence, ledger, accounting, hAfter⟩
  rw [hAfter]
  rfl

/-
  An authorization leaves the flows alone, closes those of
  the transfer it refuses, or opens the one it permits.
-/
theorem authorizeTransfer_cargo :
    (s.authorizeTransfer request now victim).2.cargo = s.cargo ∨
      (∃ id transfer reason,
        s.transfers.lookup id = some transfer ∧
          (s.authorizeTransfer request now victim).2 =
            (s.evaluate request now victim).2.closeTransfer id .refused reason) ∨
      ∃ opened,
        s.OpenedBy opened (.authorizeTransfer request now victim) ∧
          s.minted (.authorizeTransfer request now victim) = some opened.id ∧
          (s.authorizeTransfer request now victim).2.cargo = s.cargo.add opened := by
  have hDecided := evaluate_cargo s request now victim
  have hSequences := evaluate_sequences s request now victim
  have hAuthorizing := authorizeTransfer_authorizing s request now victim
  unfold minted
  simp only
  generalize s.authorizeTransfer request now victim = answer at hAuthorizing ⊢
  cases hAuthorizing with
  | misaddressed => exact .inl rfl
  | denied subject transfer _ _ _ hTransfer =>
    rw [evaluate_transfers] at hTransfer
    exact .inr (.inl ⟨subject.transfer, transfer, _, hTransfer, rfl⟩)
  | granted subject transfer flow hSubject hKind hPermits hTransfer hOpened =>
    rw [evaluate_transfers] at hTransfer
    rcases openFlow_cargo (s.evaluate request now victim).2 (s.evaluate request now victim).1
      transfer.payloadBytes now with hSame | ⟨opened, hOpens, hOk, hNew, hStored⟩
    · exact .inl (hSame.trans hDecided)
    · have hCarries := hOpens.subject
      rw [evaluate_subject, hSubject, Option.getD_some,
        SubjectFlow, hKind, if_neg (by simp)] at hCarries
      rcases hCarries with ⟨-, hCarries, -⟩
      rw [← hCarries] at hTransfer
      rw [hDecided] at hStored
      rw [hOpened] at hOk
      cases hOk
      rw [newFlowId_congr _ _ hSequences.1 hSequences.2] at hNew
      exact .inr (.inr ⟨opened,
        .authorized request now victim transfer ⟨subject, hSubject, hKind, hCarries.symm⟩
          hPermits hTransfer hOpens, hNew, hStored⟩)
  | _ => exact .inl hDecided

/-
  An operation leaves the cargo alone, moves it without
  opening a flow, or takes on the flow it opens.
-/
theorem step_cargo (hCoherent : s.ledger.Coherent) (op : Op) :
    (s.step op).cargo = s.cargo ∨
      (∃ terms, (∀ id, ¬ terms.mints id) ∧ Fleet.Moves terms s.fleet (s.step op).fleet) ∨
      ∃ flow, s.OpenedBy flow op ∧
        s.minted op = some flow.id ∧ (s.step op).cargo = s.cargo.add flow := by
  by_cases hMints : ∃ id, s.minted op = some id
  swap
  · refine .inr (.inl ⟨op.terms s, ?_, step_fleet s hCoherent op⟩)
    intro id hMinted
    exact hMints ⟨id, hMinted⟩
  cases op with
  | openFlow decision bytes now =>
    rcases openFlow_cargo s decision bytes now with hSame | ⟨flow, hOpens, hOk, hNew, hStored⟩
    · exact .inl hSame
    · refine .inr (.inr ⟨flow, .opened decision bytes now hOpens hOk, ?_, hStored⟩)
      change newFlowId s _ (s.openFlow decision bytes now).1 = some flow.id
      rw [hOk]
      exact hNew
  | authorizeTransfer request now victim =>
    rcases authorizeTransfer_cargo s request now victim with
      hSame | ⟨id, transfer, reason, -, hClosed⟩ | hOpened
    · exact .inl hSame
    · refine .inr (.inl ⟨Fleet.Terms.quiet, fun _ hMinted => hMinted, ?_⟩)
      change Fleet.Moves _ s.fleet (s.authorizeTransfer request now victim).2.fleet
      rw [hClosed]
      exact (evaluate_fleet s request now victim).trans
        (Releases.fleet (closeTransfer_releases _ trivial .refused reason rfl))
    · exact .inr (.inr hOpened)
  | _ =>
    rcases hMints with ⟨id, hMints⟩
    cases hMints

/- Where an open flow came from. -/
theorem step_flow_origin (hCoherent : s.ledger.Coherent) {op : Op} {key : FlowId}
    {flow : FlowRecord} (hFlow : (s.step op).flows.lookup key = some flow) :
    (∃ old, s.flows.lookup key = some old ∧
        flow.core = old.core) ∨
      (s.flows.lookup key = none ∧ flow.id = key ∧ s.OpenedBy flow op) := by
  rcases step_cargo s hCoherent op with
    hSame | ⟨terms, hQuiet, hMoves⟩ | ⟨opened, hOpened, -, hStored⟩
  · rw [flows_of_cargo hSame] at hFlow
    exact .inl ⟨flow, hFlow, rfl⟩
  · exact .inl (hMoves.flow_old hQuiet hFlow)
  · rw [flows_of_cargo_add hStored] at hFlow
    cases hOld : s.flows.lookup key with
    | some old =>
      rw [AList.lookup_emplace_of_some hOld] at hFlow
      cases hFlow
      exact .inl ⟨flow, rfl, rfl⟩
    | none =>
      rcases AList.lookup_emplace_cases hFlow with hHeld | ⟨hSame, rfl⟩
      · rw [hOld] at hHeld
        cases hHeld
      · exact .inr ⟨rfl, hSame.symm, hOpened⟩

end Coordinator

end TrafficFabric
