import TrafficFabric.Coordinator.Frames
import TrafficFabric.Coordinator.Validation

/-
  What the operations do to transfers, flows and their
  indexes: a few kinds of moves, each with the guard the
  operation has checked before.
-/

namespace TrafficFabric

open RequestLedger

namespace Carriage

/- Store a flow and index it by the request it serves. -/
def addFlow (c : Carriage) (flow : FlowRecord) : Carriage :=
  { c with
    flows := c.flows.emplace flow.id flow
    flowsByRequest :=
      if flow.request.isNil then c.flowsByRequest
      else c.flowsByRequest ++ [(flow.request, flow.id)] }

/- Remove a flow and detach it from its subject. -/
def release (c : Carriage) (flow : FlowRecord) : Carriage :=
  { c with
    flows := c.flows.erase flow.id
    flowsByRequest :=
      if flow.request.isNil then c.flowsByRequest
      else c.flowsByRequest.erase (flow.request, flow.id)
    transfers :=
      if flow.transfer.isNil then c.transfers
      else
        c.transfers.modify flow.transfer (fun transfer =>
          if transfer.flow = flow.id then { transfer with flow := .nil }
          else transfer) }

/- Rewrite one transfer. -/
def putTransfer (c : Carriage) (id : StateTransferId) (transfer : TransferRecord) : Carriage :=
  { c with transfers := c.transfers.insert id transfer }

/-
  One change of the carriage. `serves` are the requests
  that may open flows, `owns` those that may own a new
  transfer, and `guarded` says that flows are opened on
  live transfers and under set identities.
-/
inductive Move (guarded : Prop) (serves owns : RequestId → Prop) :
    Carriage → Carriage → Prop
| observed (c : Carriage) (id : FlowId) (flow : FlowRecord) (bytes : UInt64)
    (hFlow : c.flows.lookup id = some flow) :
    Move guarded serves owns c { c with
        flows := c.flows.insert id { flow with observedBytes := bytes } }
| released (c : Carriage) (id : FlowId) (flow : FlowRecord)
    (hFlow : c.flows.lookup id = some flow) : Move guarded serves owns c (c.release flow)
| served (c : Carriage) (flow : FlowRecord) (hServes : serves flow.request)
    (hTransfer : flow.transfer = .nil) : Move guarded serves owns c (c.addFlow flow)
| carried (c : Carriage) (transfer : TransferRecord) (flow : FlowRecord) (sequence : UInt64)
    (hTransfer : c.transfers.lookup flow.transfer = some transfer)
    (hLive : guarded → transfer.state.isTerminal = false) (hFree : transfer.flow = .nil)
    (hRequest : flow.request = .nil) (hNamed : guarded → flow.id ≠ .nil) :
    Move guarded serves owns c (({ c with
          nextFlowSequence := sequence }.putTransfer
        flow.transfer
        { transfer with flow := flow.id }).addFlow flow)
| settled (c : Carriage) (id : StateTransferId) (transfer next : TransferRecord)
    (hTransfer : c.transfers.lookup id = some transfer) (hRequest : next.request = transfer.request)
    (hFlow : next.flow = transfer.flow)
    (hTerminal : transfer.state.isTerminal = true → next.state.isTerminal = true) :
    Move guarded serves owns c (c.putTransfer id next)
| registered (c : Carriage) (id : StateTransferId) (transfer : TransferRecord) (hNamed : id ≠ .nil)
    (hFresh : c.transfers.lookup id = none)
    (hOwner : transfer.request = .nil ∨ owns transfer.request) (hFlow : transfer.flow = .nil) :
    Move guarded serves owns c { c.putTransfer id transfer with
        transfersByRequest :=
          if transfer.request.isNil then c.transfersByRequest
          else c.transfersByRequest ++ [(transfer.request, id)] }

/- Any number of moves. -/
abbrev Moves (guarded : Prop) (serves owns : RequestId → Prop) : Carriage → Carriage → Prop :=
  Relation.ReflTransGen (Move guarded serves owns)

/- A property every move keeps is kept by all of them. -/
theorem Moves.invariant {guarded : Prop} {serves owns : RequestId → Prop} {c d : Carriage}
    (P : Carriage → Prop) (hKeep : ∀ a b, Move guarded serves owns a b → P a → P b)
    (hMoves : Moves guarded serves owns c d) (hStart : P c) : P d := by
  induction hMoves with
  | refl => exact hStart
  | tail _ hMove ih => exact hKeep _ _ hMove ih

variable {guarded : Prop} {serves owns : RequestId → Prop} {c d : Carriage} {request : RequestId}

/- No open flow serves the request. -/
def Unserved (request : RequestId) (c : Carriage) : Prop :=
  ∀ id flow, c.flows.lookup id = some flow → flow.request ≠ request

theorem Unserved.addFlow {flow : FlowRecord} (hBefore : c.Unserved request)
    (hFlow : flow.request ≠ request) : (c.addFlow flow).Unserved request :=
  AList.forall_emplace hBefore hFlow

/- Only a request that may serve gets a flow. -/
theorem Move.unserved (hMove : Move guarded serves owns c d) (hNamed : request ≠ .nil)
    (hServes : ¬ serves request) (hBefore : c.Unserved request) : d.Unserved request := by
  cases hMove with
  | observed id flow bytes hFlow => exact AList.forall_insert hBefore (hBefore id flow hFlow)
  | released => exact AList.forall_erase hBefore
  | served flow hMay hTransfer =>
    apply hBefore.addFlow
    rintro rfl
    exact hServes hMay
  | carried transfer flow sequence hTransfer hLive hFree hRequest hSet =>
    apply Unserved.addFlow hBefore
    rw [hRequest]
    exact hNamed.symm
  | settled | registered => exact hBefore

theorem Moves.unserved (hMoves : Moves guarded serves owns c d) (hNamed : request ≠ .nil)
    (hServes : ¬ serves request) (hBefore : c.Unserved request) : d.Unserved request :=
  hMoves.invariant (Unserved request) (fun _ _ hMove => hMove.unserved hNamed hServes) hBefore

end Carriage

namespace Coordinator

open Carriage (Moves Move)

variable {guarded : Prop} {serves owns : RequestId → Prop} (s : Coordinator) {decision : Decision}
variable {now : Int64}

theorem carriage_releaseFlowLocked (flow : FlowRecord) :
    (s.releaseFlowLocked flow).carriage = s.carriage.release flow := by
  rw [releaseFlowLocked_eq]
  rfl

theorem Releases.moves {s t : Coordinator} (hReleases : Releases (fun _ => True) s t) :
    Moves guarded serves owns s.carriage t.carriage := by
  induction hReleases with
  | refl => exact .refl
  | @tail base _ _ hRelease ih =>
    refine ih.trans ?_
    cases hRelease with
    | released id flow hFlow =>
      rw [carriage_releaseFlowLocked]
      exact .single (.released base.carriage id flow hFlow)
    | settled id old next _ hOld hRequest hFlow hTerminal =>
      exact .single (.settled base.carriage id old next hOld hRequest hFlow hTerminal)
    | counted => exact .refl

/- The request may open flows for its current attempt. -/
def Serves (request : RequestId) : Prop :=
  ∃ record,
    s.ledger.snapshotRequest request = some record ∧
      record.lifecycle.isTerminal = false ∧ record.requiresRevalidation = false

theorem transferFlowId_ne_nil {sequence : UInt64} (transfer : StateTransferId)
    (hSequence : sequence ≠ 0) : transferFlowId sequence transfer ≠ .nil := by
  intro hNil
  exact hSequence (congrArg Id128.high hNil)

/- A decision of no known kind names no closed transfer. -/
def NamesOpen (decision : Decision) : Prop :=
  decision.subject.kind = .unknown →
    ∀ transfer,
      s.transfers.lookup decision.subject.transfer = some transfer →
      transfer.state.isTerminal = false

theorem live_of_subjectUse {s : Coordinator}
    (hUse : s.SubjectUse decision.subject decision.authority.sequence)
    (hOpen : s.NamesOpen decision) (hKind : decision.subject.kind ≠ .serving)
    (transfer : TransferRecord)
    (hTransfer : s.transfers.lookup decision.subject.transfer = some transfer) :
    transfer.state.isTerminal = false := by
  cases hOther : decision.subject.kind with
  | serving => exact (hKind hOther).elim
  | unknown => exact hOpen hOther transfer hTransfer
  | transfer =>
    unfold SubjectUse at hUse
    rw [hOther] at hUse
    rcases hUse with ⟨held, hHeld⟩
    have hSame := hHeld.retained.symm.trans hTransfer
    cases hSame
    exact hHeld.live

/- The transfer whose flow was opened or found. -/
theorem openFlow_transfer {s : Coordinator} {declaredBytes : UInt64} {flow : FlowId}
    (hKind : decision.subject.kind = .transfer)
    (hOpened : (s.openFlow decision declaredBytes now).1 = .ok flow) (transfer : TransferRecord)
    (hTransfer :
      (s.openFlow decision declaredBytes
        now).2.transfers.lookup decision.subject.transfer = some transfer) :
    transfer.flow = flow ∧ transfer.state.isTerminal = false := by
  have hOpening := openFlow_opening s decision declaredBytes now
  generalize s.openFlow decision declaredBytes now = answer at hOpening hOpened hTransfer
  have hLive (old : TransferRecord) (hClears : s.Clears decision declaredBytes)
      (hOld : s.transfers.lookup decision.subject.transfer = some old) :
      old.state.isTerminal = false := by
    have hUse := (validateDecision_eq_ok_iff.mp hClears.valid).2.2
    refine live_of_subjectUse hUse ?_ ?_ old hOld
    · intro hUnknown
      rw [hKind] at hUnknown
      cases hUnknown
    · rw [hKind]
      decide
  cases hOpening with
  | refused => cases hOpened
  | served _ _ hServing =>
    rw [hKind] at hServing
    cases hServing
  | found held hClears _ hHeld =>
    cases hOpened
    rw [hHeld] at hTransfer
    cases hTransfer
    exact ⟨rfl, hLive transfer hClears hHeld⟩
  | carried held hClears _ hHeld =>
    cases hOpened
    change (s.transfers.insert decision.subject.transfer
      _).lookup decision.subject.transfer = some transfer at hTransfer
    rw [AList.lookup_insert] at hTransfer
    cases hTransfer
    exact ⟨rfl, hLive held hClears hHeld⟩

/- The request may own a new transfer. -/
def Owns (request : RequestId) : Prop :=
  s.ledger.isCancelled request = false

theorem checkRegistration_ok {s : Coordinator} {registration : TransferRegistration}
    {generations : ModelGeneration × StateGeneration}
    (hOk : s.checkRegistration registration = .ok generations) :
    registration.id ≠ .nil ∧
      s.transfers.lookup registration.id = none ∧
      (registration.request = .nil ∨ s.Owns registration.request) := by
  unfold checkRegistration at hOk
  simp only [Result.guard_eq_ok_iff, Except.bind_eq_ok_iff, Bool.and_eq_true, Bool.not_eq_true',
    Id128.isNil_eq_false_iff, not_and, Bool.not_eq_true,
    Option.isSome_eq_false_iff, Option.isNone_iff_eq_none] at hOk
  rcases hOk with ⟨hNamed, -, -, hFresh, -, -, -, -, -, hOwner, -⟩
  refine ⟨by simpa using hNamed, hFresh, ?_⟩
  by_cases hNil : registration.request = .nil
  · exact .inl hNil
  · exact .inr (hOwner hNil)

/- Quiet changes leave who may open flows alone. -/
theorem serves_of_quietly {s t : Coordinator} {request : RequestId}
    (hQuiet : Quietly s.ledger t.ledger) (hServes : t.Serves request) : s.Serves request := by
  rcases hQuiet with ⟨ops, hOps, hLedger⟩
  have hView := steps_quiet s.ledger request ops hOps
  rw [← hLedger] at hView
  rcases hServes with ⟨later, hLater, hLive, hValid⟩
  have hAfter : t.ledger.view request = some later.view := by
    unfold view
    unfold snapshotRequest at hLater
    rw [hLater]
    rfl
  rw [hAfter] at hView
  rcases Option.map_eq_some_iff.mp hView.symm with ⟨record, hRecord, hSame⟩
  refine ⟨record, hRecord, ?_, ?_⟩
  · rw [← RequestRecord.view_lifecycle, hSame]
    exact hLive
  · rw [← RequestRecord.view_requiresRevalidation, hSame]
    exact hValid

end Coordinator

/-
  The operation opens a flow on a closed transfer through a
  decision of no known kind, or after the flow counter has
  run through all its values.
-/
def Op.Unguarded (s : Coordinator) : Op → Prop
| .openFlow decision _ _ => ¬ s.NamesOpen decision ∨ s.nextFlowSequence + 1 = 0
| .authorizeTransfer _ _ _ => s.nextFlowSequence + 1 = 0
| _ => False

namespace Coordinator

variable (s : Coordinator)

/- Configuration does not touch the carriage. -/
theorem Configured.carriage {s t : Coordinator} {op : Op} (hConfigured : s.Configured op t) :
    t.carriage = s.carriage := by
  cases hConfigured with
  | _ => rfl

theorem retainCompletion_carriage (request : RequestId) (outcome : PublishOutcome) :
    (s.retainCompletion request outcome).carriage = s.carriage := by
  rcases retainCompletion_frame s request outcome with ⟨completions, order, hRetained⟩
  rw [hRetained]
  rfl

end Coordinator

/- What a boot leaves of the carriage. -/
def Carriage.empty : Carriage where
  transfers := ∅
  flows := ∅
  flowsByRequest := []
  transfersByRequest := []
  nextFlowSequence := 0

theorem Coordinator.Booted.carriage {mt : Generator} {s : Coordinator} (hBooted : Booted mt s) :
    s.carriage = .empty := by
  rcases hBooted.volatile with ⟨base, hSame⟩
  exact (congrArg Coordinator.carriage hSame :)

end TrafficFabric
