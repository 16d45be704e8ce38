import TrafficFabric.Coordinator.Authority
import TrafficFabric.Coordinator.Custody

/-
  The flows of the coordinator together with the flows of
  its ledger, and the moves the operations make on both.

  A flow is opened on the flow table the operation found and
  under an identity the operation mints. An operation that
  retires a request drops its flows in the ledger first and
  releases them in the coordinator afterwards.
-/

---
-- Moves
---

namespace TrafficFabric

open RequestLedger

/- Transfers, flows, their indexes and the ledger. -/
structure Fleet where
  carriage : Carriage
  flowsByTransfer : Multimap StateTransferId FlowId
  bulkInFlightBytes : UInt64
  ledger : RequestLedger

namespace Fleet

variable {terms : Terms}
variable {f g : Fleet}

def withCarriage (f : Fleet) (carriage : Carriage) : Fleet :=
  { f with carriage }

def withLedger (f : Fleet) (ledger : RequestLedger) : Fleet :=
  { f with ledger }

/- Store a flow, index it and count its bytes. -/
def addFlow (f : Fleet) (flow : FlowRecord) : Fleet :=
  { f with
    carriage := f.carriage.addFlow flow
    flowsByTransfer :=
      if flow.transfer.isNil then f.flowsByTransfer
      else f.flowsByTransfer ++ [(flow.transfer, flow.id)]
    bulkInFlightBytes :=
      if flow.bulk then f.bulkInFlightBytes + flow.declaredBytes
      else f.bulkInFlightBytes }

/- Remove a flow on both sides. -/
def release (f : Fleet) (flow : FlowRecord) : Fleet where
  carriage := f.carriage.release flow
  flowsByTransfer :=
    if flow.transfer.isNil then f.flowsByTransfer
    else f.flowsByTransfer.erase (flow.transfer, flow.id)
  bulkInFlightBytes :=
    if flow.bulk then
      if flow.declaredBytes ≤ f.bulkInFlightBytes then f.bulkInFlightBytes - flow.declaredBytes
      else 0
    else f.bulkInFlightBytes
  ledger :=
    if flow.request.isNil then f.ledger
    else f.ledger.step (.releaseFlow flow.id)

/-
  What an operation starts from: the flows that are open,
  the identities it mints, the requests it retires, and the
  limits on a payload and on the number of transfers.
-/
structure Terms where
  base : Table FlowId FlowRecord
  mints : FlowId → Prop
  ends : RequestId → Prop
  payload : UInt64
  capacity : Nat

/- One change of the flows. -/
inductive Move (terms : Terms) :
    Fleet → Fleet → Prop
| ruled (f : Fleet) (op : LedgerOp)
    (hFlows :
      FlowsKept f.ledger (f.ledger.step op) ∨
        ∃ id, terms.ends id ∧ FlowsDropped id f.ledger (f.ledger.step op)) :
    Move terms f (f.withLedger (f.ledger.step op))
| charged (f : Fleet) (id : FlowId) (bytes : UInt64) (inbound : Bool) :
    Move terms f (f.withLedger (f.ledger.step (.recordFlowBytes id bytes inbound)))
| observed (f : Fleet) (id : FlowId) (flow : FlowRecord) (bytes : UInt64)
    (hFlow : f.carriage.flows.lookup id = some flow) :
    Move terms f (f.withCarriage { f.carriage with
          flows := f.carriage.flows.insert id { flow with observedBytes := bytes } })
| released (f : Fleet) (id : FlowId) (flow : FlowRecord)
    (hFlow : f.carriage.flows.lookup id = some flow) : Move terms f (f.release flow)
| served (f : Fleet) (flow : FlowRecord) (now : Int64)
    (hOpened :
      (f.ledger.openFlow flow.request flow.attempt
        flow.traffic flow.declaredBytes now).1 = .ok flow.id)
    (hTransfer : flow.transfer = .nil)
    (hBase : f.carriage.flows = terms.base)
    (hMinted : terms.mints flow.id)
    (hSize : flow.declaredBytes ≤ terms.payload) :
    Move terms f
      ((f.withLedger
        (f.ledger.step (.openFlow flow.request flow.attempt
          flow.traffic flow.declaredBytes now))).addFlow flow)
| carried (f : Fleet) (transfer : TransferRecord) (flow : FlowRecord)
    (hTransfer : f.carriage.transfers.lookup flow.transfer = some transfer)
    (hFree : transfer.flow = .nil) (hRequest : flow.request = .nil)
    (hId : flow.id = Coordinator.transferFlowId (f.carriage.nextFlowSequence + 1) flow.transfer)
    (hBase : f.carriage.flows = terms.base) (hMinted : terms.mints flow.id)
    (hSize : flow.declaredBytes ≤ terms.payload) :
    Move terms f ((f.withCarriage ({ f.carriage with
          nextFlowSequence := f.carriage.nextFlowSequence + 1 }.putTransfer
          flow.transfer
          { transfer with flow := flow.id })).addFlow flow)
| settled (f : Fleet) (id : StateTransferId) (transfer next : TransferRecord)
    (hTransfer : f.carriage.transfers.lookup id = some transfer)
    (hRequest : next.request = transfer.request) (hFlow : next.flow = transfer.flow) :
    Move terms f (f.withCarriage (f.carriage.putTransfer id next))
| registered (f : Fleet) (id : StateTransferId) (transfer : TransferRecord) (hNamed : id ≠ .nil)
    (hFresh : f.carriage.transfers.lookup id = none) (hFlow : transfer.flow = .nil)
    (hRoom : f.carriage.transfers.size < terms.capacity) :
    Move terms f (f.withCarriage { f.carriage.putTransfer id transfer with
          transfersByRequest :=
            if transfer.request.isNil then f.carriage.transfersByRequest
            else f.carriage.transfersByRequest ++ [(transfer.request, id)] })

/- Any number of moves. -/
abbrev Moves (terms : Terms) : Fleet → Fleet → Prop :=
  Relation.ReflTransGen (Move terms)

/- A property every move keeps is kept by all of them. -/
theorem Moves.invariant (P : Fleet → Prop) (hKeep : ∀ a b, Move terms a b → P a → P b)
    (hMoves : Moves terms f g) (hStart : P f) : P g := by
  induction hMoves with
  | refl => exact hStart
  | tail _ hMove ih => exact hKeep _ _ hMove ih

/- The tables of the ledger stay coherent. -/
theorem Move.coherent (hMove : Move terms f g) (hCoherent : f.ledger.Coherent) :
    g.ledger.Coherent := by
  cases hMove with
  | ruled op hFlows => exact hCoherent.step op
  | charged id bytes inbound => exact hCoherent.step (.recordFlowBytes id bytes inbound)
  | released id flow hFlow =>
    unfold Fleet.release
    simp only
    split
    · exact hCoherent
    · exact hCoherent.step (.releaseFlow flow.id)
  | served flow now =>
    exact hCoherent.step (.openFlow flow.request flow.attempt flow.traffic flow.declaredBytes now)
  | _ => exact hCoherent

theorem Moves.coherent (hMoves : Moves terms f g) (hCoherent : f.ledger.Coherent) :
    g.ledger.Coherent :=
  hMoves.invariant (fun fleet => fleet.ledger.Coherent) (fun _ _ hMove => hMove.coherent) hCoherent

end Fleet

namespace Coordinator

def fleet (s : Coordinator) : Fleet where
  carriage := s.carriage
  flowsByTransfer := s.flowsByTransfer
  bulkInFlightBytes := s.bulkInFlightBytes
  ledger := s.ledger

open Fleet (Terms Move Moves)

variable {terms : Terms} {guarded : Prop} {serves owns : RequestId → Prop} (s : Coordinator)
variable {bytes : UInt64} {now : Int64}
variable (flow : FlowRecord) (request : TrafficRequest)

theorem fleet_releaseFlowLocked : (s.releaseFlowLocked flow).fleet = s.fleet.release flow := by
  rw [releaseFlowLocked_eq]
  rfl

theorem Releases.fleet {s t : Coordinator} (hReleases : Releases (fun _ => True) s t) :
    Moves terms s.fleet t.fleet := by
  induction hReleases with
  | refl => exact .refl
  | @tail base _ _ hRelease ih =>
    refine ih.trans ?_
    cases hRelease with
    | released id flow hFlow =>
      rw [fleet_releaseFlowLocked]
      exact .single (.released base.fleet id flow hFlow)
    | settled id old next _ hOld hRequest hFlow =>
      exact .single (.settled base.fleet id old next hOld hRequest hFlow)
    | counted => exact .refl

/-
  What an operation does to the flows, as moves of both
  tables and as guarded moves of the carriage.
-/
structure Course (terms : Terms) (guarded : Prop) (serves owns : RequestId → Prop)
    (s t : Coordinator) : Prop where
  fleet : s.ledger.Coherent → Moves terms s.fleet t.fleet
  carriage : Carriage.Moves guarded serves owns s.carriage t.carriage

namespace Course

variable {s t u : Coordinator} {guarded : Prop} {serves owns : RequestId → Prop}

theorem of_same (hSame : t.fleet = s.fleet) : Course terms guarded serves owns s t := by
  have hCarriage := congrArg Fleet.carriage hSame
  change t.carriage = s.carriage at hCarriage
  refine ⟨fun _ => ?_, ?_⟩
  · rw [hSame]
  · rw [hCarriage]

theorem of_releases (hReleases : Releases (fun _ => True) s t) :
    Course terms guarded serves owns s t :=
  ⟨fun _ => hReleases.fleet, hReleases.moves⟩

theorem trans (hLeft : Course terms guarded serves owns s t)
    (hRight : Course terms guarded serves owns t u) : Course terms guarded serves owns s u :=
  ⟨fun hCoherent =>
    (hLeft.fleet hCoherent).trans (hRight.fleet ((hLeft.fleet hCoherent).coherent hCoherent)),
    hLeft.carriage.trans hRight.carriage⟩

end Course

---
-- Opens
---

open Fleet (Terms Move Moves)

/- The identity of a flow that was not open before. -/
def newFlowId (s t : Coordinator) (result : Result FlowId) : Option FlowId :=
  match result with
  | .error _ => none
  | .ok id =>
    if t.nextFlowSequence = s.nextFlowSequence ∧
        t.ledger.nextFlowSequence = s.ledger.nextFlowSequence then none
    else some id

theorem newFlowId_ok {s t : Coordinator} (id : FlowId)
    (hNew :
      t.nextFlowSequence ≠ s.nextFlowSequence ∨
        t.ledger.nextFlowSequence ≠ s.ledger.nextFlowSequence) :
    newFlowId s t (.ok id) = some id := by
  refine if_neg ?_
  rintro ⟨hOwn, hLedger⟩
  exact hNew.elim (fun hOther => hOther hOwn) (fun hOther => hOther hLedger)

/- Only the counters before the operation are read. -/
theorem newFlowId_congr {s d : Coordinator} (t : Coordinator) (result : Result FlowId)
    (hOwn : d.nextFlowSequence = s.nextFlowSequence)
    (hLedger : d.ledger.nextFlowSequence = s.ledger.nextFlowSequence) :
    newFlowId d t result = newFlowId s t result := by
  unfold newFlowId
  rw [hOwn, hLedger]

/- The flow identity an operation mints. -/
def minted (s : Coordinator) : Op → Option FlowId
| .openFlow decision bytes now =>
  newFlowId s (s.openFlow decision bytes now).2 (s.openFlow decision bytes now).1
| .authorizeTransfer request now victim =>
  newFlowId s (s.authorizeTransfer request now victim).2
    ((s.authorizeTransfer request now victim).1.map TransferAuthorization.flow)
| _ => none

theorem add_one_ne (word : UInt64) : word + 1 ≠ word := by
  intro hSame
  simp at hSame

/- A flow opened through the ledger is a new one. -/
theorem newFlowId_served {s : Coordinator} {decision : Decision} {id : FlowId}
    (hOk : (s.askLedger decision bytes now).1 = .ok id) :
    newFlowId s ((s.withLedger (s.askLedger decision bytes now).2).addFlow flow) (.ok id) =
      some id := by
  refine newFlowId_ok id (.inr ?_)
  change (s.askLedger decision bytes now).2.nextFlowSequence ≠ _
  rw [(askLedger_ok hOk).2.1]
  exact add_one_ne s.ledger.nextFlowSequence

/- So is one that is opened for a transfer. -/
theorem newFlowId_carried (transfer : StateTransferId) (held : TransferRecord) (flow : FlowRecord)
    (id : FlowId) : newFlowId s ((s.bindFlow transfer held).addFlow flow) (.ok id) = some id :=
  newFlowId_ok id (.inl (add_one_ne s.nextFlowSequence))

theorem Opening.course {s : Coordinator} {decision : Decision}
    {answer : Result FlowId × Coordinator} (hOpening : s.Opening decision bytes now answer)
    (hServes : ∀ request, s.Serves request → serves request)
    (hOpen : guarded → s.NamesOpen decision) (hCounter : guarded → s.nextFlowSequence + 1 ≠ 0)
    (hBase : s.flows = terms.base)
    (hPayload : s.config.limits.maxSinglePayloadBytes = terms.payload)
    (hMinted : ∀ id, newFlowId s answer.2 answer.1 = some id → terms.mints id) :
    Course terms guarded serves owns s answer.2 := by
  cases hOpening with
  | refused | found => exact .of_same rfl
  | served id hClears hKind hOk =>
    have hUse := (validateDecision_eq_ok_iff.mp hClears.valid).2.2
    unfold SubjectUse at hUse
    rw [hKind] at hUse
    rcases hUse with ⟨record, hRecord⟩
    have hSize := hClears.sized
    rw [hPayload] at hSize
    refine ⟨fun _ => .single (.served s.fleet { s.describedFlow decision bytes with
        id
        request := decision.subject.request
        attempt := decision.subject.attempt }
      now hOk rfl hBase (hMinted id ?_) hSize),
      .single (.served s.carriage _ (hServes _ ?_) rfl)⟩
    · exact newFlowId_served _ hOk
    · exact ⟨record, hRecord.retained, hRecord.live, hRecord.valid⟩
  | carried transfer hClears hKind hTransfer hFree =>
    have hUse := (validateDecision_eq_ok_iff.mp hClears.valid).2.2
    have hSize := hClears.sized
    rw [hPayload] at hSize
    refine ⟨fun _ => .single (.carried s.fleet transfer { s.describedFlow decision bytes with
        id := transferFlowId (s.nextFlowSequence + 1) decision.subject.transfer
        transfer := decision.subject.transfer }
      hTransfer hFree rfl rfl hBase (hMinted _ ?_) hSize),
      .single (.carried s.carriage transfer { s.describedFlow decision bytes with
          id := transferFlowId (s.nextFlowSequence + 1) decision.subject.transfer
          transfer := decision.subject.transfer }
        (s.nextFlowSequence + 1) hTransfer ?_ hFree rfl
        ?_)⟩
    · exact newFlowId_carried s _ _ _ _
    · exact fun hGuarded => live_of_subjectUse hUse (hOpen hGuarded) hKind transfer hTransfer
    · exact fun hGuarded => transferFlowId_ne_nil _ (hCounter hGuarded)

---
-- Transfers
---

open Fleet (Terms Move Moves)

/- A decision is accounted with the flows left alone. -/
theorem evaluate_ledger (now : Int64) (victim : Nat) :
    (s.evaluate request now victim).2.ledger = s.ledger ∨
      ∃ op : LedgerOp,
        (s.evaluate request now victim).2.ledger = s.ledger.step op ∧ op.KeepsFlows := by
  rcases evaluate_built s request now victim with ⟨w, traffic, hBuilt, -⟩
  rw [hBuilt]
  unfold recordDecision
  split
  · exact .inr ⟨.recordDecision _ _ traffic _ _ request.payloadBytes, rfl, trivial⟩
  · exact .inl rfl

/- An evaluation opens no flow. -/
theorem evaluate_sequences (now : Int64) (victim : Nat) :
    (s.evaluate request now victim).2.nextFlowSequence = s.nextFlowSequence ∧
      (s.evaluate request now victim).2.ledger.nextFlowSequence = s.ledger.nextFlowSequence := by
  refine ⟨?_, ?_⟩
  · rcases evaluate_frame s request now victim with ⟨sequence, ledger, accounting, hAfter⟩
    rw [hAfter]
    rfl
  · rcases evaluate_ledger s request now victim with hSame | ⟨op, hRecorded, hKeeps⟩
    · rw [hSame]
    · rw [hRecorded]
      exact congrArg FlowBook.sequence (step_flowsKept s.ledger op hKeeps).book

/- An evaluation may rewrite a record of the ledger. -/
theorem evaluate_fleet (now : Int64) (victim : Nat) :
    Moves terms s.fleet (s.evaluate request now victim).2.fleet := by
  have hFrame :
      (s.evaluate request now victim).2.fleet =
        s.fleet.withLedger (s.evaluate request now victim).2.ledger := by
    rcases evaluate_frame s request now victim with ⟨sequence, ledger, accounting, hAfter⟩
    rw [hAfter]
    rfl
  rw [hFrame]
  rcases evaluate_ledger s request now victim with hSame | ⟨op, hRecorded, hKeeps⟩
  · rw [hSame]
    exact .refl
  · rw [hRecorded]
    exact .single (.ruled s.fleet op (.inl (step_flowsKept s.ledger op hKeeps)))

theorem evaluate_course (now : Int64) (victim : Nat) :
    Course terms guarded serves owns s (s.evaluate request now victim).2 := by
  refine ⟨fun _ => evaluate_fleet s request now victim, ?_⟩
  rw [(evaluate_bookkeeping s request now victim).carriage]

theorem registerTransfer_course
    {registration : TransferRegistration} {model : ModelGeneration} {state : StateGeneration}
    (now : Int64) (hCheck : s.checkRegistration registration = .ok (model, state))
    (hCapacity : s.config.limits.maxTransferRecords = terms.capacity)
    (hOwns : s.Owns registration.request → owns registration.request) :
    Course terms guarded serves owns s (s.registerTransfer registration now).2 := by
  rcases checkRegistration_ok hCheck with ⟨hNamed, hFresh, hOwner⟩
  have hGuards := hCheck
  simp only [checkRegistration, Result.guard_eq_ok_iff] at hGuards
  have hRoom := Nat.lt_of_not_le hGuards.2.2.2.2.1
  rw [hCapacity] at hRoom
  unfold registerTransfer
  simp only [hCheck]
  rw [AList.emplace_of_none _ _ _ hFresh]
  exact ⟨fun _ => .single (.registered s.fleet registration.id (registration.record model state now)
    hNamed hFresh rfl hRoom),
    .single (.registered s.carriage registration.id
      (registration.record model state now) hNamed hFresh (hOwner.imp_right hOwns) rfl)⟩

theorem Authorizing.course {s : Coordinator} {request : TrafficRequest} {victim : Nat}
    {answer : Result TransferAuthorization × Coordinator}
    (hAuthorizing : s.Authorizing request now victim answer)
    (hCounter : guarded → s.nextFlowSequence + 1 ≠ 0) (hBase : s.flows = terms.base)
    (hPayload : s.config.limits.maxSinglePayloadBytes = terms.payload)
    (hMinted :
      ∀ id,
        newFlowId s answer.2 (answer.1.map TransferAuthorization.flow) = some id →
        terms.mints id) : Course terms guarded s.Serves owns s answer.2 := by
  have hQuiet := (evaluate_bookkeeping s request now victim).incidental.quiet
  have hDecided : Course terms guarded s.Serves owns s (s.evaluate request now victim).2 :=
    evaluate_course s request now victim
  cases hAuthorizing with
  | misaddressed => exact .of_same rfl
  | unknown => exact hDecided.trans (.of_same rfl)
  | denied => exact hDecided.trans (.of_releases (closeTransfer_releases _ trivial .refused _ rfl))
  | missing => exact hDecided
  | declined =>
    exact (hDecided.trans (.of_releases (settleTransfer_releases _ trivial .refused _
        rfl))).trans (.of_same rfl)
  | granted subject transfer flow hSubject hKind _ _ hOpened =>
    have hDecision : (s.evaluate request now victim).1.subject = subject := by
      rw [evaluate_subject, hSubject, Option.getD_some]
    rw [← hDecision] at hKind hMinted ⊢
    rcases evaluate_frame s request now victim with ⟨sequence, ledger, accounting, hAfter⟩
    have hSequences := evaluate_sequences s request now victim
    refine ((hDecided.trans
      ((openFlow_opening _ _ _ now).course (fun _ => serves_of_quietly hQuiet) ?_ ?_ ?_ ?_
        ?_)).trans
        (.of_releases (modifyTransfer_releases _ trivial
          (fun old => { old with state := .authorized, flow })
          (fun _ => rfl) ?_ ?_))).trans (.of_same rfl)
    · intro _ hUnknown
      rw [hKind] at hUnknown
      cases hUnknown
    · rw [hSequences.1]
      exact hCounter
    · rw [hAfter]
      exact hBase
    · rw [hAfter]
      exact hPayload
    · intro id hNew
      rw [hOpened, newFlowId_congr _ _ hSequences.1 hSequences.2] at hNew
      exact hMinted id hNew
    · intro old hOld
      exact (openFlow_transfer hKind hOpened old hOld).1.symm
    · intro old hOld hDone
      rw [(openFlow_transfer hKind hOpened old hOld).2] at hDone
      cases hDone

end Coordinator

---
-- Operations
---

/- The operation succeeds in ending the request. -/
def Op.Retires (s : Coordinator) (id : RequestId) : Op → Prop
| .cancelRequest request reason now =>
  request = id ∧ (s.ledger.cancelRequest request reason s.nextSequence now).1.isOk = true
| .failAttempt request attempt reason now =>
  request = id ∧ (s.ledger.failAttempt request attempt reason now).1.isOk = true
| .publishCompletion publication now =>
  publication.request = id ∧
    ∃ outcome,
      (s.ledger.publishCompletion publication now).1 = .ok outcome ∧
        outcome.disposition = .committed
| _ => False

/- What an operation starts from. -/
def Op.terms (op : Op) (s : Coordinator) : Fleet.Terms where
  base := s.flows
  mints id := s.minted op = some id
  ends id := op.Retires s id
  payload := s.config.limits.maxSinglePayloadBytes
  capacity := s.config.limits.maxTransferRecords

namespace Coordinator

open Fleet (Terms Move Moves)

variable {terms : Terms} {guarded : Prop} {serves owns : RequestId → Prop} (s : Coordinator)
variable {id : RequestId} {op : Op}
variable {ruling : LedgerOp}
variable (request : RequestId)

/- Configuration does not touch the flows. -/
theorem Configured.fleet {s t : Coordinator} (hConfigured : s.Configured op t) :
    t.fleet = s.fleet := by
  cases hConfigured with
  | _ => rfl

/- A ruling that ends a request is one of three. -/
theorem retires_of_ruling {s : Coordinator} {ordered : RequestId} {record updated : RequestRecord}
    (hOps : op.ledgerOps s = [ruling]) (hRecord : s.ledger.requests.lookup id = some record)
    (hRetires : RequestLedger.Retires id record ruling ordered updated)
    (hOk : s.ledger.succeeds ruling = true) : op.Retires s id := by
  cases op with
  | cancelRequest | failAttempt =>
    cases hOps
    cases hRetires
    exact ⟨rfl, hOk⟩
  | publishCompletion publication now =>
    cases hOps
    cases hRetires with
    | published _ _ outcome _ hId hResult hCommitted =>
      refine ⟨hId, outcome, ?_, hCommitted⟩
      subst hId
      change (s.ledger.publishCompletion publication now).1.isOk = true at hOk
      unfold RequestLedger.publishCompletion at hOk ⊢
      split at hOk
      · cases hOk
      · rename_i hSet
        rw [if_neg hSet]
        simp only [hRecord, hResult, hCommitted]
  | registerAttempt | replaceAttempt =>
    simp only [Op.ledgerOps] at hOps
    split at hOps
    · cases hOps
    · cases hOps
      cases hRetires
  | _ =>
    cases hOps
    all_goals cases hRetires

/- A ruling keeps the flows or drops those of one request. -/
theorem ruling_flows {s : Coordinator} (hCoherent : s.ledger.Coherent)
    (hOps : op.ledgerOps s = [ruling]) :
    RequestLedger.FlowsKept s.ledger (s.ledger.step ruling) ∨
      ∃ id, op.Retires s id ∧ RequestLedger.FlowsDropped id s.ledger (s.ledger.step ruling) := by
  rcases op.ledgerOps_cases s with hNone | ⟨main, hMain, -, -, hOrdinary⟩
  · rw [hNone] at hOps
    cases hOps
  · rw [hOps] at hMain
    cases hMain
    refine ((RequestLedger.step_outcome s.ledger ruling).flows hOrdinary).imp_right ?_
    rintro ⟨id, _, _, _, hRecord, hRetires, hOk, hDropped⟩
    exact ⟨id, retires_of_ruling hOps hRecord hRetires hOk, hDropped hCoherent⟩

theorem retainCompletion_fleet (outcome : PublishOutcome) :
    (s.retainCompletion request outcome).fleet = s.fleet := by
  rcases retainCompletion_frame s request outcome with ⟨completions, order, hRetained⟩
  rw [hRetained]
  rfl

/- What an operation does after its ruling of the ledger. -/
theorem ruled_course {s t u : Coordinator} (hOps : op.ledgerOps s = [ruling])
    (hAfter : Course (op.terms s) guarded serves owns t u)
    (hRuled : t.fleet = s.fleet.withLedger (s.ledger.step ruling)) :
    Course (op.terms s) guarded serves owns s u := by
  refine Course.trans ⟨fun hCoherent => ?_, ?_⟩ hAfter
  · rw [hRuled]
    exact .single (.ruled s.fleet ruling (ruling_flows hCoherent hOps))
  · have hCarriage := congrArg Fleet.carriage hRuled
    change t.carriage = s.carriage at hCarriage
    rw [hCarriage]

theorem releaseRequestFlows_course :
    Course terms guarded serves owns s (s.releaseRequestFlows request) :=
  .of_releases (releaseRequestFlows_releases s request (fun _ _ => trivial))

/-
  Every operation moves the flows on its own terms, and the
  carriage within its guards for any condition the owners of
  new transfers meet.
-/
theorem step_course (op : Op)
    (hOwns :
      ∀ registration now,
        op = .registerTransfer registration now → s.Owns registration.request →
        owns registration.request) :
    Course (op.terms s) (¬ op.Unguarded s) s.Serves owns s (s.step op) := by
  have hOutcome := step_outcome s op
  generalize s.step op = t at hOutcome ⊢
  cases hOutcome with
  | configured _ _ _ hConfigured => exact .of_same hConfigured.fleet
  | ruled _ ruling hOps => exact ruled_course hOps (.of_same rfl) rfl
  | cancelRefused => exact ruled_course rfl (.of_same rfl) rfl
  | cancelled request | failed request =>
    exact ruled_course rfl (releaseRequestFlows_course _ request) rfl
  | replaced request old new hash now model _ hModel =>
    have hOps :
        (Op.replaceAttempt request old new hash
          now).ledgerOps s = [.supersedeAttempt request old new now] := by
      simp only [Op.ledgerOps, hModel]
    refine ruled_course hOps
      ((releaseRequestFlows_course
        (s.withLedger (s.ledger.step (.supersedeAttempt request old new now)))
        request).trans
          ⟨fun _ => .single (.ruled _ (.setAttemptModel request new hash model)
            (.inl ?_)), .refl⟩) rfl
    exact step_flowsKept _ _ trivial
  | published publication now outcome =>
    exact ruled_course rfl
      ((releaseRequestFlows_course
        (s.withLedger (s.ledger.step (.publishCompletion publication now)))
        publication.request).trans (.of_same (retainCompletion_fleet _ _ _))) rfl
  | registered registration now model state hCheck =>
    exact registerTransfer_course s now hCheck rfl (hOwns registration now rfl)
  | authorizing request now victim =>
    exact (authorizeTransfer_authorizing s request now
      victim).course (fun hGuarded => hGuarded) rfl rfl (fun _ hNew => hNew)
  | started id _ transfer hTransfer hState =>
    refine ⟨fun _ => .single (.settled s.fleet id transfer _
      hTransfer rfl rfl), .single (.settled s.carriage id transfer _ hTransfer rfl rfl ?_)⟩
    intro hDone
    rw [hState] at hDone
    cases hDone
  | completing id bytes =>
    exact .of_releases ((completeTransfer_completing s id bytes).releases trivial)
  | abandoned id reason =>
    exact .of_releases (closeTransfer_releases s trivial .abandoned reason rfl)
  | evaluated request now victim => exact evaluate_course s request now victim
  | opening decision bytes now =>
    exact (openFlow_opening s decision bytes now).course (fun _ hMay => hMay)
      (fun hGuarded => not_not.mp (not_or.mp hGuarded).1)
      (fun hGuarded => (not_or.mp hGuarded).2) rfl rfl (fun _ hNew => hNew)
  | released id flow hFlow => exact .of_releases (.single (.released s id flow hFlow))
  | observed id _ _ flow updated hFlow =>
    exact ⟨fun _ => .single (.observed s.fleet id flow
      updated hFlow), .single (.observed s.carriage id flow updated hFlow)⟩
  | charged id bytes inbound flow updated hFlow =>
    refine ⟨fun _ => .tail (.single (.observed s.fleet id
      flow updated hFlow)) ?_, .single (.observed s.carriage id flow updated hFlow)⟩
    exact .charged _ id bytes inbound
  | _ => exact .of_same rfl

theorem step_fleet (hCoherent : s.ledger.Coherent) (op : Op) :
    Moves (op.terms s) s.fleet (s.step op).fleet :=
  (step_course s op (fun _ _ _ hOwner => hOwner)).fleet hCoherent

theorem step_moves (op : Op) :
    Carriage.Moves (¬ op.Unguarded s) s.Serves s.Owns s.carriage (s.step op).carriage :=
  (step_course s op (fun _ _ _ hOwner => hOwner)).carriage

theorem step_released {s : Coordinator} (hRetires : op.Retires s id) :
    ∃ base : Coordinator,
      base.carriage = s.carriage ∧
        (s.step op).carriage = (base.releaseRequestFlows id).carriage := by
  cases op with
  | cancelRequest request reason now =>
    rcases hRetires with ⟨rfl, hOk⟩
    simp only [step, cancelRequest, releaseOnSuccess, hOk, if_true]
    exact ⟨s.advanceSequence.withLedger
      (s.ledger.cancelRequest request reason s.nextSequence now).2, rfl, rfl⟩
  | failAttempt request attempt reason now =>
    rcases hRetires with ⟨rfl, hOk⟩
    simp only [step, failAttempt, releaseOnSuccess, hOk, if_true]
    exact ⟨s.withLedger (s.ledger.failAttempt request attempt reason now).2, rfl, rfl⟩
  | publishCompletion publication now =>
    rcases hRetires with ⟨rfl, outcome, hOk, hCommitted⟩
    simp only [step]
    unfold publishCompletion
    simp only [hOk, hCommitted, if_true]
    rw [retainCompletion_carriage]
    exact ⟨s.withLedger (s.ledger.publishCompletion publication now).2, rfl, rfl⟩
  | _ => exact hRetires.elim

theorem step_severed {s : Coordinator} (hRetires : op.Retires s id) (hIndexed : s.carriage.Indexed)
    (hNamed : id ≠ .nil) : (s.step op).carriage.Severed id := by
  rcases step_released hRetires with ⟨base, hBase, hAfter⟩
  rw [← hBase] at hIndexed
  rw [hAfter]
  exact releaseRequestFlows_severed base hIndexed hNamed

theorem step_unserved {s : Coordinator} (hRetires : op.Retires s id) (hFiled : s.carriage.Filed)
    (hNamed : id ≠ .nil) : (s.step op).carriage.Unserved id := by
  rcases step_released hRetires with ⟨base, hBase, hAfter⟩
  rw [← hBase] at hFiled
  rw [hAfter]
  exact releaseRequestFlows_unserved base hFiled hNamed

end Coordinator

namespace RequestLedger

theorem steps_restoreRecord_exact (restored : List RequestRecord) {ledger : RequestLedger}
    (hCoherent : ledger.Coherent) (hExact : ledger.Exact) :
    let after := ledger.steps (restored.map LedgerOp.restoreRecord)
    after.Exact ∧ after.flowBook = ledger.flowBook := by
  induction restored generalizing ledger with
  | nil => exact ⟨hExact, rfl⟩
  | cons record rest ih =>
    rcases ih (hCoherent.step (.restoreRecord record)) (hExact.restoreRecord hCoherent record) with
      ⟨hAfter, hBook⟩
    exact ⟨hAfter, hBook.trans (restoreRecord_flowBook ledger record)⟩

end RequestLedger

/- Nothing is open and nothing is counted. -/
structure Fleet.Idle (f : Fleet) : Prop where
  carriage : f.carriage = .empty
  byTransfer : f.flowsByTransfer = []
  bulk : f.bulkInFlightBytes = 0
  book : f.ledger.flowBook = ⟨∅, [], 0, 0⟩
  counted : f.ledger.Exact

namespace Coordinator

variable {mt : Generator} {s : Coordinator}
variable {t : Coordinator} {label : Label}

theorem Booted.idle (hBooted : Booted mt s) : s.fleet.Idle := by
  rcases hBooted.ledger with ⟨ledger, restored, hLedger⟩
  rcases steps_restoreRecord_exact restored
    (Coherent.clear ledger) (Exact.clear ledger) with ⟨hExact, hBook⟩
  rw [← hLedger] at hExact hBook
  rcases hBooted.volatile with ⟨base, hSame⟩
  have hTables := congrArg Coordinator.flowsByTransfer hSame
  have hBulk := congrArg Coordinator.bulkInFlightBytes hSame
  exact ⟨hBooted.carriage, hTables, hBulk, hBook, hExact⟩

/- A transition is an operation or leaves nothing open. -/
theorem Transition.fleet (hTransition : Transition mt s label t) :
    t.fleet.Idle ∨ ∃ op, label = .op op ∧ t = s.step op :=
  hTransition.booted_or_step.imp_left Booted.idle

theorem Started.fleet {config : CoordinatorConfig} (hStarted : Started mt config s) :
    s.fleet.Idle :=
  hStarted.booted.idle

theorem Transition.carriage (hTransition : Transition mt s label t) :
    t.carriage = .empty ∨
      ∃ op, label = .op op ∧
        Carriage.Moves (¬ op.Unguarded s) s.Serves s.Owns s.carriage t.carriage := by
  rcases hTransition.fleet with hIdle | ⟨op, rfl, rfl⟩
  · exact .inl hIdle.carriage
  · exact .inr ⟨op, rfl, step_moves s op⟩

theorem lookup_transfer_of_idle (hIdle : s.fleet.Idle) (id : StateTransferId) :
    s.transfers.lookup id = none := by
  have hEmpty : s.carriage = .empty := hIdle.carriage
  change s.carriage.transfers.lookup id = none
  rw [hEmpty]
  rfl

end Coordinator

end TrafficFabric
