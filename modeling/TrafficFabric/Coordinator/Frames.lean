import TrafficFabric.Coordinator.Outcomes
import TrafficFabric.Coordinator.Waiting

/-
  What the operations of the coordinator leave alone.

  The state falls into what a snapshot keeps, the tables
  that carry traffic, and the ledger. Evaluation touches
  neither of the first two; flows and transfers leave the
  durable part alone; and every operation works on the
  ledger by at most one operation that can change the
  authority of a request, followed by quiet ones.

  Main declarations:
    * `RequestLedger.Quietly`
    * `Coordinator.durable`
    * `Coordinator.step_ledger`
    * `Coordinator.step_durable`
-/

---
-- Quiet Changes Of The Ledger
---

namespace TrafficFabric

open RequestLedger List

namespace RequestLedger

/- The ledger changed by operations of one kind only. -/
def Works (kind : LedgerOp → Prop) (before after : RequestLedger) : Prop :=
  ∃ ops : List LedgerOp, (∀ op ∈ ops, kind op) ∧ after = before.steps ops

namespace Works

variable {kind other : LedgerOp → Prop} {first second third : RequestLedger}
variable (ledger : RequestLedger)

theorem refl : Works kind ledger ledger := ⟨[], by simp, rfl⟩

theorem single (op : LedgerOp) (hKind : kind op) : Works kind ledger (ledger.step op) :=
  ⟨[op], by simpa using hKind, rfl⟩

theorem trans (hLeft : Works kind first second) (hRight : Works kind second third) :
    Works kind first third := by
  rcases hLeft with ⟨left, hKindLeft, rfl⟩
  rcases hRight with ⟨right, hKindRight, rfl⟩
  refine ⟨left ++ right, ?_, ?_⟩
  · intro op hMem
    rcases mem_append.mp hMem with hMem | hMem
    · exact hKindLeft op hMem
    · exact hKindRight op hMem
  · unfold steps
    rw [foldl_append]

theorem mono (hKind : ∀ op, kind op → other op) (hWorks : Works kind first second) :
    Works other first second := by
  rcases hWorks with ⟨ops, hOps, hAfter⟩
  exact ⟨ops, fun op hMem => hKind op (hOps op hMem), hAfter⟩

/- A property every operation of the kind keeps is kept. -/
theorem keeps {P : RequestLedger → Prop}
    (hKeep : ∀ ledger op, kind op → P ledger → P (ledger.step op))
    (hWorks : Works kind first second) (hStart : P first) : P second := by
  rcases hWorks with ⟨ops, hOps, rfl⟩
  exact foldlRecOn ops step hStart
    (fun ledger hBefore op hMem => hKeep ledger op (hOps op hMem) hBefore)

end Works

/- The ledger changed by quiet operations only. -/
def Quietly (before after : RequestLedger) : Prop :=
  ∃ ops : List LedgerOp, (∀ op ∈ ops, op.Quiet) ∧ after = before.steps ops

end RequestLedger

/- What a snapshot keeps, apart from the request records. -/
structure DurableState where
  config : CoordinatorConfig
  epoch : CoordinatorEpoch
  incarnation : BootId
  bootCount : UInt64
  policy : PolicyConfig
  topologyPresent : Bool
  topology : TopologyEvidence
  models : Table UInt64 ModelState
  states : Table UInt64 StateGenerationRecord

/- Transfers, flows and their indexes. -/
structure Carriage where
  transfers : Table StateTransferId TransferRecord
  flows : Table FlowId FlowRecord
  flowsByRequest : Multimap RequestId FlowId
  transfersByRequest : Multimap RequestId StateTransferId
  nextFlowSequence : UInt64

/- The tables kept beside the ledger and the flows. -/
structure Docket where
  waiting : Waiting
  sloContracts : Table RequestId SloContract
  routeDecisions : Table AttemptId RouteDecision

namespace Coordinator

def durable (s : Coordinator) : DurableState where
  config := s.config
  epoch := s.epoch
  incarnation := s.incarnation
  bootCount := s.bootCount
  policy := s.policy
  topologyPresent := s.topologyPresent
  topology := s.topology
  models := s.models
  states := s.states

def carriage (s : Coordinator) : Carriage where
  transfers := s.transfers
  flows := s.flows
  flowsByRequest := s.flowsByRequest
  transfersByRequest := s.transfersByRequest
  nextFlowSequence := s.nextFlowSequence

def docket (s : Coordinator) : Docket where
  waiting := s.waiting
  sloContracts := s.sloContracts
  routeDecisions := s.routeDecisions

def cache (s : Coordinator) : Table RequestId PublishOutcome × List RequestId × Nat :=
  (s.completions, s.completionOrder, s.config.maxRetainedCompletionRecords)

/-
  A change that is incidental to serving: nothing durable,
  and no authority of any request.
-/
structure Incidental (s t : Coordinator) : Prop where
  durable : t.durable = s.durable
  quiet : Quietly s.ledger t.ledger

namespace Incidental

theorem refl (s : Coordinator) : Incidental s s := ⟨rfl, Works.refl s.ledger⟩

theorem trans {s t u : Coordinator} (hLeft : Incidental s t) (hRight : Incidental t u) :
    Incidental s u :=
  ⟨hRight.durable.trans hLeft.durable, Works.trans hLeft.quiet hRight.quiet⟩

/- Nothing durable changed and the ledger is the same. -/
theorem of_same {s t : Coordinator} (hDurable : t.durable = s.durable)
    (hLedger : t.ledger = s.ledger) : Incidental s t :=
  ⟨hDurable, by rw [hLedger]; exact Works.refl s.ledger⟩

/- Nothing durable changed and one quiet operation ran. -/
theorem of_quiet {s t : Coordinator} (op : LedgerOp) (hDurable : t.durable = s.durable)
    (hQuiet : op.Quiet) (hLedger : t.ledger = s.ledger.step op) : Incidental s t :=
  ⟨hDurable, by rw [hLedger]; exact Works.single s.ledger op hQuiet⟩

end Incidental

variable (s : Coordinator) (request : TrafficRequest) (subject : TrafficSubject)
variable (outcome : DecisionOutcome) (reason : ReasonCode) (traffic : TrafficClass)

/- Only counters, deferrals and the sequence differ. -/
structure Bookkeeping (s t : Coordinator) : Prop where
  incidental : Incidental s t
  carriage : t.carriage = s.carriage

namespace Bookkeeping

theorem refl (s : Coordinator) : Bookkeeping s s := ⟨.refl s, rfl⟩

theorem trans {s t u : Coordinator} (hLeft : Bookkeeping s t) (hRight : Bookkeeping t u) :
    Bookkeeping s u :=
  ⟨hLeft.incidental.trans hRight.incidental, hRight.carriage.trans hLeft.carriage⟩

end Bookkeeping

theorem recordDecision_bookkeeping :
    Bookkeeping s (s.recordDecision request subject outcome reason traffic) := by
  unfold recordDecision
  split
  · exact ⟨.of_quiet
      (.recordDecision subject.request subject.attempt traffic outcome reason request.payloadBytes)
      rfl trivial rfl, rfl⟩
  · exact ⟨.of_same rfl rfl, rfl⟩

theorem build_bookkeeping :
    Bookkeeping s (s.mintStamp.2.recordDecision request subject outcome reason traffic) := by
  have hMint : Bookkeeping s s.mintStamp.2 := ⟨.of_same rfl rfl, rfl⟩
  exact hMint.trans (recordDecision_bookkeeping _ request subject outcome reason traffic)

/- An evaluation touches deferrals and counters only. -/
theorem evaluate_bookkeeping (now : Int64) (victim : Nat) :
    Bookkeeping s (s.evaluate request now victim).2 := by
  rcases evaluate_built s request now victim with ⟨w, traffic, hBuilt, -⟩
  have hTable : Bookkeeping s (s.withWaiting w) := ⟨.of_same rfl rfl, rfl⟩
  rw [hBuilt]
  exact hTable.trans (build_bookkeeping _ request _ _ _ traffic)

---
-- Flows And Transfers
---

theorem releaseFlowLocked_eq (flow : FlowRecord) :
    s.releaseFlowLocked flow = { s.dropFlow flow with
        flowsByRequest :=
          if flow.request.isNil then s.flowsByRequest
          else s.flowsByRequest.erase (flow.request, flow.id)
        flowsByTransfer :=
          if flow.transfer.isNil then s.flowsByTransfer
          else s.flowsByTransfer.erase (flow.transfer, flow.id)
        transfers :=
          if flow.transfer.isNil then s.transfers
          else
            s.transfers.modify flow.transfer (fun transfer =>
                if transfer.flow = flow.id then { transfer with flow := .nil }
                else transfer)
        ledger :=
          if flow.request.isNil then s.ledger
          else s.ledger.step (.releaseFlow flow.id) } := by
  unfold releaseFlowLocked detachTransfer detachRequest
  by_cases hRequest : flow.request.isNil = true
  · by_cases hTransfer : flow.transfer.isNil = true
    · simp only [hRequest, hTransfer, if_true]
      rfl
    · simp only [hRequest, hTransfer, if_true]
      rfl
  · by_cases hTransfer : flow.transfer.isNil = true
    · simp only [hRequest, hTransfer, if_true]
      rfl
    · simp only [hRequest, hTransfer]
      rfl

/-
  A flow is released, a transfer that may be settled is
  rewritten without being reopened, or transfers are
  counted.
-/
inductive Release (settles : StateTransferId → Prop) :
    Coordinator → Coordinator → Prop
| released (s : Coordinator) (id : FlowId) (flow : FlowRecord)
    (hFlow : s.flows.lookup id = some flow) : Release settles s (s.releaseFlowLocked flow)
| settled (s : Coordinator) (id : StateTransferId) (old next : TransferRecord)
    (hSettles : settles id) (hOld : s.transfers.lookup id = some old)
    (hRequest : next.request = old.request) (hFlow : next.flow = old.flow)
    (hTerminal : old.state.isTerminal = true → next.state.isTerminal = true) :
    Release settles s { s with transfers := s.transfers.insert id next }
| counted (s : Coordinator) (completed refused : UInt64) :
    Release settles s { s with
        transfersCompleted := completed
        transfersRefused := refused }

/- Any number of releases. -/
abbrev Releases (settles : StateTransferId → Prop) : Coordinator → Coordinator → Prop :=
  Relation.ReflTransGen (Release settles)

section Families

variable {settles : StateTransferId → Prop}
variable {id : StateTransferId}

theorem releaseVictims_releases (victims : List FlowId) :
    Releases settles s (s.releaseVictims victims) := by
  induction victims generalizing s with
  | nil => exact .refl
  | cons id rest ih =>
    refine Relation.ReflTransGen.trans ?_ (ih (s.releaseVictim id))
    unfold releaseVictim
    cases hFlow : s.flows.lookup id with
    | none => exact .refl
    | some flow => exact .single (.released s id flow hFlow)

theorem releaseTransferFlows_releases (transfer : StateTransferId) :
    Releases settles s (s.releaseTransferFlows transfer) := by
  unfold releaseTransferFlows
  split
  · exact .refl
  · exact releaseVictims_releases s _

/- Rewriting one transfer without moving it backwards. -/
theorem modifyTransfer_releases (hSettles : settles id) (f : TransferRecord → TransferRecord)
    (hRequest : ∀ old, (f old).request = old.request)
    (hFlow : ∀ old, s.transfers.lookup id = some old → (f old).flow = old.flow)
    (hTerminal :
      ∀ old, s.transfers.lookup id = some old →
        old.state.isTerminal = true →
        (f old).state.isTerminal = true) :
    Releases settles s { s with transfers := s.transfers.modify id f } := by
  unfold AList.modify
  cases hOld : s.transfers.lookup id with
  | none => exact .refl
  | some old =>
    exact .single (.settled s id old (f old) hSettles hOld (hRequest old) (hFlow old hOld)
      (hTerminal old hOld))

theorem abandonOwned_keeps (transfer : TransferRecord) :
    transfer.abandonOwned.request = transfer.request ∧
      transfer.abandonOwned.flow = transfer.flow ∧
      transfer.abandonOwned.state.isTerminal = true := by
  unfold TransferRecord.abandonOwned
  split
  · exact ⟨rfl, rfl, by assumption⟩
  · exact ⟨rfl, rfl, rfl⟩

theorem abandonOwnedTransfers_releases (request : RequestId)
    (hSettles : ∀ id ∈ s.transfersByRequest.equalRange request, settles id) :
    Releases settles s (s.abandonOwnedTransfers request) := by
  have hFold (ids : List StateTransferId) (hIds : ∀ id ∈ ids, settles id) (t : Coordinator) :
      Releases settles t { t with
          transfers := ids.foldl
            (fun transfers id => transfers.modify id TransferRecord.abandonOwned)
            t.transfers } := by
    induction ids generalizing t with
    | nil => exact .refl
    | cons id rest ih =>
      rw [forall_mem_cons] at hIds
      refine (modifyTransfer_releases t hIds.1
        TransferRecord.abandonOwned ?_ ?_ ?_).trans (ih hIds.2 _)
      · exact fun old => (abandonOwned_keeps old).1
      · exact fun old _ => (abandonOwned_keeps old).2.1
      · exact fun old _ _ => (abandonOwned_keeps old).2.2
  exact hFold _ hSettles s

theorem releaseRequestFlows_releases (request : RequestId)
    (hSettles : ∀ id ∈ s.transfersByRequest.equalRange request, settles id) :
    Releases settles s (s.releaseRequestFlows request) := by
  unfold releaseRequestFlows
  split
  · exact .refl
  · exact (abandonOwnedTransfers_releases s request hSettles).trans (releaseVictims_releases _ _)

theorem settleTransfer_releases (hSettles : settles id) (state : TransferState)
    (reason : ReasonCode) (hState : state.isTerminal = true) :
    Releases settles s (s.settleTransfer id state reason) :=
  modifyTransfer_releases s hSettles _ (fun _ => rfl) (fun _ _ => rfl) (fun _ _ _ => hState)

/- Settle a transfer, release its flows, count it. -/
theorem closeTransfer_releases (hSettles : settles id) (state : TransferState)
    (reason : ReasonCode) (hState : state.isTerminal = true) :
    Releases settles s (s.closeTransfer id state reason) :=
  ((settleTransfer_releases s hSettles state reason
    hState).trans (releaseTransferFlows_releases _ id)).tail (.counted _ _ _)

theorem Completing.releases {s : Coordinator} {bytes : UInt64}
    {answer : Result Unit × Coordinator} (hCompleting : s.Completing id bytes answer)
    (hSettles : settles id) : Releases settles s answer.2 := by
  cases hCompleting with
  | refused => exact .refl
  | mismatched => exact closeTransfer_releases s hSettles .refused _ rfl
  | completed transfer hTransfer =>
    refine (Relation.ReflTransGen.trans (.single ?_)
      (releaseTransferFlows_releases (s.markCompleted id transfer bytes) id)).tail (.counted _ _ _)
    exact .settled s id transfer _ hSettles hTransfer rfl rfl (fun _ => rfl)

end Families

/- The oldest entries beyond the limit are forgotten. -/
theorem iterate_trimCompletion (turns : Nat) :
    trimCompletion^[turns] s =
      let excess := min turns (s.completionOrder.length - s.config.maxRetainedCompletionRecords)
      { s with
        completionOrder := s.completionOrder.drop excess
        completions := s.completions.eraseAll (s.completionOrder.take excess) } := by
  induction turns generalizing s with
  | zero => rw [Nat.zero_min]; rfl
  | succ turns ih =>
    rw [Function.iterate_succ_apply, ih]
    unfold trimCompletion
    split
    · rename_i hEmpty
      simp only [hEmpty, length_nil, Nat.zero_sub, Nat.min_zero]
    · rename_i victim rest hOrder
      split
      · rename_i hExcess
        rw [hOrder, length_cons] at hExcess
        have hTurn : min (turns + 1) (rest.length + 1 - s.config.maxRetainedCompletionRecords) =
            min turns (rest.length - s.config.maxRetainedCompletionRecords) + 1 := by
          omega
        simp only [hOrder, length_cons, hTurn, drop_succ_cons, take_succ_cons,
          AList.eraseAll, foldl_cons]
      · rename_i hWithin
        rw [Nat.sub_eq_zero_of_le (Nat.not_lt.mp hWithin), Nat.min_zero, Nat.min_zero]

theorem retainCompletion_eq (request : RequestId) (outcome : PublishOutcome) :
    s.retainCompletion request outcome =
      let order := s.completionOrder ++ [request]
      let excess := order.length - s.config.maxRetainedCompletionRecords
      { s with
        completionOrder := order.drop excess
        completions := (s.completions.insert request outcome).eraseAll (order.take excess) } := by
  unfold retainCompletion
  simp only [iterate_trimCompletion, Nat.min_eq_right (Nat.sub_le _ _)]

/- Only the retained completions are written. -/
theorem retainCompletion_frame (request : RequestId) (outcome : PublishOutcome) :
    ∃ completions order, s.retainCompletion request outcome = { s with
          completions
          completionOrder := order } :=
  ⟨_, _, retainCompletion_eq s request outcome⟩

end Coordinator

---
-- What An Operation May Write
---

/-
  The evaluation an operation makes: traffic is evaluated by
  itself, and when a transfer is authorized.
-/
def Op.evaluation : Op → Option (TrafficRequest × Int64 × Nat)
| .evaluate request now victim => some (request, now, victim)
| .authorizeTransfer request now victim =>
  if request.subject.any (fun subject => subject.kind = .transfer) then some (request, now, victim)
  else none
| _ => none

namespace Op

/- Operations that write contracts or routes. -/
def Notes : Op → Prop
| .registerSloContract _ _ _ _
| .issueRouteDecision _ _ _ _ _ | .replaceAttempt _ _ _ _ _ => True
| _ => False

/- The operation publishes a completion that is committed. -/
def Commits (s : Coordinator) : Op → Prop
| .publishCompletion publication now =>
  ∃ outcome,
    (s.ledger.publishCompletion publication now).1 = .ok outcome ∧ outcome.disposition = .committed
| _ => False

/- What the ledger is asked for after the ruling. -/
def Settles (op : Op) : LedgerOp → Prop
| .releaseFlow _ | .setAttemptModel _ _ _ _ | .recordFlowBytes _ _ _ => True
| .openFlow _ _ _ _ _ => ∃ decision bytes now, op = .openFlow decision bytes now
| _ => False

theorem Settles.quiet {op : Op} (ruling : LedgerOp) (hSettles : op.Settles ruling) :
    ruling.Quiet := by
  cases ruling with
  | releaseFlow | setAttemptModel | recordFlowBytes | openFlow => trivial
  | _ => exact hSettles.elim

end Op

namespace Coordinator

/- The state once the evaluation of an operation is made. -/
def asked (s : Coordinator) (op : Op) : Coordinator :=
  match op.evaluation with
  | none => s
  | some (request, now, victim) => (s.evaluate request now victim).2

/-
  What the operation changes besides flows and transfers.
  Each part of the state has the operations that write it.
-/
structure Settling (start : Coordinator) (op : Op) (s t : Coordinator) : Prop where
  durable : op.Configures ∨ t.durable = s.durable
  docket : op.Notes ∨ t.docket = s.docket
  cache : op.Commits start ∨ t.cache = s.cache
  classes : t.transferClassAccounting = s.transferClassAccounting
  ledger : Works op.Settles s.ledger t.ledger

section Settlings

variable {start s t u : Coordinator} {op : Op}

namespace Settling

theorem trans (hLeft : Settling start op s t) (hRight : Settling start op t u) :
    Settling start op s u where
  durable := hLeft.durable.elim .inl (fun hSame => hRight.durable.imp_right (·.trans hSame))
  docket := hLeft.docket.elim .inl (fun hSame => hRight.docket.imp_right (·.trans hSame))
  cache := hLeft.cache.elim .inl (fun hSame => hRight.cache.imp_right (·.trans hSame))
  classes := hRight.classes.trans hLeft.classes
  ledger := hLeft.ledger.trans hRight.ledger

/- Only flows, transfers and the ledger are written. -/
theorem of_works
    (hSame :
      (t.durable, t.docket, t.cache, t.transferClassAccounting) =
        (s.durable, s.docket, s.cache, s.transferClassAccounting))
    (hWorks : Works op.Settles s.ledger t.ledger) : Settling start op s t := by
  simp only [Prod.mk.injEq] at hSame
  exact ⟨.inr hSame.1, .inr hSame.2.1, .inr hSame.2.2.1, hSame.2.2.2, hWorks⟩

theorem of_releases (hReleases : Releases (fun _ => True) s t) : Settling start op s t := by
  induction hReleases with
  | refl => exact .of_works rfl (.refl _)
  | tail _ hRelease ih =>
    refine ih.trans ?_
    cases hRelease with
    | released id flow =>
      rw [releaseFlowLocked_eq]
      refine .of_works rfl ?_
      simp only
      split
      · exact .refl _
      · exact .single _ (.releaseFlow flow.id) trivial
    | _ => exact .of_works rfl (.refl _)

end Settling

theorem releaseRequestFlows_settling (start : Coordinator) (op : Op) (s : Coordinator)
    (request : RequestId) : Settling start op s (s.releaseRequestFlows request) :=
  .of_releases (releaseRequestFlows_releases s request (fun _ _ => trivial))

theorem openFlow_settling (s : Coordinator) (decision : Decision) (bytes : UInt64) (now : Int64)
    (hServes :
      decision.subject.kind = .serving →
      ∃ decision bytes now, op = .openFlow decision bytes now) :
    Settling start op s (s.openFlow decision bytes now).2 := by
  have hOpening := openFlow_opening s decision bytes now
  generalize s.openFlow decision bytes now = answer at hOpening ⊢
  cases hOpening with
  | served _ _ hKind =>
    exact .of_works rfl (.single s.ledger (.openFlow decision.subject.request
      decision.subject.attempt decision.treatment.trafficClass bytes now) (hServes hKind))
  | _ => exact .of_works rfl (.refl _)

/- A transfer is authorized after its evaluation. -/
theorem authorizeTransfer_settling (s : Coordinator) (request : TrafficRequest) (now : Int64)
    (victim : Nat) :
    Settling start op (s.asked (.authorizeTransfer request now victim))
      (s.authorizeTransfer request now victim).2 := by
  have hAuthorizing := authorizeTransfer_authorizing s request now victim
  generalize s.authorizeTransfer request now victim = answer at hAuthorizing ⊢
  have hAsked {subject : TrafficSubject} (hSubject : request.subject = some subject)
      (hKind : subject.kind = .transfer) :
      s.asked (.authorizeTransfer request now victim) = (s.evaluate request now victim).2 := by
    simp only [asked, Op.evaluation, hSubject, hKind, Option.any_some, decide_true, if_true]
  cases hAuthorizing with
  | misaddressed _ hOther =>
    have hNone : request.subject.any (fun subject => subject.kind = .transfer) = false := by
      cases hSubject : request.subject with
      | none => rfl
      | some subject => simpa using hOther subject hSubject
    simp only [asked, Op.evaluation, hNone, Bool.false_eq_true, if_false]
    exact .of_works rfl (.refl _)
  | unknown _ hSubject hKind | missing _ _ hSubject hKind | declined _ _ _ hSubject hKind =>
    rw [hAsked hSubject hKind]
    exact .of_works rfl (.refl _)
  | denied _ _ hSubject hKind =>
    rw [hAsked hSubject hKind]
    exact .of_releases (closeTransfer_releases _ trivial .refused _ rfl)
  | granted _ _ _ hSubject hKind =>
    rw [hAsked hSubject hKind]
    refine (openFlow_settling _ _ _ now ?_).trans (.of_works rfl (.refl _))
    intro hServing
    rw [evaluate_subject, hSubject, Option.getD_some, hKind] at hServing
    cases hServing

end Settlings

---
-- Operations
---

variable (s : Coordinator)
variable (op : Op)

theorem step_settling_of_none {op : Op} (hNone : op.evaluation = none) :
    Settling s op (s.withLedger (s.ledger.steps (op.ledgerOps s))) (s.step op) := by
  have hOutcome := step_outcome s op
  generalize s.step op = t at hOutcome ⊢
  cases hOutcome with
  | unchanged _ hOps | ruled _ _ hOps =>
    rw [hOps]
    exact .of_works rfl (.refl _)
  | configured _ _ hOp hConfigured =>
    have hOps : op.ledgerOps s = [] := by
      cases hConfigured with
      | refused =>
        cases op with
        | applyPolicy | publishTopology | setModelGeneration | revalidateModelGeneration
        | advanceStateGeneration | revalidateStateGeneration => rfl
        | _ => exact hOp.elim
      | _ => rfl
    rw [hOps]
    cases hConfigured with
    | _ => exact ⟨.inl hOp, .inr rfl, .inr rfl, rfl, .refl _⟩
  | contracted | routed => exact ⟨.inr rfl, .inl trivial, .inr rfl, rfl, .refl _⟩
  | cancelled request =>
    refine Settling.trans (.of_works ?_ ?_) (releaseRequestFlows_settling _ _ _ request)
    · rfl
    · exact .refl _
  | failed request => exact releaseRequestFlows_settling _ _ _ request
  | replaced request old new hash now model _ hModel =>
    simp only [Op.ledgerOps, hModel]
    exact (releaseRequestFlows_settling _ _ _ request).trans ⟨.inr rfl, .inl trivial, .inr rfl, rfl,
      .single _ (.setAttemptModel request new hash model) trivial⟩
  | published publication now outcome hOk hCommitted =>
    refine (releaseRequestFlows_settling _ _ _ publication.request).trans ?_
    rcases retainCompletion_frame _ publication.request outcome with ⟨completions, order, hRetained⟩
    rw [hRetained]
    exact ⟨.inr rfl, .inr rfl, .inl ⟨outcome, hOk, hCommitted⟩, rfl, .refl _⟩
  | registered registration now model state hCheck =>
    unfold registerTransfer
    rw [hCheck]
    exact .of_works rfl (.refl _)
  | authorizing request now victim =>
    have hSettling :
        Settling s (.authorizeTransfer request now victim) _
          (s.authorizeTransfer request now victim).2 :=
      authorizeTransfer_settling s request now victim
    unfold asked at hSettling
    rw [hNone] at hSettling
    exact hSettling
  | completing id bytes =>
    exact .of_releases ((completeTransfer_completing s id bytes).releases trivial)
  | abandoned id => exact .of_releases (closeTransfer_releases s trivial .abandoned _ rfl)
  | evaluated => cases hNone
  | opening decision bytes now =>
    exact openFlow_settling s decision bytes now (fun _ => ⟨decision, bytes, now, rfl⟩)
  | released id flow hFlow => exact .of_releases (.single (.released s id flow hFlow))
  | charged id bytes inbound =>
    exact .of_works rfl (.single s.ledger (.recordFlowBytes id bytes inbound) trivial)
  | _ => exact .of_works rfl (.refl _)

/-
  An operation makes its evaluation, runs the ledger
  operation it stands for, and settles the rest.
-/
theorem step_settling :
    Settling s op ((s.asked op).withLedger ((s.asked op).ledger.steps (op.ledgerOps s)))
      (s.step op) := by
  cases op with
  | evaluate => exact .of_works rfl (.refl _)
  | authorizeTransfer request now victim => exact authorizeTransfer_settling s request now victim
  | _ => exact step_settling_of_none s rfl

theorem asked_bookkeeping : Bookkeeping s (s.asked op) := by
  unfold asked
  split
  · exact .refl s
  · exact evaluate_bookkeeping s _ _ _

/- How an operation works on the ledger. -/
theorem step_ledger : Quietly (s.ledger.steps (op.ledgerOps s)) (s.step op).ledger := by
  have hAsked := (s.asked_bookkeeping op).incidental.quiet
  have hSettled := (s.step_settling op).ledger.mono Op.Settles.quiet
  cases op with
  | evaluate | authorizeTransfer => exact Works.trans hAsked hSettled
  | _ => exact hSettled

/- Only configuration changes what is durable. -/
theorem step_durable (hOp : ¬ op.Configures) : (s.step op).durable = s.durable :=
  ((s.step_settling op).durable.resolve_left hOp).trans
    (s.asked_bookkeeping op).incidental.durable

/- No operation changes which boot this is. -/
theorem step_boot :
    (s.step op).config = s.config ∧
      (s.step op).epoch = s.epoch ∧ (s.step op).incarnation = s.incarnation ∧
      (s.step op).bootCount = s.bootCount := by
  by_cases hOp : op.Configures
  · have hConfigured := step_configured s op hOp
    generalize s.step op = t at hConfigured ⊢
    cases hConfigured with
    | _ => exact ⟨rfl, rfl, rfl, rfl⟩
  · have hDurable := step_durable s op hOp
    exact ⟨congrArg DurableState.config hDurable, congrArg DurableState.epoch hDurable,
      congrArg DurableState.incarnation hDurable, congrArg DurableState.bootCount hDurable⟩

/- No boot changes the configuration. -/
theorem bootFrom_config {base : Coordinator} (mt : Generator)
    (document : PersistedCoordinatorState) : (base.bootFrom mt document).2.config = base.config :=
  (congrArg Coordinator.config (bootFrom_volatile mt base document) :)

theorem Transition.config {mt : Generator} {s t : Coordinator} {label : Label}
    (hTransition : Transition mt s label t) : t.config = s.config := by
  cases hTransition with
  | op op => exact (step_boot s op).1
  | bootFresh => rfl
  | reboot => exact bootFrom_config mt _
  | restart _ entropy epoch hBoot =>
    have hSame : ((create s.config entropy).bootFrom mt s.exportState).2.config = s.config :=
      bootFrom_config mt _
    rw [hBoot] at hSame
    exact hSame

/- A run stays with the configuration it started from. -/
theorem Reachable.config {mt : Generator} {config : CoordinatorConfig} {s : Coordinator}
    (hReachable : Reachable mt config s) : s.config = config := by
  rcases hReachable with ⟨start, labels, hStarted, hRun⟩
  apply hRun.invariant (fun state => state.config = config)
  · intro state label next hStep hConfig
    rw [hStep.config, hConfig]
  · rcases hStarted with ⟨entropy, rfl⟩
    rfl

end Coordinator

end TrafficFabric
