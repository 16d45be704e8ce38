import TrafficFabric.Coordinator.TransferLifecycle

/-
  The counters of transfers against the transfers.

  Every authorization, completion and refusal is counted
  when it is made, also of a transfer that was counted
  before, and a request that ends settles its transfers
  without counting them. The counters are exact in runs in
  which neither happens.
-/

namespace TrafficFabric

open List Option TransferState

structure TransferCounts where
  started : UInt64
  completed : UInt64
  refused : UInt64

/- Count a transfer that has moved to a state. -/
def TransferCounts.next (counts : TransferCounts) : TransferState → TransferCounts
| .authorized => { counts with started := counts.started + 1 }
| .completed => { counts with completed := counts.completed + 1 }
| .refused | .abandoned => { counts with refused := counts.refused + 1 }
| _ => counts

def TransferState.isCompleted (state : TransferState) : Bool :=
  state = .completed

def TransferState.isClosed (state : TransferState) : Bool :=
  state = .refused || state = .abandoned

/- Operations that count a transfer. -/
def Op.Counts : Op → Prop
| .authorizeTransfer _ _ _ | .completeTransfer _ _ | .abandonTransfer _ _ => True
| _ => False

namespace Coordinator

def transferCounts (s : Coordinator) : TransferCounts where
  started := s.transfersStarted
  completed := s.transfersCompleted
  refused := s.transfersRefused

/- How many transfers are in a state of a kind. -/
def numberOf (s : Coordinator) (kind : TransferState → Bool) : Nat :=
  s.transfers.total (fun transfer => (kind transfer.state).toNat)

/- The transfer an operation authorizes. -/
def grantee (s : Coordinator) : Op → Option StateTransferId
| .authorizeTransfer request now victim =>
  match (s.authorizeTransfer request now victim).1 with
  | .error _ => none
  | .ok authorization => if authorization.authorized then some authorization.transfer else none
| _ => none

/- The transfers authorized along a list of operations. -/
def grantees (s : Coordinator) : List Op → List StateTransferId
| [] => []
| op :: rest =>
  match s.grantee op with
  | none => (s.step op).grantees rest
  | some id => id :: (s.step op).grantees rest

/- No transfer is counted twice or settled uncounted. -/
structure CountsOnce (s : Coordinator) (label : Label) : Prop where
  first :
    ∀ request now victim id, label = .op (.authorizeTransfer request now victim) →
      Authorizes id request → s.transferState id = some .registered
  leaves : s.LeavesEnded label
  alone :
    ∀ op request id state, label = .op op →
      op.ends = some request → id ∈ s.transfersByRequest.equalRange request →
      s.transferState id = some state → state.isTerminal = true

variable {mt : Generator} {s t start : Coordinator} {op : Op} {id : StateTransferId}
variable {granted : List StateTransferId}
variable (kind : TransferState → Bool) (state : TransferState)

---
-- Counters
---

theorem releaseVictims_transferCounts (s : Coordinator) (victims : List FlowId) :
    (s.releaseVictims victims).transferCounts = s.transferCounts := by
  unfold releaseVictims
  induction victims generalizing s with
  | nil => rfl
  | cons victim rest ih =>
    rw [foldl_cons, ih]
    unfold releaseVictim
    split
    · rfl
    · rw [releaseFlowLocked_eq]
      rfl

theorem releaseTransferFlows_transferCounts (s : Coordinator) (id : StateTransferId) :
    (s.releaseTransferFlows id).transferCounts = s.transferCounts := by
  unfold releaseTransferFlows
  split
  · rfl
  · exact releaseVictims_transferCounts s _

theorem releaseRequestFlows_transferCounts (s : Coordinator) (request : RequestId) :
    (s.releaseRequestFlows request).transferCounts = s.transferCounts := by
  unfold releaseRequestFlows
  split
  · rfl
  · exact releaseVictims_transferCounts _ _

theorem closeTransfer_transferCounts (s : Coordinator) (id : StateTransferId)
    (state : TransferState) (reason : ReasonCode) :
    (s.closeTransfer id state reason).transferCounts = s.transferCounts.next .refused := by
  have hReleased := releaseTransferFlows_transferCounts (s.settleTransfer id state reason) id
  exact congrArg (TransferCounts.next · .refused) hReleased

theorem evaluate_transferCounts (s : Coordinator) (request : TrafficRequest) (now : Int64)
    (victim : Nat) : (s.evaluate request now victim).2.transferCounts = s.transferCounts := by
  rcases evaluate_built s request now victim with ⟨w, traffic, hBuilt, -⟩
  rw [hBuilt]
  unfold recordDecision
  split
  · rfl
  · rfl

theorem openFlow_transferCounts (s : Coordinator) (decision : Decision) (bytes : UInt64)
    (now : Int64) : (s.openFlow decision bytes now).2.transferCounts = s.transferCounts := by
  have hOpening := openFlow_opening s decision bytes now
  generalize s.openFlow decision bytes now = answer at hOpening ⊢
  cases hOpening with
  | _ => rfl

/- The counters change with three operations only. -/
theorem step_transferCounts (s : Coordinator) (hOp : ¬ op.Counts) :
    (s.step op).transferCounts = s.transferCounts := by
  have hOutcome := step_outcome s op
  generalize s.step op = t at hOutcome ⊢
  cases hOutcome with
  | configured _ _ _ hConfigured =>
    cases hConfigured with
    | _ => rfl
  | cancelled request | failed request | replaced request =>
    exact releaseRequestFlows_transferCounts _ request
  | published publication now outcome =>
    rcases retainCompletion_frame _ publication.request outcome with ⟨completions, order, hRetained⟩
    rw [hRetained]
    exact releaseRequestFlows_transferCounts _ publication.request
  | registered registration now model state hCheck =>
    unfold registerTransfer
    rw [hCheck]
    rfl
  | authorizing | completing | abandoned => exact (hOp trivial).elim
  | evaluated request now victim => exact evaluate_transferCounts s request now victim
  | opening decision bytes now => exact openFlow_transferCounts s decision bytes now
  | released id flow =>
    rw [releaseFlowLocked_eq]
    rfl
  | _ => rfl

---
-- Steps
---

/-
  What an operation that counts once does: nothing that is
  counted, or one live transfer moves and is counted.
-/
inductive Counting (s : Coordinator) (op : Op) (t : Coordinator) : Prop
| quiet (hCounts : t.transferCounts = s.transferCounts) (hNone : s.grantee op = none)
    (hSame :
      ∀ kind : TransferState → Bool, (∀ state, kind state = true → state.isTerminal = true) →
        ∀ id, (t.transferState id).any kind = (s.transferState id).any kind) :
    Counting s op t
| moved (id : StateTransferId) (before after : TransferState)
    (hBefore : s.transferState id = some before) (hLive : before.isTerminal = false)
    (hAfter : t.transferState id = some after) (hMoved : after ≠ .registered)
    (hRest : ∀ other, other ≠ id → t.transferState other = s.transferState other)
    (hCounts : t.transferCounts = s.transferCounts.next after)
    (hGranted : s.grantee op = if after = .authorized then some id else none)
    (hFirst : after = .authorized → before = .registered) :
    Counting s op t

theorem Counting.of_same (hNone : s.grantee op = none) : Counting s op s :=
  .quiet rfl hNone (fun _ _ _ => rfl)

theorem transferState_of_unbound (hUnbound : t.unboundTransfer id = s.unboundTransfer id) :
    t.transferState id = s.transferState id := by
  rw [transferState_eq_unbound, hUnbound, ← transferState_eq_unbound]

theorem transferState_of_map {change : TransferRecord → TransferRecord}
    {before after : TransferState}
    (hUnbound : t.unboundTransfer id = (s.unboundTransfer id).map change)
    (hChange : ∀ old, (change old).state = after) (hBefore : s.transferState id = some before) :
    t.transferState id = some after := by
  rw [transferState_eq_unbound] at hBefore ⊢
  rcases map_eq_some_iff.mp hBefore with ⟨old, hOld, -⟩
  rw [hUnbound, hOld, map_some, map_some, hChange]

theorem authorizeTransfer_counting (request : TrafficRequest) (now : Int64) (victim : Nat)
    (hFirst : ∀ id, Authorizes id request → s.transferState id = some .registered) :
    Counting s (.authorizeTransfer request now victim)
      (s.authorizeTransfer request now victim).2 := by
  have hAuthorizing := authorizeTransfer_authorizing s request now victim
  have hDecided (id : StateTransferId) := evaluate_unbound s id request now victim
  have hCounts := evaluate_transferCounts s request now victim
  have hKnown (subject : TrafficSubject) (hSubject : request.subject = some subject)
      (hKind : subject.kind = .transfer)
      (hUnknown : (s.evaluate request now victim).2.transfers.lookup subject.transfer = none) :
      False := by
    have hState := hFirst subject.transfer ⟨subject, hSubject, hKind, rfl⟩
    rw [← transferState_of_unbound (hDecided subject.transfer), transferState, hUnknown] at hState
    cases hState
  generalize hAnswer : s.authorizeTransfer request now victim = answer at hAuthorizing ⊢
  cases hAuthorizing with
  | misaddressed => exact .of_same (by rw [grantee, hAnswer])
  | unknown subject hSubject hKind _ hUnknown | missing subject _ hSubject hKind _ hUnknown =>
    exact (hKnown subject hSubject hKind hUnknown).elim
  | denied subject transfer hSubject hKind hDenied =>
    have hBefore := hFirst subject.transfer ⟨subject, hSubject, hKind, rfl⟩
    refine .moved subject.transfer .registered .refused hBefore rfl ?_ (by simp) ?_ ?_ ?_ (by simp)
    · have hClosed := closeTransfer_settled (s.evaluate request now victim).2 subject.transfer
        .refused (s.evaluate request now victim).1.reason
      rw [hDecided] at hClosed
      exact transferState_of_map hClosed (fun _ => rfl) hBefore
    · intro other hOther
      exact transferState_of_unbound ((closeTransfer_unbound _ other hOther _ _).trans
        (hDecided other))
    · rw [closeTransfer_transferCounts, hCounts]
    · simp [grantee, hAnswer, authorizationOf, hDenied]
  | declined subject transfer status hSubject hKind =>
    have hBefore := hFirst subject.transfer ⟨subject, hSubject, hKind, rfl⟩
    refine .moved subject.transfer .registered .refused hBefore rfl ?_ (by simp) ?_ ?_ ?_ (by simp)
    · have hSettled := settleTransfer_settled (s.evaluate request now victim).2 subject.transfer
        .refused .rejectedFlowLimit
      rw [hDecided] at hSettled
      exact transferState_of_map hSettled (fun _ => rfl) hBefore
    · intro other hOther
      exact transferState_of_unbound ((settleTransfer_unbound _ other hOther _ _).trans
        (hDecided other))
    · exact congrArg (TransferCounts.next · .refused) hCounts
    · simp [grantee, hAnswer]
  | granted subject transfer flow hSubject hKind hPermits =>
    have hBefore := hFirst subject.transfer ⟨subject, hSubject, hKind, rfl⟩
    have hOpened (other : StateTransferId) :=
      (openFlow_unbound (s.evaluate request now victim).2 other (s.evaluate request now victim).1
        transfer.payloadBytes now).trans (hDecided other)
    refine .moved subject.transfer .registered .authorized hBefore rfl ?_ (by simp) ?_ ?_ ?_
      (fun _ => rfl)
    · have hMarked := markAuthorized_unbound
        ((s.evaluate request now victim).2.openFlow (s.evaluate request now victim).1
          transfer.payloadBytes now).2 subject.transfer flow
      rw [hOpened] at hMarked
      exact transferState_of_map hMarked (fun _ => rfl) hBefore
    · intro other hOther
      refine transferState_of_unbound (Eq.trans ?_ (hOpened other))
      exact map_unbound_modify other _ subject.transfer _ (fun hSame => (hOther hSame).elim)
    · exact congrArg (TransferCounts.next · .authorized)
        ((openFlow_transferCounts _ _ _ now).trans hCounts)
    · simp [grantee, hAnswer, authorizationOf, hPermits]

theorem completeTransfer_counting (id : StateTransferId) (bytes : UInt64) :
    Counting s (.completeTransfer id bytes) (s.completeTransfer id bytes).2 := by
  have hCompleting := completeTransfer_completing s id bytes
  generalize s.completeTransfer id bytes = answer at hCompleting ⊢
  cases hCompleting with
  | refused => exact .of_same rfl
  | mismatched transfer status hTransfer hUnderWay =>
    have hBefore : s.transferState id = some transfer.state := by
      rw [transferState, hTransfer, map_some]
    refine .moved id _ .refused hBefore (TransferRecord.live_of_underWay hUnderWay) ?_ (by simp)
      ?_ ?_ rfl (by simp)
    · exact transferState_of_map (closeTransfer_settled s id _ _) (fun _ => rfl) hBefore
    · intro other hOther
      exact transferState_of_unbound (closeTransfer_unbound s other hOther _ _)
    · exact closeTransfer_transferCounts s id _ _
  | completed transfer hTransfer hUnderWay =>
    have hReleased (other : StateTransferId) :=
      releaseTransferFlows_unbound (s.markCompleted id transfer bytes) other id
    refine .moved id transfer.state .completed ?_ (TransferRecord.live_of_underWay hUnderWay) ?_
      (by simp) ?_ ?_ rfl (by simp)
    · rw [transferState, hTransfer, map_some]
    · refine (transferState_of_unbound (hReleased id)).trans ?_
      rw [transferState, markCompleted, AList.lookup_insert]
      rfl
    · intro other hOther
      refine (transferState_of_unbound (hReleased other)).trans ?_
      rw [transferState, markCompleted, AList.lookup_insert_if, if_neg hOther]
      rfl
    · exact congrArg (TransferCounts.next · .completed)
        (releaseTransferFlows_transferCounts (s.markCompleted id transfer bytes) id)

theorem abandonTransfer_counting (id : StateTransferId) (reason : ReasonCode)
    (hLeaves : s.LeavesEnded (.op (.abandonTransfer id reason))) :
    Counting s (.abandonTransfer id reason) (s.abandonTransfer id reason).2 := by
  unfold abandonTransfer
  split
  · exact .of_same rfl
  · rename_i transfer hTransfer
    split_ifs with hDone
    · exact .of_same rfl
    · have hBefore : s.transferState id = some transfer.state := by
        rw [transferState, hTransfer, map_some]
      refine .moved id _ .abandoned hBefore ?_ ?_ (by simp) ?_ ?_ rfl (by simp)
      · by_contra hEnded
        exact hLeaves _ id transfer rfl hTransfer (Bool.of_not_eq_false hEnded) ⟨rfl, hDone⟩
      · exact transferState_of_map (closeTransfer_settled s id .abandoned reason) (fun _ => rfl)
          hBefore
      · intro other hOther
        exact transferState_of_unbound (closeTransfer_unbound s other hOther .abandoned reason)
      · exact closeTransfer_transferCounts s id .abandoned reason

/- Other operations move no transfer to a final state. -/
theorem TransferChange.final {before after : Option TransferRecord} {kind : TransferState → Bool}
    (hChange : TransferChange s id op before after) (hOp : ¬ op.Counts)
    (hAlone :
      ∀ request old, op.ends = some request → id ∈ s.transfersByRequest.equalRange request →
        before = some old → old.state.isTerminal = true)
    (hKind : ∀ state, kind state = true → state.isTerminal = true) :
    (after.map TransferRecord.state).any kind = (before.map TransferRecord.state).any kind := by
  have hLive {state : TransferState} (hState : state.isTerminal = false) : kind state = false := by
    by_contra hTrue
    rw [hKind state (Bool.of_not_eq_false hTrue)] at hState
    cases hState
  cases hChange with
  | same => rfl
  | registered => exact hLive rfl
  | started _ old hState =>
    simp only [map_some, any_some, hState]
    rw [hLive rfl, hLive rfl]
  | granted | refused | completed | mismatched | abandoned => exact (hOp trivial).elim
  | ended _ request old hEnds hOwned =>
    rw [TransferRecord.abandonOwned, if_pos (hAlone request old hEnds hOwned rfl)]

theorem step_counting (hOnce : s.CountsOnce (.op op)) : Counting s op (s.step op) := by
  by_cases hOp : op.Counts
  · cases op with
    | authorizeTransfer request now victim =>
      exact authorizeTransfer_counting request now victim (hOnce.first request now victim · rfl)
    | completeTransfer id bytes => exact completeTransfer_counting id bytes
    | abandonTransfer id reason => exact abandonTransfer_counting id reason hOnce.leaves
    | _ => exact hOp.elim
  · refine .quiet (step_transferCounts s hOp) ?_ ?_
    · cases op with
      | authorizeTransfer => exact (hOp trivial).elim
      | _ => rfl
    · intro kind hKind id
      rw [transferState_eq_unbound, transferState_eq_unbound]
      refine (step_transferChange s id op).final hOp ?_ hKind
      intro request old hEnds hOwned hOld
      refine hOnce.alone op request id old.state rfl hEnds hOwned ?_
      rw [transferState_eq_unbound, hOld, map_some]

/- A transfer that was authorized is never registered again. -/
theorem step_begun {state : TransferState} (hState : s.transferState id = some state)
    (hBegun : state ≠ .registered) :
    ∃ next, (s.step op).transferState id = some next ∧ next ≠ .registered := by
  have hChange := step_transferChange s id op
  rw [transferState_eq_unbound] at hState ⊢
  rcases map_eq_some_iff.mp hState with ⟨old, hOld, rfl⟩
  rw [hOld] at hChange
  generalize (s.step op).unboundTransfer id = after at hChange ⊢
  cases hChange with
  | same => exact ⟨_, rfl, hBegun⟩
  | ended =>
    refine ⟨_, rfl, ?_⟩
    unfold TransferRecord.abandonOwned
    split
    · exact hBegun
    · simp
  | _ => exact ⟨_, rfl, by rintro ⟨⟩⟩

---
-- Runs
---

theorem elim_transferState (s : Coordinator) (id : StateTransferId) :
    (s.transfers.lookup id).elim 0 (fun transfer => (kind transfer.state).toNat) =
      ((s.transferState id).any kind).toNat := by
  unfold transferState
  cases s.transfers.lookup id with
  | _ => rfl

theorem numberOf_change
    (hRest :
      ∀ other, other ≠ id → (t.transferState other).any kind = (s.transferState other).any kind) :
    t.numberOf kind + ((s.transferState id).any kind).toNat =
      s.numberOf kind + ((t.transferState id).any kind).toNat := by
  rw [← elim_transferState, ← elim_transferState]
  refine AList.total_change _ ?_
  intro other hOther
  rw [elim_transferState, elim_transferState, hRest other hOther]

/- The counters tell what was authorized and has ended. -/
structure Tallied (granted : List StateTransferId) (s : Coordinator) : Prop where
  once : granted.Nodup
  begun : ∀ id ∈ granted, ∃ state, s.transferState id = some state ∧ state ≠ .registered
  started : s.transfersStarted = UInt64.ofNat granted.length
  completed : s.transfersCompleted = UInt64.ofNat (s.numberOf isCompleted)
  refused : s.transfersRefused = UInt64.ofNat (s.numberOf isClosed)

theorem isTerminal_of_isCompleted (hState : state.isCompleted = true) :
    state.isTerminal = true := by
  cases state with
  | completed => rfl
  | _ => cases hState

theorem isTerminal_of_isClosed (hState : state.isClosed = true) : state.isTerminal = true := by
  cases state with
  | refused | abandoned => rfl
  | _ => cases hState

theorem Tallied.step (hTallied : Tallied granted s) (hOnce : s.CountsOnce (.op op)) :
    Tallied (granted ++ (s.grantee op).toList) (s.step op) := by
  have hBegun (id : StateTransferId) (hId : id ∈ granted) :
      ∃ state, (s.step op).transferState id = some state ∧ state ≠ .registered := by
    rcases hTallied.begun id hId with ⟨state, hState, hMoved⟩
    exact step_begun hState hMoved
  cases step_counting hOnce with
  | quiet hCounts hNone hSame =>
    have hNumber (kind : TransferState → Bool)
        (hKind : ∀ state, kind state = true → state.isTerminal = true) :
        (s.step op).numberOf kind = s.numberOf kind := by
      have hChange := numberOf_change kind (fun other (_ : other ≠ .nil) => hSame kind hKind other)
      rw [hSame kind hKind] at hChange
      exact Nat.add_right_cancel hChange
    rw [hNone, toList_none, append_nil]
    refine ⟨hTallied.once, hBegun, ?_, ?_, ?_⟩
    · exact (congrArg TransferCounts.started hCounts).trans hTallied.started
    · rw [hNumber _ isTerminal_of_isCompleted, ← hTallied.completed]
      exact congrArg TransferCounts.completed hCounts
    · rw [hNumber _ isTerminal_of_isClosed, ← hTallied.refused]
      exact congrArg TransferCounts.refused hCounts
  | moved id before after hBefore hLive hAfter hMoved hRest hCounts hGranted hFirst =>
    have hNumber (kind : TransferState → Bool)
        (hKind : ∀ state, kind state = true → state.isTerminal = true) :
        (s.step op).numberOf kind = s.numberOf kind + (kind after).toNat := by
      have hChange := numberOf_change kind (fun other (hOther : other ≠ id) =>
        congrArg (Option.any kind) (hRest other hOther))
      have hNot : kind before = false := by
        by_contra hTrue
        rw [hKind before (Bool.of_not_eq_false hTrue)] at hLive
        cases hLive
      rw [hBefore, hAfter, any_some, any_some, hNot] at hChange
      exact hChange
    refine ⟨?_, ?_, ?_, ?_, ?_⟩
    · rw [hGranted]
      split
      · rename_i hAuthorized
        refine nodup_append.mpr ⟨hTallied.once, nodup_singleton id, ?_⟩
        rintro other hOther _ hId rfl
        rw [toList_some, mem_singleton] at hId
        rcases hTallied.begun other hOther with ⟨state, hState, hNew⟩
        rw [hId, hBefore, hFirst hAuthorized] at hState
        exact hNew (Option.some.inj hState).symm
      · rw [toList_none, append_nil]
        exact hTallied.once
    · intro other hOther
      rcases mem_append.mp hOther with hOld | hNew
      · exact hBegun other hOld
      · rw [hGranted, mem_toList] at hNew
        split at hNew
        · cases hNew
          exact ⟨after, hAfter, hMoved⟩
        · cases hNew
    · have hStarted : (s.step op).transfersStarted = _ := congrArg TransferCounts.started hCounts
      rw [hStarted, hGranted, length_append, UInt64.ofNat_add, ← hTallied.started]
      cases after with
      | _ => simp [TransferCounts.next, transferCounts]
    · have hCompleted : (s.step op).transfersCompleted = _ :=
        congrArg TransferCounts.completed hCounts
      rw [hCompleted, hNumber _ isTerminal_of_isCompleted, UInt64.ofNat_add, ← hTallied.completed]
      cases after with
      | _ => simp [TransferCounts.next, transferCounts, isCompleted]
    · have hRefused : (s.step op).transfersRefused = _ := congrArg TransferCounts.refused hCounts
      rw [hRefused, hNumber _ isTerminal_of_isClosed, UInt64.ofNat_add, ← hTallied.refused]
      cases after with
      | _ => simp [TransferCounts.next, transferCounts, isClosed]

theorem Tallied.steps (hTallied : Tallied granted s) (ops : List Op)
    (hRun : Run (Guarded CountsOnce (Transition mt)) s (ops.map Label.op) t) :
    Tallied (granted ++ s.grantees ops) t := by
  induction ops generalizing s granted with
  | nil =>
    cases hRun
    rw [grantees, append_nil]
    exact hTallied
  | cons op rest ih =>
    rcases hRun with _ | ⟨⟨hOnce, ⟨⟩⟩, hRest⟩
    have hLater := ih (hTallied.step hOnce) hRest
    unfold grantees
    cases hGrantee : s.grantee op with
    | none =>
      rw [hGrantee, toList_none, append_nil] at hLater
      exact hLater
    | some id =>
      rw [hGrantee, toList_some, append_assoc] at hLater
      exact hLater

theorem Booted.tallied (hBooted : Booted mt start) : Tallied [] start := by
  have hCleared : start.transferCounts = ⟨0, 0, 0⟩ ∧ start.transfers = ∅ := by
    rcases hBooted.volatile with ⟨base, hSame⟩
    exact ⟨(congrArg transferCounts hSame :), (congrArg Coordinator.transfers hSame :)⟩
  have hNumber (kind : TransferState → Bool) : start.numberOf kind = 0 := by
    rw [numberOf, hCleared.2, AList.total_empty]
  refine ⟨nodup_nil, by simp, ?_, ?_, ?_⟩
  · exact congrArg TransferCounts.started hCleared.1
  · rw [hNumber]
    exact congrArg TransferCounts.completed hCleared.1
  · rw [hNumber]
    exact congrArg TransferCounts.refused hCleared.1

/-
  Since the last boot, while nothing is counted twice or
  settled uncounted, the counters tell the transfers.
-/
theorem transfer_counts_exact (hBooted : Booted mt start) (ops : List Op)
    (hRun : Run (Guarded CountsOnce (Transition mt)) start (ops.map Label.op) s) :
    s.transfersStarted = UInt64.ofNat (start.grantees ops).dedup.length ∧
      s.transfersCompleted = UInt64.ofNat (s.numberOf isCompleted) ∧
      s.transfersRefused = UInt64.ofNat (s.numberOf isClosed) := by
  have hTallied := hBooted.tallied.steps ops hRun
  rw [nil_append] at hTallied
  rw [hTallied.once.dedup]
  exact ⟨hTallied.started, hTallied.completed, hTallied.refused⟩

/- Whether an operation is seen to count once. -/
def plainlyCounted (s : Coordinator) : Op → Bool
| .authorizeTransfer request _ _ =>
  request.subject.all (fun subject => s.transferState subject.transfer = some .registered)
| .abandonTransfer id _ => (s.transferState id).all (fun state => !state.isTerminal)
| op => op.ends.isNone

theorem countsOnce_of_plainlyCounted (s : Coordinator) (op : Op)
    (hPlain : s.plainlyCounted op = true) : s.CountsOnce (.op op) := by
  have hFirst (request : TrafficRequest) (now : Int64) (victim : Nat) (id : StateTransferId)
      (hOp : op = .authorizeTransfer request now victim) (hSubject : Authorizes id request) :
      s.transferState id = some .registered := by
    rcases hSubject with ⟨subject, hSubject, -, rfl⟩
    simpa [hOp, plainlyCounted, hSubject] using hPlain
  refine ⟨?_, ?_, ?_⟩
  · intro request now victim id hLabel
    exact hFirst request now victim id (Label.op.inj hLabel)
  · intro _ id transfer hLabel hTransfer hDone hAgain
    cases hLabel
    have hState : s.transferState id = some transfer.state := by
      rw [transferState, hTransfer, map_some]
    cases op with
    | authorizeTransfer request now victim =>
      rw [hFirst request now victim id rfl hAgain] at hState
      rw [← Option.some.inj hState] at hDone
      cases hDone
    | abandonTransfer other reason =>
      rcases hAgain with ⟨rfl, -⟩
      simp [plainlyCounted, hState, hDone] at hPlain
    | _ => exact hAgain
  · intro _ request id state hLabel hEnds
    cases hLabel
    cases op with
    | cancelRequest | failAttempt | replaceAttempt | publishCompletion => cases hPlain
    | _ => cases hEnds

/- One transfer completes and another is abandoned. -/
def settledOps : List Op :=
  registeredOps ownedRegistration ++
    [ .registerTransfer { ownedRegistration with id := ⟨0, 10⟩ } 4,
      .authorizeTransfer ownedTraffic 5 0,
      .completeTransfer ⟨0, 9⟩ ownedRegistration.payloadBytes,
      .abandonTransfer ⟨0, 10⟩ .cancelled ]

theorem transfer_counts_exact_settled :
    let s := sampleStart.steps settledOps
    (s.transfersStarted, s.transfersCompleted, s.transfersRefused) = (1, 1, 1) ∧
      s.transfersStarted = UInt64.ofNat (sampleStart.grantees settledOps).dedup.length ∧
      s.transfersCompleted = UInt64.ofNat (s.numberOf isCompleted) ∧
      s.transfersRefused = UInt64.ofNat (s.numberOf isClosed) := by
  refine ⟨by decide, ?_⟩
  exact transfer_counts_exact (.fresh _) settledOps
    (run_passes sampleGenerator plainlyCounted countsOnce_of_plainlyCounted sampleStart settledOps
      (by decide))

/-
  An authorization and an abandonment made twice count twice,
  and a transfer ended with its owner is not counted.
-/
theorem transfer_counts_inexact :
    let s := sampleStart.steps (registeredOps ownedRegistration)
    let authorizations : List Op :=
      [.authorizeTransfer ownedTraffic 5 0, .authorizeTransfer ownedTraffic 6 0]
    let abandoned := s.steps
      [.abandonTransfer ⟨0, 9⟩ .cancelled, .abandonTransfer ⟨0, 9⟩ .cancelled]
    let ended := s.step (.cancelRequest ⟨0, 1⟩ .cancelled 5)
    Reachable sampleGenerator {} s ∧
      (s.steps authorizations).transfersStarted = 2 ∧
      (sampleStart.grantees (registeredOps ownedRegistration ++ authorizations)).dedup = [⟨0, 9⟩] ∧
      (abandoned.transfersRefused, abandoned.numberOf isClosed) = (2, 1) ∧
      (ended.transfersRefused, ended.numberOf isClosed) = (0, 1) := by
  intro s authorizations abandoned ended
  exact ⟨sampleStart_reachable _, by decide, by decide, by decide, by decide⟩

end Coordinator

end TrafficFabric
