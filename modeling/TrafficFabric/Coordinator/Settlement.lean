import TrafficFabric.Coordinator.Custody

/-
  What becomes of a transfer apart from its flow. It is
  changed by its own operations and by those that end or
  replace the attempt of the request it was registered
  under.

  Main declarations:
    * `Coordinator.transferState`
    * `Coordinator.unboundTransfer`
    * `Coordinator.step_transferChange`
    * `Coordinator.step_transferState_of_none`
-/

---
-- States
---

namespace TrafficFabric

open AList Option TransferRecord

/- A transfer apart from the flow bound to it. -/
def TransferRecord.unbound (transfer : TransferRecord) : TransferRecord :=
  { transfer with flow := .nil }

namespace Coordinator

def transferState (s : Coordinator) (id : StateTransferId) : Option TransferState :=
  (s.transfers.lookup id).map state

/- What is held of a transfer apart from its flow. -/
def unboundTransfer (s : Coordinator) (id : StateTransferId) : Option TransferRecord :=
  (s.transfers.lookup id).map unbound

variable (s : Coordinator) (id : StateTransferId)
variable {t : Coordinator} {other : StateTransferId}

theorem unboundTransfer_of_lookup {s : Coordinator} {id : StateTransferId}
    {transfer : TransferRecord} (hTransfer : s.transfers.lookup id = some transfer) :
    s.unboundTransfer id = some transfer.unbound := by
  unfold unboundTransfer
  rw [hTransfer]
  rfl

theorem transferState_eq_unbound : s.transferState id = (s.unboundTransfer id).map state := by
  unfold transferState unboundTransfer
  rw [map_map]
  rfl

/- Rewriting a transfer and nothing but its flow. -/
theorem map_unbound_modify (table : Table StateTransferId TransferRecord) (other : StateTransferId)
    (f : TransferRecord → TransferRecord)
    (hUnbound : id = other → ∀ transfer, (f transfer).unbound = transfer.unbound) :
    ((table.modify other f).lookup id).map unbound = (table.lookup id).map unbound := by
  rw [lookup_modify]
  split
  · rename_i hSame
    cases table.lookup id with
    | none => rfl
    | some transfer =>
      simp only [map_some]
      rw [hUnbound hSame]
  · rfl

theorem Releases.unbound {s : Coordinator} {settles : StateTransferId → Prop}
    (hReleases : Releases settles s t) (hOther : ¬ settles id) :
    t.unboundTransfer id = s.unboundTransfer id := by
  induction hReleases with
  | refl => rfl
  | tail _ hRelease ih =>
    refine Eq.trans ?_ ih
    unfold unboundTransfer
    cases hRelease with
    | released _ flow =>
      rw [releaseFlowLocked_eq]
      split
      · rfl
      · apply map_unbound_modify
        intro _ transfer
        split
        · rfl
        · rfl
    | settled other _ _ hSettles =>
      rw [lookup_insert_if, if_neg ?_]
      rintro rfl
      exact hOther hSettles
    | counted => rfl

theorem Releases.unbound_of_none {s : Coordinator} (hReleases : Releases (fun _ => False) s t) :
    t.unboundTransfer id = s.unboundTransfer id :=
  hReleases.unbound id not_false

theorem releaseVictims_unbound (victims : List FlowId) :
    (s.releaseVictims victims).unboundTransfer id = s.unboundTransfer id :=
  Releases.unbound_of_none id (releaseVictims_releases s victims)

theorem releaseTransferFlows_unbound (transfer : StateTransferId) :
    (s.releaseTransferFlows transfer).unboundTransfer id = s.unboundTransfer id :=
  Releases.unbound_of_none id (releaseTransferFlows_releases s transfer)

theorem settleTransfer_unbound (hOther : id ≠ other) (state : TransferState) (reason : ReasonCode) :
    (s.settleTransfer other state reason).unboundTransfer id = s.unboundTransfer id :=
  map_unbound_modify id s.transfers other _ (fun hSame => (hOther hSame).elim)

theorem closeTransfer_unbound (hOther : id ≠ other) (state : TransferState) (reason : ReasonCode) :
    (s.closeTransfer other state reason).unboundTransfer id = s.unboundTransfer id :=
  (releaseTransferFlows_unbound
    (s.settleTransfer other state reason) id other).trans
      (settleTransfer_unbound s id hOther state reason)

/- Opening a flow leaves every state as it is. -/
theorem openFlow_unbound (decision : Decision) (bytes : UInt64) (now : Int64) :
    (s.openFlow decision bytes now).2.unboundTransfer id = s.unboundTransfer id := by
  have hOpening := openFlow_opening s decision bytes now
  generalize s.openFlow decision bytes now = answer at hOpening ⊢
  cases hOpening with
  | carried transfer _ _ hTransfer =>
    unfold unboundTransfer
    change ((s.transfers.insert _ _).lookup id).map _ = _
    rw [lookup_insert_if]
    split
    · rename_i hSame
      rw [hSame, hTransfer]
      rfl
    · rfl
  | _ => rfl

theorem evaluate_transfers (request : TrafficRequest) (now : Int64) (victim : Nat) :
    (s.evaluate request now victim).2.transfers = s.transfers :=
  congrArg Carriage.transfers (evaluate_bookkeeping s request now victim).carriage

theorem unbound_of_carriage {s : Coordinator} (hCarriage : t.carriage = s.carriage) :
    t.unboundTransfer id = s.unboundTransfer id := by
  have hTransfers := congrArg Carriage.transfers hCarriage
  change t.transfers = s.transfers at hTransfers
  unfold unboundTransfer
  rw [hTransfers]

end Coordinator

---
-- Changes Of A Transfer
---

namespace TransferRecord

def settled (transfer : TransferRecord) (state : TransferState) (reason : ReasonCode) :
    TransferRecord :=
  { transfer with
    state
    terminalReason := reason }

/- The transfer after its bytes were verified. -/
def completed (transfer : TransferRecord) (bytes : UInt64) : TransferRecord :=
  { transfer with
    verifiedBytes := bytes
    state := .completed
    terminalReason := .committedCompletion }

end TransferRecord

/- The request whose transfers the operation may end. -/
def Op.ends : Op → Option RequestId
| .cancelRequest request _ _ | .failAttempt request _ _ _
| .replaceAttempt request _ _ _ _ => some request
| .publishCompletion publication _ => some publication.request
| _ => none

namespace Coordinator

def Authorizes (id : StateTransferId) (request : TrafficRequest) : Prop :=
  ∃ subject, request.subject = some subject ∧ subject.kind = .transfer ∧ subject.transfer = id

/- The authorization is given with an open flow. -/
def Grants (s : Coordinator) (request : TrafficRequest) (now : Int64) (victim : Nat) : Prop :=
  ∃ authorization,
    (s.authorizeTransfer request now victim).1 = .ok authorization ∧ authorization.authorized = true

/- What one operation does to a transfer but for its flow. -/
inductive TransferChange (s : Coordinator) (id : StateTransferId) :
    Op → Option TransferRecord → Option TransferRecord → Prop
| same (op : Op) (held : Option TransferRecord) : TransferChange s id op held held
| registered (registration : TransferRegistration) (now : Int64) (model : ModelGeneration)
    (state : StateGeneration) (hId : registration.id = id)
    (hCheck : s.checkRegistration registration = .ok (model, state)) :
    TransferChange s id (.registerTransfer registration now)
      none (some (registration.record model state now))
| granted (request : TrafficRequest) (now : Int64) (victim : Nat) (old : TransferRecord)
    (hSubject : Authorizes id request)
    (hPermits : (s.evaluate request now victim).1.permitsTraffic = true)
    (hGrants : s.Grants request now victim) :
    TransferChange s id (.authorizeTransfer request now victim) (some old)
      (some { old with state := .authorized })
| refused (request : TrafficRequest) (now : Int64) (victim : Nat) (reason : ReasonCode)
    (old : TransferRecord) (hSubject : Authorizes id request)
    (hDenies : ¬ s.Grants request now victim) :
    TransferChange s id (.authorizeTransfer request now victim) (some old)
      (some (old.settled .refused reason))
| started (authorization : TransferAuthorization) (old : TransferRecord)
    (hState : old.state = .authorized) :
    TransferChange s id (.startTransfer id authorization)
      (some old) (some { old with state := .inProgress })
| completed (bytes : UInt64) (old : TransferRecord) (hState : old.isUnderWay = true)
    (hOk : (s.completeTransfer id bytes).1 = .ok ())
    (hVerified : old.requiredIntegrity = .checksumAndVerify → bytes = old.payloadBytes)
    (hFits : bytes ≤ old.payloadBytes) :
    TransferChange s id (.completeTransfer id bytes) (some old) (some (old.completed bytes))
| mismatched (bytes : UInt64) (old : TransferRecord) (hState : old.isUnderWay = true)
    (hFailed : (s.completeTransfer id bytes).1 ≠ .ok ()) :
    TransferChange s id (.completeTransfer id bytes) (some old)
      (some (old.settled .refused .rejectedIntegrityUnavailable))
| abandoned (reason : ReasonCode) (old : TransferRecord) (hState : old.state ≠ .completed) :
    TransferChange s id (.abandonTransfer id reason)
      (some old) (some (old.settled .abandoned reason))
| ended (op : Op) (request : RequestId) (old : TransferRecord) (hOp : op.ends = some request)
    (hOwned : id ∈ s.transfersByRequest.equalRange request) :
    TransferChange s id op (some old) (some old.abandonOwned)

variable {s : Coordinator} {id : StateTransferId}
variable (transfer : TransferRecord)

theorem abandonOwned_unbound : transfer.abandonOwned.unbound = transfer.unbound.abandonOwned := by
  unfold abandonOwned unbound
  split
  · rfl
  · rfl

theorem abandonOwned_twice : transfer.abandonOwned.abandonOwned = transfer.abandonOwned := by
  rw [abandonOwned, if_pos (abandonOwned_keeps transfer).2.2]

/- A transfer is ended with its owner or left alone. -/
theorem releaseRequestFlows_ended (s : Coordinator) (id : StateTransferId) (request : RequestId) :
    (s.releaseRequestFlows request).unboundTransfer id = s.unboundTransfer id ∨
      (s.releaseRequestFlows request).unboundTransfer id =
        (s.unboundTransfer id).map abandonOwned := by
  have hFold (ids : List StateTransferId) (table : Table StateTransferId TransferRecord) :
      let ended :=
        ((ids.foldl (fun transfers id => transfers.modify id abandonOwned)
          table).lookup id).map unbound
      ended = (table.lookup id).map unbound ∨
        ended = ((table.lookup id).map unbound).map abandonOwned := by
    induction ids generalizing table with
    | nil => exact .inl rfl
    | cons first rest ih =>
      have hOne :
          ((table.modify first abandonOwned).lookup id).map unbound =
            (table.lookup id).map unbound ∨
          ((table.modify first abandonOwned).lookup id).map unbound =
            ((table.lookup id).map unbound).map abandonOwned := by
        rw [lookup_modify]
        split
        · refine .inr ?_
          cases table.lookup id with
          | none => rfl
          | some transfer => exact congrArg some (abandonOwned_unbound transfer)
        · exact .inl rfl
      have hRest := ih (table.modify first abandonOwned)
      simp only [List.foldl_cons] at hRest ⊢
      rcases hOne with hOne | hOne
      · rw [hOne] at hRest
        exact hRest
      · rw [hOne] at hRest
        refine .inr ?_
        rcases hRest with hRest | hRest
        · exact hRest
        · rw [hRest]
          cases table.lookup id with
          | none => rfl
          | some transfer => exact congrArg some (abandonOwned_twice _)
  unfold releaseRequestFlows
  split
  · exact .inl rfl
  · rw [releaseVictims_unbound]
    exact hFold _ s.transfers

---
-- Steps Of A Transfer
---

theorem settleTransfer_settled
    (s : Coordinator) (id : StateTransferId) (state : TransferState) (reason : ReasonCode) :
    (s.settleTransfer id state reason).unboundTransfer id =
      (s.unboundTransfer id).map (fun old => old.settled state reason) := by
  unfold unboundTransfer settleTransfer
  rw [lookup_modify, if_pos rfl, map_map, map_map]
  rfl

theorem closeTransfer_settled
    (s : Coordinator) (id : StateTransferId) (state : TransferState) (reason : ReasonCode) :
    (s.closeTransfer id state reason).unboundTransfer id =
      (s.unboundTransfer id).map (fun old => old.settled state reason) :=
  (releaseTransferFlows_unbound
    (s.settleTransfer id state reason) id id).trans (settleTransfer_settled s id state reason)

theorem evaluate_unbound (s : Coordinator) (id : StateTransferId) (request : TrafficRequest)
    (now : Int64) (victim : Nat) :
    (s.evaluate request now victim).2.unboundTransfer id = s.unboundTransfer id := by
  unfold unboundTransfer
  rw [evaluate_transfers]

namespace TransferChange

variable {op : Op} {after : Option TransferRecord}

theorem of_same (hSame : after = s.unboundTransfer id) :
    TransferChange s id op (s.unboundTransfer id) after := by
  rw [hSame]
  exact .same _ _

/- A transfer that is held is changed, others are not. -/
theorem of_map {change : TransferRecord → TransferRecord}
    (hAfter : after = (s.unboundTransfer id).map change)
    (hChange :
      ∀ old, s.unboundTransfer id = some old →
        TransferChange s id op (some old) (some (change old))) :
    TransferChange s id op (s.unboundTransfer id) after := by
  rw [hAfter]
  cases hHeld : s.unboundTransfer id with
  | none => exact .same _ _
  | some old => exact hChange old hHeld

end TransferChange

theorem releaseRequestFlows_change {base : Coordinator} {op : Op} {request : RequestId}
    (hOp : op.ends = some request) (hBase : base.carriage = s.carriage) :
    TransferChange s id op (s.unboundTransfer id)
      ((base.releaseRequestFlows request).unboundTransfer id) := by
  have hHeld := unbound_of_carriage id hBase
  have hOwned : base.transfersByRequest = s.transfersByRequest :=
    congrArg Carriage.transfersByRequest hBase
  by_cases hMem : id ∈ base.transfersByRequest.equalRange request
  · rcases releaseRequestFlows_ended base id request with hSame | hEnded
    · exact .of_same (hSame.trans hHeld)
    · rw [hHeld] at hEnded
      refine .of_map hEnded ?_
      intro old _
      rw [hOwned] at hMem
      exact .ended op request old hOp hMem
  · have hReleases := releaseRequestFlows_releases base request (fun _ hMem => hMem)
    exact .of_same ((hReleases.unbound id hMem).trans hHeld)

/- A permitted transfer that got its flow is authorized. -/
theorem markAuthorized_unbound (s : Coordinator) (id : StateTransferId) (flow : FlowId) :
    (s.markAuthorized id flow).unboundTransfer id =
      (s.unboundTransfer id).map (fun old => { old with state := .authorized }) := by
  unfold unboundTransfer markAuthorized
  rw [lookup_modify, if_pos rfl, map_map, map_map]
  rfl

theorem authorizeTransfer_change (request : TrafficRequest) (now : Int64) (victim : Nat) :
    TransferChange s id (.authorizeTransfer request now victim) (s.unboundTransfer id)
      ((s.authorizeTransfer request now victim).2.unboundTransfer id) := by
  have hAuthorizing := authorizeTransfer_authorizing s request now victim
  have hDecided := evaluate_unbound s id request now victim
  generalize hAnswer : s.authorizeTransfer request now victim = answer at hAuthorizing ⊢
  have hDenies {authorization : TransferAuthorization} (hFirst : answer.1 = .ok authorization)
      (hDenied : authorization.authorized = false) : ¬ s.Grants request now victim := by
    rintro ⟨other, hOther, hTrue⟩
    rw [hAnswer, hFirst] at hOther
    cases hOther
    rw [hDenied] at hTrue
    cases hTrue
  cases hAuthorizing with
  | misaddressed => exact .same _ _
  | unknown | missing => exact .of_same hDecided
  | denied subject transfer hSubject hKind hDenied =>
    by_cases hOther : id = subject.transfer
    · have hClosed := closeTransfer_settled (s.evaluate request now victim).2 id .refused
        (s.evaluate request now victim).1.reason
      rw [hDecided] at hClosed
      rw [← hOther]
      refine .of_map hClosed ?_
      intro old _
      exact .refused request now victim _ old ⟨subject, hSubject, hKind, hOther.symm⟩
        (hDenies rfl hDenied)
    · exact .of_same ((closeTransfer_unbound _ id hOther _ _).trans hDecided)
  | declined subject transfer status hSubject hKind =>
    by_cases hOther : id = subject.transfer
    · have hSettled := settleTransfer_settled (s.evaluate request now victim).2 id .refused
        .rejectedFlowLimit
      rw [hDecided] at hSettled
      rw [← hOther]
      refine .of_map hSettled ?_
      intro old _
      exact .refused request now victim _ old ⟨subject, hSubject, hKind, hOther.symm⟩
        (hDenies rfl rfl)
    · exact .of_same ((settleTransfer_unbound _ id hOther _ _).trans hDecided)
  | granted subject transfer flow hSubject hKind hPermits =>
    have hOpened :=
      (openFlow_unbound (s.evaluate request now victim).2 id (s.evaluate request now victim).1
        transfer.payloadBytes now).trans hDecided
    by_cases hOther : id = subject.transfer
    · have hMarked := markAuthorized_unbound
        ((s.evaluate request now victim).2.openFlow (s.evaluate request now victim).1
          transfer.payloadBytes now).2 id flow
      rw [hOpened] at hMarked
      rw [← hOther]
      refine .of_map hMarked ?_
      intro old _
      refine .granted request now victim old ⟨subject, hSubject, hKind, hOther.symm⟩ hPermits
        ⟨_, congrArg Prod.fst hAnswer, hPermits⟩
    · refine .of_same (Eq.trans ?_ hOpened)
      exact map_unbound_modify id _ subject.transfer _ (fun hSame => (hOther hSame).elim)

theorem completeTransfer_change (other : StateTransferId) (bytes : UInt64) :
    TransferChange s id (.completeTransfer other bytes) (s.unboundTransfer id)
      ((s.completeTransfer other bytes).2.unboundTransfer id) := by
  have hCompleting := completeTransfer_completing s other bytes
  generalize hAnswer : s.completeTransfer other bytes = answer at hCompleting ⊢
  cases hCompleting with
  | refused => exact .same _ _
  | mismatched transfer status hTransfer hUnderWay =>
    by_cases hOther : id = other
    · subst hOther
      rw [closeTransfer_settled, unboundTransfer_of_lookup hTransfer]
      refine .mismatched bytes transfer.unbound hUnderWay ?_
      rw [hAnswer]
      simp
    · exact .of_same (closeTransfer_unbound s id hOther _ _)
  | completed transfer hTransfer hUnderWay hRight =>
    have hReleased := releaseTransferFlows_unbound (s.markCompleted other transfer bytes) id other
    have hMarked : (s.markCompleted other transfer bytes).unboundTransfer id =
          if id = other then some (transfer.unbound.completed bytes)
          else s.unboundTransfer id := by
      unfold unboundTransfer markCompleted
      rw [lookup_insert_if]
      split
      · rfl
      · rfl
    rw [hMarked] at hReleased
    by_cases hOther : id = other
    · subst hOther
      rw [if_pos rfl] at hReleased
      change TransferChange s id _ _ ((Coordinator.releaseTransferFlows _ id).unboundTransfer id)
      rw [hReleased, unboundTransfer_of_lookup hTransfer]
      unfold Mismatches at hRight
      rw [not_or] at hRight
      refine .completed bytes transfer.unbound hUnderWay (congrArg Prod.fst hAnswer) ?_ ?_
      · intro hVerify
        by_contra hDiffer
        exact hRight.1 ⟨hVerify, hDiffer⟩
      · exact UInt64.not_lt.mp hRight.2
    · rw [if_neg hOther] at hReleased
      exact .of_same hReleased

theorem registerTransfer_change
    {registration : TransferRegistration} {model : ModelGeneration} {state : StateGeneration}
    (now : Int64) (hCheck : s.checkRegistration registration = .ok (model, state)) :
    TransferChange s id (.registerTransfer registration now) (s.unboundTransfer id)
      ((s.registerTransfer registration now).2.unboundTransfer id) := by
  have hFresh := (checkRegistration_ok hCheck).2.1
  have hAfter : (s.registerTransfer registration now).2.unboundTransfer id =
        if id = registration.id then some (registration.record model state now)
        else s.unboundTransfer id := by
    unfold registerTransfer
    simp only [hCheck]
    unfold unboundTransfer
    rw [emplace_of_none _ _ _ hFresh, lookup_insert_if]
    split
    · rfl
    · rfl
  by_cases hSame : id = registration.id
  · have hNone : s.unboundTransfer id = none := by
      unfold unboundTransfer
      rw [hSame, hFresh]
      rfl
    rw [hAfter, if_pos hSame, hNone]
    exact .registered registration now model state hSame.symm hCheck
  · rw [if_neg hSame] at hAfter
    exact .of_same hAfter

/- Every operation changes a transfer in a listed way. -/
theorem step_transferChange (s : Coordinator) (id : StateTransferId) (op : Op) :
    TransferChange s id op (s.unboundTransfer id) ((s.step op).unboundTransfer id) := by
  have hOutcome := step_outcome s op
  generalize s.step op = t at hOutcome ⊢
  cases hOutcome with
  | configured _ _ _ hConfigured => exact .of_same (unbound_of_carriage id hConfigured.carriage)
  | cancelled | failed | replaced => exact releaseRequestFlows_change rfl rfl
  | published publication now outcome =>
    rw [unbound_of_carriage id (retainCompletion_carriage _ _ _)]
    exact releaseRequestFlows_change rfl rfl
  | registered registration now model state hCheck => exact registerTransfer_change now hCheck
  | authorizing request now victim => exact authorizeTransfer_change request now victim
  | started other authorization transfer hTransfer hState =>
    by_cases hOther : id = other
    · subst hOther
      rw [unboundTransfer_of_lookup hTransfer]
      unfold unboundTransfer
      rw [lookup_insert]
      exact .started authorization transfer.unbound hState
    · refine .of_same ?_
      unfold unboundTransfer
      rw [lookup_insert_if, if_neg hOther]
  | completing other bytes => exact completeTransfer_change other bytes
  | abandoned other reason transfer hTransfer hState =>
    by_cases hOther : id = other
    · subst hOther
      rw [closeTransfer_settled, unboundTransfer_of_lookup hTransfer]
      exact .abandoned reason transfer.unbound hState
    · exact .of_same (closeTransfer_unbound s id hOther _ _)
  | evaluated request now victim => exact .of_same (evaluate_unbound s id request now victim)
  | opening decision bytes now => exact .of_same (openFlow_unbound s id decision bytes now)
  | released key flow hFlow =>
    exact .of_same (Releases.unbound_of_none id (.single (.released s key flow hFlow)))
  | _ => exact .same _ _

/- Only a registration adds a transfer. -/
theorem step_transferState_of_none (hNone : s.transferState id = none) (op : Op) :
    (s.step op).transferState id = none ∨ (s.step op).transferState id = some .registered := by
  have hChange := step_transferChange s id op
  rw [transferState_eq_unbound] at hNone ⊢
  rw [map_eq_none_iff.mp hNone] at hChange
  generalize (s.step op).unboundTransfer id = after at hChange ⊢
  cases hChange with
  | same => exact .inl rfl
  | registered => exact .inr rfl

end Coordinator

end TrafficFabric
