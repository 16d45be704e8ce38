import TrafficFabric.Coordinator.Cancellation
import TrafficFabric.Coordinator.Deferrals
import TrafficFabric.Coordinator.FlowIdentities
import TrafficFabric.Coordinator.Inspection
import TrafficFabric.Coordinator.Usability

/-
  How long flows last: a flow does not outlive the request
  it is for, and a transfer that has ended has no flow.

  Main declarations:
    * `Coordinator.Ended`
    * `Coordinator.Timely`
    * `Coordinator.TransferLive.ends`
    * `Coordinator.flow_within_transfer`
-/

---
-- Ended Requests
---

namespace TrafficFabric

open Carriage RequestLedger TransferRecord Fleet

namespace Coordinator

variable {mt : Generator} {s t : Coordinator} {op : Op} {label : Label} {id : RequestId}

/- The request is retained and terminal. -/
def Ended (s : Coordinator) (id : RequestId) : Prop :=
  ∃ record, s.ledger.requests.lookup id = some record ∧ record.lifecycle.isTerminal = true

theorem ended_iff_view :
    s.Ended id ↔ ∃ view, s.ledger.view id = some view ∧ view.lifecycle.isTerminal = true := by
  constructor
  · rintro ⟨record, hRecord, hDone⟩
    exact ⟨record.view, view_of_lookup hRecord, hDone⟩
  · rintro ⟨view, hView, hDone⟩
    rcases (view_eq_some_iff _ _ _).mp hView with ⟨record, hRecord, rfl⟩
    exact ⟨record, hRecord, hDone⟩

/- An operation of the ledger decides what is retained. -/
theorem step_view_of_main (main : LedgerOp) (hMain : op.ledgerOps s = [main]) (id : RequestId) :
    (s.step op).ledger.view id = (s.ledger.step main).view id := by
  rcases step_ledger s op with ⟨quiet, hQuiet, hLedger⟩
  rw [hLedger, steps_quiet _ id quiet hQuiet, hMain]
  rfl

/- What would end a request and does not changes nothing. -/
theorem step_view_of_not_retires {event : RequestEvent} (hEvent : op.event s = some (id, event))
    (hEnds : event.Ends) (hSpared : ¬ op.Retires s id) :
    (s.step op).ledger.view id = s.ledger.view id := by
  cases op with
  | cancelRequest request reason now =>
    cases hEvent
    rw [step_view_of_main (.cancelRequest id reason s.nextSequence now) rfl]
    exact congrArg (RequestLedger.view · id)
      (RequestLedger.step_of_refused _ _ (fun hOk => hSpared ⟨rfl, hOk⟩) (by simp))
  | failAttempt request attempt reason now =>
    cases hEvent
    rw [step_view_of_main (.failAttempt id attempt reason now) rfl]
    exact congrArg (RequestLedger.view · id)
      (RequestLedger.step_of_refused _ _ (fun hOk => hSpared ⟨rfl, hOk⟩) (by simp))
  | publishCompletion publication now =>
    cases hEvent
    rw [step_view_of_main (.publishCompletion publication now) rfl]
    exact RequestLedger.publishCompletion_uncommitted
      (fun hCommitted => hSpared ⟨rfl, hCommitted⟩) _
  | registerAttempt | revalidateRequest | advanceStage | replaceAttempt =>
    cases hEvent
    exact hEnds.elim
  | _ => cases hEvent

/- A request that ends is retired by the operation. -/
theorem retires_of_ended (hBefore : ¬ s.Ended id) (hAfter : (s.step op).Ended id) :
    op.Retires s id := by
  have hChange := step_viewChange s op id
  rw [ended_iff_view] at hBefore hAfter
  rcases hAfter with ⟨next, hNext, hDone⟩
  by_contra hSpared
  rw [hNext] at hChange
  generalize hOld : s.ledger.view id = old at hChange
  cases hChange with
  | same => exact hBefore ⟨next, hOld, hDone⟩
  | registered now => cases hDone
  | restored view hLabel => exact hLabel op rfl
  | evolved view _ changed event hLabel hEvent hStep =>
    cases hLabel
    have hLive : view.lifecycle.isTerminal = false := by
      cases hTerminal : view.lifecycle.isTerminal with
      | false => rfl
      | true => exact (hBefore ⟨view, hOld, hTerminal⟩).elim
    rw [step_view_of_not_retires hEvent (hStep.ends hLive hDone) hSpared] at hNext
    exact hBefore ⟨next, hNext, hDone⟩

---
-- Flows Within Requests
---

variable {config : CoordinatorConfig} {start s t : Coordinator} {labels : List Label}

/- No transfer is registered for a request that ended. -/
def OwnsLive (s : Coordinator) (label : Label) : Prop :=
  ∀ registration now,
    label = .op (.registerTransfer registration now) → ¬ s.Ended registration.request

/- Flows are opened within their guards, for live owners. -/
def Timely (s : Coordinator) (label : Label) : Prop :=
  s.Orderly label ∧ s.OwnsLive label

/- Nothing is open for a request that ended. -/
def EndedSevered (s : Coordinator) : Prop :=
  ∀ id, s.Ended id → s.carriage.Severed id

theorem Ended.ne_nil (hEnded : s.Ended id) (hCoherent : s.ledger.Coherent) : id ≠ .nil := by
  rcases hEnded with ⟨record, hRecord, -⟩
  exact hCoherent.ne_nil hRecord

theorem Ended.not_serves (hEnded : s.Ended id) : ¬ s.Serves id := by
  rcases hEnded with ⟨record, hRecord, hDone⟩
  rintro ⟨held, hHeld, hLive, -⟩
  rw [snapshotRequest, hRecord] at hHeld
  cases hHeld
  rw [hDone] at hLive
  cases hLive

theorem EndedSevered.step (hSevered : s.EndedSevered) (hTimely : s.Timely (.op op))
    (hCoherent : s.ledger.Coherent) (hIndexed : s.carriage.Indexed) : (s.step op).EndedSevered := by
  intro id hAfter
  have hNext : (s.step op).ledger.Coherent := by
    rcases step_ledger s op with ⟨quiet, -, hLedger⟩
    rw [hLedger]
    exact (hCoherent.steps _).steps quiet
  have hNamed := hAfter.ne_nil hNext
  by_cases hBefore : s.Ended id
  · have hMoves :
        Carriage.Moves (¬ op.Unguarded s) s.Serves (fun request => ¬ s.Ended request) s.carriage
          (s.step op).carriage :=
      (step_course s op (fun registration now hOp _ =>
        hTimely.2 registration now (by rw [hOp]))).carriage
    exact (hMoves.severed (hTimely.1 op rfl) hIndexed hNamed
      hBefore.not_serves (fun hLive => hLive hBefore) (hSevered id hBefore)).2
  · exact step_severed (retires_of_ended hBefore hAfter) hIndexed hNamed

theorem EndedSevered.transition (hSevered : s.EndedSevered) (hTransition : Transition mt s label t)
    (hTimely : s.Timely label) (hCoherent : s.ledger.Coherent) (hIndexed : s.carriage.Indexed) :
    t.EndedSevered := by
  rcases hTransition.fleet with hIdle | ⟨op, rfl, rfl⟩
  · intro id _
    have hEmpty : t.carriage = .empty := hIdle.carriage
    rw [hEmpty]
    exact severed_empty id
  · exact hSevered.step hTimely hCoherent hIndexed

/-
  In every state of a timely run, no open flow belongs to or
  is owned by a request that ended.
-/
theorem flow_within_request (hStarted : Started mt config start)
    (hRun : Run (Guarded Timely (Transition mt)) start labels s) (key : FlowId) (flow : FlowRecord)
    (hFlow : s.flows.lookup key = some flow) :
    (∀ request, s.OwnedBy flow request →
        ¬ s.Ended request) ∧
      ¬ OwnerFailure (s.inspectFlow flow) := by
  have hSevered : s.EndedSevered := by
    refine hRun.invariant_of_invariant Kept EndedSevered
      (fun _ _ _ hStep hKept => hKept.transition hStep.2 hStep.1.1)
      (fun _ _ _ hStep hKept hBefore =>
        hBefore.transition hStep.2 hStep.1 hKept.coherent hKept.indexed) hStarted.kept ?_
    rcases hStarted with ⟨entropy, rfl⟩
    exact fun id _ => severed_empty id
  have hLive (request : RequestId) (hOwned : s.OwnedBy flow request) : ¬ s.Ended request := by
    intro hEnded
    rcases hOwned with hServed | ⟨transfer, hHeld, hOwner⟩
    · exact (hSevered request hEnded).unserved key flow hFlow hServed
    · exact (hSevered request hEnded).uncarried key flow transfer hFlow hHeld hOwner
  refine ⟨hLive, ?_⟩
  intro hFails
  rcases inspectFlow_terminal_owner hFails with ⟨request, record, hOwned, hRecord, hDone⟩
  exact hLive request hOwned ⟨record, hRecord, hDone⟩

/- Operations that are seen to be timely. -/
def plainlyTimely (s : Coordinator) : Op → Bool
| .openFlow decision _ _ => decision.subject.kind != .unknown && s.nextFlowSequence + 1 != 0
| .authorizeTransfer _ _ _ => s.nextFlowSequence + 1 != 0
| .registerTransfer registration _ =>
  (s.ledger.requests.lookup registration.request).all (fun record => !record.lifecycle.isTerminal)
| _ => true

theorem timely_of_plainlyTimely (s : Coordinator) (op : Op) (hPlain : plainlyTimely s op = true) :
    s.Timely (.op op) := by
  refine ⟨?_, ?_⟩
  · rintro other hSame
    cases hSame
    cases op with
    | openFlow decision bytes now =>
      simp only [plainlyTimely, Bool.and_eq_true, bne_iff_ne] at hPlain
      rintro (hNames | hWraps)
      · exact hNames (fun hKind => (hPlain.1 hKind).elim)
      · exact hPlain.2 hWraps
    | authorizeTransfer request now victim => exact bne_iff_ne.mp hPlain
    | _ => exact fun hUnguarded => hUnguarded
  · rintro registration now hSame ⟨record, hRecord, hDone⟩
    cases hSame
    simp only [plainlyTimely, hRecord, Option.all_some, hDone] at hPlain
    cases hPlain

def ownedTraffic : TrafficRequest where
  subject := some { kind := .transfer, transfer := ⟨0, 9⟩ }

/- A live request owns a transfer with an open flow. -/
def timelyOps : List Op :=
  generationOps ++ ingressOps ++
    [ .registerTransfer ownedRegistration 4, .authorizeTransfer ownedTraffic 5 0 ]

theorem flow_within_request_timely :
    let s := sampleStart.steps timelyOps
    ∃ key flow, s.flows.lookup key = some flow ∧ s.OwnedBy flow ⟨0, 1⟩ ∧ ¬ s.Ended ⟨0, 1⟩ := by
  intro s
  have hCarried :
      (s.flows.lookup (transferFlowId 1 ⟨0, 9⟩)).map FlowRecord.transfer = some ⟨0, 9⟩ := by
    decide
  have hOwner : (s.transfers.lookup ⟨0, 9⟩).map request = some ⟨0, 1⟩ := by decide
  rcases Option.map_eq_some_iff.mp hCarried with ⟨flow, hFlow, hTransfer⟩
  rcases Option.map_eq_some_iff.mp hOwner with ⟨transfer, hHeld, hRequest⟩
  have hOwned : s.OwnedBy flow ⟨0, 1⟩ := by
    refine .inr ⟨transfer, ?_, hRequest⟩
    rw [hTransfer]
    exact hHeld
  exact ⟨_, flow, hFlow, hOwned,
    (flow_within_request sampleStart_started
      (run_passes sampleGenerator plainlyTimely timely_of_plainlyTimely sampleStart timelyOps
        (by decide)) _ flow hFlow).1 ⟨0, 1⟩ hOwned⟩

/-
  The request has failed when the transfer is registered for
  it. Only cancelled owners are refused, so the transfer is
  authorized and its flow is open.
-/
theorem failed_request_gets_flow :
    let s := sampleStart.steps
      (generationOps ++ ingressOps ++
        [ .failAttempt ⟨0, 1⟩ ⟨0, 2⟩ .unknown 4,
          .registerTransfer ownedRegistration 5,
          .authorizeTransfer ownedTraffic 6 0 ])
    Reachable sampleGenerator {} s ∧
      (s.ledger.requests.lookup ⟨0, 1⟩).map RequestRecord.lifecycle = some .failed ∧
      (s.transfers.lookup ⟨0, 9⟩).map request = some ⟨0, 1⟩ ∧
      s.flows.values.map FlowRecord.transfer = [⟨0, 9⟩] ∧
      s.verifyInvariants =
        .failure .internal ("transfer of a terminal request retains an " ++ "open flow") := by
  intro s
  exact ⟨sampleStart_reachable _, by decide, by decide, by decide, by decide⟩

end Coordinator

---
-- Ended Transfers
---

namespace Carriage

variable {guarded : Prop} {serves owns : RequestId → Prop} {c d : Carriage}
variable {id : StateTransferId}

/- The transfer has ended and names no flow. -/
def Shut (id : StateTransferId) (c : Carriage) : Prop :=
  ∃ transfer,
    c.transfers.lookup id = some transfer ∧ transfer.state.isTerminal = true ∧ transfer.flow = .nil

/- Flows are opened for live transfers only. -/
theorem Move.shut (hMove : Move guarded serves owns c d) (hGuarded : guarded) (hShut : c.Shut id) :
    d.Shut id := by
  rcases hShut with ⟨transfer, hHeld, hDone, hFree⟩
  cases hMove with
  | observed | served => exact ⟨transfer, hHeld, hDone, hFree⟩
  | released key flow hFlow =>
    unfold Shut Carriage.release
    split
    · exact ⟨transfer, hHeld, hDone, hFree⟩
    · rw [AList.lookup_modify]
      split
      · rw [hHeld, Option.map_some]
        refine ⟨_, rfl, ?_⟩
        split
        · exact ⟨hDone, rfl⟩
        · exact ⟨hDone, hFree⟩
      · exact ⟨transfer, hHeld, hDone, hFree⟩
  | carried opened flow sequence hTransfer hLive =>
    refine ⟨transfer, ?_, hDone, hFree⟩
    change (c.transfers.insert flow.transfer _).lookup id = some transfer
    rw [AList.lookup_insert_if, if_neg]
    · exact hHeld
    · intro hSame
      rw [← hSame, hHeld] at hTransfer
      cases hTransfer
      rw [hLive hGuarded] at hDone
      cases hDone
  | settled other old next hTransfer hRequest hFlow hTerminal =>
    unfold Shut Carriage.putTransfer
    rw [AList.lookup_insert_if]
    split
    · rename_i hSame
      rw [← hSame, hHeld] at hTransfer
      cases hTransfer
      exact ⟨next, rfl, hTerminal hDone, hFlow.trans hFree⟩
    · exact ⟨transfer, hHeld, hDone, hFree⟩
  | registered other new hNamed hFresh =>
    refine ⟨transfer, ?_, hDone, hFree⟩
    change (c.transfers.insert other new).lookup id = some transfer
    rw [AList.lookup_insert_if, if_neg]
    · exact hHeld
    · intro hSame
      rw [← hSame, hHeld] at hFresh
      cases hFresh

/- A transfer that names no flow is carried by none. -/
theorem Indexed.uncarried {transfer : TransferRecord} (hIndexed : c.Indexed) (hSet : id ≠ .nil)
    (hTransfer : c.transfers.lookup id = some transfer) (hFree : transfer.flow = .nil) :
    c.Uncarried id := by
  intro key flow hFlow hCarries
  subst hCarries
  rcases hIndexed.carried key flow hFlow hSet with ⟨hNamed, held, hHeld, hBack⟩
  rw [hTransfer] at hHeld
  cases hHeld
  exact hNamed (hBack.symm.trans hFree)

end Carriage

namespace Coordinator

variable {s : Coordinator} {op : Op} {id : StateTransferId}
variable {mt : Generator}
variable {request : TrafficRequest} {subject : TrafficSubject} {now : Int64} {victim : Nat}
  {t : Coordinator} {label : Label}

/- Releasing the flows of a transfer leaves none open. -/
theorem releaseTransferFlows_uncarried (hBooked : s.fleet.Booked) (hSet : id ≠ .nil) :
    (s.releaseTransferFlows id).carriage.Uncarried id := by
  intro key flow hFlow hCarries
  unfold releaseTransferFlows at hFlow
  rw [if_neg (by simpa using hSet)] at hFlow
  rcases (releaseVictims_drained s _ hBooked.indexed.filed).flows key flow hFlow with ⟨hHeld, hNot⟩
  apply hNot
  refine (hBooked.listed.byTransfer.mem_equalRange id key).mpr ⟨flow, hHeld, ?_⟩
  rw [Id128.named_eq_some_iff, hCarries]
  exact ⟨hSet, rfl⟩

/- So does ending a transfer. -/
theorem closeTransfer_uncarried (hCoherent : s.ledger.Coherent) (hBooked : s.fleet.Booked)
    (hSet : id ≠ .nil) (state : TransferState) (reason : ReasonCode)
    (hState : state.isTerminal = true) :
    (s.closeTransfer id state reason).carriage.Uncarried id := by
  have hMoves : Moves Terms.quiet s.fleet (s.settleTransfer id state reason).fleet :=
    Releases.fleet (settleTransfer_releases s trivial state reason hState)
  exact releaseTransferFlows_uncarried (hMoves.booked Terms.quiet_fresh hCoherent hBooked)
    hSet

theorem releaseRequestFlows_ends (request : RequestId) (hIndexed : s.carriage.Indexed)
    (hSet : id ≠ .nil) (hMem : id ∈ s.transfersByRequest.equalRange request)
    (hLive : s.TransferLive id) :
    (s.releaseRequestFlows request).TransferLive id ∨
      (s.releaseRequestFlows request).carriage.Uncarried id := by
  by_cases hNamed : request = .nil
  · refine .inl ?_
    unfold releaseRequestFlows
    rw [if_pos (by simpa using hNamed)]
    exact hLive
  · exact .inr (releaseRequestFlows_uncarried s hIndexed hNamed hSet hMem)

theorem checkRegistration_fits {registration : TransferRegistration}
    {generations : ModelGeneration × StateGeneration}
    (hOk : s.checkRegistration registration = .ok generations) :
    registration.payloadBytes ≤ s.config.limits.maxSinglePayloadBytes := by
  unfold checkRegistration at hOk
  simp only [Result.guard_eq_ok_iff, Except.bind_eq_ok_iff] at hOk
  exact UInt64.not_lt.mp hOk.2.2.1

/- Every transfer is within the limit of one payload. -/
def TransfersFit (s : Coordinator) : Prop :=
  ∀ id transfer,
    s.unboundTransfer id = some transfer →
    transfer.payloadBytes ≤ s.config.limits.maxSinglePayloadBytes

theorem TransfersFit.step (hFit : s.TransfersFit) (op : Op) : (s.step op).TransfersFit := by
  intro id transfer hAfter
  have hChange := step_transferChange s id op
  have hOld := hFit id
  rw [hAfter] at hChange
  rw [(step_boot s op).1]
  generalize s.unboundTransfer id = before at hChange hOld
  cases hChange with
  | same => exact hOld transfer rfl
  | registered registration now model state hId hCheck => exact checkRegistration_fits hCheck
  | ended _ _ old =>
    have hKept := hOld old rfl
    unfold abandonOwned
    split
    · exact hKept
    · exact hKept
  | granted _ _ _ old | refused _ _ _ _ old | started _ old | completed _ old
  | mismatched _ old | abandoned _ old => exact hOld old rfl

/-
  A transfer that has a flow is authorized again only while
  its payload fits below the bulk cap once more, in an epoch
  that is set and before the last authority sequence.
-/
def AffordsAgain (s : Coordinator) (label : Label) : Prop :=
  ∀ request now victim subject transfer,
    label = .op (.authorizeTransfer request now victim) → request.subject = some subject →
    s.transfers.lookup subject.transfer = some transfer → transfer.flow ≠ .nil →
    s.epoch ≠ .unset ∧
      s.authoritySequence ≠ .max ∧
      (s.policy.bulkInFlightCapBytes = 0 ∨
        s.bulkInFlightBytes + transfer.payloadBytes ≤ s.policy.bulkInFlightCapBytes)

/- A permission for it then gets the flow it has. -/
theorem AffordsAgain.openFlow_ok {transfer : TransferRecord}
    (hAffords : s.AffordsAgain (.op (.authorizeTransfer request now victim)))
    (hBooted : s.incarnation ≠ .nil) (hFit : s.TransfersFit)
    (hSubject : request.subject = some subject) (hKind : subject.kind = .transfer)
    (hTransfer : s.transfers.lookup subject.transfer = some transfer)
    (hBusy : transfer.flow ≠ .nil)
    (hPermits : (s.evaluate request now victim).1.permitsTraffic = true) :
    ((s.evaluate request now victim).2.openFlow (s.evaluate request now victim).1
      transfer.payloadBytes now).1 = .ok transfer.flow := by
  rcases hAffords request now victim subject transfer rfl hSubject hTransfer hBusy with
    ⟨hEpoch, hBelow, hRoom⟩
  rcases (evaluate_grounds hPermits).transfer hSubject hKind with ⟨found, hGrounds⟩
  cases hTransfer.symm.trans hGrounds.retained
  have hUse : (s.evaluate request now victim).2.TransferUse subject transfer :=
    evaluate_transfer_use hGrounds
  have hOwn : (s.evaluate request now victim).1.subject = subject := by
    rw [evaluate_subject, hSubject]
    rfl
  have hValid :
      (s.evaluate request now victim).2.validateDecision (s.evaluate request now victim).1 =
        .ok () := by
    refine validateDecision_eq_ok_iff.mpr
      ⟨(evaluate_stamp_iff s request now victim).mpr ⟨hEpoch, hBooted, hBelow⟩, hPermits, ?_⟩
    rw [hOwn, SubjectUse, hKind]
    exact ⟨transfer, hUse⟩
  have hConfig : (s.evaluate request now victim).2.config = s.config :=
    congrArg DurableState.config (evaluate_bookkeeping s request now victim).incidental.durable
  have hSmall : ¬ s.config.limits.maxSinglePayloadBytes < transfer.payloadBytes :=
    UInt64.not_lt.mpr (hFit _ transfer.unbound (unboundTransfer_of_lookup hTransfer))
  have hFree (traffic : TrafficClass) :
      s.bulkExhausted traffic transfer.payloadBytes = false := by
    unfold bulkExhausted
    rcases hRoom with hUncapped | hFits
    · simp [hUncapped]
    · rw [decide_eq_false (UInt64.not_lt.mpr hFits), Bool.and_false]
  have hGets (flow : FlowRecord) :
      ((s.evaluate request now victim).2.openTransferFlow subject flow).1 = .ok transfer.flow := by
    simp [openTransferFlow, hUse.retained, hBusy]
  simp only [Coordinator.openFlow, hValid, hConfig, if_neg hSmall, evaluate_bulkExhausted, hFree,
    Bool.false_eq_true, if_false, hOwn, hKind, reduceCtorEq, hGets]

theorem authorizeTransfer_ends (hSubject : request.subject = some subject)
    (hCloses :
      ∀ authorization,
        (s.authorizeTransfer request now victim).1 = .ok authorization →
        authorization.authorized = false)
    (hAffords : s.AffordsAgain (.op (.authorizeTransfer request now victim)))
    (hBooted : s.incarnation ≠ .nil) (hFit : s.TransfersFit) (hCoherent : s.ledger.Coherent)
    (hBooked : s.fleet.Booked) (hLive : s.TransferLive subject.transfer) :
    (s.authorizeTransfer request now victim).2.TransferLive subject.transfer ∨
      (s.authorizeTransfer request now victim).2.carriage.Uncarried subject.transfer := by
  rcases hLive with ⟨transfer, hHeld, hOpen⟩
  have hSet := ne_nil_of_lookup hBooked.indexed hHeld
  have hMoves : Moves Terms.quiet s.fleet (s.evaluate request now victim).2.fleet :=
    evaluate_fleet s request now victim
  have hDecided := hMoves.booked Terms.quiet_fresh hCoherent hBooked
  have hStays : (s.evaluate request now victim).2.TransferLive subject.transfer := by
    refine ⟨transfer, ?_, hOpen⟩
    rw [evaluate_transfers]
    exact hHeld
  have hAuthorizing := authorizeTransfer_authorizing s request now victim
  generalize s.authorizeTransfer request now victim = answer at hAuthorizing hCloses ⊢
  cases hAuthorizing with
  | misaddressed => exact .inl ⟨transfer, hHeld, hOpen⟩
  | unknown | missing => exact .inl hStays
  | denied other _ hOther =>
    rw [hSubject] at hOther
    cases hOther
    exact .inr (closeTransfer_uncarried (hMoves.coherent hCoherent) hDecided hSet .refused _ rfl)
  | declined other held status hOther hKind hPermits hFound hRefused =>
    rw [hSubject] at hOther
    cases hOther
    have hSame := hFound
    rw [evaluate_transfers] at hSame
    have hFree : held.flow = .nil := by
      by_contra hBusy
      rw [hAffords.openFlow_ok hBooted hFit hSubject hKind hSame hBusy hPermits] at hRefused
      cases hRefused
    exact .inr (hDecided.indexed.uncarried hSet hFound hFree)
  | granted _ _ _ _ _ hPermits =>
    have hDenied := hCloses _ rfl
    change (s.evaluate request now victim).1.permitsTraffic = false at hDenied
    rw [hPermits] at hDenied
    cases hDenied

theorem completeTransfer_ends (hCoherent : s.ledger.Coherent) (hBooked : s.fleet.Booked)
    (hLive : s.TransferLive id) (bytes : UInt64) :
    (s.completeTransfer id bytes).2.TransferLive id ∨
      (s.completeTransfer id bytes).2.carriage.Uncarried id := by
  rcases hLive with ⟨transfer, hHeld, hOpen⟩
  have hSet := ne_nil_of_lookup hBooked.indexed hHeld
  have hCompleting := completeTransfer_completing s id bytes
  generalize s.completeTransfer id bytes = answer at hCompleting ⊢
  cases hCompleting with
  | refused => exact .inl ⟨transfer, hHeld, hOpen⟩
  | mismatched => exact .inr (closeTransfer_uncarried hCoherent hBooked hSet .refused _ rfl)
  | completed held hFound =>
    have hMoves : Moves Terms.quiet s.fleet (s.markCompleted id held bytes).fleet :=
      .single (.settled s.fleet id held _ hFound rfl rfl)
    exact .inr (releaseTransferFlows_uncarried
      (hMoves.booked Terms.quiet_fresh hCoherent hBooked) hSet)

/- A transfer that an operation ends is carried no more. -/
theorem TransferLive.ends (hLive : s.TransferLive id) (hAffords : s.AffordsAgain (.op op))
    (hBooted : s.incarnation ≠ .nil) (hFit : s.TransfersFit) (hCoherent : s.ledger.Coherent)
    (hBooked : s.fleet.Booked) :
    (s.step op).TransferLive id ∨ (s.step op).carriage.Uncarried id := by
  by_cases hCloses : op.Closes s id
  swap
  · exact .inl (hLive.step op hCloses)
  have hIndexed := hBooked.indexed
  have hSet : id ≠ .nil := by
    rcases hLive with ⟨transfer, hHeld, -⟩
    exact ne_nil_of_lookup hIndexed hHeld
  cases op with
  | authorizeTransfer request now victim =>
    rcases hCloses with ⟨⟨subject, hSubject, -, rfl⟩, hDenied⟩
    exact authorizeTransfer_ends hSubject hDenied hAffords hBooted hFit hCoherent hBooked hLive
  | completeTransfer transfer bytes =>
    have hSame : transfer = id := hCloses
    subst hSame
    exact completeTransfer_ends hCoherent hBooked hLive bytes
  | abandonTransfer transfer reason =>
    have hSame : transfer = id := hCloses
    subst hSame
    rcases hLive with ⟨held, hHeld, hOpen⟩
    simp only [Coordinator.step, abandonTransfer, hHeld]
    split
    · exact .inl ⟨held, hHeld, hOpen⟩
    · exact .inr (closeTransfer_uncarried hCoherent hBooked hSet .abandoned _ rfl)
  | cancelRequest request reason now =>
    simp only [Coordinator.step, cancelRequest, releaseOnSuccess]
    split
    · exact releaseRequestFlows_ends request hIndexed hSet hCloses hLive
    · exact .inl hLive
  | failAttempt request attempt reason now =>
    simp only [Coordinator.step, failAttempt, releaseOnSuccess]
    split
    · exact releaseRequestFlows_ends request hIndexed hSet hCloses hLive
    · exact .inl hLive
  | replaceAttempt request old new hash now =>
    simp only [Coordinator.step, replaceAttempt]
    split
    · exact .inl hLive
    · split
      · exact .inl hLive
      · exact releaseRequestFlows_ends request hIndexed hSet hCloses hLive
  | publishCompletion publication now =>
    simp only [Coordinator.step]
    unfold publishCompletion
    simp only
    split
    · exact .inl hLive
    · split
      · have hEnds := releaseRequestFlows_ends
          (s := s.withLedger (s.ledger.publishCompletion publication now).2)
          publication.request hIndexed hSet hCloses hLive
        refine hEnds.imp ?_ ?_
        · rintro ⟨transfer, hHeld, hOpen⟩
          refine ⟨transfer, ?_, hOpen⟩
          change (Coordinator.carriage _).transfers.lookup id = some transfer
          rw [retainCompletion_carriage]
          exact hHeld
        · intro hKept
          rw [retainCompletion_carriage]
          exact hKept
      · exact .inl hLive
  | _ => exact hCloses.elim

/- Nothing keeps a flow of a transfer that has ended. -/
def Tidy (s : Coordinator) (label : Label) : Prop :=
  s.Orderly label ∧ s.NumbersApart label ∧ s.AffordsAgain label

/- What a tidy run keeps besides. -/
structure Housekept (s : Coordinator) : Prop where
  booted : s.incarnation ≠ .nil
  coherent : s.ledger.Coherent
  numbered : s.fleet.Numbered
  booked : s.fleet.Booked
  fit : s.TransfersFit

theorem Housekept.step (hKept : s.Housekept) (hTransition : Transition mt s label t)
    (hTidy : s.Tidy label) :
    t.Housekept where
  booted := hTransition.incarnation hKept.booted
  coherent := hTransition.coherent hKept.coherent
  numbered := hTransition.numbered hTidy.2.1.keepsApart hKept.coherent hKept.numbered
  booked := hTransition.booked (hTidy.2.1.keepsApart.mintsFresh hKept.numbered) hKept.coherent
    hKept.booked
  fit := by
    rcases hTransition.fleet with hIdle | ⟨op, rfl, rfl⟩
    · intro id transfer hTransfer
      rw [unboundTransfer, lookup_transfer_of_idle hIdle] at hTransfer
      cases hTransfer
    · exact hKept.fit.step op

theorem Started.housekept {config : CoordinatorConfig} (hStarted : Started mt config s) :
    s.Housekept where
  booted := Reachable.incarnation ⟨s, [], hStarted, .nil s⟩
  coherent := hStarted.coherent
  numbered := by
    rcases hStarted with ⟨entropy, rfl⟩
    intro id flow hFlow
    cases hFlow
  booked := hStarted.fleet.booked
  fit := by
    rcases hStarted with ⟨entropy, rfl⟩
    intro id transfer hTransfer
    cases hTransfer

/- Every transfer that has ended names no flow. -/
def EndedShut (s : Coordinator) : Prop :=
  ∀ id transfer,
    s.transfers.lookup id = some transfer → transfer.state.isTerminal = true → transfer.flow = .nil

theorem EndedShut.step (hShut : s.EndedShut) (hTidy : s.Tidy (.op op)) (hKept : s.Housekept)
    (hNext : (s.step op).Housekept) : (s.step op).EndedShut := by
  intro id transfer hAfter hDone
  cases hHeld : s.transfers.lookup id with
  | none =>
    -- a new transfer has not ended
    have hNone : s.transferState id = none := by
      unfold transferState
      rw [hHeld]
      rfl
    have hNew := step_transferState_of_none hNone op
    unfold transferState at hNew
    rw [hAfter] at hNew
    rcases hNew with hNew | hNew
    · cases hNew
    · have hState : transfer.state = .registered := by
        simpa using hNew
      rw [hState] at hDone
      cases hDone
  | some held =>
    cases hEnded : held.state.isTerminal with
    | true =>
      have hStays := (step_moves s op).invariant (Carriage.Shut id)
        (fun _ _ hMove hBefore => hMove.shut (hTidy.1 op rfl) hBefore)
        ⟨held, hHeld, hEnded, hShut id held hHeld hEnded⟩
      rcases hStays with ⟨next, hNext, -, hFree⟩
      change (s.step op).transfers.lookup id = some next at hNext
      rw [hAfter] at hNext
      cases hNext
      exact hFree
    | false =>
      have hLive : s.TransferLive id := ⟨held, hHeld, hEnded⟩
      rcases hLive.ends hTidy.2.2 hKept.booted hKept.fit hKept.coherent hKept.booked with
        ⟨next, hLater, hOpen⟩ | hUncarried
      · rw [hAfter] at hLater
        cases hLater
        rw [hDone] at hOpen
        cases hOpen
      · by_contra hSet
        rcases hNext.booked.pointed id _ hAfter hSet with ⟨flow, hFlow, hCarries⟩
        exact hUncarried _ flow hFlow hCarries

theorem endedShut_of_idle (hIdle : s.fleet.Idle) : s.EndedShut := by
  intro id transfer hTransfer
  rw [lookup_transfer_of_idle hIdle] at hTransfer
  cases hTransfer

theorem EndedShut.transition (hShut : s.EndedShut) (hTransition : Transition mt s label t)
    (hTidy : s.Tidy label) (hKept : s.Housekept) : t.EndedShut := by
  have hNext := hKept.step hTransition hTidy
  rcases hTransition.fleet with hIdle | ⟨op, rfl, rfl⟩
  · exact endedShut_of_idle hIdle
  · exact hShut.step hTidy hKept hNext

/-
  In every state of a tidy run, a transfer that has ended
  names no flow and no open flow carries it.
-/
theorem flow_within_transfer {config : CoordinatorConfig} {start : Coordinator}
    {labels : List Label} (hStarted : Started mt config start)
    (hRun : Run (Guarded Tidy (Transition mt)) start labels s) (id : StateTransferId)
    (transfer : TransferRecord) (hTransfer : s.transfers.lookup id = some transfer)
    (hDone : transfer.state.isTerminal = true) :
    transfer.flow = .nil ∧ ∀ key flow, s.flows.lookup key = some flow → flow.transfer ≠ id := by
  have hKept : s.Housekept ∧ s.EndedShut := by
    refine hRun.invariant (fun t => t.Housekept ∧ t.EndedShut) ?_
      ⟨hStarted.housekept, endedShut_of_idle hStarted.fleet⟩
    rintro t label u ⟨hTidy, hStep⟩ ⟨hBefore, hShut⟩
    exact ⟨hBefore.step hStep hTidy, hShut.transition hStep hTidy hBefore⟩
  have hFree := hKept.2 id transfer hTransfer hDone
  have hIndexed := hKept.1.booked.indexed
  exact ⟨hFree, hIndexed.uncarried (ne_nil_of_lookup hIndexed hTransfer) hTransfer hFree⟩

/- Operations that are seen to be tidy. -/
def plainlyTidy (s : Coordinator) (op : Op) : Bool :=
  plainlyTimely s op && plainlyApart s op &&
    match op with
    | .authorizeTransfer request _ _ =>
      request.subject.all (fun subject =>
        (s.transfers.lookup subject.transfer).all (fun transfer =>
          s.epoch != .unset && s.authoritySequence != .max &&
            s.bulkInFlightBytes + transfer.payloadBytes ≤ s.policy.bulkInFlightCapBytes))
    | _ => true

theorem tidy_of_plainlyTidy (s : Coordinator) (op : Op) (hPlain : plainlyTidy s op = true) :
    s.Tidy (.op op) := by
  unfold plainlyTidy at hPlain
  rw [Bool.and_eq_true, Bool.and_eq_true] at hPlain
  rcases hPlain with ⟨⟨hTimely, hApart⟩, hFree⟩
  refine ⟨(timely_of_plainlyTimely s op hTimely).1, numbersApart_of_plainlyApart s op hApart, ?_⟩
  rintro request now victim subject transfer hSame hSubject hTransfer -
  cases hSame
  simp only [hSubject, hTransfer, Option.all_some, Bool.and_eq_true, bne_iff_ne,
    decide_eq_true_eq] at hFree
  exact ⟨hFree.1.1, hFree.1.2, .inr hFree.2⟩

/- A transfer is authorized twice and carried to its end. -/
def repeatedOps : List Op :=
  generationOps ++ ingressOps ++
    [ .registerTransfer { ownedRegistration with payloadBytes := 8 } 4,
      .authorizeTransfer ownedTraffic 5 0,
      .authorizeTransfer ownedTraffic 6 0,
      .completeTransfer ⟨0, 9⟩ 8 ]

theorem flow_within_transfer_finished :
    let s := sampleStart.steps repeatedOps
    ∃ transfer,
      s.transfers.lookup ⟨0, 9⟩ = some transfer ∧
        transfer.state = .completed ∧ transfer.flow = .nil ∧
        ∀ key flow, s.flows.lookup key = some flow → flow.transfer ≠ ⟨0, 9⟩ := by
  intro s
  have hState : (s.transfers.lookup ⟨0, 9⟩).map state = some .completed := by decide
  rcases Option.map_eq_some_iff.mp hState with ⟨transfer, hTransfer, hCompleted⟩
  exact ⟨transfer, hTransfer, hCompleted,
    flow_within_transfer sampleStart_started
      (run_passes sampleGenerator plainlyTidy tidy_of_plainlyTidy sampleStart repeatedOps
        (by decide)) ⟨0, 9⟩ transfer hTransfer
      (by rw [hCompleted]; rfl)⟩

/- A transfer that takes more than half of the bulk cap. -/
def bulkRegistration : TransferRegistration where
  __ := sampleTransfer .modelTransfer
  payloadBytes := 40 * 1024 * 1024

/-
  The transfer is authorized twice under the default cap. The
  second time its own flow fills the cap, so it is refused
  and its flow stays open.
-/
theorem refused_transfer_keeps_flow :
    let s := sampleStart.steps
      (generationOps ++
        [ .registerTransfer bulkRegistration 2,
          .authorizeTransfer ownedTraffic 3 0,
          .authorizeTransfer ownedTraffic 4 0 ])
    Reachable sampleGenerator {} s ∧
      (s.transfers.lookup ⟨0, 9⟩).map (fun transfer => (transfer.state, transfer.flow)) =
        some (.refused, transferFlowId 1 ⟨0, 9⟩) ∧
      s.flows.values.map FlowRecord.transfer = [⟨0, 9⟩] ∧
      s.verifyInvariants = .failure .internal "terminal transfer retains an open flow" := by
  intro s
  exact ⟨sampleStart_reachable _, by decide, by decide, by decide⟩

end Coordinator

end TrafficFabric
