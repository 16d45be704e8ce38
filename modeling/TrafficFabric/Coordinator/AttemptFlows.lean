import TrafficFabric.Coordinator.FlowChanges
import TrafficFabric.Coordinator.Lifetimes

/-
  Serving flows and the attempts they were opened for.

  A flow is opened for the current attempt of a live request.
  Replacing the attempt closes the flows of the request, and
  so does everything that ends the request. Registering
  another attempt makes that one current and closes nothing.
-/

namespace TrafficFabric

open RequestLedger

namespace Coordinator

variable {mt : Generator} {s t : Coordinator} {op : Op} {label : Label} {id : RequestId}
variable {hash : UInt64} {now : Int64}

/- The flows of a carriage are filed in every state. -/
theorem Transition.filed (hTransition : Transition mt s label t) (hFiled : s.carriage.Filed) :
    t.carriage.Filed := by
  rcases hTransition.carriage with hEmpty | ⟨op, -, hMoves⟩
  · rw [hEmpty]
    exact Carriage.indexed_empty.filed
  · exact hMoves.invariant Carriage.Filed (fun _ _ hMove => hMove.filed) hFiled

/- A replacement closes the flows or does nothing. -/
theorem replaceAttempt_unserved {old new : AttemptId} (hFiled : s.carriage.Filed)
    (hNamed : id ≠ .nil) :
    (s.replaceAttempt id old new hash now).2.carriage.Unserved id ∨
      (s.replaceAttempt id old new hash now).2.ledger = s.ledger := by
  unfold replaceAttempt
  split
  · exact .inr rfl
  dsimp only
  split
  · rename_i hRefused
    refine .inr (step_of_refused s.ledger (.supersedeAttempt id old new now) ?_
      (by simp))
    rw [RequestLedger.succeeds, hRefused]
    exact Bool.false_ne_true
  · exact .inl (releaseRequestFlows_unserved
      (s.withLedger (s.ledger.supersedeAttempt id old new now).2) hFiled hNamed)

/- A registration that is refused does nothing. -/
theorem registerAttempt_ledger {attempt : AttemptId}
    (hFailed : (s.registerAttempt id attempt hash now).1.isOk ≠ true) :
    (s.registerAttempt id attempt hash now).2.ledger = s.ledger := by
  unfold registerAttempt at hFailed ⊢
  cases hModel : s.resolveModel hash with
  | error status => rfl
  | ok model =>
    simp only [hModel] at hFailed ⊢
    exact step_of_refused s.ledger (.registerAttempt id attempt hash model .unset now)
      hFailed (by simp)

/-
  An attempt is registered for requests that have no flow
  open.
-/
def RegistersUnserved (s : Coordinator) (label : Label) : Prop :=
  ∀ request attempt hash now,
    label = .op (.registerAttempt request attempt hash now) →
    (s.registerAttempt request attempt hash now).1.isOk = true → s.carriage.Unserved request

end Coordinator

/- The view of a live request that may be served. -/
structure RequestView.Serves (view : RequestView) (attempt : AttemptId) : Prop where
  live : view.lifecycle.isTerminal = false
  valid : view.requiresRevalidation = false
  current : view.currentAttempt = attempt

namespace Coordinator

variable {s t : Coordinator} {op : Op} {id : RequestId} {attempt : AttemptId} {flow : FlowRecord}

/- The attempt is current in a request that is served. -/
def Serviceable (s : Coordinator) (id : RequestId) (attempt : AttemptId) : Prop :=
  ∃ view, s.ledger.view id = some view ∧ view.Serves attempt

theorem registerAttempt_of_event (hEvent : op.event s = some (id, .attemptRegistered attempt)) :
    ∃ hash now, op = .registerAttempt id attempt hash now := by
  cases op with
  | registerAttempt request other hash now =>
    cases hEvent
    exact ⟨hash, now, rfl⟩
  | _ => cases hEvent

theorem replaceAttempt_of_event {replacement : AttemptId}
    (hEvent : op.event s = some (id, .superseded attempt replacement)) :
    ∃ hash now,
      op = .replaceAttempt id attempt replacement hash now := by
  cases op with
  | replaceAttempt request old new hash now =>
    cases hEvent
    exact ⟨hash, now, rfl⟩
  | _ => cases hEvent

/-
  An operation that leaves a flow of the request open leaves
  its current attempt in place.
-/
theorem step_current (hCoherent : s.ledger.Coherent) (hFiled : s.carriage.Filed)
    (hRegisters : s.RegistersUnserved (.op op)) (hNamed : id ≠ .nil)
    (hServed : ¬ (s.step op).carriage.Unserved id) (hBefore : s.Serviceable id attempt) :
    (s.step op).Serviceable id attempt := by
  rcases hBefore with ⟨view, hView, hServes⟩
  have hKept (hSame : (s.step op).ledger = s.ledger) : (s.step op).Serviceable id attempt :=
    ⟨view, by rw [hSame]; exact hView, hServes⟩
  have hSpared : ¬ op.Retires s id := by
    intro hRetires
    exact hServed (step_unserved hRetires hFiled hNamed)
  by_cases hEnding : ∃ event, op.event s = some (id, event) ∧ event.Ends
  · rcases hEnding with ⟨event, hEvent, hEnds⟩
    rw [← step_view_of_not_retires hEvent hEnds hSpared] at hView
    exact ⟨view, hView, hServes⟩
  rcases step_contains_of_live hCoherent op hView
    hServes.live (fun event hEvent hEnds => hEnding ⟨event, hEvent, hEnds⟩) with ⟨next, hNext⟩
  have hChange := step_viewChange s op id
  rw [hView, hNext] at hChange
  cases hChange with
  | same => exact ⟨view, hNext, hServes⟩
  | restored _ hLabel => exact (hLabel op rfl).elim
  | evolved _ _ changed event hLabel hEvent hStep =>
    cases hLabel
    cases hStep with
    | attemptRegistered bound =>
      rcases registerAttempt_of_event hEvent with ⟨hash, now, rfl⟩
      refine hKept (registerAttempt_ledger ?_)
      intro hOk
      apply hServed
      have hSame : (s.step (.registerAttempt id bound hash now)).carriage = s.carriage := by
        simp only [step, registerAttempt]
        split
        · rfl
        · rfl
      rw [hSame]
      exact hRegisters id bound hash now rfl hOk
    | revalidated bound hLive hAwaiting =>
      rw [hServes.valid] at hAwaiting
      cases hAwaiting
    | superseded old new =>
      rcases replaceAttempt_of_event hEvent with ⟨hash, now, rfl⟩
      rcases replaceAttempt_unserved hFiled hNamed with hClosed | hSame
      · exact (hServed hClosed).elim
      · exact hKept hSame
    | stageAdvanced bound target =>
      refine ⟨_, hNext, ?_, hServes.valid, hServes.current⟩
      split
      · rfl
      · exact hServes.live
    | interrupted =>
      cases op
      all_goals cases hEvent
    | _ => exact (hEnding ⟨_, hEvent, trivial⟩).elim

theorem Opens.request_nil {decision : Decision} {bytes : UInt64}
    (hOpens : s.Opens decision bytes flow) (hKind : decision.subject.kind ≠ .serving) :
    flow.request = .nil := by
  have hSubject := hOpens.subject
  unfold SubjectFlow at hSubject
  rw [if_neg hKind] at hSubject
  exact hSubject.1

/- A new serving flow is of the current attempt. -/
theorem OpenedBy.serviceable (hOpened : s.OpenedBy flow op) (hRequest : flow.request ≠ .nil) :
    s.Serviceable flow.request flow.attempt := by
  cases hOpened with
  | opened decision bytes now hOpens hOk =>
    by_cases hKind : decision.subject.kind = .serving
    · have hSubject := hOpens.subject
      have hUse := (validateDecision_eq_ok_iff.mp hOpens.valid).2.2
      unfold SubjectFlow at hSubject
      unfold SubjectUse at hUse
      rw [if_pos hKind] at hSubject
      rw [hKind] at hUse
      rcases hSubject with ⟨hOwner, hAttempt, -⟩
      rcases hUse with ⟨record, hUse⟩
      have hCurrent := (record.isCurrentAttempt_iff _).mp hUse.current
      rw [hOwner, hAttempt]
      exact ⟨record.view, view_of_lookup hUse.retained,
        hUse.live, hUse.valid, hCurrent.2⟩
    · exact (hRequest (hOpens.request_nil hKind)).elim
  | authorized request now victim transfer hSubject _ _ hOpens =>
    refine (hRequest (hOpens.request_nil ?_)).elim
    rcases hSubject with ⟨subject, hOwn, hKind, -⟩
    rw [evaluate_subject, hOwn, Option.getD_some, hKind]
    decide

---
-- Current Flows
---

variable {mt : Generator} {s t : Coordinator} {label : Label}

/- Every serving flow is of the current attempt. -/
def FlowsCurrent (s : Coordinator) : Prop :=
  ∀ key flow, s.flows.lookup key = some flow →
    flow.request ≠ .nil → s.Serviceable flow.request flow.attempt

theorem FlowsCurrent.transition (hTransition : Transition mt s label t)
    (hRegisters : s.RegistersUnserved label) (hCoherent : s.ledger.Coherent)
    (hFiled : s.carriage.Filed) (hCurrent : s.FlowsCurrent) : t.FlowsCurrent := by
  intro key flow hFlow hRequest
  rcases hTransition.fleet with hIdle | ⟨op, rfl, rfl⟩
  · have hEmpty : t.flows = ∅ := congrArg Carriage.flows hIdle.carriage
    rw [hEmpty] at hFlow
    cases hFlow
  · refine step_current hCoherent hFiled hRegisters
      hRequest (fun hClosed => hClosed key flow hFlow rfl) ?_
    rcases step_flow_origin s hCoherent hFlow with ⟨old, hOld, hCore⟩ | ⟨-, -, hOpened⟩
    · have hSame : flow.request = old.request := (congrArg FlowRecord.request hCore :)
      have hAttempt : flow.attempt = old.attempt := (congrArg FlowRecord.attempt hCore :)
      rw [hSame] at hRequest ⊢
      rw [hAttempt]
      exact hCurrent key old hOld hRequest
    · exact hOpened.serviceable hRequest

/- What is kept of the flows along a run. -/
structure Attended (s : Coordinator) : Prop where
  coherent : s.ledger.Coherent
  filed : s.carriage.Filed
  current : s.FlowsCurrent

theorem Started.attended {config : CoordinatorConfig} (hStarted : Started mt config s) :
    s.Attended := by
  rcases hStarted with ⟨entropy, rfl⟩
  refine ⟨.clear _, Carriage.indexed_empty.filed, ?_⟩
  intro key flow hFlow
  cases hFlow

theorem Attended.transition (hAttended : s.Attended) (hTransition : Transition mt s label t)
    (hRegisters : s.RegistersUnserved label) :
    t.Attended where
  coherent := hTransition.coherent hAttended.coherent
  filed := hTransition.filed hAttended.filed
  current := hAttended.current.transition hTransition hRegisters hAttended.coherent hAttended.filed

theorem Attended.record {key : FlowId} (hAttended : s.Attended)
    (hFlow : s.flows.lookup key = some flow) (hRequest : flow.request ≠ .nil) :
    ∃ record,
      s.ledger.requests.lookup flow.request = some record ∧
        record.currentAttempt = flow.attempt := by
  rcases hAttended.current key flow hFlow hRequest with ⟨view, hView, hServes⟩
  rcases (view_eq_some_iff _ _ _).mp hView with ⟨record, hRecord, rfl⟩
  exact ⟨record, hRecord, hServes.current⟩

/-
  In a run that registers attempts for requests without
  flows, every serving flow is of the current attempt of its
  request, and a step that makes another attempt current
  leaves the displaced one no flow.
-/
theorem serving_flows_current {config : CoordinatorConfig} {start : Coordinator}
    {labels : List Label} (hStarted : Started mt config start)
    (hRun : Run (Guarded RegistersUnserved (Transition mt)) start labels t) :
    (∀ key flow, t.flows.lookup key = some flow →
      flow.request ≠ .nil →
      ∃ record,
        t.ledger.requests.lookup flow.request = some record ∧
          record.currentAttempt = flow.attempt) ∧
      ∀ label next id before after, Guarded RegistersUnserved (Transition mt) t label next →
        t.ledger.requests.lookup id = some before → next.ledger.requests.lookup id = some after →
        after.currentAttempt ≠ before.currentAttempt →
        ∀ key flow, next.flows.lookup key = some flow →
          flow.request = id → flow.attempt ≠ before.currentAttempt := by
  have hAttended : t.Attended :=
    hRun.invariant Attended (fun _ _ _ hStep hBefore => hBefore.transition hStep.2 hStep.1)
      hStarted.attended
  refine ⟨fun key flow hFlow hRequest => hAttended.record hFlow hRequest, ?_⟩
  rintro label next id before after ⟨hRegisters, hStep⟩ hBefore hAfter hDisplaced key flow hFlow rfl
  have hNamed : flow.request ≠ .nil := by
    intro hNil
    rw [hNil, hAttended.coherent.named] at hBefore
    cases hBefore
  rcases (hAttended.transition hStep hRegisters).record
    hFlow hNamed with ⟨record, hRecord, hCurrent⟩
  rw [hAfter] at hRecord
  cases hRecord
  rw [← hCurrent]
  exact hDisplaced

/- No flow is seen of the request an attempt is for. -/
def plainlyUnserved (s : Coordinator) (op : Op) : Bool :=
  match op with
  | .registerAttempt request _ _ _ => s.flows.values.all (fun flow => flow.request ≠ request)
  | _ => true

theorem registersUnserved_of_plainlyUnserved (s : Coordinator) (op : Op)
    (hPlain : plainlyUnserved s op = true) : s.RegistersUnserved (.op op) := by
  rintro request attempt hash now hSame - key flow hFlow
  cases hSame
  have hAll := List.all_eq_true.mp hPlain flow ((AList.mem_values_iff _ _).mpr ⟨key, hFlow⟩)
  simpa using hAll

theorem serving_flows_current_served :
    let s := sampleStart.steps servedOps
    (s.flows.values.map (fun flow =>
        (flow.request, flow.attempt))).contains (⟨0, 1⟩, ⟨0, 2⟩) = true ∧
      ∀ key flow, s.flows.lookup key = some flow →
        flow.request ≠ .nil →
        ∃ record,
          s.ledger.requests.lookup flow.request = some record ∧
            record.currentAttempt = flow.attempt := by
  intro s
  have hCurrent := serving_flows_current sampleStart_started
    (run_passes sampleGenerator plainlyUnserved registersUnserved_of_plainlyUnserved sampleStart
      servedOps (by decide))
  exact ⟨by decide, hCurrent.1⟩

/-
  Another attempt is registered for the request. It is
  current then, and the flow of the attempt before it stays
  open.
-/
theorem displaced_attempt_keeps_flow :
    let s := sampleStart.steps servedOps
    let t := s.step (.registerAttempt ⟨0, 1⟩ ⟨0, 3⟩ 0 8)
    Reachable sampleGenerator {} t ∧
      (s.ledger.requests.lookup ⟨0, 1⟩).map RequestRecord.currentAttempt = some ⟨0, 2⟩ ∧
      (t.ledger.requests.lookup ⟨0, 1⟩).map RequestRecord.currentAttempt = some ⟨0, 3⟩ ∧
      (t.flows.values.map (fun flow =>
        (flow.request, flow.attempt))).contains (⟨0, 1⟩, ⟨0, 2⟩) = true := by
  intro s t
  refine ⟨?_, by decide, by decide, by decide⟩
  exact (sampleStart_reachable servedOps).step (.op s _)

end Coordinator

end TrafficFabric
