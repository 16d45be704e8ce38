import TrafficFabric.Coordinator.Snapshots

/-
  The operations of a coordinator as one of its requests
  sees them. A run is followed by the request machine, step
  for step, through the events that name the request.
-/

namespace TrafficFabric

namespace Coordinator

variable {s : Coordinator} {id : RequestId} {view : RequestView}

/- The events of a run that name a request. -/
def named (id : RequestId) (s : Coordinator) : List Op → List RequestEvent
| [] => []
| op :: rest =>
  (((op.event s).filter (fun pair => pair.1 = id)).map Prod.snd).toList ++ (s.step op).named id rest

/- The request is live in a view that the machine reaches. -/
def Traces (id : RequestId) (limits : LedgerLimits) (view : RequestView)
    (events : List RequestEvent) (s : Coordinator) : Prop :=
  ∃ taken next,
    taken.Sublist events ∧
      Run (RequestView.Step limits) view taken next ∧
      s.ledger.view id = some next ∧ next.lifecycle.isTerminal = false

theorem step_traces (hCoherent : s.ledger.Coherent) (hView : s.ledger.view id = some view)
    (hLive : view.lifecycle.isTerminal = false) (op : Op)
    (hSpared : ∀ event ∈ s.named id [op], ¬ event.Ends) :
    Traces id s.ledger.limits view (s.named id [op]) (s.step op) := by
  have hNamed (event : RequestEvent) (hEvent : op.event s = some (id, event)) :
      s.named id [op] = [event] := by
    simp [named, hEvent]
  have hEnds (event : RequestEvent) (hEvent : op.event s = some (id, event)) : ¬ event.Ends := by
    apply hSpared
    simp [hNamed event hEvent]
  rcases step_contains_of_live hCoherent op hView hLive hEnds with ⟨next, hNext⟩
  have hChange := step_viewChange s op id
  rw [hView, hNext] at hChange
  cases hChange with
  | same => exact ⟨[], view, List.nil_sublist _, .nil view, hNext, hLive⟩
  | restored _ hLabel => exact (hLabel op rfl).elim
  | evolved _ _ _ event hLabel hEvent hStep =>
    cases hLabel
    refine ⟨[event], next, ?_, Run.single hStep, hNext, ?_⟩
    · rw [hNamed event hEvent]
    · rw [← Bool.not_eq_true]
      exact fun hDone => hEnds event hEvent (hStep.ends hLive hDone)

/-
  Unless an operation ends it, a live request is there after
  any run, in a view the request machine reaches from the
  first one by events of the run that name it, in order.
  What names other requests does not touch it.
-/
theorem live_request_traced (mt : Generator) (config : CoordinatorConfig)
    (s : Coordinator) (id : RequestId) (view : RequestView) (ops : List Op)
    (hReachable : Reachable mt config s) (hView : s.ledger.view id = some view)
    (hLive : view.lifecycle.isTerminal = false) (hSpared : ∀ event ∈ s.named id ops, ¬ event.Ends) :
    Traces id s.ledger.limits view (s.named id ops) (s.steps ops) := by
  induction ops generalizing s view with
  | nil => exact ⟨[], view, List.nil_sublist _, .nil view, hView, hLive⟩
  | cons op rest ih =>
    have hSplit : s.named id (op :: rest) = s.named id [op] ++ (s.step op).named id rest := by
      simp [named]
    rw [hSplit] at hSpared ⊢
    rcases step_traces hReachable.coherent hView hLive op (fun event hEvent =>
      hSpared event (List.mem_append_left _ hEvent)) with ⟨first, mid, hFirst, hRun, hMid, hOpen⟩
    rcases ih (s.step op) mid (hReachable.step (.op s op)) hMid hOpen (fun event hEvent =>
      hSpared event (List.mem_append_right _ hEvent)) with ⟨later, next, hLater, hRest, hNext⟩
    rw [step_ledger_limits] at hRest
    exact ⟨first ++ later, next, hFirst.append hLater, hRun.append hRest, hNext⟩

/- Another request is cancelled while this one advances. -/
def elsewhereOps : List Op :=
  [ .registerRequest ⟨0, 9⟩ 6,
    .cancelRequest ⟨0, 9⟩ .rejectedRequestCancelled 7,
    .advanceStage ⟨0, 1⟩ ⟨0, 2⟩ .routing 8 ]

theorem live_request_traced_ingress :
    let s := sampleStart.steps ingressOps
    ∃ view, Traces ⟨0, 1⟩ s.ledger.limits view [.stageAdvanced ⟨0, 2⟩ .routing]
      (s.steps elsewhereOps) := by
  intro s
  have hLive : (s.ledger.view ⟨0, 1⟩).any (fun view => !view.lifecycle.isTerminal) = true := by
    decide
  rcases hView : s.ledger.view ⟨0, 1⟩ with - | view
  · rw [hView] at hLive
    cases hLive
  · rw [hView, Option.any_some, Bool.not_eq_true'] at hLive
    refine ⟨view, live_request_traced sampleGenerator {} s ⟨0, 1⟩ view elsewhereOps
      (sampleStart_reachable ingressOps) hView hLive ?_⟩
    intro event hEvent
    rw [List.mem_singleton.mp hEvent]
    exact id

end Coordinator

end TrafficFabric
