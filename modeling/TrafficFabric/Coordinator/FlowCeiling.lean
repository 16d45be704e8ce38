import TrafficFabric.Coordinator.FlowAgreement
import TrafficFabric.Coordinator.FlowChanges
import TrafficFabric.Coordinator.Inspection

/-
  The ceiling on open flows.

  The ledger refuses a flow at its limit, but it counts the
  flows of requests only: a flow of a transfer is opened
  beside it and is not counted. The self check compares all
  open flows with the limit as it was configured, which the
  ledger raises to one when it is zero.
-/

namespace TrafficFabric

namespace Coordinator

/- What the self check reports above the ceiling. -/
def ceilingFailure : Result Unit :=
  .failure .internal "flow records exceed their configured ceiling"

/- A check that fails with another text. -/
theorem failure_ne_ceilingFailure {code : StatusCode} {text : String}
    (hText : text ≠ "flow records exceed their configured ceiling") :
    Result.failure code text ≠ ceilingFailure := by
  intro hSame
  exact hText (congrArg Status.message (Except.error.inj hSame))

theorem ok_ne_ceilingFailure : (.ok () : Result Unit) ≠ ceilingFailure := by
  intro hSame
  cases hSame

theorem verifyRecord_ne_ceilingFailure (record : RequestRecord) :
    RequestLedger.verifyRecord record ≠ ceilingFailure := by
  unfold RequestLedger.verifyRecord
  split
  · exact failure_ne_ceilingFailure (by decide)
  · split
    · exact failure_ne_ceilingFailure (by decide)
    · exact ok_ne_ceilingFailure

theorem verifyClosure_ne_ceilingFailure (ledger : RequestLedger) :
    ledger.verifyClosure ≠ ceilingFailure := by
  unfold RequestLedger.verifyClosure
  split
  · exact failure_ne_ceilingFailure (by decide)
  · split
    · exact failure_ne_ceilingFailure (by decide)
    · intro hFails
      rcases Except.exists_of_forM_eq_error hFails with ⟨record, -, hRecord⟩
      exact verifyRecord_ne_ceilingFailure record hRecord

theorem inspectFlow_ne_ceilingFailure (s : Coordinator) (flow : FlowRecord) :
    s.inspectFlow flow ≠ ceilingFailure := by
  unfold inspectFlow inspectServing inspectCarrying
  repeat' split
  all_goals first
    | exact failure_ne_ceilingFailure (by decide)
    | exact ok_ne_ceilingFailure

/- Only a full flow table is reported as one. -/
theorem verifyInvariants_eq_ceilingFailure {s : Coordinator}
    (hFails : s.verifyInvariants = ceilingFailure) :
    s.config.limits.ledger.maxActiveFlowsTotal < s.flows.size := by
  rcases (Except.bind_eq_error_iff _ _ _).mp hFails with hClosure | ⟨-, -, hRest⟩
  · exact (verifyClosure_ne_ceilingFailure _ hClosure).elim
  · rcases (Except.bind_eq_error_iff _ _ _).mp hRest with hFlows | ⟨-, -, hCounters⟩
    · rcases Except.exists_of_forM_eq_error hFlows with ⟨flow, -, hFlow⟩
      exact (inspectFlow_ne_ceilingFailure s flow hFlow).elim
    · by_contra hWithin
      unfold verifyCounters at hCounters
      repeat' split at hCounters
      all_goals first
        | exact failure_ne_ceilingFailure (by decide) hCounters
        | exact ok_ne_ceilingFailure hCounters

variable {mt : Generator} {s t : Coordinator} {label : Label}

/-
  An operation adds at most one flow, and none unless it
  mints an identity.
-/
theorem step_flows_size (hCoherent : s.ledger.Coherent) (op : Op) :
    (s.step op).flows.size ≤ s.flows.size ∨
      (∃ flow, s.minted op = some flow) ∧ (s.step op).flows.size ≤ s.flows.size + 1 := by
  rcases step_cargo s hCoherent op with
    hSame | ⟨terms, hQuiet, hMoves⟩ | ⟨flow, -, hMinted, hStored⟩
  · exact .inl (by rw [flows_of_cargo hSame])
  · refine .inl (AList.size_le_of_subset ?_)
    intro key hMem
    rcases (AList.mem_iff_lookup _ key).mp hMem with ⟨flow, hFlow⟩
    rcases hMoves.flow_old hQuiet hFlow with ⟨old, hOld, -⟩
    exact (AList.mem_iff_lookup _ key).mpr ⟨old, hOld⟩
  · refine .inr ⟨⟨flow.id, hMinted⟩, ?_⟩
    rw [flows_of_cargo_add hStored]
    exact AList.size_emplace_le s.flows flow.id flow

/- Flows are opened below the limit of the ledger. -/
def OpensWithRoom (s : Coordinator) (label : Label) : Prop :=
  ∀ op flow, label = .op op → s.minted op = some flow →
    s.flows.size < s.ledger.limits.maxActiveFlowsTotal

/- The flows are no more than the ledger would allow. -/
def WithinCeiling (s : Coordinator) : Prop :=
  s.flows.size ≤ s.ledger.limits.maxActiveFlowsTotal

theorem WithinCeiling.transition (hTransition : Transition mt s label t)
    (hRoom : s.OpensWithRoom label) (hCoherent : s.ledger.Coherent)
    (hLimits : t.ledger.limits = s.ledger.limits) (hWithin : s.WithinCeiling) :
    t.WithinCeiling := by
  unfold WithinCeiling at hWithin ⊢
  rw [hLimits]
  rcases hTransition.fleet with hIdle | ⟨op, rfl, rfl⟩
  · have hEmpty : t.flows = ∅ := congrArg Carriage.flows hIdle.carriage
    rw [hEmpty]
    exact Nat.zero_le _
  · rcases step_flows_size hCoherent op with hFewer | ⟨⟨flow, hMinted⟩, hOne⟩
    · exact hFewer.trans hWithin
    · have hSpare := hRoom op flow rfl hMinted
      omega

/-
  A run that opens its flows below the limit keeps them
  within it. Under a limit that is not zero the ceiling is
  then never reported as exceeded.
-/
theorem flows_within_ceiling {config : CoordinatorConfig} {start : Coordinator}
    {labels : List Label} (hStarted : Started mt config start)
    (hRun : Run (Guarded OpensWithRoom (Transition mt)) start labels t) :
    t.flows.size ≤ t.ledger.limits.maxActiveFlowsTotal ∧
      (config.limits.ledger.maxActiveFlowsTotal ≠ 0 → t.verifyInvariants ≠ ceilingFailure) := by
  have hKept : t.config = config ∧ t.Limited ∧ t.ledger.Coherent ∧ t.WithinCeiling := by
    refine hRun.invariant
      (fun state => state.config = config ∧
        state.Limited ∧ state.ledger.Coherent ∧ state.WithinCeiling) ?_ ?_
    · rintro state label next ⟨hRoom, hStep⟩ ⟨hConfig, hLimited, hCoherent, hWithin⟩
      have hAfter := hStep.limited hLimited
      have hLimits : next.ledger.limits = state.ledger.limits := by
        rw [show next.ledger.limits = _ from hAfter, hStep.config]
        exact hLimited.symm
      exact ⟨hStep.config.trans hConfig, hAfter, hStep.coherent hCoherent,
        hWithin.transition hStep hRoom hCoherent hLimits⟩
    · rcases hStarted with ⟨entropy, rfl⟩
      exact ⟨rfl, rfl, .clear _, Nat.zero_le _⟩
  rcases hKept with ⟨hConfig, hLimited, -, hWithin⟩
  refine ⟨hWithin, ?_⟩
  intro hSet hFails
  have hAbove := verifyInvariants_eq_ceilingFailure hFails
  unfold WithinCeiling at hWithin
  rw [show t.ledger.limits = _ from hLimited, hConfig] at hWithin
  rw [hConfig] at hAbove
  change _ ≤ max _ 1 at hWithin
  omega

/- There is seen to be room for one more flow. -/
def plainlyRoomy (s : Coordinator) (_ : Op) : Bool :=
  s.flows.size < s.ledger.limits.maxActiveFlowsTotal

theorem opensWithRoom_of_plainlyRoomy (s : Coordinator) (op : Op)
    (hPlain : plainlyRoomy s op = true) : s.OpensWithRoom (.op op) := by
  intro other flow hSame hMinted
  simpa [plainlyRoomy] using hPlain

theorem flows_within_ceiling_served :
    let s := sampleStart.steps servedOps
    s.flows.size = 2 ∧
      s.flows.size ≤ s.ledger.limits.maxActiveFlowsTotal ∧ s.verifyInvariants ≠ ceilingFailure := by
  intro s
  have hWithin := flows_within_ceiling sampleStart_started
    (run_passes sampleGenerator plainlyRoomy opensWithRoom_of_plainlyRoomy sampleStart servedOps
      (by decide))
  exact ⟨by decide, hWithin.1, hWithin.2 (by decide)⟩

/- A coordinator under a limit on its open flows. -/
def ceilingConfig (limit : Nat) : CoordinatorConfig where
  limits := { ledger := { maxActiveFlowsTotal := limit } }

def ceilingStart (limit : Nat) : Coordinator :=
  ((create (ceilingConfig limit) 1).bootFresh sampleGenerator).2

theorem ceilingStart_reachable (limit : Nat) (ops : List Op) :
    Reachable sampleGenerator (ceilingConfig limit) ((ceilingStart limit).steps ops) :=
  ⟨ceilingStart limit, ops.map Label.op, ⟨1, rfl⟩,
    run_steps sampleGenerator (ceilingStart limit) ops⟩

/- Two transfers are authorized. -/
def carriedOps : List Op :=
  stateTransferOps ⟨0, 9⟩ ++
    [ .registerTransfer { sampleTransfer .stateTransfer with id := ⟨0, 10⟩ } 2,
      .authorizeTransfer (stateTransferTraffic ⟨0, 9⟩) 3 0,
      .authorizeTransfer (stateTransferTraffic ⟨0, 10⟩) 4 0 ]

/- The attempt of a request opens a flow. -/
def ingressFlowOps (limit : Nat) : List Op :=
  let asked := (ceilingStart limit).steps ingressOps
  ingressOps ++
    [ .evaluate ingressTraffic 5 0, .openFlow (asked.evaluate ingressTraffic 5 0).1 64 6 ]

/-
  Two transfers have a flow each under a limit of one. Under
  a configured limit of zero, which the ledger takes for
  one, a single serving flow is reported.
-/
theorem transfer_flows_exceed_ceiling :
    (∃ s : Coordinator,
      Reachable sampleGenerator (ceilingConfig 1) s ∧
        s.ledger.limits.maxActiveFlowsTotal = 1 ∧ s.flows.size = 2 ∧
        s.verifyInvariants = ceilingFailure) ∧
      ∃ s : Coordinator,
        Reachable sampleGenerator (ceilingConfig 0) s ∧
          s.ledger.limits.maxActiveFlowsTotal = 1 ∧ s.flows.size = 1 ∧
          s.verifyInvariants = ceilingFailure := by
  refine ⟨⟨(ceilingStart 1).steps carriedOps, ceilingStart_reachable 1 carriedOps, ?_⟩,
    (ceilingStart 0).steps (ingressFlowOps 0), ceilingStart_reachable 0 (ingressFlowOps 0), ?_⟩
  · exact ⟨by decide, by decide, by decide⟩
  · exact ⟨by decide, by decide, by decide⟩

end Coordinator

end TrafficFabric
