import TrafficFabric.Coordinator.Restoration

/-
  The topology a boot restores is evidence of an earlier
  boot, and traffic that needs current evidence has to wait
  for the next publication.

  The grace of a policy for old evidence does not tell
  evidence of this boot that has aged from evidence of
  another boot, and it compares the observation with a clock
  that need not be the one it was made by. So the wait needs
  that the grace does not reach the restored observation.
-/

namespace TrafficFabric

namespace Coordinator

variable {s : Coordinator} {op : Op} {mt : Generator}
variable {document : PersistedCoordinatorState}

/- The operation publishes a topology, and succeeds. -/
def Publishes (s : Coordinator) (op : Op) : Prop :=
  ∃ evidence now,
    op = .publishTopology evidence now ∧ (s.publishTopology evidence now).1.isOk = true

/- Operations of one boot that publish no topology. -/
def Unpublished (s : Coordinator) (op : Op) (after : Coordinator) : Prop :=
  ¬ s.Publishes op ∧ after = s.step op

/- The evidence a coordinator holds, and its own boot. -/
structure Evidence where
  present : Bool
  topology : TopologyEvidence
  incarnation : BootId

def evidence (s : Coordinator) : Evidence where
  present := s.topologyPresent
  topology := s.topology
  incarnation := s.incarnation

/- A publication that fails changes nothing. -/
theorem publishTopology_of_failed {evidence : TopologyEvidence} {now : Int64}
    (hFailed : ¬ (s.publishTopology evidence now).1.isOk = true) :
    (s.publishTopology evidence now).2 = s := by
  rcases publishTopology_cases s evidence now with ⟨-, status, hAnswer⟩ | ⟨-, hAnswer⟩
  · rw [hAnswer]
  · rw [hAnswer] at hFailed
    exact absurd rfl hFailed

/- Only a publication changes the evidence. -/
theorem step_evidence (hQuiet : ¬ s.Publishes op) : (s.step op).evidence = s.evidence := by
  by_cases hOp : op.Configures
  · have hConfigured := step_configured s op hOp
    generalize hNext : s.step op = t at hConfigured ⊢
    cases hConfigured with
    | topology evidence now hFit =>
      have hFailed : ¬ (s.publishTopology evidence now).1.isOk = true := by
        intro hOk
        exact hQuiet ⟨evidence, now, rfl, hOk⟩
      rw [← hNext]
      change (s.publishTopology evidence now).2.evidence = _
      rw [publishTopology_of_failed hFailed]
    | _ => rfl
  · have hSame := step_durable s op hOp
    unfold evidence
    rw [show (s.step op).topologyPresent =
          s.topologyPresent from congrArg DurableState.topologyPresent hSame,
      show (s.step op).topology = s.topology from congrArg DurableState.topology hSame,
      show (s.step op).incarnation = s.incarnation from congrArg DurableState.incarnation hSame]

/- Evidence of another boot is never current. -/
theorem topologyState_ne_current
    (hForeign : s.topologyPresent = true → s.topology.observedBoot ≠ s.incarnation) (now : Int64) :
    s.topologyState now ≠ .current := by
  unfold topologyState
  cases hPresent : s.topologyPresent with
  | false => simp
  | true => simp [hForeign hPresent]

theorem bootFrom_topology (hAccepted : (s.bootFrom mt document).1.isOk = true)
    (hPresent : (s.bootFrom mt document).2.topologyPresent = true) :
    (s.bootFrom mt document).2.topology = document.topology := by
  have hValid := (bootFrom_isOk_iff mt s document).mp hAccepted
  rcases restoreRecords_of_validated hValid with ⟨ledger, -, hRestored, -⟩
  rcases bootFrom_of_accepted mt hValid hRestored with ⟨-, -, -, hDurable⟩
  have hHeld : (s.bootFrom mt document).2.topologyPresent = document.topologyPresent :=
    congrArg DurableState.topologyPresent hDurable
  have hTopology : (s.bootFrom mt document).2.topology =
        if document.topologyPresent then document.topology
        else s.topology :=
    congrArg DurableState.topology hDurable
  rw [hTopology, if_pos (hHeld ▸ hPresent)]

/- Operations of other kinds publish nothing. -/
theorem run_unpublished (ops : List Op) (s : Coordinator)
    (hOther : ∀ op ∈ ops, ∀ evidence now, op ≠ .publishTopology evidence now) :
    Run Unpublished s ops (s.steps ops) := by
  induction ops generalizing s with
  | nil => exact .nil s
  | cons op rest ih =>
    refine .cons ⟨?_, rfl⟩ (ih (s.step op) ?_)
    · rintro ⟨evidence, now, hOp, -⟩
      exact hOther op List.mem_cons_self evidence now hOp
    · intro later hLater
      exact hOther later (List.mem_cons_of_mem op hLater)

/-
  After a boot from any accepted document, and until a
  topology is published, no decision permits traffic of a
  class that requires current topology, as long as the grace
  of the policy does not reach the restored observation.
-/
theorem restored_topology_not_current (mt : Generator) (s : Coordinator)
    (document : PersistedCoordinatorState) (hAccepted : (s.bootFrom mt document).1.isOk = true)
    (hForeign : document.topology.observedBoot ≠ (s.bootFrom mt document).2.incarnation)
    (ops : List Op) (after : Coordinator)
    (hRun : Run Unpublished (s.bootFrom mt document).2 ops after) (request : TrafficRequest)
    (now : Int64) (victim : Nat) (hGrace : after.withinGrace now = false)
    (hPermits : (after.evaluate request now victim).1.permitsTraffic = true) :
    (after.policy.rule (after.evaluate request now victim).1.treatment.trafficClass
      ).requiresCurrentTopology = false := by
  have hKept : after.evidence = (s.bootFrom mt document).2.evidence := by
    apply hRun.invariant (fun state => state.evidence = (s.bootFrom mt document).2.evidence)
    · rintro state op next ⟨hQuiet, rfl⟩ hState
      exact (step_evidence hQuiet).trans hState
    · rfl
  have hOther : after.topologyPresent = true → after.topology.observedBoot ≠ after.incarnation := by
    intro hPresent
    have hPresentEq : after.topologyPresent = (s.bootFrom mt document).2.topologyPresent :=
      congrArg Evidence.present hKept
    have hTopologyEq : after.topology = (s.bootFrom mt document).2.topology :=
      congrArg Evidence.topology hKept
    have hIncarnationEq : after.incarnation = (s.bootFrom mt document).2.incarnation :=
      congrArg Evidence.incarnation hKept
    rw [hPresentEq] at hPresent
    rw [hTopologyEq, hIncarnationEq, bootFrom_topology hAccepted hPresent]
    exact hForeign
  have hGrounds := evaluate_grounds hPermits
  by_contra hRequires
  have hEvidence := (hGrounds.topology (by simpa using hRequires)).1
  rcases hEvidence with hCurrent | hWithin
  · exact topologyState_ne_current hOther now hCurrent
  · rw [hGrace] at hWithin
    cases hWithin

/- A policy that bears with evidence of up to a second. -/
def gracePolicy : PolicyConfig :=
  { PolicyConfig.canonicalDefaults .unset with staleEvidenceGraceNanos := 1000000000 }

/- The document of a boot that observed a topology at 5. -/
def observedDocument : PersistedCoordinatorState :=
  (sampleStart.steps
    [.applyPolicy gracePolicy,
      .publishTopology { provenance := .measured, nodeCount := 1 } 5]).exportState

/- The next boot, from that document. -/
def observedBoot : Result CoordinatorEpoch × Coordinator :=
  sampleStart.bootFrom sampleGenerator observedDocument

/- Ingress traffic needs no topology and is permitted. -/
theorem restored_topology_not_current_ingress :
    ((observedBoot.2.steps ingressOps).evaluate ingressTraffic 4 0).1.permitsTraffic = true ∧
      ((observedBoot.2.steps ingressOps).policy.rule
        ((observedBoot.2.steps ingressOps).evaluate ingressTraffic 4 0).1.treatment.trafficClass
        ).requiresCurrentTopology = false := by
  have hRun : Run Unpublished observedBoot.2 ingressOps (observedBoot.2.steps ingressOps) := by
    apply run_unpublished
    intro op hMem
    simp only [ingressOps, List.mem_cons, List.not_mem_nil, or_false] at hMem
    rcases hMem with rfl | rfl | rfl | rfl | rfl
    all_goals simp
  have hAccepted : observedBoot.1.isOk = true := by decide +kernel
  have hForeign : observedDocument.topology.observedBoot ≠ observedBoot.2.incarnation := by
    decide +kernel
  have hGrace : (observedBoot.2.steps ingressOps).withinGrace 4 = false := by decide +kernel
  have hPermits :
      ((observedBoot.2.steps ingressOps).evaluate ingressTraffic 4 0).1.permitsTraffic = true := by
    decide +kernel
  exact ⟨hPermits,
    restored_topology_not_current sampleGenerator sampleStart
      observedDocument hAccepted hForeign ingressOps _ hRun ingressTraffic 4 0 hGrace hPermits⟩

/- The transfer of a boot that restored a topology. -/
def restoredTransferOps : List Op :=
  [.setModelGeneration 1 none,
    .advanceStateGeneration 1 none,
    .registerRequest ⟨0, 1⟩ 1,
    .registerTransfer ownedRegistration 1]

/-
  The next boot of a coordinator finds the topology of the
  last one, and permits a transfer that requires a current
  topology, because it came with an observation less than a
  second before the clock it reads.
-/
theorem restored_topology_within_grace :
    let after := observedBoot.2.steps restoredTransferOps
    let decision := (after.evaluate (ownedTransferTraffic ⟨1⟩) 10 0).1
    observedBoot.1.isOk = true ∧
      after.topologyState 10 = .revalidationRequired ∧ decision.permitsTraffic = true ∧
      (after.policy.rule decision.treatment.trafficClass ).requiresCurrentTopology = true := by
  decide +kernel

end Coordinator

end TrafficFabric
