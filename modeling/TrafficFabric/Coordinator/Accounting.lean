import TrafficFabric.Library.Index
import TrafficFabric.Coordinator.Registries

/-
  The accounting a coordinator reports: the counters of the
  ledger, the decisions about transfers, and the flows of
  transfers, which the ledger does not know.
-/

namespace TrafficFabric

/- Add the decisions about transfers of one class. -/
def ClassAccounting.plus (base extra : ClassAccounting) : ClassAccounting :=
  { base with
    allowed := base.allowed + extra.allowed
    degraded := base.degraded + extra.degraded
    deferred := base.deferred + extra.deferred
    rejected := base.rejected + extra.rejected
    bytesAllowed := base.bytesAllowed + extra.bytesAllowed
    bytesDeferred := base.bytesDeferred + extra.bytesDeferred
    bytesRejected := base.bytesRejected + extra.bytesRejected
    starvationAdmissions := base.starvationAdmissions + extra.starvationAdmissions }

/- Count an open flow unless the ledger has counted it. -/
def AccountingSnapshot.countFlow (snapshot : AccountingSnapshot) (flow : FlowRecord) :
    AccountingSnapshot :=
  if !flow.request.isNil then snapshot
  else
    { snapshot with
      activeFlowsTotal := snapshot.activeFlowsTotal + 1 }.withClass
      flow.traffic (fun entry => { entry with activeFlows := entry.activeFlows + 1 })

def Coordinator.accounting (s : Coordinator) : AccountingSnapshot :=
  let ledger := s.ledger.accounting
  let decided := { ledger with
      perClass := fun traffic =>
        (ledger.perClass traffic).plus (s.transferClassAccounting traffic) }
  let counted := s.flows.values.foldl AccountingSnapshot.countFlow decided
  { counted with
    peakActiveFlowsTotal :=
      if counted.peakActiveFlowsTotal < counted.activeFlowsTotal then counted.activeFlowsTotal
      else counted.peakActiveFlowsTotal
    transfersStarted := s.transfersStarted
    transfersCompleted := s.transfersCompleted
    transfersRefused := s.transfersRefused
    pendingDeferrals := UInt32.ofNat s.defers.size }

structure CoordinatorStatus where
  epoch : CoordinatorEpoch := .unset
  incarnation : BootId := .nil
  policyGeneration : PolicyGeneration := .unset
  topologyGeneration : TopologyGeneration := .unset
  topologyState : EvidenceState := .unknown
  topologyProvenance : EvidenceProvenance := .unknown
  liveRequests : Nat := 0
  transfers : Nat := 0
  activeFlows : UInt32 := 0
  authoritySequence : UInt64 := 0
deriving DecidableEq

namespace Coordinator

/- The flows of the ledger, and those without a request. -/
def accountingUnlockedActiveFlows (s : Coordinator) (snapshot : AccountingSnapshot) : UInt32 :=
  s.flows.values.foldl (fun total flow =>
      if flow.request.isNil then total + 1 else total)
    snapshot.activeFlowsTotal

def status (s : Coordinator) (now : Int64) : CoordinatorStatus :=
  let snapshot := s.ledger.accounting
  { epoch := s.epoch
    incarnation := s.incarnation
    policyGeneration := s.policy.generation
    topologyGeneration := s.topology.generation
    topologyState := s.topologyState now
    topologyProvenance :=
      if s.topologyPresent then s.topology.provenance
      else .unknown
    transfers := s.transfers.size
    liveRequests := snapshot.liveRequests
    activeFlows := s.accountingUnlockedActiveFlows snapshot
    authoritySequence := s.authoritySequence.value }

end Coordinator

end TrafficFabric
