import TrafficFabric.Coordinator.Accounting
import TrafficFabric.Coordinator.Booking
import TrafficFabric.Ledger.FlowClosure

/-
  The ledger stays under the limits of the configuration;
  runs that open flows under new identities.
-/

---
-- Bulk Bytes
---

namespace TrafficFabric

/- What a flow takes of the bulk allowance. -/
def FlowRecord.bulkBytes (flow : FlowRecord) : Nat :=
  if flow.bulk then flow.declaredBytes.toNat else 0

namespace Coordinator

variable {mt : Generator} {s t : Coordinator} {op : Op} {label : Label}

/- The ledger is under the limits of the configuration. -/
def Limited (s : Coordinator) : Prop :=
  s.ledger.limits = s.config.limits.ledger.normalised

theorem bootFrom_limits (mt : Generator) (s : Coordinator) (document : PersistedCoordinatorState) :
    (s.bootFrom mt document).2.ledger.limits = s.ledger.limits := by
  rcases bootFrom_ledger mt s document with ⟨restored, -, hLedger⟩
  rw [hLedger, RequestLedger.steps_limits]
  rfl

theorem Transition.limited (hTransition : Transition mt s label t) (hLimited : s.Limited) :
    t.Limited := by
  have hConfig := hTransition.config
  unfold Limited at hLimited ⊢
  rw [hConfig]
  cases hTransition with
  | op op =>
    rcases step_ledger s op with ⟨quiet, -, hLedger⟩
    rw [hLedger, RequestLedger.steps_limits, RequestLedger.steps_limits]
    exact hLimited
  | bootFresh => exact hLimited
  | reboot =>
    rw [bootFrom_limits]
    exact hLimited
  | restart _ entropy epoch hBoot =>
    have hLimits := bootFrom_limits mt (create s.config entropy) s.exportState
    rw [hBoot] at hLimits
    exact hLimits

---
-- Evaluated Runs
---

/- A transfer whose flow identities differ in one word. -/
def unmixedTransfer : StateTransferId :=
  ⟨0, 0xA24BAED4963EE407⟩

/- A registered transfer of cached state. -/
def stateTransferOps (id : StateTransferId) : List Op :=
  generationOps ++ [.registerTransfer { sampleTransfer .stateTransfer with id } 1]

def stateTransferTraffic (id : StateTransferId) : TrafficRequest where
  subject := some { kind := .transfer, transfer := id }

/- A serving flow and the flow of a transfer are opened. -/
def servedOps : List Op :=
  let asked := sampleStart.steps ingressOps
  ingressOps ++
    [ .evaluate ingressTraffic 5 0, .openFlow (asked.evaluate ingressTraffic 5 0).1 64 6 ] ++
    stateTransferOps unmixedTransfer ++
    [.authorizeTransfer (stateTransferTraffic unmixedTransfer) 7 0]

end Coordinator

end TrafficFabric
