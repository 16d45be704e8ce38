import TrafficFabric.Core.Traffic

/-
  Network accounting, per class and for the whole fabric.
  Every counter has the width it has in the source.
-/

namespace TrafficFabric

structure ClassAccounting where
  allowed : UInt64 := 0
  degraded : UInt64 := 0
  deferred : UInt64 := 0
  rejected : UInt64 := 0
  bytesAllowed : UInt64 := 0
  bytesDeferred : UInt64 := 0
  bytesRejected : UInt64 := 0
  activeFlows : UInt32 := 0
  peakActiveFlows : UInt32 := 0
  starvationAdmissions : UInt32 := 0
deriving DecidableEq

structure AccountingSnapshot where
  perClass : TrafficClass → ClassAccounting := fun _ => {}
  requestsRegistered : UInt64 := 0
  requestsCompleted : UInt64 := 0
  requestsCancelled : UInt64 := 0
  requestsFailed : UInt64 := 0
  requestsInterrupted : UInt64 := 0
  requestsEvicted : UInt64 := 0
  attemptsRegistered : UInt64 := 0
  attemptsCompleted : UInt64 := 0
  attemptsFailed : UInt64 := 0
  attemptsSuperseded : UInt64 := 0
  completionsCommitted : UInt64 := 0
  completionsSuppressed : UInt64 := 0
  completionsRefused : UInt64 := 0
  transfersStarted : UInt64 := 0
  transfersCompleted : UInt64 := 0
  transfersRefused : UInt64 := 0
  activeFlowsTotal : UInt32 := 0
  peakActiveFlowsTotal : UInt32 := 0
  pendingDeferrals : UInt32 := 0
  liveRequests : Nat := 0
  retainedRequests : Nat := 0
deriving Inhabited

namespace AccountingSnapshot

/- Update the counters of one class. -/
def withClass (accounting : AccountingSnapshot) (traffic : TrafficClass)
    (f : ClassAccounting → ClassAccounting) : AccountingSnapshot :=
  { accounting with
    perClass := Function.update accounting.perClass traffic (f (accounting.perClass traffic)) }

theorem perClass_withClass (accounting : AccountingSnapshot) (traffic other : TrafficClass)
    (f : ClassAccounting → ClassAccounting) :
    (accounting.withClass traffic f).perClass other =
      if other = traffic then f (accounting.perClass other) else accounting.perClass other := by
  by_cases hSame : other = traffic
  · rw [if_pos hSame, hSame]
    exact Function.update_self ..
  · rw [if_neg hSame]
    exact Function.update_of_ne hSame ..

/- How many requests were counted in each terminal state. -/
def terminalCounts (accounting : AccountingSnapshot) : UInt64 × UInt64 × UInt64 :=
  (accounting.requestsCompleted, accounting.requestsCancelled, accounting.requestsFailed)

end AccountingSnapshot

end TrafficFabric
