import TrafficFabric.Coordinator.Requests
import Mathlib.Data.List.Sort

/-
  Boot and recovery: a fresh boot, a boot from a durable
  document, and the export of that document.

  The generator of boot identities is a fixed function of
  its seed. It is a parameter here: `mt seed k` stands for
  the value number `k` it yields from `seed`.
-/

namespace TrafficFabric

abbrev Generator : Type :=
  UInt64 → Nat → UInt64

namespace Coordinator

variable (mt : Generator)

def clearState (s : Coordinator) : Coordinator :=
  { s with
    topologyPresent := false
    models := ∅
    states := ∅
    sloContracts := ∅
    routeDecisions := ∅
    transfers := ∅
    flows := ∅
    flowsByRequest := []
    flowsByTransfer := []
    transfersByRequest := []
    defers := ∅
    completions := ∅
    completionOrder := []
    ledger := s.ledger.clear
    transferClassAccounting := fun _ => {}
    bulkInFlightBytes := 0
    streamingDeferrals := 0
    transfersStarted := 0
    transfersCompleted := 0
    transfersRefused := 0
    nextFlowSequence := 0 }

def bootSeedOf (bootSeed bootCount : UInt64) : UInt64 :=
  bootSeed + bootCount * (0x9E3779B97F4A7C15 : UInt64)

/- An identity from two generated values, never nil. -/
def makeRandomId (random : RandomState) : BootId × RandomState :=
  let high := mt random.seed random.drawn
  let low := mt random.seed (random.drawn + 1)
  (⟨high, if high = 0 ∧ low = 0 then 1 else low⟩, { random with drawn := random.drawn + 2 })

def reseedBootIdentity (s : Coordinator) : Coordinator :=
  let random : RandomState :=
    if s.config.bootSeed ≠ 0 then
      { seed := bootSeedOf s.config.bootSeed s.bootCount
        drawn := 0 }
    else s.random
  let made := makeRandomId mt random
  { s with
    incarnation := made.1
    random := made.2 }

def bootFresh (s : Coordinator) : Result CoordinatorEpoch × Coordinator :=
  let cleared := { s.clearState with
      epoch := ⟨1⟩
      bootCount := s.bootCount + 1 }
  let booted := { cleared.reseedBootIdentity mt with
      authoritySequence := ⟨1⟩
      policy := withGeneration s.config.policy }
  (.ok booted.epoch, booted)

/- A made identity is never nil. -/
theorem makeRandomId_ne_nil (random : RandomState) : (makeRandomId mt random).1 ≠ .nil := by
  intro hNil
  injection hNil with hHigh hLow
  by_cases hLowZero : mt random.seed (random.drawn + 1) = 0
  · simp [hHigh, hLowZero] at hLow
  · simp [hLowZero] at hLow

end Coordinator

/- Identities of a record list, none of them repeated. -/
def inspectRecords : List RequestRecord → List RequestId → Result (List RequestId)
| [], seen => .ok seen
| record :: rest, seen =>
  if record.id.isNil then .failure .malformedInput "restored request record has no identity"
  else if maxAttemptsPerRequest < record.attempts.length then
    .failure .malformedInput "restored request record exceeds the attempt ceiling"
  else if record.id ∈ seen then
    .failure .alreadyExists "restored request history repeats an identity"
  else inspectRecords rest (seen ++ [record.id])

namespace Coordinator

def validateRestoredState (s : Coordinator) (state : PersistedCoordinatorState) : Result Unit :=
  if state.formatVersion ≠ snapshotFormatVersion then
    .failure .unsupportedVersion "restored snapshot format is not supported"
  else if state.policy.validate ≠ .valid then
    .failure .policyInvalid "restored policy document is not valid"
  else if state.policy.generation.isUnset then
    .failure .malformedInput "restored policy document has no generation"
  else if s.config.limits.maxModelRecords < state.models.length then
    .failure .boundsExceeded "restored model registry exceeds its limit"
  else if state.models.any (fun entry => !entry.isValid) then
    .failure .malformedInput "restored model record is invalid"
  else if s.config.limits.maxStateRecords < state.states.length then
    .failure .boundsExceeded "restored state registry exceeds its limit"
  else if state.states.any (fun entry => !entry.isValid) then
    .failure .malformedInput "restored state record is invalid"
  else if state.topologyPresent && !state.topology.isAuthoritative then
    .failure .malformedInput "restored topology evidence is invalid"
  else do
    let seen ← inspectRecords state.terminalRequests []
    let _ ← inspectRecords state.interruptedRequests seen
    .ok ()

/- Registries of a document, flagged for revalidation. -/
def restoreModels (models : Table UInt64 ModelState) (entries : List ModelState) :
    Table UInt64 ModelState :=
  entries.foldl
    (fun table entry => table.emplace entry.modelHash { entry with requiresRevalidation := true })
    models

def restoreStates (states : Table UInt64 StateGenerationRecord)
    (entries : List StateGenerationRecord) : Table UInt64 StateGenerationRecord :=
  entries.foldl
    (fun table entry => table.emplace entry.stateHash { entry with requiresRevalidation := true })
    states

def restoreState (s : Coordinator) (state : PersistedCoordinatorState) :
    Result Unit × Coordinator :=
  match s.validateRestoredState state with
  | .error status => (.error status, s)
  | .ok () =>
    let restored := s.ledger.restoreRecords (state.terminalRequests ++ state.interruptedRequests)
    (restored.1, { s with
        policy := withNextGeneration state.policy
        models := restoreModels s.models state.models
        states := restoreStates s.states state.states
        topology :=
          if state.topologyPresent then state.topology
          else s.topology
        topologyPresent := s.topologyPresent || state.topologyPresent
        ledger := restored.2 })

/- The epoch after the one of a document. -/
def nextEpoch (epoch : CoordinatorEpoch) : CoordinatorEpoch :=
  if epoch.isUnset then ⟨1⟩ else epoch.next

/- Recovery is all or nothing. -/
def bootFrom (mt : Generator) (s : Coordinator) (restored : PersistedCoordinatorState) :
    Result CoordinatorEpoch × Coordinator :=
  let applied := s.clearState.restoreState restored
  match applied.1 with
  | .error status => (.error status, applied.2.clearState)
  | .ok () =>
    let counted := { applied.2 with
        bootCount := (if s.bootCount < restored.bootCount then
            restored.bootCount
          else s.bootCount) + 1
        epoch := nextEpoch restored.epoch }
    let booted := { counted.reseedBootIdentity mt with authoritySequence := ⟨1⟩ }
    (.ok booted.epoch, booted)

def exportState (s : Coordinator) : PersistedCoordinatorState where
  formatVersion := snapshotFormatVersion
  epoch := s.epoch
  previousIncarnation := s.incarnation
  bootCount := s.bootCount
  policy := s.policy
  topologyPresent := s.topologyPresent
  topology := s.topology
  models := s.models.values.insertionSort (fun a b => a.modelHash ≤ b.modelHash)
  states := s.states.values.insertionSort (fun a b => a.stateHash ≤ b.stateHash)
  terminalRequests :=
    s.ledger.exportTerminalRecords s.config.limits.ledger.maxRetainedTerminalRequests
  interruptedRequests := s.ledger.exportLiveRecords

end Coordinator

end TrafficFabric
