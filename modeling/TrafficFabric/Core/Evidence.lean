import TrafficFabric.Core.Traffic

/-
  Evidence the coordinator consults: topology, contracts,
  route decisions and the model and state generations.

  Products of 32-bit counts wrap, as they do in the source.
-/

namespace TrafficFabric

inductive EvidenceProvenance
| unknown
| synthetic
| measured
deriving DecidableEq, Inhabited

instance : Enumeration EvidenceProvenance where
  listed := [.unknown, .synthetic, .measured]

structure TopologyEvidence where
  generation : TopologyGeneration := .unset
  provenance : EvidenceProvenance := .unknown
  observedBoot : BootId := .nil
  observedAtNanos : Int64 := 0
  maxAgeNanos : UInt64 := 0
  nodeCount : UInt32 := 0
  acceleratorCount : UInt32 := 0
  linkCount : UInt32 := 0
  fabricBytesPerSec : UInt64 := 0
  queueDepth : UInt32 := 0
  congestionSignalled : Bool := false
  disaggregated : Bool := false
deriving DecidableEq

namespace TopologyEvidence

/- What the reporter of the evidence is responsible for. -/
def isValid (evidence : TopologyEvidence) : Bool :=
  if evidence.provenance = .unknown then false
  else if evidence.nodeCount = 0 then false
  else if evidence.nodeCount * evidence.nodeCount < evidence.linkCount then false
  else if evidence.nodeCount * 64 < evidence.acceleratorCount then false
  else true

/- Validity with the fields the coordinator assigns. -/
def isAuthoritative (evidence : TopologyEvidence) : Bool :=
  evidence.isValid && !evidence.generation.isUnset && !evidence.observedBoot.isNil

/- The bounds on the counts, without a limit on products. -/
structure Plausible (evidence : TopologyEvidence) : Prop where
  known : evidence.provenance ≠ .unknown
  nodes : 0 < evidence.nodeCount.toNat
  links : evidence.linkCount.toNat ≤ evidence.nodeCount.toNat ^ 2
  accelerators : evidence.acceleratorCount.toNat ≤ 64 * evidence.nodeCount.toNat

/- The counts are within the products of 32 bits. -/
def WithinProducts (evidence : TopologyEvidence) : Prop :=
  evidence.linkCount.toNat ≤ evidence.nodeCount.toNat ^ 2 % 2 ^ 32 ∧
    evidence.acceleratorCount.toNat ≤ 64 * evidence.nodeCount.toNat % 2 ^ 32

theorem isValid_iff {evidence : TopologyEvidence} :
    evidence.isValid = true ↔ evidence.Plausible ∧ evidence.WithinProducts := by
  have hNodes : evidence.nodeCount = 0 ↔ evidence.nodeCount.toNat = 0 := UInt32.toNat_inj.symm
  have hLinks : evidence.nodeCount * evidence.nodeCount < evidence.linkCount ↔
      evidence.nodeCount.toNat ^ 2 % 2 ^ 32 < evidence.linkCount.toNat := by
    rw [UInt32.lt_iff_toNat_lt, UInt32.toNat_mul, Nat.pow_two]
  have hAccelerators : evidence.nodeCount * 64 < evidence.acceleratorCount ↔
      64 * evidence.nodeCount.toNat % 2 ^ 32 < evidence.acceleratorCount.toNat := by
    rw [UInt32.lt_iff_toNat_lt, UInt32.toNat_mul, Nat.mul_comm]
    rfl
  have hSquare := Nat.mod_le (evidence.nodeCount.toNat ^ 2) (2 ^ 32)
  have hProduct := Nat.mod_le (64 * evidence.nodeCount.toNat) (2 ^ 32)
  simp only [isValid, hNodes, hLinks, hAccelerators, WithinProducts]
  split_ifs with hKnown hNone hLink hAccelerator
  · exact iff_of_false (by simp) (fun hBoth => hBoth.1.known hKnown)
  · exact iff_of_false (by simp) (fun hBoth => absurd hBoth.1.nodes (by omega))
  · exact iff_of_false (by simp) (fun hBoth => absurd hBoth.2.1 (by omega))
  · exact iff_of_false (by simp) (fun hBoth => absurd hBoth.2.2 (by omega))
  · exact iff_of_true rfl ⟨⟨hKnown, by omega, by omega, by omega⟩, by omega, by omega⟩

end TopologyEvidence

structure SloContract where
  generation : SloContractGeneration := .unset
  request : RequestId := .nil
  tailLatencyBudgetNanos : UInt64 := 0
  registrationDeadlineNanos : UInt64 := 0
  minStreamSharePerMille : UInt32 := 0
deriving DecidableEq

def SloContract.isValid (contract : SloContract) : Bool :=
  !contract.generation.isUnset && !contract.request.isNil &&
    decide (0 < contract.tailLatencyBudgetNanos) &&
    decide (contract.minStreamSharePerMille ≤ 1000)

structure RouteDecision where
  generation : RouteDecisionGeneration := .unset
  request : RequestId := .nil
  attempt : AttemptId := .nil
  targetNode : UInt32 := 0
  lateral : Bool := false
  disaggregatedHandoff : Bool := false
deriving DecidableEq

def RouteDecision.isValid (decision : RouteDecision) : Bool :=
  !decision.generation.isUnset && !decision.request.isNil && !decision.attempt.isNil

structure ModelState where
  modelHash : UInt64 := 0
  generation : ModelGeneration := .unset
  requiresRevalidation : Bool := false
deriving DecidableEq

def ModelState.isValid (model : ModelState) : Bool :=
  model.modelHash != 0 && !model.generation.isUnset

structure StateGenerationRecord where
  stateHash : UInt64 := 0
  generation : StateGeneration := .unset
  requiresRevalidation : Bool := false
deriving DecidableEq

def StateGenerationRecord.isValid (state : StateGenerationRecord) : Bool :=
  state.stateHash != 0 && !state.generation.isUnset

end TrafficFabric
