import TrafficFabric.Coordinator.State

/-
  The registries the coordinator consults: policy,
  topology, contracts, route decisions, and the model and
  state generations.
-/

namespace TrafficFabric

open StateGenerationRecord

/- Freshness of a piece of evidence. -/
inductive EvidenceState
| unknown
| current
| stale
| revalidationRequired
deriving DecidableEq, Inhabited

instance : Enumeration EvidenceState where
  listed := [.unknown, .current, .stale, .revalidationRequired]

namespace Coordinator

def applyPolicy (s : Coordinator) (policy : PolicyConfig) : Result Unit × Coordinator :=
  if policy.validate ≠ .valid then (.failure .policyInvalid policy.validate.label, s)
  else (.ok (), { s with policy := withNextGeneration policy })

def assignTopology (s : Coordinator) (evidence : TopologyEvidence) (now : Int64) :
    TopologyEvidence :=
  { evidence with
    generation :=
      if s.topologyPresent then s.topology.generation.next
      else ⟨1⟩
    observedBoot := s.incarnation
    observedAtNanos := now
    maxAgeNanos :=
      if evidence.maxAgeNanos = 0 then s.config.defaultEvidenceMaxAgeNanos
      else evidence.maxAgeNanos }

def publishTopology (s : Coordinator) (evidence : TopologyEvidence) (now : Int64) :
    Result TopologyGeneration × Coordinator :=
  if evidence.provenance = .unknown then
    (.failure .invalidArgument "topology evidence requires a provenance label", s)
  else if evidence.nodeCount = 0 then
    (.failure .invalidArgument "topology evidence requires at least one node", s)
  else
    let assigned := s.assignTopology evidence now
    if !assigned.isAuthoritative then
      (.failure .invalidArgument "topology evidence is internally inconsistent", s)
    else
      (.ok assigned.generation, { s with
          topology := assigned
          topologyPresent := true })

/- Evidence is refused, or stored as it was assigned. -/
theorem publishTopology_cases (s : Coordinator) (evidence : TopologyEvidence) (now : Int64) :
    ((s.assignTopology evidence now).isAuthoritative = false ∧
      ∃ status, s.publishTopology evidence now = (.error status, s)) ∨
    ((s.assignTopology evidence now).isAuthoritative = true ∧
      s.publishTopology evidence now =
        (.ok (s.assignTopology evidence now).generation, { s with
            topology := s.assignTopology evidence now
            topologyPresent := true })) := by
  simp only [publishTopology]
  split_ifs with hKnown hNodes hFit
  · refine .inl ⟨?_, _, rfl⟩
    simp [TopologyEvidence.isAuthoritative, TopologyEvidence.isValid, assignTopology, hKnown]
  · refine .inl ⟨?_, _, rfl⟩
    simp [TopologyEvidence.isAuthoritative, TopologyEvidence.isValid, assignTopology, hKnown,
      hNodes]
  · exact .inl ⟨by simpa using hFit, _, rfl⟩
  · exact .inr ⟨by simpa using hFit, rfl⟩

/- Nanoseconds since the topology was observed. -/
def topologyAge (s : Coordinator) (now : Int64) : UInt64 :=
  (now - s.topology.observedAtNanos).toUInt64

def topologyState (s : Coordinator) (now : Int64) : EvidenceState :=
  if !s.topologyPresent then .unknown
  else if s.topology.observedBoot ≠ s.incarnation then .revalidationRequired
  else if 0 < s.topology.maxAgeNanos ∧
      s.topology.observedAtNanos < now ∧ s.topology.maxAgeNanos < s.topologyAge now then
    .stale
  else .current

def registerSloContract (s : Coordinator) (request : RequestId) (tailLatencyBudgetNanos : UInt64)
    (registrationDeadlineNanos : UInt64) (minStreamSharePerMille : UInt32) :
    Result SloContract × Coordinator :=
  if request.isNil then (.failure .invalidArgument "nil request id", s)
  else if !s.ledger.contains request then
    (.failure .notFound "SLO contract requires a registered request", s)
  else if tailLatencyBudgetNanos = 0 then
    (.failure .invalidArgument "SLO contract requires a non-zero tail budget", s)
  else
    let existing := s.sloContracts.lookup request
    if existing.isNone ∧ s.config.limits.maxSloContracts ≤ s.sloContracts.size then
      (.failure .capacityExhausted "SLO contract registry is full", s)
    else
      let contract : SloContract :=
        { generation :=
            match existing with
            | none => ⟨1⟩
            | some held => held.generation.next
          request
          tailLatencyBudgetNanos
          registrationDeadlineNanos
          minStreamSharePerMille :=
            if 1000 < minStreamSharePerMille then 1000
            else minStreamSharePerMille }
      if !contract.isValid then (.failure .invalidArgument "SLO contract is invalid", s)
      else
        (.ok contract, { s with sloContracts := s.sloContracts.insert request contract })

def issueRouteDecision (s : Coordinator) (request : RequestId) (attempt : AttemptId)
    (targetNode : UInt32) (lateral disaggregatedHandoff : Bool) :
    Result RouteDecision × Coordinator :=
  match s.ledger.snapshotRequest request with
  | none => (.failure .notFound "unknown request", s)
  | some record =>
    if (record.findAttempt attempt).isNone then (.failure .notFound "unknown attempt", s)
    else
      let existing := s.routeDecisions.lookup attempt
      if existing.isNone ∧ s.config.limits.maxRouteDecisions ≤ s.routeDecisions.size then
        (.failure .capacityExhausted "route decision registry is full", s)
      else
        let decision : RouteDecision :=
          { generation :=
              match existing with
              | none => ⟨1⟩
              | some held => held.generation.next
            request
            attempt
            targetNode
            lateral
            disaggregatedHandoff }
        if !decision.isValid then (.failure .invalidArgument "route decision is invalid", s)
        else
          (.ok decision, { s with routeDecisions := s.routeDecisions.insert attempt decision })

section Registry

variable {tag : GenerationTag} {V : Type}

/-
  The compare-and-set rule shared by the model and the
  state registry: the generation a new record receives.
-/
def advanceGeneration (noun : String) (generation : V → Generation tag)
    (requiresRevalidation : V → Bool) (limit : Nat) (registry : Table UInt64 V) (hash : UInt64)
    (expected : Option (Generation tag)) : Result (Generation tag) :=
  if hash = 0 then .failure .invalidArgument ("nil " ++ noun ++ " hash")
  else
    match registry.lookup hash with
    | none =>
      if expected.isSome then .failure .conflict (noun ++ " generation expectation does not exist")
      else if limit ≤ registry.size then .failure .capacityExhausted (noun ++ " registry is full")
      else .ok ⟨1⟩
    | some held =>
      if requiresRevalidation held then
        .failure .revalidationRequired
          (noun ++ " generation survived a restart " ++ "and must be revalidated first")
      else if expected.any (fun value => value ≠ generation held) then
        .failure .conflict (noun ++ " generation expectation did not match")
      else .ok (generation held).next

/- The current generation of a registry entry. -/
def requireGeneration (noun : String) (generation : V → Generation tag)
    (requiresRevalidation : V → Bool) (registry : Table UInt64 V) (hash : UInt64) :
    Result (Generation tag) :=
  match registry.lookup hash with
  | none => .failure .notFound ("unknown " ++ noun ++ " generation")
  | some held =>
    if requiresRevalidation held then
      .failure .revalidationRequired (noun ++ " generation requires revalidation")
    else .ok (generation held)

/- A generation is current once it was re-established. -/
theorem requireGeneration_eq_ok_iff
    (noun : String) (generation : V → Generation tag) (requiresRevalidation : V → Bool)
    (registry : Table UInt64 V) (hash : UInt64) (value : Generation tag) :
    requireGeneration noun generation requiresRevalidation registry hash = .ok value ↔
      ∃ held, registry.lookup hash = some held ∧
        requiresRevalidation held = false ∧ generation held = value := by
  unfold requireGeneration
  cases hHeld : registry.lookup hash with
  | none => simp
  | some held =>
    simp only [Result.guard_eq_ok_iff, Option.some.injEq, exists_eq_left', Except.ok.injEq,
      Bool.not_eq_true]

end Registry

def setModelGeneration (s : Coordinator) (modelHash : UInt64)
    (expectedCurrent : Option ModelGeneration) : Result ModelGeneration × Coordinator :=
  match advanceGeneration "model" ModelState.generation
      ModelState.requiresRevalidation
      s.config.limits.maxModelRecords s.models modelHash
      expectedCurrent with
  | .error status => (.error status, s)
  | .ok generation =>
    (.ok generation, { s with
        models := s.models.insert modelHash
          { modelHash, generation
            requiresRevalidation := false } })

def revalidateModelGeneration (s : Coordinator) (modelHash : UInt64) :
    Result ModelGeneration × Coordinator :=
  match s.models.lookup modelHash with
  | none => (.failure .notFound "unknown model", s)
  | some held =>
    (.ok held.generation, { s with
        models := s.models.insert modelHash { held with requiresRevalidation := false } })

def requireModelGeneration (s : Coordinator) (modelHash : UInt64) : Result ModelGeneration :=
  requireGeneration "model" ModelState.generation ModelState.requiresRevalidation s.models modelHash

def advanceStateGeneration (s : Coordinator) (stateHash : UInt64)
    (expectedCurrent : Option StateGeneration) : Result StateGeneration × Coordinator :=
  match advanceGeneration "state"
      generation
      requiresRevalidation
      s.config.limits.maxStateRecords s.states stateHash
      expectedCurrent with
  | .error status => (.error status, s)
  | .ok generation =>
    (.ok generation, { s with
        states := s.states.insert stateHash
          { stateHash, generation
            requiresRevalidation := false } })

def revalidateStateGeneration (s : Coordinator) (stateHash : UInt64) :
    Result StateGeneration × Coordinator :=
  match s.states.lookup stateHash with
  | none => (.failure .notFound "unknown state identity", s)
  | some held =>
    (.ok held.generation, { s with
        states := s.states.insert stateHash { held with requiresRevalidation := false } })

def requireStateGeneration (s : Coordinator) (stateHash : UInt64) : Result StateGeneration :=
  requireGeneration "state"
    generation
    requiresRevalidation s.states
    stateHash

end Coordinator

end TrafficFabric
