import TrafficFabric.Coordinator.GenerationFence

/-
  The generations that the registries issue, call by call.

  Every registry takes the next number from the entry it
  holds. A number is issued twice only if the entry was
  removed in between, as replacing an attempt does with its
  route decision.
-/

namespace TrafficFabric

open Generation

variable {tag : GenerationTag}

/- A call that got a generation, and the one it expected. -/
structure Issue (tag : GenerationTag) where
  expected : Option (Generation tag)
  value : Generation tag

/- The number of the last generation issued. -/
def Generation.count : Option (Generation tag) → Nat
| none => 0
| some generation => generation.value.toNat

theorem Generation.Advanced.count_eq {before : Option (Generation tag)} {value : Generation tag}
    (hAdvanced : Advanced before (some value)) (hRoom : count before + 1 < 2 ^ 64) :
    value.value.toNat = count before + 1 := by
  rcases hAdvanced with ⟨rfl, hFirst⟩ | ⟨held, rfl, hNext⟩
  · cases hFirst
    rfl
  · cases hNext
    refine toNat_next held ?_
    rintro rfl
    rw [count, show (max : Generation tag).value.toNat = 18446744073709551615 from rfl] at hRoom
    omega

namespace Coordinator

variable {noun : String} {limit : Nat} {hash : UInt64}

/- The generations issued along a list of operations. -/
def issued (issue : Coordinator → Op → Option (Issue tag)) :
    Coordinator → List Op → List (Issue tag)
| _, [] => []
| s, op :: rest =>
  match issue s op with
  | none => issued issue (s.step op) rest
  | some call => call :: issued issue (s.step op) rest

/- Every operation of the list is allowed where it is made. -/
def Along (allowed : Coordinator → Op → Prop) : Coordinator → List Op → Prop
| _, [] => True
| s, op :: rest => allowed s op ∧ Along allowed (s.step op) rest

theorem along_of_forall {allowed : Coordinator → Op → Prop} (hAllowed : ∀ s op, allowed s op)
    (s : Coordinator) (ops : List Op) : Along allowed s ops := by
  induction ops generalizing s with
  | nil => exact trivial
  | cons op rest ih => exact ⟨hAllowed s op, ih (s.step op)⟩

/-
  An entry whose generation changes when one is issued and
  at no other allowed operation.
-/
structure Register (allowed : Coordinator → Op → Prop)
    (current : Coordinator → Option (Generation tag))
    (issue : Coordinator → Op → Option (Issue tag)) : Prop where
  kept : ∀ s op, allowed s op → issue s op = none → current (s.step op) = current s
  advanced :
    ∀ s op call, issue s op = some call →
      current (s.step op) = some call.value ∧
        Advanced (current s) (some call.value) ∧
        ∀ value, call.expected = some value → current s = some value

/-
  Below the last generation, the numbers that were issued
  have no gaps and follow the expected ones.
-/
def Serialized (before : Option (Generation tag)) (calls : List (Issue tag)) : Prop :=
  count before + calls.length < 2 ^ 64 →
    calls.map (fun call => call.value.value.toNat) =
        List.range' (count before + 1) calls.length ∧
      ∀ call ∈ calls, ∀ value, call.expected = some value →
        call.value.value.toNat = value.value.toNat + 1

section Registers

variable {allowed : Coordinator → Op → Prop} {current : Coordinator → Option (Generation tag)}
variable {issue : Coordinator → Op → Option (Issue tag)}

theorem Register.serialized (hRegister : Register allowed current issue) (s : Coordinator)
    (ops : List Op) (hAlong : Along allowed s ops) :
    Serialized (current s) (issued issue s ops) := by
  induction ops generalizing s with
  | nil => exact fun _ => ⟨rfl, by rintro _ ⟨⟩⟩
  | cons op rest ih =>
    have hRest := ih (s.step op) hAlong.2
    unfold issued
    cases hIssue : issue s op with
    | none =>
      rw [hRegister.kept s op hAlong.1 hIssue] at hRest
      exact hRest
    | some call =>
      rcases hRegister.advanced s op call hIssue with ⟨hAfter, hAdvanced, hExpected⟩
      intro hRoom
      simp only [List.length_cons] at hRoom
      have hValue := hAdvanced.count_eq (by omega)
      rw [hAfter] at hRest
      rcases hRest (by rw [count, hValue]; omega) with ⟨hCounts, hFollows⟩
      refine ⟨?_, ?_⟩
      · rw [List.map_cons, hCounts, count, hValue, List.length_cons, List.range'_succ]
      · intro other hOther
        rcases List.mem_cons.mp hOther with rfl | hLater
        · intro value hSome
          rw [hValue, hExpected value hSome]
          rfl
        · exact hFollows other hLater

/- What was issued is strictly increasing. -/
theorem Serialized.increasing {before : Option (Generation tag)} {calls : List (Issue tag)}
    (hSerialized : Serialized before calls) (hRoom : count before + calls.length < 2 ^ 64) :
    calls.Pairwise (fun first second => first.value.value < second.value.value) := by
  have hOrdered : (calls.map (fun call => call.value.value.toNat)).Pairwise (· < ·) := by
    rw [(hSerialized hRoom).1]
    exact List.pairwise_lt_range'
  exact (List.pairwise_map.mp hOrdered).imp UInt64.lt_iff_toNat_lt.mpr

/- No two calls got what they expected of one generation. -/
theorem Serialized.nodup {before : Option (Generation tag)} {calls : List (Issue tag)}
    (hSerialized : Serialized before calls) (hRoom : count before + calls.length < 2 ^ 64) :
    (calls.filterMap Issue.expected).Nodup := by
  refine List.pairwise_filterMap.mpr ((hSerialized.increasing hRoom).imp_of_mem ?_)
  intro first second hFirst hSecond hLess value hValue other hOther hSame
  have hFollows := (hSerialized hRoom).2
  have hOne := hFollows first hFirst value hValue
  have hTwo := hFollows second hSecond other hOther
  rw [UInt64.lt_iff_toNat_lt] at hLess
  rw [hSame] at hOne
  omega

/- What a call for a key does to the table of a registry. -/
inductive Stamped {K V : Type} [DecidableEq K] (generation : V → Generation tag) (key : K)
    (before : Table K V) : Option (Issue tag) → Table K V → Prop
| refused : Stamped generation key before none before
| stored (call : Issue tag) (entry : V) (hValue : generation entry = call.value)
    (hAdvanced : Advanced ((before.lookup key).map generation) (some call.value))
    (hExpected :
      ∀ value, call.expected = some value → (before.lookup key).map generation = some value) :
    Stamped generation key before (some call) (before.insert key entry)

/- The call of an operation that is for the key. -/
def issueFor {K : Type} [DecidableEq K] (call : Coordinator → Op → Option (K × Option (Issue tag)))
    (key : K) (s : Coordinator) (op : Op) : Option (Issue tag) :=
  match call s op with
  | none => none
  | some (other, result) => if other = key then result else none

/- A table that its calls write is a register at each key. -/
theorem register_of_calls {K V : Type} [DecidableEq K] {table : Coordinator → Table K V}
    {generation : V → Generation tag}
    {call : Coordinator → Op → Option (K × Option (Issue tag))} (key : K)
    (hQuiet :
      ∀ s op, allowed s op → call s op = none →
        ((table (s.step op)).lookup key).map generation = ((table s).lookup key).map generation)
    (hCalls :
      ∀ s op other result, call s op = some (other, result) →
        Stamped generation other (table s) result (table (s.step op))) :
    Register allowed (fun s => ((table s).lookup key).map generation) (issueFor call key) := by
  constructor
  · intro s op hAllowed hNone
    unfold issueFor at hNone
    cases hCall : call s op with
    | none => exact hQuiet s op hAllowed hCall
    | some pair =>
      have hStamped := hCalls s op pair.1 pair.2 hCall
      simp only [hCall] at hNone
      generalize pair.2 = result at hNone hStamped
      generalize table (s.step op) = after at hStamped ⊢
      cases hStamped with
      | refused => rfl
      | stored => rw [AList.lookup_insert_if, if_neg (fun hSame => by simp [hSame] at hNone)]
  · intro s op found hFound
    unfold issueFor at hFound
    cases hCall : call s op with
    | none =>
      rw [hCall] at hFound
      cases hFound
    | some pair =>
      have hStamped := hCalls s op pair.1 pair.2 hCall
      simp only [hCall, Option.ite_none_right_eq_some] at hFound
      rcases hFound with ⟨rfl, hResult⟩
      rw [hResult] at hStamped
      generalize table (s.step op) = after at hStamped ⊢
      cases hStamped with
      | stored _ entry hValue hAdvanced hExpected =>
        refine ⟨?_, hAdvanced, hExpected⟩
        rw [AList.lookup_insert, Option.map_some, hValue]

end Registers

---
-- The Registries
---

def topologyGeneration (s : Coordinator) : Option TopologyGeneration :=
  if s.topologyPresent then some s.topology.generation else none

def topologyIssue (s : Coordinator) : Op → Option (Issue .topology)
| .publishTopology evidence now =>
  (s.publishTopology evidence now).1.toOption.map (fun value => ⟨none, value⟩)
| _ => none

def contractCall (s : Coordinator) : Op → Option (RequestId × Option (Issue .sloContract))
| .registerSloContract request tail deadline share =>
  some (request, (s.registerSloContract request tail deadline share).1.toOption.map
    (fun contract => ⟨none, contract.generation⟩))
| _ => none

def routeCall (s : Coordinator) : Op → Option (AttemptId × Option (Issue .routeDecision))
| .issueRouteDecision request attempt node lateral handoff =>
  some (attempt, (s.issueRouteDecision request attempt node lateral handoff).1.toOption.map
    (fun route => ⟨none, route.generation⟩))
| _ => none

def modelCall (s : Coordinator) : Op → Option (UInt64 × Option (Issue .model))
| .setModelGeneration hash expected =>
  some (hash, (s.setModelGeneration hash expected).1.toOption.map (fun value => ⟨expected, value⟩))
| _ => none

def stateCall (s : Coordinator) : Op → Option (UInt64 × Option (Issue .state))
| .advanceStateGeneration hash expected =>
  some (hash,
    (s.advanceStateGeneration hash expected).1.toOption.map (fun value => ⟨expected, value⟩))
| _ => none

/- The operation does not remove the route of the attempt. -/
def KeepsRoute (attempt : AttemptId) (s : Coordinator) (op : Op) : Prop :=
  ∀ request new hash now,
    op = .replaceAttempt request attempt new hash now →
    (s.replaceAttempt request attempt new hash now).1.isOk = true →
    s.routeDecisions.lookup attempt = none

theorem advanced_of_next {before : Option (Generation tag)} {value : Generation tag}
    (hNext : value = nextGeneration before) : Advanced before (some value) := by
  subst hNext
  cases before with
  | none => exact .inl ⟨rfl, rfl⟩
  | some held => exact .inr ⟨held, rfl, rfl⟩

theorem topology_register : Register (fun _ _ => True) topologyGeneration topologyIssue := by
  constructor
  · intro s op _ hNone
    by_cases hOp : op.Configures
    · have hConfigured := step_configured s op hOp
      generalize hStep : s.step op = t at hConfigured ⊢
      cases hConfigured with
      | topology evidence now hFit =>
        simp only [step, topologyIssue] at hStep hNone
        rcases publishTopology_cases s evidence now with ⟨-, status, hAnswer⟩ | ⟨-, hAnswer⟩
        · rw [hAnswer] at hStep
          rw [← hStep]
        · rw [hAnswer] at hNone
          cases hNone
      | _ => rfl
    · exact congrArg (fun state : DurableState =>
        if state.topologyPresent then some state.topology.generation else none)
        (step_durable s op hOp)
  · intro s op call hCall
    cases op with
    | publishTopology evidence now =>
      simp only [topologyIssue] at hCall
      simp only [step]
      rcases publishTopology_cases s evidence now with ⟨-, status, hAnswer⟩ | ⟨-, hAnswer⟩
      · rw [hAnswer] at hCall
        cases hCall
      · rw [hAnswer] at hCall ⊢
        cases hCall
        refine ⟨rfl, ?_, by simp⟩
        unfold topologyGeneration assignTopology
        cases s.topologyPresent with
        | false => exact .inl ⟨rfl, rfl⟩
        | true => exact .inr ⟨_, rfl, rfl⟩
    | _ => cases hCall

theorem contract_register (request : RequestId) :
    Register (fun _ _ => True)
      (fun s => (s.sloContracts.lookup request).map SloContract.generation)
      (issueFor contractCall request) := by
  refine register_of_calls request ?_ ?_
  · intro s op _ hQuiet
    rcases step_sloContracts s op with hSame | ⟨_, _, _, _, rfl⟩
    · rw [hSame]
    · cases hQuiet
  · intro s op other result hCall
    cases op with
    | registerSloContract id tail deadline share =>
      cases hCall
      simp only [step]
      rcases registerSloContract_cases s other tail deadline share with
        ⟨status, hAnswer⟩ | ⟨-, contract, hNext, hAnswer⟩
      · rw [hAnswer]
        exact .refused
      · rw [hAnswer]
        exact .stored _ contract rfl (advanced_of_next hNext) (by simp)
    | _ => cases hCall

theorem route_register (attempt : AttemptId) :
    Register (KeepsRoute attempt)
      (fun s => (s.routeDecisions.lookup attempt).map RouteDecision.generation)
      (issueFor routeCall attempt) := by
  refine register_of_calls attempt ?_ ?_
  · intro s op hKeeps hQuiet
    rcases step_routeDecisions s op with
      hSame | ⟨_, _, _, _, _, rfl⟩ | ⟨request, old, new, hash, now, rfl, hOk, hErased⟩
    · rw [hSame]
    · cases hQuiet
    · rw [hErased, AList.lookup_erase_if]
      split
      · rename_i hSame
        subst hSame
        rw [hKeeps request new hash now rfl hOk]
      · rfl
  · intro s op other result hCall
    cases op with
    | issueRouteDecision request id node lateral handoff =>
      cases hCall
      simp only [step]
      rcases issueRouteDecision_cases s request other node lateral handoff with
        ⟨status, hAnswer⟩ | ⟨-, route, -, -, hNext, hAnswer⟩
      · rw [hAnswer]
        exact .refused
      · rw [hAnswer]
        exact .stored _ route rfl (advanced_of_next hNext) (by simp)
    | _ => cases hCall

/- An advance is refused, or stored as the registry expects. -/
theorem stamped_of_advance {V : Type} {generation : V → Generation tag}
    {requiresRevalidation : V → Bool} {registry : Table UInt64 V}
    {expected : Option (Generation tag)} {value : Generation tag} {entry : V}
    (hOk :
      advanceGeneration noun generation
        requiresRevalidation limit registry hash expected = .ok value)
    (hEntry : generation entry = value) :
    Stamped generation hash registry (some ⟨expected, value⟩) (registry.insert hash entry) := by
  rcases (advanceGeneration_eq_ok hOk).2 with ⟨hNone, hFree, -, rfl⟩ | ⟨held, hHeld, -, hBound, rfl⟩
  · refine .stored _ _ hEntry ?_ ?_
    · rw [hNone]
      exact .inl ⟨rfl, rfl⟩
    · intro value hSome
      cases hFree.symm.trans hSome
  · refine .stored _ _ hEntry ?_ ?_
    · rw [hHeld]
      exact .inr ⟨_, rfl, rfl⟩
    · intro value hSome
      rw [hHeld, hBound value hSome]
      rfl

theorem model_register (hash : UInt64) :
    Register (fun _ _ => True) (fun s => s.modelGeneration hash) (issueFor modelCall hash) := by
  refine register_of_calls hash ?_ ?_
  · intro s op _ hQuiet
    rcases step_modelGeneration s op hash with hSame | ⟨_, rfl, -⟩
    · exact hSame
    · cases hQuiet
  · intro s op other result hCall
    cases op with
    | setModelGeneration key expected =>
      cases hCall
      simp only [step, setModelGeneration]
      split
      · exact .refused
      · rename_i hOk
        exact stamped_of_advance hOk rfl
    | _ => cases hCall

theorem state_register (hash : UInt64) :
    Register (fun _ _ => True) (fun s => s.stateGeneration hash) (issueFor stateCall hash) := by
  refine register_of_calls hash ?_ ?_
  · intro s op _ hQuiet
    rcases step_stateGeneration s op hash with hSame | ⟨_, rfl, -⟩
    · exact hSame
    · cases hQuiet
  · intro s op other result hCall
    cases op with
    | advanceStateGeneration key expected =>
      cases hCall
      simp only [step, advanceStateGeneration]
      split
      · exact .refused
      · rename_i hOk
        exact stamped_of_advance hOk rfl
    | _ => cases hCall

/- What a registry issues along the operations increases. -/
def Increasing (current : Coordinator → Option (Generation tag))
    (issue : Coordinator → Op → Option (Issue tag)) (s : Coordinator) (ops : List Op) : Prop :=
  count (current s) + (issued issue s ops).length < 2 ^ 64 →
    (issued issue s ops).Pairwise (fun first second => first.value.value < second.value.value)

/-
  The topology, the models, the state identities and the
  contracts never issue a generation twice in one boot. A
  route decision does not either, as long as none is removed
  by a replacement of its attempt.
-/
theorem issued_generations_increase (s : Coordinator) (ops : List Op) :
    Increasing topologyGeneration topologyIssue s ops ∧
      (∀ hash, Increasing (modelGeneration · hash) (issueFor modelCall hash) s ops) ∧
      (∀ hash, Increasing (stateGeneration · hash) (issueFor stateCall hash) s ops) ∧
      (∀ request,
        Increasing (fun t => (t.sloContracts.lookup request).map SloContract.generation)
          (issueFor contractCall request) s ops) ∧
      ∀ attempt, Along (KeepsRoute attempt) s ops →
        Increasing (fun t => (t.routeDecisions.lookup attempt).map RouteDecision.generation)
          (issueFor routeCall attempt) s ops := by
  have hAll := along_of_forall (fun _ _ => trivial) s ops
  refine ⟨?_, ?_, ?_, ?_, ?_⟩
  · exact (topology_register.serialized s ops hAll).increasing
  · exact fun hash => ((model_register hash).serialized s ops hAll).increasing
  · exact fun hash => ((state_register hash).serialized s ops hAll).increasing
  · exact fun request => ((contract_register request).serialized s ops hAll).increasing
  · exact fun attempt hKeeps => ((route_register attempt).serialized s ops hKeeps).increasing

theorem issued_generations_increase_rerouted :
    let ops := ingressOps ++ [.issueRouteDecision ⟨0, 1⟩ ⟨0, 2⟩ 2 false false]
    let routes := issued (issueFor routeCall ⟨0, 2⟩) sampleStart ops
    routes.map (fun call => call.value.value) = [1, 2] ∧
      routes.Pairwise (fun first second => first.value.value < second.value.value) := by
  intro ops routes
  refine ⟨by decide, (issued_generations_increase sampleStart ops).2.2.2.2 ⟨0, 2⟩ ?_ (by decide)⟩
  repeat' apply And.intro
  all_goals first | exact trivial | exact fun _ _ _ _ hReplaces => by cases hReplaces

/- The superseded attempt is routed at the first generation. -/
theorem route_generation_reused :
    let ops := ingressOps ++
      [ .replaceAttempt ⟨0, 1⟩ ⟨0, 2⟩ ⟨0, 3⟩ 0 4,
        .issueRouteDecision ⟨0, 1⟩ ⟨0, 2⟩ 1 false false ]
    (issued (issueFor routeCall ⟨0, 2⟩) sampleStart ops).map (fun call => call.value.value) =
      [1, 1] := by
  decide

---
-- Compare And Set
---

/- An entry that awaits revalidation is not advanced. -/
theorem advanceGeneration_awaiting {V : Type} {generation : V → Generation tag}
    {requiresRevalidation : V → Bool} {registry : Table UInt64 V} {held : V}
    (expected : Option (Generation tag)) (hHeld : registry.lookup hash = some held)
    (hAwaits : requiresRevalidation held = true) (value : Generation tag) :
    advanceGeneration noun generation requiresRevalidation limit registry hash expected ≠
      .ok value := by
  intro hOk
  rcases (advanceGeneration_eq_ok hOk).2 with ⟨hNone, -⟩ | ⟨other, hOther, hValid, -⟩
  · cases hNone.symm.trans hHeld
  · cases hOther.symm.trans hHeld
    cases hValid.symm.trans hAwaits

/-
  Whatever else is done in a boot, the successful calls for a
  model or a state identity are numbered without gaps from
  its generation on. One that expects a generation gets the
  next, and no other call does so. No call succeeds on an
  entry that awaits revalidation, and a failed one changes
  nothing.
-/
theorem generation_compare_and_set (s : Coordinator) (ops : List Op) (hash : UInt64) :
    let models := issued (issueFor modelCall hash) s ops
    let states := issued (issueFor stateCall hash) s ops
    (Serialized (s.modelGeneration hash) models ∧
        (count (s.modelGeneration hash) + models.length < 2 ^ 64 →
          (models.filterMap Issue.expected).Nodup) ∧
        ∀ expected,
          (∀ held, s.models.lookup hash = some held → held.requiresRevalidation = true →
            ∀ value, (s.setModelGeneration hash expected).1 ≠ .ok value) ∧
          ∀ status, (s.setModelGeneration hash expected).1 = .error status →
            (s.setModelGeneration hash expected).2 = s) ∧
      Serialized (s.stateGeneration hash) states ∧
        (count (s.stateGeneration hash) + states.length < 2 ^ 64 →
          (states.filterMap Issue.expected).Nodup) ∧
        ∀ expected,
          (∀ held, s.states.lookup hash = some held → held.requiresRevalidation = true →
            ∀ value, (s.advanceStateGeneration hash expected).1 ≠ .ok value) ∧
          ∀ status, (s.advanceStateGeneration hash expected).1 = .error status →
            (s.advanceStateGeneration hash expected).2 = s := by
  intro models states
  have hAll := along_of_forall (fun _ _ => trivial) s ops
  have hModels := (model_register hash).serialized s ops hAll
  have hStates := (state_register hash).serialized s ops hAll
  refine ⟨⟨hModels, hModels.nodup, ?_⟩, hStates, hStates.nodup, ?_⟩
  · intro expected
    unfold setModelGeneration
    split
    · exact ⟨fun _ _ _ _ => by simp, fun _ _ => rfl⟩
    · rename_i hOk
      exact ⟨fun held hHeld hAwaits =>
        (advanceGeneration_awaiting expected hHeld hAwaits _ hOk).elim, fun _ => by simp⟩
  · intro expected
    unfold advanceStateGeneration
    split
    · exact ⟨fun _ _ _ _ => by simp, fun _ _ => rfl⟩
    · rename_i hOk
      exact ⟨fun held hHeld hAwaits =>
        (advanceGeneration_awaiting expected hHeld hAwaits _ hOk).elim, fun _ => by simp⟩

/- Two writers expect the first generation. -/
theorem generation_compare_and_set_contended :
    let ops : List Op :=
      [ .setModelGeneration 1 none, .setModelGeneration 1 (some ⟨1⟩),
        .setModelGeneration 1 (some ⟨1⟩), .setModelGeneration 1 (some ⟨2⟩) ]
    let calls := issued (issueFor modelCall 1) sampleStart ops
    calls.map (fun call => call.value.value.toNat) = [1, 2, 3] ∧
      (calls.filterMap Issue.expected).Nodup := by
  intro ops calls
  have hModels := (generation_compare_and_set sampleStart ops 1).1
  exact ⟨(hModels.1 (by decide)).1, hModels.2.1 (by decide)⟩

---
-- Published Topologies
---

variable {s : Coordinator} {mt : Generator}

/- Only the last generation has none after it. -/
theorem assignTopology_generation (evidence : TopologyEvidence) (now : Int64) :
    (s.assignTopology evidence now).generation = .unset ↔ s.topologyGeneration = some .max := by
  unfold assignTopology topologyGeneration
  cases s.topologyPresent with
  | false => exact iff_of_false first_ne_unset (by simp)
  | true =>
    rw [if_pos rfl, if_pos rfl, Option.some.injEq]
    constructor
    · intro hUnset
      by_contra hBelow
      exact next_ne_unset _ hBelow hUnset
    · intro hLast
      rw [hLast]
      rfl

/-
  A publication is judged by the bounds unless a product
  wraps below a count or the generations are used up.
-/
theorem topology_judged {config : CoordinatorConfig} (hReachable : Reachable mt config s)
    (evidence : TopologyEvidence) (now : Int64) :
    (((s.publishTopology evidence now).1.isOk = true ↔ evidence.Plausible) ↔
      (evidence.Plausible → evidence.WithinProducts ∧ s.topologyGeneration ≠ some .max)) ∧
    (∀ generation, (s.publishTopology evidence now).1 = .ok generation →
      generation.value.toNat = count s.topologyGeneration + 1 ∧
      (s.publishTopology evidence now).2.topologyGeneration = some generation) ∧
    ((s.publishTopology evidence now).1.isOk = false → (s.publishTopology evidence now).2 = s) := by
  have hAssigned : (s.assignTopology evidence now).isAuthoritative = true ↔
      (evidence.Plausible ∧ evidence.WithinProducts) ∧ s.topologyGeneration ≠ some .max := by
    have hBoot : (s.assignTopology evidence now).observedBoot ≠ .nil := hReachable.incarnation
    rw [← TopologyEvidence.isValid_iff, ne_eq, ← assignTopology_generation evidence now]
    simp only [TopologyEvidence.isAuthoritative, Bool.and_eq_true, Bool.not_eq_true',
      isUnset_eq_false_iff, Id128.isNil_eq_false_iff, and_iff_left hBoot]
    rfl
  rcases publishTopology_cases s evidence now with ⟨hFit, status, hPublished⟩ | ⟨hFit, hPublished⟩
  · rw [hPublished]
    rw [← Bool.not_eq_true, hAssigned] at hFit
    refine ⟨?_, by simp, fun _ => rfl⟩
    constructor
    · intro hSame hPlausible
      cases hSame.mpr hPlausible
    · intro hRoom
      refine iff_of_false (by simp) (fun hPlausible => hFit ?_)
      exact ⟨⟨hPlausible, (hRoom hPlausible).1⟩, (hRoom hPlausible).2⟩
  · rw [hPublished]
    rw [hAssigned] at hFit
    refine ⟨?_, ?_, by simp⟩
    · exact iff_of_true (iff_of_true rfl hFit.1.1) (fun _ => ⟨hFit.1.2, hFit.2⟩)
    · rintro generation hSame
      cases hSame
      refine ⟨?_, rfl⟩
      unfold topologyGeneration at hFit ⊢
      unfold assignTopology
      cases hPresent : s.topologyPresent with
      | false => rfl
      | true =>
        rw [hPresent] at hFit
        exact toNat_next _ (fun hLast => hFit.2 (congrArg some hLast))

theorem topology_judged_single :
    let evidence : TopologyEvidence := { provenance := .measured, nodeCount := 1, linkCount := 1 }
    (sampleStart.publishTopology evidence 1).1.isOk = true :=
  ((topology_judged (sampleStart_reachable []) _ 1).1.mpr
    (fun _ => ⟨⟨by decide, by decide⟩, by decide⟩)).mpr ⟨by decide, by decide, by decide, by decide⟩

/- The square of the node count wraps to zero. -/
theorem large_topology_refused :
    let evidence : TopologyEvidence :=
      { provenance := .measured, nodeCount := 65536, linkCount := 1 }
    Reachable sampleGenerator {} sampleStart ∧ evidence.Plausible ∧
      (sampleStart.publishTopology evidence 1).1.isOk = false :=
  ⟨sampleStart_reachable [], ⟨by decide, by decide, by decide, by decide⟩, by decide⟩

end Coordinator

end TrafficFabric
