import TrafficFabric.Coordinator.AttemptFlows
import TrafficFabric.Coordinator.TransferBudget

/-
  The bytes that bulk traffic may have in flight.

  Both checks add two 64-bit numbers, so they are exact as
  long as the sum does not wrap. The bound that a rule sets
  for its class is read by no check. It holds for a bulk
  class whose bound is not below the cap on all of them.
-/

---
-- The Checks
---

/- A sum found within a limit is exact if it did not wrap. -/
theorem UInt64.toNat_add_le_iff {a b limit : UInt64} (hRoom : ¬ limit < a + b) :
    a.toNat + b.toNat ≤ limit.toNat ↔ a.toNat + b.toNat < 2 ^ 64 := by
  have hLimit := limit.toNat_lt
  rw [UInt64.lt_iff_toNat_lt, UInt64.toNat_add] at hRoom
  constructor
  · intro hLe
    omega
  · intro hFits
    rw [Nat.mod_eq_of_lt hFits] at hRoom
    omega

namespace TrafficFabric

open FlowRecord

namespace Coordinator

/-
  What bulk traffic was permitted or opened for is within
  the cap exactly when the sum does not wrap. A permission
  for no bytes does not ask whether the cap is exceeded.
-/
theorem bulk_cap_exact (s : Coordinator) (hCap : s.policy.bulkInFlightCapBytes ≠ 0) :
    (∀ request now victim,
      (s.evaluate request now victim).1.permitsTraffic = true →
      (s.evaluate request now victim).1.reason ≠ .admittedStarvationGuard →
      (s.policy.rule
        (s.evaluate request now victim).1.treatment.trafficClass).yieldsToLatency = true →
      (s.bulkInFlightBytes.toNat + request.payloadBytes.toNat ≤
          s.policy.bulkInFlightCapBytes.toNat ↔
        s.bulkInFlightBytes.toNat + request.payloadBytes.toNat < 2 ^ 64 ∧
          (request.payloadBytes = 0 → s.bulkInFlightBytes ≤ s.policy.bulkInFlightCapBytes))) ∧
    ∀ decision bytes now flow,
      (s.openFlow decision bytes now).1 = .ok flow →
      (s.policy.rule decision.treatment.trafficClass).yieldsToLatency = true →
      (s.bulkInFlightBytes.toNat + bytes.toNat ≤ s.policy.bulkInFlightCapBytes.toNat ↔
        s.bulkInFlightBytes.toNat + bytes.toNat < 2 ^ 64) := by
  have hPositive := UInt64.pos_iff_ne_zero.mpr hCap
  refine ⟨?_, ?_⟩
  · intro request now victim hPermits hUnguarded hYields
    have hVerdict := evaluate_verdict s request now victim
    generalize (s.evaluate request now victim).1 = decision at *
    generalize (s.evaluate request now victim).2.waiting = after at hVerdict
    cases hVerdict with
    | rejected _ _ hOutcome =>
      rw [Decision.permitsTraffic, hOutcome] at hPermits
      cases hPermits
    | guarded _ _ _ _ _ _ _ _ hReason => exact (hUnguarded hReason).elim
    | deferred _ _ _ _ _ _ hOutcome =>
      rw [permitsTraffic_of_deferred hOutcome] at hPermits
      cases hPermits
    | granted subject admission _ _ hFree _ _ hClass =>
      rw [hClass] at hYields
      by_cases hEmpty : request.payloadBytes = 0
      · have hBelow := s.bulkInFlightBytes.toNat_lt
        simp [hEmpty, hBelow, UInt64.le_iff_toNat_le]
      · have hAsks := UInt64.pos_iff_ne_zero.mpr hEmpty
        unfold deferReason at hFree
        simp only [hYields, if_true, hPositive, hAsks, decide_true, Bool.true_and,
          decide_eq_true_eq] at hFree
        split_ifs at hFree with _ _ hRoom
        rw [UInt64.toNat_add_le_iff hRoom]
        simp [hEmpty]
  · intro decision bytes now flow hOk hYields
    have hRoom : s.bulkExhausted decision.treatment.trafficClass bytes = false := by
      have hOpening := openFlow_opening s decision bytes now
      generalize s.openFlow decision bytes now = answer at hOpening hOk
      cases hOpening with
      | refused => cases hOk
      | served _ hClears | found _ hClears | carried _ hClears => exact hClears.room
    simp only [bulkExhausted, hYields, Bool.true_and, hPositive, decide_true,
      decide_eq_false_iff_not] at hRoom
    exact UInt64.toNat_add_le_iff hRoom

/- A bulk transfer runs and another one waits. -/
def bulkPair : Coordinator :=
  sampleStart.steps
    (generationOps ++ bulkOps bulkRegistration ++
      [.registerTransfer { bulkRegistration with id := ⟨0, 10⟩ } 4])

theorem bulk_cap_exact_fits :
    (bulkPair.evaluate (transferTraffic ⟨0, 10⟩ 8) 5 0).1.permitsTraffic = true ∧
      bulkPair.bulkInFlightBytes.toNat + 8 ≤ bulkPair.policy.bulkInFlightCapBytes.toNat :=
  ⟨by decide,
    ((bulk_cap_exact bulkPair (by decide)).1 (transferTraffic ⟨0, 10⟩ 8) 5 0 (by decide)
      (by decide) (by decide)).mpr ⟨by decide, fun hEmpty => by cases hEmpty⟩⟩

/- All but one byte of the 64-bit range are permitted. -/
theorem wrapped_payload_permitted :
    let request := transferTraffic ⟨0, 10⟩ (-1)
    let decision := (bulkPair.evaluate request 5 0).1
    Reachable sampleGenerator {} bulkPair ∧
      decision.permitsTraffic = true ∧ decision.reason = .admitted ∧
      (bulkPair.policy.rule decision.treatment.trafficClass).yieldsToLatency = true ∧
      bulkPair.policy.bulkInFlightCapBytes ≠ 0 ∧
      bulkPair.policy.bulkInFlightCapBytes.toNat <
        bulkPair.bulkInFlightBytes.toNat + request.payloadBytes.toNat := by
  intro request decision
  exact ⟨sampleStart_reachable _, by decide, by decide, by decide, by decide, by decide⟩

end Coordinator

---
-- The Bounds Of Classes
---

namespace Fleet

/- The bulk counter covers the open flows marked bulk. -/
def Covered (f : Fleet) : Prop :=
  f.carriage.flows.total bulkBytes ≤ f.bulkInFlightBytes.toNat

theorem Covered.release {f : Fleet} {flow : FlowRecord} (hCovered : f.Covered)
    (hFlow : f.carriage.flows.lookup flow.id = some flow) : (f.release flow).Covered := by
  have hTotal :
      (f.carriage.flows.erase flow.id).total bulkBytes + flow.bulkBytes =
        f.carriage.flows.total bulkBytes :=
    AList.total_erase_of_some _ hFlow
  unfold Covered at hCovered
  change (f.carriage.flows.erase flow.id).total _ ≤ _
  unfold Fleet.release
  cases hBulk : flow.bulk with
  | false =>
    simp only [Bool.false_eq_true, if_false]
    omega
  | true =>
    have hBytes : flow.bulkBytes = flow.declaredBytes.toNat := by
      simp only [bulkBytes, hBulk, if_true]
    have hEnough : flow.declaredBytes ≤ f.bulkInFlightBytes := by
      rw [UInt64.le_iff_toNat_le]
      omega
    simp only [if_true]
    rw [if_pos hEnough, UInt64.toNat_sub_of_le _ _ hEnough]
    omega

/- Without a new flow the counter goes on covering. -/
theorem Moves.covered {terms : Terms} {f g : Fleet} (hMoves : Moves terms f g)
    (hQuiet : ∀ id, ¬ terms.mints id) (hFiled : f.carriage.Filed) (hCovered : f.Covered) :
    g.Covered := by
  have hKept : (∀ id flow, g.carriage.flows.lookup id = some flow → flow.id = id) ∧ g.Covered := by
    refine Moves.invariant (fun h =>
      (∀ id flow, h.carriage.flows.lookup id = some flow → flow.id = id) ∧ h.Covered)
      ?_ hMoves ⟨hFiled.keyed, hCovered⟩
    rintro a b hMove ⟨hKeyed, hBefore⟩
    cases hMove with
    | observed id flow bytes hFlow =>
      refine ⟨fun other held hHeld => ?_, ?_⟩
      · rcases AList.lookup_insert_cases hHeld with ⟨rfl, rfl⟩ | ⟨-, hOld⟩
        · exact hKeyed _ flow hFlow
        · exact hKeyed other held hOld
      · have hTotal := AList.total_insert_of_some bulkBytes
          { flow with observedBytes := bytes } hFlow
        have hSame : bulkBytes { flow with observedBytes := bytes } = flow.bulkBytes := rfl
        unfold Covered at hBefore
        change (a.carriage.flows.insert id _).total _ ≤ a.bulkInFlightBytes.toNat
        omega
    | released id flow hFlow =>
      have hId := hKeyed id flow hFlow
      refine ⟨fun other held hHeld => ?_, hBefore.release (hId.symm ▸ hFlow)⟩
      exact hKeyed other held (Carriage.lookup_flows_release hHeld).2
    | served _ _ _ _ _ hMinted | carried _ _ _ _ _ _ _ hMinted => exact (hQuiet _ hMinted).elim
    | _ => exact ⟨hKeyed, hBefore⟩
  exact hKept.2

end Fleet

namespace Coordinator

/- No policy is applied. -/
def KeepsPolicy (_ : Coordinator) (label : Label) : Prop :=
  ∀ policy, label = .op (.applyPolicy policy) → policy.validate ≠ .valid

/- A cap and a payload never add up to a sum that wraps. -/
def CapFits (s : Coordinator) : Prop :=
  s.policy.bulkInFlightCapBytes ≠ 0 ∧
    s.policy.bulkInFlightCapBytes.toNat + s.config.limits.maxSinglePayloadBytes.toNat < 2 ^ 64

/- What the bound of a bulk class rests on. -/
structure Capped (s : Coordinator) : Prop where
  coherent : s.ledger.Coherent
  filed : s.carriage.Filed
  marked :
    ∀ key flow, s.flows.lookup key = some flow →
      flow.bulk = (s.policy.rule flow.traffic).yieldsToLatency
  capped : s.policy.bulkInFlightCapBytes ≠ 0 → s.bulkInFlightBytes ≤ s.policy.bulkInFlightCapBytes
  covered : s.CapFits → s.fleet.Covered

variable {mt : Generator} {s t : Coordinator} {op : Op} {label : Label}

theorem Capped.covered_step (hCapped : s.Capped) (hFits : s.CapFits) :
    (s.step op).fleet.Covered := by
  have hCovered := hCapped.covered hFits
  have hBelow := UInt64.le_iff_toNat_le.mp (hCapped.capped hFits.1)
  have hSum := hFits.2
  change (s.step op).cargo.flows.total bulkBytes ≤
    (s.step op).cargo.bulkInFlightBytes.toNat
  rcases step_cargo s hCapped.coherent op with
    hSame | ⟨terms, hQuiet, hMoves⟩ | ⟨flow, hOpened, -, hStored⟩
  · rw [hSame]
    exact hCovered
  · exact hMoves.covered hQuiet hCapped.filed hCovered
  · have hSized := UInt64.le_iff_toNat_le.mp hOpened.bulk.2.2
    have hTotal := AList.total_emplace_le bulkBytes s.flows flow.id flow
    have hBefore : s.flows.total bulkBytes ≤ s.bulkInFlightBytes.toNat := hCovered
    rw [hStored]
    refine Nat.le_trans hTotal ?_
    unfold bulkBytes Cargo.add at *
    simp only [cargo]
    split
    · rw [UInt64.toNat_add, Nat.mod_eq_of_lt (by omega)]
      omega
    · omega

theorem Capped.step (hCapped : s.Capped) (hKeeps : s.KeepsPolicy (.op op)) :
    (s.step op).Capped := by
  have hPolicy : (s.step op).policy = s.policy := by
    rcases step_policy s op with hSame | ⟨policy, rfl, hValid, -⟩
    · exact hSame
    · exact (hKeeps policy rfl hValid).elim
  refine ⟨?_, ?_, ?_, ?_, ?_⟩
  · exact (step_fleet s hCapped.coherent op).coherent hCapped.coherent
  · exact Transition.filed (.op s op : Transition (fun _ _ => 0) s _ _) hCapped.filed
  · intro key flow hFlow
    rw [hPolicy]
    rcases step_flow_origin s hCapped.coherent hFlow with ⟨old, hOld, hCore⟩ | ⟨-, -, hOpened⟩
    · have hBulk : flow.bulk = old.bulk := (congrArg bulk hCore :)
      have hTraffic : flow.traffic = old.traffic := (congrArg traffic hCore :)
      rw [hBulk, hTraffic]
      exact hCapped.marked key old hOld
    · exact hOpened.bulk.1
  · rw [hPolicy]
    exact fun hCap => capped_step hCapped.coherent hCap (hCapped.capped hCap)
  · unfold CapFits
    rw [hPolicy, (step_boot s op).1]
    exact hCapped.covered_step

theorem capped_of_idle (hCoherent : s.ledger.Coherent) (hIdle : s.fleet.Idle) : s.Capped := by
  have hEmpty : s.carriage = .empty := hIdle.carriage
  have hBulk : s.bulkInFlightBytes = 0 := hIdle.bulk
  have hFlows : s.flows = ∅ := congrArg Carriage.flows hEmpty
  refine ⟨hCoherent, hEmpty ▸ Carriage.indexed_empty.filed, ?_, ?_, ?_⟩
  · intro key flow hFlow
    rw [hFlows] at hFlow
    cases hFlow
  · intro _
    rw [hBulk]
    exact UInt64.zero_le
  · intro _
    change s.flows.total _ ≤ _
    rw [hFlows]
    exact Nat.zero_le _

theorem Capped.transition (hCapped : s.Capped) (hTransition : Transition mt s label t)
    (hKeeps : s.KeepsPolicy label) : t.Capped := by
  rcases hTransition.fleet with hIdle | ⟨op, rfl, rfl⟩
  · exact capped_of_idle (hTransition.coherent hCapped.coherent) hIdle
  · exact hCapped.step hKeeps

def classBytes (traffic : TrafficClass) (flow : FlowRecord) : Nat :=
  if flow.traffic = traffic then flow.declaredBytes.toNat else 0

/-
  Under a fixed policy, the open flows of a bulk class stay
  within the bound of the class when it is not below the
  cap on all bulk traffic and the cap cannot wrap.
-/
theorem bulk_class_within_bound {config : CoordinatorConfig} {start : Coordinator}
    {labels : List Label} (hStarted : Started mt config start)
    (hRun : Run (Guarded KeepsPolicy (Transition mt)) start labels s) (traffic : TrafficClass)
    (hYields : (s.policy.rule traffic).yieldsToLatency = true) (hFits : s.CapFits)
    (hBound : s.policy.bulkInFlightCapBytes ≤ (s.policy.rule traffic).maxInFlightBytes) :
    s.flows.total (classBytes traffic) ≤ (s.policy.rule traffic).maxInFlightBytes.toNat := by
  have hCapped : s.Capped := by
    refine hRun.invariant Capped ?_ (capped_of_idle hStarted.coherent hStarted.fleet)
    rintro t label u ⟨hKeeps, hStep⟩ hBefore
    exact hBefore.transition hStep hKeeps
  have hBulk : s.flows.total (classBytes traffic) ≤ s.flows.total FlowRecord.bulkBytes := by
    refine AList.total_le_of_labelled _ _ FlowRecord.id s.flows s.flows ?_
    intro key flow hFlow hCounts
    refine ⟨key, flow, hFlow, hCapped.filed.keyed key flow hFlow, ?_⟩
    unfold classBytes at hCounts ⊢
    split at hCounts
    · rename_i hClass
      have hMarked := hCapped.marked key flow hFlow
      rw [hClass, hYields] at hMarked
      simp only [FlowRecord.bulkBytes, hClass, hMarked, if_true, Nat.le_refl]
    · cases hCounts
  have hCovered : s.flows.total FlowRecord.bulkBytes ≤ s.bulkInFlightBytes.toNat :=
    hCapped.covered hFits
  have hBelow := UInt64.le_iff_toNat_le.mp (hCapped.capped hFits.1)
  have hLimit := UInt64.le_iff_toNat_le.mp hBound
  omega

/- The defaults with one bound for every class. -/
def boundedConfig : CoordinatorConfig where
  policy := { PolicyConfig.canonicalDefaults ⟨1⟩ with
      rule := fun traffic =>
        { PolicyConfig.canonicalRule traffic with maxInFlightBytes := 64 * 1024 * 1024 } }

def keepsPolicy : Op → Bool
| .applyPolicy _ => false
| _ => true

theorem bulk_class_within_bound_running :
    let s := ((create boundedConfig 1).bootFresh sampleGenerator).2.steps
      (generationOps ++ bulkOps bulkRegistration)
    s.flows.total (classBytes .modelTransfer) = 40 * 1024 * 1024 ∧
      s.flows.total (classBytes .modelTransfer) ≤
        (s.policy.rule .modelTransfer).maxInFlightBytes.toNat := by
  intro s
  refine ⟨by decide, ?_⟩
  refine bulk_class_within_bound ⟨1, rfl⟩
    (run_passes sampleGenerator (fun _ op => keepsPolicy op) ?_ _
      (generationOps ++ bulkOps bulkRegistration) (by decide))
    .modelTransfer (by decide) ⟨by decide, by decide⟩ (by decide)
  rintro s op hPlain policy hSame
  cases hSame
  cases hPlain

theorem class_bound_exceeded :
    let decision := ((sampleStart.steps ingressOps).evaluate ingressTraffic 5 0).1
    let s := sampleStart.steps
      (ingressOps ++ [.evaluate ingressTraffic 5 0, .openFlow decision (32 * 1024 * 1024) 6])
    let rule := s.policy.rule .requestIngress
    Reachable sampleGenerator {} s ∧ rule.maxInFlightBytes ≠ 0 ∧
      s.flows.total (classBytes .requestIngress) = 2 * rule.maxInFlightBytes.toNat := by
  intro decision s rule
  exact ⟨sampleStart_reachable _, by decide, by decide⟩

end Coordinator

end TrafficFabric
