import TrafficFabric.Core.Status
import TrafficFabric.Core.Traffic
import Mathlib.Algebra.Order.BigOperators.Group.List
import Mathlib.Algebra.Order.Group.Nat

/-
  The per-class treatment policy and its validation.
-/

namespace TrafficFabric

open Enumeration

/- Reserved weights are thousandths of the capacity. -/
def reservedWeightScale : UInt32 := 1000

def microsecond : UInt64 := 1000
def millisecond : UInt64 := 1000 * microsecond
def second : UInt64 := 1000 * millisecond
def kib : UInt64 := 1024
def mib : UInt64 := 1024 * kib

/- The rule of one traffic class. -/
structure ClassPolicyRule where
  enabled : Bool := false
  priority : PriorityClass := .unknown
  pacing : PacingClass := .unknown
  integrity : IntegrityClass := .unknown
  isolation : IsolationDomain := .unknown
  reservedWeight : UInt32 := 0
  maxBurstBytes : UInt64 := 0
  rateLimitBytesPerSec : UInt64 := 0
  maxInFlightBytes : UInt64 := 0
  requiresCurrentTopology : Bool := false
  requiresSloContract : Bool := false
  requiresCurrentRoute : Bool := false
  requiresModelGeneration : Bool := false
  requiresStateGeneration : Bool := false
  requiresDeadline : Bool := false
  starvationProtected : Bool := false
  maxDeferCount : UInt32 := 0
  maxDeferHorizonNanos : UInt64 := 0
  yieldsToLatency : Bool := false
deriving DecidableEq

inductive PolicyVerdict
| unknown
| valid
| missingRule
| reservedWeightOverflow
| bulkReserved
| unsupportedValue
| boundsExceeded
deriving DecidableEq

def PolicyVerdict.label : PolicyVerdict → String
| .unknown => "UNKNOWN"
| .valid => "VALID"
| .missingRule => "MISSING_RULE"
| .reservedWeightOverflow => "RESERVED_WEIGHT_OVERFLOW"
| .bulkReserved => "BULK_RESERVED"
| .unsupportedValue => "UNSUPPORTED_VALUE"
| .boundsExceeded => "BOUNDS_EXCEEDED"

namespace ClassPolicyRule

def isBulkRule (rule : ClassPolicyRule) : Bool :=
  rule.yieldsToLatency || rule.priority == .bulk

/- The first defect of an enabled rule, if it has one. -/
def defect (rule : ClassPolicyRule) : Option PolicyVerdict :=
  if rule.priority = .unknown ∨ rule.pacing = .unknown ∨
      rule.integrity = .unknown ∨
      rule.isolation = .unknown then
    some .unsupportedValue
  else if reservedWeightScale < rule.reservedWeight then some .boundsExceeded
  else if rule.isBulkRule && rule.reservedWeight ≠ 0 then some .bulkReserved
  else if rule.starvationProtected && (rule.maxDeferCount = 0 ∨ rule.maxDeferHorizonNanos = 0) then
    some .boundsExceeded
  else if rule.requiresDeadline &&
      (0 < rule.maxDeferHorizonNanos ∧ second * 60 < rule.maxDeferHorizonNanos) then
    some .boundsExceeded
  else none

/- What a rule adds to the validated reserved total. -/
def reservedShare (rule : ClassPolicyRule) : UInt64 :=
  if rule.isBulkRule then 0
  else rule.reservedWeight.toUInt64

/- A rule without defect reserves at most the scale. -/
theorem reservedWeight_of_defect {rule : ClassPolicyRule} (hDefect : rule.defect = none) :
    rule.reservedWeight.toNat ≤ 1000 ∧ (rule.isBulkRule = true → rule.reservedWeight = 0) := by
  unfold defect at hDefect
  split at hDefect
  · cases hDefect
  split at hDefect
  · cases hDefect
  rename_i hScale
  split at hDefect
  · cases hDefect
  rename_i hBulk
  refine ⟨UInt32.le_iff_toNat_le.mp (UInt32.not_lt.mp hScale), fun hRule => ?_⟩
  simpa [hRule] using hBulk

theorem defect_ne_valid (rule : ClassPolicyRule) : rule.defect ≠ some .valid := by
  unfold defect
  split_ifs
  all_goals exact (by simp)

end ClassPolicyRule

/- A policy document: one rule per class and the limits. -/
structure PolicyConfig where
  generation : PolicyGeneration := .unset
  rule : TrafficClass → ClassPolicyRule := fun _ => {}
  allowUnknownStage : Bool := false
  allowUnknownTrafficClass : Bool := false
  maxExplanationSteps : UInt32 := 8
  bulkInFlightCapBytes : UInt64 := 64 * 1024 * 1024
  congestionQueueDepth : UInt32 := 64
  congestionYieldsBulk : Bool := true
  deferHintNanos : UInt64 := 2000000
  staleEvidenceGraceNanos : UInt64 := 0
deriving Inhabited

namespace PolicyConfig

variable (config : PolicyConfig)

def maxExplanationHardLimit : UInt32 := 32

def setGeneration (config : PolicyConfig) (value : PolicyGeneration) : PolicyConfig :=
  { config with generation := value }

/- The validation loop over the remaining classes. -/
def validateRules (config : PolicyConfig) : List TrafficClass → UInt64 → PolicyVerdict
| [], reservedTotal =>
  if reservedWeightScale.toUInt64 < reservedTotal then .reservedWeightOverflow
  else .valid
| traffic :: rest, reservedTotal =>
  if (config.rule traffic).enabled then
    match (config.rule traffic).defect with
    | some verdict => verdict
    | none => validateRules config rest (reservedTotal + (config.rule traffic).reservedShare)
  else validateRules config rest reservedTotal

/- The first structural defect, or `valid`. -/
def validate (config : PolicyConfig) : PolicyVerdict :=
  if maxExplanationHardLimit < config.maxExplanationSteps then .boundsExceeded
  else if (config.allowUnknownTrafficClass || config.allowUnknownStage) &&
      !(config.rule .unknown).enabled then .missingRule
  else validateRules config listed 0

/- The loop reads the rules only. -/
theorem validateRules_congr (a b : PolicyConfig) (hRule : a.rule = b.rule)
    (rest : List TrafficClass) (reservedTotal : UInt64) :
    a.validateRules rest reservedTotal = b.validateRules rest reservedTotal := by
  induction rest generalizing reservedTotal with
  | nil => rfl
  | cons traffic rest ih => simp only [validateRules, hRule, ih]

/- Validation does not read the generation. -/
@[simp] theorem validate_setGeneration (value : PolicyGeneration) :
    (config.setGeneration value).validate = config.validate := by
  unfold validate
  rw [validateRules_congr (config.setGeneration value) config rfl]
  rfl

---
-- Canonical Defaults
---

def canonicalRule : TrafficClass → ClassPolicyRule
| .requestIngress =>
  { enabled := true
    priority := .interactive
    pacing := .immediate
    integrity := .checksum
    isolation := .interactive
    reservedWeight := 100
    maxBurstBytes := 256 * kib
    maxInFlightBytes := 16 * mib
    requiresSloContract := true
    requiresCurrentRoute := true
    requiresDeadline := true
    starvationProtected := true
    maxDeferCount := 8
    maxDeferHorizonNanos := 50 * millisecond }
| .prefillInput =>
  { enabled := true
    priority := .interactive
    pacing := .paced
    integrity := .checksum
    isolation := .latencyCritical
    reservedWeight := 120
    maxBurstBytes := 1 * mib
    maxInFlightBytes := 128 * mib
    requiresCurrentTopology := true
    requiresSloContract := true
    requiresCurrentRoute := true
    requiresModelGeneration := true
    requiresDeadline := true
    starvationProtected := true
    maxDeferCount := 8
    maxDeferHorizonNanos := 50 * millisecond }
| .prefillDecodeHandoff =>
  { enabled := true
    priority := .latencyCritical
    pacing := .immediate
    integrity := .checksumAndVerify
    isolation := .latencyCritical
    reservedWeight := 150
    maxBurstBytes := 2 * mib
    maxInFlightBytes := 256 * mib
    requiresCurrentTopology := true
    requiresSloContract := true
    requiresCurrentRoute := true
    requiresModelGeneration := true
    requiresStateGeneration := true
    requiresDeadline := true
    starvationProtected := true
    maxDeferCount := 8
    maxDeferHorizonNanos := 50 * millisecond }
| .kvTransfer =>
  { enabled := true
    priority := .latencyCritical
    pacing := .paced
    integrity := .checksumAndVerify
    isolation := .latencyCritical
    reservedWeight := 150
    maxBurstBytes := 4 * mib
    maxInFlightBytes := 512 * mib
    requiresCurrentTopology := true
    requiresSloContract := true
    requiresCurrentRoute := true
    requiresModelGeneration := true
    requiresStateGeneration := true
    requiresDeadline := true
    starvationProtected := true
    maxDeferCount := 8
    maxDeferHorizonNanos := 50 * millisecond }
| .stateTransfer =>
  { enabled := true
    priority := .standard
    pacing := .paced
    integrity := .checksumAndVerify
    isolation := .background
    reservedWeight := 60
    maxBurstBytes := 8 * mib
    maxInFlightBytes := 512 * mib
    requiresCurrentTopology := true
    requiresCurrentRoute := true
    requiresModelGeneration := true
    requiresStateGeneration := true
    maxDeferCount := 64
    maxDeferHorizonNanos := 2 * second }
| .modelTransfer =>
  { enabled := true
    priority := .bulk
    pacing := .rateLimited
    integrity := .checksumAndVerify
    isolation := .bulk
    maxBurstBytes := 16 * mib
    rateLimitBytesPerSec := 512 * mib
    requiresCurrentTopology := true
    requiresModelGeneration := true
    yieldsToLatency := true
    maxDeferCount := 256
    maxDeferHorizonNanos := 30 * second }
| .adapterTransfer =>
  { enabled := true
    priority := .bulk
    pacing := .rateLimited
    integrity := .checksum
    isolation := .bulk
    maxBurstBytes := 8 * mib
    rateLimitBytesPerSec := 256 * mib
    requiresCurrentTopology := true
    requiresModelGeneration := true
    yieldsToLatency := true
    maxDeferCount := 256
    maxDeferHorizonNanos := 30 * second }
| .decodeStream =>
  { enabled := true
    priority := .latencyCritical
    pacing := .paced
    integrity := .checksum
    isolation := .latencyCritical
    reservedWeight := 200
    maxBurstBytes := 512 * kib
    maxInFlightBytes := 256 * mib
    requiresSloContract := true
    requiresCurrentRoute := true
    requiresModelGeneration := true
    requiresDeadline := true
    starvationProtected := true
    maxDeferCount := 8
    maxDeferHorizonNanos := 50 * millisecond }
| .speculativeBranch =>
  { enabled := true
    priority := .background
    pacing := .bestEffort
    integrity := .checksum
    isolation := .background
    maxBurstBytes := 1 * mib
    maxInFlightBytes := 64 * mib
    requiresCurrentRoute := true
    requiresModelGeneration := true
    yieldsToLatency := true
    maxDeferCount := 64
    maxDeferHorizonNanos := 5 * second }
| .responseEgress =>
  { enabled := true
    priority := .interactive
    pacing := .immediate
    integrity := .checksum
    isolation := .interactive
    reservedWeight := 100
    maxBurstBytes := 256 * kib
    maxInFlightBytes := 64 * mib
    requiresSloContract := true
    requiresCurrentRoute := true
    requiresDeadline := true
    starvationProtected := true
    maxDeferCount := 8
    maxDeferHorizonNanos := 50 * millisecond }
| .control =>
  { enabled := true
    priority := .latencyCritical
    pacing := .immediate
    integrity := .checksumAndVerify
    isolation := .control
    reservedWeight := 20
    maxBurstBytes := 64 * kib
    maxInFlightBytes := 16 * mib
    starvationProtected := true
    maxDeferCount := 32
    maxDeferHorizonNanos := 1 * second }
| .unknown => {}

def canonicalDefaults (generation : PolicyGeneration) : PolicyConfig :=
  { generation
    rule := canonicalRule }

/- The default policy passes its own validation. -/
theorem validate_canonicalDefaults (generation : PolicyGeneration) :
    (canonicalDefaults generation).validate = .valid := by
  have hClosed : (canonicalDefaults .unset).validate = .valid := by decide
  rw [← validate_setGeneration _ generation] at hClosed
  exact hClosed

---
-- Reserved Weights
---

/- What a class holds back for itself. -/
def reserves (config : PolicyConfig) (traffic : TrafficClass) : Nat :=
  if (config.rule traffic).enabled && !(config.rule traffic).isBulkRule then
    (config.rule traffic).reservedWeight.toNat
  else 0

/- The exact sum over all classes. -/
def reservedSum (config : PolicyConfig) : Nat :=
  ((listed : List TrafficClass).map config.reserves).sum

def addReserved (config : PolicyConfig) (total : UInt64) (traffic : TrafficClass) : UInt64 :=
  if !(config.rule traffic).enabled then total
  else if (config.rule traffic).isBulkRule then total
  else total + (config.rule traffic).reservedWeight.toUInt64

/- The loop of the reported total starts after the unknown class. -/
def reservedWeightTotal (config : PolicyConfig) : UInt32 :=
  let total := (listed : List TrafficClass).tail.foldl config.addReserved 0
  if reservedWeightScale.toUInt64 < total then reservedWeightScale
  else total.toUInt32

theorem toNat_addReserved (total : UInt64) (traffic : TrafficClass)
    (hRoom : total.toNat + config.reserves traffic < 2 ^ 64) :
    (config.addReserved total traffic).toNat = total.toNat + config.reserves traffic := by
  unfold addReserved
  unfold reserves at hRoom ⊢
  cases hEnabled : (config.rule traffic).enabled with
  | false => simp
  | true =>
    cases hBulk : (config.rule traffic).isBulkRule with
    | true => simp
    | false =>
      simp only [hEnabled, hBulk, Bool.not_false, Bool.and_self, if_true] at hRoom
      simpa using Nat.mod_eq_of_lt hRoom

/- A sum that fits is added up exactly. -/
theorem toNat_foldl_addReserved (classes : List TrafficClass) (total : UInt64)
    (hRoom : total.toNat + (classes.map config.reserves).sum < 2 ^ 64) :
    (classes.foldl config.addReserved total).toNat =
      total.toNat + (classes.map config.reserves).sum := by
  induction classes generalizing total with
  | nil => rfl
  | cons traffic rest ih =>
    rw [List.map_cons, List.sum_cons] at hRoom ⊢
    have hFirst := config.toNat_addReserved total traffic (by omega)
    rw [List.foldl_cons, ih _ (by omega), hFirst, Nat.add_assoc]

/- Every enabled rule of a valid document is without defect, and the loop adds up to its end. -/
theorem validateRules_eq_valid {config : PolicyConfig} {rest : List TrafficClass} {total : UInt64}
    (hValid : config.validateRules rest total = .valid) :
    (∀ traffic ∈ rest,
      (config.rule traffic).enabled = true → (config.rule traffic).defect = none) ∧
    rest.foldl config.addReserved total ≤ reservedWeightScale.toUInt64 := by
  induction rest generalizing total with
  | nil =>
    unfold validateRules at hValid
    split at hValid
    · cases hValid
    · rename_i hScale
      exact ⟨by simp, UInt64.not_lt.mp hScale⟩
  | cons traffic rest ih =>
    unfold validateRules at hValid
    rw [List.forall_mem_cons, List.foldl_cons, addReserved]
    split at hValid
    · rename_i hEnabled
      split at hValid
      · rename_i verdict hDefect
        rw [hValid] at hDefect
        exact absurd hDefect (config.rule traffic).defect_ne_valid
      · rename_i hDefect
        have hShare : total + (config.rule traffic).reservedShare =
            if (config.rule traffic).isBulkRule then total
            else total + (config.rule traffic).reservedWeight.toUInt64 := by
          unfold ClassPolicyRule.reservedShare
          split
          · exact UInt64.add_zero total
          · rfl
        rcases ih hValid with ⟨hRules, hTotal⟩
        rw [hShare] at hTotal
        simp only [hEnabled]
        exact ⟨⟨fun _ => hDefect, hRules⟩, hTotal⟩
    · rename_i hDisabled
      rcases ih hValid with ⟨hRules, hTotal⟩
      simp only [hDisabled]
      exact ⟨⟨by simp, hRules⟩, hTotal⟩

theorem reserves_le {config : PolicyConfig} {traffic : TrafficClass}
    (hRule : (config.rule traffic).enabled = true → (config.rule traffic).defect = none) :
    config.reserves traffic ≤ 1000 := by
  unfold reserves
  split
  · rename_i hCounted
    exact (ClassPolicyRule.reservedWeight_of_defect (hRule (Bool.and_elim_left hCounted))).1
  · exact Nat.zero_le _

/-
  Validation bounds the exact sum. The reported total leaves
  the unknown class out.
-/
theorem reserved_weight_exact (config : PolicyConfig) (hValid : config.validate = .valid) :
    config.reservedSum ≤ 1000 ∧
    (∀ traffic, (config.rule traffic).enabled = true → (config.rule traffic).isBulkRule = true →
      (config.rule traffic).reservedWeight = 0) ∧
    (config.reservedWeightTotal.toNat = config.reservedSum ↔ config.reserves .unknown = 0) := by
  unfold validate at hValid
  split at hValid
  · cases hValid
  split at hValid
  · cases hValid
  rcases validateRules_eq_valid hValid with ⟨hRules, hTotal⟩
  have hSmall : config.reservedSum ≤ 12 * 1000 := by
    refine List.sum_le_card_nsmul _ 1000 ?_
    intro weight hWeight
    rcases List.mem_map.mp hWeight with ⟨traffic, hListed, rfl⟩
    exact reserves_le (hRules traffic hListed)
  have hSum : config.reservedSum ≤ 1000 := by
    have hExact := config.toNat_foldl_addReserved listed 0
      (by change 0 + config.reservedSum < _; omega)
    have hScale := UInt64.le_iff_toNat_le.mp hTotal
    rw [hExact] at hScale
    simpa [reservedSum, reservedWeightScale] using hScale
  refine ⟨hSum, ?_, ?_⟩
  · intro traffic hEnabled hBulk
    exact (ClassPolicyRule.reservedWeight_of_defect
      (hRules traffic (complete traffic) hEnabled)).2 hBulk
  · have hSplit : config.reservedSum = config.reserves .unknown +
        ((listed : List TrafficClass).tail.map config.reserves).sum := rfl
    have hTail := config.toNat_foldl_addReserved (listed : List TrafficClass).tail 0
      (by change 0 + _ < _; omega)
    have hReported : config.reservedWeightTotal.toNat =
        ((listed : List TrafficClass).tail.map config.reserves).sum := by
      unfold reservedWeightTotal
      have hBelow : ¬ reservedWeightScale.toUInt64 <
          (listed : List TrafficClass).tail.foldl config.addReserved 0 := by
        rw [UInt64.not_lt, UInt64.le_iff_toNat_le, hTail]
        change 0 + _ ≤ 1000
        omega
      simp only [if_neg hBelow, UInt64.toNat_toUInt32, hTail]
      change (0 + _) % _ = _
      omega
    omega

theorem reserved_weight_exact_canonical :
    (canonicalDefaults ⟨1⟩).reserves .unknown = 0 ∧
    (canonicalDefaults ⟨1⟩).reservedWeightTotal.toNat = (canonicalDefaults ⟨1⟩).reservedSum :=
  ⟨rfl, ((canonicalDefaults ⟨1⟩).reserved_weight_exact
    (validate_canonicalDefaults ⟨1⟩)).2.2.mpr rfl⟩

/- A weight of the unknown class is missing in the total. -/
theorem unknown_weight_unreported :
    let config : PolicyConfig :=
      { canonicalDefaults ⟨1⟩ with
        allowUnknownTrafficClass := true
        rule := fun traffic =>
          if traffic = .unknown then canonicalRule .requestIngress
          else canonicalRule traffic }
    config.validate = .valid ∧ config.reservedSum = 1000 ∧ config.reservedWeightTotal = 900 := by
  decide

end PolicyConfig

end TrafficFabric
