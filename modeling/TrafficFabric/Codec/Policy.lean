import TrafficFabric.Codec.Reader
import TrafficFabric.Core.Policy
import Mathlib.Logic.Function.Basic

/-
  The encoding of policy documents. A decoded document is
  validated, and a step limit of zero is replaced by the
  hard limit.
-/

namespace TrafficFabric

open Decoder Layout Enumeration
open Writer (Appends Writable)

namespace ClassPolicyRule

def layout (value : ClassPolicyRule) : List UInt8 :=
  [ boolean value.enabled,
    enumeration value.priority,
    enumeration value.pacing,
    enumeration value.integrity,
    enumeration value.isolation,
    u32 value.reservedWeight,
    u64 value.maxBurstBytes,
    u64 value.rateLimitBytesPerSec,
    u64 value.maxInFlightBytes,
    boolean value.requiresCurrentTopology,
    boolean value.requiresSloContract,
    boolean value.requiresCurrentRoute,
    boolean value.requiresModelGeneration,
    boolean value.requiresStateGeneration,
    boolean value.requiresDeadline,
    boolean value.starvationProtected,
    u32 value.maxDeferCount,
    u64 value.maxDeferHorizonNanos,
    boolean value.yieldsToLatency ].flatten

theorem length_layout (value : ClassPolicyRule) : value.layout.length = 57 := by simp [layout]

def encode (writer : Writer) (value : ClassPolicyRule) : Writer :=
  writer
    |>.boolean value.enabled
    |>.enumeration value.priority
    |>.enumeration value.pacing
    |>.enumeration value.integrity
    |>.enumeration value.isolation
    |>.u32 value.reservedWeight
    |>.u64 value.maxBurstBytes
    |>.u64 value.rateLimitBytesPerSec
    |>.u64 value.maxInFlightBytes
    |>.boolean value.requiresCurrentTopology
    |>.boolean value.requiresSloContract
    |>.boolean value.requiresCurrentRoute
    |>.boolean value.requiresModelGeneration
    |>.boolean value.requiresStateGeneration
    |>.boolean value.requiresDeadline
    |>.boolean value.starvationProtected
    |>.u32 value.maxDeferCount
    |>.u64 value.maxDeferHorizonNanos
    |>.boolean value.yieldsToLatency

instance : Writable layout encode where
  appends writer value := by
    iterate 19 apply Appends.next
    exact Appends.refl _

end ClassPolicyRule

def decodeClassPolicyRule : Decoder ClassPolicyRule := do
  let enabled ← Reader.boolean
  let priority ← Reader.enumeration
  let pacing ← Reader.enumeration
  let integrity ← Reader.enumeration
  let isolation ← Reader.enumeration
  let reservedWeight ← Reader.u32
  let maxBurstBytes ← Reader.u64
  let rateLimitBytesPerSec ← Reader.u64
  let maxInFlightBytes ← Reader.u64
  let requiresCurrentTopology ← Reader.boolean
  let requiresSloContract ← Reader.boolean
  let requiresCurrentRoute ← Reader.boolean
  let requiresModelGeneration ← Reader.boolean
  let requiresStateGeneration ← Reader.boolean
  let requiresDeadline ← Reader.boolean
  let starvationProtected ← Reader.boolean
  let maxDeferCount ← Reader.u32
  let maxDeferHorizonNanos ← Reader.u64
  let yieldsToLatency ← Reader.boolean
  let value : ClassPolicyRule :=
    { enabled, priority, pacing, integrity, isolation, reservedWeight, maxBurstBytes
      rateLimitBytesPerSec, maxInFlightBytes, requiresCurrentTopology, requiresSloContract
      requiresCurrentRoute, requiresModelGeneration, requiresStateGeneration, requiresDeadline
      starvationProtected, maxDeferCount, maxDeferHorizonNanos, yieldsToLatency }
  checkOk "policy rule body"
  pure value

instance : Readable decodeClassPolicyRule
    ClassPolicyRule.layout where
  decodes value := by
    iterate 19 apply Decodes.next
    apply (Decodes.checkOk _).check
    exact Decodes.pure value
  ensures := by
    iterate 19 refine Ensures.next (fun _ => ?_)
    refine (Ensures.checkOk _).skip (fun _ => ?_)
    exact Ensures.pure trivial

/- The loop that reads the rule of each class. -/
def decodeRules :
    List TrafficClass → (TrafficClass → ClassPolicyRule) → Decoder (TrafficClass → ClassPolicyRule)
| [], rules => pure rules
| traffic :: rest, rules => do
    let rule ← decodeClassPolicyRule
    decodeRules rest (Function.update rules traffic rule)

theorem decodeRules_decodes (rule : TrafficClass → ClassPolicyRule) (classes : List TrafficClass)
    (rules : TrafficClass → ClassPolicyRule) :
    (decodeRules classes rules).Decodes (each (fun traffic => (rule traffic).layout) classes)
      (fun traffic =>
        if traffic ∈ classes then rule traffic
        else rules traffic) := by
  induction classes generalizing rules with
  | nil => exact Decodes.pure rules
  | cons first rest ih =>
    have hRest := ih (Function.update rules first (rule first))
    have hSame : (fun traffic =>
          if traffic ∈ first :: rest then rule traffic
          else rules traffic) =
        (fun traffic =>
          if traffic ∈ rest then rule traffic
          else Function.update rules first (rule first) traffic) := by
      funext traffic
      by_cases hFirst : traffic = first
      · subst hFirst
        simp
      · simp [hFirst]
    rw [hSame]
    exact (Readable.decodes (rule first)).bind hRest

theorem decodeRules_ensures (classes : List TrafficClass) (rules : TrafficClass → ClassPolicyRule) :
    (decodeRules classes rules).Ensures (fun _ => True) := by
  induction classes generalizing rules with
  | nil => exact Ensures.pure trivial
  | cons first rest ih => exact Ensures.next (fun _ => ih _)

---
-- Documents
---

def trafficClassCount : UInt16 :=
  UInt16.ofNat (listed : List TrafficClass).length

namespace PolicyConfig

variable {policy : PolicyConfig}
variable (value : PolicyConfig)

def layout (value : PolicyConfig) : List UInt8 :=
  [ Layout.generation value.generation,
    boolean value.allowUnknownStage,
    boolean value.allowUnknownTrafficClass,
    u32 value.maxExplanationSteps,
    u64 value.bulkInFlightCapBytes,
    u32 value.congestionQueueDepth,
    boolean value.congestionYieldsBulk,
    u64 value.deferHintNanos,
    u64 value.staleEvidenceGraceNanos,
    u16 trafficClassCount,
    each (fun traffic => (value.rule traffic).layout) listed ].flatten

theorem length_layout_le : value.layout.length ≤ 45 + 57 * (listed : List TrafficClass).length := by
  have hRules := length_each_le (listed : List TrafficClass)
    (fun traffic _ => (value.rule traffic).length_layout.le)
  simp only [layout, List.length_flatten, List.map_cons, List.map_nil, List.sum_cons, List.sum_nil,
    length_generation, length_u16, length_u32, length_u64,
    length_boolean]
  omega

def encode (writer : Writer) (value : PolicyConfig) : Writer :=
  writer
    |>.generation value.generation
    |>.boolean value.allowUnknownStage
    |>.boolean value.allowUnknownTrafficClass
    |>.u32 value.maxExplanationSteps
    |>.u64 value.bulkInFlightCapBytes
    |>.u32 value.congestionQueueDepth
    |>.boolean value.congestionYieldsBulk
    |>.u64 value.deferHintNanos
    |>.u64 value.staleEvidenceGraceNanos
    |>.u16 trafficClassCount
    |>.each (fun writer traffic => (value.rule traffic).encode writer) listed

instance : Writable layout encode where
  appends writer value := by
    iterate 10 apply Appends.next
    apply Appends.field
    · apply Appends.each
      intro writer traffic
      exact Writable.appends writer (value.rule traffic)
    · exact Appends.refl _

/- The step limit a decoded document is given. -/
def normalisedSteps (steps : UInt32) : UInt32 :=
  if steps = 0 ∨ maxExplanationHardLimit < steps then maxExplanationHardLimit
  else steps

theorem normalisedSteps_ne_zero (steps : UInt32) : normalisedSteps steps ≠ 0 := by
  unfold normalisedSteps
  split
  · decide
  · rename_i hSteps
    exact fun hZero => hSteps (.inl hZero)

def decode : Decoder PolicyConfig := do
  let generation ← Reader.generation
  let allowUnknownStage ← Reader.boolean
  let allowUnknownTrafficClass ← Reader.boolean
  let maxExplanationSteps ← Reader.u32
  let bulkInFlightCapBytes ← Reader.u64
  let congestionQueueDepth ← Reader.u32
  let congestionYieldsBulk ← Reader.boolean
  let deferHintNanos ← Reader.u64
  let staleEvidenceGraceNanos ← Reader.u64
  let ruleCount ← Reader.u16
  checkOk "policy header"
  refuseIf (ruleCount != trafficClassCount) .malformedInput
    "policy rule count does not match the fabric vocabulary"
  let rule ← decodeRules listed (fun _ => {})
  let value : PolicyConfig :=
    { generation, rule, allowUnknownStage, allowUnknownTrafficClass
      maxExplanationSteps := normalisedSteps maxExplanationSteps
      bulkInFlightCapBytes, congestionQueueDepth, congestionYieldsBulk, deferHintNanos
      staleEvidenceGraceNanos }
  refuseIf (value.validate != .valid) .policyInvalid
    ("decoded policy rejected: " ++ value.validate.label)
  pure value

/- What a document has to satisfy to be read back. -/
structure Storable (policy : PolicyConfig) : Prop where
  valid : policy.validate = .valid
  issued : policy.generation ≠ .unset
  explains : policy.maxExplanationSteps ≠ 0

/- The document that is read for a document. -/
def normalised (policy : PolicyConfig) : PolicyConfig :=
  { policy with maxExplanationSteps := normalisedSteps policy.maxExplanationSteps }

theorem validate_normalised (hValid : policy.validate = .valid) :
    policy.normalised.validate = .valid := by
  have hLimit : ¬ maxExplanationHardLimit < policy.normalised.maxExplanationSteps := by
    change ¬ maxExplanationHardLimit < normalisedSteps _
    unfold normalisedSteps
    split
    · exact UInt32.lt_irrefl _
    · rename_i hSteps
      exact fun hOver => hSteps (.inr hOver)
  unfold validate at hValid ⊢
  rw [if_neg hLimit, validateRules_congr policy.normalised policy rfl]
  split at hValid
  · cases hValid
  · exact hValid

theorem Storable.normalised (hStorable : policy.Storable) : policy.normalised = policy := by
  have hLimit : ¬ maxExplanationHardLimit < policy.maxExplanationSteps := by
    intro hOver
    have hValid := hStorable.valid
    unfold validate at hValid
    rw [if_pos hOver] at hValid
    cases hValid
  have hSteps : normalisedSteps policy.maxExplanationSteps = policy.maxExplanationSteps := by
    unfold normalisedSteps
    rw [if_neg]
    rintro (hZero | hOver)
    · exact hStorable.explains hZero
    · exact hLimit hOver
  unfold PolicyConfig.normalised
  rw [hSteps]

theorem decode_layout (hValid : value.validate = .valid) (hIssued : value.generation ≠ .unset) :
    decode.Decodes value.layout value.normalised := by
  have hCount : (trafficClassCount != trafficClassCount) = false := bne_self_eq_false _
  have hNormal : (value.normalised.validate != .valid) = false := by
    rw [validate_normalised hValid]
    rfl
  have hRules := decodeRules_decodes value.rule listed (fun _ => {})
  have hAll : (fun traffic =>
        if traffic ∈ (listed : List TrafficClass) then value.rule traffic
        else ({} : ClassPolicyRule)) = value.rule := by
    funext traffic
    rw [if_pos (complete traffic)]
  rw [hAll] at hRules
  apply (Decodes.generation _ hIssued).field
  iterate 9 apply Decodes.next
  apply (Decodes.checkOk _).check
  apply (Decodes.refuseIf hCount _ _).check
  apply hRules.field
  apply (Decodes.refuseIf hNormal _ _).check
  exact Decodes.pure _

theorem decode_decodes (hStorable : value.Storable) : decode.Decodes value.layout value := by
  have hDecodes := decode_layout value hStorable.valid hStorable.issued
  rw [hStorable.normalised] at hDecodes
  exact hDecodes

/- Every document that is read is storable. -/
theorem decode_ensures : decode.Ensures Storable := by
  refine Ensures.generation.bind (fun _ => ?_)
  iterate 9 refine Ensures.next (fun _ => ?_)
  refine (Ensures.checkOk _).skip (fun _ => ?_)
  refine (Ensures.refuseIf _ _ _).skip (fun _ => ?_)
  refine (decodeRules_ensures _ _).skip (fun _ => ?_)
  refine (Ensures.refuseIf _ _ _).bind (fun _ => ?_)
  apply Ensures.pure
  intro hValid hIssued
  constructor
  · simpa using hValid
  · exact hIssued
  · exact normalisedSteps_ne_zero _

/- A document encoded and decoded as the source does it by default. -/
def roundTrip (policy : PolicyConfig) : Result PolicyConfig × Reader :=
  decode (Reader.create (policy.encode {}).buffer maxFramePayloadBytes)

theorem roundTrip_eq (hValid : policy.validate = .valid) (hIssued : policy.generation ≠ .unset) :
    (policy.encode {}).ok = true ∧ policy.roundTrip.1 = .ok policy.normalised ∧
      policy.roundTrip.2.finish = .ok () := by
  have hRoom : policy.layout.length ≤ maxFramePayloadBytes :=
    policy.length_layout_le.trans (by decide)
  have hWritten := (Writable.appends {} policy).fits rfl (by simpa using hRoom)
  have hHolds := Reader.holds_create policy.layout maxFramePayloadBytes hRoom
  rcases decode_layout policy hValid hIssued _ [] (by rwa [List.append_nil]) with
    ⟨after, hDecoded, hRest⟩
  have hTrip : policy.roundTrip = (.ok policy.normalised, after) := by
    unfold roundTrip
    rw [hWritten]
    exact hDecoded
  rw [hWritten, hTrip]
  exact ⟨rfl, rfl, Reader.finish_of_holds hRest⟩

/-
  A valid document is read back unless it allows no step of
  explanation: such a document reads back with the hard limit.
-/
theorem policy_read_back (policy : PolicyConfig) (hValid : policy.validate = .valid)
    (hIssued : policy.generation ≠ .unset) :
    (policy.encode {}).ok = true ∧
    (policy.roundTrip.1 = .ok policy ∧ policy.roundTrip.2.finish = .ok () ↔
      policy.maxExplanationSteps ≠ 0) := by
  rcases roundTrip_eq hValid hIssued with ⟨hWritten, hRead, hFinish⟩
  refine ⟨hWritten, ?_⟩
  rw [hRead, and_iff_left hFinish, Except.ok.injEq]
  constructor
  · intro hSame
    rw [← hSame]
    exact normalisedSteps_ne_zero _
  · intro hExplains
    exact Storable.normalised ⟨hValid, hIssued, hExplains⟩

theorem policy_read_back_canonical :
    let policy := canonicalDefaults ⟨1⟩
    policy.roundTrip.1 = .ok policy ∧ policy.roundTrip.2.finish = .ok () :=
  (policy_read_back _ (validate_canonicalDefaults ⟨1⟩) (by decide)).2.mpr (by decide)

/- No step of explanation becomes the hard limit. -/
theorem policy_steps_replaced :
    let policy := { canonicalDefaults ⟨1⟩ with maxExplanationSteps := 0 }
    policy.validate = .valid ∧ policy.roundTrip.1 = .ok { policy with maxExplanationSteps := 32 } :=
  ⟨by decide, (roundTrip_eq (by decide) (by decide)).2.1⟩

end PolicyConfig

end TrafficFabric
