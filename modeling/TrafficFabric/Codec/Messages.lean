import TrafficFabric.Codec.Records

/-
  The encoding of decisions, and of the message that asks
  for a flow with one.

  Main declarations:
    * `decodeTrafficSubject`
    * `decodeDecision`
    * `OpenFlowMessage.decode_decodes`
    * `decodeBody_layout`
-/

---
-- Optional Fields
---

namespace TrafficFabric

open Decoder Layout
open Writer (Appends Writable)

def Layout.optionalGeneration {tag : GenerationTag} : Option (Generation tag) → List UInt8
| none => boolean false
| some value => boolean true ++ generation value

def Layout.instant (value : Instant) : List UInt8 :=
  if value.isSet then boolean true ++ i64 value.nanos
  else boolean false

namespace Writer

/- A generation that is bound but unset is written too. -/
def optionalGeneration {tag : GenerationTag} (writer : Writer) : Option (Generation tag) → Writer
| none => writer.boolean false
| some value => (writer.boolean true).generation value

def instant (writer : Writer) (value : Instant) : Writer :=
  if value.isSet then (writer.boolean true).i64 value.nanos
  else writer.boolean false

instance {tag : GenerationTag} : Writable (@Layout.optionalGeneration tag) optionalGeneration where
  appends writer value := by
    cases value with
    | none => exact .store writer _
    | some held => exact (Appends.store writer _).trans (.store _ _)

instance : Writable Layout.instant instant where
  appends writer value := by
    unfold Layout.instant instant
    split
    · exact (Appends.store writer _).trans (.store _ _)
    · exact .store writer _

end Writer

def readOptionalGeneration {tag : GenerationTag} : Decoder (Option (Generation tag)) := do
  let present ← Reader.boolean
  if present then
    let value ← Reader.u64
    Reader.accept (value ≠ 0) .malformedInput (some ⟨value⟩) none none
  else pure none

def readInstant : Decoder Instant := do
  let present ← Reader.boolean
  if present then
    let nanos ← Reader.i64
    pure ⟨nanos⟩
  else pure .unset

namespace Decoder

theorem Decodes.readOptionalGeneration {tag : GenerationTag} (value : Option (Generation tag))
    (hSet : value ≠ some .unset) :
    Decodes readOptionalGeneration (optionalGeneration value) value := by
  cases value with
  | none => exact (boolean false).last (Decodes.pure none)
  | some held =>
    have hValue : decide (held.value ≠ 0) = true := by
      apply decide_eq_true
      intro hZero
      apply hSet
      rcases held with ⟨raw⟩
      exact congrArg (fun value => some (Generation.mk value)) hZero
    exact (boolean true).bind
      ((u64 held.value).last (accept hValue .malformedInput (some held) none none))

theorem Decodes.readInstant (value : Instant) : Decodes readInstant (instant value) value := by
  unfold instant
  split
  · exact (boolean true).bind ((i64 value.nanos).last (Decodes.pure value))
  · rename_i hUnset
    have hValue : value = .unset := by
      rcases value with ⟨nanos⟩
      have hNanos : nanos = Int64.minValue := by simpa [Instant.isSet] using hUnset
      rw [hNanos]
      rfl
    rw [hValue]
    exact (boolean false).last (Decodes.pure Instant.unset)

theorem Ensures.readInstant : readInstant.Ensures (fun _ => True) := by
  refine Ensures.next (fun present => ?_)
  cases present with
  | false => exact Ensures.pure trivial
  | true => exact Ensures.next (fun _ => Ensures.pure trivial)

instance : Readable readInstant instant := ⟨.readInstant, .readInstant⟩

end Decoder

---
-- Subjects And Bindings
---

namespace TrafficSubject

def layout (value : TrafficSubject) : List UInt8 :=
  [ enumeration value.kind,
    id value.request,
    id value.attempt,
    generation value.requestGeneration,
    id value.transfer ].flatten

def encode (writer : Writer) (value : TrafficSubject) : Writer :=
  writer
    |>.enumeration value.kind
    |>.id value.request
    |>.id value.attempt
    |>.generation value.requestGeneration
    |>.id value.transfer

instance : Writable layout encode where
  appends writer value := by
    iterate 5 apply Appends.next
    exact Appends.refl _

end TrafficSubject

def decodeTrafficSubject : Decoder TrafficSubject := do
  let kind ← Reader.enumeration
  let request ← readId
  let attempt ← readId
  let requestGeneration ← readGeneration
  let transfer ← readId
  let value : TrafficSubject := { kind, request, attempt, requestGeneration, transfer }
  checkOk "traffic subject"
  refuseIf
    (value.kind == .serving &&
      (value.request.isNil || value.attempt.isNil || value.requestGeneration.isUnset))
    .malformedInput "serving subject is missing request identity"
  refuseIf (value.kind == .transfer && value.transfer.isNil) .malformedInput
    "transfer subject is missing transfer identity"
  pure value

theorem decodeTrafficSubject_decodes (value : TrafficSubject)
    (hValid : value.kind ≠ .unknown → value.isValid = true) :
    decodeTrafficSubject.Decodes value.layout value := by
  have hServing :
      (value.kind == .serving &&
        (value.request.isNil || value.attempt.isNil ||
          value.requestGeneration.isUnset)) = false := by
    cases hKind : value.kind with
    | serving =>
      have hKnown := hValid (by simp [hKind])
      unfold TrafficSubject.isValid at hKnown
      simp only [hKind, Bool.and_eq_true, Bool.not_eq_true'] at hKnown
      rw [hKnown.1.1, hKnown.1.2, hKnown.2]
      rfl
    | transfer | unknown => rfl
  have hTransfer : (value.kind == .transfer && value.transfer.isNil) = false := by
    cases hKind : value.kind with
    | transfer =>
      have hKnown := hValid (by simp [hKind])
      unfold TrafficSubject.isValid at hKnown
      simp only [hKind, Bool.not_eq_true'] at hKnown
      rw [hKnown]
      rfl
    | serving | unknown => rfl
  iterate 5 apply Decodes.next
  apply (Decodes.checkOk _).check
  apply (Decodes.refuseIf hServing _ _).check
  apply (Decodes.refuseIf hTransfer _ _).check
  exact Decodes.pure value

namespace GenerationBinding

def layout (value : GenerationBinding) : List UInt8 :=
  [ optionalGeneration value.requestGeneration,
    optionalGeneration value.modelGeneration,
    optionalGeneration value.stateGeneration,
    optionalGeneration value.routeDecision,
    optionalGeneration value.sloContract,
    optionalGeneration value.topology,
    optionalGeneration value.policy,
    optionalGeneration value.coordinatorEpoch ].flatten

def encode (writer : Writer) (value : GenerationBinding) : Writer :=
  writer
    |>.optionalGeneration value.requestGeneration
    |>.optionalGeneration value.modelGeneration
    |>.optionalGeneration value.stateGeneration
    |>.optionalGeneration value.routeDecision
    |>.optionalGeneration value.sloContract
    |>.optionalGeneration value.topology
    |>.optionalGeneration value.policy
    |>.optionalGeneration value.coordinatorEpoch

instance : Writable layout encode where
  appends writer value := by
    iterate 8 apply Appends.next
    exact Appends.refl _

end GenerationBinding

/- No field is bound to a generation that is unset. -/
structure GenerationBinding.Bound (binding : GenerationBinding) : Prop where
  requestGeneration : binding.requestGeneration ≠ some .unset
  modelGeneration : binding.modelGeneration ≠ some .unset
  stateGeneration : binding.stateGeneration ≠ some .unset
  routeDecision : binding.routeDecision ≠ some .unset
  sloContract : binding.sloContract ≠ some .unset
  topology : binding.topology ≠ some .unset
  policy : binding.policy ≠ some .unset
  coordinatorEpoch : binding.coordinatorEpoch ≠ some .unset

def decodeGenerationBinding : Decoder GenerationBinding := do
  let requestGeneration ← readOptionalGeneration
  let modelGeneration ← readOptionalGeneration
  let stateGeneration ← readOptionalGeneration
  let routeDecision ← readOptionalGeneration
  let sloContract ← readOptionalGeneration
  let topology ← readOptionalGeneration
  let policy ← readOptionalGeneration
  let coordinatorEpoch ← readOptionalGeneration
  let value : GenerationBinding :=
    { requestGeneration, modelGeneration, stateGeneration, routeDecision, sloContract, topology
      policy, coordinatorEpoch }
  checkOk "generation binding"
  pure value

theorem decodeGenerationBinding_decodes (value : GenerationBinding) (hBound : value.Bound) :
    decodeGenerationBinding.Decodes value.layout value := by
  apply (Decodes.readOptionalGeneration _ hBound.requestGeneration).field
  apply (Decodes.readOptionalGeneration _ hBound.modelGeneration).field
  apply (Decodes.readOptionalGeneration _ hBound.stateGeneration).field
  apply (Decodes.readOptionalGeneration _ hBound.routeDecision).field
  apply (Decodes.readOptionalGeneration _ hBound.sloContract).field
  apply (Decodes.readOptionalGeneration _ hBound.topology).field
  apply (Decodes.readOptionalGeneration _ hBound.policy).field
  apply (Decodes.readOptionalGeneration _ hBound.coordinatorEpoch).field
  apply (Decodes.checkOk _).check
  exact Decodes.pure value

def TrafficTreatment.layout (value : TrafficTreatment) : List UInt8 :=
  [ enumeration value.trafficClass,
    enumeration value.priority,
    enumeration value.pacing,
    enumeration value.integrity,
    enumeration value.isolation,
    u32 value.reservedWeight,
    u64 value.maxBurstBytes,
    u64 value.rateLimitBytesPerSec,
    id value.flow,
    instant value.holdUntil,
    u32 value.deferCount ].flatten

def TrafficTreatment.encode (writer : Writer) (value : TrafficTreatment) : Writer :=
  writer
    |>.enumeration value.trafficClass
    |>.enumeration value.priority
    |>.enumeration value.pacing
    |>.enumeration value.integrity
    |>.enumeration value.isolation
    |>.u32 value.reservedWeight
    |>.u64 value.maxBurstBytes
    |>.u64 value.rateLimitBytesPerSec
    |>.id value.flow
    |>.instant value.holdUntil
    |>.u32 value.deferCount

def decodeTrafficTreatment : Decoder TrafficTreatment := do
  let trafficClass ← Reader.enumeration
  let priority ← Reader.enumeration
  let pacing ← Reader.enumeration
  let integrity ← Reader.enumeration
  let isolation ← Reader.enumeration
  let reservedWeight ← Reader.u32
  let maxBurstBytes ← Reader.u64
  let rateLimitBytesPerSec ← Reader.u64
  let flow ← readId
  let holdUntil ← readInstant
  let deferCount ← Reader.u32
  let value : TrafficTreatment :=
    { trafficClass, priority, pacing, integrity, isolation, reservedWeight, maxBurstBytes
      rateLimitBytesPerSec, flow, holdUntil, deferCount }
  checkOk "traffic treatment"
  pure value

instance : Readable decodeTrafficTreatment
    TrafficTreatment.layout where
  decodes value := by
    iterate 11 apply Decodes.next
    apply (Decodes.checkOk _).check
    exact Decodes.pure value
  ensures := by
    iterate 11 refine Ensures.next (fun _ => ?_)
    refine (Ensures.checkOk _).skip (fun _ => ?_)
    exact Ensures.pure trivial

def AuthorityStamp.layout (value : AuthorityStamp) : List UInt8 :=
  [ generation value.epoch,
    id value.incarnation,
    generation value.policy,
    generation value.sequence ].flatten

def AuthorityStamp.encode (writer : Writer) (value : AuthorityStamp) : Writer :=
  writer
    |>.generation value.epoch
    |>.id value.incarnation
    |>.generation value.policy
    |>.generation value.sequence

def decodeAuthorityStamp : Decoder AuthorityStamp := do
  let epoch ← readGeneration
  let incarnation ← readId
  let policy ← readGeneration
  let sequence ← readGeneration
  let value : AuthorityStamp := { epoch, incarnation, policy, sequence }
  checkOk "authority stamp"
  refuseIf (!value.isValid) .malformedInput "authority stamp is incomplete"
  pure value

theorem decodeAuthorityStamp_decodes (value : AuthorityStamp) (hValid : value.isValid = true) :
    decodeAuthorityStamp.Decodes value.layout value := by
  iterate 4 apply Decodes.next
  exact Decodes.checked hValid _ _ _ value

def ExplanationStep.layout (value : ExplanationStep) : List UInt8 :=
  [ enumeration value.rule, i64 value.value, i64 value.secondary ].flatten

def ExplanationStep.encode (writer : Writer) (value : ExplanationStep) : Writer :=
  writer
    |>.enumeration value.rule
    |>.i64 value.value
    |>.i64 value.secondary

def decodeExplanationStep : Decoder ExplanationStep := do
  let rule ← Reader.enumeration
  let value ← Reader.i64
  let secondary ← Reader.i64
  checkOk "explanation step"
  pure ⟨rule, value, secondary⟩

instance : Readable decodeExplanationStep
    ExplanationStep.layout where
  decodes value := by
    iterate 3 apply Decodes.next
    apply (Decodes.checkOk _).check
    exact Decodes.pure value
  ensures := by
    iterate 3 refine Ensures.next (fun _ => ?_)
    refine (Ensures.checkOk _).skip (fun _ => ?_)
    exact Ensures.pure trivial

---
-- Decisions
---

namespace Decision

/- The number of steps that are written. -/
def explanationCount (value : Decision) : UInt32 :=
  UInt32.ofNat (min value.explanation.length maxExplanationSteps)

/- A subject is written after a flag that announces it. -/
def subjectLayout (hasSubject : Bool) (subject : TrafficSubject) : List UInt8 :=
  if hasSubject then subject.layout else []

/- The bytes of a decision with a given subject flag. -/
def layoutWith (hasSubject : Bool) (value : Decision) : List UInt8 :=
  [ enumeration value.outcome,
    enumeration value.reason,
    value.treatment.layout,
    boolean hasSubject,
    subjectLayout hasSubject value.subject,
    value.binding.layout,
    value.authority.layout,
    u64 value.deferHintNanos,
    u32 value.explanationCount,
    each ExplanationStep.layout (value.explanation.take maxExplanationSteps) ].flatten

def encodeSubject (writer : Writer) (subject : TrafficSubject) : Writer :=
  if subject.isValid then subject.encode writer else writer

def encode (writer : Writer) (value : Decision) : Writer :=
  let writer := writer.enumeration value.outcome
  let writer := writer.enumeration value.reason
  let writer := value.treatment.encode writer
  let writer := writer.boolean value.subject.isValid
  let writer := encodeSubject writer value.subject
  let writer := value.binding.encode writer
  let writer := value.authority.encode writer
  let writer := writer.u64 value.deferHintNanos
  let writer := writer.u32 value.explanationCount
  writer.each ExplanationStep.encode (value.explanation.take maxExplanationSteps)

/-
  What a decision has to satisfy to be read back with its
  subject or without it. The subject may be of no kind.
-/
structure Transmissible (hasSubject : Bool) (value : Decision) : Prop where
  named : hasSubject = true → value.subject.kind ≠ .unknown → value.subject.isValid = true
  unnamed : hasSubject = false → value.subject = {}
  bound : value.binding.Bound
  stamped : value.authority.isValid = true
  explained : value.explanation.length ≤ maxExplanationSteps

end Decision

def decodeDecisionSubject (hasSubject : Bool) : Decoder TrafficSubject :=
  if hasSubject then decodeTrafficSubject else pure {}

def decodeDecision : Decoder Decision := do
  let outcome ← Reader.enumeration
  let reason ← Reader.enumeration
  let treatment ← decodeTrafficTreatment
  let hasSubject ← Reader.boolean
  checkOk "decision subject"
  let subject ← decodeDecisionSubject hasSubject
  let binding ← decodeGenerationBinding
  let authority ← decodeAuthorityStamp
  let deferHintNanos ← Reader.u64
  let count ← Reader.count maxExplanationSteps
  checkOk "decision"
  refuseIf (maxExplanationSteps < count.toNat)
    .boundsExceeded "explanation count out of range"
  let explanation ← times decodeExplanationStep count.toNat
  pure { outcome, reason, treatment, subject, binding, authority, deferHintNanos, explanation }

theorem decodeDecisionSubject_decodes {hasSubject : Bool} {value : Decision}
    (hSent : value.Transmissible hasSubject) :
    (decodeDecisionSubject hasSubject).Decodes (Decision.subjectLayout hasSubject value.subject)
      value.subject := by
  cases hasSubject with
  | false =>
    rw [hSent.unnamed rfl]
    exact Decodes.pure _
  | true => exact decodeTrafficSubject_decodes value.subject (hSent.named rfl)

/- A decision is read back from its bytes. -/
theorem decodeDecision_decodes (hasSubject : Bool) (value : Decision)
    (hSent : value.Transmissible hasSubject) :
    decodeDecision.Decodes (value.layoutWith hasSubject) value := by
  have hCount : value.explanationCount.toNat = value.explanation.length := by
    have hSteps := hSent.explained
    unfold maxExplanationSteps at hSteps
    unfold Decision.explanationCount maxExplanationSteps
    rw [Nat.min_eq_left hSteps, UInt32.toNat_ofNat']
    apply Nat.mod_eq_of_lt
    omega
  have hBound : value.explanationCount.toNat ≤ maxExplanationSteps := by
    rw [hCount]
    exact hSent.explained
  have hRange := decide_eq_false (Nat.not_lt.mpr hBound)
  have hSteps :
      (times decodeExplanationStep
        value.explanationCount.toNat).Decodes
          (each ExplanationStep.layout (value.explanation.take maxExplanationSteps))
          value.explanation := by
    rw [hCount, List.take_of_length_le hSent.explained]
    exact Decodes.times value.explanation (fun step _ => Readable.decodes step)
  have hSubject := decodeDecisionSubject_decodes hSent
  iterate 4 apply Decodes.next
  apply (Decodes.checkOk _).check
  apply hSubject.field
  apply (decodeGenerationBinding_decodes _ hSent.bound).field
  apply (decodeAuthorityStamp_decodes _ hSent.stamped).field
  apply Decodes.next
  apply (Decodes.count _ _ hBound).field
  apply (Decodes.checkOk _).check
  apply (Decodes.refuseIf hRange _ _).check
  apply hSteps.field
  exact Decodes.pure value

structure OpenFlowMessage where
  decision : Decision := {}
  declaredBytes : UInt64 := 0
deriving DecidableEq

namespace OpenFlowMessage

def layoutWith (hasSubject : Bool) (message : OpenFlowMessage) : List UInt8 :=
  message.decision.layoutWith hasSubject ++ u64 message.declaredBytes

def decode : Decoder OpenFlowMessage := do
  let decision ← decodeDecision
  let declaredBytes ← Reader.u64
  checkOk "open flow"
  pure { decision, declaredBytes }

theorem decode_decodes (hasSubject : Bool) (message : OpenFlowMessage)
    (hSent : message.decision.Transmissible hasSubject) :
    decode.Decodes (message.layoutWith hasSubject) message := by
  apply (decodeDecision_decodes hasSubject _ hSent).bind
  apply (Decodes.u64 _).last
  apply (Decodes.checkOk _).check
  exact Decodes.pure message

end OpenFlowMessage

/- Decode the whole body of a message. -/
def decodeBody {α : Type} (decoder : Decoder α) (payload : List UInt8) : Result α :=
  match decoder (Reader.create payload maxFramePayloadBytes) with
  | (.error status, _) => .error status
  | (.ok value, reader) =>
    match reader.finish with
    | .error status => .error status
    | .ok () => .ok value

theorem decodeBody_layout {α : Type} {decoder : Decoder α} {payload : List UInt8} {value : α}
    (hDecodes : decoder.Decodes payload value) (hFits : payload.length ≤ maxFramePayloadBytes) :
    decodeBody decoder payload = .ok value := by
  have hHolds := Reader.holds_create payload maxFramePayloadBytes hFits
  rw [← List.append_nil payload] at hHolds
  rcases hDecodes _ [] hHolds with ⟨after, hDecoded, hRest⟩
  rw [List.append_nil] at hDecoded
  unfold decodeBody
  rw [hDecoded]
  simp only [Reader.finish_of_holds hRest]

end TrafficFabric
