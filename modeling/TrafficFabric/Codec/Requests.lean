import TrafficFabric.Codec.Messages

/-
  The encoding of the traffic requests that sessions ask to
  evaluate or to authorize. A request is read back exactly
  when it is well formed, and then as it was written.
-/

namespace TrafficFabric

open Layout Decoder
open Writer (Appends Writable)

theorem readOptionalGeneration_ensures {tag : GenerationTag} :
    (readOptionalGeneration : Decoder (Option (Generation tag))).Ensures (· ≠ some .unset) := by
  refine Ensures.next (fun present => ?_)
  cases present with
  | false => exact .pure (by simp)
  | true =>
    refine Ensures.next (fun value => ?_)
    intro reader found after hDecoder hGood
    rcases Ensures.accept _ (by decide) _ _ _ reader found after hDecoder hGood with
      ⟨hReader, hRange, rfl⟩
    refine ⟨hReader, ?_⟩
    rintro ⟨⟩
    cases hRange

theorem decodeGenerationBinding_ensures :
    decodeGenerationBinding.Ensures GenerationBinding.Bound := by
  iterate 8 refine readOptionalGeneration_ensures.bind (fun _ => ?_)
  refine (Ensures.checkOk _).skip (fun _ => Ensures.pure ?_)
  intro hEpoch hPolicy hTopology hSlo hRoute hState hModel hRequest
  exact ⟨hRequest, hModel, hState, hRoute, hSlo, hTopology, hPolicy, hEpoch⟩

theorem decodeTrafficSubject_ensures : decodeTrafficSubject.Ensures (fun _ => True) := by
  iterate 5 refine Ensures.next (fun _ => ?_)
  refine (Ensures.checkOk _).skip (fun _ => ?_)
  refine (Ensures.refuseIf _ _ _).skip (fun _ => ?_)
  refine (Ensures.refuseIf _ _ _).skip (fun _ => ?_)
  exact Ensures.pure trivial

namespace TrafficRequest

def subjectLayout : Option TrafficSubject → List UInt8
| none => []
| some subject => subject.layout

def layout (value : TrafficRequest) : List UInt8 :=
  [ boolean value.subject.isSome,
    subjectLayout value.subject,
    enumeration value.declaredClass,
    enumeration value.declaredStage,
    enumeration value.direction,
    enumeration value.priorityHint,
    u64 value.payloadBytes,
    u64 value.observedBytes,
    u32 value.tokenCount,
    u32 value.chunkIndex,
    u32 value.totalChunks,
    u64 value.tenantHash,
    u64 value.modelHash,
    u64 value.adapterHash,
    instant value.deadline,
    u64 value.deadlineAfterNanos,
    value.binding.layout ].flatten

def encodeSubject (writer : Writer) : Option TrafficSubject → Writer
| none => writer
| some subject => subject.encode writer

def encode (writer : Writer) (value : TrafficRequest) : Writer :=
  let writer := writer.boolean value.subject.isSome
  let writer := encodeSubject writer value.subject
  let writer := writer
    |>.enumeration value.declaredClass
    |>.enumeration value.declaredStage
    |>.enumeration value.direction
    |>.enumeration value.priorityHint
    |>.u64 value.payloadBytes
    |>.u64 value.observedBytes
    |>.u32 value.tokenCount
    |>.u32 value.chunkIndex
    |>.u32 value.totalChunks
    |>.u64 value.tenantHash
    |>.u64 value.modelHash
    |>.u64 value.adapterHash
    |>.instant value.deadline
    |>.u64 value.deadlineAfterNanos
  value.binding.encode writer

instance : Writable subjectLayout encodeSubject where
  appends writer value := by
    cases value with
    | none => exact Appends.refl _
    | some subject =>
      exact (Writable.appends writer subject : Appends _ subject.layout _)

instance : Writable layout encode where
  appends writer value := by
    iterate 17 apply Appends.next
    exact Appends.refl _

end TrafficRequest

def decodeOptionalSubject (hasSubject : Bool) : Decoder (Option TrafficSubject) :=
  if hasSubject then do
    let subject ← decodeTrafficSubject
    pure (some subject)
  else pure none

def decodeTrafficRequest : Decoder TrafficRequest := do
  let hasSubject ← Reader.boolean
  checkOk "traffic request"
  let subject ← decodeOptionalSubject hasSubject
  let declaredClass ← Reader.enumeration
  let declaredStage ← Reader.enumeration
  let direction ← Reader.enumeration
  let priorityHint ← Reader.enumeration
  let payloadBytes ← Reader.u64
  let observedBytes ← Reader.u64
  let tokenCount ← Reader.u32
  let chunkIndex ← Reader.u32
  let totalChunks ← Reader.u32
  let tenantHash ← Reader.u64
  let modelHash ← Reader.u64
  let adapterHash ← Reader.u64
  let deadline ← readInstant
  let deadlineAfterNanos ← Reader.u64
  let binding ← decodeGenerationBinding
  checkOk "traffic request"
  let value : TrafficRequest :=
    ⟨subject, declaredClass, declaredStage, direction, priorityHint, payloadBytes, observedBytes,
      tokenCount, chunkIndex, totalChunks, tenantHash, modelHash, adapterHash, deadline,
      deadlineAfterNanos, binding⟩
  refuseIf (!value.structurallyValid) .malformedInput
    "traffic request is internally inconsistent"
  pure value

theorem decodeOptionalSubject_decodes {value : TrafficRequest}
    (hValid : value.structurallyValid = true) :
    (decodeOptionalSubject value.subject.isSome).Decodes
      (TrafficRequest.subjectLayout value.subject) value.subject := by
  cases hSubject : value.subject with
  | none => exact Decodes.pure none
  | some subject =>
    have hKnown : subject.isValid = true := by
      by_contra hUnknown
      simp [TrafficRequest.structurallyValid, hSubject, hUnknown] at hValid
    exact (decodeTrafficSubject_decodes subject (fun _ => hKnown)).last (Decodes.pure _)

theorem decodeOptionalSubject_ensures (hasSubject : Bool) :
    (decodeOptionalSubject hasSubject).Ensures (fun _ => True) := by
  cases hasSubject with
  | false => exact Ensures.pure trivial
  | true => exact decodeTrafficSubject_ensures.skip (fun _ => Ensures.pure trivial)

theorem decodeTrafficRequest_ensures :
    decodeTrafficRequest.Ensures (fun value =>
      value.structurallyValid = true ∧ value.binding.Bound) := by
  refine Ensures.next (fun hasSubject => ?_)
  refine (Ensures.checkOk _).skip (fun _ => ?_)
  refine (decodeOptionalSubject_ensures hasSubject).skip (fun _ => ?_)
  iterate 14 refine Ensures.next (fun _ => ?_)
  refine decodeGenerationBinding_ensures.bind (fun _ => ?_)
  refine (Ensures.checkOk _).skip (fun _ => ?_)
  refine (Ensures.refuseIf _ _ _).bind (fun _ => Ensures.pure ?_)
  exact fun hPasses hBound => ⟨by simpa using hPasses, hBound⟩

/-
  A request is written as its bytes, and these are read back
  as the request, whatever follows them, exactly when it is
  structurally valid and binds no generation that is unset.
  Whatever is accepted is so.
-/
theorem traffic_request_read_back (value : TrafficRequest) (writer : Writer) :
    writer.Appends value.layout (value.encode writer) ∧
      (decodeTrafficRequest.Decodes value.layout value ↔
        value.structurallyValid = true ∧ value.binding.Bound) ∧
      decodeTrafficRequest.Ensures (fun accepted =>
        accepted.structurallyValid = true ∧ accepted.binding.Bound) := by
  refine ⟨Writable.appends writer value, ⟨?_, ?_⟩, decodeTrafficRequest_ensures⟩
  · intro hDecodes
    have hHolds := Reader.holds_create (value.layout ++ []) _ (Nat.le_refl _)
    rcases hDecodes _ [] hHolds with ⟨after, hDecoded, hRest⟩
    exact decodeTrafficRequest_ensures.result hDecoded hRest.good
  · rintro ⟨hValid, hBound⟩
    apply Decodes.next
    apply (Decodes.checkOk _).check
    apply (decodeOptionalSubject_decodes hValid).field
    iterate 14 apply Decodes.next
    apply (decodeGenerationBinding_decodes _ hBound).field
    exact Decodes.checked hValid _ _ _ value

end TrafficFabric
