import TrafficFabric.Codec.Reader
import TrafficFabric.Core.Evidence
import TrafficFabric.Ledger.Record

/-
  The encodings of the records a snapshot is made of:
  topology evidence, model and state generations, attempts
  and requests.

  For each record there are three definitions: the layout
  it stands for, the encoder, and the decoder with the
  checks it makes. An encoder appends the layout, and a
  decoder returns the record from it when the checks pass.

  Main declarations:
    * `RequestRecord.layout`
    * `RequestRecord.encode`
    * `decodeRequestRecord_decodes`
    * `decodeRequestRecord_ensures`
-/

namespace TrafficFabric

open Decoder Layout
open Writer (Appends Writable)

/- An identity that may be nil. -/
def readId {tag : IdTag} : Decoder (Id128 tag) := do
  let high ← Reader.u64
  let low ← Reader.u64
  pure ⟨high, low⟩

/- A generation that may be unset. -/
def readGeneration {tag : GenerationTag} : Decoder (Generation tag) := do
  let value ← Reader.u64
  pure ⟨value⟩

namespace Decoder

theorem Decodes.readId {tag : IdTag} (value : Id128 tag) : Decodes readId (Layout.id value) value :=
  (u64 value.high).bind ((u64 value.low).last (Decodes.pure value))

theorem Decodes.readGeneration {tag : GenerationTag} (value : Generation tag) :
    Decodes readGeneration (Layout.generation value) value :=
  (u64 value.value).last (Decodes.pure value)

theorem Ensures.readId {tag : IdTag} : Ensures (readId : Decoder (Id128 tag)) (fun _ => True) :=
  u64.skip (fun _ => u64.skip (fun _ => Ensures.pure trivial))

theorem Ensures.readGeneration {tag : GenerationTag} :
    Ensures (readGeneration : Decoder (Generation tag)) (fun _ => True) :=
  u64.skip (fun _ => Ensures.pure trivial)

instance {tag : IdTag} : Readable (readId : Decoder (Id128 tag)) id := ⟨.readId, .readId⟩

instance {tag : GenerationTag} : Readable (readGeneration : Decoder (Generation tag)) generation :=
  ⟨.readGeneration, .readGeneration⟩

end Decoder

namespace ModelState

def layout (value : ModelState) : List UInt8 :=
  [ u64 value.modelHash,
    Layout.generation value.generation,
    boolean value.requiresRevalidation ].flatten

theorem length_layout (value : ModelState) : value.layout.length = 17 := by simp [layout]

def encode (writer : Writer) (value : ModelState) : Writer :=
  writer
    |>.u64 value.modelHash
    |>.generation value.generation
    |>.boolean value.requiresRevalidation

instance : Writable layout encode where
  appends writer value := by
    iterate 3 apply Appends.next
    exact Appends.refl _

end ModelState

def decodeModelState : Decoder ModelState := do
  let modelHash ← Reader.u64
  let generation ← readGeneration
  let requiresRevalidation ← Reader.boolean
  let value : ModelState := { modelHash, generation, requiresRevalidation }
  checkOk "model state"
  refuseIf (!value.isValid) .malformedInput "model state is invalid"
  pure value

theorem decodeModelState_decodes (value : ModelState) (hValid : value.isValid = true) :
    decodeModelState.Decodes value.layout value := by
  iterate 3 apply Decodes.next
  exact Decodes.checked hValid _ _ _ value

theorem decodeModelState_ensures :
    decodeModelState.Ensures (fun value => value.isValid = true) := by
  iterate 3 refine Ensures.next (fun _ => ?_)
  refine (Ensures.checkOk _).skip (fun _ => ?_)
  refine (Ensures.refuseIf _ _ _).bind (fun _ => ?_)
  apply Ensures.pure
  intro hPasses
  simpa using hPasses

namespace StateGenerationRecord

def layout (value : StateGenerationRecord) : List UInt8 :=
  [ u64 value.stateHash,
    Layout.generation value.generation,
    boolean value.requiresRevalidation ].flatten

theorem length_layout (value : StateGenerationRecord) : value.layout.length = 17 := by simp [layout]

def encode (writer : Writer) (value : StateGenerationRecord) : Writer :=
  writer
    |>.u64 value.stateHash
    |>.generation value.generation
    |>.boolean value.requiresRevalidation

instance : Writable layout encode where
  appends writer value := by
    iterate 3 apply Appends.next
    exact Appends.refl _

end StateGenerationRecord

def decodeStateGenerationRecord : Decoder StateGenerationRecord := do
  let stateHash ← Reader.u64
  let generation ← readGeneration
  let requiresRevalidation ← Reader.boolean
  let value : StateGenerationRecord := { stateHash, generation, requiresRevalidation }
  checkOk "state record"
  refuseIf (!value.isValid) .malformedInput "state generation record is invalid"
  pure value

theorem decodeStateGenerationRecord_decodes (value : StateGenerationRecord)
    (hValid : value.isValid = true) : decodeStateGenerationRecord.Decodes value.layout value := by
  iterate 3 apply Decodes.next
  exact Decodes.checked hValid _ _ _ value

theorem decodeStateGenerationRecord_ensures :
    decodeStateGenerationRecord.Ensures (fun value => value.isValid = true) := by
  iterate 3 refine Ensures.next (fun _ => ?_)
  refine (Ensures.checkOk _).skip (fun _ => ?_)
  refine (Ensures.refuseIf _ _ _).bind (fun _ => ?_)
  apply Ensures.pure
  intro hPasses
  simpa using hPasses

namespace TopologyEvidence

def layout (value : TopologyEvidence) : List UInt8 :=
  [ Layout.generation value.generation,
    enumeration value.provenance,
    Layout.id value.observedBoot,
    i64 value.observedAtNanos,
    u64 value.maxAgeNanos,
    u32 value.nodeCount,
    u32 value.acceleratorCount,
    u32 value.linkCount,
    u64 value.fabricBytesPerSec,
    u32 value.queueDepth,
    boolean value.congestionSignalled,
    boolean value.disaggregated ].flatten

theorem length_layout (value : TopologyEvidence) : value.layout.length = 68 := by simp [layout]

def encode (writer : Writer) (value : TopologyEvidence) : Writer :=
  writer
    |>.generation value.generation
    |>.enumeration value.provenance
    |>.id value.observedBoot
    |>.i64 value.observedAtNanos
    |>.u64 value.maxAgeNanos
    |>.u32 value.nodeCount
    |>.u32 value.acceleratorCount
    |>.u32 value.linkCount
    |>.u64 value.fabricBytesPerSec
    |>.u32 value.queueDepth
    |>.boolean value.congestionSignalled
    |>.boolean value.disaggregated

instance : Writable layout encode where
  appends writer value := by
    iterate 12 apply Appends.next
    exact Appends.refl _

end TopologyEvidence

/- An absent topology is a placeholder and not validated. -/
def decodeTopologyEvidence (validate : Bool) : Decoder TopologyEvidence := do
  let generation ← readGeneration
  let provenance ← Reader.enumeration
  let observedBoot ← readId
  let observedAtNanos ← Reader.i64
  let maxAgeNanos ← Reader.u64
  let nodeCount ← Reader.u32
  let acceleratorCount ← Reader.u32
  let linkCount ← Reader.u32
  let fabricBytesPerSec ← Reader.u64
  let queueDepth ← Reader.u32
  let congestionSignalled ← Reader.boolean
  let disaggregated ← Reader.boolean
  let value : TopologyEvidence :=
    { generation, provenance, observedBoot, observedAtNanos, maxAgeNanos, nodeCount
      acceleratorCount, linkCount, fabricBytesPerSec, queueDepth, congestionSignalled
      disaggregated }
  checkOk "topology evidence"
  refuseIf (validate && !value.isValid) .malformedInput "topology evidence is invalid"
  pure value

theorem decodeTopologyEvidence_decodes (validate : Bool) (value : TopologyEvidence)
    (hValid : validate = true → value.isValid = true) :
    (decodeTopologyEvidence validate).Decodes value.layout value := by
  have hPasses : (validate && !value.isValid) = false := by
    cases validate with
    | false => rfl
    | true =>
      rw [hValid rfl]
      rfl
  iterate 12 apply Decodes.next
  apply (Decodes.checkOk _).check
  apply (Decodes.refuseIf hPasses _ _).check
  exact Decodes.pure value

theorem decodeTopologyEvidence_ensures (validate : Bool) :
    (decodeTopologyEvidence validate).Ensures
      (fun value => validate = true → value.isValid = true) := by
  iterate 12 refine Ensures.next (fun _ => ?_)
  refine (Ensures.checkOk _).skip (fun _ => ?_)
  refine (Ensures.refuseIf _ _ _).bind (fun _ => ?_)
  apply Ensures.pure
  rintro hPasses rfl
  simpa using hPasses

namespace AttemptRecord

def layout (value : AttemptRecord) : List UInt8 :=
  [ Layout.id value.id,
    Layout.generation value.generation,
    enumeration value.stage,
    enumeration value.lifecycle,
    u64 value.modelHash,
    Layout.generation value.modelGeneration,
    Layout.generation value.routeGeneration,
    boolean value.successPublished,
    boolean value.failurePublished,
    enumeration value.terminalReason,
    u64 value.bytesIn,
    u64 value.bytesOut,
    u32 value.decisions,
    u32 value.defers,
    u32 value.rejections,
    i64 value.registeredAtNanos,
    i64 value.updatedAtNanos ].flatten

theorem length_layout (value : AttemptRecord) : value.layout.length = 100 := by simp [layout]

def encode (writer : Writer) (value : AttemptRecord) : Writer :=
  writer
    |>.id value.id
    |>.generation value.generation
    |>.enumeration value.stage
    |>.enumeration value.lifecycle
    |>.u64 value.modelHash
    |>.generation value.modelGeneration
    |>.generation value.routeGeneration
    |>.boolean value.successPublished
    |>.boolean value.failurePublished
    |>.enumeration value.terminalReason
    |>.u64 value.bytesIn
    |>.u64 value.bytesOut
    |>.u32 value.decisions
    |>.u32 value.defers
    |>.u32 value.rejections
    |>.i64 value.registeredAtNanos
    |>.i64 value.updatedAtNanos

instance : Writable layout encode where
  appends writer value := by
    iterate 17 apply Appends.next
    exact Appends.refl _

end AttemptRecord

def decodeAttemptRecord : Decoder AttemptRecord := do
  let id ← readId
  let generation ← readGeneration
  let stage ← Reader.enumeration
  let lifecycle ← Reader.enumeration
  let modelHash ← Reader.u64
  let modelGeneration ← readGeneration
  let routeGeneration ← readGeneration
  let successPublished ← Reader.boolean
  let failurePublished ← Reader.boolean
  let terminalReason ← Reader.enumeration
  let bytesIn ← Reader.u64
  let bytesOut ← Reader.u64
  let decisions ← Reader.u32
  let defers ← Reader.u32
  let rejections ← Reader.u32
  let registeredAtNanos ← Reader.i64
  let updatedAtNanos ← Reader.i64
  let value : AttemptRecord :=
    { id, generation, stage, lifecycle, modelHash, modelGeneration, routeGeneration
      successPublished, failurePublished, terminalReason, bytesIn, bytesOut, decisions, defers
      rejections, registeredAtNanos, updatedAtNanos }
  checkOk "attempt record"
  pure value

instance : Readable decodeAttemptRecord
    AttemptRecord.layout where
  decodes value := by
    iterate 17 apply Decodes.next
    apply (Decodes.checkOk _).check
    exact Decodes.pure value
  ensures := by
    iterate 17 refine Ensures.next (fun _ => ?_)
    refine (Ensures.checkOk _).skip (fun _ => ?_)
    exact Ensures.pure trivial

---
-- Requests
---

namespace RequestRecord

/- The number of attempts that are written. -/
def attemptCount (value : RequestRecord) : UInt32 :=
  UInt32.ofNat (min value.attempts.length maxAttemptsPerRequest)

def layout (value : RequestRecord) : List UInt8 :=
  [ Layout.id value.id,
    Layout.generation value.generation,
    enumeration value.lifecycle,
    enumeration value.stage,
    Layout.id value.currentAttempt,
    Layout.generation value.currentAttemptGeneration,
    u32 value.attemptCount,
    each AttemptRecord.layout (value.attempts.take maxAttemptsPerRequest),
    enumeration value.terminalReason,
    i64 value.registeredAtNanos,
    i64 value.terminalAtNanos,
    boolean value.requiresRevalidation,
    boolean value.accountingClosed,
    u64 value.bytesIn,
    u64 value.bytesOut,
    u32 value.decisions,
    u32 value.defers,
    u32 value.rejections,
    u32 value.activeFlows,
    Layout.generation value.authorityFloor ].flatten

theorem length_layout_le (value : RequestRecord) :
    value.layout.length ≤ 116 + 100 * maxAttemptsPerRequest := by
  have hAttempts := length_each_le (value.attempts.take maxAttemptsPerRequest)
    (fun attempt _ => (AttemptRecord.length_layout attempt).le)
  have hTaken : (value.attempts.take maxAttemptsPerRequest).length ≤ maxAttemptsPerRequest :=
    List.length_take_le _ _
  simp only [layout, List.length_flatten, List.map_cons, List.map_nil, List.sum_cons, List.sum_nil,
    length_id, length_generation, length_enumeration, length_u32,
    length_u64, length_i64, length_boolean]
  omega

def encode (writer : Writer) (value : RequestRecord) : Writer :=
  writer
    |>.id value.id
    |>.generation value.generation
    |>.enumeration value.lifecycle
    |>.enumeration value.stage
    |>.id value.currentAttempt
    |>.generation value.currentAttemptGeneration
    |>.u32 value.attemptCount
    |>.each AttemptRecord.encode (value.attempts.take maxAttemptsPerRequest)
    |>.enumeration value.terminalReason
    |>.i64 value.registeredAtNanos
    |>.i64 value.terminalAtNanos
    |>.boolean value.requiresRevalidation
    |>.boolean value.accountingClosed
    |>.u64 value.bytesIn
    |>.u64 value.bytesOut
    |>.u32 value.decisions
    |>.u32 value.defers
    |>.u32 value.rejections
    |>.u32 value.activeFlows
    |>.generation value.authorityFloor

instance : Writable layout encode where
  appends writer value := by
    iterate 20 apply Appends.next
    exact Appends.refl _

/- What a record has to satisfy to be read back. -/
structure Storable (record : RequestRecord) : Prop where
  named : record.id ≠ .nil
  bounded : record.attempts.length ≤ maxAttemptsPerRequest
  current : record.attempts ≠ [] → record.currentAttempt ≠ .nil
  attempted : record.lifecycle ≠ .unknown → record.lifecycle ≠ .registered → record.attempts ≠ []

end RequestRecord

def decodeRequestRecord : Decoder RequestRecord := do
  let id ← readId
  let generation ← readGeneration
  let lifecycle ← Reader.enumeration
  let stage ← Reader.enumeration
  let currentAttempt ← readId
  let currentAttemptGeneration ← readGeneration
  let attemptCount ← Reader.count maxAttemptsPerRequest
  checkOk "request record"
  let attempts ← times decodeAttemptRecord attemptCount.toNat
  let terminalReason ← Reader.enumeration
  let registeredAtNanos ← Reader.i64
  let terminalAtNanos ← Reader.i64
  let requiresRevalidation ← Reader.boolean
  let accountingClosed ← Reader.boolean
  let bytesIn ← Reader.u64
  let bytesOut ← Reader.u64
  let decisions ← Reader.u32
  let defers ← Reader.u32
  let rejections ← Reader.u32
  let activeFlows ← Reader.u32
  let authorityFloor ← readGeneration
  let value : RequestRecord :=
    { id, generation, lifecycle, stage, currentAttempt, currentAttemptGeneration, attempts
      terminalReason, registeredAtNanos, terminalAtNanos, requiresRevalidation, accountingClosed
      bytesIn, bytesOut, decisions, defers, rejections, activeFlows, authorityFloor }
  checkOk "request record"
  refuseIf value.id.isNil .malformedInput "request record has nil id"
  refuseIf (attemptCount > 0 && value.currentAttempt.isNil) .malformedInput
    "request record is missing its current attempt"
  refuseIf
    (value.lifecycle != .unknown && attemptCount == 0 && value.lifecycle != .registered)
    .malformedInput "request record has no attempts"
  pure value

namespace RequestRecord

variable {record : RequestRecord}

theorem Storable.toNat_attemptCount (hStorable : record.Storable) :
    record.attemptCount.toNat = record.attempts.length := by
  have hBounded := hStorable.bounded
  unfold maxAttemptsPerRequest at hBounded
  unfold attemptCount maxAttemptsPerRequest
  rw [Nat.min_eq_left hBounded, UInt32.toNat_ofNat']
  apply Nat.mod_eq_of_lt
  omega

theorem Storable.attemptCount_eq_zero_iff (hStorable : record.Storable) :
    record.attemptCount = 0 ↔ record.attempts = [] := by
  rw [← UInt32.toNat_inj, hStorable.toNat_attemptCount]
  exact List.length_eq_zero_iff

/- The checks of the decoder, one by one. -/
theorem Storable.checks (hStorable : record.Storable) :
    record.id.isNil = false ∧
      (decide (record.attemptCount > 0) && record.currentAttempt.isNil) = false ∧
      (record.lifecycle != .unknown && record.attemptCount == 0 &&
        record.lifecycle != .registered) = false := by
  have hCount := hStorable.attemptCount_eq_zero_iff
  refine ⟨?_, ?_, ?_⟩
  · rw [Id128.isNil_eq_false_iff]
    exact hStorable.named
  · by_cases hNone : record.attempts = []
    · have hZero := hCount.mpr hNone
      rw [hZero]
      rfl
    · have hCurrent := hStorable.current hNone
      rw [(Id128.isNil_eq_false_iff _).mpr hCurrent]
      exact Bool.and_false _
  · by_cases hNone : record.attempts = []
    · have hLifecycle : record.lifecycle = .unknown ∨ record.lifecycle = .registered := by
        by_contra hOther
        rw [not_or] at hOther
        exact hStorable.attempted hOther.1 hOther.2 hNone
      rcases hLifecycle with hUnknown | hRegistered
      · rw [hUnknown]
        rfl
      · rw [hRegistered]
        exact Bool.and_false _
    · have hSome : (record.attemptCount == 0) = false := by
        rw [beq_eq_false_iff_ne]
        exact fun hZero => hNone (hCount.mp hZero)
      rw [hSome, Bool.and_false]
      rfl

end RequestRecord

theorem decodeRequestRecord_decodes (value : RequestRecord) (hStorable : value.Storable) :
    decodeRequestRecord.Decodes value.layout value := by
  rcases hStorable.checks with ⟨hNamed, hCurrent, hAttempted⟩
  have hCount := hStorable.toNat_attemptCount
  have hBound : value.attemptCount.toNat ≤ maxAttemptsPerRequest := by
    rw [hCount]
    exact hStorable.bounded
  have hWritten := List.take_of_length_le hStorable.bounded
  have hAttempts :
      (times decodeAttemptRecord
        value.attemptCount.toNat).Decodes
          (Layout.each AttemptRecord.layout (value.attempts.take maxAttemptsPerRequest))
          value.attempts := by
    rw [hCount, hWritten]
    exact Decodes.times value.attempts (fun entry _ => Readable.decodes entry)
  iterate 6 apply Decodes.next
  apply (Decodes.count _ _ hBound).field
  apply (Decodes.checkOk _).check
  apply hAttempts.field
  iterate 12 apply Decodes.next
  apply (Decodes.checkOk _).check
  apply (Decodes.refuseIf hNamed _ _).check
  apply (Decodes.refuseIf hCurrent _ _).check
  apply (Decodes.refuseIf hAttempted _ _).check
  exact Decodes.pure value

/- Every record that is read is storable. -/
theorem decodeRequestRecord_ensures : decodeRequestRecord.Ensures RequestRecord.Storable := by
  iterate 6 refine Ensures.next (fun _ => ?_)
  refine (Ensures.count _).bind (fun count => ?_)
  refine (Ensures.checkOk _).skip (fun _ => ?_)
  refine (Readable.ensures.times _).bind (fun attempts => ?_)
  iterate 12 refine Ensures.next (fun _ => ?_)
  refine (Ensures.checkOk _).skip (fun _ => ?_)
  iterate 3 refine (Ensures.refuseIf _ _ _).bind (fun _ => ?_)
  apply Ensures.pure
  rintro hAttempted hCurrent hNamed ⟨hLength, -⟩ hCount
  have hZero : count = 0 ↔ attempts = [] := by
    rw [← UInt32.toNat_inj, ← hLength]
    exact List.length_eq_zero_iff
  constructor
  · exact (Id128.isNil_eq_false_iff _).mp hNamed
  · exact hLength.le.trans hCount
  · intro hSome
    have hPositive : count > 0 := by
      rw [gt_iff_lt, UInt32.pos_iff_ne_zero]
      exact fun hNone => hSome (hZero.mp hNone)
    rw [decide_eq_true hPositive, Bool.true_and] at hCurrent
    exact (Id128.isNil_eq_false_iff _).mp hCurrent
  · intro hKnown hBegun hNone
    have hNoCount := hZero.mpr hNone
    simp [hNoCount, hKnown, hBegun] at hAttempted

end TrafficFabric
