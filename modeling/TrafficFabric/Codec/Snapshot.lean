import TrafficFabric.Codec.Policy
import TrafficFabric.Codec.Records
import TrafficFabric.Coordinator.State

/-
  The encoding of the durable document, and the payload a
  snapshot store saves and loads.
-/

namespace TrafficFabric

open PersistedCoordinatorState Layout Decoder PolicyConfig
open Writer (Appends Writable)

/- A number of entries and then the entries. -/
def encodeCounted {α : Type} (encode : Writer → α → Writer) (writer : Writer) (values : List α) :
    Writer :=
  (writer.u32 (UInt32.ofNat values.length)).each encode values

def decodeCounted {α : Type} (entry : Decoder α) (message : String) : Decoder (List α) := do
  let count ← Reader.count maxCollectionEntries
  checkOk message
  times entry count.toNat

instance {α : Type} {layout : α → List UInt8} {encode : Writer → α → Writer}
    [Writable layout encode] :
    Writable (counted layout) (encodeCounted encode) where
  appends writer values := by
    apply (Writable.appends writer _).trans
    exact Writable.appends _ values

theorem decodeCounted_decodes {α : Type} {entry : Decoder α} {layout : α → List UInt8}
    (values : List α) (hBound : values.length ≤ maxCollectionEntries)
    (hEntry : ∀ value ∈ values, entry.Decodes (layout value) value) (message : String) :
    (decodeCounted entry message).Decodes (counted layout values) values := by
  have hCount : (UInt32.ofNat values.length).toNat = values.length := by
    unfold maxCollectionEntries at hBound
    apply Nat.mod_eq_of_lt
    omega
  have hWithin : (UInt32.ofNat values.length).toNat ≤ maxCollectionEntries := by
    rw [hCount]
    exact hBound
  have hTimes := Decodes.times values hEntry
  rw [← hCount] at hTimes
  apply (Decodes.count _ _ hWithin).bind
  apply (Decodes.checkOk _).check
  exact hTimes

theorem decodeCounted_ensures {α : Type} {entry : Decoder α} {P : α → Prop}
    (hEntry : entry.Ensures P) (message : String) :
    (decodeCounted entry message).Ensures
      (fun values => values.length ≤ maxCollectionEntries ∧ ∀ value ∈ values, P value) := by
  refine (Ensures.count _).bind (fun count => ?_)
  refine (Ensures.checkOk _).skip (fun _ => ?_)
  intro reader values after hTimes hGood
  rcases hEntry.times count.toNat reader values after hTimes hGood with ⟨hReader, hLength, hEach⟩
  refine ⟨hReader, ?_⟩
  intro hCount
  exact ⟨hLength.le.trans hCount, hEach⟩

---
-- The Document
---

def decodeTerminalRecord : Decoder RequestRecord := do
  let record ← decodeRequestRecord
  refuseIf (!record.lifecycle.isTerminal) .malformedInput
    "terminal history contains a non-terminal record"
  refuseIf (record.activeFlows != 0) .malformedInput "terminal record retains active flows"
  pure record

theorem decodeTerminalRecord_decodes (record : RequestRecord) (hStorable : record.Storable)
    (hTerminal : record.lifecycle.isTerminal = true) (hDrained : record.activeFlows = 0) :
    decodeTerminalRecord.Decodes record.layout record := by
  have hLifecycle : (!record.lifecycle.isTerminal) = false := by
    rw [hTerminal]
    rfl
  have hFlows : (record.activeFlows != 0) = false := by
    rw [hDrained]
    rfl
  apply (decodeRequestRecord_decodes record hStorable).last
  apply (Decodes.refuseIf hLifecycle _ _).check
  apply (Decodes.refuseIf hFlows _ _).check
  exact Decodes.pure record

theorem decodeTerminalRecord_ensures :
    decodeTerminalRecord.Ensures (fun record =>
        record.Storable ∧ record.lifecycle.isTerminal = true ∧ record.activeFlows = 0) := by
  refine decodeRequestRecord_ensures.bind (fun record => ?_)
  refine (Ensures.refuseIf _ _ _).bind (fun _ => ?_)
  refine (Ensures.refuseIf _ _ _).bind (fun _ => ?_)
  apply Ensures.pure
  intro hDrained hTerminal hStorable
  exact ⟨hStorable, by simpa using hTerminal, by simpa using hDrained⟩

namespace PersistedCoordinatorState

variable (state : PersistedCoordinatorState)

def layout (state : PersistedCoordinatorState) : List UInt8 :=
  [ u16 state.formatVersion,
    generation state.epoch,
    id state.previousIncarnation,
    u64 state.bootCount,
    state.policy.layout,
    boolean state.topologyPresent,
    state.topology.layout,
    counted ModelState.layout state.models,
    counted StateGenerationRecord.layout state.states,
    counted RequestRecord.layout state.terminalRequests,
    counted RequestRecord.layout state.interruptedRequests ].flatten

/- The room a document takes grows with its collections. -/
theorem length_layout_le :
    state.layout.length ≤
      2048 + 17 * state.models.length + 17 * state.states.length +
        916 * state.terminalRequests.length + 916 * state.interruptedRequests.length := by
  have hPolicy := state.policy.length_layout_le
  have hClasses : (Enumeration.listed : List TrafficClass).length ≤ 24 := by decide
  have hModels := length_counted_le state.models (fun entry _ => entry.length_layout.le)
  have hStates := length_counted_le state.states (fun entry _ => entry.length_layout.le)
  have hTerminal := length_counted_le state.terminalRequests
    (fun record _ => record.length_layout_le)
  have hInterrupted := length_counted_le state.interruptedRequests
    (fun record _ => record.length_layout_le)
  unfold maxAttemptsPerRequest at hTerminal hInterrupted
  simp only [layout, List.length_flatten, List.map_cons, List.map_nil, List.sum_cons, List.sum_nil,
    length_u16, length_generation, length_id, length_u64,
    length_boolean, TopologyEvidence.length_layout]
  omega

def encodeInto (state : PersistedCoordinatorState) (writer : Writer) : Writer :=
  let writer := writer.u16 state.formatVersion
  let writer := writer.generation state.epoch
  let writer := writer.id state.previousIncarnation
  let writer := writer.u64 state.bootCount
  let writer := state.policy.encode writer
  let writer := writer.boolean state.topologyPresent
  let writer := state.topology.encode writer
  let writer := encodeCounted ModelState.encode writer state.models
  let writer := encodeCounted StateGenerationRecord.encode writer state.states
  let writer := encodeCounted RequestRecord.encode writer state.terminalRequests
  encodeCounted RequestRecord.encode writer state.interruptedRequests

def decodeFrom : Decoder PersistedCoordinatorState := do
  let formatVersion ← Reader.u16
  checkOk "snapshot header"
  refuseIf (formatVersion != snapshotFormatVersion) .unsupportedVersion
    ("snapshot format version " ++ toString formatVersion.toNat ++
      " is not supported by this build")
  let epoch ← Reader.generation
  let previousIncarnation ← Reader.id
  let bootCount ← Reader.u64
  let policy ← decode
  let topologyPresent ← Reader.boolean
  let topology ← decodeTopologyEvidence topologyPresent
  let models ← decodeCounted decodeModelState "models"
  let states ← decodeCounted decodeStateGenerationRecord "states"
  let terminalRequests ← decodeCounted decodeTerminalRecord "terminal records"
  let interruptedRequests ← decodeCounted decodeRequestRecord "interrupted records"
  checkOk "interrupted records"
  pure
    { formatVersion, epoch, previousIncarnation, bootCount, policy, topologyPresent, topology
      models, states, terminalRequests, interruptedRequests }

theorem encodeInto_appends (writer : Writer) :
    writer.Appends state.layout (state.encodeInto writer) := by
  iterate 11 apply Appends.next
  exact Appends.refl _

/- What a document has to satisfy to be read back. -/
structure Storable (state : PersistedCoordinatorState) : Prop where
  version : state.formatVersion = snapshotFormatVersion
  epoch : state.epoch ≠ .unset
  incarnation : state.previousIncarnation ≠ .nil
  policy : state.policy.Storable
  topology : state.topologyPresent = true → state.topology.isValid = true
  modelCount : state.models.length ≤ maxCollectionEntries
  models : ∀ entry ∈ state.models, entry.isValid = true
  stateCount : state.states.length ≤ maxCollectionEntries
  states : ∀ entry ∈ state.states, entry.isValid = true
  terminalCount : state.terminalRequests.length ≤ maxCollectionEntries
  terminal :
    ∀ record ∈ state.terminalRequests,
      record.Storable ∧ record.lifecycle.isTerminal = true ∧ record.activeFlows = 0
  interruptedCount : state.interruptedRequests.length ≤ maxCollectionEntries
  interrupted : ∀ record ∈ state.interruptedRequests, record.Storable

theorem decodeFrom_decodes (hStorable : state.Storable) :
    decodeFrom.Decodes state.layout state := by
  have hVersion : (state.formatVersion != snapshotFormatVersion) = false := by
    rw [hStorable.version]
    rfl
  have hModels := decodeCounted_decodes state.models hStorable.modelCount
    (fun entry hEntry => decodeModelState_decodes entry (hStorable.models entry hEntry)) "models"
  have hStates := decodeCounted_decodes state.states hStorable.stateCount (fun entry hEntry =>
      decodeStateGenerationRecord_decodes entry (hStorable.states entry hEntry)) "states"
  have hTerminal := decodeCounted_decodes state.terminalRequests hStorable.terminalCount
    (fun record hRecord =>
      decodeTerminalRecord_decodes record (hStorable.terminal record hRecord).1
        (hStorable.terminal record hRecord).2.1 (hStorable.terminal record hRecord).2.2)
    "terminal records"
  have hInterrupted := decodeCounted_decodes state.interruptedRequests hStorable.interruptedCount
    (fun record hRecord =>
      decodeRequestRecord_decodes record (hStorable.interrupted record hRecord))
    "interrupted records"
  apply Decodes.next
  apply (Decodes.checkOk _).check
  apply (Decodes.refuseIf hVersion _ _).check
  apply (Decodes.generation _ hStorable.epoch).field
  apply (Decodes.id _ hStorable.incarnation).field
  apply Decodes.next
  apply (decode_decodes _ hStorable.policy).field
  apply Decodes.next
  apply (decodeTopologyEvidence_decodes _ _ hStorable.topology).field
  apply hModels.field
  apply hStates.field
  apply hTerminal.field
  apply hInterrupted.field
  apply (Decodes.checkOk _).check
  exact Decodes.pure state

/- Every document that is read is storable. -/
theorem decodeFrom_ensures : decodeFrom.Ensures Storable := by
  refine Ensures.next (fun _ => ?_)
  refine (Ensures.checkOk _).skip (fun _ => ?_)
  refine (Ensures.refuseIf _ _ _).bind (fun _ => ?_)
  refine Ensures.generation.bind (fun _ => ?_)
  refine Ensures.id.bind (fun _ => ?_)
  refine Ensures.next (fun _ => ?_)
  refine decode_ensures.bind (fun _ => ?_)
  refine Ensures.next (fun _ => ?_)
  refine (decodeTopologyEvidence_ensures _).bind (fun _ => ?_)
  refine (decodeCounted_ensures decodeModelState_ensures _).bind (fun _ => ?_)
  refine (decodeCounted_ensures decodeStateGenerationRecord_ensures _).bind (fun _ => ?_)
  refine (decodeCounted_ensures decodeTerminalRecord_ensures _).bind (fun _ => ?_)
  refine (decodeCounted_ensures decodeRequestRecord_ensures _).bind (fun _ => ?_)
  refine (Ensures.checkOk _).skip (fun _ => ?_)
  apply Ensures.pure
  intro hInterrupted hTerminal hStates hModels hTopology hPolicy hIncarnation hEpoch hVersion
  exact
    { version := by simpa using hVersion
      epoch := hEpoch
      incarnation := hIncarnation
      policy := hPolicy
      topology := hTopology
      modelCount := hModels.1
      models := hModels.2
      stateCount := hStates.1
      states := hStates.2
      terminalCount := hTerminal.1
      terminal := hTerminal.2
      interruptedCount := hInterrupted.1
      interrupted := hInterrupted.2 }

/-
  The epoch that is read is the epoch that was written,
  whatever else the document holds.
-/
theorem decodeFrom_epoch {state found : PersistedCoordinatorState} {reader after : Reader}
    (hHolds : reader.Holds state.layout) (hDecoded : decodeFrom reader = (.ok found, after))
    (hGood : after.failCode = .ok) : found.epoch = state.epoch := by
  rcases bind_eq_ok hDecoded with ⟨version, first, hVersion, hDecoded⟩
  rcases Decodes.u16 state.formatVersion reader _ hHolds with ⟨_, hRead, hHeld⟩
  rw [hRead] at hVersion
  cases hVersion
  rcases bind_eq_ok hDecoded with ⟨checked, second, hCheck, hDecoded⟩
  rcases Decodes.checkOk _ first _ hHeld with ⟨_, hPassed, hHeld⟩
  rw [hPassed] at hCheck
  cases hCheck
  rcases bind_eq_ok hDecoded with ⟨passed, third, hRefuse, hDecoded⟩
  unfold refuseIf at hRefuse
  split at hRefuse
  · cases hRefuse
  cases hRefuse
  rcases bind_eq_ok hDecoded with ⟨epoch, fourth, hEpoch, hDecoded⟩
  have hFound : found.epoch = epoch := by
    refine Ensures.result (P := fun final => final.epoch = epoch) ?_ hDecoded hGood
    refine Ensures.id.skip (fun _ => ?_)
    refine Ensures.next (fun _ => ?_)
    refine decode_ensures.skip (fun _ => ?_)
    refine Ensures.next (fun _ => ?_)
    refine (decodeTopologyEvidence_ensures _).skip (fun _ => ?_)
    refine (decodeCounted_ensures decodeModelState_ensures _).skip (fun _ => ?_)
    refine (decodeCounted_ensures decodeStateGenerationRecord_ensures _).skip (fun _ => ?_)
    refine (decodeCounted_ensures decodeTerminalRecord_ensures _).skip (fun _ => ?_)
    refine (decodeCounted_ensures decodeRequestRecord_ensures _).skip (fun _ => ?_)
    refine (Ensures.checkOk _).skip (fun _ => ?_)
    exact Ensures.pure rfl
  rw [hFound]
  rcases bind_eq_ok hEpoch with ⟨raw, fifth, hRaw, hAccept⟩
  rcases Decodes.u64 state.epoch.value _ _ hHeld with ⟨_, hRead, hHeld⟩
  rw [hRead] at hRaw
  cases hRaw
  unfold Reader.accept at hAccept
  rw [if_neg (not_not.mpr hHeld.good)] at hAccept
  split at hAccept
  · cases hAccept
    rfl
  · cases hAccept
    rfl

end PersistedCoordinatorState

namespace SnapshotStore

variable {maxPayloadBytes : Nat} {payload : List UInt8} {state : PersistedCoordinatorState}

/- The payload `save` writes to the file. -/
def savePayload (maxPayloadBytes : Nat) (state : PersistedCoordinatorState) : Result (List UInt8) :=
  let writer := state.encodeInto { limit := maxPayloadBytes }
  if writer.ok then .ok writer.buffer
  else .failure writer.failCode "snapshot document exceeds the configured size ceiling"

/- The document `load` makes of the payload of the file. -/
def loadPayload (maxPayloadBytes : Nat) (payload : List UInt8) : Result PersistedCoordinatorState :=
  match decodeFrom (Reader.create payload maxPayloadBytes) with
  | (.error status, _) => .error status
  | (.ok state, reader) =>
    match reader.finish with
    | .error status => .error status
    | .ok () => .ok state

theorem savePayload_eq_ok (hSaved : savePayload maxPayloadBytes state = .ok payload) :
    payload = state.layout := by
  have hAppends := state.encodeInto_appends { limit := maxPayloadBytes }
  unfold savePayload at hSaved
  by_cases hOk : (state.encodeInto { limit := maxPayloadBytes }).ok = true
  · rw [if_pos hOk] at hSaved
    have hKept := hAppends.kept (by
      simpa [Writer.ok] using hOk)
    cases hSaved
    rw [hKept.2]
    rfl
  · rw [if_neg hOk] at hSaved
    cases hSaved

/- A loaded document was decoded to the last byte. -/
theorem loadPayload_eq_ok (hLoaded : loadPayload maxPayloadBytes payload = .ok state) :
    ∃ reader,
      decodeFrom (Reader.create payload maxPayloadBytes) =
        (.ok state, reader) ∧ reader.finish = .ok () := by
  unfold loadPayload at hLoaded
  split at hLoaded
  · cases hLoaded
  · rename_i found reader hDecoded
    split at hLoaded
    · cases hLoaded
    · rename_i hFinish
      cases hLoaded
      exact ⟨reader, hDecoded, hFinish⟩

theorem loadPayload_storable (hLoaded : loadPayload maxPayloadBytes payload = .ok state) :
    state.Storable := by
  rcases loadPayload_eq_ok hLoaded with ⟨reader, hDecoded, hFinish⟩
  exact decodeFrom_ensures.result hDecoded (Reader.good_of_finish hFinish)

theorem savePayload_of_fits (hFits : state.layout.length ≤ maxPayloadBytes) :
    savePayload maxPayloadBytes state = .ok state.layout := by
  have hAppends := state.encodeInto_appends { limit := maxPayloadBytes }
  have hWriter := hAppends.fits rfl (by simpa using hFits)
  unfold savePayload
  rw [hWriter]
  rfl

theorem loadPayload_epoch {found : PersistedCoordinatorState}
    (hSaved : savePayload maxPayloadBytes state = .ok payload)
    (hLoaded : loadPayload maxPayloadBytes payload = .ok found) : found.epoch = state.epoch := by
  have hLayout := savePayload_eq_ok hSaved
  rcases loadPayload_eq_ok hLoaded with ⟨reader, hDecoded, hFinish⟩
  have hGood := Reader.good_of_finish hFinish
  have hFits : payload.length ≤ maxPayloadBytes := by
    by_contra hLarge
    have hCreated := (decodeFrom_ensures _ _ _ hDecoded hGood).1
    unfold Reader.create at hCreated
    rw [if_pos (Nat.not_le.mp hLarge)] at hCreated
    cases hCreated
  have hHolds := Reader.holds_create payload maxPayloadBytes hFits
  rw [hLayout] at hHolds hDecoded
  exact decodeFrom_epoch hHolds hDecoded hGood

theorem loadPayload_layout (hStorable : state.Storable)
    (hFits : state.layout.length ≤ maxPayloadBytes) :
    loadPayload maxPayloadBytes state.layout = .ok state := by
  have hHolds := Reader.holds_create state.layout maxPayloadBytes hFits
  rw [← List.append_nil state.layout] at hHolds
  rcases decodeFrom_decodes state hStorable _ [] hHolds with ⟨after, hDecoded, hRest⟩
  rw [List.append_nil] at hDecoded
  unfold loadPayload
  rw [hDecoded]
  simp only [Reader.finish_of_holds hRest]

end SnapshotStore

end TrafficFabric
