import TrafficFabric.Codec.SnapshotFile
import TrafficFabric.Service.Host

/-
  The start of the service on whatever the file system has
  for the snapshot path. The start boots fresh on the code
  for not found, so the codes of every way a load can fail
  decide whether durable state is replaced.

  Main declarations:
    * `Decoder.Present`
    * `CoordinatorService.startOn`
    * `CoordinatorService.durable_state_kept`
-/

namespace TrafficFabric

open Reader PersistedCoordinatorState SnapshotStore

---
-- Codes of Failed Decoders
---

/- No failure of the decoder is reported as not found. -/
class Decoder.Present {α : Type} (decoder : Decoder α) : Prop where
  codes :
    ∀ reader,
      reader.failCode ≠ .notFound →
      (decoder reader).2.failCode ≠ .notFound ∧
        ∀ status, (decoder reader).1 = .error status → status.code ≠ .notFound

namespace Decoder.Present

variable {α β : Type} {decoder : Decoder α} {next : α → Decoder β}
variable {code : StatusCode} [hCode : Fact (code ≠ .notFound)]

instance : Fact (StatusCode.malformedInput ≠ .notFound) := ⟨by decide⟩

instance : Fact (StatusCode.boundsExceeded ≠ .notFound) := ⟨by decide⟩

instance : Fact (StatusCode.unsupportedVersion ≠ .notFound) := ⟨by decide⟩

instance : Fact (StatusCode.policyInvalid ≠ .notFound) := ⟨by decide⟩

instance pure (value : α) : Present (Pure.pure value) := ⟨fun _ hReader => ⟨hReader, by simp⟩⟩

instance bind [hFirst : Present decoder] [hNext : ∀ value, Present (next value)] :
    Present (decoder >>= next) := by
  constructor
  intro reader hReader
  rcases hRun : decoder reader with ⟨status | value, middle⟩
  · have hFailed : (decoder >>= next) reader = (.error status, middle) := by
      change (match decoder reader with
        | (Except.error status, after) => (Except.error status, after)
        | (Except.ok value, after) => next value after) = _
      rw [hRun]
    have hCodes := hFirst.codes reader hReader
    rw [hRun] at hCodes
    rw [hFailed]
    exact ⟨hCodes.1, fun found hFound => hCodes.2 found (by cases hFound; rfl)⟩
  · have hCodes := hFirst.codes reader hReader
    rw [hRun] at hCodes
    rw [bind_of_ok hRun]
    exact (hNext value).codes middle hCodes.1

instance checkOk (message : String) : Present (Decoder.checkOk message) := by
  constructor
  intro reader hReader
  unfold Decoder.checkOk
  split
  · exact ⟨hReader, by simp⟩
  · refine ⟨hReader, ?_⟩
    rintro status ⟨⟩
    exact hReader

instance refuseIf (refused : Bool) (message : String) :
    Present (Decoder.refuseIf refused code message) := by
  constructor
  intro reader hReader
  unfold Decoder.refuseIf
  split
  · refine ⟨hReader, ?_⟩
    rintro status ⟨⟩
    exact hCode.out
  · exact ⟨hReader, by simp⟩

theorem fail {reader : Reader} (hReader : reader.failCode ≠ .notFound) :
    (reader.fail code).failCode ≠ .notFound := by
  unfold Reader.fail
  split
  · exact hCode.out
  · exact hReader

instance accept (inRange : Bool) (value refused zero : α) :
    Present (Reader.accept inRange code value refused zero) := by
  constructor
  intro reader hReader
  unfold Reader.accept
  split_ifs
  · exact ⟨hReader, by simp⟩
  · exact ⟨hReader, by simp⟩
  · exact ⟨fail hReader, by simp⟩

theorem fixed (width : Nat) (make : Nat → α) :
    Present (fun reader =>
        let (bytes, after) := reader.fetch width
        (.ok (make (ofLittleEndian bytes)), after)) := by
  constructor
  intro reader hReader
  refine ⟨?_, by simp⟩
  unfold fetch require
  split_ifs
  · exact hReader
  · exact fail hReader
  · exact hReader

instance : Present u8 := fixed 1 UInt8.ofNat

instance : Present u16 := fixed 2 UInt16.ofNat

instance : Present u32 := fixed 4 UInt32.ofNat

instance : Present u64 := fixed 8 UInt64.ofNat

instance : Present i64 := by
  unfold i64
  infer_instance

instance : Present boolean := by
  unfold boolean
  infer_instance

instance {E : Type} [DecidableEq E] [Enumeration E] [Inhabited E] :
    Present (enumeration : Decoder E) := by
  unfold enumeration
  infer_instance

instance (maxEntries : Nat) : Present (count maxEntries) := by
  unfold count
  infer_instance

instance {tag : IdTag} : Present (Reader.id : Decoder (Id128 tag)) := by
  unfold Reader.id
  infer_instance

instance {tag : IdTag} : Present (readId : Decoder (Id128 tag)) := by
  unfold readId
  infer_instance

instance {tag : GenerationTag} : Present (generation : Decoder (Generation tag)) := by
  unfold generation
  infer_instance

instance {tag : GenerationTag} : Present (readGeneration : Decoder (Generation tag)) := by
  unfold readGeneration
  infer_instance

instance times [Present decoder] (count : Nat) : Present (Decoder.times decoder count) := by
  induction count with
  | zero => exact pure []
  | succ count ih =>
    unfold Decoder.times
    infer_instance

instance [Present decoder] (message : String) : Present (decodeCounted decoder message) := by
  unfold decodeCounted
  infer_instance

instance : Present decodeClassPolicyRule := by
  unfold decodeClassPolicyRule
  dsimp only
  infer_instance

instance (classes : List TrafficClass) (rules : TrafficClass → ClassPolicyRule) :
    Present (decodeRules classes rules) := by
  induction classes generalizing rules with
  | nil => exact pure rules
  | cons traffic rest ih =>
    unfold decodeRules
    infer_instance

instance : Present PolicyConfig.decode := by
  unfold PolicyConfig.decode
  dsimp only
  infer_instance

instance (validate : Bool) : Present (decodeTopologyEvidence validate) := by
  unfold decodeTopologyEvidence
  dsimp only
  infer_instance

instance : Present decodeModelState := by
  unfold decodeModelState
  dsimp only
  infer_instance

instance : Present decodeStateGenerationRecord := by
  unfold decodeStateGenerationRecord
  dsimp only
  infer_instance

instance : Present decodeAttemptRecord := by
  unfold decodeAttemptRecord
  dsimp only
  infer_instance

-- The longest decoders have some thirty parts.
set_option synthInstance.maxSize 1024

instance : Present decodeRequestRecord := by
  unfold decodeRequestRecord
  dsimp only
  infer_instance

instance : Present decodeTerminalRecord := by
  unfold decodeTerminalRecord
  infer_instance

instance : Present decodeFrom := by
  unfold decodeFrom
  infer_instance

end Decoder.Present

---
-- The Snapshot Path
---

/-
  What the file system gives for the snapshot path: a read
  of a failing file gives some bytes and then an error.
-/
inductive SnapshotFile
| missing
| unopenable
| failing (read : List UInt8)
| readable (bytes : List UInt8)
deriving DecidableEq

namespace SnapshotStore

variable {maxPayloadBytes : UInt64} {status : Status}
variable {file : SnapshotFile}

/-
  What is read from the file. Of the checks of `load_raw`
  only that of the payload checksum comes after the last
  read, so that it is the only one an error then precedes.
-/
def loadFile (maxPayloadBytes : UInt64) : SnapshotFile → Result (List UInt8)
| .missing | .unopenable => .failure .notFound "cannot open file for reading"
| .failing read =>
    match loadRaw maxPayloadBytes read with
    | .error status =>
      if status = ⟨.integrityMismatch, "snapshot payload checksum mismatch"⟩ then
        .failure .ioError "read failed"
      else .error status
    | .ok _ => .failure .ioError "read failed"
| .readable bytes => loadRaw maxPayloadBytes bytes

def load (maxPayloadBytes : UInt64) (file : SnapshotFile) : Result PersistedCoordinatorState :=
  match loadFile maxPayloadBytes file with
  | .error status => .error status
  | .ok payload => loadPayload maxPayloadBytes.toNat payload

theorem loadRaw_codes {bytes : List UInt8}
    (hLoaded : loadRaw maxPayloadBytes bytes = .error status) : status.code ≠ .notFound := by
  unfold loadRaw at hLoaded
  simp only at hLoaded
  split_ifs at hLoaded
  all_goals
    cases hLoaded
    rintro ⟨⟩

theorem loadPayload_codes {maxPayloadBytes : Nat} {payload : List UInt8}
    (hLoaded : loadPayload maxPayloadBytes payload = .error status) : status.code ≠ .notFound := by
  have hFresh : (create payload maxPayloadBytes).failCode ≠ .notFound := by
    unfold create
    split
    · rintro ⟨⟩
    · rintro ⟨⟩
  have hDecoder : Decoder.Present decodeFrom := inferInstance
  have hCodes := hDecoder.codes _ hFresh
  unfold loadPayload at hLoaded
  split at hLoaded
  · rename_i found reader hDecoded
    cases hLoaded
    rw [hDecoded] at hCodes
    exact hCodes.2 status rfl
  · rename_i document reader hDecoded
    rw [hDecoded] at hCodes
    split at hLoaded
    · rename_i found hFinish
      cases hLoaded
      unfold finish at hFinish
      split_ifs at hFinish
      · cases hFinish
        exact hCodes.1
      · cases hFinish
        decide
    · cases hLoaded

theorem load_codes (hLoaded : load maxPayloadBytes file = .error status)
    (hMissing : file ≠ .missing) (hOpens : file ≠ .unopenable) : status.code ≠ .notFound := by
  unfold load at hLoaded
  split at hLoaded
  · rename_i found hFile
    cases hLoaded
    unfold loadFile at hFile
    split at hFile
    · exact absurd rfl hMissing
    · exact absurd rfl hOpens
    · split at hFile
      · rename_i found hRaw
        split at hFile
        · cases hFile
          decide
        · cases hFile
          exact loadRaw_codes hRaw
      · cases hFile
        decide
    · exact loadRaw_codes hFile
  · exact loadPayload_codes hLoaded

/- A document comes out of a file that is read to its end. -/
theorem readable_of_load {document : PersistedCoordinatorState}
    (hLoaded : load maxPayloadBytes file = .ok document) : ∃ bytes, file = .readable bytes := by
  unfold load at hLoaded
  split at hLoaded
  · cases hLoaded
  · rename_i payload hFile
    unfold loadFile at hFile
    split at hFile
    · cases hFile
    · cases hFile
    · split at hFile
      · split at hFile
        · cases hFile
        · cases hFile
      · cases hFile
    · exact ⟨_, rfl⟩

end SnapshotStore

---
-- The Start
---

namespace CoordinatorService

variable (mt : Generator) (config : CoordinatorConfig) (entropy : UInt64)

/- The ceiling of the store of the service. -/
def payloadLimit : UInt64 :=
  UInt64.ofNat maxSnapshotPayloadBytes

/- Start with persistence enabled. -/
def startOn (file : SnapshotFile) : Result Unit × Coordinator :=
  let constructed := Coordinator.create config entropy
  match load payloadLimit file with
  | .ok document =>
    let booted := constructed.bootFrom mt document
    match booted.1 with
    | .error status => (.error status, booted.2)
    | .ok _ => (.ok (), booted.2)
  | .error status =>
    if status.code = .notFound then (.ok (), (constructed.bootFresh mt).2)
    else (.failure status.code ("durable state was refused: " ++ status.toString), constructed)

/-
  What is there is never replaced: the service boots fresh
  on a path without a file, and on any other it boots from
  the document of the file or reports a failure and has not
  booted.
-/
def Keeps (file : SnapshotFile) : Prop :=
  let constructed := Coordinator.create config entropy
  let started := startOn mt config entropy file
  if file = .missing then started = (.ok (), (constructed.bootFresh mt).2)
  else
    (∃ bytes document epoch,
      file = .readable bytes ∧
        load payloadLimit file = .ok document ∧
        constructed.bootFrom mt document = (.ok epoch, started.2) ∧ started.1 = .ok ()) ∨
      ∃ status, started.1 = .error status ∧ started.2.epoch = .unset

/- A file is kept exactly when it can be opened. -/
theorem durable_state_kept (file : SnapshotFile) :
    Keeps mt config entropy file ↔ file ≠ .unopenable := by
  unfold Keeps startOn
  constructor
  · rintro hKeeps rfl
    rcases hKeeps with ⟨bytes, document, epoch, hFile, _⟩ | ⟨status, hStatus, _⟩
    · cases hFile
    · cases hStatus
  · intro hOpens
    by_cases hMissing : file = .missing
    · subst hMissing
      rfl
    · simp only [if_neg hMissing]
      rcases hLoaded : load payloadLimit file with status | document
      · right
        simp only [if_neg (load_codes hLoaded hMissing hOpens)]
        exact ⟨_, rfl, rfl⟩
      · rcases hBoot : (Coordinator.create config entropy).bootFrom mt document with
          ⟨status | epoch, booted⟩
        · right
          have hRefused : ((Coordinator.create config entropy).bootFrom mt document).1 =
              .error status := by
            rw [hBoot]
          have hEpoch := Coordinator.bootFrom_epoch_of_error mt _ document hRefused
          rw [hBoot] at hEpoch
          simp only [hBoot]
          exact ⟨status, rfl, hEpoch⟩
        · left
          rcases readable_of_load hLoaded with ⟨bytes, hBytes⟩
          simp only [hBoot]
          exact ⟨bytes, document, epoch, hBytes, rfl, hBoot, trivial⟩

/- A file that is there and cannot be opened. -/
theorem unopenable_replaced :
    let constructed := Coordinator.create {} 1
    startOn (fun _ _ => 1) {} 1 .unopenable =
        (.ok (), (constructed.bootFresh (fun _ _ => 1)).2) ∧
      (startOn (fun _ _ => 1) {} 1 .unopenable).2.epoch = ⟨1⟩ :=
  ⟨rfl, rfl⟩

end CoordinatorService

end TrafficFabric
