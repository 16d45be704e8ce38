import TrafficFabric.Codec.Snapshot
import TrafficFabric.Wire.Frame

/-
  The snapshot file: a header with two checksums and the
  payload. A file is accepted when it is the file that is
  written for its payload, up to the flags of the header.
-/

namespace TrafficFabric

open Layout List

namespace SnapshotStore

open FrameHeader

def magic : List UInt8 := [73, 84, 70, 83]

def headerBytes : Nat := 24

/- The fields that the checksum of a header covers. -/
def fields (flags : UInt16) (payload : List UInt8) : List (List UInt8) :=
  [magic,
    u16 snapshotFormatVersion,
    u16 flags,
    u64 (UInt64.ofNat payload.length),
    u32 (crc32c payload)]

/- The header of a file with some flags and a payload. -/
def header (flags : UInt16) (payload : List UInt8) : List UInt8 :=
  (fields flags payload ++ [u32 (crc32c (fields flags payload).flatten)]).flatten

/- A file with some flags and a payload. -/
def image (flags : UInt16) (payload : List UInt8) : List UInt8 :=
  header flags payload ++ payload

/- The file that `save_raw` leaves behind. -/
def saveRaw (maxPayloadBytes : UInt64) (payload : List UInt8) : Result (List UInt8) :=
  if maxPayloadBytes.toNat < payload.length then
    .failure .boundsExceeded "snapshot payload exceeds the configured ceiling"
  else .ok (image 0 payload)

def loadRaw (maxPayloadBytes : UInt64) (file : List UInt8) : Result (List UInt8) :=
  let header := file.take headerBytes
  let rest := file.drop headerBytes
  let version := UInt16.ofNat (load 2 4 header)
  let payloadLength := UInt64.ofNat (load 8 8 header)
  let payload := rest.take payloadLength.toNat
  if header.length < headerBytes then .failure .malformedInput "snapshot header is truncated"
  else if header.take 4 ≠ magic then .failure .malformedInput "snapshot magic does not match"
  else if version ≠ snapshotFormatVersion then
    .failure .unsupportedVersion
      ("snapshot format version " ++ toString version.toNat ++ " is not supported")
  else if UInt32.ofNat (load 4 20 header) ≠ crc32c (header.take 20) then
    .failure .integrityMismatch "snapshot header checksum mismatch"
  else if maxPayloadBytes < payloadLength then
    .failure .boundsExceeded "snapshot payload exceeds the configured ceiling"
  else if rest.length < payloadLength.toNat then
    .failure .malformedInput "snapshot payload is truncated"
  else if payloadLength.toNat < rest.length then
    .failure .trailingGarbage "snapshot has trailing bytes"
  else if crc32c payload ≠ UInt32.ofNat (load 4 16 header) then
    .failure .integrityMismatch "snapshot payload checksum mismatch"
  else .ok payload

---
-- Accepted Files
---

variable {maxPayloadBytes : UInt64} {file payload : List UInt8} {flags : UInt16}

theorem length_flatten_fields (flags : UInt16) (payload : List UInt8) :
    (fields flags payload).flatten.length = 20 := by
  simp [fields, magic]

theorem length_header (flags : UInt16) (payload : List UInt8) :
    (header flags payload).length = headerBytes := by
  rw [header, flatten_append, length_append, length_flatten_fields]
  simp [headerBytes]

/- A file of a payload within the ceiling is accepted. -/
theorem loadRaw_image (flags : UInt16) (hFits : payload.length ≤ maxPayloadBytes.toNat) :
    loadRaw maxPayloadBytes (image flags payload) = .ok payload := by
  have hLimit := maxPayloadBytes.toNat_lt
  have hSize := UInt64.toNat_ofNat_of_lt' (Nat.lt_of_le_of_lt hFits hLimit)
  have hLength := length_header flags payload
  have hHeader : (image flags payload).take headerBytes = header flags payload := take_left' hLength
  have hRest : (image flags payload).drop headerBytes = payload := drop_left' hLength
  have hMagic : (header flags payload).take 4 = magic := rfl
  have hCovered : (header flags payload).take 20 = (fields flags payload).flatten := by
    rw [header, flatten_append]
    exact take_left' (length_flatten_fields flags payload)
  have hVersion : load 2 4 (header flags payload) = snapshotFormatVersion.toNat :=
    load_littleEndian [magic] _ rfl rfl snapshotFormatVersion.toNat_lt
  have hCount : load 8 8 (header flags payload) = (UInt64.ofNat payload.length).toNat :=
    load_littleEndian [magic, u16 _, u16 _] _ rfl (by simp [magic])
      (UInt64.ofNat payload.length).toNat_lt
  have hPayload : load 4 16 (header flags payload) = (crc32c payload).toNat :=
    load_littleEndian [magic, u16 _, u16 _, u64 _] _ rfl (by simp [magic])
      (crc32c payload).toNat_lt
  have hCrc : load 4 20 (header flags payload) = (crc32c (fields flags payload).flatten).toNat :=
    load_littleEndian (fields flags payload) [] rfl (length_flatten_fields flags payload)
      (crc32c (fields flags payload).flatten).toNat_lt
  unfold loadRaw
  simp only [hHeader, hRest, hMagic, hCovered, hVersion, hCount, hPayload, hCrc, hLength,
    UInt16.ofNat_toNat, UInt32.ofNat_toNat, hSize, take_length,
    Nat.lt_irrefl, ne_eq, not_true, if_false]
  rw [if_neg]
  rw [UInt64.lt_iff_toNat_lt, hSize]
  exact Nat.not_lt.mpr hFits

/- A header that passes every check but for its flags. -/
theorem eq_header {read : List UInt8} (hLength : read.length = headerBytes)
    (hMagic : read.take 4 = magic) (hVersion : UInt16.ofNat (load 2 4 read) = snapshotFormatVersion)
    (hCrc : UInt32.ofNat (load 4 20 read) = crc32c (read.take 20))
    (hSize : UInt64.ofNat payload.length = UInt64.ofNat (load 8 8 read))
    (hPayload : crc32c payload = UInt32.ofNat (load 4 16 read)) :
    read = header (UInt16.ofNat (load 2 6 read)) payload := by
  have hEnd : ∀ offset width, offset + width ≤ 24 → offset + width ≤ read.length := by
    intro offset width hWithin
    rw [hLength]
    exact hWithin
  have hFields : (fields (UInt16.ofNat (load 2 6 read)) payload).flatten ++ read.drop 20 =
      read := by
    simp only [fields, flatten_cons, flatten_nil, append_nil, append_assoc]
    rw [hPayload, u32_load (hEnd 16 4 (by decide)), hSize, u64_load (hEnd 8 8 (by decide)),
      u16_load (hEnd 6 2 (by decide)), ← hVersion, u16_load (hEnd 4 2 (by decide)), ← hMagic,
      take_append_drop]
  have hCovered : read.take 20 = (fields (UInt16.ofNat (load 2 6 read)) payload).flatten := by
    nth_rewrite 1 [← hFields]
    exact take_left' (length_flatten_fields _ payload)
  have hNone : read.drop (20 + 4) = [] := drop_of_length_le (Nat.le_of_eq hLength)
  have hLast := u32_load (hEnd 20 4 (by decide))
  rw [hNone, append_nil] at hLast
  rw [header, flatten_append, flatten_singleton, ← hCovered, ← hCrc, hLast,
    take_append_drop]

/- Only files of a payload within the ceiling are. -/
theorem loadRaw_eq_ok (hLoaded : loadRaw maxPayloadBytes file = .ok payload) :
    payload.length ≤ maxPayloadBytes.toNat ∧ ∃ flags, file = image flags payload := by
  simp only [loadRaw, Result.guard_eq_ok_iff, not_not, Nat.not_lt, UInt64.not_lt,
    Except.ok.injEq] at hLoaded
  rcases hLoaded with ⟨hHeader, hMagic, hVersion, hCrc, hLimit, hEnough, hEnd, hPayload, hEq⟩
  have hRest : file.drop headerBytes = payload := by rw [← hEq, take_of_length_le hEnd]
  rw [hRest] at hEnough hEnd
  rw [hEq] at hPayload
  have hSize := Nat.le_antisymm hEnd hEnough
  refine ⟨hSize ▸ UInt64.le_iff_toNat_le.mp hLimit,
    UInt16.ofNat (load 2 6 (file.take headerBytes)), ?_⟩
  have hTaken := eq_header (Nat.le_antisymm (length_take_le headerBytes file) hHeader) hMagic
    hVersion hCrc (by rw [hSize, UInt64.ofNat_toNat]) hPayload
  rw [image, ← hTaken, ← hRest, take_append_drop]

theorem saveRaw_eq_ok_iff :
    saveRaw maxPayloadBytes payload = .ok file ↔
      payload.length ≤ maxPayloadBytes.toNat ∧ image 0 payload = file := by
  simp only [saveRaw, Result.guard_eq_ok_iff, Nat.not_lt, Except.ok.injEq]

/- The flags of a file are read from its header. -/
theorem image_flags {other : UInt16} {found : List UInt8}
    (hSame : image flags payload = image other found) : flags = other := by
  have hLoad : ∀ flags payload, load 2 6 (header flags payload) = flags.toNat :=
    fun flags payload => load_littleEndian [magic, u16 _] _ rfl (by simp [magic]) flags.toNat_lt
  have hHeader := append_inj_left hSame
    ((length_header flags payload).trans (length_header other found).symm)
  apply UInt16.toNat_inj.mp
  rw [← hLoad flags payload, ← hLoad other found, hHeader]

/-
  The file has flags set and is otherwise the file of a
  payload within the ceiling.
-/
def Flagged (maxPayloadBytes : UInt64) (file : List UInt8) : Prop :=
  ∃ flags payload,
    flags ≠ 0 ∧ payload.length ≤ maxPayloadBytes.toNat ∧ file = image flags payload

/-
  A file is accepted with a payload exactly when it is the
  file that is written for it, unless its flags are set:
  they are covered by the checksum and never looked at.
-/
theorem loadRaw_iff_saveRaw (maxPayloadBytes : UInt64) (file : List UInt8) :
    (∀ payload,
      loadRaw maxPayloadBytes file = .ok payload ↔ saveRaw maxPayloadBytes payload = .ok file) ↔
      ¬ Flagged maxPayloadBytes file := by
  constructor
  · rintro hExact ⟨flags, payload, hSet, hFits, rfl⟩
    have hSaved := (hExact payload).mp (loadRaw_image flags hFits)
    exact hSet (image_flags (saveRaw_eq_ok_iff.mp hSaved).2).symm
  · intro hPlain payload
    rw [saveRaw_eq_ok_iff]
    constructor
    · intro hLoaded
      rcases loadRaw_eq_ok hLoaded with ⟨hFits, flags, hFile⟩
      have hFlags : flags = 0 := by
        by_contra hSet
        exact hPlain ⟨flags, payload, hSet, hFits, hFile⟩
      subst hFlags
      exact ⟨hFits, hFile.symm⟩
    · rintro ⟨hFits, rfl⟩
      exact loadRaw_image 0 hFits

/- One flag is set, and the checksum covers it. -/
theorem loadRaw_flagged :
    let file := image 1 []
    loadRaw 64 file = .ok [] ∧ ∀ payload, saveRaw 64 payload ≠ .ok file := by
  refine ⟨loadRaw_image 1 (by decide), ?_⟩
  intro payload hSaved
  have hFlags := image_flags (saveRaw_eq_ok_iff.mp hSaved).2
  revert hFlags
  decide

end SnapshotStore

end TrafficFabric
