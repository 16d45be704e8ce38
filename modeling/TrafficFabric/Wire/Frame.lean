import TrafficFabric.Codec.Text

/-
  Frames: the checksum, the message types and the fixed
  header.
-/

---
-- The Checksum
---

namespace TrafficFabric

open Layout List

variable {header : FrameHeader}
variable {bytes : List UInt8}

namespace Crc32c

def reflectedPolynomial : UInt32 := 0x82F63B78

/- One bit of an entry of the table. -/
def shifted (crc : UInt32) : UInt32 :=
  if crc &&& 1 ≠ 0 then (crc >>> 1) ^^^ reflectedPolynomial
  else crc >>> 1

def tableEntry (index : UInt32) : UInt32 :=
  shifted (shifted (shifted (shifted (shifted (shifted (shifted (shifted index)))))))

def update (state : UInt32) (byte : UInt8) : UInt32 :=
  tableEntry ((state ^^^ byte.toUInt32) &&& 0xFF) ^^^ (state >>> 8)

end Crc32c

def crc32c (bytes : List UInt8) : UInt32 :=
  bytes.foldl Crc32c.update 0xFFFFFFFF ^^^ 0xFFFFFFFF

---
-- Message Types
---

/-
  The type of a message is a number. Some numbers below the
  count have no name, and no check refuses them.
-/
inductive MessageType
| invalid
| helloRequest
| helloResponse
| errorResponse
| ackResponse
| registerRequestResponse
| registerAttemptResponse
| registerTransferResponse
| registerRequest
| registerAttempt
| stageUpdate
| cancelRequest
| failAttempt
| replaceAttempt
| evaluateTraffic
| decisionResponse
| openFlow
| openFlowResponse
| registerTransfer
| authorizeTransfer
| transferDecisionResponse
| transferComplete
| completionPublish
| completionResponse
| accountingQuery
| accountingResponse
| statusQuery
| statusResponse
| policyQuery
| policyResponse
| topologyPublish
| topologyResponse
| publishSloContract
| sloContractResponse
| issueRouteDecision
| routeDecisionResponse
| advanceModelGeneration
| modelGenerationResponse
| shutdown
| shutdownAck
| heartbeat
| heartbeatAck
| dataChunk
| dataChunkAck
| dataComplete
| dataCompleteAck
| count
| unnamed (code : UInt16)
deriving DecidableEq

namespace MessageType

def code : MessageType → UInt16
| .invalid => 0
| .helloRequest => 1
| .helloResponse => 2
| .errorResponse => 3
| .ackResponse => 4
| .registerRequestResponse => 5
| .registerAttemptResponse => 6
| .registerTransferResponse => 7
| .registerRequest => 10
| .registerAttempt => 11
| .stageUpdate => 12
| .cancelRequest => 13
| .failAttempt => 14
| .replaceAttempt => 15
| .evaluateTraffic => 20
| .decisionResponse => 21
| .openFlow => 22
| .openFlowResponse => 23
| .registerTransfer => 30
| .authorizeTransfer => 31
| .transferDecisionResponse => 32
| .transferComplete => 33
| .completionPublish => 40
| .completionResponse => 41
| .accountingQuery => 50
| .accountingResponse => 51
| .statusQuery => 52
| .statusResponse => 53
| .policyQuery => 54
| .policyResponse => 55
| .topologyPublish => 60
| .topologyResponse => 61
| .publishSloContract => 62
| .sloContractResponse => 63
| .issueRouteDecision => 64
| .routeDecisionResponse => 65
| .advanceModelGeneration => 66
| .modelGenerationResponse => 67
| .shutdown => 70
| .shutdownAck => 71
| .heartbeat => 80
| .heartbeatAck => 81
| .dataChunk => 90
| .dataChunkAck => 91
| .dataComplete => 92
| .dataCompleteAck => 93
| .count => 94
| .unnamed code => code

def named : List MessageType :=
  [.invalid, .helloRequest, .helloResponse, .errorResponse,
    .ackResponse, .registerRequestResponse,
    .registerAttemptResponse, .registerTransferResponse,
    .registerRequest, .registerAttempt, .stageUpdate,
    .cancelRequest, .failAttempt, .replaceAttempt,
    .evaluateTraffic, .decisionResponse, .openFlow,
    .openFlowResponse, .registerTransfer,
    .authorizeTransfer, .transferDecisionResponse,
    .transferComplete, .completionPublish,
    .completionResponse, .accountingQuery,
    .accountingResponse, .statusQuery, .statusResponse,
    .policyQuery, .policyResponse, .topologyPublish,
    .topologyResponse, .publishSloContract,
    .sloContractResponse, .issueRouteDecision,
    .routeDecisionResponse, .advanceModelGeneration,
    .modelGenerationResponse, .shutdown, .shutdownAck,
    .heartbeat, .heartbeatAck, .dataChunk, .dataChunkAck,
    .dataComplete, .dataCompleteAck, .count]

def ofCode (raw : UInt16) : MessageType :=
  (named.find? (fun type => type.code == raw)).getD (.unnamed raw)

def isKnownMessageType (type : MessageType) : Bool :=
  type ≠ .invalid && type ≠ .count && type.code < MessageType.count.code

def responseTypeFor : MessageType → MessageType
| .helloRequest => .helloResponse
| .registerRequest => .registerRequestResponse
| .registerAttempt => .registerAttemptResponse
| .stageUpdate => .ackResponse
| .cancelRequest => .ackResponse
| .failAttempt => .ackResponse
| .transferComplete => .ackResponse
| .replaceAttempt => .registerAttemptResponse
| .evaluateTraffic => .decisionResponse
| .openFlow => .openFlowResponse
| .registerTransfer => .registerTransferResponse
| .authorizeTransfer => .transferDecisionResponse
| .completionPublish => .completionResponse
| .accountingQuery => .accountingResponse
| .statusQuery => .statusResponse
| .policyQuery => .policyResponse
| .topologyPublish => .topologyResponse
| .publishSloContract => .sloContractResponse
| .issueRouteDecision => .routeDecisionResponse
| .advanceModelGeneration => .modelGenerationResponse
| .shutdown => .shutdownAck
| .heartbeat => .heartbeatAck
| .dataChunk => .dataChunkAck
| .dataComplete => .dataCompleteAck
| _ => .invalid

theorem isKnownMessageType_responseTypeFor {type : MessageType}
    (hMapped : type.responseTypeFor ≠ .invalid) :
    type.responseTypeFor.isKnownMessageType = true := by
  cases type with
  | unnamed code => exact (hMapped rfl).elim
  | _ => first | rfl | exact (hMapped rfl).elim

/- A type that is the reading of its own number. -/
def Canonical (type : MessageType) : Prop :=
  ofCode type.code = type

theorem code_ofCode (raw : UInt16) : (ofCode raw).code = raw := by
  unfold ofCode
  cases hFind : named.find? (fun type => type.code == raw) with
  | none => rfl
  | some type =>
    have hCode := List.find?_some hFind
    exact eq_of_beq hCode

theorem canonical_ofCode (raw : UInt16) : (ofCode raw).Canonical := by
  unfold Canonical
  rw [code_ofCode]

end MessageType

def magic : List UInt8 := [73, 84, 70, 49]

def headerBytes : Nat := 40

def wireProtocolVersion : UInt16 := 1

def absoluteMaxPayloadBytes : UInt32 := 4 * 1024 * 1024

structure FrameHeader where
  protocolVersion : UInt16 := wireProtocolVersion
  type : MessageType := .invalid
  flags : UInt32 := 0
  payloadLength : UInt32 := 0
  sequence : UInt64 := 0
  correlation : UInt64 := 0
  payloadCrc32c : UInt32 := 0
deriving DecidableEq

namespace FrameHeader

/- The fields that the checksum of a header covers. -/
def fields (header : FrameHeader) : List (List UInt8) :=
  [magic,
    u16 header.protocolVersion,
    u16 header.type.code,
    u32 header.flags,
    u32 header.payloadLength,
    u64 header.sequence,
    u64 header.correlation,
    u32 header.payloadCrc32c]

/- The number at an offset. -/
def load (width offset : Nat) (bytes : List UInt8) : Nat :=
  ofLittleEndian ((bytes.drop offset).take width)

/- The fields that stand at their offsets. -/
def ofBytes (bytes : List UInt8) : FrameHeader where
  protocolVersion := UInt16.ofNat (load 2 4 bytes)
  type := MessageType.ofCode (UInt16.ofNat (load 2 6 bytes))
  flags := UInt32.ofNat (load 4 8 bytes)
  payloadLength := UInt32.ofNat (load 4 12 bytes)
  sequence := UInt64.ofNat (load 8 16 bytes)
  correlation := UInt64.ofNat (load 8 24 bytes)
  payloadCrc32c := UInt32.ofNat (load 4 32 bytes)

def describing (type : MessageType) (sequence correlation : UInt64) (payload : List UInt8) :
    FrameHeader :=
  { type
    payloadLength := UInt32.ofNat payload.length
    sequence, correlation
    payloadCrc32c := crc32c payload }

/- What a decoder requires of the fields. -/
structure Acceptable (maxPayloadBytes : UInt32) (header : FrameHeader) : Prop where
  version : header.protocolVersion = wireProtocolVersion
  known : header.type.isKnownMessageType = true
  flags : header.flags = 0
  ceiling : header.payloadLength ≤ absoluteMaxPayloadBytes
  limit : header.payloadLength ≤ maxPayloadBytes

end FrameHeader

def encodeHeader (header : FrameHeader) : List UInt8 :=
  (header.fields ++ [u32 (crc32c header.fields.flatten)]).flatten

/- A frame as it is written. -/
def encodeFrame (header : FrameHeader) (payload : List UInt8) : List UInt8 :=
  encodeHeader header ++ payload

def decodeHeader (header : List UInt8) (maxPayloadBytes : UInt32) : Result FrameHeader :=
  let decoded := FrameHeader.ofBytes header
  if header.length < headerBytes then .failure .malformedInput "frame header is truncated"
  else if header.take 4 ≠ magic then .failure .malformedInput "frame magic does not match"
  else if decoded.protocolVersion ≠ wireProtocolVersion then
    .failure .unsupportedVersion "frame protocol version is not supported"
  else if !decoded.type.isKnownMessageType then .failure .malformedInput "unknown message type"
  else if UInt32.ofNat (FrameHeader.load 4 36 header) ≠ crc32c (header.take 36) then
    .failure .integrityMismatch "frame header checksum mismatch"
  else if absoluteMaxPayloadBytes < decoded.payloadLength then
    .failure .boundsExceeded "frame payload exceeds the protocol ceiling"
  else if maxPayloadBytes < decoded.payloadLength then
    .failure .boundsExceeded "frame payload exceeds the negotiated limit"
  else if decoded.flags ≠ 0 then
    .failure .malformedInput "frame flags are not defined in this protocol version"
  else .ok decoded

---
-- Decoded Headers
---

open FrameHeader

/- An accepted header is the fields of its bytes, under their checksum. -/
theorem decodeHeader_eq_ok_iff {maxPayloadBytes : UInt32} :
    decodeHeader bytes maxPayloadBytes = .ok header ↔
      headerBytes ≤ bytes.length ∧ bytes.take 4 = magic ∧
        UInt32.ofNat (load 4 36 bytes) = crc32c (bytes.take 36) ∧
        header.Acceptable maxPayloadBytes ∧ header = ofBytes bytes := by
  simp only [decodeHeader, Result.guard_eq_ok_iff, not_not, Nat.not_lt, UInt32.not_lt,
    Bool.not_eq_true', Bool.not_eq_false, Except.ok.injEq, eq_comm (a := ofBytes bytes)]
  constructor
  · rintro ⟨hLength, hMagic, hVersion, hKnown, hCrc, hCeiling, hLimit, hFlags, rfl⟩
    exact ⟨hLength, hMagic, hCrc, ⟨hVersion, hKnown, hFlags, hCeiling, hLimit⟩, rfl⟩
  · rintro ⟨hLength, hMagic, hCrc, ⟨hVersion, hKnown, hFlags, hCeiling, hLimit⟩, rfl⟩
    exact ⟨hLength, hMagic, hVersion, hKnown, hCrc, hCeiling, hLimit, hFlags, rfl⟩

namespace FrameHeader

variable {offset : Nat} {bytes : List UInt8}
variable (before after : List (List UInt8))

theorem load_flatten (field : List UInt8) :
    load field.length before.flatten.length (before ++ field :: after).flatten =
      ofLittleEndian field := by
  rw [load, flatten_append, flatten_cons, drop_left, take_left]

theorem length_flatten_fields (header : FrameHeader) : header.fields.flatten.length = 36 := by
  simp [fields, magic]

/- The number a field of fixed width was made from. -/
theorem load_littleEndian {width value : Nat}
    (hBytes : bytes = (before ++ littleEndian width value :: after).flatten)
    (hOffset : before.flatten.length = offset) (hFits : value < 256 ^ width) :
    load width offset bytes = value := by
  have hLoad := load_flatten before after (littleEndian width value)
  rw [length_littleEndian, hOffset, ← hBytes, ofLittleEndian_of_lt width value hFits] at hLoad
  exact hLoad

theorem load_lt (width offset : Nat) (bytes : List UInt8) :
    load width offset bytes < 256 ^ width := by
  refine Nat.lt_of_lt_of_le (ofLittleEndian_lt _) (Nat.pow_le_pow_right (by decide) ?_)
  rw [length_take]
  exact Nat.min_le_left width _

/- A loaded number stands at its offset. -/
theorem drop_eq_littleEndian {width : Nat} (hLength : offset + width ≤ bytes.length) :
    bytes.drop offset =
      littleEndian width (load width offset bytes) ++ bytes.drop (offset + width) := by
  have hTaken : ((bytes.drop offset).take width).length = width := by
    rw [length_take, length_drop]
    omega
  have hSpelled := littleEndian_ofLittleEndian ((bytes.drop offset).take width)
  rw [hTaken] at hSpelled
  rw [load, hSpelled, ← drop_drop, take_append_drop]

theorem u16_load (hLength : offset + 2 ≤ bytes.length) :
    u16 (UInt16.ofNat (load 2 offset bytes)) ++ bytes.drop (offset + 2) = bytes.drop offset := by
  rw [u16, UInt16.toNat_ofNat_of_lt' (load_lt 2 offset bytes)]
  exact (drop_eq_littleEndian hLength).symm

theorem u32_load (hLength : offset + 4 ≤ bytes.length) :
    u32 (UInt32.ofNat (load 4 offset bytes)) ++ bytes.drop (offset + 4) = bytes.drop offset := by
  rw [u32, UInt32.toNat_ofNat_of_lt' (load_lt 4 offset bytes)]
  exact (drop_eq_littleEndian hLength).symm

theorem u64_load (hLength : offset + 8 ≤ bytes.length) :
    u64 (UInt64.ofNat (load 8 offset bytes)) ++ bytes.drop (offset + 8) = bytes.drop offset := by
  rw [u64, UInt64.toNat_ofNat_of_lt' (load_lt 8 offset bytes)]
  exact (drop_eq_littleEndian hLength).symm

end FrameHeader

/- A header has a fixed size. -/
@[simp] theorem length_encodeHeader (header : FrameHeader) :
    (encodeHeader header).length = headerBytes := by
  rw [encodeHeader, flatten_append, length_append, length_flatten_fields]
  simp [headerBytes]

theorem ofBytes_encodeHeader (hType : header.type.Canonical) :
    FrameHeader.ofBytes (encodeHeader header) = header := by
  have hVersion : load 2 4 (encodeHeader header) = header.protocolVersion.toNat :=
    load_littleEndian [magic] _ rfl rfl header.protocolVersion.toNat_lt
  have hCode : load 2 6 (encodeHeader header) = header.type.code.toNat :=
    load_littleEndian [magic, u16 _] _ rfl (by simp [magic]) header.type.code.toNat_lt
  have hFlags : load 4 8 (encodeHeader header) = header.flags.toNat :=
    load_littleEndian [magic, u16 _, u16 _] _
      rfl (by simp [magic]) header.flags.toNat_lt
  have hLength : load 4 12 (encodeHeader header) = header.payloadLength.toNat :=
    load_littleEndian [magic, u16 _, u16 _, u32 _] _
      rfl (by simp [magic]) header.payloadLength.toNat_lt
  have hSequence : load 8 16 (encodeHeader header) = header.sequence.toNat :=
    load_littleEndian [magic, u16 _, u16 _, u32 _, u32 _] _
      rfl (by simp [magic]) header.sequence.toNat_lt
  have hCorrelation : load 8 24 (encodeHeader header) = header.correlation.toNat :=
    load_littleEndian
      [magic, u16 _, u16 _, u32 _, u32 _, u64 _] _
      rfl (by simp [magic]) header.correlation.toNat_lt
  have hCrc : load 4 32 (encodeHeader header) = header.payloadCrc32c.toNat :=
    load_littleEndian
      [magic, u16 _, u16 _, u32 _, u32 _, u64 _, u64 _] _
      rfl (by simp [magic]) header.payloadCrc32c.toNat_lt
  unfold FrameHeader.ofBytes
  rw [hVersion, hCode, hFlags, hLength, hSequence, hCorrelation, hCrc]
  simp only [UInt16.ofNat_toNat, UInt32.ofNat_toNat, UInt64.ofNat_toNat]
  rw [hType]

theorem ofBytes_take (bytes : List UInt8) : ofBytes (bytes.take headerBytes) = ofBytes bytes := by
  simp [ofBytes, load, headerBytes, drop_take, take_take]

/- Bytes under a magic and a checksum are the encoding of their fields. -/
theorem take_eq_encodeHeader (hLength : headerBytes ≤ bytes.length)
    (hMagic : bytes.take 4 = magic)
    (hCrc : UInt32.ofNat (load 4 36 bytes) = crc32c (bytes.take 36)) :
    bytes.take headerBytes = encodeHeader (ofBytes bytes) := by
  have hEnd : ∀ {offset width}, offset + width ≤ 40 → offset + width ≤ bytes.length :=
    fun hWithin => hWithin.trans hLength
  have hFields : (ofBytes bytes).fields.flatten ++ bytes.drop 36 = bytes := by
    simp only [fields, ofBytes, MessageType.code_ofCode, flatten_cons, flatten_nil,
      append_nil, append_assoc]
    rw [u32_load (hEnd (by decide)), u64_load (hEnd (by decide)), u64_load (hEnd (by decide)),
      u32_load (hEnd (by decide)), u32_load (hEnd (by decide)), u16_load (hEnd (by decide)),
      u16_load (hEnd (by decide)), ← hMagic, take_append_drop]
  have hCovered : bytes.take 36 = (ofBytes bytes).fields.flatten := by
    nth_rewrite 1 [← hFields]
    exact take_left' (length_flatten_fields _)
  have hWhole : encodeHeader (ofBytes bytes) ++ bytes.drop headerBytes = bytes := by
    rw [encodeHeader, flatten_append, flatten_singleton, ← hCovered, ← hCrc,
      append_assoc]
    exact (congrArg _ (u32_load (hEnd (by decide)))).trans (take_append_drop 36 bytes)
  nth_rewrite 1 [← hWhole]
  exact take_left' (length_encodeHeader _)

/-
  A header is decoded from exactly the bytes it is encoded
  to. A type is the reading of its number, since two names of
  one number are one type.
-/
theorem header_decoded_iff (bytes : List UInt8) (maxPayloadBytes : UInt32) (header : FrameHeader) :
    decodeHeader bytes maxPayloadBytes = .ok header ↔
      bytes.take headerBytes = encodeHeader header ∧ header.type.Canonical ∧
        header.Acceptable maxPayloadBytes := by
  rw [decodeHeader_eq_ok_iff]
  constructor
  · rintro ⟨hLength, hMagic, hCrc, hAcceptable, rfl⟩
    exact ⟨take_eq_encodeHeader hLength hMagic hCrc,
      MessageType.canonical_ofCode _, hAcceptable⟩
  · rintro ⟨hEncoded, hType, hAcceptable⟩
    have hWhole := take_append_drop headerBytes bytes
    rw [hEncoded] at hWhole
    generalize bytes.drop headerBytes = rest at hWhole
    subst hWhole
    have hCovered : (encodeHeader header ++ rest).take 36 = header.fields.flatten := by
      rw [encodeHeader, flatten_append, append_assoc]
      exact take_left' (length_flatten_fields header)
    have hCrc : load 4 36 (encodeHeader header ++ rest) = (crc32c header.fields.flatten).toNat :=
      load_littleEndian header.fields [rest] (by simp [encodeHeader, u32])
        (length_flatten_fields header) (crc32c header.fields.flatten).toNat_lt
    refine ⟨?_, rfl, ?_, hAcceptable, ?_⟩
    · rw [length_append, length_encodeHeader]
      exact Nat.le_add_right _ _
    · rw [hCovered, hCrc, UInt32.ofNat_toNat]
    · rw [← ofBytes_take, hEncoded, ofBytes_encodeHeader hType]

example : crc32c [49, 50, 51, 52, 53, 54, 55, 56, 57] = 0xE3069283 := by decide +kernel

end TrafficFabric
