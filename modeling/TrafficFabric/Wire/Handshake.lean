import TrafficFabric.Coordinator.Registries
import TrafficFabric.Wire.Frame

/-
  The bodies a session sends and reads of its own: the
  handshake and the error response.

  Texts are the bytes they are made of.
-/

namespace TrafficFabric

open Decoder Reader

def apiVersion : UInt32 := 1

def versionString : List UInt8 := textBytes "1.0.0"

structure HelloRequest where
  protocolVersion : UInt16 := wireProtocolVersion
  clientApiVersion : UInt32 := apiVersion
  peerName : List UInt8 := []
  authToken : List UInt8 := []
  clientVersion : List UInt8 := []
  clientBoot : BootId := .nil
  maxFramePayload : UInt32 := absoluteMaxPayloadBytes
deriving DecidableEq

def HelloRequest.encode (writer : Writer) (message : HelloRequest) : Writer :=
  ((((((writer.u16 message.protocolVersion).u32 message.clientApiVersion).stringField
    message.peerName).stringField message.authToken).stringField message.clientVersion).id
    message.clientBoot).u32 message.maxFramePayload

def HelloRequest.decode : Decoder HelloRequest := do
  let protocolVersion ← u16
  let clientApiVersion ← u32
  let peerName ← stringField
  let authToken ← stringField
  let clientVersion ← stringField
  let clientBoot ← id
  let maxFramePayload ← u32
  checkOk "hello request"
  refuseIf (protocolVersion ≠ wireProtocolVersion) .unsupportedVersion
    "peer protocol version is not supported"
  refuseIf (clientApiVersion ≠ apiVersion)
    .unsupportedVersion "peer API version is not supported"
  refuseIf (!isSafeLabel peerName) .malformedInput "peer name is not a well-formed label"
  refuseIf (128 < clientVersion.length || !isValidUtf8 clientVersion)
    .malformedInput "client version string is not acceptable"
  refuseIf (256 < authToken.length) .boundsExceeded "auth token is too long"
  refuseIf (absoluteMaxPayloadBytes < maxFramePayload) .boundsExceeded
    "negotiated frame payload exceeds the protocol ceiling"
  pure
    { protocolVersion, clientApiVersion, peerName, authToken, clientVersion, clientBoot
      maxFramePayload }

structure HelloResponse where
  protocolVersion : UInt16 := wireProtocolVersion
  serverApiVersion : UInt32 := apiVersion
  session : SessionId := .nil
  peer : PeerId := .nil
  coordinatorBoot : BootId := .nil
  epoch : CoordinatorEpoch := .unset
  policyGeneration : PolicyGeneration := .unset
  topologyGeneration : TopologyGeneration := .unset
  topologyState : EvidenceState := .unknown
  maxFramePayload : UInt32 := absoluteMaxPayloadBytes
  authoritySequence : UInt64 := 0
  serverVersion : List UInt8 := []
deriving DecidableEq

def HelloResponse.encode (writer : Writer) (message : HelloResponse) : Writer :=
  (((((((((((writer.u16 message.protocolVersion).u32 message.serverApiVersion).id
    message.session).id message.peer).id message.coordinatorBoot).generation
    message.epoch).generation message.policyGeneration).generation
    message.topologyGeneration).enumeration message.topologyState).u32 message.maxFramePayload).u64
    message.authoritySequence).stringField message.serverVersion

/- The body that is sent. -/
def HelloResponse.payload (message : HelloResponse) : List UInt8 :=
  (message.encode {}).buffer

structure ErrorResponse where
  code : StatusCode := .ok
  offendingType : MessageType := .invalid
  detail : List UInt8 := []
deriving DecidableEq

namespace ErrorResponse

def encode (writer : Writer) (message : ErrorResponse) : Writer :=
  ((writer.u16 (Enumeration.code message.code)).u16
    message.offendingType.code).stringField message.detail

/-
  The body that is sent, also when its detail cannot be
  written.
-/
def payload (message : ErrorResponse) : List UInt8 :=
  (message.encode {}).buffer

def decode : Decoder ErrorResponse := do
  let code ← u16
  let offending ← u16
  let detail ← stringField
  checkOk "error response"
  refuseIf (Enumeration.code StatusCode.refused < code)
    .malformedInput "unknown status code"
  refuseIf (MessageType.count.code ≤ offending) .malformedInput "unknown message type"
  pure
    { code := (Enumeration.ofCode? code).getD .ok
      offendingType := MessageType.ofCode offending
      detail }

end ErrorResponse

theorem HelloResponse.length_payload_le (message : HelloResponse) :
    message.payload.length ≤ 4192 := by
  unfold payload encode
  apply Writer.Sized.last
  iterate 11 apply Writer.Sized.next
  decide

theorem ErrorResponse.length_payload_le (message : ErrorResponse) :
    message.payload.length ≤ 4104 := by
  unfold payload encode
  apply Writer.Sized.last
  iterate 2 apply Writer.Sized.next
  decide

end TrafficFabric
