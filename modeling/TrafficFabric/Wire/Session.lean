import TrafficFabric.Library.Arrivals
import TrafficFabric.Wire.Handshake

/-
  The session of one connection: a loop that receives a
  frame, decides about it, sends at most one frame and goes
  on or closes.

  What the surroundings of the loop contribute to one pass
  is a `Round`: the stop flag, the identities that are
  minted, what the handler answers, and whether a write
  succeeds.

  Main declarations:
    * `Server`
    * `receive`
    * `Server.serve_served`
    * `Turn.sent_cases`
-/

---
-- The Server
---

namespace TrafficFabric

structure ServerConfig where
  maxFramePayload : Nat := 256 * 1024
  authToken : List UInt8 := []
  requireAuth : Bool := true

/- A server, whose limit was put in range. -/
structure Server where
  config : ServerConfig
  positive : 0 < config.maxFramePayload
  bounded : config.maxFramePayload ≤ absoluteMaxPayloadBytes.toNat

def ServerConfig.inRange (config : ServerConfig) : ServerConfig :=
  if config.maxFramePayload = 0 ∨ absoluteMaxPayloadBytes.toNat < config.maxFramePayload then
    { config with maxFramePayload := absoluteMaxPayloadBytes.toNat }
  else config

theorem ServerConfig.inRange_bounds (config : ServerConfig) :
    0 < config.inRange.maxFramePayload ∧
      config.inRange.maxFramePayload ≤ absoluteMaxPayloadBytes.toNat := by
  have hCeiling : 0 < absoluteMaxPayloadBytes.toNat := by decide
  unfold inRange
  split
  · exact ⟨hCeiling, Nat.le_refl _⟩
  · omega

namespace Server

variable (config : ServerConfig)

def create (config : ServerConfig) : Server where
  config := config.inRange
  positive := config.inRange_bounds.1
  bounded := config.inRange_bounds.2

/- The limit as the session keeps it. -/
def limit (server : Server) : UInt32 :=
  UInt32.ofNat server.config.maxFramePayload

@[simp] theorem create_authToken : (create config).config.authToken = config.authToken := by
  unfold create ServerConfig.inRange
  split
  · rfl
  · rfl

@[simp] theorem create_requireAuth : (create config).config.requireAuth = config.requireAuth := by
  unfold create ServerConfig.inRange
  split
  · rfl
  · rfl

end Server

/- The difference of two texts, byte by byte. -/
def secretDifference : List UInt8 → List UInt8 → UInt8 → UInt8
| expected :: more, provided :: rest, difference =>
  secretDifference more rest (difference ||| (expected ^^^ provided))
| _, _, difference => difference

/- The length is compared first, the content to its end. -/
def secretMatches (expected provided : List UInt8) : Bool :=
  if expected.length ≠ provided.length then false
  else secretDifference expected provided 0 == 0

theorem secretDifference_eq_zero {expected provided : List UInt8} {difference : UInt8}
    (hLength : expected.length = provided.length) :
    secretDifference expected provided difference = 0 ↔ difference = 0 ∧ expected = provided := by
  induction expected generalizing provided difference with
  | nil =>
    cases provided with
    | nil => simp [secretDifference]
    | cons first rest => cases hLength
  | cons expected more ih =>
    cases provided with
    | nil => cases hLength
    | cons first rest =>
      rw [secretDifference, ih (Nat.succ.inj hLength), UInt8.or_eq_zero_iff,
        UInt8.xor_eq_zero_iff, List.cons.injEq, and_assoc]

theorem secretMatches_iff (expected provided : List UInt8) :
    secretMatches expected provided = true ↔ expected = provided := by
  unfold secretMatches
  by_cases hLength : expected.length = provided.length
  · rw [if_neg (not_not.mpr hLength), beq_iff_eq, secretDifference_eq_zero hLength]
    exact and_iff_right rfl
  · rw [if_pos hLength]
    constructor
    · intro hFalse
      cases hFalse
    · intro hSame
      exact (hLength (congrArg List.length hSame)).elim

/- Why a socket stops to deliver. -/
inductive SocketFault
| invalid
| waitFailed
| receiveFailed (reason : String)
deriving DecidableEq

/- What is still to arrive on a connection. -/
abbrev Incoming : Type :=
  List (Arrival UInt8 SocketFault)

/- The status of a read that did not fill its buffer. -/
def readStatus : ReadOutcome SocketFault → Status
| .elapsed => ⟨.notFound, "read wait elapsed"⟩
| .closed => ⟨.closed, "peer closed the connection"⟩
| .failed .invalid => ⟨.closed, "socket is closed"⟩
| .failed .waitFailed => ⟨.closed, "socket wait failed"⟩
| .failed (.receiveFailed reason) => ⟨.ioError, "receive failed: " ++ reason⟩
| .complete => ⟨.ok, ""⟩
| .waiting => ⟨.ok, ""⟩

/- What one pass of the loop has received. -/
inductive Receipt
| stopping
| elapsed
| broken (status : Status)
| waiting
| undecodable (status : Status)
| cutOff (status : Status)
| frame (header : FrameHeader) (payload : List UInt8)
deriving DecidableEq

/- A receipt that depends on when the stream arrives. -/
def Receipt.isInterrupted : Receipt → Bool
| .elapsed => true
| .broken _ => true
| .cutOff _ => true
| _ => false

/- A receipt, the bytes it took and what is left. -/
structure Reception where
  receipt : Receipt
  taken : List UInt8
  left : Incoming
deriving DecidableEq

/- Read the payload that a decoded header announces. -/
def receivePayload (header : FrameHeader) (taken : List UInt8) (arrivals : Incoming) : Reception :=
  let body := Arrival.readExact header.payloadLength.toNat arrivals
  match body.outcome with
  | .complete => ⟨.frame header body.taken, taken ++ body.taken, body.left⟩
  | .waiting => ⟨.waiting, taken ++ body.taken, body.left⟩
  | outcome => ⟨.cutOff (readStatus outcome), taken ++ body.taken, body.left⟩

/-
  Read a header, decode it, and read its payload. A wait
  that elapses on the header only begins the pass again,
  and what was read of the header until then is lost.
-/
def receive (maxPayload : UInt32) (arrivals : Incoming) : Reception :=
  let head := Arrival.readExact headerBytes arrivals
  match head.outcome with
  | .complete =>
    match decodeHeader head.taken maxPayload with
    | .error status => ⟨.undecodable status, head.taken, head.left⟩
    | .ok header => receivePayload header head.taken head.left
  | .waiting => ⟨.waiting, head.taken, head.left⟩
  | .elapsed => ⟨.elapsed, head.taken, head.left⟩
  | outcome => ⟨.broken (readStatus outcome), head.taken, head.left⟩

---
-- Sessions
---

/- What a handler is told of the session that calls it. -/
structure SessionContext where
  session : SessionId := .nil
  peer : PeerId := .nil
  peerName : List UInt8 := []
  peerBoot : BootId := .nil
  maxFramePayload : UInt32 := 0
deriving DecidableEq

structure Session where
  context : SessionContext := {}
  maxPayload : UInt32
  inboundSequence : UInt64 := 0
  outboundSequence : UInt64 := 0
  replays : UInt64 := 0
  handshaken : Bool := false
deriving DecidableEq

/- The surroundings of one pass of the loop. -/
structure Round where
  stopping : Bool := false
  session : SessionId := ⟨0, 1⟩
  peer : PeerId := ⟨0, 1⟩
  describeAuthority : HelloResponse → HelloResponse := fun response => response
  answer : Result (List UInt8) := .ok []
  written : Bool := true

/- What a pass does that can be seen from outside. -/
inductive SessionEvent
| replayed (header : FrameHeader)
| accepted (hello : HelloRequest)
| handled (context : SessionContext) (header : FrameHeader)
    (payload : List UInt8)
| sent (header : FrameHeader) (payload : List UInt8)
    (written : Bool)
| closed
deriving DecidableEq

/- A session as it starts. -/
def Server.opened (server : Server) : Session :=
  { maxPayload := server.limit }

/- The limit that a handshake settles on. -/
def Server.negotiated (server : Server) (hello : HelloRequest) : UInt32 :=
  let smaller := min server.limit hello.maxFramePayload
  if smaller = 0 then server.limit else smaller

namespace Session

/- The header of the next frame that is sent. -/
def outgoing (session : Session) (type : MessageType) (payload : List UInt8)
    (correlation : UInt64) : FrameHeader :=
  .describing type (session.outboundSequence + 1) correlation payload

/- The sequence is used up also when the write fails. -/
def send (round : Round) (type : MessageType) (payload : List UInt8) (correlation : UInt64)
    (session : Session) : SessionEvent × Session :=
  (.sent (session.outgoing type payload correlation) payload round.written, { session with
      outboundSequence := session.outboundSequence + 1 })

def sendError (round : Round) (code : StatusCode) (offending : MessageType) (detail : String)
    (correlation : UInt64) (session : Session) : SessionEvent × Session :=
  session.send round .errorResponse
    (ErrorResponse.payload
      { code
        offendingType := offending
        detail := textBytes detail })
    correlation

/- Send a frame and go on. -/
def following (before : List SessionEvent) (sent : SessionEvent × Session) :
    List SessionEvent × Option Session :=
  (before ++ [sent.1], some sent.2)

/- Send a frame and leave the loop. -/
def closing (before : List SessionEvent) (sent : SessionEvent × Session) :
    List SessionEvent × Option Session :=
  (before ++ [sent.1, .closed], none)

/- The state that an accepted handshake leads to. -/
def established (server : Server) (round : Round) (hello : HelloRequest) (session : Session) :
    Session :=
  { session with
    maxPayload := server.negotiated hello
    handshaken := true
    context :=
      { session := round.session
        peer := round.peer
        peerName := hello.peerName
        peerBoot := hello.clientBoot
        maxFramePayload := server.negotiated hello } }

/- The answer to an accepted handshake. -/
def greeting (server : Server) (round : Round) (hello : HelloRequest) : HelloResponse :=
  round.describeAuthority
    { session := round.session
      peer := round.peer
      maxFramePayload := server.negotiated hello
      serverVersion := versionString }

/-
  The body of a handshake, or the code of the error that
  answers it.
-/
def readHello (payload : List UInt8) : Except StatusCode HelloRequest :=
  match HelloRequest.decode (Reader.create payload maxFramePayloadBytes) with
  | (.error status, _) => .error status.code
  | (.ok hello, reader) =>
    match reader.finish with
    | .error _ => .error .trailingGarbage
    | .ok () => .ok hello

/- The first accepted frame has to be a handshake. -/
def greet (server : Server) (round : Round) (header : FrameHeader) (payload : List UInt8)
    (session : Session) : List SessionEvent × Option Session :=
  if header.type ≠ .helloRequest then
    closing [] (session.sendError round .notAuthorized header.type "session handshake is required"
      header.sequence)
  else
    match readHello payload with
    | .error code =>
      closing [] (session.sendError round code header.type "handshake body is not acceptable"
        header.sequence)
    | .ok hello =>
      if server.config.requireAuth && !secretMatches server.config.authToken hello.authToken then
        closing [] (session.sendError round .notAuthorized
          header.type "session secret was not accepted" header.sequence)
      else
        let sent :=
          (session.established server round hello).send round .helloResponse
            (greeting server round hello).payload header.sequence
        if round.written then following [.accepted hello] sent
        else closing [.accepted hello] sent

/- Later frames go to the handler. -/
def dispatch (round : Round) (header : FrameHeader) (payload : List UInt8) (session : Session) :
    List SessionEvent × Option Session :=
  if header.type = .helloRequest then
    following [] (session.sendError round .alreadyExists
      header.type "session is already established" header.sequence)
  else
    let handled : List SessionEvent := [.handled session.context header payload]
    match round.answer with
    | .error status =>
      following handled (session.sendError round status.code header.type status.message
        header.sequence)
    | .ok reply =>
      let replyType := header.type.responseTypeFor
      if replyType = .invalid then
        following handled (session.sendError round .unsupported header.type
          "message type has no response mapping" header.sequence)
      else
        let sent := session.send round replyType reply header.sequence
        if round.written then following handled sent
        else closing handled sent

/- A frame that was read to its end. -/
def judge (server : Server) (round : Round) (header : FrameHeader) (payload : List UInt8)
    (session : Session) : List SessionEvent × Option Session :=
  if crc32c payload ≠ header.payloadCrc32c then
    closing [] (session.sendError round .integrityMismatch
      header.type "frame payload checksum mismatch" header.sequence)
  else if header.sequence ≤ session.inboundSequence then
    let counted := { session with replays := session.replays + 1 }
    let sent := counted.sendError round .replayRejected header.type
      ("frame sequence is not greater than the last " ++ "accepted sequence") header.sequence
    if 8 < counted.replays then closing [.replayed header] sent
    else following [.replayed header] sent
  else
    let current := { session with inboundSequence := header.sequence }
    if !session.handshaken then current.greet server round header payload
    else current.dispatch round header payload

/- What a pass does with what it has received. -/
def process (server : Server) (round : Round) (session : Session) :
    Receipt → List SessionEvent × Option Session
| .stopping => ([.closed], none)
| .elapsed => ([], some session)
| .broken _ => ([.closed], none)
| .waiting => ([], none)
| .undecodable status => closing [] (session.sendError round status.code .invalid status.message 0)
| .cutOff _ => ([.closed], none)
| .frame header payload => session.judge server round header payload

end Session

/- One pass of the loop. -/
structure Pass where
  round : Round
  receipt : Receipt
  taken : List UInt8
  events : List SessionEvent

/- What a pass receives. -/
def Server.reception (round : Round) (session : Session) (arrivals : Incoming) : Reception :=
  if round.stopping then ⟨.stopping, [], arrivals⟩
  else receive session.maxPayload arrivals

/-
  The passes of the loop: as many as there are rounds,
  unless the session closes or waits for more to arrive.
-/
def Server.serve (server : Server) : List Round → Session → Incoming → List Pass
| [], _, _ => []
| round :: rounds, session, arrivals =>
  let reception := reception round session arrivals
  let result := session.process server round reception.receipt
  { round
    receipt := reception.receipt
    taken := reception.taken
    events := result.1 } ::
    match result.2 with
    | none => []
    | some next => serve server rounds next reception.left

---
-- What A Pass Can Do
---

namespace Session

/- The event of the next frame that is sent. -/
@[simp] def sent (round : Round) (type : MessageType) (payload : List UInt8) (correlation : UInt64)
    (session : Session) : SessionEvent :=
  .sent (session.outgoing type payload correlation) payload round.written

/- The state after a frame was numbered. -/
def numbered (session : Session) : Session :=
  { session with outboundSequence := session.outboundSequence + 1 }

/- A frame whose sequence is the last accepted one. -/
def advanced (header : FrameHeader) (session : Session) : Session :=
  { session with inboundSequence := header.sequence }

/- A frame that is neither damaged nor a replay. -/
structure Fresh (session : Session) (header : FrameHeader) (payload : List UInt8) : Prop where
  intact : crc32c payload = header.payloadCrc32c
  newer : session.inboundSequence < header.sequence

/- A handshake that opens the session. -/
structure Accepts
    (server : Server) (session : Session) (header : FrameHeader) (payload : List UInt8)
    (hello : HelloRequest) : Prop extends
    session.Fresh header payload where
  type : header.type = .helloRequest
  body : readHello payload = .ok hello
  secret : server.config.requireAuth = true → hello.authToken = server.config.authToken

/- A frame that goes to the handler. -/
structure Handles (session : Session) (header : FrameHeader) (payload : List UInt8) : Prop extends
    session.Fresh header payload where
  handshaken : session.handshaken = true
  type : header.type ≠ .helloRequest

/- What a handled frame is answered with. -/
inductive Answers (round : Round) (header : FrameHeader) :
    MessageType → List UInt8 → Prop
| error (body : ErrorResponse) : Answers round header .errorResponse body.payload
| reply {payload : List UInt8} (hAnswer : round.answer = .ok payload)
    (hMapped : header.type.responseTypeFor ≠ .invalid) :
    Answers round header header.type.responseTypeFor payload

end Session

open Session in
/- Everything that one pass can do. -/
inductive Turn (server : Server) (round : Round) (session : Session) :
    Receipt → List SessionEvent → Option Session → Prop
| elapsed : Turn server round session .elapsed [] (some session)
| waiting : Turn server round session .waiting [] none
| stopping : Turn server round session .stopping [.closed] none
| broken {status : Status} : Turn server round session (.broken status) [.closed] none
| cutOff {status : Status} : Turn server round session (.cutOff status) [.closed] none
| undecodable {status : Status} (body : ErrorResponse) :
    Turn server round session (.undecodable status)
      [session.sent round .errorResponse body.payload 0, .closed] none
| refused {header : FrameHeader} {payload : List UInt8} (body : ErrorResponse) :
    Turn server round session (.frame header payload)
      [session.sent round .errorResponse body.payload header.sequence, .closed] none
| replayed {header : FrameHeader} {payload : List UInt8} (body : ErrorResponse)
    (hFew : ¬ 8 < session.replays + 1) :
    Turn server round session (.frame header payload)
      [.replayed header, session.sent round .errorResponse body.payload header.sequence]
      (some { session.numbered with replays := session.replays + 1 })
| exhausted {header : FrameHeader} {payload : List UInt8} (body : ErrorResponse)
    (hMany : 8 < session.replays + 1) :
    Turn server round session (.frame header payload)
      [.replayed header,
        session.sent round .errorResponse body.payload header.sequence, .closed] none
| greeted {header : FrameHeader} {payload : List UInt8} {hello : HelloRequest}
    (hAccepts : Accepts server session header payload hello) :
    Turn server round session (.frame header payload)
      [.accepted hello,
        session.sent round .helloResponse (greeting server round hello).payload header.sequence]
      (some ((session.advanced header).established server round hello).numbered)
| ungreeted {header : FrameHeader} {payload : List UInt8} {hello : HelloRequest}
    (hAccepts : Accepts server session header payload hello) :
    Turn server round session (.frame header payload)
      [.accepted hello,
        session.sent round .helloResponse (greeting server round hello).payload
          header.sequence, .closed] none
| repeated {header : FrameHeader} {payload : List UInt8} (body : ErrorResponse)
    (hFresh : session.Fresh header payload) (hHandshaken : session.handshaken = true) :
    Turn server round session (.frame header payload)
      [session.sent round .errorResponse body.payload header.sequence]
      (some (session.advanced header).numbered)
| answered {header : FrameHeader} {payload reply : List UInt8} {type : MessageType}
    (hHandles : session.Handles header payload) (hReply : Answers round header type reply) :
    Turn server round session (.frame header payload)
      [.handled session.context header payload, session.sent round type reply header.sequence]
      (some (session.advanced header).numbered)
| unanswered {header : FrameHeader} {payload reply : List UInt8} {type : MessageType}
    (hHandles : session.Handles header payload) (hReply : Answers round header type reply) :
    Turn server round session (.frame header payload)
      [.handled session.context header payload,
        session.sent round type reply header.sequence,
        .closed] none

namespace Session

variable {server : Server} {round : Round} {session : Session} {header : FrameHeader}
variable {payload : List UInt8}

theorem greet_turn (hFresh : session.Fresh header payload) :
    Turn server round session (.frame header payload)
      ((session.advanced header).greet server round header payload).1
      ((session.advanced header).greet server round header payload).2 := by
  unfold greet
  by_cases hType : header.type = .helloRequest
  · rw [if_neg (not_not.mpr hType)]
    cases hBody : readHello payload with
    | error code => exact .refused _
    | ok hello =>
      simp only
      split
      · exact .refused _
      · rename_i hSecret
        have hAccepts : Accepts server session header payload hello := by
          refine ⟨hFresh, hType, hBody, ?_⟩
          intro hAuth
          rw [hAuth, Bool.true_and, Bool.not_eq_true',
            Bool.not_eq_false, secretMatches_iff] at hSecret
          exact hSecret.symm
        split
        · exact .greeted hAccepts
        · exact .ungreeted hAccepts
  · rw [if_pos hType]
    exact .refused _

theorem dispatch_turn (hFresh : session.Fresh header payload)
    (hHandshaken : session.handshaken = true) :
    Turn server round session (.frame header payload)
      ((session.advanced header).dispatch round header payload).1
      ((session.advanced header).dispatch round header payload).2 := by
  unfold dispatch
  by_cases hType : header.type = .helloRequest
  · rw [if_pos hType]
    exact .repeated _ hFresh hHandshaken
  · rw [if_neg hType]
    have hHandles : session.Handles header payload := ⟨hFresh, hHandshaken, hType⟩
    cases hAnswer : round.answer with
    | error status => exact .answered hHandles (.error _)
    | ok reply =>
      simp only
      split
      · exact .answered hHandles (.error _)
      · rename_i hMapped
        split
        · exact .answered hHandles (.reply hAnswer hMapped)
        · exact .unanswered hHandles (.reply hAnswer hMapped)

theorem judge_turn (server : Server) (round : Round) (header : FrameHeader) (payload : List UInt8)
    (session : Session) :
    Turn server round session (.frame header payload) (session.judge server round header payload).1
      (session.judge server round header payload).2 := by
  unfold judge
  by_cases hCrc : crc32c payload = header.payloadCrc32c
  · rw [if_neg (not_not.mpr hCrc)]
    by_cases hOld : header.sequence ≤ session.inboundSequence
    · rw [if_pos hOld]
      simp only
      split
      · rename_i hMany
        exact .exhausted _ hMany
      · rename_i hFew
        exact .replayed _ hFew
    · rw [if_neg hOld]
      have hFresh : session.Fresh header payload := ⟨hCrc, UInt64.not_le.mp hOld⟩
      split
      · exact greet_turn hFresh
      · rename_i hOpen
        have hHandshaken : session.handshaken = true := by
          rw [Bool.not_eq_true', Bool.not_eq_false] at hOpen
          exact hOpen
        exact dispatch_turn hFresh hHandshaken
  · rw [if_pos hCrc]
    exact .refused _

theorem process_turn (server : Server) (round : Round) (session : Session) (receipt : Receipt) :
    Turn server round session receipt (session.process server round receipt).1
      (session.process server round receipt).2 := by
  cases receipt with
  | stopping => exact .stopping
  | elapsed => exact .elapsed
  | broken status => exact .broken
  | waiting => exact .waiting
  | undecodable status => exact .undecodable _
  | cutOff status => exact .cutOff
  | frame header payload => exact judge_turn server round header payload session

end Session

/- The passes of a loop that starts in a state. -/
inductive Served (server : Server) :
    Session → List Pass → Prop
| nothing (session : Session) : Served server session []
| last {session : Session} {pass : Pass}
    (hTurn : Turn server pass.round session pass.receipt pass.events none) :
    Served server session [pass]
| again {session next : Session} {pass : Pass} {passes : List Pass}
    (hTurn : Turn server pass.round session pass.receipt pass.events (some next))
    (hRest : Served server next passes) : Served server session (pass :: passes)

theorem Server.serve_served (server : Server) (rounds : List Round) (session : Session)
    (arrivals : Incoming) : Served server session (server.serve rounds session arrivals) := by
  induction rounds generalizing session arrivals with
  | nil => exact .nothing session
  | cons round rounds ih =>
    have hTurn := session.process_turn server round (reception round session arrivals).receipt
    rw [serve]
    split
    · rename_i hNext
      rw [hNext] at hTurn
      exact .last hTurn
    · rename_i next hNext
      rw [hNext] at hTurn
      exact .again hTurn (ih next _)

namespace SessionEvent

@[simp] def isReplay : SessionEvent → Bool
| .replayed _ => true
| .accepted _ => false
| .handled _ _ _ => false
| .sent _ _ _ => false
| .closed => false

@[simp] def handled? : SessionEvent → Option FrameHeader
| .replayed _ => none
| .accepted _ => none
| .handled _ header _ => some header
| .sent _ _ _ => none
| .closed => none

@[simp] def sent? : SessionEvent → Option (FrameHeader × List UInt8)
| .replayed _ => none
| .accepted _ => none
| .handled _ _ _ => none
| .sent header payload _ => some (header, payload)
| .closed => none

end SessionEvent

namespace Pass

def isReplay (pass : Pass) : Bool :=
  pass.events.any SessionEvent.isReplay

def handled (pass : Pass) : List FrameHeader :=
  pass.events.filterMap SessionEvent.handled?

def sent (pass : Pass) : List (FrameHeader × List UInt8) :=
  pass.events.filterMap SessionEvent.sent?

end Pass

/-
  The frames of a pass: type, body and correlation. The
  correlation is the sequence of the frame that is
  answered, as far as it could be decoded.
-/
inductive Sends (pass : Pass) :
    MessageType → List UInt8 → UInt64 → Prop
| undecodable {status : Status} (hReceipt : pass.receipt = .undecodable status)
    (body : ErrorResponse) : Sends pass .errorResponse body.payload 0
| error {header : FrameHeader} {payload : List UInt8}
    (hReceipt : pass.receipt = .frame header payload) (body : ErrorResponse) :
    Sends pass .errorResponse body.payload header.sequence
| greeting {header : FrameHeader} {payload : List UInt8}
    (hReceipt : pass.receipt = .frame header payload) (body : HelloResponse) :
    Sends pass .helloResponse body.payload header.sequence
| reply {header : FrameHeader} {payload answer : List UInt8}
    (hReceipt : pass.receipt = .frame header payload) (hHandled : pass.handled = [header])
    (hAnswer : pass.round.answer = .ok answer) (hMapped : header.type.responseTypeFor ≠ .invalid) :
    Sends pass header.type.responseTypeFor answer header.sequence

namespace Turn

variable {server : Server} {session : Session} {next : Option Session} {pass : Pass}

/- A pass sends at most one frame. -/
theorem sent_cases (hTurn : Turn server pass.round session pass.receipt pass.events next) :
    pass.sent = [] ∨
      ∃ type payload correlation,
        pass.sent = [(session.outgoing type payload correlation, payload)] ∧
          Sends pass type payload correlation := by
  rcases pass with ⟨round, receipt, taken, events⟩
  change Turn server round session receipt events next at hTurn
  cases hTurn with
  | undecodable body => exact .inr ⟨_, _, _, rfl, .undecodable rfl body⟩
  | refused body | replayed body | exhausted body | repeated body =>
    exact .inr ⟨_, _, _, rfl, .error rfl body⟩
  | greeted | ungreeted => exact .inr ⟨_, _, _, rfl, .greeting rfl _⟩
  | answered _ hReply | unanswered _ hReply =>
    cases hReply with
    | error body => exact .inr ⟨_, _, _, rfl, .error rfl body⟩
    | reply hAnswer hMapped => exact .inr ⟨_, _, _, rfl, .reply rfl rfl hAnswer hMapped⟩
  | _ => exact .inl rfl

/- A handshake is not handled. -/
theorem handled_of_accepted {hello : HelloRequest}
    (hTurn : Turn server pass.round session pass.receipt pass.events next)
    (hAccepted : .accepted hello ∈ pass.events) : pass.handled = [] := by
  rcases pass with ⟨round, receipt, taken, events⟩
  change Turn server round session receipt events next at hTurn
  cases hTurn with
  | greeted | ungreeted => rfl
  | _ => simp at hAccepted

end Turn

def sampleServer : ServerConfig :=
  { authToken := textBytes "s" }

/- A handshake that the sample server accepts. -/
def sampleHello (maxFramePayload : UInt32) : List UInt8 :=
  (HelloRequest.encode {}
    { peerName := textBytes "p"
      authToken := textBytes "s"
      clientBoot := ⟨0, 7⟩
      maxFramePayload }).buffer

/- A frame that a client writes. -/
def sampleFrame (type : MessageType) (sequence : UInt64) (payload : List UInt8) : List UInt8 :=
  encodeFrame (.describing type sequence 0 payload) payload

end TrafficFabric
