import TrafficFabric.Wire.Framing
import TrafficFabric.Wire.Safety

/-
  The client: an exchange sends a request and returns the
  next frame of the expected type.

  An exchange that gives up waiting leaves its response on
  the connection, and the next exchange reads it. Nothing
  compares the correlation of a frame with a request.

  Main declarations:
    * `Client.exchange`
    * `Link`
    * `Link.responses_correlated`
    * `Link.late_response_returned`
-/

namespace TrafficFabric

open List

structure Client where
  connected : Bool := true
  maxFramePayload : UInt32 := 256 * 1024
  sendSequence : UInt64 := 0
  lastReceivedSequence : UInt64 := 0
  framesSent : UInt64 := 0
  framesReceived : UInt64 := 0
deriving DecidableEq

/-
  What an exchange returns: the payload of its response, an
  error that the server reported, or a failure of its own.
-/
inductive ExchangeResult
| payload (bytes : List UInt8)
| serverError (code : StatusCode) (detail : List UInt8)
| failed (status : Status)
deriving DecidableEq

/-
  A request, why its write fails if it does, and what
  arrives until the exchange ends.
-/
structure Exchange where
  type : MessageType
  payload : List UInt8 := []
  fault : Option String := none
  window : Incoming := []

/-
  An exchange from outside: the header of the request if it
  was written, the frame that was read, and the result.
-/
structure Dialogue where
  request : Option FrameHeader
  reply : Option (FrameHeader × List UInt8)
  result : ExchangeResult
deriving DecidableEq

namespace Client

def sendFrameRaw (type : MessageType) (payload : List UInt8) (sequence correlation : UInt64)
    (fault : Option String) (client : Client) : Result FrameHeader × Client :=
  if !client.connected then (.failure .closed "client is not connected", client)
  else if client.maxFramePayload.toNat < payload.length then
    (.failure .boundsExceeded "payload exceeds the negotiated frame limit", client)
  else
    match fault with
    | some reason => (.failure .ioError ("send failed: " ++ reason), client)
    | none =>
      (.ok (.describing type sequence correlation payload), { client with
          framesSent := client.framesSent + 1 })

/- The sequence is used up also when nothing is sent. -/
def sendFrame (type : MessageType) (payload : List UInt8) (fault : Option String)
    (client : Client) : Result FrameHeader × Client :=
  sendFrameRaw type payload (client.sendSequence + 1) 0 fault
    { client with sendSequence := client.sendSequence + 1 }

/- The error that a response reports. -/
def readError (payload : List UInt8) : ExchangeResult :=
  match ErrorResponse.decode (Reader.create payload maxFramePayloadBytes) with
  | (.error status, _) => .failed status
  | (.ok error, _) => .serverError error.code error.detail

/- What becomes of a frame that was read. -/
def judge (expected : MessageType) (header : FrameHeader) (payload : List UInt8) (client : Client) :
    ExchangeResult × Client :=
  if crc32c payload ≠ header.payloadCrc32c then
    (.failed ⟨.integrityMismatch, "frame payload checksum mismatch"⟩, client)
  else if header.sequence ≤ client.lastReceivedSequence then
    (.failed ⟨.replayRejected, "server frame sequence is not strictly increasing"⟩, client)
  else
    let received := { client with
        lastReceivedSequence := header.sequence
        framesReceived := client.framesReceived + 1 }
    if header.type = .errorResponse then (readError payload, received)
    else if header.type ≠ expected then
      (.failed ⟨.malformedInput, "server responded with an unexpected message type"⟩, received)
    else (.payload payload, received)

/- How an exchange ends, and the state it leaves. -/
structure Ended where
  dialogue : Dialogue
  client : Client
  left : Incoming
deriving DecidableEq

/-
  Read one frame. There is no result as long as the client
  waits.
-/
def receiveFrame (request : FrameHeader) (expected : MessageType) (arrivals : Incoming)
    (client : Client) : Option Ended :=
  let reception := receive client.maxFramePayload arrivals
  let failure := fun status left =>
    some
      { dialogue := ⟨some request, none, .failed status⟩
        client
        left := left : Ended }
  if !client.connected then failure ⟨.closed, "client is not connected"⟩ arrivals
  else
    match reception.receipt with
    | .stopping => none
    | .waiting => none
    | .elapsed => failure (readStatus .elapsed) reception.left
    | .broken status => failure status reception.left
    | .undecodable status => failure status reception.left
    | .cutOff status => failure status reception.left
    | .frame header payload =>
      let admitted := client.judge expected header payload
      some
        { dialogue :=
            ⟨some request, some (header, payload), admitted.1⟩
          client := admitted.2
          left := reception.left }

/- Send a request and return the next frame. -/
def exchange (exchange : Exchange) (arrivals : Incoming) (client : Client) : Option Ended :=
  let expected := exchange.type.responseTypeFor
  if expected = .invalid then
    some
      { dialogue :=
          ⟨none, none, .failed ⟨.invalidArgument, "message type has no response mapping"⟩⟩
        client
        left := arrivals }
  else
    match client.sendFrame exchange.type exchange.payload exchange.fault with
    | (.error status, next) =>
      some
        { dialogue := ⟨none, none, .failed status⟩
          client := next
          left := arrivals }
    | (.ok request, next) => next.receiveFrame request expected arrivals

end Client

/-
  A frame that a conforming server answers a request with:
  it names the request, and its header describes it.
-/
structure AnswersTo (request : FrameHeader) (frame : FrameHeader × List UInt8) : Prop where
  correlation : frame.1.correlation = request.sequence
  type : frame.1.type.Canonical
  length : frame.1.payloadLength.toNat = frame.2.length

def responseBytes : Option (FrameHeader × List UInt8) → List UInt8
| none => []
| some frame => encodeFrame frame.1 frame.2

/-
  A client, what has arrived but was not read, and what was
  sent to it but has not arrived.
-/
structure Link where
  client : Client
  arrivals : Incoming := []
  pending : List UInt8 := []

/- Nothing is under way. -/
structure Link.Quiet (link : Link) : Prop where
  arrivals : Arrival.flow link.arrivals = []
  pending : link.pending = []

/-
  One exchange. The server answers the request, if it was
  written, with one frame or not at all; what arrives until
  the exchange ends is some of what was sent by then.
-/
inductive Link.Exchanges :
    Link → Dialogue → Link → Prop
| exchange {link : Link} {ended : Client.Ended}
    (exchange : Exchange) (response : Option (FrameHeader × List UInt8)) (later : List UInt8)
    (hEnded : link.client.exchange exchange (link.arrivals ++ exchange.window) = some ended)
    (hResponse :
      ∀ frame,
        response = some frame →
        ∃ request, ended.dialogue.request = some request ∧ AnswersTo request frame)
    (hArrives : link.pending ++ responseBytes response = Arrival.flow exchange.window ++ later) :
    Exchanges link ended.dialogue
      { client := ended.client
        arrivals := ended.left
        pending := later }

namespace Client

/- Everything that an exchange can end with. -/
inductive Ends (arrivals : Incoming) :
    Ended → Prop
| unsent {client : Client} (status : Status) :
    Ends arrivals ⟨⟨none, none, .failed status⟩, client, arrivals⟩
| unread {client : Client} {left : Incoming} (request : FrameHeader) (status : Status) :
    Ends arrivals ⟨⟨some request, none, .failed status⟩, client, left⟩
| read {limit : UInt32} {header : FrameHeader} {payload : List UInt8}
    (client : Client) (expected : MessageType) (request : FrameHeader)
    (hReceipt : (receive limit arrivals).receipt = .frame header payload) :
    Ends arrivals
      ⟨⟨some request, some (header, payload), (client.judge expected header payload).1⟩,
        (client.judge expected header payload).2, (receive limit arrivals).left⟩

variable {client : Client} {arrivals : Incoming} {ended : Ended}

theorem receiveFrame_ends {request : FrameHeader} {expected : MessageType}
    (hEnded : client.receiveFrame request expected arrivals = some ended) :
    Ends arrivals ended := by
  unfold receiveFrame at hEnded
  simp only at hEnded
  split at hEnded
  · cases hEnded
    exact .unread request _
  · split at hEnded
    · cases hEnded
    · cases hEnded
    · cases hEnded
      exact .unread request _
    · cases hEnded
      exact .unread request _
    · cases hEnded
      exact .unread request _
    · cases hEnded
      exact .unread request _
    · rename_i hReceipt
      cases hEnded
      exact .read client expected request hReceipt

theorem exchange_ends {exchange : Exchange}
    (hEnded : client.exchange exchange arrivals = some ended) : Ends arrivals ended := by
  unfold Client.exchange at hEnded
  simp only at hEnded
  split at hEnded
  · cases hEnded
    exact .unsent _
  · split at hEnded
    · cases hEnded
      exact .unsent _
    · exact receiveFrame_ends hEnded

end Client

def ExchangeResult.CarriedBy (frame : FrameHeader × List UInt8) : ExchangeResult → Prop
| .payload bytes => frame.2 = bytes
| .serverError code detail =>
  frame.1.type = .errorResponse ∧ Client.readError frame.2 = .serverError code detail
| .failed _ => False

/- A result that is not a failure is that of the frame. -/
theorem Client.judge_carriedBy
    (expected : MessageType) (header : FrameHeader) (payload : List UInt8) (client : Client)
    (hReturned : ∀ status, (client.judge expected header payload).1 ≠ .failed status) :
    (client.judge expected header payload).1.CarriedBy (header, payload) := by
  unfold judge at hReturned ⊢
  by_cases hCrc : crc32c payload = header.payloadCrc32c
  · rw [if_neg (not_not.mpr hCrc)] at hReturned ⊢
    by_cases hOld : header.sequence ≤ client.lastReceivedSequence
    · rw [if_pos hOld] at hReturned
      exact (hReturned _ rfl).elim
    · rw [if_neg hOld] at hReturned ⊢
      by_cases hError : header.type = .errorResponse
      · simp only [if_pos hError] at hReturned ⊢
        cases hRead : readError payload with
        | payload bytes =>
          unfold readError at hRead
          split at hRead <;> cases hRead
        | serverError code detail => exact ⟨hError, hRead⟩
        | failed status => exact (hReturned _ hRead).elim
      · simp only [if_neg hError] at hReturned ⊢
        by_cases hType : header.type = expected
        · rw [if_neg (not_not.mpr hType)]
          rfl
        · rw [if_pos hType] at hReturned
          exact (hReturned _ rfl).elim
  · rw [if_pos hCrc] at hReturned
    exact (hReturned _ rfl).elim

---
-- Responses
---

open Arrival

namespace Link

variable {link next : Link} {dialogue : Dialogue}
variable (sequence : UInt64)

theorem response_of_read {limit : UInt32} {arrivals : Incoming} {header request : FrameHeader}
    {payload later : List UInt8} {response : Option (FrameHeader × List UInt8)}
    (hReceipt : (receive limit arrivals).receipt = .frame header payload)
    (hResponse : ∀ frame, response = some frame → AnswersTo request frame)
    (hArrives : responseBytes response = flow arrivals ++ later) :
    header.correlation = request.sequence ∧
      flow (receive limit arrivals).left = [] ∧ later = [] := by
  rcases receive_frame hReceipt with ⟨head, hTaken, hHead, hHeader, hPayload⟩
  have hFlow := receive_flow limit arrivals
  rw [hTaken] at hFlow
  rw [← hFlow] at hArrives
  cases response with
  | none =>
    have hPositive : 0 < headerBytes := by decide
    have hShort := congrArg List.length hArrives
    simp only [responseBytes, length_nil, length_append, hHead] at hShort
    omega
  | some frame =>
    have hAnswers := hResponse frame rfl
    simp only [responseBytes, encodeFrame, append_assoc] at hArrives
    rcases append_inj hArrives ((length_encodeHeader frame.1).trans hHead.symm)
      with ⟨hEncoded, hBody⟩
    rw [← hEncoded, ofBytes_encodeHeader hAnswers.type] at hHeader
    subst hHeader
    have hLength := congrArg List.length hBody
    rw [length_append, length_append, hPayload, hAnswers.length] at hLength
    refine ⟨hAnswers.correlation, ?_, ?_⟩
    · exact length_eq_zero_iff.mp (by omega)
    · exact length_eq_zero_iff.mp (by omega)

/-
  An exchange that begins with nothing under way reads its
  own response, and then nothing is under way.
-/
theorem Exchanges.of_quiet (hStep : Exchanges link dialogue next) (hQuiet : link.Quiet) :
    (dialogue.request = none → next.Quiet) ∧ ∀ frame, dialogue.reply = some frame →
        next.Quiet ∧
          ∃ request, dialogue.request = some request ∧ frame.1.correlation = request.sequence := by
  rcases hStep with ⟨exchange, response, later, hEnded, hResponse, hArrives⟩
  have hFlow : flow (link.arrivals ++ exchange.window) = flow exchange.window := by
    rw [flow_append, hQuiet.arrivals, nil_append]
  rw [hQuiet.pending, nil_append, ← hFlow] at hArrives
  cases Client.exchange_ends hEnded with
  | unsent status =>
    refine ⟨?_, by simp⟩
    intro _
    cases response with
    | none =>
      rcases append_eq_nil_iff.mp hArrives.symm with ⟨hArrived, hLater⟩
      exact ⟨hArrived, hLater⟩
    | some frame =>
      rcases hResponse frame rfl with ⟨request, hRequest, -⟩
      cases hRequest
  | unread request status => exact ⟨by simp, by simp⟩
  | read client expected request hReceipt =>
    refine ⟨by simp, ?_⟩
    intro frame hFrame
    cases hFrame
    have hOwn : ∀ frame,
        response = some frame → AnswersTo request frame := by
      intro frame hSome
      rcases hResponse frame hSome with ⟨same, hSame, hAnswers⟩
      cases hSame
      exact hAnswers
    rcases response_of_read hReceipt hOwn hArrives with ⟨hCorrelation, hLeft, hLater⟩
    exact ⟨⟨hLeft, hLater⟩, request, rfl, hCorrelation⟩

/- Exchanges that read their responses keep a link quiet. -/
theorem quiet_of_run {start : Link} {before : List Dialogue}
    (hRun : Run Exchanges start before link) (hStart : start.Quiet)
    (hSettled : ∀ earlier ∈ before, earlier.request ≠ none → earlier.reply ≠ none) :
    link.Quiet := by
  induction hRun with
  | nil => exact hStart
  | @cons start middle final first rest hStep _ ih =>
    have hMiddle : middle.Quiet := by
      rcases hStep.of_quiet hStart with ⟨hNone, hRead⟩
      by_cases hRequest : first.request = none
      · exact hNone hRequest
      · have hReply := hSettled first mem_cons_self hRequest
        rcases Option.ne_none_iff_exists'.mp hReply with ⟨frame, hFrame⟩
        exact (hRead frame hFrame).1
    exact ih hMiddle (fun earlier hMem => hSettled earlier (mem_cons_of_mem first hMem))

/-
  As long as every exchange before it has read the response
  to its request, an exchange returns what the frame that
  names its own request carries.
-/
theorem responses_correlated {start middle final : Link} {before : List Dialogue}
    (hStart : start.Quiet) (hBefore : Run Exchanges start before middle)
    (hStep : Exchanges middle dialogue final)
    (hSettled : ∀ earlier ∈ before, earlier.request ≠ none → earlier.reply ≠ none)
    (hReturned : ∀ status, dialogue.result ≠ .failed status) :
    ∃ frame request,
      dialogue.reply = some frame ∧
        dialogue.result.CarriedBy frame ∧ dialogue.request = some request ∧
        frame.1.correlation = request.sequence := by
  have hQuiet := quiet_of_run hBefore hStart hSettled
  have hRead := (hStep.of_quiet hQuiet).2
  rcases hStep with ⟨exchange, response, later, hEnded, hResponse, hArrives⟩
  cases Client.exchange_ends hEnded with
  | unsent status | unread _ status => exact (hReturned status rfl).elim
  | read client expected request hReceipt =>
    rcases hRead _ rfl with ⟨-, same, hSame, hCorrelation⟩
    exact ⟨_, same, rfl, Client.judge_carriedBy _ _ _ _ hReturned, hSame, hCorrelation⟩

/- A link after the handshake. -/
def sampleLink : Link :=
  { client :=
      { sendSequence := 1
        lastReceivedSequence := 1 } }

/- A heartbeat that a client sends. -/
def sampleBeat (sequence : UInt64) : FrameHeader :=
  .describing .heartbeat sequence 0 []

/- How a server answers a heartbeat. -/
def sampleAck (sequence : UInt64) (answer : List UInt8) : FrameHeader × List UInt8 :=
  (.describing .heartbeatAck sequence sequence answer, answer)

theorem sampleAck_answers (answer : List UInt8) (hSize : answer.length < 2 ^ 32) :
    AnswersTo (sampleBeat sequence) (sampleAck sequence answer) :=
  ⟨rfl, rfl, UInt32.toNat_ofNat_of_lt' hSize⟩

/- An exchange whose response arrives in time. -/
def promptEnded (sequence : UInt64) : Client.Ended :=
  { dialogue :=
      ⟨some (sampleBeat sequence), some (sampleAck sequence [1]), .payload [1]⟩
    client :=
      { sendSequence := sequence
        lastReceivedSequence := sequence
        framesSent := sequence - 1
        framesReceived := sequence - 1 }
    left := [] }

def promptExchange (sequence : UInt64) : Exchange where
  type := .heartbeat
  window := [.chunk (responseBytes (some (sampleAck sequence [1])))]

theorem exchanges_prompt {client : Client}
    (hEnded :
      client.exchange (promptExchange sequence) (promptExchange sequence).window =
        some (promptEnded sequence)) :
    Exchanges ⟨client, [], []⟩ (promptEnded sequence).dialogue
      ⟨(promptEnded sequence).client, [], []⟩ := by
  refine .exchange (promptExchange sequence) (some (sampleAck sequence [1])) [] hEnded ?_ ?_
  · rintro frame hFrame
    cases hFrame
    exact ⟨sampleBeat sequence, rfl, sampleAck_answers sequence [1] (by decide)⟩
  · simp [promptExchange, flow]

/- The second of two exchanges that are answered in time. -/
theorem responses_correlated_prompt :
    ∃ frame request,
      (promptEnded 3).dialogue.reply = some frame ∧
        (promptEnded 3).dialogue.result.CarriedBy frame ∧
        (promptEnded 3).dialogue.request = some request ∧
        frame.1.correlation = request.sequence := by
  have hFirst : Run Exchanges sampleLink [(promptEnded 2).dialogue] _ :=
    Run.single (exchanges_prompt 2 (by decide +kernel))
  refine responses_correlated ⟨rfl, rfl⟩ hFirst (exchanges_prompt 3 (by decide +kernel)) ?_
    (by rintro _ ⟨⟩)
  intro earlier hEarlier _
  rw [mem_singleton.mp hEarlier]
  exact Option.some_ne_none _

/- An exchange that stops waiting for its response. -/
def timedOutEnded : Client.Ended :=
  { dialogue :=
      ⟨some (sampleBeat 2), none, .failed (readStatus .elapsed)⟩
    client :=
      { sendSequence := 2
        lastReceivedSequence := 1
        framesSent := 1 }
    left := [] }

/- The next exchange, which reads that response. -/
def lateEnded : Client.Ended :=
  { dialogue :=
      ⟨some (sampleBeat 3), some (sampleAck 2 [1]), .payload [1]⟩
    client :=
      { sendSequence := 3
        lastReceivedSequence := 2
        framesSent := 2
        framesReceived := 1 }
    left := [] }

/- The session that answers both heartbeats. -/
def sampleSession : List Pass :=
  (Server.create sampleServer).serve [{}, { answer := .ok [1] }, { answer := .ok [2] }]
    (Server.create sampleServer).opened
    (gathered
      (sampleFrame .helloRequest 1 (sampleHello 65536) ++ encodeFrame (sampleBeat 2) [] ++
        encodeFrame (sampleBeat 3) []))

/-
  The session of a server is a conforming one: whatever
  arrives, a frame is answered at most once, by a frame of a
  known type that names it.
-/
theorem serve_conforms
    (server : Server) (rounds : List Round) (session : Session) (arrivals : Incoming) :
    ∀ pass ∈ server.serve rounds session arrivals,
      ∀ request payload,
        pass.receipt = .frame request payload →
        pass.sent.length ≤ 1 ∧
          ∀ frame ∈ pass.sent,
            frame.1.correlation = request.sequence ∧
              frame.1.type.isKnownMessageType = true ∧
              (frame.2.length < 2 ^ 32 → AnswersTo request frame) := by
  intro pass hPass request payload hReceipt
  rcases append_of_mem hPass with ⟨before, after, hSplit⟩
  have hServed := server.serve_served rounds session arrivals
  rw [hSplit] at hServed
  rcases hServed.split with ⟨middle, next, -, hTurn, -⟩
  rcases hTurn.sent_cases with hNone | ⟨type, body, correlation, hOne, hSends⟩
  · simp [hNone]
  · refine ⟨by simp [hOne], ?_⟩
    intro frame hSent
    rw [hOne, mem_singleton] at hSent
    subst hSent
    cases hSends with
    | undecodable hOther => cases hReceipt.symm.trans hOther
    | error hOther | greeting hOther =>
      cases hReceipt.symm.trans hOther
      exact ⟨rfl, rfl, fun hSize => ⟨rfl, rfl, UInt32.toNat_ofNat_of_lt' hSize⟩⟩
    | reply hOther _ _ hMapped =>
      cases hReceipt.symm.trans hOther
      exact ⟨rfl, MessageType.isKnownMessageType_responseTypeFor hMapped,
        fun hSize => ⟨rfl, by cases request.type <;> rfl, UInt32.toNat_ofNat_of_lt' hSize⟩⟩

theorem serve_conforms_heartbeat :
    ∃ pass ∈ sampleSession, ∃ frame ∈ pass.sent,
      frame.1.type.isKnownMessageType = true ∧ AnswersTo (sampleBeat 2) frame := by
  have hBeat : ∃ pass ∈ sampleSession, pass.receipt = .frame (sampleBeat 2) [] ∧
      pass.sent = [sampleAck 2 [1]] := by
    decide +kernel
  rcases hBeat with ⟨pass, hPass, hReceipt, hSent⟩
  have hAck : sampleAck 2 [1] ∈ pass.sent := hSent ▸ mem_singleton_self _
  rcases (serve_conforms _ _ _ _ pass hPass _ _ hReceipt).2 _ hAck with ⟨-, hKnown, hAnswers⟩
  exact ⟨pass, hPass, _, hAck, hKnown, hAnswers (by decide)⟩

/-
  The response to a heartbeat arrives late, and is returned
  as the answer to the next heartbeat.
-/
theorem late_response_returned :
    (sampleSession.flatMap Pass.sent).drop 1 = [sampleAck 2 [1], sampleAck 3 [2]] ∧
      ∃ middle final,
        sampleLink.Quiet ∧
          Exchanges sampleLink timedOutEnded.dialogue middle ∧
          Exchanges middle lateEnded.dialogue final ∧ lateEnded.dialogue.result = .payload [1] ∧
          lateEnded.dialogue.reply = some (sampleAck 2 [1]) ∧
          lateEnded.dialogue.request = some (sampleBeat 3) ∧
          (sampleAck 2 [1]).1.correlation ≠ (sampleBeat 3).sequence := by
  refine ⟨by decide +kernel,
    ⟨timedOutEnded.client, timedOutEnded.left, responseBytes (some (sampleAck 2 [1]))⟩,
    ⟨lateEnded.client, lateEnded.left, responseBytes (some (sampleAck 3 [2]))⟩,
    ⟨rfl, rfl⟩, ?_, ?_, rfl, rfl, rfl, by decide⟩
  · refine .exchange
      { type := .heartbeat
        window := [.elapsed] }
      (some (sampleAck 2 [1])) _ ?_ ?_ ?_
    · decide +kernel
    · rintro frame hFrame
      cases hFrame
      exact ⟨sampleBeat 2, rfl, sampleAck_answers 2 [1] (by decide)⟩
    · rfl
  · refine .exchange
      { type := .heartbeat
        window := [.chunk (responseBytes (some (sampleAck 2 [1])))] }
      (some (sampleAck 3 [2])) _ ?_ ?_ ?_
    · decide +kernel
    · rintro frame hFrame
      cases hFrame
      exact ⟨sampleBeat 3, rfl, sampleAck_answers 3 [2] (by decide)⟩
    · decide +kernel

end Link

end TrafficFabric
