import TrafficFabric.Service.Replies
import TrafficFabric.Wire.Safety

/-
  The payload limit that a handshake negotiates, and the
  frames the server sends.

  The session applies the limit to what it receives only:
  nothing that it sends is compared with the limit.
-/

namespace TrafficFabric

namespace Server

/-
  The smaller of both limits; the limit of the server when
  the client announces none.
-/
def agreedLimit (server : Server) (hello : HelloRequest) : UInt32 :=
  if hello.maxFramePayload = 0 then server.limit
  else min server.limit hello.maxFramePayload

theorem limit_ne_zero (server : Server) : server.limit ≠ 0 := by
  intro hZero
  have hNumber := congrArg UInt32.toNat hZero
  have hBounded : server.config.maxFramePayload < 2 ^ 32 :=
    Nat.lt_of_le_of_lt server.bounded (by decide)
  have hPositive := server.positive
  rw [limit, UInt32.toNat_ofNat_of_lt' hBounded] at hNumber
  change server.config.maxFramePayload = 0 at hNumber
  omega

theorem negotiated_eq (server : Server) (hello : HelloRequest) :
    server.negotiated hello = server.agreedLimit hello := by
  have hLimit := server.limit_ne_zero
  unfold negotiated agreedLimit
  simp only [min]
  by_cases hSmaller : server.limit ≤ hello.maxFramePayload
  · have hAnnounced : hello.maxFramePayload ≠ 0 := by
      intro hNone
      rw [hNone, UInt32.le_zero_iff] at hSmaller
      exact hLimit hSmaller
    rw [if_pos hSmaller, if_neg hLimit, if_neg hAnnounced]
  · rw [if_neg hSmaller]

end Server

/- A body of the session's own is small. -/
theorem Sends.length_le {pass : Pass} {type : MessageType} {payload : List UInt8}
    {correlation : UInt64} (hSends : Sends pass type payload correlation) :
    payload.length ≤ 4192 ∨ (pass.handled ≠ [] ∧ pass.round.answer = .ok payload) := by
  cases hSends with
  | undecodable _ body | error _ body => exact .inl (body.length_payload_le.trans (by decide))
  | greeting hReceipt body => exact .inl body.length_payload_le
  | reply hReceipt hHandled hAnswer =>
    rw [hHandled]
    exact .inr ⟨List.cons_ne_nil _ _, hAnswer⟩

namespace Server

/-
  From the handshake on, every frame keeps to the limit that
  was agreed on, if the handler is the service and the limit
  has room for the largest body.
-/
theorem keeps_limit (config : ServerConfig) (rounds : List Round) (arrivals : Incoming)
    (before after : List Pass) (greeted : Pass) (hello : HelloRequest)
    (hTrace :
      (create config).serve rounds (create config).opened arrivals = before ++ greeted :: after)
    (hAccepted : .accepted hello ∈ greeted.events)
    (hRoom : 4192 ≤ ((create config).agreedLimit hello).toNat)
    (hService :
      ∀ pass ∈ after,
        pass.handled ≠ [] → ∃ handled, pass.round.answer = CoordinatorService.answer handled) :
    (create config).negotiated hello = (create config).agreedLimit hello ∧
      ∀ pass ∈ greeted :: after,
        ∀ frame ∈ pass.sent, frame.2.length ≤ ((create config).agreedLimit hello).toNat := by
  refine ⟨negotiated_eq _ hello, ?_⟩
  intro pass hPass frame hFrame
  have hServed := (create config).serve_served rounds (create config).opened arrivals
  rw [hTrace] at hServed
  rcases List.append_of_mem hPass with ⟨middle, rest, hSplit⟩
  rw [hSplit, ← List.append_assoc] at hServed
  rcases hServed.split with ⟨state, next, hRun, hTurn, hEnd⟩
  rcases hTurn.sent_cases with hNone | ⟨type, payload, correlation, hOne, hSends⟩
  · rw [hNone] at hFrame
    cases hFrame
  · rw [hOne, List.mem_singleton] at hFrame
    rw [hFrame]
    rcases hSends.length_le with hSmall | ⟨hHandled, hAnswer⟩
    · exact hSmall.trans hRoom
    · rcases List.mem_cons.mp hPass with rfl | hAfter
      · exact (hHandled (hTurn.handled_of_accepted hAccepted)).elim
      · rcases hService pass hAfter hHandled with ⟨handled, hHandler⟩
        exact (CoordinatorService.length_answer_le (hHandler.symm.trans hAnswer)).trans hRoom

/- A handshake with a limit, and then one more frame. -/
def greetedThen (maxFramePayload : UInt32) (round : Round) (next : List UInt8) : List Pass :=
  (create sampleServer).serve [{}, round] (create sampleServer).opened
    (Arrival.gathered (sampleFrame .helloRequest 1 (sampleHello maxFramePayload) ++ next))

/- The second frame is a handshake again. -/
def greetedTwice (maxFramePayload : UInt32) : List Pass :=
  greetedThen maxFramePayload {} (sampleFrame .helloRequest 2 [])

/- The second frame is answered by the service. -/
def heartbeatAnswered : List Pass :=
  greetedThen 65536 { answer := CoordinatorService.answer (.ok (.simpleAck "")) }
    (sampleFrame .heartbeat 2 (List.replicate 8 0))

theorem greetedThen_ne_nil (maxFramePayload : UInt32) (round : Round) (next : List UInt8) :
    greetedThen maxFramePayload round next ≠ [] := by
  simp [greetedThen, serve]

/- The request of the first handshake. -/
def sampleRequest (maxFramePayload : UInt32) : HelloRequest :=
  { peerName := textBytes "p"
    authToken := textBytes "s"
    clientBoot := ⟨0, 7⟩
    maxFramePayload }

theorem keeps_limit_greeted :
    4192 ≤ ((create sampleServer).agreedLimit (sampleRequest 65536)).toNat ∧
      (∃ pass ∈ heartbeatAnswered, pass.handled ≠ [] ∧ pass.sent ≠ []) ∧
      ∀ pass ∈ heartbeatAnswered,
        ∀ frame ∈ pass.sent,
          frame.2.length ≤ ((create sampleServer).agreedLimit (sampleRequest 65536)).toNat := by
  have hRoom : 4192 ≤ ((create sampleServer).agreedLimit (sampleRequest 65536)).toNat := by decide
  refine ⟨hRoom, by decide +kernel, ?_⟩
  have hTrace :=
    (List.cons_head_tail (show heartbeatAnswered ≠ [] from greetedThen_ne_nil _ _ _)).symm
  have hAnswered :
      ∀ pass ∈ heartbeatAnswered.tail,
        pass.round.answer = CoordinatorService.answer (.ok (.simpleAck "")) := by
    decide +kernel
  have hKeeps := keeps_limit sampleServer _ _ [] _ _ (sampleRequest 65536) hTrace
    (by decide +kernel) hRoom (fun pass hPass _ => ⟨_, hAnswered pass hPass⟩)
  rw [hTrace]
  exact hKeeps.2

/-
  A client that announces a limit of one byte is sent an
  error of more than one byte.
-/
theorem exceeds_limit :
    ∃ before greeted after,
      greetedTwice 1 = before ++ greeted :: after ∧
        .accepted (sampleRequest 1) ∈ greeted.events ∧
        (create sampleServer).agreedLimit (sampleRequest 1) = 1 ∧
        ∃ pass ∈ after,
          ∃ frame ∈ pass.sent,
            ((create sampleServer).agreedLimit (sampleRequest 1)).toNat < frame.2.length := by
  have hTrace := (List.cons_head_tail (show greetedTwice 1 ≠ [] from greetedThen_ne_nil _ _ _)).symm
  refine ⟨[], _, _, hTrace, ?_, ?_, ?_⟩
  · decide +kernel
  · decide +kernel
  · decide +kernel

end Server

end TrafficFabric
