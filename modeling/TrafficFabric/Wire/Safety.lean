import TrafficFabric.Wire.Session

/-
  Safety of a session, over every run: whom the handler is
  invoked for, when the session closes, and how the frames
  it sends are numbered.
-/

namespace TrafficFabric

open List Pass

namespace Turn

variable {server : Server} {round : Round} {session : Session} {pass : Pass} {next : Option Session}
variable {after : Session}
variable {header : FrameHeader}

/- The handler is invoked for the frame that was received. -/
theorem handles (hTurn : Turn server round session pass.receipt pass.events next)
    (hMem : header ∈ pass.handled) :
    ∃ payload, pass.receipt = .frame header payload ∧ session.Handles header payload := by
  rcases pass with ⟨passRound, receipt, taken, events⟩
  cases hTurn with
  | answered hHandles | unanswered hHandles =>
    simp [handled] at hMem
    subst hMem
    exact ⟨_, rfl, hHandles⟩
  | _ => simp [handled] at hMem

/- The handler is invoked at most once. -/
theorem length_handled_le (hTurn : Turn server round session pass.receipt pass.events next) :
    pass.handled.length ≤ 1 := by
  rcases pass with ⟨passRound, receipt, taken, events⟩
  cases hTurn <;> simp [handled, filterMap_cons]

theorem pairwise_handled {before : FrameHeader → FrameHeader → Prop}
    (hTurn : Turn server round session pass.receipt pass.events next) :
    pass.handled.Pairwise before := by
  have hOne := hTurn.length_handled_le
  rw [pairwise_iff_getElem]
  intro first second hFirst hSecond hLess
  omega

/- Closing is the last thing that happens. -/
theorem closes (hTurn : Turn server round session pass.receipt pass.events next)
    (hClosed : .closed ∈ pass.events) : next = none ∧ pass.events.getLast? = some .closed := by
  rcases pass with ⟨passRound, receipt, taken, events⟩
  cases hTurn <;> simp_all

/- Sequences of handled frames exceed the last accepted. -/
theorem newer (hTurn : Turn server round session pass.receipt pass.events (some after))
    (hMem : header ∈ pass.handled) : header.sequence = after.inboundSequence := by
  rcases pass with ⟨passRound, receipt, taken, events⟩
  cases hTurn with
  | answered hHandles hReply =>
    simp [handled] at hMem
    subst hMem
    rfl
  | _ => simp [handled] at hMem

theorem inboundSequence_le
    (hTurn : Turn server round session pass.receipt pass.events (some after)) :
    session.inboundSequence ≤ after.inboundSequence := by
  rcases pass with ⟨passRound, receipt, taken, events⟩
  cases hTurn with
  | elapsed | replayed => exact UInt64.le_refl _
  | greeted hAccepts => exact UInt64.le_of_lt hAccepts.newer
  | repeated body hFresh hHandshaken => exact UInt64.le_of_lt hFresh.newer
  | answered hHandles hReply => exact UInt64.le_of_lt hHandles.newer

theorem establishes (hTurn : Turn server round session pass.receipt pass.events (some after))
    (hAfter : after.handshaken = true) :
    session.handshaken = true ∨
      ∃ header payload hello,
        pass.receipt = .frame header payload ∧
          .accepted hello ∈ pass.events ∧ session.Accepts server header payload hello := by
  rcases pass with ⟨passRound, receipt, taken, events⟩
  cases hTurn with
  | elapsed | replayed => exact .inl hAfter
  | greeted hAccepts => exact .inr ⟨_, _, _, rfl, mem_cons_self, hAccepts⟩
  | repeated body hFresh hHandshaken => exact .inl hHandshaken
  | answered hHandles hReply => exact .inl hHandles.handshaken

/- Replays are counted; too many of them close. -/
theorem counts (hTurn : Turn server round session pass.receipt pass.events next)
    (hReplay : pass.isReplay = true) :
    (.closed ∈ pass.events ∧ 8 < session.replays + 1) ∨ (∃ after,
        next = some after ∧ after.replays = session.replays + 1) := by
  rcases pass with ⟨passRound, receipt, taken, events⟩
  cases hTurn with
  | replayed body hFew => exact .inr ⟨_, rfl, rfl⟩
  | exhausted body hMany => exact .inl ⟨by simp, hMany⟩
  | _ => simp [isReplay] at hReplay

theorem replays_eq (hTurn : Turn server round session pass.receipt pass.events (some after)) :
    after.replays = session.replays + (if pass.isReplay then 1 else 0) ∧
      (pass.isReplay = true → ¬ 8 < after.replays) := by
  rcases pass with ⟨passRound, receipt, taken, events⟩
  cases hTurn with
  | replayed body hFew => exact ⟨rfl, fun _ => hFew⟩
  | _ => simp [isReplay, Session.numbered, Session.advanced, Session.established]

theorem sends (hTurn : Turn server round session pass.receipt pass.events next) :
    (pass.sent = [] ∨
      ∃ frame, pass.sent = [frame] ∧ frame.1.sequence = session.outboundSequence + 1) ∧
      ∀ after,
        next = some after →
        after.outboundSequence = session.outboundSequence + UInt64.ofNat pass.sent.length := by
  rcases pass with ⟨passRound, receipt, taken, events⟩
  cases hTurn <;>
    simp [sent, filterMap_cons, Session.outgoing,
      FrameHeader.describing, Session.numbered, Session.advanced, Session.established]

end Turn

---
-- Runs Of Passes
---

/- A pass after which the loop goes on. -/
def Continues (server : Server) (session : Session) (pass : Pass) (next : Session) : Prop :=
  Turn server pass.round session pass.receipt pass.events (some next)

namespace Continues

variable {server : Server} {session middle : Session} {before : List Pass}

/- Only an accepted handshake establishes a session. -/
theorem established (hRun : Run (Continues server) session before middle)
    (hMiddle : middle.handshaken = true) :
    session.handshaken = true ∨
      ∃ earlier ∈ before,
        ∃ state header payload hello,
          earlier.receipt = .frame header payload ∧
            .accepted hello ∈ earlier.events ∧
            Session.Accepts server state header payload hello := by
  induction hRun with
  | nil => exact .inl hMiddle
  | @cons start next _ pass passes hStep _ ih =>
    rcases ih hMiddle with hNext | hLater
    · rcases Turn.establishes hStep hNext with hStart | ⟨header, payload, hello, hAccepted⟩
      · exact .inl hStart
      · exact .inr ⟨pass, mem_cons_self, start, header, payload, hello, hAccepted⟩
    · rcases hLater with ⟨earlier, hMem, hAccepted⟩
      exact .inr ⟨earlier, mem_cons_of_mem pass hMem, hAccepted⟩

theorem replays (hRun : Run (Continues server) session before middle)
    (hFew : session.replays.toNat ≤ 8) :
    middle.replays.toNat = session.replays.toNat + before.countP isReplay ∧
      middle.replays.toNat ≤ 8 := by
  induction hRun with
  | nil => exact ⟨rfl, hFew⟩
  | @cons start next _ pass passes hStep _ ih =>
    rcases Turn.replays_eq hStep with ⟨hNext, hBound⟩
    have hNumber := congrArg UInt64.toNat hNext
    rw [countP_cons]
    cases hReplay : pass.isReplay with
    | false =>
      simp only [hReplay, Bool.false_eq_true, if_false, UInt64.add_zero] at hNumber
      rw [← hNumber] at hFew ⊢
      simpa using ih hFew
    | true =>
      have hLimit := UInt64.not_lt.mp (hBound hReplay)
      simp only [hReplay, if_true, UInt64.toNat_add, UInt64.reduceToNat] at hNumber hLimit
      rcases ih hLimit with ⟨hCount, hLast⟩
      refine ⟨?_, hLast⟩
      simp only [if_true]
      omega

end Continues

namespace Served

variable {server : Server} {session : Session} {trace before after : List Pass} {pass : Pass}

/- A pass comes after a run that went on. -/
theorem split (hServed : Served server session (before ++ pass :: after)) :
    ∃ middle next,
      Run (Continues server) session before middle ∧
        Turn server pass.round middle pass.receipt pass.events next ∧
        (next = none → after = []) := by
  induction before generalizing session with
  | nil =>
    cases hServed with
    | last hTurn => exact ⟨session, none, .nil session, hTurn, fun _ => rfl⟩
    | again hTurn _ => exact ⟨session, _, .nil session, hTurn, by simp⟩
  | cons first rest ih =>
    rw [cons_append] at hServed
    generalize hTail : rest ++ pass :: after = tail at hServed
    cases hServed with
    | last hTurn => exact (append_ne_nil_of_right_ne_nil rest (cons_ne_nil pass after) hTail).elim
    | again hTurn hRest =>
      rw [← hTail] at hRest
      rcases ih hRest with ⟨middle, next, hRun, hLast, hEnd⟩
      exact ⟨middle, next, .cons hTurn hRun, hLast, hEnd⟩

/- Handled sequences increase beyond the last accepted. -/
theorem increasing (hServed : Served server session trace) :
    (trace.flatMap handled).Pairwise (fun first second =>
          first.sequence < second.sequence) ∧
      ∀ header ∈ trace.flatMap handled, session.inboundSequence < header.sequence := by
  induction hServed with
  | nothing => exact ⟨.nil, by simp⟩
  | @last session pass hTurn =>
    refine ⟨?_, ?_⟩
    · rw [flatMap_singleton]
      exact hTurn.pairwise_handled
    · intro header hMem
      rw [flatMap_singleton] at hMem
      rcases hTurn.handles hMem with ⟨payload, hReceipt, hHandles⟩
      exact hHandles.newer
  | @again session next pass passes hTurn _ ih =>
    rcases ih with ⟨hPairs, hNewer⟩
    rw [flatMap_cons]
    refine ⟨?_, ?_⟩
    · rw [pairwise_append]
      refine ⟨hTurn.pairwise_handled, hPairs, ?_⟩
      intro header hMem later hLater
      rw [hTurn.newer hMem]
      exact hNewer later hLater
    · intro header hMem
      rcases mem_append.mp hMem with hHere | hLater
      · rcases hTurn.handles hHere with ⟨payload, hReceipt, hHandles⟩
        exact hHandles.newer
      · exact UInt64.lt_of_le_of_lt hTurn.inboundSequence_le (hNewer header hLater)

/- Frames are numbered one after the other. -/
theorem numbered (hServed : Served server session trace) :
    (trace.flatMap sent).map (fun frame => frame.1.sequence) =
      (List.range (trace.flatMap sent).length).map
        (fun index => session.outboundSequence + UInt64.ofNat (index + 1)) := by
  induction hServed with
  | nothing => rfl
  | @last session pass hTurn =>
    rw [flatMap_singleton]
    rcases hTurn.sends.1 with hNone | ⟨frame, hOne, hSequence⟩
    · rw [hNone]
      rfl
    · rw [hOne]
      exact congrArg (fun number => [number]) hSequence
  | @again session next pass passes hTurn _ ih =>
    rw [flatMap_cons, map_append, ih]
    rcases hTurn.sends with ⟨hSent, hNext⟩
    rw [hNext next rfl]
    rcases hSent with hNone | ⟨frame, hOne, hSequence⟩
    · rw [hNone]
      simp
    · rw [hOne, length_append, length_singleton, Nat.add_comm, range_succ_eq_map]
      simp only [map_cons, map_nil, singleton_append, map_map]
      rw [hSequence]
      refine congrArg₂ List.cons rfl ?_
      apply map_congr_left
      intro index _
      simp only [Function.comp_apply, Nat.succ_eq_add_one, UInt64.ofNat_add]
      ac_rfl

end Served

namespace Server

/-
  The handler is invoked only for an intact frame that is
  not a handshake and comes after an accepted handshake with
  the configured secret, at most once for a frame, with
  increasing sequences. Nothing follows the decision to
  close. The ninth replay closes. Frames are sent with the
  sequences 1, 2, 3 and so on.
-/
theorem session_safety (config : ServerConfig) (hAuth : config.requireAuth = true)
    (rounds : List Round) (arrivals : Incoming) :
    let server := Server.create config
    let trace := server.serve rounds server.opened arrivals
    let sent := trace.flatMap sent
    (∀ before pass after,
      trace = before ++ pass :: after →
      (∀ header ∈ pass.handled,
        header.type ≠ .helloRequest ∧
          (∃ payload,
            pass.receipt = .frame header payload ∧ crc32c payload = header.payloadCrc32c) ∧
          ∃ earlier ∈ before,
            ∃ greeting payload hello,
              earlier.receipt = .frame greeting payload ∧
                greeting.type = .helloRequest ∧ Session.readHello payload = .ok hello ∧
                hello.authToken = config.authToken ∧
                .accepted hello ∈ earlier.events) ∧
        pass.handled.length ≤ 1 ∧
        (.closed ∈ pass.events → after = [] ∧ pass.events.getLast? = some .closed) ∧
        (pass.isReplay = true → before.countP isReplay = 8 → .closed ∈ pass.events)) ∧
      (trace.flatMap handled).Pairwise (fun first second => first.sequence < second.sequence) ∧
      sent.map (fun frame => frame.1.sequence) =
        (List.range sent.length).map (fun index => UInt64.ofNat (index + 1)) := by
  intro server trace sent
  have hServed : Served server server.opened trace :=
    server.serve_served rounds server.opened arrivals
  refine ⟨?_, hServed.increasing.1, ?_⟩
  · intro before pass after hTrace
    rw [hTrace] at hServed
    rcases hServed.split with ⟨middle, next, hRun, hTurn, hEnd⟩
    refine ⟨?_, hTurn.length_handled_le, ?_, ?_⟩
    · intro header hMem
      rcases hTurn.handles hMem with ⟨payload, hReceipt, hHandles⟩
      refine ⟨hHandles.type, ⟨payload, hReceipt, hHandles.intact⟩, ?_⟩
      rcases Continues.established hRun hHandles.handshaken with hNever | hEarlier
      · cases hNever
      · rcases hEarlier with
          ⟨earlier, hBefore, state, greeting, body, hello, hGreeting, hAccepted, hAccepts⟩
        have hSecret := hAccepts.secret (by rw [create_requireAuth]; exact hAuth)
        rw [create_authToken] at hSecret
        exact ⟨earlier, hBefore, greeting, body, hello,
          hGreeting, hAccepts.type, hAccepts.body, hSecret, hAccepted⟩
    · intro hClosed
      rcases hTurn.closes hClosed with ⟨hNone, hLast⟩
      exact ⟨hEnd hNone, hLast⟩
    · intro hReplay hEight
      rcases Continues.replays hRun (Nat.zero_le 8) with ⟨hCount, -⟩
      rcases hTurn.counts hReplay with ⟨hClosed, -⟩ | ⟨last, hNext, hLast⟩
      · exact hClosed
      · subst hNext
        have hStart : server.opened.replays.toNat = 0 := rfl
        have hBound := (Turn.replays_eq hTurn).2 hReplay
        rw [hLast, UInt64.lt_iff_toNat_lt, UInt64.toNat_add, hCount, hStart, hEight] at hBound
        exact (hBound (by decide)).elim
  · have hNumbered := hServed.numbered
    have hZero : server.opened.outboundSequence = 0 := rfl
    rw [hZero] at hNumbered
    simpa only [UInt64.zero_add] using hNumbered

/- A handshake, and then a heartbeat that is sent twice. -/
def sampleArrivals : Incoming :=
  Arrival.gathered
    (sampleFrame .helloRequest 1 (sampleHello 65536) ++ sampleFrame .heartbeat 2 [] ++
      sampleFrame .heartbeat 2 [])

def sampleTrace : List Pass :=
  (Server.create sampleServer).serve [{}, {}, {}] (Server.create sampleServer).opened sampleArrivals

theorem session_safety_heartbeat :
    sampleServer.requireAuth = true ∧
      sampleTrace.map (fun pass => (pass.handled.length, pass.isReplay)) =
        [(0, false), (1, false), (0, true)] ∧
      (sampleTrace.flatMap sent).map (fun frame => frame.1.sequence) =
        (List.range (sampleTrace.flatMap sent).length).map
          (fun index => UInt64.ofNat (index + 1)) :=
  ⟨rfl, by decide +kernel, (session_safety sampleServer rfl [{}, {}, {}] sampleArrivals).2.2⟩

end Server

end TrafficFabric
