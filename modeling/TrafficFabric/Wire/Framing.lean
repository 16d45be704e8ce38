import TrafficFabric.Wire.Session

/-
  Framing and the timing of arrivals.

  A session that receives a stream in pieces, with waits
  that elapse between them, is compared with one that
  receives the same bytes at once. What a wait that elapses
  loses is what was read of a header until then.

  Main declarations:
    * `Pass.frame?`
    * `FrameBoundary`
    * `Server.framing_independent`
    * `Server.framing_depends`
-/

namespace TrafficFabric

open List Pass

variable {maxPayload : UInt32} {arrivals : Incoming}
variable {header : FrameHeader}

def Pass.frame? (pass : Pass) : Option (FrameHeader × List UInt8) :=
  match pass.receipt with
  | .frame header payload => some (header, payload)
  | _ => none

/- A pass that did not just wait. -/
def Pass.isActive (pass : Pass) : Bool :=
  pass.receipt ≠ .elapsed

/- The offsets at which the frames of a stream begin. -/
inductive FrameBoundary (stream : List UInt8) :
    Nat → Prop
| start : FrameBoundary stream 0
| next {offset size : Nat} (hBoundary : FrameBoundary stream offset)
    (hSize :
      size =
        headerBytes +
          (FrameHeader.ofBytes ((stream.drop offset).take headerBytes)).payloadLength.toNat)
    (hWhole : offset + size ≤ stream.length) : FrameBoundary stream (offset + size)

open Arrival

/- What a read of a payload takes, in pieces or at once. -/
theorem receivePayload_gathered {taken : List UInt8}
    (hWhole : (receivePayload header taken arrivals).receipt.isInterrupted = false) :
    receivePayload header taken (gathered (flow arrivals)) =
      { receivePayload header taken arrivals with
        left := gathered (flow (receivePayload header taken arrivals).left) } := by
  unfold receivePayload at hWhole ⊢
  simp only at hWhole ⊢
  generalize header.payloadLength.toNat = count at hWhole ⊢
  cases hOutcome : (readExact count arrivals).outcome with
  | complete =>
    rcases taken_of_complete hOutcome with ⟨hTaken, hLeft, hEnough⟩
    rw [readExact_gathered hEnough]
    simp only [hTaken, hLeft]
  | waiting =>
    rcases flow_of_waiting hOutcome with ⟨hTaken, hShort⟩
    rcases left_of_waiting hOutcome with ⟨hLeft, -⟩
    rw [readExact_gathered_short hShort]
    simp only [hTaken, hLeft]
    rfl
  | _ => simp [hOutcome, Receipt.isInterrupted] at hWhole

/- What a pass receives, in pieces or at once. -/
theorem receive_gathered (hWhole : (receive maxPayload arrivals).receipt.isInterrupted = false) :
    receive maxPayload (gathered (flow arrivals)) = { receive maxPayload arrivals with
        left := gathered (flow (receive maxPayload arrivals).left) } := by
  unfold receive at hWhole ⊢
  simp only at hWhole ⊢
  cases hOutcome : (readExact headerBytes arrivals).outcome with
  | complete =>
    rcases taken_of_complete hOutcome with ⟨hTaken, hLeft, hEnough⟩
    rw [readExact_gathered hEnough, ← hTaken, ← hLeft]
    simp only [hOutcome] at hWhole ⊢
    cases hHeader : decodeHeader (readExact headerBytes arrivals).taken maxPayload with
    | error status => rfl
    | ok header =>
      simp only [hHeader] at hWhole
      exact receivePayload_gathered hWhole
  | waiting =>
    rcases flow_of_waiting hOutcome with ⟨hTaken, hShort⟩
    rcases left_of_waiting hOutcome with ⟨hLeft, -⟩
    rw [readExact_gathered_short hShort]
    simp only [hTaken, hLeft]
    rfl
  | _ => simp [hOutcome, Receipt.isInterrupted] at hWhole

/- A reception loses nothing of the stream. -/
theorem receive_flow (maxPayload : UInt32) (arrivals : Incoming) :
    (receive maxPayload arrivals).taken ++ flow (receive maxPayload arrivals).left =
      flow arrivals := by
  have hHead := taken_append_flow headerBytes arrivals
  unfold receive
  simp only
  split
  · split
    · exact hHead
    · rename_i header _
      have hBody := taken_append_flow header.payloadLength.toNat
        (readExact headerBytes arrivals).left
      unfold receivePayload
      simp only
      split <;> rw [append_assoc, hBody, hHead]
  all_goals exact hHead

/- What a received frame took from the stream. -/
theorem receive_frame {payload : List UInt8}
    (hReceipt : (receive maxPayload arrivals).receipt = .frame header payload) :
    ∃ head,
      (receive maxPayload arrivals).taken = head ++ payload ∧
        head.length = headerBytes ∧ header = FrameHeader.ofBytes head ∧
        payload.length = header.payloadLength.toNat := by
  unfold receive at hReceipt ⊢
  cases hOutcome : (readExact headerBytes arrivals).outcome with
  | complete =>
    simp only [hOutcome] at hReceipt ⊢
    have hLength := length_taken hOutcome
    cases hHeader : decodeHeader (readExact headerBytes arrivals).taken maxPayload with
    | error status => simp [hHeader] at hReceipt
    | ok decoded =>
      simp only [hHeader] at hReceipt ⊢
      unfold receivePayload at hReceipt ⊢
      simp only at hReceipt ⊢
      split at hReceipt
      · rename_i hBody
        cases hReceipt
        exact ⟨_, rfl, hLength, (decodeHeader_eq_ok_iff.mp hHeader).2.2.2.2, length_taken hBody⟩
      all_goals cases hReceipt
  | _ => simp [hOutcome] at hReceipt

/- A reception that does not wait has met something. -/
theorem receive_size (hMet : (receive maxPayload arrivals).receipt ≠ .waiting) :
    size (receive maxPayload arrivals).left < size arrivals := by
  unfold receive at hMet ⊢
  simp only at hMet ⊢
  by_cases hWaiting : (readExact headerBytes arrivals).outcome = .waiting
  · simp [hWaiting] at hMet
  · have hHead := size_left_lt (by decide) hWaiting
    split
    · split
      · exact hHead
      · rename_i header _
        have hBody := size_left_le header.payloadLength.toNat (readExact headerBytes arrivals).left
        unfold receivePayload
        simp only
        split <;> exact Nat.lt_of_le_of_lt hBody hHead
    all_goals exact hHead

---
-- Runs In Pieces And At Once
---

open Arrival

namespace Server

variable {server : Server} {round : Round} {session : Session} {arrivals : Incoming}
variable {next : Session}
variable (rounds : List Round)
variable {more : List Round} {stream : List UInt8} {offset : Nat}

theorem reception_gathered
    (hWhole : (reception round session arrivals).receipt.isInterrupted = false) :
    reception round session (gathered (flow arrivals)) = { reception round session arrivals with
        left := gathered (flow (reception round session arrivals).left) } := by
  unfold reception at hWhole ⊢
  split
  · rfl
  · rename_i hServing
    rw [if_neg hServing] at hWhole
    exact receive_gathered hWhole

theorem reception_flow (round : Round) (session : Session) (arrivals : Incoming) :
    (reception round session arrivals).taken ++ flow (reception round session arrivals).left =
      flow arrivals := by
  unfold reception
  split
  · rfl
  · exact receive_flow session.maxPayload arrivals

/- Only a frame or an elapsed wait lets the loop go on. -/
theorem receipt_of_process {receipt : Receipt}
    (hNext : (session.process server round receipt).2 = some next) :
    (receipt = .elapsed ∧ next = session) ∨ ∃ header payload, receipt = .frame header payload := by
  cases receipt with
  | elapsed =>
    cases hNext
    exact .inl ⟨rfl, rfl⟩
  | frame header payload => exact .inr ⟨header, payload, rfl⟩
  | _ => cases hNext

theorem reception_size
    (hFrame :
      (reception round session arrivals).receipt = .elapsed ∨
        ∃ header payload, (reception round session arrivals).receipt = .frame header payload) :
    size (reception round session arrivals).left < size arrivals := by
  unfold reception at hFrame ⊢
  split
  · rename_i hStopping
    rw [if_pos hStopping] at hFrame
    rcases hFrame with hElapsed | ⟨header, payload, hFrame⟩
    · cases hElapsed
    · cases hFrame
  · rename_i hServing
    rw [if_neg hServing] at hFrame
    apply receive_size
    intro hWaiting
    rw [hWaiting] at hFrame
    rcases hFrame with hElapsed | ⟨header, payload, hFrame⟩
    · cases hElapsed
    · cases hFrame

/-
  The frames that are decoded from a stream in pieces, and
  from the same stream at once: a part of them, and all of
  them unless the session has closed. The passes that do
  not just wait have the same surroundings in both runs.
-/
def FramesAgree (server : Server) (rounds more : List Round) (session : Session)
    (arrivals : Incoming) : Prop :=
  let pieces := server.serve rounds session arrivals
  let whole :=
    server.serve ((pieces.filter Pass.isActive).map Pass.round ++ more)
      session (gathered (flow arrivals))
  pieces.filterMap Pass.frame? <+: whole.filterMap Pass.frame? ∧
    (size arrivals < rounds.length →
      (∀ pass ∈ pieces, .closed ∉ pass.events) →
      pieces.filterMap Pass.frame? = whole.filterMap Pass.frame?)

def firstPass (server : Server) (round : Round) (session : Session) (arrivals : Incoming) : Pass :=
  { round
    receipt := (reception round session arrivals).receipt
    taken := (reception round session arrivals).taken
    events := (session.process server round (reception round session arrivals).receipt).1 }

theorem serve_of_none
    (hNext : (session.process server round (reception round session arrivals).receipt).2 = none) :
    server.serve (round :: rounds) session arrivals =
      [server.firstPass round session arrivals] := by
  rw [serve, hNext]
  rfl

theorem serve_of_some
    (hNext :
      (session.process server round (reception round session arrivals).receipt).2 = some next) :
    server.serve (round :: rounds) session arrivals =
      server.firstPass round session arrivals ::
        server.serve rounds next (reception round session arrivals).left := by
  rw [serve, hNext]
  rfl

/- Both runs begin with one pass. -/
theorem firstPass_gathered
    (hWhole : (reception round session arrivals).receipt.isInterrupted = false) :
    server.firstPass round session (gathered (flow arrivals)) =
      server.firstPass round session arrivals := by
  unfold firstPass
  rw [reception_gathered hWhole]

/- The last pass of a run in pieces. -/
theorem last_of_pieces (more : List Round)
    (hNext : (session.process server round (reception round session arrivals).receipt).2 = none) :
    server.FramesAgree (round :: rounds) more session arrivals := by
  have hActive : (reception round session arrivals).receipt ≠ .elapsed := by
    intro hElapsed
    rw [hElapsed] at hNext
    cases hNext
  unfold FramesAgree
  rw [serve_of_none rounds hNext]
  cases hCut : (reception round session arrivals).receipt.isInterrupted with
  | true =>
    have hNone : (server.firstPass round session arrivals).frame? = none := by
      unfold Receipt.isInterrupted at hCut
      split at hCut <;> simp_all [frame?, firstPass]
    have hClosed : .closed ∈ (server.firstPass round session arrivals).events := by
      unfold Receipt.isInterrupted at hCut
      split at hCut <;> simp_all [firstPass, Session.process]
    simp only [filterMap_cons, hNone, filterMap_nil]
    refine ⟨ nil_prefix, ?_⟩
    intro _ hOpen
    exact (hOpen _ mem_cons_self hClosed).elim
  | false =>
    have hSame := reception_gathered hCut
    have hActs : (server.firstPass round session arrivals).isActive = true := by
      simp [isActive, firstPass, hActive]
    have hWhole :
        server.serve (round :: more) session (gathered (flow arrivals)) =
          [server.firstPass round session arrivals] := by
      rw [serve_of_none more (by rw [hSame]; exact hNext), firstPass_gathered hCut]
    simp only [filter_cons, hActs, if_true, filter_nil, map_cons, map_nil,
      singleton_append]
    change _ <+: List.filterMap frame?
      (server.serve (round :: more) session _) ∧ (_ → _ →
        _ = List.filterMap frame? (server.serve (round :: more) session _))
    rw [hWhole]
    exact ⟨prefix_refl _, fun _ _ => rfl⟩

/- A pass in pieces that only waits, and loses nothing. -/
theorem idle_of_pieces {rounds : List Round}
    (hElapsed : (reception round session arrivals).receipt = .elapsed)
    (hTaken : (reception round session arrivals).taken = [])
    (hRest : server.FramesAgree rounds more session (reception round session arrivals).left) :
    server.FramesAgree (round :: rounds) more session arrivals := by
  have hFlow := reception_flow round session arrivals
  rw [hTaken, nil_append] at hFlow
  have hNext :
      (session.process server round (reception round session arrivals).receipt).2 =
        some session := by
    rw [hElapsed]
    rfl
  have hIdle : (server.firstPass round session arrivals).isActive = false := by
    simp [isActive, firstPass, hElapsed]
  have hNone : (server.firstPass round session arrivals).frame? = none := by
    simp [frame?, firstPass, hElapsed]
  have hSize := reception_size (.inl hElapsed)
  unfold FramesAgree at hRest ⊢
  rw [hFlow] at hRest
  rw [serve_of_some rounds hNext]
  simp only [filter_cons, hIdle, Bool.false_eq_true, if_false, filterMap_cons, hNone]
  refine ⟨hRest.1, ?_⟩
  intro hEnough hOpen
  rw [length_cons] at hEnough
  apply hRest.2 (by omega)
  intro pass hMem
  exact hOpen pass (mem_cons_of_mem _ hMem)

/- A pass in pieces that decodes a frame and goes on. -/
theorem frame_of_pieces {rounds : List Round} {payload : List UInt8}
    (hFrame : (reception round session arrivals).receipt = .frame header payload)
    (hNext :
      (session.process server round (reception round session arrivals).receipt).2 = some next)
    (hRest : server.FramesAgree rounds more next (reception round session arrivals).left) :
    server.FramesAgree (round :: rounds) more session arrivals := by
  have hWhole : (reception round session arrivals).receipt.isInterrupted = false := by
    rw [hFrame]
    rfl
  have hSame := reception_gathered hWhole
  have hActs : (server.firstPass round session arrivals).isActive = true := by
    simp [isActive, firstPass, hFrame]
  have hSome : (server.firstPass round session arrivals).frame? = some (header, payload) := by
    simp [frame?, firstPass, hFrame]
  have hRound :
      (server.firstPass round session arrivals).round = round := rfl
  have hSize := reception_size (.inr ⟨_, _, hFrame⟩)
  unfold FramesAgree at hRest ⊢
  rw [serve_of_some rounds hNext]
  simp only [filter_cons, hActs, if_true, map_cons, hRound, cons_append]
  rw [serve_of_some _ (by rw [hSame]; exact hNext), firstPass_gathered hWhole, hSame]
  simp only [filterMap_cons, hSome, prefix_cons_inj]
  refine ⟨hRest.1, ?_⟩
  intro hEnough hClosed
  rw [length_cons] at hEnough
  refine congrArg _ (hRest.2 (by omega) ?_)
  intro pass hMem
  exact hClosed pass (mem_cons_of_mem _ hMem)

/-
  By induction on the passes: after each of them both runs
  are in one state, and the same bytes are still to arrive.
-/
theorem framesAgree (more : List Round) (session : Session) (arrivals : Incoming)
    (hKept :
      ∀ pass ∈ server.serve rounds session arrivals, pass.receipt = .elapsed → pass.taken = []) :
    server.FramesAgree rounds more session arrivals := by
  induction rounds generalizing session arrivals with
  | nil => exact ⟨ nil_prefix, by simp⟩
  | cons round rounds ih =>
    cases hNext : (session.process server round (reception round session arrivals).receipt).2 with
    | none => exact last_of_pieces rounds more hNext
    | some next =>
      rw [serve_of_some rounds hNext] at hKept
      have hRest := ih next (reception round session arrivals).left
        (fun pass hMem => hKept pass (mem_cons_of_mem _ hMem))
      rcases receipt_of_process hNext with ⟨hElapsed, rfl⟩ | ⟨header, payload, hFrame⟩
      · exact idle_of_pieces hElapsed (hKept _ mem_cons_self hElapsed) hRest
      · exact frame_of_pieces hFrame hNext hRest

/- A pass that goes on leaves the stream at a boundary. -/
theorem boundary_after_pass (hBoundary : FrameBoundary stream offset)
    (hStream : stream.drop offset = flow arrivals)
    (hMoves :
      (reception round session arrivals).taken = [] ∨
        ∃ header payload, (reception round session arrivals).receipt = .frame header payload) :
    FrameBoundary stream (offset + (reception round session arrivals).taken.length) ∧
      stream.drop (offset + (reception round session arrivals).taken.length) =
        flow (reception round session arrivals).left := by
  have hFlow := reception_flow round session arrivals
  refine ⟨?_, ?_⟩
  · rcases hMoves with hNothing | ⟨header, payload, hFrame⟩
    · rw [hNothing]
      exact hBoundary
    · have hReceive : reception round session arrivals = receive session.maxPayload arrivals := by
        unfold reception at hFrame ⊢
        split at hFrame
        · cases hFrame
        · rename_i hServing
          exact if_neg hServing
      rw [hReceive] at hFrame hFlow ⊢
      rcases receive_frame hFrame with ⟨head, hTaken, hHead, hHeader, hPayload⟩
      rw [hTaken] at hFlow ⊢
      have hRemaining := congrArg List.length hStream
      have hTotal := congrArg List.length hFlow
      have hPositive : 0 < headerBytes := by decide
      rw [length_drop] at hRemaining
      rw [length_append, length_append] at hTotal
      rw [length_append]
      apply hBoundary.next
      · rw [hStream, ← hFlow, append_assoc, take_left' hHead, ← hHeader, hHead, hPayload]
      · omega
  · rw [← drop_drop, hStream, ← hFlow, drop_left]

/- Passes begin where frames begin. -/
theorem begins_at_boundary {rounds : List Round} {before after : List Pass} {pass : Pass}
    (hKept :
      ∀ pass ∈ server.serve rounds session arrivals, pass.receipt = .elapsed → pass.taken = [])
    (hBoundary : FrameBoundary stream offset) (hStream : stream.drop offset = flow arrivals)
    (hSplit : server.serve rounds session arrivals = before ++ pass :: after) :
    FrameBoundary stream (offset + (before.flatMap taken).length) := by
  induction before generalizing rounds session arrivals offset with
  | nil => exact hBoundary
  | cons first before ih =>
    cases rounds with
    | nil => cases hSplit
    | cons round rounds =>
      cases hNext : (session.process server round (reception round session arrivals).receipt).2 with
      | none =>
        rw [serve_of_none rounds hNext, cons_append] at hSplit
        have hTail := (List.cons.inj hSplit).2
        exact (append_ne_nil_of_right_ne_nil before (cons_ne_nil pass after)
          hTail.symm).elim
      | some next =>
        rw [serve_of_some rounds hNext] at hKept
        rw [serve_of_some rounds hNext, cons_append] at hSplit
        rcases List.cons.inj hSplit with ⟨hFirst, hTail⟩
        have hTaken : first.taken = (reception round session arrivals).taken := by
          rw [← hFirst]
          rfl
        have hMoves :
            (reception round session arrivals).taken = [] ∨
              ∃ header payload,
                (reception round session arrivals).receipt = .frame header payload := by
          rcases receipt_of_process hNext with ⟨hElapsed, -⟩ | hFrame
          · exact .inl (hKept _ mem_cons_self hElapsed)
          · exact .inr hFrame
        rcases boundary_after_pass hBoundary hStream hMoves with ⟨hAfter, hLeft⟩
        have hRest := ih (fun later hLater => hKept later (mem_cons_of_mem _ hLater))
          hAfter hLeft hTail
        rw [flatMap_cons, length_append, hTaken, ← Nat.add_assoc]
        exact hRest

end Server

open Arrival

namespace Server

/-
  If no wait elapses after a part of a header was read, the
  frames of a stream do not depend on when it arrives, and
  headers are decoded where frames begin.
-/
theorem framing_independent (config : ServerConfig) (rounds more : List Round) (arrivals : Incoming)
    (hEnough : size arrivals < rounds.length)
    (hKept :
      ∀ pass ∈ (create config).serve rounds (create config).opened arrivals,
        pass.receipt = .elapsed → pass.taken = []) :
    let server := create config
    let pieces := server.serve rounds server.opened arrivals
    let whole :=
      server.serve ((pieces.filter Pass.isActive).map Pass.round ++ more)
        server.opened (gathered (flow arrivals))
    pieces.filterMap Pass.frame? <+: whole.filterMap Pass.frame? ∧
      (pieces.filterMap Pass.frame? ≠ whole.filterMap Pass.frame? →
        ∃ pass ∈ pieces, .closed ∈ pass.events) ∧
      ∀ before pass after,
        pieces = before ++ pass :: after →
        FrameBoundary (flow arrivals) (before.flatMap Pass.taken).length := by
  intro server pieces whole
  have hAgree := framesAgree rounds more server.opened arrivals hKept
  refine ⟨hAgree.1, ?_, ?_⟩
  · intro hStrict
    by_contra hOpen
    apply hStrict
    apply hAgree.2 hEnough
    intro pass hMem hClosed
    exact hOpen ⟨pass, hMem, hClosed⟩
  · intro before pass after hSplit
    have hStart : FrameBoundary (flow arrivals) 0 := .start
    have hBegins := begins_at_boundary hKept hStart drop_zero hSplit
    rw [Nat.zero_add] at hBegins
    exact hBegins

/- A handshake in two pieces, after a wait. -/
def sampleInPieces : Incoming :=
  [.elapsed,
    .chunk ((sampleFrame .helloRequest 1 (sampleHello 65536)).take 20),
    .chunk ((sampleFrame .helloRequest 1 (sampleHello 65536)).drop 20)]

def sampleRounds : List Round :=
  List.replicate 100 {}

theorem framing_independent_pieces :
    ((create sampleServer).serve sampleRounds (create sampleServer).opened
        sampleInPieces).filterMap frame? <+:
      ((create sampleServer).serve
        ((((create sampleServer).serve sampleRounds (create sampleServer).opened
          sampleInPieces).filter isActive).map round ++ [])
        (create sampleServer).opened (gathered (flow sampleInPieces))).filterMap frame? :=
  (framing_independent sampleServer sampleRounds [] sampleInPieces (by decide +kernel)
    (by decide +kernel)).1

/- A frame whose payload is a frame. -/
def nestedFrame : List UInt8 :=
  sampleFrame .dataChunk 1 (sampleFrame .heartbeat 1 [])

/- Waits elapse within the header of the outer frame. -/
def nestedInPieces : Incoming :=
  [.chunk (nestedFrame.take 39), .elapsed,
    .chunk ((nestedFrame.drop 39).take 1), .elapsed,
    .chunk (nestedFrame.drop 40)]

/-
  The header of the outer frame is lost, and the inner
  frame is decoded in its place.
-/
theorem framing_depends :
    flow nestedInPieces = nestedFrame ∧
      ¬ ((create sampleServer).serve [{}, {}, {}] (create sampleServer).opened
          nestedInPieces).filterMap frame? <+:
        ((create sampleServer).serve [{}, {}, {}] (create sampleServer).opened
          (gathered (flow nestedInPieces))).filterMap frame? := by
  decide +kernel

end Server

end TrafficFabric
