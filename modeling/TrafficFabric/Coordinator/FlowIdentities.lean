import TrafficFabric.Coordinator.FlowAgreement

/-
  The identities of flows. A serving flow is numbered by the
  ledger and a transfer flow by the coordinator; the second
  word of an identity is mixed from the identities of what
  the flow is for. Flows of one kind never share an identity
  before a counter wraps around, but flows of different
  kinds can.

  Main declarations:
    * `FlowSubject`
    * `Fleet.Numbered`
    * `Coordinator.minted_not_open`
    * `Coordinator.transfer_takes_serving_identity`
-/

---
-- Subjects
---

namespace TrafficFabric

open RequestLedger

variable (ledger : RequestLedger)
variable {flow : FlowRecord}

/- What a flow is for, as far as its identity tells. -/
inductive FlowSubject
| serving (request : RequestId) (attempt : AttemptId) (traffic : TrafficClass)
| transfer (id : StateTransferId)

namespace FlowSubject

def isServing : FlowSubject → Bool
| .serving _ _ _ => true
| .transfer _ => false

/- The second word of the identities of such flows. -/
def word : FlowSubject → UInt64
| .serving request attempt traffic => (ledgerFlowId 0 request attempt traffic).low
| .transfer id => (Coordinator.transferFlowId 0 id).low

/- The counter such flows are numbered from. -/
def counter (f : Fleet) : FlowSubject → UInt64
| .serving _ _ _ => f.ledger.nextFlowSequence
| .transfer _ => f.carriage.nextFlowSequence

/- The identity of the next such flow. -/
def identity (f : Fleet) (subject : FlowSubject) : FlowId :=
  ⟨subject.counter f + 1, subject.word⟩

theorem counter_congr {f g : Fleet}
    (hOwn : g.carriage.nextFlowSequence = f.carriage.nextFlowSequence)
    (hLedger : g.ledger.nextFlowSequence = f.ledger.nextFlowSequence) (subject : FlowSubject) :
    subject.counter g = subject.counter f := by
  cases subject with
  | serving request attempt traffic => exact hLedger
  | transfer id => exact hOwn

end FlowSubject

def FlowRecord.subject (flow : FlowRecord) : FlowSubject :=
  if flow.request.isNil then .transfer flow.transfer
  else .serving flow.request flow.attempt flow.traffic

theorem FlowRecord.subject_of_request (hRequest : flow.request ≠ .nil) :
    flow.subject = .serving flow.request flow.attempt flow.traffic := by
  unfold subject
  simpa using hRequest

theorem FlowRecord.subject_of_transfer (hRequest : flow.request = .nil) :
    flow.subject = .transfer flow.transfer := by
  unfold subject
  simpa using hRequest

def Decision.flowSubject (decision : Decision) : FlowSubject :=
  if decision.subject.kind = .serving then
    .serving decision.subject.request decision.subject.attempt decision.treatment.trafficClass
  else .transfer decision.subject.transfer

def Op.flowSubject : Op → Option FlowSubject
| .openFlow decision _ _ => some decision.flowSubject
| .authorizeTransfer request _ _ => request.subject.map (fun subject => .transfer subject.transfer)
| _ => none

theorem RequestLedger.recordFlowBytes_sequence (id : FlowId) (bytes : UInt64) (inbound : Bool) :
    (ledger.recordFlowBytes id bytes inbound).2.nextFlowSequence = ledger.nextFlowSequence := by
  unfold recordFlowBytes
  split
  · rfl
  · split
    · rfl
    · split
      · rfl
      · split
        · rfl
        · rfl

theorem RequestLedger.releaseFlow_sequence (id : FlowId) :
    (ledger.releaseFlow id).2.nextFlowSequence = ledger.nextFlowSequence := by
  unfold releaseFlow
  split
  · rfl
  · rfl

theorem RequestLedger.releaseRequestFlows_sequence (request : RequestId) :
    (ledger.releaseRequestFlows request).nextFlowSequence = ledger.nextFlowSequence := by
  unfold releaseRequestFlows
  induction ledger.flowsByRequest.equalRange request generalizing ledger with
  | nil => rfl
  | cons flow rest ih =>
    refine (ih _).trans ?_
    unfold dropFlow
    split
    · rfl
    · rfl

namespace Fleet

variable {f g : Fleet} {terms : Terms}

theorem release_sequence (f : Fleet) (flow : FlowRecord) :
    (f.release flow).ledger.nextFlowSequence = f.ledger.nextFlowSequence := by
  unfold Fleet.release
  simp only
  split
  · rfl
  · exact releaseFlow_sequence f.ledger flow.id

theorem ruled_sequence (f : Fleet) (op : LedgerOp)
    (hFlows :
      RequestLedger.FlowsKept f.ledger (f.ledger.step op) ∨
        ∃ id, terms.ends id ∧ RequestLedger.FlowsDropped id f.ledger (f.ledger.step op)) :
    (f.ledger.step op).nextFlowSequence = f.ledger.nextFlowSequence := by
  rcases hFlows with hKept | ⟨id, -, hDropped⟩
  · exact congrArg FlowBook.sequence hKept.book
  · exact (congrArg FlowBook.sequence hDropped.book).trans
      (releaseRequestFlows_sequence f.ledger id)

/- Moves that mint nothing leave the counters alone. -/
theorem Move.sequences (hMove : Move terms f g) (hNone : ∀ id, ¬ terms.mints id) :
    g.carriage.nextFlowSequence = f.carriage.nextFlowSequence ∧
      g.ledger.nextFlowSequence = f.ledger.nextFlowSequence := by
  cases hMove with
  | ruled op hFlows => exact ⟨rfl, ruled_sequence f op hFlows⟩
  | charged id bytes inbound => exact ⟨rfl, recordFlowBytes_sequence f.ledger id bytes inbound⟩
  | released id flow hFlow => exact ⟨rfl, release_sequence f flow⟩
  | served flow _ _ _ _ hMinted | carried _ flow _ _ _ _ _ hMinted =>
    exact (hNone flow.id hMinted).elim
  | _ => exact ⟨rfl, rfl⟩

theorem Moves.sequences (hMoves : Moves terms f g) (hNone : ∀ id, ¬ terms.mints id) :
    g.carriage.nextFlowSequence = f.carriage.nextFlowSequence ∧
      g.ledger.nextFlowSequence = f.ledger.nextFlowSequence := by
  refine hMoves.invariant (fun h =>
      h.carriage.nextFlowSequence = f.carriage.nextFlowSequence ∧
        h.ledger.nextFlowSequence = f.ledger.nextFlowSequence) ?_ ⟨rfl, rfl⟩
  intro a b hMove hBefore
  have hStep := hMove.sequences hNone
  exact ⟨hStep.1.trans hBefore.1, hStep.2.trans hBefore.2⟩

end Fleet

---
-- Numbered Flows
---

namespace FlowSubject

theorem counter_of_kind {subject other : FlowSubject} (hKind : subject.isServing = other.isServing)
    (f : Fleet) : subject.counter f = other.counter f := by
  cases subject with
  | serving request attempt traffic =>
    cases other with
    | serving => rfl
    | transfer => cases hKind
  | transfer id =>
    cases other with
    | serving => cases hKind
    | transfer => rfl

end FlowSubject

namespace Fleet

/-
  An open flow has the word of its subject and a number its
  counter has reached.
-/
def Numbered (f : Fleet) : Prop :=
  ∀ id flow,
    f.carriage.flows.lookup id = some flow →
    id.low = flow.subject.word ∧ id.high ≤ flow.subject.counter f

variable {f g : Fleet} {terms : Terms}

/- No flow is new and no counter moves. -/
theorem Numbered.kept (hNumbered : f.Numbered)
    (hOwn : g.carriage.nextFlowSequence = f.carriage.nextFlowSequence)
    (hLedger : g.ledger.nextFlowSequence = f.ledger.nextFlowSequence)
    (hFlows :
      ∀ id flow,
        g.carriage.flows.lookup id = some flow →
        ∃ old, f.carriage.flows.lookup id = some old ∧ old.subject = flow.subject) :
    g.Numbered := by
  intro id flow hFlow
  rcases hFlows id flow hFlow with ⟨old, hOld, hSame⟩
  rw [← hSame, FlowSubject.counter_congr hOwn hLedger old.subject]
  exact hNumbered id old hOld

/- A flow is opened under the next number of its kind. -/
theorem Numbered.opened (hNumbered : f.Numbered)
    (hFlows : g.carriage.flows = f.carriage.flows.emplace flow.id flow)
    (hId : flow.id = flow.subject.identity f) (hCounts : flow.id.high ≠ 0)
    (hNext : flow.subject.counter g = flow.subject.counter f + 1)
    (hOther :
      ∀ subject : FlowSubject,
        subject.isServing ≠ flow.subject.isServing →
        subject.counter g = subject.counter f) : g.Numbered := by
  have hMore : flow.subject.counter f < flow.subject.counter f + 1 := by
    apply UInt64.lt_add_one
    intro hLast
    rw [hId] at hCounts
    apply hCounts
    change flow.subject.counter f + 1 = 0
    rw [hLast]
    rfl
  intro id held hHeld
  rw [hFlows] at hHeld
  rcases AList.lookup_emplace_cases hHeld with hOld | ⟨rfl, rfl⟩
  · rcases hNumbered id held hOld with ⟨hWord, hNumber⟩
    refine ⟨hWord, ?_⟩
    by_cases hKind : held.subject.isServing = flow.subject.isServing
    · rw [FlowSubject.counter_of_kind hKind] at hNumber ⊢
      rw [hNext]
      exact UInt64.le_of_lt (UInt64.lt_of_le_of_lt hNumber hMore)
    · rw [hOther held.subject hKind]
      exact hNumber
  · rw [hNext, hId]
    exact ⟨rfl, UInt64.le_refl _⟩

/- Moves keep the numbers while no counter wraps around. -/
theorem Move.numbered (hMove : Move terms f g) (hCounts : ∀ id, terms.mints id → id.high ≠ 0)
    (hCoherent : f.ledger.Coherent) (hNumbered : f.Numbered) : g.Numbered := by
  have hSame (id : FlowId) (flow : FlowRecord) (hFlow : f.carriage.flows.lookup id = some flow) :
      ∃ old, f.carriage.flows.lookup id = some old ∧ old.subject = flow.subject :=
    ⟨flow, hFlow, rfl⟩
  cases hMove with
  | ruled op hFlows => exact hNumbered.kept rfl (ruled_sequence f op hFlows) hSame
  | charged id bytes inbound =>
    exact hNumbered.kept rfl
      (recordFlowBytes_sequence f.ledger id bytes inbound) hSame
  | observed id flow bytes hFlow =>
    refine hNumbered.kept rfl rfl ?_
    intro other held hHeld
    change (f.carriage.flows.insert id
      { flow with observedBytes := bytes }).lookup other = some held at hHeld
    rw [AList.lookup_insert_if] at hHeld
    split at hHeld
    · rename_i hSelf
      cases hHeld
      exact ⟨flow, hSelf ▸ hFlow, rfl⟩
    · exact hSame other held hHeld
  | released id flow hFlow =>
    refine hNumbered.kept rfl (release_sequence f flow) ?_
    intro other held hHeld
    exact hSame other held (Carriage.lookup_flows_release hHeld).2
  | served flow now hOpened hTransfer hBase hMinted hSize =>
    rcases openFlow_ok hOpened with ⟨hId, record, entry, hRecord, -, hAfter⟩
    have hSubject := FlowRecord.subject_of_request (hCoherent.ne_nil hRecord)
    have hNext := congrArg RequestLedger.nextFlowSequence hAfter
    refine hNumbered.opened rfl ?_ (hCounts flow.id hMinted) ?_ ?_
    · rw [hSubject, hId]
      rfl
    · rw [hSubject]
      exact hNext
    · intro subject hKind
      rw [hSubject] at hKind
      cases subject with
      | serving => exact (hKind rfl).elim
      | transfer => rfl
  | carried transfer flow hTransfer hFree hRequest hId hBase hMinted hSize =>
    have hSubject := FlowRecord.subject_of_transfer hRequest
    refine hNumbered.opened rfl ?_ (hCounts flow.id hMinted) ?_ ?_
    · rw [hSubject]
      exact hId
    · rw [hSubject]
      rfl
    · intro subject hKind
      rw [hSubject] at hKind
      cases subject with
      | serving => rfl
      | transfer => exact (hKind rfl).elim
  | settled | registered => exact hNumbered.kept rfl rfl hSame

end Fleet

namespace Coordinator

variable {s : Coordinator} {id : FlowId}

/- No counter moved, so no flow is new. -/
theorem newFlowId_of_sequences {t : Coordinator} (result : Result FlowId)
    (hOwn : t.nextFlowSequence = s.nextFlowSequence)
    (hLedger : t.ledger.nextFlowSequence = s.ledger.nextFlowSequence) :
    newFlowId s t result = none := by
  cases result with
  | error status => rfl
  | ok id => exact if_pos ⟨hOwn, hLedger⟩

theorem Opening.identity {decision : Decision} {bytes : UInt64} {now : Int64}
    {answer : Result FlowId × Coordinator} (hOpening : s.Opening decision bytes now answer)
    (hNew : newFlowId s answer.2 answer.1 = some id) :
    id = decision.flowSubject.identity s.fleet := by
  unfold Decision.flowSubject
  cases hOpening with
  | refused => cases hNew
  | served held hClears hKind hOk =>
    rw [newFlowId_served _ hOk] at hNew
    cases hNew
    rw [if_pos hKind]
    exact (askLedger_ok hOk).1
  | found =>
    rw [newFlowId_of_sequences _ rfl rfl] at hNew
    cases hNew
  | carried transfer hClears hKind =>
    rw [newFlowId_carried] at hNew
    cases hNew
    rw [if_neg hKind]
    rfl

/- Only a granted authorization can have a new flow. -/
theorem Authorizing.identity {request : TrafficRequest} {now : Int64} {victim : Nat}
    {answer : Result TransferAuthorization × Coordinator}
    (hAuthorizing : s.Authorizing request now victim answer)
    (hNew : newFlowId s answer.2 (answer.1.map TransferAuthorization.flow) = some id) :
    ∃ subject, request.subject = some subject ∧
      id = (FlowSubject.transfer subject.transfer).identity s.fleet := by
  have hSequences := evaluate_sequences s request now victim
  -- counters that the evaluation left are the old ones
  have hOld {t : Coordinator} {result : Result FlowId} (hNew : newFlowId s t result = some id)
      (hOwn : t.nextFlowSequence = (s.evaluate request now victim).2.nextFlowSequence)
      (hLedger :
        t.ledger.nextFlowSequence =
          (s.evaluate request now victim).2.ledger.nextFlowSequence) : False := by
    rw [newFlowId_of_sequences _ (hOwn.trans hSequences.1) (hLedger.trans hSequences.2)] at hNew
    cases hNew
  cases hAuthorizing with
  | misaddressed | missing => cases hNew
  | unknown | declined => exact (hOld hNew rfl rfl).elim
  | denied subject =>
    have hMoves :
        Fleet.Moves Fleet.Terms.quiet (s.evaluate request now victim).2.fleet
          ((s.evaluate request now victim).2.closeTransfer subject.transfer .refused
            (s.evaluate request now victim).1.reason).fleet :=
      Releases.fleet (closeTransfer_releases _ trivial .refused _ rfl)
    have hSame := hMoves.sequences (fun _ hMints => hMints)
    exact (hOld hNew hSame.1 hSame.2).elim
  | granted subject transfer flow hSubject hKind _ _ hOpened =>
    refine ⟨subject, hSubject, ?_⟩
    change newFlowId s
      ((s.evaluate request now victim).2.openFlow (s.evaluate request now victim).1
        transfer.payloadBytes now).2 (.ok flow) = some id at hNew
    rw [← hOpened, ← newFlowId_congr _ _ hSequences.1 hSequences.2] at hNew
    have hId := (openFlow_opening _ _ _ now).identity hNew
    unfold Decision.flowSubject at hId
    rw [evaluate_subject, hSubject, Option.getD_some, hKind, if_neg (by decide)] at hId
    unfold FlowSubject.identity at hId ⊢
    rw [FlowSubject.counter_congr (f := s.fleet) hSequences.1 hSequences.2] at hId
    exact hId

/- An operation mints the next identity of its subject. -/
theorem minted_identity {op : Op} (hMinted : s.minted op = some id) :
    ∃ subject, op.flowSubject = some subject ∧ id = subject.identity s.fleet := by
  cases op with
  | openFlow decision bytes now =>
    exact ⟨decision.flowSubject, rfl, (openFlow_opening s decision bytes now).identity hMinted⟩
  | authorizeTransfer request now victim =>
    rcases (authorizeTransfer_authorizing s request now victim).identity hMinted with
      ⟨subject, hSubject, hId⟩
    refine ⟨.transfer subject.transfer, ?_, hId⟩
    simp only [Op.flowSubject, hSubject, Option.map_some]
  | _ => cases hMinted

---
-- Distinct Identities
---

/-
  A flow is opened only while its counter does not wrap
  around, and no open flow of the other kind has both its
  number and its word.
-/
def KeepsApart (s : Coordinator) (label : Label) : Prop :=
  ∀ op subject,
    label = .op op → op.flowSubject = some subject → (s.minted op).isSome = true →
    subject.counter s.fleet + 1 ≠ 0 ∧
      ∀ id flow,
        s.flows.lookup id = some flow → flow.subject.isServing ≠ subject.isServing →
        id.high = subject.counter s.fleet + 1 → flow.subject.word ≠ subject.word

/-
  Whatever may open a flow is called while the counter does
  not wrap around, and while no open flow of the other kind
  has both the next number and the word.
-/
def NumbersApart (s : Coordinator) (label : Label) : Prop :=
  ∀ op subject,
    label = .op op → op.flowSubject = some subject →
    subject.counter s.fleet + 1 ≠ 0 ∧
      ∀ id flow,
        s.flows.lookup id = some flow → flow.subject.isServing ≠ subject.isServing →
        id.high = subject.counter s.fleet + 1 → flow.subject.word ≠ subject.word

variable {mt : Generator} {config : CoordinatorConfig} {start s t : Coordinator}
variable {labels : List Label} {label : Label}

theorem NumbersApart.keepsApart (hApart : s.NumbersApart label) : s.KeepsApart label :=
  fun op subject hLabel hSubject _ => hApart op subject hLabel hSubject

theorem KeepsApart.mintsFresh (hApart : s.KeepsApart label) (hNumbered : s.fleet.Numbered) :
    s.MintsFresh label := by
  intro op id hLabel hMinted
  rcases minted_identity hMinted with ⟨subject, hSubject, rfl⟩
  rcases hApart op subject hLabel hSubject (by rw [hMinted]; rfl) with ⟨hCounts, hOther⟩
  refine ⟨fun hNil => hCounts (congrArg Id128.high hNil), ?_⟩
  cases hFlow : s.flows.lookup (subject.identity s.fleet) with
  | none => rfl
  | some flow =>
    rcases hNumbered _ flow hFlow with ⟨hWord, hNumber⟩
    by_cases hKind : flow.subject.isServing = subject.isServing
    · rw [FlowSubject.counter_of_kind hKind] at hNumber
      have hLast : subject.counter s.fleet ≠ -1 := by
        intro hLast
        apply hCounts
        rw [hLast]
        rfl
      exact (UInt64.not_le.mpr (UInt64.lt_add_one hLast) hNumber).elim
    · exact (hOther _ flow hFlow hKind rfl hWord.symm).elim

theorem Transition.numbered (hTransition : Transition mt s label t) (hApart : s.KeepsApart label)
    (hCoherent : s.ledger.Coherent) (hNumbered : s.fleet.Numbered) : t.fleet.Numbered := by
  rcases hTransition.fleet with hIdle | ⟨op, rfl, rfl⟩
  · intro id flow hFlow
    rw [hIdle.carriage] at hFlow
    cases hFlow
  · have hCounts (id : FlowId) (hMinted : s.minted op = some id) : id.high ≠ 0 := by
      rcases minted_identity hMinted with ⟨subject, hSubject, rfl⟩
      refine (hApart op subject rfl hSubject ?_).1
      rw [hMinted]
      rfl
    have hBoth := (step_fleet s hCoherent op).invariant (fun f => f.ledger.Coherent ∧ f.Numbered)
      (fun f g hMove hKept => ⟨hMove.coherent hKept.1, hMove.numbered hCounts hKept.1 hKept.2⟩)
      ⟨hCoherent, hNumbered⟩
    exact hBoth.2

/-
  In every state of a run that keeps the kinds apart, a new
  flow gets an identity that no open flow has.
-/
theorem minted_not_open (hStarted : Started mt config start)
    (hRun : Run (Guarded KeepsApart (Transition mt)) start labels s) (op : Op) (id : FlowId)
    (hApart : s.KeepsApart (.op op)) (hMinted : s.minted op = some id) :
    s.flows.lookup id = none := by
  have hNumbered : s.fleet.Numbered := by
    refine hRun.invariant_of_invariant (fun state => state.ledger.Coherent)
      (fun state => state.fleet.Numbered) (fun _ _ _ hStep hCoherent => hStep.2.coherent hCoherent)
      (fun _ _ _ hStep hCoherent hBefore => hStep.2.numbered hStep.1 hCoherent hBefore)
      hStarted.coherent ?_
    rcases hStarted with ⟨entropy, rfl⟩
    intro other flow hFlow
    cases hFlow
  exact (hApart.mintsFresh hNumbered op id rfl hMinted).2

/- Kinds that are seen to be kept apart. -/
def plainlyApart (s : Coordinator) (op : Op) : Bool :=
  op.flowSubject.all (fun subject =>
    subject.counter s.fleet + 1 != 0 &&
      s.flows.entries.all (fun entry =>
        entry.2.subject.isServing == subject.isServing ||
          entry.1.high != subject.counter s.fleet + 1 || entry.2.subject.word != subject.word))

theorem numbersApart_of_plainlyApart (s : Coordinator) (op : Op)
    (hPlain : plainlyApart s op = true) : s.NumbersApart (.op op) := by
  rintro other subject hSame hSubject
  cases hSame
  unfold plainlyApart at hPlain
  rw [hSubject] at hPlain
  simp only [Option.all_some, Bool.and_eq_true, bne_iff_ne,
    List.all_eq_true, Bool.or_eq_true, beq_iff_eq] at hPlain
  refine ⟨hPlain.1, ?_⟩
  intro id flow hFlow hKind hNumber
  have hMem := (AList.mem_entries_iff s.flows id flow).mpr hFlow
  rcases hPlain.2 _ hMem with (hServing | hHigh) | hWord
  · exact (hKind hServing).elim
  · exact (hHigh hNumber).elim
  · exact hWord

theorem minted_not_open_served :
    let asked := sampleStart.steps
      (ingressOps ++ stateTransferOps unmixedTransfer ++
        [.authorizeTransfer (stateTransferTraffic unmixedTransfer) 4 0])
    let opening := Op.openFlow (asked.evaluate ingressTraffic 5 0).1 64 6
    ∃ id, asked.minted opening = some id ∧ asked.flows.size = 1 ∧ asked.flows.lookup id = none := by
  intro asked opening
  have hSome : (asked.minted opening).isSome = true := by decide
  rcases Option.isSome_iff_exists.mp hSome with ⟨id, hMinted⟩
  refine ⟨id, hMinted, by decide, ?_⟩
  refine minted_not_open sampleStart_started
    (run_passes sampleGenerator plainlyApart
      (fun state op hPlain => (numbersApart_of_plainlyApart state op hPlain).keepsApart)
      sampleStart _ ?_) opening id
    (numbersApart_of_plainlyApart asked opening ?_).keepsApart hMinted
  · decide
  · decide

/- Its mixed word is the one of the ingress traffic. -/
def clashingTransfer : StateTransferId :=
  ⟨0, 0xF7B027BED88A2C1A⟩

/-
  The request has a serving flow. The first flow of the
  transfer gets the same identity, so it is not stored, and
  the transfer names the flow of the request.
-/
theorem transfer_takes_serving_identity :
    let asked := sampleStart.steps ingressOps
    let s := sampleStart.steps
      (ingressOps ++ [ .openFlow (asked.evaluate ingressTraffic 5 0).1 64 6 ] ++
        stateTransferOps clashingTransfer)
    let opening := Op.authorizeTransfer (stateTransferTraffic clashingTransfer) 7 0
    Reachable sampleGenerator {} s ∧
      ∃ id, s.minted opening = some id ∧
        (s.flows.lookup id).map FlowRecord.request = some ⟨0, 1⟩ ∧ (s.step opening).flows.size = 1 ∧
        ((s.step opening).transfers.lookup
          clashingTransfer).map TransferRecord.flow = some id := by
  intro asked s opening
  exact ⟨sampleStart_reachable _, ⟨1, 0x9F3779B97F4A7C17⟩, by decide, by decide, by decide,
    by decide⟩

end Coordinator

end TrafficFabric
