import TrafficFabric.Ledger.Attempts
import TrafficFabric.Ledger.Lifecycle
import TrafficFabric.Library.Ranked

/-
  The progress of one attempt over the life of a ledger.

  An open attempt moves along the legal stages or ends, and
  an attempt that has ended stays as it is. The stages are
  ranked so that every change climbs, which bounds the
  changes and rules out a return to an earlier stage.

  Replacing an attempt does not ask whether the attempt has
  ended already, so it is the one operation that rewrites an
  attempt that has.

  Main declarations:
    * `ServingStage.rank`
    * `RequestRecord.Consistent`
    * `RequestLedger.attempt_progress_monotone`
    * `RequestLedger.cancelled_attempt_superseded`
-/

---
-- Stages
---

namespace TrafficFabric

open List ServingStage Enumeration

namespace ServingStage

variable {source target : ServingStage}

/- The place of a stage on the way through the service. -/
def rank : ServingStage → Nat
| .unknown => 0
| .admitted => 1
| .routing => 2
| .prefillQueued => 3
| .prefillRunning => 4
| .handoffPending => 5
| .decodeQueued => 6
| .decodeRunning => 7
| .streaming => 8
| .completing => 9
| .completed | .cancelled | .failed => 10

theorem rank_le (stage : ServingStage) : stage.rank ≤ 10 := by
  cases stage <;> decide

theorem rank_lt_of_isTerminal (hServing : source.isTerminal = false)
    (hTerminal : target.isTerminal = true) : source.rank < target.rank := by
  have hTarget : target.rank = 10 := by
    cases target <;> first | rfl | cases hTerminal
  rw [hTarget]
  cases source <;> first | decide | cases hServing

theorem climbs_of_isLegalTransition (hLegal : isLegalTransition source target = true) :
    Climbs rank source target := by
  have hAll :
      ∀ a ∈ (listed : List ServingStage),
        ∀ b ∈ (listed : List ServingStage),
          isLegalTransition a b = true → a = b ∨ a.rank < b.rank := by
    decide
  exact hAll source (complete source) target (complete target) hLegal

end ServingStage

---
-- Consistent Records
---

/-
  An attempt in a terminal stage has ended, and a request
  with a completed attempt is terminal.
-/
structure RequestRecord.Consistent (record : RequestRecord) : Prop where
  ended :
    ∀ entry ∈ record.attempts, entry.stage.isTerminal = true → entry.lifecycle.isTerminal = true
  finished :
    ∀ entry ∈ record.attempts, entry.lifecycle = .completed → record.lifecycle.isTerminal = true

namespace AttemptRecord

variable {again finished : Prop} {before after : AttemptRecord}

/- How an entry may differ after one label. -/
structure Progresses (before after : AttemptRecord) : Prop where
  identity : after.identity = before.identity
  settled : before.lifecycle.isTerminal = true → after.progress = before.progress
  stage :
    after.stage = before.stage ∨
      isLegalTransition before.stage after.stage = true ∨
        after.stage.isTerminal = true ∧
          before.lifecycle.isTerminal = false ∧ after.lifecycle.isTerminal = true
  climbs : Climbs rank before.stage after.stage

theorem Progresses.same (hIdentity : after.identity = before.identity)
    (hProgress : after.progress = before.progress) :
    Progresses before after where
  identity := hIdentity
  settled _ := hProgress
  stage := .inl (congrArg AttemptProgress.stage hProgress)
  climbs := .inl (congrArg AttemptProgress.stage hProgress).symm

/- Ageing without a rewrite is progress. -/
theorem Older.progresses (hOlder : Older again finished before after) (hOnce : ¬ again)
    (hEnded : before.stage.isTerminal = true → before.lifecycle.isTerminal = true) :
    Progresses before after := by
  rcases hOlder with ⟨hIdentity, hAges⟩
  cases hAges with
  | kept hProgress => exact .same hIdentity hProgress
  | advanced hOpen hStill hServing hLegal =>
    exact ⟨hIdentity, by simp [hOpen], .inr (.inl hLegal),
      climbs_of_isLegalTransition hLegal⟩
  | ended hOpen hClosed hStage =>
    have hServing : before.stage.isTerminal = false := by
      by_contra hTerminal
      rw [hEnded (by simpa using hTerminal)] at hOpen
      cases hOpen
    rcases hStage with hSame | hTerminal
    · exact ⟨hIdentity, by simp [hOpen], .inl hSame, .inl hSame.symm⟩
    · refine ⟨hIdentity, by simp [hOpen], ?_, ?_⟩
      · exact .inr (.inr ⟨hTerminal, hOpen, hClosed⟩)
      · exact .inr (rank_lt_of_isTerminal hServing hTerminal)
  | rewritten _ hAgain => exact absurd hAgain hOnce

/- Ageing keeps terminal stages to entries that ended. -/
theorem Older.ended (hOlder : Older again finished before after) (hOnce : ¬ again)
    (hEnded : before.stage.isTerminal = true → before.lifecycle.isTerminal = true)
    (hStage : after.stage.isTerminal = true) : after.lifecycle.isTerminal = true := by
  rcases hOlder with ⟨-, hAges⟩
  cases hAges with
  | kept hProgress =>
    have hSameStage : after.stage = before.stage := congrArg AttemptProgress.stage hProgress
    have hSame : after.lifecycle = before.lifecycle := congrArg AttemptProgress.lifecycle hProgress
    rw [hSame]
    exact hEnded (hSameStage ▸ hStage)
  | advanced _ _ hServing =>
    rw [hServing] at hStage
    cases hStage
  | ended _ hClosed => exact hClosed
  | rewritten _ hAgain => exact absurd hAgain hOnce

theorem Older.completed (hOlder : Older again finished before after)
    (hCompleted : after.lifecycle = .completed) : before.lifecycle = .completed ∨ finished := by
  rcases hOlder with ⟨-, hAges⟩
  cases hAges with
  | kept hProgress =>
    have hSame := congrArg AttemptProgress.lifecycle hProgress
    exact .inl (hSame.symm.trans hCompleted)
  | advanced _ hStill =>
    rw [hCompleted] at hStill
    cases hStill
  | ended _ _ _ hFinished | rewritten _ _ hFinished => exact .inr (hFinished hCompleted)

/- What has ended stays as it is from then on. -/
theorem pairwise_settled {entries : List AttemptRecord} (hChain : entries.IsChain Progresses) :
    entries.Pairwise (fun before after => before.lifecycle.isTerminal = true →
      after.progress = before.progress) := by
  let Settled (before after : AttemptRecord) : Prop :=
    before.lifecycle.isTerminal = true → after.progress = before.progress
  have hTrans : IsTrans AttemptRecord Settled := by
    constructor
    intro first second third hFirst hSecond hEnded
    have hSame := hFirst hEnded
    have hLifecycle : second.lifecycle = first.lifecycle := congrArg AttemptProgress.lifecycle hSame
    rw [← hLifecycle] at hEnded
    exact (hSecond hEnded).trans hSame
  have hSettled := hChain.imp (fun _ _ hStep => hStep.settled)
  exact isChain_iff_pairwise.mp hSettled

end AttemptRecord

namespace RequestRecord

variable {limits : LedgerLimits} {id : RequestId} {op : LedgerOp} {record updated : RequestRecord}
variable {entries aged : List AttemptRecord}
variable {again finished : Prop} {index : Nat} {before : AttemptRecord}

/- Where an entry of an aged list comes from. -/
theorem older_of_mem (hAged : List.Forall₂ (AttemptRecord.Older again finished) entries aged)
    {after : AttemptRecord} (hAfter : after ∈ aged) :
    ∃ before ∈ entries, AttemptRecord.Older again finished before after := by
  induction hAged with
  | nil => cases hAfter
  | cons hOlder _ ih =>
    rcases mem_cons.mp hAfter with rfl | hAfter
    · exact ⟨_, mem_cons_self, hOlder⟩
    · rcases ih hAfter with ⟨before, hMem, hOlder⟩
      exact ⟨before, mem_cons_of_mem _ hMem, hOlder⟩

theorem older_of_getElem? (hAged : List.Forall₂ (AttemptRecord.Older again finished) entries aged)
    (hBefore : entries[index]? = some before) :
    ∃ after, aged[index]? = some after ∧ AttemptRecord.Older again finished before after := by
  induction hAged generalizing index with
  | nil => cases hBefore
  | cons hOlder _ ih =>
    cases index with
    | zero =>
      cases hBefore
      exact ⟨_, rfl, hOlder⟩
    | succ index => exact ih hBefore

/- A live request has no completed attempt to publish. -/
theorem Consistent.not_publishesCompleted (hConsistent : record.Consistent) :
    ¬ record.PublishesCompleted id op := by
  rintro ⟨publication, now, entry, -, -, hLive, hFind, hCompleted⟩
  have hFinished := hConsistent.finished entry (mem_of_findKey? hFind) hCompleted
  rw [hFinished] at hLive
  cases hLive

theorem Consistent.registered (id : RequestId) (now : Int64) :
    (RequestRecord.registered id now).Consistent where
  ended entry hMem := by
    cases hMem
  finished entry hMem := by
    cases hMem

theorem Consistent.restored (hConsistent : record.Consistent) : record.restored.Consistent := by
  unfold RequestRecord.restored
  split
  · exact ⟨hConsistent.ended, hConsistent.finished⟩
  · rename_i hLive
    refine ⟨hConsistent.ended, ?_⟩
    intro entry hMem hCompleted
    exact absurd (hConsistent.finished entry hMem hCompleted) hLive

/- Entries that age without a rewrite stay consistent. -/
theorem Consistent.of_aged (hConsistent : record.Consistent)
    (hOnce : ¬ record.RewritesEnded id op)
    (hTerminal : record.lifecycle.isTerminal = true → updated.lifecycle.isTerminal = true)
    (hAged :
      List.Forall₂
        (AttemptRecord.Older (record.RewritesEnded id op) (updated.lifecycle.isTerminal = true))
        record.attempts aged) {entry : AttemptRecord} (hEntry : entry ∈ aged) :
    (entry.stage.isTerminal = true →
        entry.lifecycle.isTerminal = true) ∧
      (entry.lifecycle = .completed → updated.lifecycle.isTerminal = true) := by
  rcases older_of_mem hAged hEntry with ⟨before, hBefore, hOlder⟩
  refine ⟨?_, ?_⟩
  · exact hOlder.ended hOnce (hConsistent.ended before hBefore)
  · intro hCompleted
    rcases hOlder.completed hCompleted with hAlready | hFinished
    · exact hTerminal (hConsistent.finished before hBefore hAlready)
    · exact hFinished

theorem Consistent.evolves (hConsistent : record.Consistent)
    (hEvolves : Evolves limits id op record updated) (hOnce : ¬ record.RewritesEnded id op)
    (hTerminal : record.lifecycle.isTerminal = true → updated.lifecycle.isTerminal = true) :
    updated.Consistent := by
  cases hEvolves with
  | aged hAttempts =>
    constructor
    · intro entry hEntry
      exact (hConsistent.of_aged hOnce hTerminal hAttempts hEntry).1
    · intro entry hEntry
      exact (hConsistent.of_aged hOnce hTerminal hAttempts hEntry).2
  | bound aged fresh hAged hAttempts _ _ _ hStage hOpen =>
    have hCases : ∀ entry ∈ updated.attempts, entry ∈ aged ∨ entry = fresh := by
      intro entry hEntry
      rw [hAttempts] at hEntry
      simpa using hEntry
    constructor
    · intro entry hEntry hEnded
      rcases hCases entry hEntry with hOld | rfl
      · exact (hConsistent.of_aged hOnce hTerminal hAged hOld).1 hEnded
      · rw [hStage] at hEnded
        cases hEnded
    · intro entry hEntry hCompleted
      rcases hCases entry hEntry with hOld | rfl
      · exact (hConsistent.of_aged hOnce hTerminal hAged hOld).2 hCompleted
      · rw [hOpen] at hCompleted
        cases hCompleted

/- Every entry makes progress where it stands. -/
theorem Evolves.progresses (hEvolves : Evolves limits id op record updated)
    (hConsistent : record.Consistent) (hOnce : ¬ record.RewritesEnded id op)
    (hBefore : record.attempts[index]? = some before) :
    ∃ after, updated.attempts[index]? = some after ∧ before.Progresses after := by
  have hEnded := hConsistent.ended before (mem_of_getElem? hBefore)
  cases hEvolves with
  | aged hAttempts =>
    rcases older_of_getElem? hAttempts hBefore with ⟨after, hAfter, hOlder⟩
    exact ⟨after, hAfter, hOlder.progresses hOnce hEnded⟩
  | bound aged fresh hAged hAttempts =>
    rcases older_of_getElem? hAged hBefore with ⟨after, hAfter, hOlder⟩
    refine ⟨after, ?_, hOlder.progresses hOnce hEnded⟩
    rw [hAttempts, List.getElem?_append_left]
    · exact hAfter
    · exact (List.getElem?_eq_some_iff.mp hAfter).1

end RequestRecord

---
-- Runs
---

namespace RequestLedger

/-
  Labels that touch an attempt that has ended: replacing it
  while it is current, and an inconsistent record from
  outside.
-/
def Reopens (ledger : RequestLedger) : LedgerLabel → Prop
| .op (.supersedeAttempt id attempt _ _) =>
  ∃ record entry,
    ledger.requests.lookup id = some record ∧
      record.isCurrentAttempt attempt = true ∧ record.findAttempt attempt = some entry ∧
      entry.lifecycle.isTerminal = true
| .op (.restoreRecord record) => ¬ record.Consistent
| _ => False

/- Every record of the ledger is consistent. -/
def Consistent (ledger : RequestLedger) : Prop :=
  ∀ id record, ledger.requests.lookup id = some record → record.Consistent

/- An allowed label that does not lose the request. -/
def Keeps (id : RequestId) (allowed : RequestLedger → LedgerLabel → Prop) (ledger : RequestLedger)
    (label : LedgerLabel) (after : RequestLedger) : Prop :=
  Cycles allowed ledger label after ∧ after.contains id = true

def entryAt (id : RequestId) (index : Nat) (ledger : RequestLedger) : Option AttemptRecord :=
  (ledger.requests.lookup id).bind (fun record => record.attempts[index]?)

variable {limits : LedgerLimits} {ledger : RequestLedger} {label : LedgerLabel} {op : LedgerOp}
variable {id : RequestId} {record updated : RequestRecord}

theorem not_rewritesEnded (hRecord : ledger.requests.lookup id = some record)
    (hConsistent : record.Consistent) (hAllowed : ¬ ledger.Reopens (.op op)) :
    ¬ record.RewritesEnded id op := by
  rintro (hSupersedes | hPublishes)
  · rcases hSupersedes with ⟨attempt, replacement, now, entry, rfl, hCurrent, hFind, hEnded⟩
    exact hAllowed ⟨record, entry, hRecord, hCurrent, hFind, hEnded⟩
  · exact hConsistent.not_publishesCompleted hPublishes

/- A terminal request that is retained stays terminal. -/
theorem step_terminal (hRecord : ledger.requests.lookup id = some record)
    (hAfter : (ledger.step op).requests.lookup id = some updated)
    (hTerminal : record.lifecycle.isTerminal = true) : updated.lifecycle.isTerminal = true := by
  have hView : ledger.view id = some record.view := by
    unfold RequestLedger.view
    rw [hRecord]
    rfl
  have hNext : (ledger.step op).view id = some updated.view := by
    unfold RequestLedger.view
    rw [hAfter]
    rfl
  have hRetained : (ledger.step op).contains id = true := by
    unfold contains
    rw [hAfter]
    rfl
  rcases step_retained hView hRetained with hSame | ⟨event, next, -, hStep, hStepped⟩
  · rw [hNext] at hSame
    have hLifecycle := congrArg RequestView.lifecycle (Option.some.inj hSame)
    change updated.view.lifecycle.isTerminal = true
    rw [hLifecycle]
    exact hTerminal
  · rw [hNext] at hStepped
    cases hStepped
    exact hStep.terminal hTerminal

theorem Consistent.cycle (hRegular : ledger.Regular limits) (hConsistent : ledger.Consistent)
    (hAllowed : ¬ ledger.Reopens label) : (ledger.cycle label).Consistent := by
  intro id updated hAfter
  cases label with
  | op op =>
    cases step_arises hAfter with
    | evolved record hRecord hEvolves =>
      have hHere := hConsistent id record hRecord
      exact hHere.evolves hEvolves (not_rewritesEnded hRecord hHere hAllowed)
        (step_terminal hRecord hAfter)
    | registered now _ hUpdated =>
      rw [hUpdated]
      exact .registered id now
    | restored record hOp _ hUpdated =>
      subst hOp
      rw [hUpdated]
      exact (not_not.mp hAllowed).restored
  | restart maxTerminal =>
    rcases hRegular.coherent.lookup_restarted hAfter with ⟨record, hRecord, rfl⟩
    exact (hConsistent id record hRecord).restored

/- One label lets every entry of a kept request progress. -/
theorem cycle_progress (hRegular : ledger.Regular limits) (hConsistent : ledger.Consistent)
    (hAllowed : ¬ ledger.Reopens label) {index : Nat} {before : AttemptRecord}
    (hBefore : ledger.entryAt id index = some before)
    (hKept : (ledger.cycle label).contains id = true) :
    ∃ after, (ledger.cycle label).entryAt id index = some after ∧ before.Progresses after := by
  rcases Option.bind_eq_some_iff.mp hBefore with ⟨record, hRecord, hEntry⟩
  rcases Option.isSome_iff_exists.mp hKept with ⟨updated, hAfter⟩
  have hHere := hConsistent id record hRecord
  have hFound :
      ∀ after, updated.attempts[index]? = some after →
        (ledger.cycle label).entryAt id index = some after := by
    intro after hAt
    exact Option.bind_eq_some_iff.mpr ⟨updated, hAfter, hAt⟩
  cases label with
  | op op =>
    cases step_arises hAfter with
    | evolved old hOld hEvolves =>
      rw [hRecord] at hOld
      cases hOld
      rcases hEvolves.progresses hHere (not_rewritesEnded hRecord hHere hAllowed) hEntry with
        ⟨after, hAt, hProgresses⟩
      exact ⟨after, hFound after hAt, hProgresses⟩
    | registered _ hFresh | restored _ _ hFresh =>
      rw [hRecord] at hFresh
      cases hFresh
  | restart maxTerminal =>
    rcases hRegular.coherent.lookup_restarted hAfter with ⟨old, hOld, rfl⟩
    rw [hRecord] at hOld
    cases hOld
    refine ⟨before, hFound before ?_, .same rfl rfl⟩
    rw [record.restored_attempts]
    exact hEntry

theorem run_progress {labels : List LedgerLabel} {start : RequestLedger}
    (hRegular : start.Regular limits) (hConsistent : start.Consistent)
    {index : Nat} {entry : AttemptRecord} (hEntry : start.entryAt id index = some entry)
    (hRun : Run (Keeps id (fun state label => ¬ state.Reopens label)) start labels ledger) :
    ∃ rest,
      (labels.scanl cycle start).map (entryAt id index) = (entry :: rest).map some ∧
        (entry :: rest).IsChain AttemptRecord.Progresses := by
  induction hRun generalizing entry with
  | nil state => exact ⟨[], by simp [hEntry], .singleton _⟩
  | cons hStep hRest ih =>
    rcases hStep with ⟨⟨hAllowed, rfl⟩, hKept⟩
    rcases cycle_progress hRegular hConsistent hAllowed hEntry hKept with
      ⟨after, hAfter, hProgresses⟩
    rcases ih (hRegular.cycle _) (hConsistent.cycle hRegular hAllowed) hAfter with
      ⟨rest, hSeen, hChain⟩
    refine ⟨after :: rest, ?_, ?_⟩
    · rw [scanl_cons, map_cons, hSeen, hEntry]
      rfl
    · exact .cons_cons hProgresses hChain

/-
  From any ledger that operations and restarts lead to, an
  attempt of a request that is kept makes progress only: it
  is not touched once it has ended, it changes its stage at
  most ten times, and it never returns to a stage.
-/
theorem attempt_progress_monotone
    (limits : LedgerLimits) (earlier : List LedgerLabel) (start : RequestLedger)
    (hStart : Run (Cycles (fun state label => ¬ state.Reopens label)) (create limits) earlier start)
    (id : RequestId) (index : Nat) (entry : AttemptRecord)
    (hEntry : start.entryAt id index = some entry)
    (labels : List LedgerLabel) (ledger : RequestLedger)
    (hRun : Run (Keeps id (fun state label => ¬ state.Reopens label)) start labels ledger) :
    ∃ entries : List AttemptRecord,
      (labels.scanl cycle start).map (entryAt id index) = entries.map some ∧
        entries.IsChain AttemptRecord.Progresses ∧
        entries.Pairwise (fun before after => before.lifecycle.isTerminal = true →
          after.progress = before.progress) ∧
        ((entries.map AttemptRecord.stage).destutter (· ≠ ·)).length ≤ 11 ∧
        ∀ (i j k : Nat) stage other, i ≤ j → j ≤ k →
          (entries.map AttemptRecord.stage)[i]? = some stage →
          (entries.map AttemptRecord.stage)[j]? = some other →
          (entries.map AttemptRecord.stage)[k]? = some stage → other = stage := by
  have hKept : start.Regular limits ∧ start.Consistent := by
    apply hStart.invariant (fun state => state.Regular limits ∧ state.Consistent)
    · rintro state label next ⟨hAllowed, rfl⟩ ⟨hRegular, hConsistent⟩
      exact ⟨hRegular.cycle label, hConsistent.cycle hRegular hAllowed⟩
    · refine ⟨.create limits, ?_⟩
      intro id record hNone
      cases hNone
  rcases run_progress hKept.1 hKept.2 hEntry hRun with ⟨rest, hSeen, hChain⟩
  have hClimbs : ((entry :: rest).map AttemptRecord.stage).IsChain (Climbs rank) := by
    rw [isChain_map]
    exact hChain.imp (fun _ _ hStep => hStep.climbs)
  refine ⟨entry :: rest, hSeen, hChain, ?_, ?_, ?_⟩
  · exact AttemptRecord.pairwise_settled hChain
  · exact Climbs.length_destutter_le hClimbs 10 (fun stage _ => stage.rank_le)
  · intro i j k stage other hLeft hRight hFirst hBetween hLast
    exact Climbs.no_return hClimbs hLeft hRight hFirst hBetween hLast

/- An attempt that runs, is cancelled and restarts. -/
theorem attempt_progress_monotone_cancelled :
    let request : RequestId := ⟨1, 1⟩
    let attempt : AttemptId := ⟨2, 1⟩
    let start :=
      (create {}).cycles
        [.op (.registerRequest request 1), .op (.registerAttempt request attempt 0 .unset .unset 2)]
    let labels : List LedgerLabel :=
      [.op (.advanceStage request attempt .admitted 3),
        .restart 16,
        .op (.cancelRequest request .cancelled ⟨1⟩ 4)]
    ∃ entries : List AttemptRecord,
      (labels.scanl cycle start).map (entryAt request 0) = entries.map some ∧
        entries.map AttemptRecord.stage = [.unknown, .admitted, .admitted, .cancelled] ∧
        entries.IsChain AttemptRecord.Progresses := by
  intro request attempt start labels
  have hStart :
      Run (Cycles (fun state label => ¬ state.Reopens label)) (create {})
        [.op (.registerRequest request 1),
          .op (.registerAttempt request attempt 0 .unset .unset 2)] start :=
    .cons ⟨not_false, rfl⟩ (Run.single ⟨not_false, rfl⟩)
  have hRun :
      Run (Keeps request (fun state label => ¬ state.Reopens label)) start labels
        (start.cycles labels) :=
    .cons ⟨⟨not_false, rfl⟩, by decide⟩
      (.cons ⟨⟨not_false, rfl⟩, by decide⟩ (Run.single ⟨⟨not_false, rfl⟩, by decide⟩))
  have hStages :
      (labels.scanl cycle start).map (fun state =>
        (state.entryAt request 0).map AttemptRecord.stage) =
          [some .unknown, some .admitted, some .admitted, some .cancelled] := by
    decide
  rcases Option.isSome_iff_exists.mp (show (start.entryAt request 0).isSome = true by decide)
    with ⟨entry, hEntry⟩
  rcases attempt_progress_monotone {} _ start hStart request 0 entry hEntry labels _ hRun with
    ⟨entries, hSeen, hChain, -⟩
  refine ⟨entries, hSeen, ?_, hChain⟩
  have hMapped := congrArg (List.map (Option.map AttemptRecord.stage)) hSeen
  rw [map_map, map_map] at hMapped
  have hSome :
      (entries.map AttemptRecord.stage).map some =
        [unknown, .admitted, .admitted, .cancelled].map some := by
    rw [map_map]
    exact hMapped.symm.trans hStages
  exact map_injective_iff.mpr (Option.some_injective ServingStage) hSome

/-
  An interrupted request has its attempt cancelled. The
  attempt is replaced all the same, and from then on it says
  that it was superseded.
-/
theorem cancelled_attempt_superseded :
    let request : RequestId := ⟨1, 1⟩
    let attempt : AttemptId := ⟨2, 1⟩
    let interrupted :=
      (create {}).cycles
        [.op (.registerRequest request 1),
          .op (.registerAttempt request attempt 0 .unset .unset 2),
          .op (.markRequestInterrupted request 3)]
    let replaced := interrupted.cycle (.op (.supersedeAttempt request attempt ⟨2, 2⟩ 4))
    (interrupted.entryAt request 0).map
        AttemptRecord.progress =
          some
            { stage := .unknown
              lifecycle := .cancelled
              terminalReason := .cancelled
              successPublished := false
              failurePublished := false } ∧
      (replaced.entryAt request 0).map
        AttemptRecord.progress =
          some
            { stage := .unknown
              lifecycle := .superseded
              terminalReason := .attemptSuperseded
              successPublished := false
              failurePublished := false } := by
  decide

end RequestLedger

end TrafficFabric
