import TrafficFabric.Ledger.Recovery

/-
  The attempt entries of a request: what one operation and
  one restart of the ledger can do to them.

  Entries are only appended, and every entry keeps its
  place, its identity and its generation. Binding an
  attempt appends one entry and makes it current; every
  other change rewrites entries in place.

  A restart clears the ledger and restores what it
  exported, all of it or nothing.

  Main declarations:
    * `AttemptRecord.Ages`
    * `RequestRecord.Evolves`
    * `RequestLedger.step_arises`
    * `RequestLedger.Coherent.lookup_restarted`
-/

---
-- Entries
---

namespace TrafficFabric

open RequestRecord Result AttemptRecord List

/- How far an attempt has come, and how it ended. -/
structure AttemptProgress where
  stage : ServingStage
  lifecycle : AttemptLifecycle
  terminalReason : ReasonCode
  successPublished : Bool
  failurePublished : Bool
deriving DecidableEq

namespace AttemptRecord

def progress (entry : AttemptRecord) : AttemptProgress where
  stage := entry.stage
  lifecycle := entry.lifecycle
  terminalReason := entry.terminalReason
  successPublished := entry.successPublished
  failurePublished := entry.failurePublished

/- What an entry was bound as. -/
def identity (entry : AttemptRecord) : AttemptId × AttemptGeneration :=
  (entry.id, entry.generation)

/-
  The progress of an entry before and after an operation.
  An entry that has ended is rewritten only under `again`,
  and an entry completes only under `finished`.
-/
inductive Ages (again finished : Prop) (before after : AttemptRecord) : Prop
| kept (hProgress : after.progress = before.progress)
| advanced (hOpen : before.lifecycle.isTerminal = false)
    (hStill : after.lifecycle.isTerminal = false) (hServing : after.stage.isTerminal = false)
    (hLegal : ServingStage.isLegalTransition before.stage after.stage = true)
| ended (hOpen : before.lifecycle.isTerminal = false) (hEnded : after.lifecycle.isTerminal = true)
    (hStage : after.stage = before.stage ∨ after.stage.isTerminal = true)
    (hFinished : after.lifecycle = .completed → finished)
| rewritten (hEnded : before.lifecycle.isTerminal = true) (hAgain : again)
    (hFinished : after.lifecycle = .completed → finished)

/- An entry keeps its identity while it ages. -/
def Older (again finished : Prop) (before after : AttemptRecord) : Prop :=
  after.identity = before.identity ∧ Ages again finished before after

theorem Older.refl (again finished : Prop) (entry : AttemptRecord) :
    Older again finished entry entry :=
  ⟨rfl, .kept rfl⟩

end AttemptRecord

---
-- Records
---

namespace RequestRecord

/- The operation replaces a current attempt that has ended. -/
def SupersedesEnded (id : RequestId) (record : RequestRecord) (op : LedgerOp) : Prop :=
  ∃ attempt replacement now entry,
    op = .supersedeAttempt id attempt replacement now ∧
      record.isCurrentAttempt attempt = true ∧ record.findAttempt attempt = some entry ∧
      entry.lifecycle.isTerminal = true

/- The operation publishes a completed attempt again. -/
def PublishesCompleted (id : RequestId) (record : RequestRecord) (op : LedgerOp) : Prop :=
  ∃ publication now entry,
    op = .publishCompletion publication now ∧
      publication.request = id ∧ record.lifecycle.isTerminal = false ∧
      record.findAttempt publication.attempt = some entry ∧ entry.lifecycle = .completed

/- The operation revalidates with an attempt it has. -/
def RevalidatesBound (id : RequestId) (record : RequestRecord) (op : LedgerOp) : Prop :=
  ∃ attempt now, op = .revalidateRequest id attempt now ∧ (record.findAttempt attempt).isSome = true

/- Operations that rewrite an entry that has ended. -/
def RewritesEnded (id : RequestId) (record : RequestRecord) (op : LedgerOp) : Prop :=
  record.SupersedesEnded id op ∨ record.PublishesCompleted id op

/- What an operation does to the attempts of a request. -/
inductive Evolves (limits : LedgerLimits) (id : RequestId) (op : LedgerOp)
    (record updated : RequestRecord) : Prop
| aged
    (hAttempts :
      Forall₂
        (Older (record.RewritesEnded id op) (updated.lifecycle.isTerminal = true))
        record.attempts updated.attempts)
    (hCurrent : updated.currentAttempt = record.currentAttempt)
    (hGeneration : updated.currentAttemptGeneration = record.currentAttemptGeneration)
| bound (aged : List AttemptRecord) (entry : AttemptRecord)
    (hAged :
      Forall₂
        (Older (record.RewritesEnded id op) (updated.lifecycle.isTerminal = true))
        record.attempts aged)
    (hAttempts : updated.attempts = aged ++ [entry])
    (hCurrent : updated.currentAttempt = entry.id)
    (hGeneration : updated.currentAttemptGeneration = entry.generation)
    (hNumber : entry.generation = record.nextAttemptGeneration)
    (hStage : entry.stage = .unknown)
    (hOpen : entry.lifecycle = .registered)
    (hRoom : record.attempts.length < limits.maxAttemptsPerRequest)
    (hFresh : record.findAttempt entry.id = none ∨ record.RevalidatesBound id op)

variable {limits : LedgerLimits} {op : LedgerOp} {record updated : RequestRecord}
variable {id : RequestId} {attempt replacement : AttemptId} {now : Int64}
variable {generation : AttemptGeneration} {again finished : Prop}
variable {hash : UInt64} {model : ModelGeneration} {reason : ReasonCode}

/- Entries that are left as they are. -/
theorem Evolves.same (hAttempts : updated.attempts = record.attempts)
    (hCurrent : updated.currentAttempt = record.currentAttempt)
    (hGeneration : updated.currentAttemptGeneration = record.currentAttemptGeneration) :
    Evolves limits id op record updated := by
  refine .aged ?_ hCurrent hGeneration
  rw [hAttempts]
  exact forall₂_same.mpr (fun entry _ => .refl _ _ entry)

/- One entry is rewritten where it stands. -/
theorem forall₂_updateAttempt (record : RequestRecord) (attempt : AttemptId)
    (f : AttemptRecord → AttemptRecord) (hIdentity : ∀ entry, (f entry).identity = entry.identity)
    (hAges :
      ∀ entry, record.findAttempt attempt = some entry → Ages again finished entry (f entry)) :
    Forall₂ (Older again finished) record.attempts
      (record.updateAttempt attempt f).attempts := by
  apply forall₂_updateKey _ _ _ (Older.refl again finished)
  intro entry hFind
  exact ⟨hIdentity entry, hAges entry hFind⟩

/- Every entry is rewritten where it stands. -/
theorem forall₂_map (f : AttemptRecord → AttemptRecord)
    (hOlder : ∀ entry, Older again finished entry (f entry)) (entries : List AttemptRecord) :
    Forall₂ (Older again finished) entries (entries.map f) := by
  rw [forall₂_map_right_iff, forall₂_same]
  intro entry _
  exact hOlder entry

/- Closing the accounting leaves the attempts alone. -/
theorem Evolves.closeAccounting (hEvolves : Evolves limits id op record updated) :
    Evolves limits id op record updated.closeAccounting := by
  cases hEvolves with
  | aged hAttempts hCurrent hGeneration => exact .aged hAttempts hCurrent hGeneration
  | bound aged entry hAged hAttempts hCurrent hGeneration hNumber hStage hOpen hRoom hFresh =>
    exact .bound aged entry hAged hAttempts hCurrent hGeneration hNumber hStage hOpen hRoom hFresh

theorem registerAttempt_evolves {route : RouteDecisionGeneration}
    (hOk : record.registerAttempt limits attempt hash model route now = .ok (generation, updated)) :
    Evolves limits id op record updated := by
  simp only [registerAttempt, guard_eq_ok_iff] at hOk
  rcases hOk with ⟨-, -, hFresh, hRoom, hEq⟩
  cases hEq
  exact .bound record.attempts _ (forall₂_same.mpr fun entry _ => .refl _ _ entry) rfl
    rfl rfl rfl rfl rfl (Nat.lt_of_not_le hRoom)
    (.inl (by simpa using hFresh))

theorem revalidateRequest_evolves
    (hOk : record.revalidateRequest limits attempt now = .ok (generation, updated)) :
    Evolves limits id (.revalidateRequest id attempt now) record updated := by
  simp only [revalidateRequest, guard_eq_ok_iff] at hOk
  rcases hOk with ⟨-, -, -, hRoom, hEq⟩
  cases hEq
  refine .bound record.attempts _ (forall₂_same.mpr fun entry _ => .refl _ _ entry) rfl
    rfl rfl rfl rfl rfl (Nat.lt_of_not_le hRoom) ?_
  cases hFind : record.findAttempt attempt with
  | none => exact .inl rfl
  | some entry =>
    refine .inr ⟨attempt, now, rfl, ?_⟩
    rw [hFind]
    rfl

theorem supersedeAttempt_evolves
    (hOk : record.supersedeAttempt limits attempt replacement now = .ok (generation, updated)) :
    Evolves limits id (.supersedeAttempt id attempt replacement now) record updated := by
  unfold supersedeAttempt at hOk
  rw [guard_eq_ok_iff] at hOk
  rcases hOk with ⟨-, hOk⟩
  split at hOk
  · cases hOk
  rename_i entry hFind
  simp only [guard_eq_ok_iff] at hOk
  rcases hOk with ⟨hCurrent, hFresh, hRoom, hEq⟩
  cases hEq
  refine .bound _ _ ?_ rfl rfl rfl rfl rfl rfl (Nat.lt_of_not_le hRoom)
    (.inl (by simpa using hFresh))
  refine record.forall₂_updateAttempt attempt _ (fun _ => rfl) ?_
  intro old hOld
  by_cases hOpen : old.lifecycle.isTerminal = true
  · exact .rewritten hOpen (.inl ⟨attempt, replacement, now, old, rfl,
      by simpa using hCurrent, hOld, hOpen⟩) (by simp)
  · exact .ended (Bool.eq_false_of_not_eq_true hOpen) rfl (.inl rfl) (by simp)

theorem setAttemptModel_evolves (hOk : record.setAttemptModel attempt hash model = .ok updated) :
    Evolves limits id op record updated := by
  unfold setAttemptModel at hOk
  split at hOk
  · cases hOk
  · cases hOk
    exact .aged (record.forall₂_updateAttempt attempt _
      (fun _ => rfl) (fun _ _ => .kept rfl)) rfl rfl

theorem advanceStage_evolves {target : ServingStage} (hServing : target.isTerminal = false)
    (hOk : record.advanceStage attempt target now = .ok updated) :
    Evolves limits id op record updated := by
  unfold advanceStage at hOk
  simp only [guard_eq_ok_iff] at hOk
  rcases hOk with ⟨-, -, -, hOk⟩
  split at hOk
  · cases hOk
  rename_i entry hFind
  simp only [guard_eq_ok_iff] at hOk
  rcases hOk with ⟨-, hOpen, hLegal, hEq⟩
  cases hEq
  refine .aged (record.forall₂_updateAttempt attempt _ (fun _ => rfl) ?_) rfl rfl
  intro old hOld
  rw [hFind] at hOld
  cases hOld
  refine .advanced (by simpa using hOpen) ?_ hServing (by simpa using hLegal)
  split
  · rfl
  · split
    · rfl
    · simpa using hOpen

theorem failAttempt_evolves
    (hOk : record.failAttempt attempt reason now = .ok (generation, some updated)) :
    Evolves limits id op record updated := by
  unfold failAttempt at hOk
  split at hOk
  · cases hOk
  rename_i entry hFind
  simp only [guard_eq_ok_iff] at hOk
  rcases hOk with ⟨-, hOk⟩
  by_cases hOpen : entry.lifecycle.isTerminal
  · rw [if_pos hOpen] at hOk
    split at hOk
    · cases hOk
    · cases hOk
  · rw [if_neg hOpen] at hOk
    cases hOk
    refine .aged (record.forall₂_updateAttempt attempt _ (fun _ => rfl) ?_) rfl rfl
    intro old hOld
    rw [hFind] at hOld
    cases hOld
    exact .ended (Bool.eq_false_of_not_eq_true hOpen) rfl (.inr rfl) (by simp)

theorem forall₂_cancelAttempts (reason : ReasonCode) (now : Int64) (entries : List AttemptRecord) :
    Forall₂ (Older again finished) entries
      (cancelAttempts reason now entries) := by
  apply forall₂_map
  intro entry
  split
  · exact .refl _ _ entry
  · rename_i hOpen
    exact ⟨rfl, .ended (Bool.eq_false_of_not_eq_true hOpen) rfl (.inr rfl) (by simp)⟩

theorem forall₂_interruptAttempts (now : Int64) (entries : List AttemptRecord) :
    Forall₂ (Older again finished) entries (interruptAttempts now entries) := by
  apply forall₂_map
  intro entry
  split
  · exact .refl _ _ entry
  · rename_i hOpen
    exact ⟨rfl, .ended (Bool.eq_false_of_not_eq_true hOpen) rfl (.inl rfl) (by simp)⟩

theorem cancelRequest_evolves {sequence : AuthoritySequence} {fresh : Bool}
    (hOk : record.cancelRequest reason sequence now = .ok (updated, fresh)) :
    Evolves limits id op record updated := by
  have hRaise :
      ∀ base : RequestRecord,
        (base.raiseFloor sequence).attempts = base.attempts ∧
          (base.raiseFloor sequence).currentAttempt = base.currentAttempt ∧
          (base.raiseFloor sequence).currentAttemptGeneration = base.currentAttemptGeneration := by
    intro base
    unfold raiseFloor
    split
    · exact ⟨rfl, rfl, rfl⟩
    · exact ⟨rfl, rfl, rfl⟩
  unfold cancelRequest at hOk
  by_cases hCancelled : record.lifecycle = .cancelled
  · rw [if_pos hCancelled] at hOk
    cases hOk
    rcases hRaise record with ⟨hAttempts, hCurrent, hNumber⟩
    exact .same hAttempts hCurrent hNumber
  · rw [if_neg hCancelled] at hOk
    simp only [guard_eq_ok_iff] at hOk
    rcases hOk with ⟨-, hEq⟩
    cases hEq
    rcases hRaise _ with ⟨hAttempts, hCurrent, hNumber⟩
    refine .aged ?_ hCurrent hNumber
    rw [hAttempts]
    exact forall₂_cancelAttempts reason now record.attempts

theorem markInterrupted_evolves (record : RequestRecord) (now : Int64) :
    Evolves limits id op record (record.markInterrupted now) :=
  .aged (forall₂_interruptAttempts now record.attempts) rfl rfl

theorem publishCompletion_evolves {publication : CompletionPublication} {outcome : PublishOutcome}
    (hId : publication.request = id)
    (hResult : record.publishCompletion publication now = (outcome, updated)) :
    Evolves limits id (.publishCompletion publication now) record updated := by
  unfold publishCompletion at hResult
  split at hResult
  · cases hResult
    exact .same rfl rfl rfl
  rename_i entry hFind
  simp only [ite_eq_iff] at hResult
  rcases hResult with ⟨-, hResult⟩ | ⟨-, ⟨-, hResult⟩ | ⟨-, ⟨-, hResult⟩ | ⟨-, ⟨-, hResult⟩ |
    ⟨hTerminal, ⟨-, hResult⟩ | ⟨hSuperseded, ⟨-, hResult⟩ | ⟨hFailed, ⟨-, hResult⟩ | ⟨hCancelled,
      ⟨-, ⟨-, hResult⟩ | ⟨-, hResult⟩⟩ | ⟨-, ⟨-, hResult⟩ | ⟨-, hResult⟩⟩⟩⟩⟩⟩⟩⟩⟩
  all_goals
    cases hResult
    try exact .same rfl rfl rfl
  -- only the two reports that are committed remain
  all_goals
    refine .aged (record.forall₂_updateAttempt _ _ (fun _ => rfl) ?_) rfl rfl
    intro old hOld
    rw [hFind] at hOld
    cases hOld
    by_cases hEnded : entry.lifecycle.isTerminal = true
    · refine .rewritten hEnded (.inr ⟨publication, now, entry, rfl, hId,
        Bool.eq_false_of_not_eq_true hTerminal, hFind, ?_⟩) (fun _ => rfl)
      unfold AttemptLifecycle.isTerminal at hEnded
      simpa [hSuperseded, hFailed, hCancelled] using hEnded
    · exact .ended (Bool.eq_false_of_not_eq_true hEnded) rfl (.inr rfl) (fun _ => rfl)

theorem recordBytes_attempts {bytes : UInt64} {inbound : Bool}
    (hOk : record.recordBytes bytes inbound = .ok updated) :
    Evolves limits id op record updated := by
  unfold recordBytes at hOk
  split at hOk
  · split at hOk
    · cases hOk
    · cases hOk
      exact .same rfl rfl rfl
  · split at hOk
    · cases hOk
    · cases hOk
      exact .same rfl rfl rfl

/- A restart leaves the attempts as they are. -/
theorem restored_attempts (record : RequestRecord) :
    record.restored.attempts = record.attempts := by
  unfold restored
  split
  · rfl
  · rfl

end RequestRecord

---
-- Operations
---

namespace RequestLedger

variable {ledger after : RequestLedger} {op : LedgerOp} {success : Bool}
variable {id ordered other : RequestId} {record updated : RequestRecord}
variable {limits : LedgerLimits}

open RequestRecord (Evolves)

theorem Rewrites.evolves (hRewrites : Rewrites limits id record op updated) :
    Evolves limits id op record updated := by
  cases hRewrites with
  | attemptRegistered _ _ _ _ _ _ _ _ hOk => exact registerAttempt_evolves hOk
  | revalidated _ _ _ _ hOk => exact revalidateRequest_evolves hOk
  | superseded _ _ _ _ _ _ hOk => exact supersedeAttempt_evolves hOk
  | modelSet _ _ _ _ hOk => exact setAttemptModel_evolves hOk
  | stageAdvanced _ _ _ _ hServing _ hOk => exact advanceStage_evolves hServing hOk
  | cancelledAgain _ _ _ _ hOk => exact cancelRequest_evolves hOk
  | decided attempt =>
    exact .aged (record.forall₂_updateAttempt attempt _
      (fun _ => rfl) (fun _ _ => .kept rfl)) rfl rfl

theorem Retires.evolves (hRetires : Retires id record op ordered updated) :
    Evolves limits id op record updated := by
  cases hRetires with
  | failed _ _ _ _ _ hOk => exact failAttempt_evolves hOk
  | cancelled _ _ _ _ hOk => exact cancelRequest_evolves hOk
  | published _ _ _ _ hId hResult => exact publishCompletion_evolves hId hResult

/- Where a record that an operation leaves comes from. -/
inductive Arises (ledger : RequestLedger) (op : LedgerOp) (id : RequestId)
    (after : RequestRecord) : Prop
| evolved (record : RequestRecord) (hRecord : ledger.requests.lookup id = some record)
    (hEvolves : Evolves ledger.limits id op record after)
| registered (now : Int64) (hFresh : ledger.requests.lookup id = none)
    (hAfter : after = RequestRecord.registered id now)
| restored (record : RequestRecord) (hOp : op = .restoreRecord record)
    (hFresh : ledger.requests.lookup id = none) (hAfter : after = record.restored)

theorem Arises.same (hRecord : ledger.requests.lookup id = some record) :
    Arises ledger op id record :=
  .evolved record hRecord (.same rfl rfl rfl)

/- A stored record comes from the one it replaces. -/
theorem arises_of_insert {before stored : RequestRecord}
    (hBefore : ledger.requests.lookup id = some before)
    (hEvolves : Evolves ledger.limits id op before stored)
    (hAfter : (if other = id then some stored else ledger.requests.lookup other) = some record) :
    Arises ledger op other record := by
  split at hAfter
  · rename_i hSame
    cases hAfter
    rw [hSame]
    exact .evolved before hBefore hEvolves
  · exact .same hAfter

theorem Outcome.arises (hOutcome : Outcome ledger op success after)
    (hAfter : after.requests.lookup other = some record) : Arises ledger op other record := by
  cases hOutcome with
  | rewritten _ id before stored f hRecord hRewrites =>
    rw [account_requests, lookup_putRecord] at hAfter
    exact arises_of_insert hRecord hRewrites.evolves hAfter
  | retired _ id listed before stored count hRecord hRetires =>
    rcases lookup_retire ledger id listed other stored count with hKept | hGone
    · rw [hKept] at hAfter
      exact arises_of_insert hRecord hRetires.evolves.closeAccounting hAfter
    · rw [hGone] at hAfter
      cases hAfter
  | interrupted id now before f hRecord =>
    rw [account_requests, lookup_putRecord, releaseRequestFlows_requests] at hAfter
    exact arises_of_insert hRecord (before.markInterrupted_evolves now) hAfter
  | registered id now _ hFresh =>
    rw [refreshRequestCounts_requests, account_requests, lookup_putRecord] at hAfter
    split at hAfter
    · rename_i hSame
      cases hAfter
      rw [hSame]
      exact .registered now hFresh rfl
    · exact .same hAfter
  | opened id _ _ _ _ before _ hRecord =>
    unfold opening at hAfter
    rw [AList.lookup_insert_if] at hAfter
    refine arises_of_insert hRecord ?_ hAfter
    exact .same rfl rfl rfl
  | released flow opened =>
    unfold closing at hAfter
    rw [AList.lookup_modify] at hAfter
    split at hAfter
    · rcases Option.map_eq_some_iff.mp hAfter with ⟨before, hBefore, rfl⟩
      exact .evolved before hBefore (.same rfl rfl rfl)
    · exact .same hAfter
  | charged _ _ _ _ opened _ _ _ _ hRecord hOk =>
    rw [lookup_putRecord] at hAfter
    exact arises_of_insert hRecord (recordBytes_attempts hOk) hAfter
  | restored stored _ _ hFresh =>
    unfold restoring at hAfter
    rcases lookup_evictIfNeeded _ other with hKept | hGone
    · rw [hKept, refreshRequestCounts_requests, account_requests, lookup_putRecord] at hAfter
      split at hAfter
      · rename_i hSame
        cases hAfter
        rw [hSame]
        exact .restored stored rfl hFresh rfl
      · exact .same hAfter
    · rw [hGone] at hAfter
      cases hAfter
  | cleared => cases hAfter
  | _ => exact .same hAfter

/- Every record an operation leaves has an origin. -/
theorem step_arises (hAfter : (ledger.step op).requests.lookup id = some record) :
    Arises ledger op id record :=
  (step_outcome ledger op).arises hAfter

---
-- Restarts
---

/- The records a ledger hands over to its next boot. -/
def exported (ledger : RequestLedger) (maxTerminal : Nat) : List RequestRecord :=
  ledger.exportTerminalRecords maxTerminal ++ ledger.exportLiveRecords

/-
  The ledger of the next boot: cleared, then filled with
  the exported records unless one of them is refused.
-/
def restarted (ledger : RequestLedger) (maxTerminal : Nat) : RequestLedger :=
  let restored := ledger.clear.restoreRecords (ledger.exported maxTerminal)
  match restored.1 with
  | .ok () => restored.2
  | .error _ => ledger.clear

end RequestLedger

/- What may happen to a ledger in the life of a service. -/
inductive LedgerLabel
| op (op : LedgerOp)
| restart (maxTerminal : Nat)

namespace RequestLedger

/- One operation, or one restart with what was exported. -/
def cycle (ledger : RequestLedger) : LedgerLabel → RequestLedger
| .op op => ledger.step op
| .restart maxTerminal => ledger.restarted maxTerminal

def cycles (ledger : RequestLedger) (labels : List LedgerLabel) : RequestLedger :=
  labels.foldl cycle ledger

/- A step of the cycle that the condition allows. -/
def Cycles (allowed : RequestLedger → LedgerLabel → Prop) (ledger : RequestLedger)
    (label : LedgerLabel) (after : RequestLedger) : Prop :=
  allowed ledger label ∧ after = ledger.cycle label

variable {ledger : RequestLedger} {id : RequestId} {record source : RequestRecord}
variable {maxTerminal : Nat}
variable {limits : LedgerLimits}

theorem lookup_restoreRecord (ledger : RequestLedger) (source : RequestRecord)
    (hAfter : (ledger.restoreRecord source).2.requests.lookup id = some record) :
    ledger.requests.lookup id = some record ∨ source.id = id ∧ record = source.restored := by
  unfold restoreRecord at hAfter
  split at hAfter
  · exact .inl hAfter
  · split at hAfter
    · exact .inl hAfter
    · split at hAfter
      · exact .inl hAfter
      · rcases lookup_evictIfNeeded _ id with hKept | hGone
        · rw [hKept, refreshRequestCounts_requests, account_requests, lookup_putRecord] at hAfter
          split at hAfter
          · rename_i hSame
            cases hAfter
            exact .inr ⟨hSame.symm, rfl⟩
          · exact .inl hAfter
        · rw [hGone] at hAfter
          cases hAfter

/- A restored record comes from the list or was there. -/
theorem lookup_restoreRecords (records : List RequestRecord)
    (hAfter : (ledger.restoreRecords records).2.requests.lookup id = some record) :
    ledger.requests.lookup id = some record ∨
      ∃ source ∈ records, source.id = id ∧ record = source.restored := by
  induction records generalizing ledger with
  | nil => exact .inl hAfter
  | cons source rest ih =>
    have hHead :
        source.id = id ∧ record = source.restored →
        ∃ listed ∈ source :: rest, listed.id = id ∧ record = listed.restored := by
      intro hSource
      exact ⟨source, mem_cons_self, hSource⟩
    rw [restoreRecords] at hAfter
    cases hResult : (ledger.restoreRecord source).1 with
    | error status =>
      simp only [hResult] at hAfter
      exact (lookup_restoreRecord ledger source hAfter).imp_right hHead
    | ok _ =>
      simp only [hResult] at hAfter
      rcases ih hAfter with hBefore | hListed
      · exact (lookup_restoreRecord ledger source hBefore).imp_right hHead
      · rcases hListed with ⟨listed, hMem, hListed⟩
        exact .inr ⟨listed, mem_cons_of_mem source hMem, hListed⟩

/- Every label stands for a run of operations. -/
theorem cycle_steps (ledger : RequestLedger) (label : LedgerLabel) :
    ∃ ops, ledger.cycle label = ledger.steps ops := by
  cases label with
  | op op => exact ⟨[op], rfl⟩
  | restart maxTerminal =>
    change ∃ ops, ledger.restarted maxTerminal = ledger.steps ops
    unfold restarted
    dsimp only
    split
    · rcases restoreRecords_steps (ledger.exported maxTerminal) ledger.clear with
        ⟨records, -, hSteps⟩
      exact ⟨.clear :: records.map .restoreRecord, hSteps⟩
    · exact ⟨[.clear], rfl⟩

theorem cycle_limits (ledger : RequestLedger) (label : LedgerLabel) :
    (ledger.cycle label).limits = ledger.limits := by
  rcases ledger.cycle_steps label with ⟨ops, hOps⟩
  rw [hOps]
  exact steps_limits ledger ops

theorem Coherent.cycle (hCoherent : ledger.Coherent) (label : LedgerLabel) :
    (ledger.cycle label).Coherent := by
  rcases ledger.cycle_steps label with ⟨ops, hOps⟩
  rw [hOps]
  exact hCoherent.steps ops

/- What holds of a ledger whatever it has been through. -/
structure Regular (limits : LedgerLimits) (ledger : RequestLedger) : Prop where
  limits : ledger.limits = limits.normalised
  coherent : ledger.Coherent

theorem Regular.create (limits : LedgerLimits) : (create limits).Regular limits where
  limits := rfl
  coherent := Coherent.clear (RequestLedger.create limits)

theorem Regular.cycle (hRegular : ledger.Regular limits) (label : LedgerLabel) :
    (ledger.cycle label).Regular limits where
  limits := (ledger.cycle_limits label).trans hRegular.limits
  coherent := hRegular.coherent.cycle label

/- A request never has more attempts than can be numbered. -/
theorem Regular.attempts_small (hRegular : ledger.Regular limits) :
    ledger.limits.maxAttemptsPerRequest < 2 ^ 64 := by
  rw [hRegular.limits]
  unfold LedgerLimits.normalised
  dsimp only
  split
  · decide
  · have hCeiling : maxAttemptsPerRequest < 2 ^ 64 := by
      decide
    omega

/- What a restart leaves was exported before it. -/
theorem Coherent.lookup_restarted (hCoherent : ledger.Coherent)
    (hAfter : (ledger.restarted maxTerminal).requests.lookup id = some record) :
    ∃ source, ledger.requests.lookup id = some source ∧ record = source.restored := by
  unfold restarted at hAfter
  dsimp only at hAfter
  split at hAfter
  · rcases lookup_restoreRecords _ hAfter with hBefore | ⟨source, hMem, hId, hRecord⟩
    · cases hBefore
    · rcases mem_exportRecords hMem with ⟨key, hKey⟩
      have hKeyed := hCoherent.keyed key source hKey
      rw [hId] at hKeyed
      rw [hKeyed]
      exact ⟨source, hKey, hRecord⟩
  · cases hAfter

end RequestLedger

end TrafficFabric
