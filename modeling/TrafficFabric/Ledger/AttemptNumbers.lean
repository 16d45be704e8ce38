import TrafficFabric.Ledger.Attempts

/-
  The identities of the attempts of a request.

  An attempt is bound under an identity of its own and under
  the next number, and stays current until the next one is
  bound. Revalidation is the one way to bind an attempt that
  does not look for the identity among the attempts of the
  request, so it is the one way to bind an identity twice.
-/

namespace TrafficFabric

open List

namespace RequestRecord

/- The attempts of a request, as they were bound. -/
def bindings (record : RequestRecord) : List (AttemptId × AttemptGeneration) :=
  record.attempts.map AttemptRecord.identity

/-
  Identities are distinct, the numbers count from one, and
  the binding made last is the current one.
-/
structure Numbered (limits : LedgerLimits) (record : RequestRecord) : Prop where
  distinct : (record.bindings.map Prod.fst).Nodup
  numbered :
    ∀ index binding, record.bindings[index]? = some binding → binding.2.value.toNat = index + 1
  bounded : record.bindings.length ≤ limits.maxAttemptsPerRequest
  current :
    ∀ binding,
      record.bindings.getLast? = some binding →
      record.currentAttempt = binding.1 ∧ record.currentAttemptGeneration = binding.2

variable {limits : LedgerLimits} {id : RequestId} {op : LedgerOp} {record updated : RequestRecord}
variable {entry : AttemptRecord}

theorem map_id_attempts (record : RequestRecord) :
    record.attempts.map AttemptRecord.id = record.bindings.map Prod.fst := by
  unfold bindings
  rw [map_map]
  rfl

theorem length_bindings (record : RequestRecord) :
    record.bindings.length = record.attempts.length :=
  length_map _

/- Entries that age keep their identities. -/
theorem map_identity_of_forall₂ {again finished : Prop} {entries aged : List AttemptRecord}
    (hAged : List.Forall₂ (AttemptRecord.Older again finished) entries aged) :
    aged.map AttemptRecord.identity = entries.map AttemptRecord.identity := by
  induction hAged with
  | nil => rfl
  | cons hOlder _ ih => rw [map_cons, map_cons, ih, hOlder.1]

theorem Numbered.registered (limits : LedgerLimits) (id : RequestId) (now : Int64) :
    (RequestRecord.registered id now).Numbered limits where
  distinct := nodup_nil
  numbered index binding hAt := by
    cases hAt
  bounded := Nat.zero_le _
  current binding hLast := by
    cases hLast

/- What a record was bound to is all that matters. -/
theorem Numbered.congr (hNumbered : record.Numbered limits)
    (hBindings : updated.bindings = record.bindings)
    (hCurrent : updated.currentAttempt = record.currentAttempt)
    (hGeneration : updated.currentAttemptGeneration = record.currentAttemptGeneration) :
    updated.Numbered limits := by
  constructor
  · rw [hBindings]
    exact hNumbered.distinct
  · rw [hBindings]
    exact hNumbered.numbered
  · rw [hBindings]
    exact hNumbered.bounded
  · rw [hBindings, hCurrent, hGeneration]
    exact hNumbered.current

theorem Numbered.bind (hSmall : limits.maxAttemptsPerRequest < 2 ^ 64)
    (hNumbered : record.Numbered limits)
    (hBindings : updated.bindings = record.bindings ++ [entry.identity])
    (hCurrent : updated.currentAttempt = entry.id)
    (hGeneration : updated.currentAttemptGeneration = entry.generation)
    (hNumber : entry.generation = record.nextAttemptGeneration)
    (hRoom : record.attempts.length < limits.maxAttemptsPerRequest)
    (hFresh : record.findAttempt entry.id = none) : updated.Numbered limits := by
  rw [← length_bindings] at hRoom
  have hNext : entry.generation.value.toNat = record.bindings.length + 1 := by
    rw [hNumber, length_bindings]
    rw [length_bindings] at hRoom
    apply UInt64.toNat_ofNat_of_lt'
    exact Nat.lt_of_le_of_lt hRoom hSmall
  constructor
  · rw [hBindings, map_append]
    apply List.Nodup.append hNumbered.distinct
    · exact nodup_singleton _
    · rw [← map_id_attempts]
      intro found hFound hNew
      rw [mem_singleton.mp hNew] at hFound
      exact (List.findKey?_eq_none_iff _ _ _).mp hFresh hFound
  · intro index binding hAt
    rw [hBindings, List.getElem?_append] at hAt
    split at hAt
    · exact hNumbered.numbered index binding hAt
    · have hIndex : index = record.bindings.length := by
        have hLength := (List.getElem?_eq_some_iff.mp hAt).1
        rw [length_singleton] at hLength
        omega
      rw [hIndex, Nat.sub_self] at hAt
      cases hAt
      rw [hIndex]
      exact hNext
  · rw [hBindings, length_append]
    exact hRoom
  · intro binding hLast
    rw [hBindings, List.getLast?_concat] at hLast
    cases hLast
    exact ⟨hCurrent, hGeneration⟩

/- An operation that reuses no identity keeps the order. -/
theorem Numbered.evolves (hSmall : limits.maxAttemptsPerRequest < 2 ^ 64)
    (hNumbered : record.Numbered limits) (hEvolves : Evolves limits id op record updated)
    (hFresh : ¬ record.RevalidatesBound id op) : updated.Numbered limits := by
  cases hEvolves with
  | aged hAttempts hCurrent hGeneration =>
    exact hNumbered.congr (map_identity_of_forall₂ hAttempts) hCurrent hGeneration
  | bound aged entry hAged hAttempts hCurrent hGeneration hNumber _ _ hRoom hNew =>
    have hBindings : updated.bindings = record.bindings ++ [entry.identity] := by
      unfold bindings
      rw [hAttempts, map_append, map_identity_of_forall₂ hAged]
      rfl
    exact hNumbered.bind hSmall hBindings hCurrent hGeneration hNumber hRoom
      (hNew.resolve_right hFresh)

theorem Numbered.restored (hNumbered : record.Numbered limits) :
    record.restored.Numbered limits := by
  unfold RequestRecord.restored
  split
  · exact hNumbered.congr rfl rfl rfl
  · exact hNumbered.congr rfl rfl rfl

theorem Numbered.findAttempt_current (hNumbered : record.Numbered limits)
    (hLast : record.attempts.getLast? = some entry) :
    record.findAttempt record.currentAttempt = some entry := by
  have hBinding : record.bindings.getLast? = some entry.identity := by
    unfold bindings
    rw [List.getLast?_map, hLast]
    rfl
  rw [(hNumbered.current _ hBinding).1]
  apply List.findKey?_of_mem
  · rw [map_id_attempts]
    exact hNumbered.distinct
  · exact mem_of_getLast? hLast

end RequestRecord

---
-- Runs
---

namespace RequestLedger

/-
  Labels that bring a repeated identity: a revalidation with
  an attempt the request has, and a record from outside.
-/
def Reuses (ledger : RequestLedger) : LedgerLabel → Prop
| .op (.revalidateRequest id attempt _) =>
  ∃ record, ledger.requests.lookup id = some record ∧ (record.findAttempt attempt).isSome = true
| .op (.restoreRecord record) => ¬ record.Numbered ledger.limits
| _ => False

/- Every record of the ledger is numbered. -/
def Numbered (ledger : RequestLedger) : Prop :=
  ∀ id record, ledger.requests.lookup id = some record → record.Numbered ledger.limits

variable {limits : LedgerLimits} {ledger : RequestLedger} {label : LedgerLabel} {op : LedgerOp}
variable {id : RequestId} {record : RequestRecord}

theorem not_revalidatesBound (hRecord : ledger.requests.lookup id = some record)
    (hFresh : ¬ ledger.Reuses (.op op)) : ¬ record.RevalidatesBound id op := by
  rintro ⟨attempt, now, rfl, hBound⟩
  exact hFresh ⟨record, hRecord, hBound⟩

theorem Numbered.cycle (hRegular : ledger.Regular limits) (hNumbered : ledger.Numbered)
    (hFresh : ¬ ledger.Reuses label) : (ledger.cycle label).Numbered := by
  intro id updated hAfter
  rw [cycle_limits]
  cases label with
  | op op =>
    cases step_arises hAfter with
    | evolved record hRecord hEvolves =>
      exact (hNumbered id record hRecord).evolves hRegular.attempts_small hEvolves
        (not_revalidatesBound hRecord hFresh)
    | registered now _ hUpdated =>
      rw [hUpdated]
      exact .registered ledger.limits id now
    | restored record hOp _ hUpdated =>
      subst hOp
      rw [hUpdated]
      exact (not_not.mp hFresh).restored
  | restart maxTerminal =>
    rcases hRegular.coherent.lookup_restarted hAfter with ⟨record, hRecord, rfl⟩
    exact (hNumbered id record hRecord).restored

/-
  A label that lengthens a list of attempts makes the new
  entry current, and the entry starts in no stage.
-/
theorem Numbered.bound_last (hRegular : ledger.Regular limits) (hNumbered : ledger.Numbered)
    (hFresh : ¬ ledger.Reuses label) (hRecord : ledger.requests.lookup id = some record)
    {updated : RequestRecord} (hAfter : (ledger.cycle label).requests.lookup id = some updated)
    (hLonger : record.attempts.length < updated.attempts.length) :
    ∃ entry,
      updated.attempts.getLast? = some entry ∧
        updated.findAttempt updated.currentAttempt = some entry ∧ entry.stage = .unknown := by
  have hUpdated := hNumbered.cycle hRegular hFresh id updated hAfter
  cases label with
  | op op =>
    cases step_arises hAfter with
    | evolved before hBefore hEvolves =>
      rw [hRecord] at hBefore
      cases hBefore
      cases hEvolves with
      | aged hAttempts =>
        rw [hAttempts.length_eq] at hLonger
        exact absurd hLonger (Nat.lt_irrefl _)
      | bound aged entry _ hAttempts _ _ _ hStage =>
        have hLast : updated.attempts.getLast? = some entry := by
          rw [hAttempts]
          exact List.getLast?_concat
        exact ⟨entry, hLast, hUpdated.findAttempt_current hLast, hStage⟩
    | registered _ hNew | restored _ _ hNew =>
      rw [hRecord] at hNew
      cases hNew
  | restart maxTerminal =>
    rcases hRegular.coherent.lookup_restarted hAfter with ⟨before, hBefore, rfl⟩
    rw [hRecord] at hBefore
    cases hBefore
    rw [record.restored_attempts] at hLonger
    exact absurd hLonger (Nat.lt_irrefl _)

/-
  In every ledger that operations and restarts lead to, the
  attempts of a request are numbered, and looking up the
  current attempt finds the entry that was bound last.
-/
theorem attempts_numbered
    (limits : LedgerLimits) (labels : List LedgerLabel) (ledger : RequestLedger)
    (hRun : Run (Cycles (fun state label => ¬ state.Reuses label)) (create limits) labels ledger)
    (id : RequestId) (record : RequestRecord) (hRecord : ledger.requests.lookup id = some record) :
    record.Numbered limits.normalised ∧
      (∀ entry, record.attempts.getLast? = some entry →
        record.findAttempt record.currentAttempt = some entry) ∧
      ∀ label updated,
        ¬ ledger.Reuses label → (ledger.cycle label).requests.lookup id = some updated →
        record.attempts.length < updated.attempts.length →
        ∃ entry,
          updated.attempts.getLast? = some entry ∧
            updated.findAttempt updated.currentAttempt = some entry ∧ entry.stage = .unknown := by
  have hKept : ledger.Regular limits ∧ ledger.Numbered := by
    apply hRun.invariant (fun state => state.Regular limits ∧ state.Numbered)
    · rintro state label next ⟨hFresh, rfl⟩ ⟨hRegular, hNumbered⟩
      exact ⟨hRegular.cycle label, hNumbered.cycle hRegular hFresh⟩
    · refine ⟨.create limits, ?_⟩
      intro id record hNone
      cases hNone
  rcases hKept with ⟨hRegular, hNumbered⟩
  rw [← hRegular.limits]
  have hHere := hNumbered id record hRecord
  refine ⟨hHere, ?_, ?_⟩
  · intro entry hLast
    exact hHere.findAttempt_current hLast
  · intro label updated hFresh hAfter hLonger
    exact hNumbered.bound_last hRegular hFresh hRecord hAfter hLonger

theorem attempts_numbered_revalidated :
    let request : RequestId := ⟨1, 1⟩
    let restarted :=
      (create {}).cycles
        [.op (.registerRequest request 1),
          .op (.registerAttempt request ⟨2, 1⟩ 0 .unset .unset 2),
          .restart 16]
    let ledger := restarted.cycle (.op (.revalidateRequest request ⟨2, 2⟩ 3))
    ∃ record,
      ledger.requests.lookup request = some record ∧
        record.attempts.length = 2 ∧ record.Numbered (LedgerLimits.normalised {}) := by
  intro request restarted ledger
  have hFresh :
      (restarted.requests.lookup request).bind
        (fun record => record.findAttempt ⟨2, 2⟩) = none := by
    decide
  have hRun :
      Run (Cycles (fun state label => ¬ state.Reuses label)) (create {})
        ([.op (.registerRequest request 1),
          .op (.registerAttempt request ⟨2, 1⟩ 0 .unset .unset 2),
          .restart 16] ++ [.op (.revalidateRequest request ⟨2, 2⟩ 3)])
        ledger := by
    apply Run.append (t := restarted)
    · exact .cons ⟨not_false, rfl⟩ (.cons ⟨not_false, rfl⟩ (Run.single ⟨not_false, rfl⟩))
    · refine Run.single ⟨?_, rfl⟩
      rintro ⟨record, hRecord, hBound⟩
      rw [hRecord, Option.bind_some] at hFresh
      rw [hFresh] at hBound
      cases hBound
  have hHeld :
      (ledger.requests.lookup request).map (fun record => record.attempts.length) = some 2 := by
    decide
  rcases Option.map_eq_some_iff.mp hHeld with ⟨record, hRecord, hLength⟩
  exact ⟨record, hRecord, hLength, (attempts_numbered {} _ ledger hRun request record hRecord).1⟩

/-
  Revalidated with the attempt it had, a request lists the
  attempt twice, and the new binding is found in the stage
  the old one had reached.
-/
theorem revalidation_binds_twice :
    let request : RequestId := ⟨1, 1⟩
    let attempt : AttemptId := ⟨2, 1⟩
    let ledger :=
      (create {}).cycles
        [.op (.registerRequest request 1),
          .op (.registerAttempt request attempt 0 .unset .unset 2),
          .op (.advanceStage request attempt .admitted 3),
          .restart 16,
          .op (.revalidateRequest request attempt 4)]
    (ledger.requests.lookup request).map
        (fun record => record.bindings.map Prod.fst) = some [attempt, attempt] ∧
      (ledger.requests.lookup request).bind (fun record =>
          (record.findAttempt record.currentAttempt).map
            (fun entry => (entry.generation, entry.stage))) = some (⟨1⟩, .admitted) := by
  decide

end RequestLedger

end TrafficFabric
