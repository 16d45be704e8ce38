import TrafficFabric.Service.Sessions

/-
  A reply that acknowledges a mutation is sent only when the
  snapshot file holds it.

  A handler skips its own snapshot when the last one is
  later than the reading of the clock it made after its
  mutation. The save that set the later time came after
  that reading, and so it exported the mutation.
-/

namespace TrafficFabric

open Pool List

namespace CoordinatorService

/-
  The file holds the export of a coordinator that was there
  at a place of the history or after it.
-/
def HoldsFrom (service : CoordinatorService) (place : Nat) : Prop :=
  ∃ later entry payload,
    place ≤ later ∧
      service.history[later]? = some entry ∧ snapshotOf entry.2 = .ok payload ∧
      service.disk = some payload

/- A snapshot of every coordinator so far can be written. -/
def Writes (service : CoordinatorService) : Prop :=
  ∀ entry ∈ service.history, (snapshotOf entry.2).isOk = true

/-
  All that a handler left is in the file, unless a write
  has failed.
-/
def Covered (ticket : Nat) (service : CoordinatorService) : Prop :=
  service.Writes →
  ∀ place s, service.Left ticket place s → service.HoldsFrom place

variable {service : CoordinatorService} {ticket other place : Nat} {s : Coordinator} {now : Int64}

theorem Writes.of_record (hWrites : (service.record ticket s).Writes) : service.Writes := by
  intro entry hEntry
  apply hWrites
  unfold record
  exact mem_append_left _ hEntry

theorem HoldsFrom.record (hHolds : service.HoldsFrom place) :
    (service.record ticket s).HoldsFrom place := by
  rcases hHolds with ⟨later, entry, payload, hLater, hEntry, hPayload, hDisk⟩
  refine ⟨later, entry, payload, hLater, ?_, hPayload, hDisk⟩
  unfold CoordinatorService.record
  have hLength : later < service.history.length := by
    rw [getElem?_eq_some_iff] at hEntry
    exact hEntry.choose
  rw [getElem?_append_left hLength]
  exact hEntry

/- What one handler leaves is not what another left. -/
theorem Left.of_record {left : Coordinator} (hOther : other ≠ ticket)
    (hLeft : (service.record other s).Left ticket place left) : service.Left ticket place left := by
  unfold Left CoordinatorService.record at hLeft
  rw [getElem?_append] at hLeft
  split at hLeft
  · exact hLeft
  · rw [getElem?_singleton] at hLeft
    split at hLeft
    · simp only [Option.some.injEq, Prod.mk.injEq] at hLeft
      exact absurd hLeft.1 hOther
    · cases hLeft

theorem Covered.record (hOther : other ≠ ticket) (hCovered : service.Covered ticket) :
    (service.record other s).Covered ticket := by
  intro hWrites place left hLeft
  exact (hCovered hWrites.of_record place left (hLeft.of_record hOther)).record

/- A save covers all that has been left so far. -/
theorem Sound.covered_saved {clock : Int64} (hSound : Sound ⟨service, clock⟩) :
    (service.saved now).Covered ticket := by
  rcases hSound.latest with ⟨last, hLast⟩
  intro hWrites place left hLeft
  have hOk : (snapshotOf service.coordinator).isOk = true := by
    apply hWrites (last, service.coordinator)
    rw [saved_history]
    exact mem_of_getLast? hLast
  rcases (Result.isOk_iff_exists _).mp hOk with ⟨payload, hPayload⟩
  unfold Left at hLeft
  rw [saved_history] at hLeft
  have hPlace : place < service.history.length := by
    rw [getElem?_eq_some_iff] at hLeft
    exact hLeft.choose
  rw [saved_of_ok hPayload]
  refine ⟨service.history.length - 1, (last, service.coordinator), payload, by omega, ?_,
    hPayload, rfl⟩
  rw [← getLast?_eq_getElem?]
  exact hLast

/-
  The last snapshot is not later than a reading of the
  clock, or it covers the handler that made the reading.
-/
def Awaits (ticket : Nat) (read : Int64) (σ : Moment CoordinatorService Int64) : Prop :=
  Sound σ ∧
    (σ.shared.lastSnapshotNanos = 0 ∨ σ.shared.lastSnapshotNanos ≤ read ∨ σ.shared.Covered ticket)

theorem awaits_stable (read : Int64) : Stable (Others Acts ticket) (Awaits ticket read) := by
  rintro σ τ ⟨other, hOther, hActs⟩ ⟨hSound, hAwaits⟩
  refine ⟨sound_stable other σ τ hActs hSound, ?_⟩
  cases hActs with
  | idle | stopping => exact hAwaits
  | called service clock now ops hClock =>
    rcases hAwaits with hZero | hEarly | hCovered
    · exact .inl hZero
    · exact .inr (.inl hEarly)
    · exact .inr (.inr (hCovered.record hOther))
  | saved service clock now hClock => exact .inr (.inr hSound.covered_saved)

theorem covered_stable :
    Stable (Others Acts ticket) (fun σ => Sound σ ∧ σ.shared.Covered ticket) := by
  rintro σ τ ⟨other, hOther, hActs⟩ ⟨hSound, hCovered⟩
  refine ⟨sound_stable other σ τ hActs hSound, ?_⟩
  cases hActs with
  | idle | stopping => exact hCovered
  | called service clock now ops hClock => exact hCovered.record hOther
  | saved service clock now hClock => exact hSound.covered_saved

---
-- Acknowledged Mutations
---

variable {config : ServiceConfig} {message : Message}

/-
  With no interval a snapshot is only skipped for one that
  is later than the reading of the clock.
-/
theorem recent_of_interval_zero (hInterval : config.snapshotIntervalNanos = 0)
    (hRecent : recent config service now = true) :
    service.lastSnapshotNanos ≠ 0 ∧ ¬ service.lastSnapshotNanos ≤ now := by
  unfold recent at hRecent
  rw [hInterval] at hRecent
  simp only [ne_eq, Bool.and_eq_true, decide_not, Bool.not_eq_true', decide_eq_false_iff_not,
    decide_eq_true_eq] at hRecent
  refine ⟨hRecent.1, ?_⟩
  rw [Int64.le_iff_toInt_le]
  have hZero : (0 : Int64).toInt = 0 := rfl
  have hBefore := hRecent.2
  omega

/- After the snapshot section a handler is covered. -/
theorem maybeSnapshot_covers (hPersist : config.persist = true) (hPath : config.snapshotPath ≠ "")
    (hInterval : config.snapshotIntervalNanos = 0) :
    (maybeSnapshot config true).Meets (Others Acts ticket)
      (fun _ σ => Sound σ ∧ σ.shared.Covered ticket)
      Sound := by
  have hWanted : (!true || !config.persist || config.snapshotPath.isEmpty) = false := by
    rw [hPersist]
    simpa using hPath
  unfold maybeSnapshot
  rw [if_neg (by rw [hWanted]; decide)]
  -- the reading of the clock
  intro service clock now hClock hSound
  have hRead := sound_stable ticket _ _ (.idle service clock now hClock) hSound
  refine ⟨Awaits ticket now, awaits_stable now, ⟨hRead, ?_⟩, ?_⟩
  · rcases hRead.clocked with hZero | hLe
    · exact .inl hZero
    · exact .inr (.inl hLe)
  -- the section that looks at the last snapshot
  intro held before checked hChecked hAwaits
  rcases hAwaits with ⟨hHeld, hLast⟩
  have hAfter := sound_stable ticket _ _ (.idle held before checked hChecked) hHeld
  simp only
  by_cases hRecent : recent config held now = true
  · rw [if_pos hRecent]
    rcases recent_of_interval_zero hInterval hRecent with ⟨hSet, hFuture⟩
    have hCovered : held.Covered ticket := by
      rcases hLast with hZero | hLe | hCovered
      · exact absurd hZero hSet
      · exact absurd hLe hFuture
      · exact hCovered
    exact ⟨_, covered_stable, ⟨hAfter, hCovered⟩, fun σ hσ => hσ⟩
  · rw [if_neg hRecent]
    refine ⟨Sound, others_stable sound_stable, hAfter, ?_⟩
    -- the section that saves
    intro last ready saving hSaving hReady
    exact ⟨_, covered_stable,
      ⟨sound_stable ticket _ _ (.saved last ready saving hSaving) hReady, hReady.covered_saved⟩,
      fun σ hσ => hσ⟩

/- A mutating message begins with a call. -/
theorem perform_eq_act (ticket victim : Nat) (hMutates : message.mutates = true) :
    ∃ (left : CoordinatorService → Int64 → Coordinator)
      (next : CoordinatorService → Int64 → Steps (Result Reply)),
      perform ticket victim message =
        .act (fun service now => service.record ticket (left service now)) next := by
  cases message with
  | heartbeat | evaluateTraffic | accountingQuery | statusQuery | policyQuery | shutdown
  | undecodable | unhandled => cases hMutates
  | advanceModelGeneration body =>
    unfold perform performAdvance
    simp only
    split
    · exact ⟨_, _, rfl⟩
    · split
      · exact ⟨_, _, rfl⟩
      · exact ⟨_, _, rfl⟩
  | _ => exact ⟨_, _, rfl⟩

theorem perform_calls (victim : Nat) (hMutates : message.mutates = true) :
    (perform ticket victim message).Meets (Others Acts ticket)
      (fun _ σ => Sound σ ∧ Called ticket σ) Sound := by
  have hBoth (other : Nat) : Stable (Acts other) (fun σ => Sound σ ∧ Called ticket σ) := by
    rintro σ τ hActs ⟨hSound, hCalled⟩
    exact ⟨sound_stable other σ τ hActs hSound, called_stable other σ τ hActs hCalled⟩
  have hWithin : (perform ticket victim message).Within (Acts ticket) :=
    perform_within victim message
  rcases perform_eq_act ticket victim hMutates with ⟨left, next, hAct⟩
  rw [hAct] at hWithin ⊢
  intro service clock now hClock hSound
  rcases hWithin service clock now hClock with ⟨hStep, hNext⟩
  exact ⟨fun σ => Sound σ ∧ Called ticket σ, others_stable hBoth,
    ⟨sound_stable ticket _ _ hStep hSound, _, _, left_record⟩,
    hNext.meets (hBoth ticket) (others_stable hBoth)⟩

theorem handle_covers (hPersist : config.persist = true) (hPath : config.snapshotPath ≠ "")
    (hInterval : config.snapshotIntervalNanos = 0) (victim : Nat)
    (hMutates : message.mutates = true) :
    (handle ticket config victim message).Meets (Others Acts ticket)
      (fun result σ => result.isOk = true → Called ticket σ ∧ σ.shared.Covered ticket)
      Sound := by
  apply (perform_calls victim hMutates).bind
  intro outcome
  cases outcome with
  | error status =>
    intro σ hσ hOk
    cases hOk
  | ok reply =>
    simp only [hMutates]
    apply Script.Meets.bind
      ((maybeSnapshot_covers hPersist hPath
        hInterval).frame (maybeSnapshot_within config true) (called_stable ticket)
          (others_stable called_stable))
    rintro - σ ⟨⟨-, hCovered⟩, hCalled⟩ -
    exact ⟨hCalled, hCovered⟩

/-
  When a handler returns the reply to a mutating message,
  it has left a coordinator, and the file holds the export
  of that coordinator or of a later one.
-/
theorem acknowledged_mutation_durable (config : ServiceConfig) (coordinator : Coordinator)
    (disk : Option (List UInt8)) (clock : Int64) (before after : List (PoolLabel Int64))
    (p q : Sessions) (victim : Nat) (message : Message) (reply : Reply)
    (hPersist : config.persist = true) (hPath : config.snapshotPath ≠ "")
    (hInterval : config.snapshotIntervalNanos = 0)
    (hBefore : Run (Step (Serves config)) (opened coordinator disk clock) before p)
    (hAfter :
      Run (Step (Serves config)) (p.begin (handle p.threads.length config victim message))
        after q) (hWrites : q.moment.shared.Writes) (hMutates : message.mutates = true)
    (hReturned : q.threads[p.threads.length]? = some (.done (.ok reply))) :
    (∃ place s,
      q.moment.shared.Left p.threads.length place s) ∧
      ∀ place s,
        q.moment.shared.Left p.threads.length place s → q.moment.shared.HoldsFrom place := by
  have hSound := run_sound hBefore
  have hThreads := (run_guaranteed hBefore).begin (handle_within config victim message)
  have hBegun :
      (p.begin (handle p.threads.length config victim message)).Proves
        (Others Acts p.threads.length) p.threads.length
        (fun result σ => result.isOk = true →
          Called p.threads.length σ ∧ σ.shared.Covered p.threads.length) := by
    refine ⟨_, Sound, getElem?_concat_length, others_stable sound_stable, hSound,
      handle_covers hPersist hPath hInterval victim hMutates⟩
  have hEnd := (hBegun.run Serves.within hThreads hAfter).finished hReturned rfl
  exact ⟨hEnd.1, hEnd.2 hWrites⟩

/- A snapshot with few records can be written. -/
theorem snapshotOf_isOk
    (hFew :
      s.exportState.models.length + s.exportState.states.length +
        s.exportState.terminalRequests.length + s.exportState.interruptedRequests.length ≤ 64) :
    (snapshotOf s).isOk = true := by
  have hLength := s.exportState.length_layout_le
  have hFits : s.exportState.layout.length ≤ maxSnapshotPayloadBytes := by
    unfold maxSnapshotPayloadBytes
    omega
  unfold snapshotOf
  rw [SnapshotStore.savePayload_of_fits hFits]
  rfl

def sampleConfig : ServiceConfig where
  snapshotPath := "coordinator.state"
  persist := true

def registering : Sessions :=
  (opened Coordinator.sampleStart none 0).begin (handle 0 sampleConfig 0 (.registerRequest ⟨0, 1⟩))

/- A second session begins after the first call. -/
def joined : Sessions :=
  (registering.act 0 1).begin (handle 1 sampleConfig 0 (.registerRequest ⟨0, 2⟩))

/- It makes its call, and the first is about to save. -/
def saving : Sessions :=
  joined.play [(1, 1), (0, 2), (0, 3), (1, 3), (0, 4)]

theorem run_saving :
    Run (Step (Serves sampleConfig)) registering
      (.acts 0 1 :: .begins ::
        [(1, 1), (0, 2), (0, 3), (1, 3), (0, 4), (0, 5)].map (fun turn => .acts turn.1 turn.2))
      (saving.act 0 5) :=
  .cons (.acts _ 0 1 (by decide)) (.cons (.begins _ _ ⟨0, .registerRequest ⟨0, 2⟩, rfl⟩)
    (run_play (Serves sampleConfig) joined _ (by decide +kernel)))

set_option maxRecDepth 4000 in
theorem saving_thread :
    ∃ reply,
      saving.threads[0]? =
        some (.act (fun held later => held.saved later) (fun _ _ => .done (.ok reply))) :=
  ⟨_, rfl⟩

theorem acknowledged_mutation_durable_registered :
    ∃ place s,
      (saving.act 0 5).moment.shared.Left 0 place s ∧
        (saving.act 0 5).moment.shared.HoldsFrom place := by
  rcases saving_thread with ⟨reply, hThread⟩
  have hAct : saving.act 0 5 = _ := act_eq hThread
  have hWrites : (saving.act 0 5).moment.shared.Writes := by
    intro entry hEntry
    rw [hAct, saved_history] at hEntry
    apply snapshotOf_isOk
    revert entry
    decide +kernel
  have hDone : (saving.act 0 5).threads[0]? = some (.done (.ok reply)) := by
    rw [hAct]
    exact getElem?_set_self (by decide)
  rcases acknowledged_mutation_durable sampleConfig Coordinator.sampleStart none 0 [] _
    (opened Coordinator.sampleStart none 0) (saving.act 0 5) 0 (.registerRequest ⟨0, 1⟩) reply rfl
    (by decide) rfl (.nil _) run_saving hWrites rfl hDone with ⟨⟨place, s, hLeft⟩, hHolds⟩
  exact ⟨place, s, hLeft, hHolds place s hLeft⟩

end CoordinatorService

end TrafficFabric
