import TrafficFabric.Coordinator.Durability

/-
  The snapshot of a coordinator is loadable: it is saved,
  read back as the same document and accepted by the next
  boot, in every run that avoids the few steps that spoil
  it.

  Main declarations:
    * `Coordinator.Loadable`
    * `Coordinator.Durable`
    * `Coordinator.Durable.loadable`
    * `Coordinator.snapshot_loadable`
-/

---
-- Durable Coordinators
---

namespace TrafficFabric

open RequestLedger List SnapshotStore

/- Everything a snapshot is made of is fit to be stored. -/
structure Coordinator.Durable (s : Coordinator) : Prop where
  sound : s.durable.Sound
  limits : s.ledger.limits = s.config.limits.ledger.normalised
  coherent : s.ledger.Coherent
  populated : s.ledger.Populated
  bound : ∀ id view, s.ledger.view id = some view → view.Bound

/- A live request that no attempt was bound to. -/
def Coordinator.Unattempted (s : Coordinator) : Prop :=
  ∃ id view, s.ledger.view id = some view ∧ view.lifecycle.isTerminal = false ∧ view.attempts = []

/- The operation fails an attempt of a terminal request. -/
def Op.RetiresAgain (s : Coordinator) (op : Op) : Prop :=
  ∃ id event view,
    op.event s = some (id, event) ∧
      s.ledger.view id = some view ∧ view.lifecycle.isTerminal = true ∧ view.FailsOpenAttempt event

/- The operation cancels a request without attempts. -/
def Op.WithdrawsUnattempted (s : Coordinator) (op : Op) : Prop :=
  ∃ id event view,
    op.event s = some (id, event) ∧
      s.ledger.view id = some view ∧ RequestView.Withdraws event ∧ view.attempts = []

/-
  The steps after which a snapshot may be refused: an
  operation that exhausts a generation or empties a policy,
  cancels a request that has no attempt, or fails an
  attempt of a terminal request; a restart with a live
  request that has no attempt, or past the last epoch or
  policy generation.
-/
def Coordinator.Spoils (s : Coordinator) : Label → Prop
| .op op => op.Exhausts s ∨ op.RetiresAgain s ∨ op.WithdrawsUnattempted s
| .bootFresh => False
| .reboot | .restart _ => s.Unattempted ∨ s.epoch = .max ∨ s.policy.generation = .max

namespace RequestLedger

namespace Populated

variable {ledger after : RequestLedger}

/- Quiet operations keep within the limits. -/
theorem steps_quiet (ops : List LedgerOp) (hPopulated : ledger.Populated)
    (hCoherent : ledger.Coherent) (hLimits : LimitsCount ledger.limits)
    (hQuiet : ∀ op ∈ ops, op.Quiet) : (ledger.steps ops).Populated := by
  induction ops generalizing ledger with
  | nil => exact hPopulated
  | cons op rest ih =>
    have hOp := hQuiet op mem_cons_self
    have hOnce : ¬ op.RetiresAgain ledger := by
      rintro ⟨id, event, view, hEvent, -⟩
      cases op <;> first | exact hOp | cases hEvent
    have hRestore : ∀ record, op ≠ .restoreRecord record := by
      rintro record rfl
      exact hOp
    apply ih (hPopulated.step hCoherent hLimits op hOnce hRestore) (hCoherent.step op)
    · rw [step_limits]
      exact hLimits
    · intro later hLater
      exact hQuiet later (mem_cons_of_mem op hLater)

theorem quietly (hPopulated : ledger.Populated) (hCoherent : ledger.Coherent)
    (hLimits : LimitsCount ledger.limits) (hQuietly : Quietly ledger after) : after.Populated := by
  rcases hQuietly with ⟨ops, hQuiet, rfl⟩
  exact hPopulated.steps_quiet ops hCoherent hLimits hQuiet

end Populated

end RequestLedger

namespace Coordinator

variable {s : Coordinator}

theorem Durable.step_populated (hDurable : s.Durable) (hLimits : LimitsCount s.ledger.limits)
    (op : Op) (hOnce : ¬ op.RetiresAgain s) : (s.step op).ledger.Populated := by
  have hQuietly := step_ledger s op
  rcases op.ledgerOps_cases s with hNone | ⟨main, hMain, hEvent, -, hOrdinary⟩
  · rw [hNone] at hQuietly
    exact hDurable.populated.quietly hDurable.coherent hLimits hQuietly
  · rw [hMain] at hQuietly
    have hMainOnce : ¬ main.RetiresAgain s.ledger := by
      rintro ⟨id, event, view, hOp, hView⟩
      exact hOnce ⟨id, event, view, hEvent _ hOp, hView⟩
    have hStep := hDurable.populated.step hDurable.coherent
      hLimits main hMainOnce (fun record hOp => by
          rw [hOp] at hOrdinary
          exact hOrdinary)
    refine hStep.quietly (hDurable.coherent.step main) ?_ hQuietly
    rw [step_limits]
    exact hLimits

theorem step_ledger_limits (s : Coordinator) (op : Op) :
    (s.step op).ledger.limits = s.ledger.limits := by
  rcases step_ledger s op with ⟨quiet, -, hLedger⟩
  rw [hLedger, steps_limits, steps_limits]

theorem Durable.step_bound (hDurable : s.Durable)
    (hAttempts : s.ledger.limits.maxAttemptsPerRequest ≤ maxAttemptsPerRequest) (op : Op)
    (hAttempted : ¬ op.WithdrawsUnattempted s) (id : RequestId) (view : RequestView)
    (hView : (s.step op).ledger.view id = some view) : view.Bound := by
  have hChange := step_viewChange s op id
  rw [hView] at hChange
  generalize hOld : s.ledger.view id = old at hChange
  cases hChange with
  | same => exact hDurable.bound id view hOld
  | registered now => exact RequestView.registered_bound id now
  | evolved before next changed event hLabel hEvent hStep =>
    cases hLabel
    apply hStep.bound hAttempts (hDurable.bound id before hOld)
    intro hWithdraws hNone
    exact hAttempted ⟨id, event, before, hEvent, hOld, hWithdraws, hNone⟩
  | restored before hLabel => exact (hLabel op rfl).elim

/- An operation that does not spoil keeps all of it. -/
theorem Durable.step (hDurable : s.Durable) (hLimits : LimitsCount s.ledger.limits)
    (hAttempts : s.ledger.limits.maxAttemptsPerRequest ≤ maxAttemptsPerRequest) (op : Op)
    (hFit : ¬ s.Spoils (.op op)) : (s.step op).Durable := by
  simp only [Spoils, not_or] at hFit
  rcases hFit with ⟨hBelow, hOnce, hAttempted⟩
  constructor
  · exact step_durable_sound s op hDurable.sound hBelow
  · rw [step_ledger_limits, (step_boot s op).1]
    exact hDurable.limits
  · rcases step_ledger s op with ⟨quiet, -, hLedger⟩
    rw [hLedger]
    exact (hDurable.coherent.steps _).steps quiet
  · exact hDurable.step_populated hLimits op hOnce
  · exact hDurable.step_bound hAttempts op hAttempted

---
-- Boots
---

variable {base : Coordinator}
variable (mt : Generator)

/- Every retained record has the attempts a record holds. -/
theorem Durable.bounded (hDurable : s.Durable) (id : RequestId) (record : RequestRecord)
    (hRecord : s.ledger.requests.lookup id = some record) :
    record.attempts.length ≤ maxAttemptsPerRequest := by
  have hBound := hDurable.bound id record.view (view_of_lookup hRecord)
  have hLength := hBound.bounded
  rw [RequestRecord.view_attempts, length_map] at hLength
  exact hLength

theorem Durable.retained (hDurable : s.Durable) :
    s.ledger.terminalOrder.length ≤ s.config.limits.ledger.maxRetainedTerminalRequests := by
  have hRetained := hDurable.populated.retained
  rw [hDurable.limits] at hRetained
  exact hRetained

/- The exported records can be restored. -/
theorem Durable.restorable (hDurable : s.Durable) :
    Restorable s.ledger.limits
      (s.exportState.terminalRequests ++ s.exportState.interruptedRequests) :=
  hDurable.populated.restorable hDurable.coherent hDurable.bounded _ hDurable.retained

/- The exported document passes the inspection of a boot. -/
theorem Durable.validateRestoredState (hDurable : s.Durable)
    (hLimits : base.config.limits = s.config.limits) :
    base.validateRestoredState s.exportState = .ok () := by
  have hSound := hDurable.sound
  have hRestorable := hDurable.restorable
  have hModels : s.exportState.models.any (fun entry => !entry.isValid) = false := by
    rw [any_eq_false]
    intro entry hMem
    rw [hSound.models.mem_sorted hMem]
    exact Bool.false_ne_true
  have hStates : s.exportState.states.any (fun entry => !entry.isValid) = false := by
    rw [any_eq_false]
    intro entry hMem
    rw [hSound.states.mem_sorted hMem]
    exact Bool.false_ne_true
  have hModelCount : s.exportState.models.length ≤ s.config.limits.maxModelRecords :=
    hSound.models.length_sorted _
  have hStateCount : s.exportState.states.length ≤ s.config.limits.maxStateRecords :=
    hSound.states.length_sorted _
  have hTopology :
      (s.exportState.topologyPresent &&
        !s.exportState.topology.isAuthoritative) = false := by
    cases hPresent : s.exportState.topologyPresent with
    | false => rfl
    | true =>
      have hFit : s.topology.isAuthoritative = true := hSound.topology hPresent
      change (!s.topology.isAuthoritative) = false
      rw [hFit]
      rfl
  have hTerminal := inspectRecords_eq_ok s.exportState.terminalRequests [] (by
      have hNodup := hRestorable.nodup
      rw [map_append] at hNodup
      exact hNodup.of_append_left)
    (fun record hMem => hRestorable.named record (mem_append_left _ hMem))
    (fun record hMem => hRestorable.bounded record (mem_append_left _ hMem))
  have hInterrupted := inspectRecords_eq_ok s.exportState.interruptedRequests
    (s.exportState.terminalRequests.map RequestRecord.id)
    (by
      have hNodup := hRestorable.nodup
      rw [map_append] at hNodup
      exact hNodup)
    (fun record hMem => hRestorable.named record (mem_append_right _ hMem))
    (fun record hMem => hRestorable.bounded record (mem_append_right _ hMem))
  unfold Coordinator.validateRestoredState
  simp only [Result.guard_eq_ok_iff, hLimits, Except.bind_eq_ok_iff]
  refine ⟨not_not.mpr rfl, not_not.mpr hSound.policy.valid, ?_, Nat.not_lt.mpr hModelCount, ?_,
    Nat.not_lt.mpr hStateCount, ?_, ?_, _, hTerminal, _, hInterrupted, trivial⟩
  · rw [Generation.isUnset_iff]
    exact hSound.policy.issued
  · rw [hModels]
    exact Bool.false_ne_true
  · rw [hStates]
    exact Bool.false_ne_true
  · rw [hTopology]
    exact Bool.false_ne_true

theorem bootFrom_of_accepted {document : PersistedCoordinatorState} {ledger : RequestLedger}
    (hValid : base.clearState.validateRestoredState document = .ok ())
    (hRestored :
      base.ledger.clear.restoreRecords (document.terminalRequests ++ document.interruptedRequests) =
        (.ok (), ledger)) :
    (base.bootFrom mt document).1.isOk = true ∧
      (base.bootFrom mt document).2.ledger = ledger ∧
      (base.bootFrom mt document).2.incarnation ≠ .nil ∧
      (base.bootFrom mt document).2.durable =
        { config := base.config
          epoch := nextEpoch document.epoch
          incarnation := (base.bootFrom mt document).2.incarnation
          bootCount := (base.bootFrom mt document).2.bootCount
          policy := withNextGeneration document.policy
          topologyPresent := document.topologyPresent
          topology :=
            if document.topologyPresent then document.topology
            else base.topology
          models := restoreModels ∅ document.models
          states := restoreStates ∅ document.states } := by
  have hApplied : base.clearState.restoreState document = (.ok (), { base.clearState with
            policy := withNextGeneration document.policy
            models := restoreModels ∅ document.models
            states := restoreStates ∅ document.states
            topology :=
              if document.topologyPresent then document.topology
              else base.topology
            topologyPresent := document.topologyPresent
            ledger }) := by
    have hLedger :
        base.clearState.ledger.restoreRecords
            (document.terminalRequests ++ document.interruptedRequests) =
          (.ok (), ledger) := hRestored
    unfold restoreState
    rw [hValid]
    simp only [hLedger]
    rfl
  unfold bootFrom
  simp only [hApplied]
  exact ⟨rfl, rfl, makeRandomId_ne_nil mt _, rfl⟩

theorem restoreModels_registered {limit : Nat} (entries : List ModelState)
    (hValid : ∀ entry ∈ entries, entry.isValid = true) (hRoom : entries.length ≤ limit) :
    Registered ModelState.modelHash ModelState.isValid limit (restoreModels ∅ entries) := by
  apply Registered.foldl_emplace (fun entry => { entry with requiresRevalidation := true })
    (fun _ => rfl) (fun _ => rfl) entries hValid ∅ (.empty _ _ limit)
  change 0 + entries.length ≤ limit
  omega

theorem restoreStates_registered {limit : Nat} (entries : List StateGenerationRecord)
    (hValid : ∀ entry ∈ entries, entry.isValid = true) (hRoom : entries.length ≤ limit) :
    Registered StateGenerationRecord.stateHash StateGenerationRecord.isValid limit
      (restoreStates ∅ entries) := by
  apply Registered.foldl_emplace (fun entry => { entry with requiresRevalidation := true })
    (fun _ => rfl) (fun _ => rfl) entries hValid ∅ (.empty _ _ limit)
  change 0 + entries.length ≤ limit
  omega

theorem nextEpoch_ne_unset {epoch : CoordinatorEpoch} (hBelow : epoch ≠ .max) :
    nextEpoch epoch ≠ .unset := by
  unfold nextEpoch
  split
  · exact Generation.first_ne_unset
  · exact Generation.next_ne_unset epoch hBelow

/- The document is accepted whatever may follow. -/
theorem Durable.bootFrom_accepted (hDurable : s.Durable) (hConfig : base.config = s.config)
    (hLedger : base.ledger.limits = s.ledger.limits) :
    ∃ ledger,
      base.clearState.validateRestoredState s.exportState = .ok () ∧
        base.ledger.clear.restoreRecords
          (s.exportState.terminalRequests ++ s.exportState.interruptedRequests) = (.ok (), ledger) ∧
        ledger.Populated ∧ ledger.limits = s.ledger.limits ∧
        (base.bootFrom mt s.exportState).1.isOk = true := by
  have hLimits := congrArg CoordinatorConfig.limits hConfig
  have hValid := hDurable.validateRestoredState hLimits
  have hRestorable := hDurable.restorable
  rw [← hLedger] at hRestorable
  rcases hRestorable.restoreRecords with ⟨ledger, hRestored, hPopulated, hSame⟩
  exact ⟨ledger, hValid, hRestored, hPopulated, hSame.trans hLedger,
    (bootFrom_of_accepted mt hValid hRestored).1⟩

/- The next boot is durable when nothing is spoiled. -/
theorem Durable.bootFrom (hDurable : s.Durable) (hConfig : base.config = s.config)
    (hLedger : base.ledger.limits = s.ledger.limits)
    (hFit : ¬ (s.Unattempted ∨ s.epoch = .max ∨ s.policy.generation = .max)) :
    (base.bootFrom mt s.exportState).2.Durable := by
  simp only [not_or] at hFit
  rcases hFit with ⟨hAttempted, hEpoch, hGeneration⟩
  have hSound := hDurable.sound
  rcases hDurable.bootFrom_accepted mt hConfig hLedger with
    ⟨ledger, hValid, hRestored, hPopulated, hSame, -⟩
  rcases bootFrom_of_accepted mt hValid hRestored with ⟨-, hAfter, hIncarnation, hState⟩
  constructor
  · rw [hState]
    constructor
    · exact nextEpoch_ne_unset hEpoch
    · exact hIncarnation
    · exact withNextGeneration_storable hSound.policy.valid hSound.policy.explains hGeneration
    · intro hPresent
      have hHeld : s.topologyPresent = true := hPresent
      change (if s.topologyPresent = true then s.topology
        else base.topology).isAuthoritative = true
      rw [if_pos hHeld]
      exact hSound.topology hHeld
    · apply restoreModels_registered
      · intro entry hMem
        exact hSound.models.mem_sorted hMem
      · rw [hConfig]
        exact hSound.models.length_sorted _
    · apply restoreStates_registered
      · intro entry hMem
        exact hSound.states.mem_sorted hMem
      · rw [hConfig]
        exact hSound.states.length_sorted _
  · rw [hAfter, hSame, bootFrom_config, hConfig]
    exact hDurable.limits
  · exact (Booted.restored base s.exportState).coherent
  · rw [hAfter]
    exact hPopulated
  · intro id view hView
    have hChange : ViewChange s .reboot id _ _ :=
      bootFrom_exportState_viewChange mt base hDurable.coherent (fun _ hLabel => by cases hLabel) id
    rw [hView] at hChange
    generalize hOld : s.ledger.view id = old at hChange
    cases hChange with
    | same => exact hDurable.bound id view hOld
    | registered _ hLabel | evolved _ _ _ _ hLabel => cases hLabel
    | restored before hLabel =>
      apply RequestView.bound_restored (hDurable.bound id before hOld)
      intro hLive hNone
      exact hAttempted ⟨id, before, hOld, hLive, hNone⟩

theorem bootFresh_durable (hLimits : s.ledger.limits = s.config.limits.ledger.normalised)
    (hValid : s.config.policy.validate = .valid)
    (hExplains : s.config.policy.maxExplanationSteps ≠ 0) : (s.bootFresh mt).2.Durable := by
  constructor
  · constructor
    · exact Generation.first_ne_unset
    · exact makeRandomId_ne_nil mt _
    · exact withGeneration_storable hValid hExplains
    · intro hPresent
      cases hPresent
    · exact Registered.empty _ _ _
    · exact Registered.empty _ _ _
  · exact hLimits
  · exact Coherent.clear s.ledger
  · exact Populated.clear s.ledger
  · intro id view hView
    cases hView

/- A transition that does not spoil keeps a durable state. -/
theorem Durable.transition {mt : Generator} {t : Coordinator} {label : Label}
    (hDurable : s.Durable) (hLimits : s.config.limits = {})
    (hValid : s.config.policy.validate = .valid)
    (hExplains : s.config.policy.maxExplanationSteps ≠ 0) (hFit : ¬ s.Spoils label)
    (hTransition : Transition mt s label t) : t.Durable ∧ t.config = s.config := by
  have hLedger := hDurable.limits
  rw [hLimits] at hLedger
  cases hTransition with
  | op op =>
    refine ⟨?_, (step_boot s op).1⟩
    refine hDurable.step ?_ ?_ op hFit
    · rw [hLedger]
      unfold LimitsCount
      decide
    · rw [hLedger]
      decide
  | bootFresh => exact ⟨bootFresh_durable mt hDurable.limits hValid hExplains, rfl⟩
  | reboot => exact ⟨hDurable.bootFrom mt rfl rfl hFit, bootFrom_config mt _⟩
  | restart _ entropy epoch hBoot =>
    have hBooted : ((create s.config entropy).bootFrom mt s.exportState).2.Durable :=
      hDurable.bootFrom mt rfl hDurable.limits.symm hFit
    have hConfig : ((create s.config entropy).bootFrom mt s.exportState).2.config = s.config :=
      bootFrom_config mt _
    rw [hBoot] at hBooted hConfig
    exact ⟨hBooted, hConfig⟩

end Coordinator

---
-- Loadable Snapshots
---

/-
  The exported document is saved, the payload is read back
  to its last byte as the same document, and a new process
  under the same configuration boots from it.
-/
def Coordinator.Loadable (mt : Generator) (s : Coordinator) : Prop :=
  ∃ payload,
    savePayload maxSnapshotPayloadBytes s.exportState = .ok payload ∧
      loadPayload maxSnapshotPayloadBytes payload = .ok s.exportState ∧
      ∀ entropy, ((create s.config entropy).bootFrom mt s.exportState).1.isOk = true

/- A bound record is read back from its encoding. -/
theorem RequestView.Bound.storable {record : RequestRecord} (hBound : record.view.Bound)
    (hNamed : record.id ≠ .nil) : record.Storable := by
  constructor
  · exact hNamed
  · have hLength := hBound.bounded
    rw [RequestRecord.view_attempts, length_map] at hLength
    exact hLength
  · intro hSome
    apply hBound.current
    exact fun hNone => hSome (map_eq_nil_iff.mp hNone)
  · intro hKnown hBegun hNone
    apply hBound.attempted hKnown hBegun
    rw [RequestRecord.view_attempts, hNone]
    rfl

namespace Coordinator

variable {s : Coordinator}

theorem Durable.record_storable (hDurable : s.Durable) {id : RequestId} {record : RequestRecord}
    (hRecord : s.ledger.requests.lookup id = some record) : record.Storable := by
  have hBound := hDurable.bound id record.view (view_of_lookup hRecord)
  apply hBound.storable
  rw [hDurable.coherent.keyed id record hRecord]
  rintro rfl
  rw [hDurable.coherent.named] at hRecord
  cases hRecord

/- The sizes of the collections of an exported document. -/
theorem Durable.exportState_counts (hDurable : s.Durable) (hLimits : s.config.limits = {}) :
    s.exportState.models.length ≤ 256 ∧
      s.exportState.states.length ≤ 4096 ∧ s.exportState.terminalRequests.length ≤ 2048 ∧
      s.exportState.interruptedRequests.length ≤ 4096 := by
  have hModels : s.exportState.models.length ≤ s.config.limits.maxModelRecords :=
    hDurable.sound.models.length_sorted _
  have hStates : s.exportState.states.length ≤ s.config.limits.maxStateRecords :=
    hDurable.sound.states.length_sorted _
  have hTerminal :
      s.exportState.terminalRequests.length ≤ s.config.limits.ledger.maxRetainedTerminalRequests :=
    length_take_le _ _
  rcases hDurable.populated.ordered with ⟨live, hOrdered, hLive⟩
  have hInterrupted :
      s.exportState.interruptedRequests.length ≤ s.ledger.limits.maxLiveRequests := by
    have hLength := hOrdered.length_exportLiveRecords hDurable.coherent
    exact hLength.le.trans hLive
  rw [hDurable.limits] at hInterrupted
  rw [hLimits] at hModels hStates hTerminal hInterrupted
  exact ⟨hModels, hStates, hTerminal, hInterrupted⟩

/- A durable coordinator exports a storable document. -/
theorem Durable.exportState_storable (hDurable : s.Durable) (hLimits : s.config.limits = {}) :
    s.exportState.Storable := by
  have hSound := hDurable.sound
  rcases hDurable.populated.ordered with ⟨live, hOrdered, hLive⟩
  rcases hDurable.exportState_counts hLimits with ⟨hModels, hStates, hTerminal, hInterrupted⟩
  have hRoom : 4096 ≤ maxCollectionEntries := by decide
  constructor
  · rfl
  · exact hSound.epoch
  · exact hSound.incarnation
  · exact hSound.policy
  · intro hPresent
    have hFit := hSound.topology hPresent
    simp only [TopologyEvidence.isAuthoritative, Bool.and_eq_true] at hFit
    exact hFit.1.1
  · exact hModels.trans ((by decide : 256 ≤ 4096).trans hRoom)
  · intro entry hMem
    exact hSound.models.mem_sorted hMem
  · exact hStates.trans hRoom
  · intro entry hMem
    exact hSound.states.mem_sorted hMem
  · exact hTerminal.trans ((by decide : 2048 ≤ 4096).trans hRoom)
  · intro record hMem
    rcases hOrdered.mem_exportTerminalRecords hMem with ⟨⟨id, hRecord⟩, hFinal⟩
    exact ⟨hDurable.record_storable hRecord, hFinal,
      hDurable.coherent.drained id record hRecord hFinal⟩
  · exact hInterrupted.trans hRoom
  · intro record hMem
    rcases mem_exportLiveRecords hMem with ⟨⟨id, hRecord⟩, -⟩
    exact hDurable.record_storable hRecord

/- The document of a durable coordinator fits the store. -/
theorem Durable.exportState_fits (hDurable : s.Durable) (hLimits : s.config.limits = {}) :
    s.exportState.layout.length ≤ maxSnapshotPayloadBytes := by
  rcases hDurable.exportState_counts hLimits with ⟨hModels, hStates, hTerminal, hInterrupted⟩
  have hLength := s.exportState.length_layout_le
  unfold maxSnapshotPayloadBytes
  omega

theorem Durable.loadable (mt : Generator) (hDurable : s.Durable) (hLimits : s.config.limits = {}) :
    s.Loadable mt := by
  have hFits := hDurable.exportState_fits hLimits
  refine ⟨_, savePayload_of_fits hFits,
    loadPayload_layout (hDurable.exportState_storable hLimits) hFits, ?_⟩
  intro entropy
  have hAccepted :
      ∃ ledger, _ ∧ _ ∧ _ ∧ _ ∧
        ((create s.config entropy).bootFrom mt s.exportState).1.isOk = true :=
    hDurable.bootFrom_accepted mt rfl hDurable.limits.symm
  rcases hAccepted with ⟨-, -, -, -, -, hOk⟩
  exact hOk

/- A state that steps which spoil nothing lead to. -/
def Unspoilt (mt : Generator) (config : CoordinatorConfig) (t : Coordinator) : Prop :=
  ∃ start labels,
    Started mt config start ∧
      Run (Guarded (fun s label => ¬ s.Spoils label) (Transition mt)) start labels t

theorem Unspoilt.durable {mt : Generator} {config : CoordinatorConfig}
    {t : Coordinator} (hUnspoilt : t.Unspoilt mt config) (hLimits : config.limits = {})
    (hValid : config.policy.validate = .valid) (hExplains : config.policy.maxExplanationSteps ≠ 0) :
    t.Durable ∧ t.config = config := by
  rcases hUnspoilt with ⟨start, labels, ⟨entropy, rfl⟩, hRun⟩
  apply hRun.invariant (fun s => s.Durable ∧ s.config = config)
  · rintro s label next ⟨hFit, hTransition⟩ ⟨hDurable, rfl⟩
    exact hDurable.transition hLimits hValid hExplains hFit hTransition
  · exact ⟨bootFresh_durable mt rfl hValid hExplains, rfl⟩

/-
  In every run from a fresh boot whose steps do not spoil
  the document, every state reached has a loadable snapshot.
-/
theorem snapshot_loadable
    (mt : Generator) (config : CoordinatorConfig) (start t : Coordinator)
    (labels : List Label) (hLimits : config.limits = {}) (hValid : config.policy.validate = .valid)
    (hExplains : config.policy.maxExplanationSteps ≠ 0) (hStarted : Started mt config start)
    (hRun : Run (Guarded (fun s label => ¬ s.Spoils label) (Transition mt)) start labels t) :
    t.Loadable mt := by
  rcases Unspoilt.durable ⟨start, labels, hStarted, hRun⟩ hLimits hValid hExplains with
    ⟨hDurable, rfl⟩
  exact hDurable.loadable mt hLimits

/- A restarted coordinator with a cancelled request. -/
def cancelledAttemptOps : List Op :=
  [ .setModelGeneration 7 none,
    .registerRequest ⟨0, 1⟩ 1,
    .registerAttempt ⟨0, 1⟩ ⟨0, 2⟩ 7 2,
    .cancelRequest ⟨0, 1⟩ .rejectedRequestCancelled 3 ]

/- A coordinator that restarted once, with no requests. -/
def rebooted : Coordinator :=
  (sampleStart.bootFrom sampleGenerator sampleStart.exportState).2

theorem snapshot_loadable_cancelled :
    (rebooted.steps cancelledAttemptOps).ledger.isCancelled ⟨0, 1⟩ = true ∧
      (rebooted.steps cancelledAttemptOps).Loadable sampleGenerator := by
  have hReboot : ¬ sampleStart.Spoils .reboot := by
    rintro (⟨id, view, hView, -⟩ | hEpoch | hGeneration)
    · cases hView
    · revert hEpoch
      decide
    · revert hGeneration
      decide
  have hRun :
      Run (Guarded (fun s label => ¬ s.Spoils label) (Transition sampleGenerator)) sampleStart
        (.reboot :: cancelledAttemptOps.map Label.op) (rebooted.steps cancelledAttemptOps) := by
    refine .cons ⟨hReboot, .reboot _⟩
      (.cons ⟨?_, .op _ _⟩ (.cons ⟨?_, .op _ _⟩
        (.cons ⟨?_, .op _ _⟩ (.cons ⟨?_, .op _ _⟩ (.nil _)))))
    · rintro (⟨held, hHeld, -⟩ | ⟨id, event, view, hEvent, -⟩ | ⟨id, event, view, hEvent, -⟩)
      · cases hHeld
      · cases hEvent
      · cases hEvent
    · rintro (hExhausts | ⟨id, event, view, hEvent, -⟩ | ⟨id, event, view, hEvent, -⟩)
      · exact hExhausts
      · cases hEvent
      · cases hEvent
    · rintro (hExhausts | ⟨id, event, view, hEvent, -, -, hFails⟩ |
        ⟨id, event, view, hEvent, -, hWithdraws, -⟩)
      · exact hExhausts
      · cases hEvent
        exact hFails
      · cases hEvent
        exact hWithdraws
    · rintro (hExhausts | ⟨id, event, view, hEvent, -, -, hFails⟩ |
        ⟨id, event, view, hEvent, hView, -, hNone⟩)
      · exact hExhausts
      · cases hEvent
        exact hFails
      · cases hEvent
        have hAttempts := congrArg (Option.map (fun view => view.attempts.isEmpty)) hView
        rw [Option.map_some, hNone] at hAttempts
        revert hAttempts
        decide
  exact ⟨by decide, snapshot_loadable sampleGenerator {} sampleStart _ _ rfl (by decide) (by decide)
    sampleStart_started hRun⟩

/- A request that is cancelled before any attempt. -/
def cancelledUnattempted : Coordinator :=
  sampleStart.steps [ .registerRequest ⟨0, 1⟩ 1, .cancelRequest ⟨0, 1⟩ .rejectedRequestCancelled 2 ]

/-
  Its record is written, and refused when it is read back:
  no payload loads as the document it exports.
-/
theorem cancelled_unattempted_refused :
    Reachable sampleGenerator {} cancelledUnattempted ∧
      cancelledUnattempted.exportState.terminalRequests.map (fun record =>
            (decodeRequestRecord (Reader.create record.layout maxSnapshotPayloadBytes)).1) =
        [.failure .malformedInput "request record has no attempts"] ∧
      ¬ cancelledUnattempted.Loadable sampleGenerator := by
  refine ⟨sampleStart_reachable _, by decide +kernel, ?_⟩
  rintro ⟨payload, -, hLoaded, -⟩
  have hTerminal := (loadPayload_storable hLoaded).terminal
  have hUnattempted :
      ∃ record ∈ cancelledUnattempted.exportState.terminalRequests,
        record.lifecycle = .cancelled ∧ record.attempts = [] := by
    decide +kernel
  rcases hUnattempted with ⟨record, hMem, hCancelled, hNone⟩
  apply (hTerminal record hMem).1.attempted _ _ hNone
  · rw [hCancelled]
    decide
  · rw [hCancelled]
    decide

end Coordinator

end TrafficFabric
