import TrafficFabric.Coordinator.Durability
import TrafficFabric.Coordinator.TransferLifecycle

/-
  The generations of models and state identities, and the
  transfers bound to them.

  A transfer of an old generation is not authorized. Starting
  and completing one does not look at the registries, so the
  fence holds if an identity advances only while no transfer
  bound to it may run.

  Main declarations:
    * `Generation.Surpassed`
    * `Coordinator.Outdated`
    * `Coordinator.Fenced.step`
    * `Coordinator.outdated_transfer_fenced`
-/

namespace TrafficFabric

open Option TransferRecord StateGenerationRecord Generation

namespace Generation

variable {tag : GenerationTag}

/- The registry is past the generation that was bound. -/
def Surpassed (bound : Generation tag) (current : Option (Generation tag)) : Prop :=
  ∃ generation, current = some generation ∧ bound.value < generation.value

/- A generation is established or followed by the next. -/
def Advanced (before after : Option (Generation tag)) : Prop :=
  (before = none ∧ after = some ⟨1⟩) ∨ ∃ held, before = some held ∧ after = some held.next

theorem not_surpassed_self (bound : Generation tag) : ¬ bound.Surpassed (some bound) := by
  rintro ⟨generation, hSame, hLess⟩
  cases hSame
  exact UInt64.lt_irrefl _ hLess

/- What was surpassed stays so until the last generation. -/
theorem Surpassed.advanced {bound : Generation tag} {before after : Option (Generation tag)}
    (hSurpassed : bound.Surpassed before) (hAdvanced : Advanced before after)
    (hBelow : before ≠ some max) : bound.Surpassed after := by
  rcases hSurpassed with ⟨generation, rfl, hLess⟩
  rcases hAdvanced with ⟨hNone, -⟩ | ⟨held, hHeld, rfl⟩
  · cases hNone
  · cases hHeld
    refine ⟨generation.next, rfl, ?_⟩
    rw [UInt64.lt_iff_toNat_lt] at hLess ⊢
    rw [toNat_next generation (fun hMax => hBelow (congrArg some hMax))]
    omega

end Generation

namespace Coordinator

variable (s : Coordinator)
variable {tag : GenerationTag} {hash : UInt64}

def modelGeneration (hash : UInt64) : Option ModelGeneration :=
  (s.models.lookup hash).map ModelState.generation

/- The generation the registry has for a state identity. -/
def stateGeneration (hash : UInt64) : Option StateGeneration :=
  (s.states.lookup hash).map generation

/- Only the entry of the identity gets a new generation. -/
theorem advanceGeneration_generations {V : Type} {noun : String} {generation : V → Generation tag}
    {requiresRevalidation : V → Bool} {limit : Nat} {registry : Table UInt64 V}
    {expected : Option (Generation tag)} {value : Generation tag} (entry : V)
    (hOk :
      advanceGeneration noun generation
        requiresRevalidation limit registry hash expected = .ok value)
    (hEntry : generation entry = value) (other : UInt64) :
    ((registry.insert hash entry).lookup other).map generation =
        (registry.lookup other).map generation ∨
      other = hash ∧ other ≠ 0 ∧
        Advanced ((registry.lookup other).map generation)
          (((registry.insert hash entry).lookup other).map generation) := by
  rw [AList.lookup_insert_if]
  split
  · rename_i hSame
    rcases advanceGeneration_eq_ok hOk with ⟨hHash, hCases⟩
    refine .inr ⟨hSame, hSame ▸ hHash, ?_⟩
    rw [hSame, map_some, hEntry]
    rcases hCases with ⟨hNone, -, -, rfl⟩ | ⟨held, hHeld, -, -, rfl⟩
    · rw [hNone]
      exact .inl ⟨rfl, rfl⟩
    · rw [hHeld]
      exact .inr ⟨generation held, rfl, rfl⟩
  · exact .inl rfl

/- An entry that is rewritten keeps its generation. -/
theorem map_generation_insert {V : Type} (generation : V → Generation tag)
    {registry : Table UInt64 V} {held : V} (entry : V) (hHeld : registry.lookup hash = some held)
    (hEntry : generation entry = generation held) (other : UInt64) :
    ((registry.insert hash entry).lookup other).map generation =
      (registry.lookup other).map generation := by
  rw [AList.lookup_insert_if]
  split
  · rename_i hSame
    rw [hSame, hHeld, map_some, map_some, hEntry]
  · rfl

/- Only its own operation advances a model. -/
theorem step_modelGeneration (op : Op) (hash : UInt64) :
    (s.step op).modelGeneration hash = s.modelGeneration hash ∨
      ∃ expected, op = .setModelGeneration hash expected ∧
        (s.setModelGeneration hash expected).1.isOk = true ∧ hash ≠ 0 ∧
        Advanced (s.modelGeneration hash) ((s.step op).modelGeneration hash) := by
  by_cases hOp : op.Configures
  · have hConfigured := step_configured s op hOp
    generalize s.step op = t at hConfigured ⊢
    cases hConfigured with
    | modelAdvanced other expected value hOk =>
      rcases advanceGeneration_generations (⟨other, value, false⟩ : ModelState) hOk rfl hash
        with hKept | ⟨hSame, hSet, hAdvanced⟩
      · exact .inl hKept
      · cases hSame
        refine .inr ⟨expected, rfl, ?_, hSet, hAdvanced⟩
        unfold setModelGeneration
        rw [hOk]
        rfl
    | modelRevalidated other held hHeld =>
      exact .inl
        (map_generation_insert ModelState.generation { held with requiresRevalidation := false }
          hHeld rfl hash)
    | _ => exact .inl rfl
  · have hModels := congrArg DurableState.models (step_durable s op hOp)
    refine .inl ?_
    exact congrArg
      (fun models : Table UInt64 ModelState => (models.lookup hash).map ModelState.generation)
      hModels

/- Only its own operation advances a state identity. -/
theorem step_stateGeneration (op : Op) (hash : UInt64) :
    (s.step op).stateGeneration hash = s.stateGeneration hash ∨
      ∃ expected,
        op = .advanceStateGeneration hash expected ∧
        (s.advanceStateGeneration hash expected).1.isOk = true ∧
        Advanced (s.stateGeneration hash) ((s.step op).stateGeneration hash) := by
  by_cases hOp : op.Configures
  · have hConfigured := step_configured s op hOp
    generalize s.step op = t at hConfigured ⊢
    cases hConfigured with
    | stateAdvanced other expected value hOk =>
      rcases advanceGeneration_generations (⟨other, value, false⟩ : StateGenerationRecord) hOk
        rfl hash with hKept | ⟨hSame, -, hAdvanced⟩
      · exact .inl hKept
      · cases hSame
        refine .inr ⟨expected, rfl, ?_, hAdvanced⟩
        unfold advanceStateGeneration
        rw [hOk]
        rfl
    | stateRevalidated other held hHeld =>
      exact .inl
        (map_generation_insert generation
          { held with requiresRevalidation := false } hHeld rfl hash)
    | _ => exact .inl rfl
  · have hStates := congrArg DurableState.states (step_durable s op hOp)
    refine .inl ?_
    exact congrArg (fun states : Table UInt64 StateGenerationRecord =>
        (states.lookup hash).map generation)
      hStates

end Coordinator

---
-- Fenced Transfers
---

/- The operation advances an identity of the transfer. -/
def Op.Advances (s : Coordinator) (transfer : TransferRecord) : Op → Prop
| .setModelGeneration hash expected =>
  hash = transfer.modelHash ∧ (s.setModelGeneration hash expected).1.isOk = true
| .advanceStateGeneration hash expected =>
  hash = transfer.stateHash ∧ (s.advanceStateGeneration hash expected).1.isOk = true
| _ => False

namespace Coordinator

/- A registry is past a generation the transfer is bound to. -/
def Outdated (s : Coordinator) (transfer : TransferRecord) : Prop :=
  transfer.modelGeneration.Surpassed (s.modelGeneration transfer.modelHash) ∨
    transfer.stateGeneration.Surpassed (s.stateGeneration transfer.stateHash)

/-
  Identities advance while no transfer bound to them may run,
  and not past the last generation.
-/
def AdvancesIdle (s : Coordinator) (label : Label) : Prop :=
  ∀ op id transfer,
    label = .op op → s.transfers.lookup id = some transfer → op.Advances s transfer →
    transfer.isUnderWay = false ∧ ¬ op.Exhausts s

variable {mt : Generator} {s t : Coordinator} {op : Op} {id : StateTransferId}
variable {transfer : TransferRecord} {next : TransferRecord}

theorem outdated_of_terms (hTerms : next.terms = transfer.terms) (hOutdated : s.Outdated next) :
    s.Outdated transfer := by
  have hSame : s.Outdated next.terms = s.Outdated transfer.terms := by rw [hTerms]
  exact hSame.mp hOutdated

theorem Outdated.of_step (hOutdated : (s.step op).Outdated transfer) :
    s.Outdated transfer ∨ op.Advances s transfer := by
  rcases hOutdated with hModel | hState
  · rcases step_modelGeneration s op transfer.modelHash with hSame | ⟨expected, rfl, hOk, -⟩
    · rw [hSame] at hModel
      exact .inl (.inl hModel)
    · exact .inr ⟨rfl, hOk⟩
  · rcases step_stateGeneration s op transfer.stateHash with hSame | ⟨expected, rfl, hOk, -⟩
    · rw [hSame] at hState
      exact .inl (.inr hState)
    · exact .inr ⟨rfl, hOk⟩

theorem Outdated.step (hOutdated : s.Outdated transfer) (hIdle : s.AdvancesIdle (.op op))
    (hTransfer : s.transfers.lookup id = some transfer) : (s.step op).Outdated transfer := by
  rcases hOutdated with hModel | hState
  · refine .inl ?_
    rcases step_modelGeneration s op transfer.modelHash with
      hSame | ⟨expected, rfl, hOk, -, hAdvanced⟩
    · rw [hSame]
      exact hModel
    · refine hModel.advanced hAdvanced ?_
      intro hMax
      rcases map_eq_some_iff.mp hMax with ⟨held, hHeld, hLast⟩
      exact (hIdle _ id transfer rfl hTransfer ⟨rfl, hOk⟩).2 ⟨held, hHeld, hLast⟩
  · refine .inr ?_
    rcases step_stateGeneration s op transfer.stateHash with hSame | ⟨expected, rfl, hOk, hAdvanced⟩
    · rw [hSame]
      exact hState
    · refine hState.advanced hAdvanced ?_
      intro hMax
      rcases map_eq_some_iff.mp hMax with ⟨held, hHeld, hLast⟩
      exact (hIdle _ id transfer rfl hTransfer ⟨rfl, hOk⟩).2 ⟨held, hHeld, hLast⟩

/- The model without a hash stays where it was bound. -/
def Rooted (s : Coordinator) (transfer : TransferRecord) : Prop :=
  transfer.modelHash = 0 → ¬ transfer.modelGeneration.Surpassed (s.modelGeneration 0)

/- A transfer that may run is bound to what is current. -/
def Fenced (s : Coordinator) : Prop :=
  ∀ id transfer,
    s.transfers.lookup id = some transfer →
    s.Rooted transfer ∧ (s.Outdated transfer → transfer.isUnderWay = false)

/- A permitted transfer is bound to what is current. -/
theorem current_of_permits {request : TrafficRequest} {now : Int64} {victim : Nat}
    (hSubject : Authorizes id request)
    (hPermits : (s.evaluate request now victim).1.permitsTraffic = true)
    (hTransfer : s.transfers.lookup id = some transfer) (hRooted : s.Rooted transfer) :
    ¬ s.Outdated transfer := by
  rcases grounds_of_permits hSubject hPermits with ⟨subject, rule, held, -, rfl, hGrounds⟩
  have hHeld := hGrounds.retained
  rw [hTransfer] at hHeld
  cases hHeld
  rintro (hModel | hState)
  · by_cases hHash : transfer.modelHash = 0
    · rw [hHash] at hModel
      exact hRooted hHash hModel
    · rcases hGrounds.model hHash with ⟨model, hLookup, -, hCurrent⟩
      unfold modelGeneration at hModel
      rw [hLookup, map_some, hCurrent] at hModel
      exact not_surpassed_self _ hModel
  · rcases hGrounds.state with ⟨state, hLookup, -, hCurrent⟩
    unfold stateGeneration at hState
    rw [hLookup, map_some, hCurrent] at hState
    exact not_surpassed_self _ hState

/- A transfer that may run did so before or is permitted. -/
theorem TransferChange.underWay {before : Option TransferRecord}
    (hChange : TransferChange s id op before (some next)) (hUnderWay : next.isUnderWay = true) :
    ∃ old, before = some old ∧
      (old.isUnderWay = true ∨
        ∃ request now victim,
          op = .authorizeTransfer request now victim ∧ Authorizes id request ∧
          (s.evaluate request now victim).1.permitsTraffic = true) := by
  cases hChange with
  | same => exact ⟨next, rfl, .inl hUnderWay⟩
  | granted request now victim old hSubject hPermits =>
    exact ⟨old, rfl, .inr ⟨request, now, victim, rfl, hSubject, hPermits⟩⟩
  | started _ old hState =>
    refine ⟨old, rfl, .inl ?_⟩
    unfold isUnderWay
    rw [hState]
    rfl
  | ended _ _ old =>
    have hLive := live_of_underWay hUnderWay
    rw [(abandonOwned_keeps old).2.2] at hLive
    cases hLive
  | _ => cases hUnderWay

/- A registered transfer is bound to what is current. -/
theorem rooted_of_registration {registration : TransferRegistration} {model : ModelGeneration}
    {state : StateGeneration} (hCheck : s.checkRegistration registration = .ok (model, state))
    (now : Int64) : s.Rooted (registration.record model state now) := by
  unfold checkRegistration at hCheck
  simp only [Result.guard_eq_ok_iff, Except.bind_eq_ok_iff] at hCheck
  rcases hCheck with ⟨-, -, -, -, -, found, hModel, _, -, -, hSame⟩
  cases hSame
  rcases (requireGeneration_eq_ok_iff _ _ _ _ _ _).mp hModel with ⟨held, hHeld, -, hCurrent⟩
  intro hHash hSurpassed
  change registration.modelHash = 0 at hHash
  rw [hHash] at hHeld
  unfold modelGeneration at hSurpassed
  rw [hHeld, map_some, hCurrent] at hSurpassed
  exact not_surpassed_self _ hSurpassed

theorem Rooted.step (hRooted : s.Rooted transfer) : (s.step op).Rooted transfer := by
  intro hHash
  rcases step_modelGeneration s op 0 with hSame | ⟨_, -, -, hZero, -⟩
  · rw [hSame]
    exact hRooted hHash
  · exact (hZero rfl).elim

theorem rooted_of_terms (hTerms : next.terms = transfer.terms) (hRooted : s.Rooted transfer) :
    s.Rooted next := by
  have hSame : s.Rooted next.terms = s.Rooted transfer.terms := by rw [hTerms]
  exact hSame.mpr hRooted

/- Every step keeps what is rooted. -/
theorem Fenced.rooted_step (hFenced : s.Fenced)
    (hNext : (s.step op).transfers.lookup id = some next) : (s.step op).Rooted next := by
  cases hTransfer : s.transfers.lookup id with
  | some transfer =>
    rcases step_terms hTransfer op with ⟨same, hSame, hTerms⟩
    rw [hNext] at hSame
    cases hSame
    exact rooted_of_terms hTerms (hFenced id transfer hTransfer).1.step
  | none =>
    have hChange := step_transferChange s id op
    have hNone : s.unboundTransfer id = none := by
      unfold unboundTransfer
      rw [hTransfer]
      rfl
    rw [hNone, unboundTransfer_of_lookup hNext] at hChange
    generalize hUnbound : next.unbound = unbound at hChange
    cases hChange with
    | registered registration now model state _ hCheck =>
      exact rooted_of_terms (congrArg terms hUnbound :)
        (rooted_of_registration hCheck now).step

theorem Fenced.step (hFenced : s.Fenced) (hIdle : s.AdvancesIdle (.op op)) :
    (s.step op).Fenced := by
  intro id next hNext
  refine ⟨hFenced.rooted_step hNext, ?_⟩
  intro hOutdated
  by_contra hRuns
  rw [Bool.not_eq_false] at hRuns
  have hChange := step_transferChange s id op
  rw [unboundTransfer_of_lookup hNext] at hChange
  rcases hChange.underWay hRuns with ⟨unbound, hBefore, hCause⟩
  rcases exists_of_unbound hBefore with ⟨transfer, hTransfer, rfl⟩
  rcases step_terms hTransfer op with ⟨same, hSame, hTerms⟩
  rw [hNext] at hSame
  cases hSame
  rcases hFenced id transfer hTransfer with ⟨hRooted, hStopped⟩
  have hEarlier := outdated_of_terms hTerms hOutdated
  have hBound := hEarlier.of_step
  rcases hCause with hRan | ⟨request, now, victim, rfl, hSubject, hPermits⟩
  · have hIdled : transfer.isUnderWay = false := by
      rcases hBound with hBound | hAdvances
      · exact hStopped hBound
      · exact (hIdle op id transfer rfl hTransfer hAdvances).1
    change transfer.isUnderWay = true at hRan
    rw [hIdled] at hRan
    cases hRan
  · rcases hBound with hBound | hAdvances
    · exact current_of_permits hSubject hPermits hTransfer hRooted hBound
    · exact hAdvances

/- A transfer of an old generation gets no further. -/
theorem outdated_step (hFenced : s.Fenced) (hTransfer : s.transfers.lookup id = some transfer)
    (hOutdated : s.Outdated transfer) {state : TransferState}
    (hProgress : state ∈ [TransferState.authorized, .inProgress, .completed])
    (hAfter : (s.step op).transferState id = some state) : s.transferState id = some state := by
  rcases hFenced id transfer hTransfer with ⟨hRooted, hStopped⟩
  have hIdled := hStopped hOutdated
  have hChange := step_transferChange s id op
  rw [transferState_eq_unbound] at hAfter ⊢
  rw [unboundTransfer_of_lookup hTransfer] at hChange ⊢
  generalize (s.step op).unboundTransfer id = after at hChange hAfter
  cases hChange with
  | same => exact hAfter
  | granted request now victim _ hSubject hPermits =>
    exact (current_of_permits hSubject hPermits hTransfer hRooted hOutdated).elim
  | started _ _ hState =>
    have hRuns : transfer.isUnderWay = true := by
      unfold isUnderWay
      rw [show transfer.state = _ from hState]
      rfl
    rw [hIdled] at hRuns
    cases hRuns
  | completed _ _ hRuns =>
    change transfer.isUnderWay = true at hRuns
    rw [hIdled] at hRuns
    cases hRuns
  | ended =>
    rw [← hAfter]
    unfold abandonOwned
    split
    · rfl
    · rename_i hLive
      simp only [abandonOwned, if_neg hLive, map_some,
        Option.some.injEq] at hAfter
      subst hAfter
      simp at hProgress
  | _ =>
    cases hAfter
    simp [settled] at hProgress

theorem fenced_of_idle (hEmpty : s.fleet.Idle) : s.Fenced := by
  intro id transfer hTransfer
  rw [lookup_transfer_of_idle hEmpty] at hTransfer
  cases hTransfer

/- A transfer stays outdated to the end of its boot. -/
theorem outdated_run (ops : List Op)
    (hRun : Run (Guarded AdvancesIdle (Transition mt)) s (ops.map Label.op) t) (hFenced : s.Fenced)
    (hTransfer : s.transfers.lookup id = some transfer) (hOutdated : s.Outdated transfer) :
    t.Fenced ∧ ∃ next, t.transfers.lookup id = some next ∧ t.Outdated next := by
  induction ops generalizing s transfer with
  | nil =>
    cases hRun
    exact ⟨hFenced, transfer, hTransfer, hOutdated⟩
  | cons op rest ih =>
    cases hRun with
    | cons hStep hRest =>
      rcases hStep with ⟨hIdle, hStep⟩
      cases hStep
      rcases step_terms hTransfer op with ⟨next, hNext, hTerms⟩
      have hStill := hOutdated.step hIdle hTransfer
      exact ih hRest (hFenced.step hIdle) hNext (outdated_of_terms hTerms.symm hStill)

/-
  In a run whose identities advance idly, once a registry is
  past a generation a transfer is bound to, no operation of
  the boot moves the transfer on.
-/
theorem outdated_transfer_fenced {config : CoordinatorConfig} {start : Coordinator}
    {labels : List Label} (hStarted : Started mt config start)
    (hRun : Run (Guarded AdvancesIdle (Transition mt)) start labels s)
    (hTransfer : s.transfers.lookup id = some transfer) (hOutdated : s.Outdated transfer)
    (ops : List Op) (hLater : Run (Guarded AdvancesIdle (Transition mt)) s (ops.map Label.op) t)
    (op : Op) (state : TransferState)
    (hProgress : state ∈ [TransferState.authorized, .inProgress, .completed])
    (hAfter : (t.step op).transferState id = some state) : t.transferState id = some state := by
  have hFenced : s.Fenced := by
    refine hRun.invariant Fenced ?_ (fenced_of_idle hStarted.fleet)
    rintro u label v ⟨hIdle, hStep⟩ hFenced
    rcases hStep.fleet with hEmpty | ⟨op, rfl, rfl⟩
    · exact fenced_of_idle hEmpty
    · exact hFenced.step hIdle
  rcases outdated_run ops hLater hFenced hTransfer hOutdated with ⟨hKept, next, hNext, hStill⟩
  exact outdated_step hKept hNext hStill hProgress hAfter

/- Operations that are seen to advance idle identities. -/
def plainlyIdle (s : Coordinator) : Op → Bool
| .setModelGeneration _ _ | .advanceStateGeneration _ _ =>
  s.transfers.values.all (fun transfer => !transfer.isUnderWay) &&
    s.models.values.all (fun model => model.generation ≠ .max) &&
    s.states.values.all (fun state => state.generation ≠ .max)
| _ => true

theorem advancesIdle_of_plainlyIdle (s : Coordinator) (op : Op) (hPlain : plainlyIdle s op = true) :
    s.AdvancesIdle (.op op) := by
  rintro other id transfer hSame hTransfer hAdvances
  cases hSame
  cases op with
  | setModelGeneration hash expected =>
    simp only [plainlyIdle, Bool.and_eq_true, List.all_eq_true, decide_eq_true_eq,
      Bool.not_eq_true'] at hPlain
    refine ⟨hPlain.1.1 transfer ((AList.mem_values_iff _ _).mpr ⟨id, hTransfer⟩), ?_⟩
    rintro ⟨held, hHeld, hMax⟩
    exact hPlain.1.2 held ((AList.mem_values_iff _ _).mpr ⟨hash, hHeld⟩) hMax
  | advanceStateGeneration hash expected =>
    simp only [plainlyIdle, Bool.and_eq_true, List.all_eq_true, decide_eq_true_eq,
      Bool.not_eq_true'] at hPlain
    refine ⟨hPlain.1.1 transfer ((AList.mem_values_iff _ _).mpr ⟨id, hTransfer⟩), ?_⟩
    rintro ⟨held, hHeld, hMax⟩
    exact hPlain.2 held ((AList.mem_values_iff _ _).mpr ⟨hash, hHeld⟩) hMax
  | _ => exact hAdvances.elim

/- The state advances while a transfer is registered only. -/
def supersededOps : List Op :=
  registeredOps verifiedRegistration ++ [.advanceStateGeneration 1 none]

theorem outdated_transfer_fenced_superseded :
    let s := sampleStart.steps supersededOps
    ∃ transfer,
      s.transfers.lookup ⟨0, 9⟩ = some transfer ∧
        s.Outdated transfer ∧
        (s.step (.authorizeTransfer ownedTraffic 6 0)).transferState ⟨0, 9⟩ ≠ some .authorized := by
  intro s
  have hHeld :
      (s.transfers.lookup ⟨0, 9⟩).map (fun transfer =>
          (transfer.stateHash, transfer.stateGeneration.value)) = some (1, 1) := by
    decide
  have hState : s.stateGeneration 1 = some ⟨2⟩ := by decide
  have hRegistered : s.transferState ⟨0, 9⟩ = some .registered := by decide
  rcases map_eq_some_iff.mp hHeld with ⟨transfer, hTransfer, hBound⟩
  have hParts := Prod.ext_iff.mp hBound
  simp only at hParts
  have hOutdated : s.Outdated transfer := by
    refine .inr ⟨⟨2⟩, ?_, ?_⟩
    · rw [hParts.1]
      exact hState
    · rw [hParts.2]
      decide
  refine ⟨transfer, hTransfer, hOutdated, ?_⟩
  intro hAuthorized
  have hBefore := outdated_transfer_fenced sampleStart_started
    (run_passes sampleGenerator plainlyIdle advancesIdle_of_plainlyIdle sampleStart supersededOps
      (by decide))
    hTransfer hOutdated [] (.nil _) _ .authorized (by decide) hAuthorized
  cases hBefore

/-
  The state advances after the transfer was authorized. It is
  started and completed at the old generation all the same.
-/
theorem outdated_transfer_completes :
    let s := sampleStart.steps
      (registeredOps verifiedRegistration ++
        [ .authorizeTransfer ownedTraffic 5 0, .advanceStateGeneration 1 none ])
    let t := s.step (.startTransfer ⟨0, 9⟩ { transfer := ⟨0, 9⟩, authorized := true })
    let u := t.step (.completeTransfer ⟨0, 9⟩ 8)
    Reachable sampleGenerator {} s ∧
      (s.transfers.lookup ⟨0, 9⟩).map TransferRecord.stateGeneration = some ⟨1⟩ ∧
      s.stateGeneration 1 = some ⟨2⟩ ∧ s.transferState ⟨0, 9⟩ = some .authorized ∧
      t.transferState ⟨0, 9⟩ = some .inProgress ∧ u.transferState ⟨0, 9⟩ = some .completed := by
  intro s t u
  exact ⟨sampleStart_reachable _, by decide, by decide, by decide, by decide, by decide⟩

end Coordinator

end TrafficFabric
