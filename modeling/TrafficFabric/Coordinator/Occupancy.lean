import TrafficFabric.Coordinator.Deferrals
import TrafficFabric.Coordinator.RetentionOrder

/-
  Who holds the entries of the bounded registries.

  Contracts and routes are written for retained requests and
  nothing removes them when the ledger evicts the request;
  transfers stay registered after they have ended. A run that
  evicts no request with an entry, or ends no transfer, keeps
  every entry with a holder, so that a full registry means as
  many holders.
-/

---
-- Full Registries
---

namespace TrafficFabric

open AList Option RequestLedger

/- At least so many keys have the property. -/
def Filled {K : Type} (limit : Nat) (holds : K → Prop) : Prop :=
  ∃ keys : List K, keys.Nodup ∧ limit ≤ keys.length ∧ ∀ key ∈ keys, holds key

/- The keys of a full table that all have a property. -/
theorem filled_of_size {K V : Type} [DecidableEq K] {m : Table K V} {limit : Nat} {holds : K → Prop}
    (hFull : limit ≤ m.size) (hHolds : ∀ key value, m.lookup key = some value → holds key) :
    Filled limit holds := by
  refine ⟨m.keys, m.keys_nodup, ?_, ?_⟩
  · rw [length_keys]
    exact hFull
  · intro key hMem
    rcases (mem_iff_lookup m key).mp (mem_keys.mp hMem) with ⟨value, hValue⟩
    exact hHolds key value hValue

namespace Coordinator

variable {s : Coordinator}
variable {request : RequestId}

theorem registerSloContract_full {tail deadline : UInt64} {share : UInt32}
    (hRefused :
      (s.registerSloContract request tail deadline share).1 =
        .failure .capacityExhausted "SLO contract registry is full") :
    s.config.limits.maxSloContracts ≤ s.sloContracts.size := by
  by_contra hRoom
  simp only [registerSloContract, hRoom, and_false, if_false] at hRefused
  split_ifs at hRefused
  all_goals simp [Result.failure] at hRefused

theorem issueRouteDecision_full {attempt : AttemptId} {node : UInt32} {lateral handoff : Bool}
    (hRefused :
      (s.issueRouteDecision request attempt node lateral handoff).1 =
        .failure .capacityExhausted "route decision registry is full") :
    s.config.limits.maxRouteDecisions ≤ s.routeDecisions.size := by
  by_contra hRoom
  simp only [issueRouteDecision, hRoom, and_false, if_false] at hRefused
  split at hRefused
  · simp [Result.failure] at hRefused
  · split_ifs at hRefused
    all_goals simp [Result.failure] at hRefused

/- A missing generation is not a want of capacity. -/
theorem requireGeneration_capacity {V : Type} {tag : GenerationTag}
    (noun message : String) (generation : V → Generation tag) (requiresRevalidation : V → Bool)
    (registry : Table UInt64 V) (hash : UInt64) :
    requireGeneration noun generation requiresRevalidation registry hash ≠
      .failure .capacityExhausted message := by
  unfold requireGeneration
  split
  · simp [Result.failure]
  · split
    · simp [Result.failure]
    · simp [Result.failure]

theorem registerTransfer_full {registration : TransferRegistration} {now : Int64}
    (hRefused :
      (s.registerTransfer registration now).1 =
        .failure .capacityExhausted "transfer registry is full") :
    s.config.limits.maxTransferRecords ≤ s.transfers.size := by
  have hCheck :
      s.checkRegistration registration =
        .failure .capacityExhausted "transfer registry is full" := by
    simp only [registerTransfer] at hRefused
    split at hRefused
    · rename_i status hError
      rw [hError, Except.error.inj hRefused]
      rfl
    · cases hRefused
  by_contra hRoom
  simp only [checkRegistration, hRoom, if_false] at hCheck
  iterate 4 rcases (Result.guard_eq_failure_iff _ (by decide) _ _ _).mp hCheck with ⟨-, hCheck⟩
  rcases (Except.bind_eq_error_iff _ _ _).mp hCheck with hModel | ⟨model, -, hCheck⟩
  · exact requireGeneration_capacity _ _ _ _ _ _ hModel
  rcases (Except.bind_eq_error_iff _ _ _).mp hCheck with hState | ⟨state, -, hCheck⟩
  · exact requireGeneration_capacity _ _ _ _ _ _ hState
  rcases (Result.guard_eq_failure_iff _ (by decide) _ _ _).mp hCheck with ⟨-, hCheck⟩
  cases hCheck

---
-- Holders
---

/- The request has a contract or a route. -/
def Holds (s : Coordinator) (id : RequestId) : Prop :=
  (∃ contract, s.sloContracts.lookup id = some contract) ∨
    ∃ attempt route, s.routeDecisions.lookup attempt = some route ∧ route.request = id

/- Every contract and route is of a retained request. -/
structure EntriesHeld (s : Coordinator) : Prop where
  contracts : ∀ id contract, s.sloContracts.lookup id = some contract → s.ledger.contains id = true
  routes :
    ∀ attempt route, s.routeDecisions.lookup attempt = some route → s.Retains route.request attempt

/-
  No request is ended while the terminal order is full and
  its front has a contract or a route.
-/
def SparesHolders (s : Coordinator) (label : Label) : Prop :=
  ∀ op ended event id,
    label = .op op → op.event s = some (ended, event) → event.Ends →
    s.ledger.evictedBy ended = some id → ¬ s.Holds id

def EndsNoTransfer (s : Coordinator) (label : Label) : Prop :=
  ∀ op id, label = .op op → s.TransferLive id → ¬ op.Closes s id

variable {id : RequestId} {attempt : AttemptId}

theorem retains_iff :
    s.Retains id attempt ↔ ∃ view, s.ledger.view id = some view ∧ view.HasAttempt attempt := by
  constructor
  · rintro ⟨record, hRecord, hFind⟩
    rcases isSome_iff_exists.mp hFind with ⟨entry, hEntry⟩
    refine ⟨record.view, view_of_lookup hRecord, entry.view, ?_⟩
    rw [RequestRecord.view_findAttempt, hEntry]
    rfl
  · rintro ⟨view, hView, entry, hFind⟩
    rcases map_eq_some_iff.mp hView with ⟨record, hRecord, rfl⟩
    refine ⟨record, hRecord, ?_⟩
    rw [RequestRecord.view_findAttempt] at hFind
    rcases map_eq_some_iff.mp hFind with ⟨held, hHeld, -⟩
    rw [hHeld]
    rfl

/- An attempt is retained as long as its request is. -/
theorem Retains.step (hRetains : s.Retains id attempt) (op : Op)
    (hKept : (s.step op).ledger.contains id = true) : (s.step op).Retains id attempt := by
  rcases retains_iff.mp hRetains with ⟨view, hView, hHas⟩
  rcases isSome_iff_exists.mp hKept with ⟨record, hRecord⟩
  have hKeptView : ∃ next, (s.step op).ledger.view id = some next :=
    ⟨record.view, view_of_lookup hRecord⟩
  rcases hKeptView with ⟨next, hNext⟩
  refine retains_iff.mpr ⟨next, hNext, ?_⟩
  have hChange := step_viewChange s op id
  rw [hView, hNext] at hChange
  cases hChange with
  | same => exact hHas
  | evolved _ _ _ _ _ _ hStep => exact hStep.hasAttempt_iff.mpr (.inl hHas)
  | restored _ hLabel => exact (hLabel op rfl).elim

/- An operation that spares the holders retains them. -/
theorem SparesHolders.contains {op : Op} (hSpares : s.SparesHolders (.op op))
    (hCoherent : s.ledger.Coherent) (hWithin : s.ledger.Within) (hHolds : s.Holds id)
    (hHeld : s.ledger.contains id = true) : (s.step op).ledger.contains id = true := by
  rcases step_ledger s op with ⟨quiet, hQuiet, hLedger⟩
  have hView : (s.step op).ledger.view id = (s.ledger.steps (op.ledgerOps s)).view id := by
    rw [hLedger, steps_quiet _ id quiet hQuiet]
  have hMain : (s.ledger.steps (op.ledgerOps s)).contains id = true := by
    rcases op.ledgerOps_cases s with hNone | ⟨main, hOps, hEvent, -, hOrdinary⟩
    · rw [hNone]
      exact hHeld
    · rw [hOps]
      refine contains_step_of_spared hCoherent hWithin main hOrdinary hHeld ?_
      intro ended event hOp hEnds hEvicted
      exact hSpares op ended event id rfl (hEvent _ hOp) hEnds hEvicted hHolds
  rcases isSome_iff_exists.mp hMain with ⟨kept, hKept⟩
  rw [view_of_lookup hKept] at hView
  rcases map_eq_some_iff.mp hView with ⟨record, hRecord, -⟩
  exact isSome_iff_exists.mpr ⟨record, hRecord⟩

theorem EntriesHeld.step (hHeld : s.EntriesHeld) (hCoherent : s.ledger.Coherent)
    (hWithin : s.ledger.Within) (op : Op) (hSpares : s.SparesHolders (.op op)) :
    (s.step op).EntriesHeld := by
  have hContract (id : RequestId) (contract : SloContract)
      (hLookup : s.sloContracts.lookup id = some contract) :
      (s.step op).ledger.contains id = true :=
    hSpares.contains hCoherent hWithin (.inl ⟨contract, hLookup⟩)
      (hHeld.contracts id contract hLookup)
  have hRoute (attempt : AttemptId) (route : RouteDecision)
      (hLookup : s.routeDecisions.lookup attempt = some route) :
      (s.step op).Retains route.request attempt := by
    have hRetains := hHeld.routes attempt route hLookup
    rcases hRetains with ⟨record, hRecord, hFind⟩
    refine Retains.step ⟨record, hRecord, hFind⟩ op ?_
    refine hSpares.contains hCoherent hWithin (.inr ⟨attempt, route, hLookup, rfl⟩) ?_
    exact isSome_iff_exists.mpr ⟨record, hRecord⟩
  refine ⟨?_, ?_⟩
  · rcases step_sloContracts s op with hSame | ⟨request, tail, deadline, share, rfl⟩
    · rw [hSame]
      exact hContract
    · simp only [Coordinator.step]
      rcases registerSloContract_cases s request tail
        deadline share with ⟨status, hSame⟩ | ⟨hOwner, held, -, hWritten⟩
      · rw [hSame]
        exact hHeld.contracts
      · rw [hWritten]
        intro id contract hLookup
        unfold withContract at hLookup ⊢
        rw [lookup_insert_if] at hLookup
        split at hLookup
        · rename_i hKey
          rw [hKey]
          exact hOwner
        · exact hHeld.contracts id contract hLookup
  · rcases step_routeDecisions s op with hSame | ⟨request, attempt, node, lateral, handoff, rfl⟩ |
      ⟨request, old, new, hash, now, rfl, -, hErased⟩
    · rw [hSame]
      exact hRoute
    · simp only [Coordinator.step]
      rcases issueRouteDecision_cases s request attempt node lateral handoff with
        ⟨status, hSame⟩ | ⟨hOwner, issued, hRequest, -, -, hWritten⟩
      · rw [hSame]
        exact hHeld.routes
      · rw [hWritten]
        intro other route hLookup
        unfold withRoute at hLookup
        rw [lookup_insert_if] at hLookup
        split at hLookup
        · rename_i hKey
          cases hLookup
          rw [hKey, hRequest]
          exact hOwner
        · exact hHeld.routes other route hLookup
    · rw [hErased]
      intro attempt route hLookup
      rw [lookup_erase_if] at hLookup
      split at hLookup
      · cases hLookup
      · exact hRoute attempt route hLookup

theorem transfersLive_step
    (hLive : ∀ id transfer, s.transfers.lookup id = some transfer → s.TransferLive id) (op : Op)
    (hOp : s.EndsNoTransfer (.op op)) (id : StateTransferId) (transfer : TransferRecord)
    (hLookup : (s.step op).transfers.lookup id = some transfer) : (s.step op).TransferLive id := by
  cases hBefore : s.transfers.lookup id with
  | some held =>
    have hHeld := hLive id held hBefore
    exact hHeld.step op (hOp op id rfl hHeld)
  | none =>
    have hNone : s.transferState id = none := map_eq_none_iff.mpr hBefore
    rcases step_transferState_of_none hNone op with hGone | hRegistered
    · have hAbsent := map_eq_none_iff.mp hGone
      rw [hLookup] at hAbsent
      cases hAbsent
    · exact transferLive_of_state _ hRegistered rfl

---
-- Runs
---

variable {mt : Generator} {t : Coordinator} {label : Label}

theorem entriesHeld_of_docket (hEmpty : s.docket = .empty) : s.EntriesHeld := by
  have hContracts : s.sloContracts = ∅ := congrArg Docket.sloContracts hEmpty
  have hRoutes : s.routeDecisions = ∅ := congrArg Docket.routeDecisions hEmpty
  refine ⟨?_, ?_⟩
  · intro id contract hLookup
    rw [hContracts] at hLookup
    cases hLookup
  · intro attempt route hLookup
    rw [hRoutes] at hLookup
    cases hLookup

theorem EntriesHeld.transition {config : CoordinatorConfig} (hHeld : s.EntriesHeld)
    (hReachable : Reachable mt config s) (hStep : Guarded SparesHolders (Transition mt) s label t) :
    t.EntriesHeld := by
  rcases hStep.2.docket with hEmpty | ⟨op, rfl, rfl⟩
  · exact entriesHeld_of_docket hEmpty
  · exact hHeld.step hReachable.coherent hReachable.retained.1 op hStep.1

theorem transfersLive_transition
    (hLive : ∀ id transfer, s.transfers.lookup id = some transfer → s.TransferLive id)
    (hStep : Guarded EndsNoTransfer (Transition mt) s label t) :
    ∀ id transfer, t.transfers.lookup id = some transfer → t.TransferLive id := by
  rcases hStep with ⟨hOp, hTransition⟩
  rcases hTransition.carriage with hEmpty | ⟨op, rfl, -⟩
  · intro id transfer hLookup
    have hTransfers : t.transfers = ∅ := congrArg Carriage.transfers hEmpty
    rw [hTransfers] at hLookup
    cases hLookup
  · cases hTransition with
    | op => exact transfersLive_step hLive op hOp

/-
  In a run that ends no request while one with a contract or
  route is next to be evicted, every contract and route is of a retained request and a
  full registry of them has that many retained holders; in a
  run that ends no transfer, a full transfer registry has
  that many live transfers.
-/
theorem full_registries_held (mt : Generator) (config : CoordinatorConfig)
    (start s : Coordinator) (labels : List Label) (hStarted : Started mt config start)
    (hRun : Run (Guarded SparesHolders (Transition mt)) start labels s) :
    (∀ id contract, s.sloContracts.lookup id = some contract → s.ledger.contains id = true) ∧
    (∀ attempt route,
      s.routeDecisions.lookup attempt = some route →
      s.Retains route.request attempt) ∧
    (∀ request tail deadline share,
      (s.registerSloContract request tail deadline
        share).1 = .failure .capacityExhausted "SLO contract registry is full" →
      Filled s.config.limits.maxSloContracts (fun id =>
        (s.sloContracts.lookup id).isSome = true ∧ s.ledger.contains id = true)) ∧
    (∀ request attempt node lateral handoff,
      (s.issueRouteDecision request attempt node lateral
        handoff).1 = .failure .capacityExhausted "route decision registry is full" →
      Filled s.config.limits.maxRouteDecisions (fun held =>
        ∃ route, s.routeDecisions.lookup held = some route ∧ s.Retains route.request held)) ∧
    (∀ id now,
      s.ledger.contains id = false →
      (s.step (.registerRequest id now)).sloContracts.lookup id = none) ∧
    (Run (Guarded EndsNoTransfer (Transition mt)) start labels s →
      ∀ registration now,
        (s.registerTransfer registration now).1 =
            .failure .capacityExhausted "transfer registry is full" →
        Filled s.config.limits.maxTransferRecords s.TransferLive) := by
  have hHeld : s.EntriesHeld := by
    refine hRun.invariant_of_invariant (Reachable mt config) EntriesHeld
      (fun _ _ _ hStep hReachable => hReachable.step hStep.2)
      (fun _ _ _ hStep hReachable hBefore => hBefore.transition hReachable hStep)
      ⟨start, [], hStarted, .nil start⟩ ?_
    rcases hStarted with ⟨entropy, rfl⟩
    exact entriesHeld_of_docket rfl
  refine ⟨hHeld.contracts, hHeld.routes, ?_, ?_, ?_, ?_⟩
  · intro request tail deadline share hRefused
    refine filled_of_size (registerSloContract_full hRefused) ?_
    intro id contract hLookup
    rw [hLookup]
    exact ⟨rfl, hHeld.contracts id contract hLookup⟩
  · intro request attempt node lateral handoff hRefused
    refine filled_of_size (issueRouteDecision_full hRefused) ?_
    intro held route hLookup
    exact ⟨route, hLookup, hHeld.routes held route hLookup⟩
  · intro id now hAbsent
    change s.sloContracts.lookup id = none
    cases hLookup : s.sloContracts.lookup id with
    | none => rfl
    | some contract =>
      have hOwner := hHeld.contracts id contract hLookup
      rw [hAbsent] at hOwner
      cases hOwner
  · intro hLiveRun registration now hRefused
    refine filled_of_size (registerTransfer_full hRefused) ?_
    refine hLiveRun.invariant
      (fun t => ∀ id transfer, t.transfers.lookup id = some transfer → t.TransferLive id)
      (fun _ _ _ hStep hBefore => transfersLive_transition hBefore hStep) ?_
    rcases hStarted with ⟨entropy, rfl⟩
    intro id transfer hLookup
    cases hLookup

/- Registries of one entry and a history of one request. -/
def crampedConfig : CoordinatorConfig where
  limits :=
    { maxSloContracts := 1
      maxRouteDecisions := 1
      maxTransferRecords := 1
      ledger := { maxRetainedTerminalRequests := 1 } }

def crampedStart : Coordinator :=
  ((create crampedConfig 1).bootFresh sampleGenerator).2

def crampedTransfer (id : StateTransferId) : TransferRegistration where
  __ := sampleTransfer .modelTransfer
  id

/- A request and a transfer that fill the registries. -/
def fillingOps : List Op :=
  [ .setModelGeneration 1 none,
    .advanceStateGeneration 1 none,
    .registerTransfer (crampedTransfer ⟨0, 9⟩) 1 ] ++ ingressOps ++ [.registerRequest ⟨0, 3⟩ 6]

/- Two requests without entries end, and one is evicted. -/
def endingOps : List Op :=
  fillingOps ++
    [ .registerRequest ⟨0, 5⟩ 7,
      .registerRequest ⟨0, 7⟩ 8,
      .cancelRequest ⟨0, 3⟩ .cancelled 9,
      .cancelRequest ⟨0, 7⟩ .cancelled 10 ]

/- What would be evicted has no entry. -/
def passesHolders (s : Coordinator) (op : Op) : Bool :=
  (op.event s).all (fun pair => (s.ledger.evictedBy pair.1).all (fun id =>
    (s.sloContracts.lookup id).isNone &&
      s.routeDecisions.entries.all (fun entry => entry.2.request ≠ id)))

theorem sparesHolders_of_passesHolders (s : Coordinator) (op : Op)
    (hPlain : passesHolders s op = true) : s.SparesHolders (.op op) := by
  rintro other ended event id hSame hEvent - hEvicted hHolds
  cases hSame
  simp only [passesHolders, hEvent, hEvicted, all_some, Bool.and_eq_true, isNone_iff_eq_none,
    List.all_eq_true, decide_eq_true_eq] at hPlain
  rcases hHolds with ⟨contract, hContract⟩ | ⟨attempt, route, hRoute, hOwner⟩
  · cases hPlain.1.symm.trans hContract
  · exact hPlain.2 _ ((mem_entries_iff _ attempt route).mpr hRoute) hOwner

/- No transfer is registered under what the operation ends. -/
def plainlyHeld (s : Coordinator) : Op → Bool
| .setModelGeneration _ _
| .advanceStateGeneration _ _ | .registerTransfer _ _
| .registerRequest _ _ | .registerAttempt _ _ _ _
| .advanceStage _ _ _ _ | .registerSloContract _ _ _ _
| .issueRouteDecision _ _ _ _ _ => true
| .cancelRequest request _ _ => (s.transfersByRequest.equalRange request).isEmpty
| _ => false

theorem endsNoTransfer_of_plainlyHeld (s : Coordinator) (op : Op)
    (hPlain : plainlyHeld s op = true) : s.EndsNoTransfer (.op op) := by
  rintro other id hSame - hCloses
  cases hSame
  cases op with
  | setModelGeneration | advanceStateGeneration
  | registerTransfer | registerRequest | registerAttempt
  | advanceStage | registerSloContract
  | issueRouteDecision => exact hCloses
  | cancelRequest request =>
    have hNone : s.transfersByRequest.equalRange request = [] := List.isEmpty_iff.mp hPlain
    change id ∈ s.transfersByRequest.equalRange request at hCloses
    rw [hNone] at hCloses
    cases hCloses
  | _ => exact Bool.noConfusion hPlain

theorem full_registries_held_filled :
    let s := crampedStart.steps endingOps
    s.ledger.contains ⟨0, 3⟩ = false ∧
      Filled 1 (fun id => (s.sloContracts.lookup id).isSome = true ∧ s.ledger.contains id = true) ∧
      Filled 1 s.TransferLive := by
  intro s
  have hHeld := full_registries_held sampleGenerator crampedConfig crampedStart s _ ⟨1, rfl⟩
    (run_passes sampleGenerator passesHolders sparesHolders_of_passesHolders crampedStart endingOps
      (by decide))
  have hRun := run_passes sampleGenerator plainlyHeld
    endsNoTransfer_of_plainlyHeld crampedStart endingOps (by decide)
  exact ⟨by decide, hHeld.2.2.1 ⟨0, 5⟩ 1000 1000 1 (by decide),
    hHeld.2.2.2.2.2 hRun (crampedTransfer ⟨0, 8⟩) 11 (by decide)⟩

/-
  The cancelled request is evicted when another is cancelled.
  Its contract and route stay behind and fill the registries,
  a request registered under its identity inherits the
  contract, and an abandoned transfer keeps its place.
-/
theorem evicted_contract_remains :
    let s := crampedStart.steps
      (fillingOps ++
        [ .cancelRequest ⟨0, 1⟩ .cancelled 7,
          .cancelRequest ⟨0, 3⟩ .cancelled 8,
          .abandonTransfer ⟨0, 9⟩ .cancelled,
          .registerRequest ⟨0, 5⟩ 9,
          .registerAttempt ⟨0, 5⟩ ⟨0, 6⟩ 0 10 ])
    Reachable sampleGenerator crampedConfig s ∧
      s.ledger.contains ⟨0, 1⟩ = false ∧ (s.sloContracts.lookup ⟨0, 1⟩).isSome = true ∧
      (s.routeDecisions.lookup ⟨0, 2⟩).map RouteDecision.request = some ⟨0, 1⟩ ∧
      (s.registerSloContract ⟨0, 5⟩ 1000 1000 1).1 =
        .failure .capacityExhausted "SLO contract registry is full" ∧
      (s.issueRouteDecision ⟨0, 5⟩ ⟨0, 6⟩ 1 false false).1 =
        .failure .capacityExhausted "route decision registry is full" ∧
      ((s.step (.registerRequest ⟨0, 1⟩ 11)).sloContracts.lookup ⟨0, 1⟩).isSome = true ∧
      (s.registerTransfer (crampedTransfer ⟨0, 8⟩) 11).1 =
        .failure .capacityExhausted "transfer registry is full" ∧
      s.transferState ⟨0, 9⟩ = some .abandoned := by
  intro s
  exact ⟨Reachable.steps ⟨_, [], ⟨1, rfl⟩, .nil _⟩ _,
    by decide, by decide, by decide, by decide, by decide, by decide, by decide, by decide⟩

end Coordinator

end TrafficFabric
