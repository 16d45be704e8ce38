import TrafficFabric.Coordinator.Carriage
import TrafficFabric.Service.Sessions

/-
  What a reply to a registration says about the record that
  the registration created.

  The reply is filled in by lookups of its own. Between the
  registration and a lookup another session may advance the
  generation that the registration bound. The reply to the
  replacement of an attempt makes no lookup at all.

  Main declarations:
    * `Coordinator.boundModel`
    * `Message.registered`
    * `CoordinatorService.registration_reply_describes`
    * `CoordinatorService.registration_reply_differs`
-/

namespace TrafficFabric

open RequestRecord Option Coordinator Pool List

namespace RequestRecord

variable {limits : LedgerLimits} {record updated : RequestRecord}
variable {attempt superseded replacement : AttemptId} {hash : UInt64} {model : ModelGeneration}
variable {generation : AttemptGeneration} {now : Int64}

theorem findAttempt_of_registerAttempt {route : RouteDecisionGeneration}
    (hOk : record.registerAttempt limits attempt hash model route now = .ok (generation, updated)) :
    ∃ entry, updated.findAttempt attempt = some entry ∧ entry.modelGeneration = model := by
  simp only [registerAttempt, Result.guard_eq_ok_iff] at hOk
  rcases hOk with ⟨-, -, hFresh, -, hEq⟩
  cases hEq
  have hNone : record.attempts.findKey? AttemptRecord.id attempt = none := by
    simpa [findAttempt] using hFresh
  unfold findAttempt bindAttempt
  rw [findKey?_append, hNone, if_pos rfl]
  exact ⟨_, rfl, rfl⟩

theorem findAttempt_of_supersedeAttempt
    (hOk : record.supersedeAttempt limits superseded replacement now = .ok (generation, updated)) :
    (updated.findAttempt replacement).isSome = true := by
  unfold supersedeAttempt at hOk
  rw [Result.guard_eq_ok_iff] at hOk
  rcases hOk with ⟨-, hOk⟩
  split at hOk
  · cases hOk
  rename_i entry hFind
  simp only [Result.guard_eq_ok_iff] at hOk
  rcases hOk with ⟨-, -, -, hEq⟩
  cases hEq
  unfold findAttempt bindAttempt
  rw [findKey?_append, if_pos rfl, isSome_or]
  exact Bool.or_true _

theorem findAttempt_of_setAttemptModel (hFound : (record.findAttempt attempt).isSome = true) :
    ∃ updated entry,
      record.setAttemptModel attempt hash model = .ok updated ∧
        updated.findAttempt attempt = some entry ∧ entry.modelGeneration = model := by
  rcases isSome_iff_exists.mp hFound with ⟨found, hFind⟩
  unfold setAttemptModel
  rw [hFind]
  refine ⟨_, { found with
    modelHash := hash, modelGeneration := model }, rfl, ?_,
    rfl⟩
  unfold findAttempt at hFind
  unfold findAttempt updateAttempt
  rw [findKey?_updateKey]
  · rw [if_pos rfl, hFind]
    rfl
  · intro entry
    rfl

end RequestRecord

namespace RequestLedger

variable {ledger : RequestLedger} {id : RequestId} {attempt superseded replacement : AttemptId}
variable {hash : UInt64} {model : ModelGeneration} {generation : AttemptGeneration} {now : Int64}

theorem registerAttempt_binds {route : RouteDecisionGeneration}
    (hOk : (ledger.registerAttempt id attempt hash model route now).1 = .ok generation) :
    ∃ record entry,
      (ledger.registerAttempt id attempt hash model route now).2.requests.lookup id = some record ∧
        record.findAttempt attempt = some entry ∧ entry.modelGeneration = model := by
  revert hOk
  unfold registerAttempt
  split
  · simp
  split
  · simp
  split
  · simp
  rename_i updated hRegistered
  intro _
  rcases findAttempt_of_registerAttempt hRegistered with ⟨entry, hEntry, hModel⟩
  exact ⟨updated, entry, AList.lookup_insert _, hEntry, hModel⟩

/- A replacement is found in the view of its request. -/
theorem supersedeAttempt_binds
    (hOk : (ledger.supersedeAttempt id superseded replacement now).1 = .ok generation) :
    ∃ view,
      (ledger.supersedeAttempt id superseded replacement now).2.view id = some view ∧
        (view.findAttempt replacement).isSome = true := by
  revert hOk
  unfold supersedeAttempt
  split
  · simp
  split
  · simp
  split
  · simp
  rename_i updated hSuperseded
  intro _
  refine ⟨updated.view, view_of_lookup (AList.lookup_insert _), ?_⟩
  rw [view_findAttempt, isSome_map]
  exact findAttempt_of_supersedeAttempt hSuperseded

theorem setAttemptModel_binds {view : RequestView} (hView : ledger.view id = some view)
    (hFound : (view.findAttempt attempt).isSome = true) :
    ∃ record entry,
      (ledger.setAttemptModel id attempt hash model).2.requests.lookup id = some record ∧
        record.findAttempt attempt = some entry ∧ entry.modelGeneration = model := by
  rcases map_eq_some_iff.mp hView with ⟨record, hRecord, rfl⟩
  rw [view_findAttempt, isSome_map] at hFound
  have hSet :
      ∃ updated entry,
        record.setAttemptModel attempt hash model = .ok updated ∧
          updated.findAttempt attempt = some entry ∧ entry.modelGeneration = model :=
    findAttempt_of_setAttemptModel hFound
  rcases hSet with ⟨updated, entry, hOk, hEntry, hModel⟩
  refine ⟨updated, entry, ?_, hEntry, hModel⟩
  unfold setAttemptModel
  rw [hRecord]
  simp only [hOk]
  exact AList.lookup_insert _

end RequestLedger

namespace Coordinator

def boundModel (s : Coordinator) (request : RequestId) (attempt : AttemptId) :
    Option ModelGeneration :=
  (s.ledger.requests.lookup request).bind (fun record =>
    (record.findAttempt attempt).map AttemptRecord.modelGeneration)

variable {s : Coordinator} {request : RequestId} {attempt superseded replacement : AttemptId}
variable {hash : UInt64} {now : Int64} {generation : AttemptGeneration}

theorem boundModel_eq_some {model : ModelGeneration}
    (hBound :
      ∃ record entry,
        s.ledger.requests.lookup request = some record ∧
          record.findAttempt attempt = some entry ∧
          entry.modelGeneration = model) : s.boundModel request attempt = some model := by
  rcases hBound with ⟨record, entry, hRecord, hEntry, rfl⟩
  unfold boundModel
  rw [hRecord, bind_some, hEntry, map_some]

theorem registerAttempt_binds
    (hOk : (s.registerAttempt request attempt hash now).1 = .ok generation) :
    ∃ model,
      s.resolveModel hash = .ok model ∧
        (s.registerAttempt request attempt hash now).2.boundModel request attempt = some model ∧
        (s.registerAttempt request attempt hash now).2.models = s.models := by
  revert hOk
  unfold registerAttempt
  split
  · simp
  rename_i model hModel
  intro hOk
  exact ⟨model, hModel, boundModel_eq_some (RequestLedger.registerAttempt_binds hOk), rfl⟩

theorem replaceAttempt_binds
    (hOk : (s.replaceAttempt request superseded replacement hash now).1 = .ok generation) :
    ∃ model,
      s.resolveModel hash = .ok model ∧
        (s.replaceAttempt request superseded replacement hash
          now).2.boundModel request replacement = some model := by
  revert hOk
  unfold replaceAttempt
  split
  · simp
  rename_i model hModel
  dsimp only
  split
  · simp
  rename_i bound hReplaced
  intro _
  rcases RequestLedger.supersedeAttempt_binds hReplaced with ⟨view, hView, hFound⟩
  refine ⟨model, hModel, boundModel_eq_some (RequestLedger.setAttemptModel_binds ?_ hFound)⟩
  -- releasing the flows of the request is quiet
  have hReleased := releaseRequestFlows_settling s (.releaseFlow .nil)
    (s.withLedger (s.ledger.supersedeAttempt request superseded replacement now).2) request
  rcases hReleased.ledger.mono Op.Settles.quiet with ⟨ops, hQuiet, hLedger⟩
  rw [hLedger, RequestLedger.steps_quiet _ request ops hQuiet]
  exact hView

theorem registerTransfer_binds {registration : TransferRegistration} {id : StateTransferId}
    (hOk : (s.registerTransfer registration now).1 = .ok id) :
    ∃ transfer,
      (s.registerTransfer registration now).2.transfers.lookup registration.id = some transfer ∧
        s.requireModelGeneration registration.modelHash = .ok transfer.modelGeneration ∧
        s.requireStateGeneration registration.stateHash = .ok transfer.stateGeneration ∧
        (s.registerTransfer registration now).2.models = s.models ∧
        (s.registerTransfer registration now).2.states = s.states := by
  revert hOk
  unfold registerTransfer
  split
  · simp
  rename_i model state hCheck
  intro _
  rcases checkRegistration_ok hCheck with ⟨-, hFresh, -⟩
  unfold checkRegistration at hCheck
  simp only [Result.guard_eq_ok_iff, Except.bind_eq_ok_iff] at hCheck
  rcases hCheck with ⟨-, -, -, -, -, _, hModel, _, hState, -, hEq⟩
  cases hEq
  refine ⟨registration.record model state now, ?_, hModel, hState, rfl, rfl⟩
  dsimp only
  rw [AList.emplace_of_none _ _ _ hFresh, AList.lookup_insert]

end Coordinator

/- What a registration leaves when it goes through. -/
def Message.registered (s : Coordinator) (now : Int64) : Message → Option Coordinator
| .registerAttempt request attempt modelHash =>
  let registered := s.registerAttempt request attempt modelHash now
  if registered.1.isOk then some registered.2 else none
| .replaceAttempt request superseded replacement
    modelHash =>
  let registered := s.replaceAttempt request superseded replacement modelHash now
  if registered.1.isOk then some registered.2 else none
| .registerTransfer registration =>
  let registered := s.registerTransfer registration now
  if registered.1.isOk then some registered.2 else none
| _ => none

def Message.registers : Message → Bool
| .registerAttempt _ _ _ | .replaceAttempt _ _ _ _
| .registerTransfer _ => true
| _ => false

namespace CoordinatorService

/-
  The reply reports the generations of the record that the
  message has in a coordinator.
-/
def Describes (s : Coordinator) : Message → Reply → Prop
| .registerAttempt request attempt _, .registerAttempt response =>
  s.boundModel request attempt = some response.modelGeneration
| .replaceAttempt request _ replacement _, .registerAttempt response =>
  s.boundModel request replacement = some response.modelGeneration
| .registerTransfer registration, .registerTransfer response =>
  ∃ transfer,
    s.transfers.lookup registration.id = some transfer ∧
      transfer.modelGeneration = response.modelGeneration ∧
      transfer.stateGeneration = response.stateGeneration
| _, _ => False

/-
  Between two calls of a handler no call changes what a
  lookup finds.
-/
def Undisturbed {α : Type} (service : CoordinatorService) (ticket : Nat)
    (lookup : Coordinator → α) : Prop :=
  ∀ first last between s t entry, service.Left ticket first s → service.Left ticket last t →
    first ≤ between → between ≤ last → service.history[between]? = some entry →
    lookup entry.2 = lookup s

/-
  The generations a registration binds stand still while
  its handler looks them up. A replacement names no model.
-/
def Steady (service : CoordinatorService) (ticket : Nat) : Message → Prop
| .registerAttempt _ _ modelHash =>
  service.Undisturbed ticket (fun s => s.requireModelGeneration modelHash)
| .replaceAttempt _ _ _ modelHash => modelHash = 0
| .registerTransfer registration =>
  service.Undisturbed ticket (fun s => s.requireModelGeneration registration.modelHash) ∧
    service.Undisturbed ticket (fun s => s.requireStateGeneration registration.stateHash)
| _ => True

/-
  The handler with a ticket made the registration of a
  message at a place of the history.
-/
structure Registered (ticket : Nat) (message : Message) (place : Nat) (before after : Coordinator)
    (service : CoordinatorService) : Prop where
  earlier : (service.history[place]?).map Prod.snd = some before
  later : service.Left ticket (place + 1) after
  registered : ∃ now, message.registered before now = some after

/- A later lookup of a handler, and what it found. -/
def Looked {α : Type} (ticket : Nat) (place : Nat) (lookup : Coordinator → α) (found : α)
    (σ : Moment CoordinatorService Int64) : Prop :=
  ∃ later s, place ≤ later ∧ σ.shared.Left ticket later s ∧ found = lookup s

variable {ticket place : Nat} {message : Message} {before after : Coordinator} {α : Type}
variable {P : Moment CoordinatorService Int64 → Prop} {σ : Moment CoordinatorService Int64}
variable {other : Nat} {τ : Moment CoordinatorService Int64} {s t : Coordinator}

/- What is in the history stays there. -/
theorem history_stable (entry : Option Nat × Coordinator) (place other : Nat) :
    Stable (Acts other) (fun σ => σ.shared.history[place]? = some entry) := by
  intro σ τ hActs hEntry
  cases hActs with
  | idle | stopping => exact hEntry
  | called service clock now ops hClock =>
    have hLength : place < service.history.length := by
      rw [getElem?_eq_some_iff] at hEntry
      exact hEntry.choose
    unfold record
    rw [getElem?_append_left hLength]
    exact hEntry
  | saved service clock now hClock =>
    rw [saved_history]
    exact hEntry

theorem registered_stable (other : Nat) :
    Stable (Acts other) (fun σ => Registered ticket message place before after σ.shared) := by
  intro σ τ hActs hRegistered
  rcases map_eq_some_iff.mp hRegistered.earlier with ⟨entry, hEntry, hBefore⟩
  constructor
  · rw [history_stable entry place other σ τ hActs hEntry, map_some, hBefore]
  · exact history_stable _ (place + 1) other σ τ hActs hRegistered.later
  · exact hRegistered.registered

theorem looked_stable {lookup : Coordinator → α} {found : α} (other : Nat) :
    Stable (Acts other) (Looked ticket place lookup found) := by
  rintro σ τ hActs ⟨later, s, hPlace, hLeft, hFound⟩
  exact ⟨later, s, hPlace, history_stable _ later other σ τ hActs hLeft, hFound⟩

theorem stable_and {Q : Moment CoordinatorService Int64 → Prop}
    (hLeft : ∀ other, Stable (Acts other) P) (hRight : ∀ other, Stable (Acts other) Q)
    (other : Nat) : Stable (Acts other) (fun σ => P σ ∧ Q σ) := by
  rintro σ τ hActs ⟨hP, hQ⟩
  exact ⟨hLeft other σ τ hActs hP, hRight other σ τ hActs hQ⟩

theorem look_meets (lookup : Coordinator → α) (hStable : ∀ other, Stable (Acts other) P)
    (hPlace : ∀ σ, P σ → place ≤ σ.shared.history.length) :
    (look ticket (fun s _ => lookup s)).Meets (Others Acts ticket)
      (fun found σ => P σ ∧ Looked ticket place lookup found σ)
      P := by
  intro service clock now hClock hP
  refine ⟨fun σ => P σ ∧ Looked ticket place lookup (lookup service.coordinator) σ,
    others_stable (stable_and hStable looked_stable), ⟨?_, ?_⟩, fun σ hσ => hσ⟩
  · exact hStable ticket _ _ (.called service clock now [] hClock) hP
  · exact ⟨service.history.length, service.coordinator, hPlace _ hP, left_record, rfl⟩

theorem Registered.place_lt {service : CoordinatorService}
    (hRegistered : Registered ticket message place before after service) :
    place + 1 < service.history.length := by
  have hLater := hRegistered.later
  unfold Left at hLater
  rw [getElem?_eq_some_iff] at hLater
  exact hLater.choose

/- What was looked up is what the registration has left. -/
theorem Looked.eq_of_undisturbed {lookup : Coordinator → α} {found : α}
    (hLooked : Looked ticket (place + 1) lookup found σ)
    (hRegistered : Registered ticket message place before after σ.shared)
    (hUndisturbed : σ.shared.Undisturbed ticket lookup) : found = lookup after := by
  rcases hLooked with ⟨later, s, hPlace, hLeft, hFound⟩
  rw [hFound]
  exact hUndisturbed (place + 1) later later after s _
    hRegistered.later hLeft hPlace (Nat.le_refl _) hLeft

---
-- Handlers Of Registrations
---

/-
  The reply describes the record of the registration, when
  the generations stood still.
-/
def Faithful (ticket : Nat) (message : Message) (result : Result Reply)
    (σ : Moment CoordinatorService Int64) : Prop :=
  ∀ reply,
    result = .ok reply → σ.shared.Steady ticket message →
    ∃ place before after,
      Registered ticket message place before after σ.shared ∧ Describes after message reply

/- A registration is recorded, and its handler goes on. -/
theorem registration_meets
    {operation : Coordinator → Int64 → Result α × Coordinator} {rest : α → Steps (Result Reply)}
    (hOperation :
      ∀ s now value,
        (operation s now).1 = .ok value →
        message.registered s now = some (operation s now).2)
    (hRest :
      ∀ place before now value,
        (operation before now).1 = .ok value →
        (rest value).Meets (Others Acts ticket) (Faithful ticket message)
          (fun σ => Registered ticket message place before (operation before now).2 σ.shared)) :
    ((call ticket operation).orFail rest).Meets (Others Acts ticket) (Faithful ticket message)
      Sound := by
  intro service clock now hClock hSound
  cases hOk : (operation service.coordinator now).1 with
  | error status =>
    refine ⟨fun _ => True, fun _ _ _ _ => trivial, trivial, ?_⟩
    simp only [Script.bind, hOk]
    intro σ _ reply hReply
    cases hReply
  | ok value =>
    simp only [Script.bind, hOk]
    rcases hSound.latest with ⟨last, hLast⟩
    have hLength : 0 < service.history.length := by
      apply length_pos_of_mem
      exact mem_of_getLast? hLast
    refine ⟨_, others_stable registered_stable, ?_,
      hRest (service.history.length - 1) service.coordinator now value hOk⟩
    constructor
    · unfold record
      rw [getElem?_append_left (by omega), ← getLast?_eq_getElem?, hLast]
      rfl
    · rw [Nat.sub_add_cancel hLength]
      exact left_record
    · exact ⟨now, hOperation _ now value hOk⟩

theorem undisturbed_of_acts {lookup : Coordinator → α} (hActs : Acts other σ τ)
    (hUndisturbed : τ.shared.Undisturbed ticket lookup) : σ.shared.Undisturbed ticket lookup := by
  intro first last between s t entry hFirst hLast hAfter hBefore hEntry
  exact hUndisturbed first last between s t entry (history_stable _ first other σ τ hActs hFirst)
    (history_stable _ last other σ τ hActs hLast) hAfter
    hBefore (history_stable _ between other σ τ hActs hEntry)

theorem steady_of_acts (hActs : Acts other σ τ) (hSteady : τ.shared.Steady ticket message) :
    σ.shared.Steady ticket message := by
  cases message with
  | registerAttempt request attempt modelHash =>
    unfold Steady at hSteady ⊢
    exact undisturbed_of_acts hActs hSteady
  | registerTransfer registration =>
    exact ⟨undisturbed_of_acts hActs hSteady.1, undisturbed_of_acts hActs hSteady.2⟩
  | _ => exact hSteady

theorem faithful_stable (result : Result Reply) (other : Nat) :
    Stable (Acts other) (Faithful ticket message result) := by
  intro σ τ hActs hFaithful reply hReply hSteady
  rcases hFaithful reply hReply (steady_of_acts hActs hSteady) with
    ⟨place, before, after, hRegistered, hDescribes⟩
  exact ⟨place, before, after, registered_stable other σ τ hActs hRegistered, hDescribes⟩

/- A generation that is found is the one reported. -/
theorem requireModelGeneration_congr (hModels : t.models = s.models) (hash : UInt64) :
    t.requireModelGeneration hash = s.requireModelGeneration hash := by
  unfold requireModelGeneration
  rw [hModels]

theorem requireStateGeneration_congr (hStates : t.states = s.states) (hash : UInt64) :
    t.requireStateGeneration hash = s.requireStateGeneration hash := by
  unfold requireStateGeneration
  rw [hStates]

/- A model that is not named, or a later lookup of it. -/
def NamedModel (ticket : Nat) (place : Nat) (hash : UInt64) (model : ModelGeneration)
    (σ : Moment CoordinatorService Int64) : Prop :=
  (hash = 0 ∧ model = .unset) ∨
    (hash ≠ 0 ∧ ∃ found,
      Looked ticket place (fun s => s.requireModelGeneration hash) found σ ∧
        model = Generation.reported found)

theorem namedModel_stable {hash : UInt64} {model : ModelGeneration} (other : Nat) :
    Stable (Acts other) (NamedModel ticket place hash model) := by
  rintro σ τ hActs (hNone | ⟨hNamed, found, hLooked, hModel⟩)
  · exact .inl hNone
  · exact .inr ⟨hNamed, found, looked_stable other σ τ hActs hLooked, hModel⟩

theorem namedModel_meets (hash : UInt64) (hStable : ∀ other, Stable (Acts other) P)
    (hPlace : ∀ σ, P σ → place ≤ σ.shared.history.length) :
    (namedModel ticket hash).Meets (Others Acts ticket)
      (fun model σ => P σ ∧ NamedModel ticket place hash model σ)
      P := by
  unfold namedModel
  split
  · rename_i hZero
    intro σ hP
    exact ⟨hP, .inl ⟨hZero, rfl⟩⟩
  · rename_i hNamed
    apply (look_meets _ hStable hPlace).bind
    rintro found σ ⟨hP, hLooked⟩
    exact ⟨hP, .inr ⟨hNamed, found, hLooked, rfl⟩⟩

theorem registerAttempt_faithful
    (victim : Nat) (request : RequestId) (attempt : AttemptId) (hash : UInt64) :
    (perform ticket victim (.registerAttempt request attempt hash)).Meets (Others Acts ticket)
      (Faithful ticket (.registerAttempt request attempt hash))
      Sound := by
  apply registration_meets
  · intro s now value hOk
    simp only [Message.registered, hOk]
    rfl
  intro place before now generation hOk
  rcases registerAttempt_binds hOk with ⟨model, hResolved, hBound, hModels⟩
  apply (namedModel_meets hash registered_stable
    (fun _ hRegistered => hRegistered.place_lt.le)).bind
  intro reported
  apply ((look_within _).meets (stable_and registered_stable namedModel_stable ticket)
    (others_stable (stable_and registered_stable namedModel_stable))).bind
  rintro authority σ ⟨hRegistered, hNamed⟩ reply hReply hSteady
  cases hReply
  refine ⟨place, before, _, hRegistered, hBound.trans ?_⟩
  unfold resolveModel at hResolved
  rcases hNamed with ⟨hZero, rfl⟩ | ⟨hHash, found, hLooked, rfl⟩
  · rw [if_pos hZero] at hResolved
    cases hResolved
    rfl
  · rw [if_neg hHash] at hResolved
    rw [hLooked.eq_of_undisturbed hRegistered hSteady,
      requireModelGeneration_congr hModels, hResolved]
    rfl

/- A replacement that names no model is bound to none. -/
theorem replaceAttempt_faithful
    (victim : Nat) (request : RequestId) (superseded replacement : AttemptId) (hash : UInt64) :
    (perform ticket victim (.replaceAttempt request superseded replacement hash)).Meets
      (Others Acts ticket)
      (Faithful ticket (.replaceAttempt request superseded replacement hash))
      Sound := by
  apply registration_meets
  · intro s now value hOk
    simp only [Message.registered, hOk]
    rfl
  intro place before now generation hOk
  rcases replaceAttempt_binds hOk with ⟨model, hResolved, hBound⟩
  apply ((look_within _).meets (registered_stable ticket) (others_stable registered_stable)).bind
  intro authority σ hRegistered reply hReply hZero
  cases hReply
  unfold resolveModel at hResolved
  unfold Steady at hZero
  rw [if_pos hZero] at hResolved
  cases hResolved
  exact ⟨place, before, _, hRegistered, hBound⟩

theorem registerTransfer_faithful (victim : Nat) (registration : TransferRegistration) :
    (perform ticket victim (.registerTransfer registration)).Meets (Others Acts ticket)
      (Faithful ticket (.registerTransfer registration))
      Sound := by
  apply registration_meets
  · intro s now value hOk
    simp only [Message.registered, hOk]
    rfl
  intro place before now id hOk
  rcases registerTransfer_binds hOk with ⟨transfer, hTransfer, hModel, hState, hModels, hStates⟩
  apply (look_meets _ registered_stable (fun _ hRegistered => hRegistered.place_lt.le)).bind
  intro model
  apply (look_meets _ (stable_and registered_stable looked_stable)
    (fun _ hLooked => hLooked.1.place_lt.le)).bind
  intro state
  apply ((look_within _).meets
    (stable_and (stable_and registered_stable looked_stable) looked_stable ticket)
    (others_stable (stable_and (stable_and registered_stable looked_stable) looked_stable))).bind
  rintro authority σ ⟨⟨hRegistered, hFound⟩, hHeld⟩ reply hReply hSteady
  cases hReply
  refine ⟨place, before, _, hRegistered, transfer, hTransfer, ?_, ?_⟩
  · rw [hFound.eq_of_undisturbed hRegistered hSteady.1,
      requireModelGeneration_congr hModels, hModel]
    rfl
  · rw [hHeld.eq_of_undisturbed hRegistered hSteady.2, requireStateGeneration_congr hStates, hState]
    rfl

theorem perform_faithful (victim : Nat) (hRegisters : message.registers = true) :
    (perform ticket victim message).Meets (Others Acts ticket) (Faithful ticket message)
      Sound := by
  cases message with
  | registerAttempt request attempt hash =>
    exact registerAttempt_faithful victim request attempt hash
  | replaceAttempt request superseded replacement hash =>
    exact replaceAttempt_faithful victim request superseded replacement hash
  | registerTransfer registration => exact registerTransfer_faithful victim registration
  | _ => cases hRegisters

theorem handle_faithful (config : ServiceConfig) (victim : Nat)
    (hRegisters : message.registers = true) :
    (handle ticket config victim message).Meets (Others Acts ticket) (Faithful ticket message)
      Sound := by
  apply (perform_faithful victim hRegisters).bind
  intro outcome
  cases outcome with
  | error status => exact fun σ hσ => hσ
  | ok reply =>
    apply ((maybeSnapshot_within config _).meets (faithful_stable (.ok reply) ticket)
      (others_stable (faithful_stable (.ok reply)))).bind
    exact fun _ σ hσ => hσ

/-
  When the generations stand still, the reply to a
  registration reports those of the record it created.
-/
theorem registration_reply_describes (config : ServiceConfig) (coordinator : Coordinator)
    (disk : Option (List UInt8)) (clock : Int64) (before after : List (PoolLabel Int64))
    (p q : Sessions) (victim : Nat) (message : Message) (reply : Reply)
    (hBefore : Run (Step (Serves config)) (opened coordinator disk clock) before p)
    (hAfter :
      Run (Step (Serves config)) (p.begin (handle p.threads.length config victim message))
        after q) (hRegisters : message.registers = true)
    (hReturned : q.threads[p.threads.length]? = some (.done (.ok reply)))
    (hSteady : q.moment.shared.Steady p.threads.length message) :
    ∃ place earlier later,
      Registered p.threads.length message place earlier later q.moment.shared ∧
        Describes later message reply := by
  have hSound := run_sound hBefore
  have hThreads := (run_guaranteed hBefore).begin (handle_within config victim message)
  have hBegun :
      (p.begin (handle p.threads.length config victim message)).Proves
        (Others Acts p.threads.length) p.threads.length (Faithful p.threads.length message) :=
    ⟨_, Sound, getElem?_concat_length, others_stable sound_stable, hSound,
      handle_faithful config victim hRegisters⟩
  exact (hBegun.run Serves.within hThreads hAfter).finished hReturned reply rfl hSteady

end CoordinatorService

def Reply.reportedModel? : Reply → Option ModelGeneration
| .registerAttempt response => some response.modelGeneration
| _ => none

namespace CoordinatorService

/- A model at its first generation, and an attempt. -/
def bindingOps : List Op :=
  [ .setModelGeneration 7 none, .registerRequest ⟨0, 1⟩ 1, .registerAttempt ⟨0, 1⟩ ⟨0, 2⟩ 0 2 ]

def bindingStart : Sessions :=
  opened (sampleStart.steps bindingOps) none 3

def binding : Sessions :=
  bindingStart.begin (handle 0 {} 0 (.registerAttempt ⟨0, 1⟩ ⟨0, 3⟩ 7))

/- Another session advances the model it does not use. -/
def bound : Sessions :=
  (binding.begin (handle 1 {} 0 (.advanceModelGeneration { targetHash := 8 }))).play
    [(0, 4), (1, 4), (0, 5), (1, 5), (0, 6)]

theorem undisturbed_of_forall
    {α : Type} {service : CoordinatorService} {ticket : Nat} {lookup : Coordinator → α} {found : α}
    (hFound : ∀ entry ∈ service.history, lookup entry.2 = found) :
    service.Undisturbed ticket lookup := by
  intro first last between s t entry hFirst _ _ _ hEntry
  have hLeft := hFound (some ticket, s) (mem_of_getElem? hFirst)
  rw [hFound entry (mem_of_getElem? hEntry)]
  exact hLeft.symm

theorem registration_reply_describes_bound :
    ∃ reply place earlier later,
      Registered 0 (.registerAttempt ⟨0, 1⟩ ⟨0, 3⟩ 7) place earlier later bound.moment.shared ∧
        Describes later (.registerAttempt ⟨0, 1⟩ ⟨0, 3⟩ 7) reply := by
  have hOk : ((bound.returned? 0).bind Except.toOption).isSome = true := by decide +kernel
  rcases isSome_iff_exists.mp hOk with ⟨reply, hReply⟩
  rcases bind_eq_some_iff.mp hReply with ⟨result, hResult, hValue⟩
  have hFound :
      ∀ entry ∈ bound.moment.shared.history,
        (fun s : Coordinator => s.requireModelGeneration 7) entry.2 = .ok ⟨1⟩ := by
    decide +kernel
  have hSteady : bound.moment.shared.Steady 0 (.registerAttempt ⟨0, 1⟩ ⟨0, 3⟩ 7) := by
    unfold Steady
    exact undisturbed_of_forall hFound
  cases result with
  | error status => cases hValue
  | ok value =>
    exact ⟨value, registration_reply_describes {}
      (sampleStart.steps bindingOps) none 3 [] _ bindingStart bound 0
      (.registerAttempt ⟨0, 1⟩ ⟨0, 3⟩ 7) value (.nil _)
      (.cons (.begins _ _ ⟨0, _, rfl⟩) (run_play (Serves {}) _ _ (by decide +kernel)))
      rfl (returned?_eq_some hResult) hSteady⟩

def reportedAndBound (p : Sessions) (attempt : AttemptId) :
    Option ModelGeneration × Option ModelGeneration :=
  (((p.returned? 0).bind Except.toOption).bind Reply.reportedModel?,
    p.moment.shared.coordinator.boundModel ⟨0, 1⟩ attempt)

def replacing : Sessions :=
  bindingStart.begin (handle 0 {} 0 (.replaceAttempt ⟨0, 1⟩ ⟨0, 2⟩ ⟨0, 3⟩ 7))

/- Another session may advance the model. -/
def overtaking : Sessions :=
  binding.begin (handle 1 {} 0 (.advanceModelGeneration { targetHash := 7 }))

/-
  The reply to a replacement reports no generation. The
  reply to a registration reports the one that another
  session advanced to before the lookup.
-/
theorem registration_reply_differs :
    (∃ labels q,
      Run (Step (Serves {})) replacing labels q ∧
        reportedAndBound q ⟨0, 3⟩ = (some .unset, some ⟨1⟩)) ∧
      ∃ labels q,
        Run (Step (Serves {})) overtaking labels q ∧
          reportedAndBound q ⟨0, 3⟩ = (some ⟨2⟩, some ⟨1⟩) := by
  constructor
  · exact ⟨_, _, run_play (Serves {}) replacing [(0, 4), (0, 5)] (by decide +kernel),
      by decide +kernel⟩
  · exact ⟨_, _, run_play (Serves {}) overtaking
      [(0, 4), (1, 5), (0, 6), (0, 7)] (by decide +kernel),
      by decide +kernel⟩

end CoordinatorService

end TrafficFabric
