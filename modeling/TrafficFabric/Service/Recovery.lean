import TrafficFabric.Service.Acknowledgement

/-
  The sessions of a service as seen from its snapshot file.

  However the steps of the handlers interleave, their calls
  form one execution, and the file follows it without going
  back. A process that starts after a crash takes it up.
-/

namespace TrafficFabric

open List Coordinator

namespace CoordinatorService

/-
  What is left later comes from the coordinator of before
  by operations. The file is the same or a snapshot from the
  history, and does not lose what it held.
-/
structure Extends (service later : CoordinatorService) : Prop where
  history :
    ∃ entries,
      later.history = service.history ++ entries ∧
        ∀ entry ∈ entries, ∃ ops, entry.2 = service.coordinator.steps ops
  current : ∃ ops, later.coordinator = service.coordinator.steps ops
  stored : later.disk = service.disk ∨ later.HoldsFrom 0
  holds : ∀ place, service.HoldsFrom place → later.HoldsFrom place

variable {service later : CoordinatorService} {place ticket : Nat} {now : Int64}

/- A save writes the latest coordinator or nothing. -/
theorem Sound.saved_holdsFrom {clock : Int64} (hSound : Sound ⟨service, clock⟩)
    (hPlace : place < service.history.length) :
    service.saved now = service ∨ (service.saved now).HoldsFrom place := by
  rcases hSound.latest with ⟨last, hLast⟩
  cases hSnapshot : snapshotOf service.coordinator with
  | error status => exact .inl (saved_of_error hSnapshot)
  | ok payload =>
    right
    rw [saved_of_ok hSnapshot]
    refine ⟨service.history.length - 1, (last, service.coordinator), payload, by omega, ?_,
      hSnapshot, rfl⟩
    rw [← List.getLast?_eq_getElem?]
    exact hLast

theorem HoldsFrom.lt_length (hHolds : service.HoldsFrom place) :
    place < service.history.length := by
  rcases hHolds with ⟨found, entry, payload, hFound, hEntry, -⟩
  rw [List.getElem?_eq_some_iff] at hEntry
  exact lt_of_le_of_lt hFound hEntry.choose

theorem Extends.record (hExtends : service.Extends later) (ops : List Op) :
    service.Extends (later.record ticket (later.coordinator.steps ops)) := by
  rcases hExtends with ⟨⟨entries, hHistory, hEntries⟩, ⟨before, hBefore⟩, hStored, hHolds⟩
  have hCurrent : later.coordinator.steps ops = service.coordinator.steps (before ++ ops) := by
    rw [hBefore]
    exact foldl_append.symm
  refine ⟨⟨entries ++ [(some ticket, later.coordinator.steps ops)], ?_, ?_⟩, ⟨_, hCurrent⟩,
    hStored.imp_right .record, fun place hHeld => (hHolds place hHeld).record⟩
  · unfold CoordinatorService.record
    rw [hHistory, append_assoc]
  · intro entry hEntry
    rcases mem_append.mp hEntry with hOld | hNew
    · exact hEntries entry hOld
    · rw [mem_singleton.mp hNew]
      exact ⟨_, hCurrent⟩

theorem extends_stable (service : CoordinatorService) (ticket : Nat) :
    Stable (Acts ticket) (fun σ => Sound σ ∧ service.Extends σ.shared) := by
  rintro σ τ hActs ⟨hSound, hExtends⟩
  refine ⟨sound_stable ticket σ τ hActs hSound, ?_⟩
  cases hActs with
  | idle => exact hExtends
  | stopping => exact ⟨hExtends.history, hExtends.current, hExtends.stored, hExtends.holds⟩
  | called later clock now ops hClock => exact hExtends.record ops
  | saved later clock now hClock =>
    rcases hSound.latest with ⟨last, hLast⟩
    constructor
    · rw [saved_history]
      exact hExtends.history
    · rw [saved_coordinator]
      exact hExtends.current
    · rcases hSound.saved_holdsFrom (length_pos_of_mem (mem_of_getLast? hLast)) with
        hSame | hSaved
      · rw [hSame]
        exact hExtends.stored
      · exact .inr hSaved
    · intro place hHolds
      have hLater := hExtends.holds place hHolds
      rcases hSound.saved_holdsFrom hLater.lt_length with hSame | hSaved
      · rw [hSame]
        exact hLater
      · exact hSaved

/- A moment of any interleaving, and a later one. -/
variable {config : ServiceConfig} {coordinator : Coordinator} {disk : Option (List UInt8)}
variable {clock : Int64} {before after : List (PoolLabel Int64)} {p q : Sessions}
variable (hBefore : Run (Pool.Step (Serves config)) (opened coordinator disk clock) before p)
variable (hAfter : Run (Pool.Step (Serves config)) p after q)

include hBefore hAfter

theorem run_extends : p.moment.shared.Extends q.moment.shared := by
  refine (Pool.Guaranteed.moment_invariant _ Serves.within (extends_stable p.moment.shared)
    (run_guaranteed hBefore) ⟨run_sound hBefore, ?_⟩ hAfter).2
  exact ⟨⟨[], (append_nil _).symm, by simp⟩, ⟨[], rfl⟩, .inl rfl, fun _ hHolds => hHolds⟩

/-
  Between any two moments of any interleaving, the calls of
  all handlers extend one serial execution, and the file
  holds a state of it that is not replaced by an older one.
-/
theorem sessions_extend : p.moment.shared.Extends q.moment.shared := run_extends hBefore hAfter

/-
  Once the file holds the state at a place of the execution,
  a process that starts after a crash at any later moment
  boots from that state or a later one, if no call of the
  execution spoils the document.
-/
theorem crash_resumes (mt : Generator) (entropy : UInt64) (served : CoordinatorConfig)
    (hLimits : served.limits = {}) (hValid : served.policy.validate = .valid)
    (hExplains : served.policy.maxExplanationSteps ≠ 0) (hHolds : p.moment.shared.HoldsFrom place)
    (hUnspoilt : ∀ entry ∈ q.moment.shared.history, entry.2.Unspoilt mt served) :
    ∃ later entry,
      place ≤ later ∧
        q.moment.shared.history[later]? = some entry ∧
        start mt served entropy q.moment.shared.disk =
          (.ok (), ((Coordinator.create served entropy).bootFrom mt entry.2.exportState).2) := by
  rcases (run_extends hBefore hAfter).holds place hHolds with
    ⟨later, entry, payload, hLater, hEntry, hPayload, hDisk⟩
  rcases (hUnspoilt entry (mem_of_getElem? hEntry)).durable hLimits hValid hExplains with
    ⟨hDurable, rfl⟩
  rcases hDurable.loadable mt hLimits with ⟨written, hWritten, hLoaded, hBoots⟩
  rcases (Result.isOk_iff_exists _).mp (hBoots entropy) with ⟨epoch, hEpoch⟩
  have hSame : written = payload := Except.ok.inj (hWritten.symm.trans hPayload)
  rw [hSame] at hLoaded
  refine ⟨later, entry, hLater, hEntry, ?_⟩
  unfold start
  simp only [hDisk, hLoaded, hEpoch]

omit hBefore hAfter

theorem sessions_extend_saved : registering.moment.shared.Extends (saving.act 0 5).moment.shared :=
  sessions_extend (Run.single (.begins _ _ ⟨0, .registerRequest ⟨0, 1⟩, rfl⟩))
    run_saving

/- A third session makes its call after the save. -/
def crashing : Sessions :=
  ((saving.act 0 5).begin (handle 2 sampleConfig 0 (.registerRequest ⟨0, 3⟩))).act 2 6

def plainlyRegisters : Coordinator → Op → Bool
| _, .registerRequest _ _ => true
| _, _ => false

theorem not_spoils_of_plainlyRegisters (s : Coordinator) (op : Op)
    (hPlain : plainlyRegisters s op = true) : ¬ s.Spoils (.op op) := by
  cases op with
  | registerRequest id now =>
    rintro (hExhausts | ⟨id, event, view, hEvent, -⟩ | ⟨id, event, view, hEvent, -⟩)
    · exact hExhausts
    · cases hEvent
    · cases hEvent
  | _ => exact Bool.noConfusion hPlain

theorem unspoilt_of_passes {ops : List Op} (hOps : sampleStart.passes plainlyRegisters ops = true) :
    (sampleStart.steps ops).Unspoilt sampleGenerator {} :=
  ⟨_, _, sampleStart_started,
    run_passes _ plainlyRegisters not_spoils_of_plainlyRegisters _ ops hOps⟩

/- The calls of the three sessions. -/
def registeredOps : List Op :=
  [.registerRequest ⟨0, 1⟩ 1, .registerRequest ⟨0, 2⟩ 1, .registerRequest ⟨0, 3⟩ 6]

theorem crash_resumes_booted :
    crashing.moment.shared.history.length = 6 ∧
      ∃ s, start sampleGenerator {} 2 crashing.moment.shared.disk = (.ok (), s) := by
  rcases saving_thread with ⟨reply, hThread⟩
  have hAct : saving.act 0 5 = _ := Pool.act_eq hThread
  have hCall : crashing = _ := Pool.act_eq (p := (saving.act 0 5).begin _) (by rw [hAct]; rfl)
  have hHistory : crashing.moment.shared.history.map Prod.snd =
      [0, 1, 2, 2, 2, 3].map (fun n => sampleStart.steps (registeredOps.take n)) := by
    rw [hCall, hAct]
    change ((saving.moment.shared.saved 5).history ++ [(some 2,
      (saving.moment.shared.saved 5).coordinator.step (.registerRequest ⟨0, 3⟩ 6))]).map _ = _
    rw [saved_history, saved_coordinator]
    rfl
  have hFew : (snapshotOf saving.moment.shared.coordinator).isOk = true :=
    snapshotOf_isOk (by decide +kernel)
  rcases (Result.isOk_iff_exists _).mp hFew with ⟨payload, hPayload⟩
  have hHolds : (saving.act 0 5).moment.shared.HoldsFrom 4 := by
    rw [hAct]
    refine ⟨4, (some 1, saving.moment.shared.coordinator), payload, Nat.le_refl 4, ?_, hPayload, ?_⟩
    · rw [saved_history]
      rfl
    · rw [saved_of_ok hPayload]
  have hUnspoilt : ∀ entry ∈ crashing.moment.shared.history,
      entry.2.Unspoilt sampleGenerator {} := by
    intro entry hEntry
    have hState := mem_map_of_mem (f := Prod.snd) hEntry
    rw [hHistory] at hState
    rcases mem_map.mp hState with ⟨n, hTaken, hSame⟩
    rw [← hSame]
    apply unspoilt_of_passes
    clear hState hSame
    revert n
    decide
  have hClock : (saving.act 0 5).moment.clock ≤ 6 := by
    rw [hAct]
    change (5 : Int64) ≤ 6
    decide
  rcases crash_resumes (.cons (.begins _ _ ⟨0, .registerRequest ⟨0, 1⟩, rfl⟩) run_saving)
    (.cons (.begins _ _ ⟨0, .registerRequest ⟨0, 3⟩, rfl⟩) (Run.single (.acts _ 2 6 hClock)))
    sampleGenerator 2 {} rfl (by decide) (by decide) hHolds hUnspoilt with
    ⟨-, entry, -, -, hStart⟩
  refine ⟨?_, _, hStart⟩
  rw [← length_map, hHistory]
  rfl

end CoordinatorService

end TrafficFabric
