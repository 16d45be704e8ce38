import TrafficFabric.Service.Handle

/-
  The sessions of a service side by side: what the steps of
  a handler do to the state they share, and what all of
  them keep.
-/

namespace TrafficFabric

namespace CoordinatorService

/- The steps of the handler with a ticket. -/
inductive Acts (ticket : Nat) :
    Moment CoordinatorService Int64 → Moment CoordinatorService Int64 → Prop
| idle (service : CoordinatorService) (clock now : Int64) (hClock : clock ≤ now) :
    Acts ticket ⟨service, clock⟩ ⟨service, now⟩
| called (service : CoordinatorService) (clock now : Int64) (ops : List Op) (hClock : clock ≤ now) :
    Acts ticket ⟨service, clock⟩ ⟨service.record ticket (service.coordinator.steps ops), now⟩
| saved (service : CoordinatorService) (clock now : Int64) (hClock : clock ≤ now) :
    Acts ticket ⟨service, clock⟩ ⟨service.saved now, now⟩
| stopping (service : CoordinatorService) (clock now : Int64) (hClock : clock ≤ now) :
    Acts ticket ⟨service, clock⟩ ⟨{ service with shutdownRequested := true }, now⟩

variable {ticket : Nat}

theorem call_within {α : Type} {operation : Coordinator → Int64 → α × Coordinator}
    (hOperation : ∀ s now, ∃ ops, (operation s now).2 = s.steps ops) :
    (call ticket operation).Within (Acts ticket) := by
  intro service clock now hClock
  rcases hOperation service.coordinator now with ⟨ops, hOps⟩
  simp only [hOps]
  exact ⟨.called service clock now ops hClock, trivial⟩

theorem look_within {α : Type} (query : Coordinator → Int64 → α) :
    (look ticket query).Within (Acts ticket) :=
  call_within (fun _ _ => ⟨[], rfl⟩)

theorem namedModel_within (modelHash : UInt64) :
    (namedModel ticket modelHash).Within (Acts ticket) := by
  unfold namedModel
  split
  · exact trivial
  · exact (look_within _).bind (fun _ => trivial)

theorem performAdvance_within (body : AdvanceGenerationMessage) :
    (performAdvance ticket body).Within (Acts ticket) := by
  unfold performAdvance
  split
  · refine (call_within ?_).orFail (fun _ => trivial)
    intro s now
    cases body.revalidateOnly with
    | false => exact ⟨[.advanceStateGeneration body.targetHash _], rfl⟩
    | true => exact ⟨[.revalidateStateGeneration body.targetHash], rfl⟩
  · split
    · refine (call_within (fun _ _ => ⟨[.revalidateModelGeneration body.targetHash],
          rfl⟩)).bind (fun model => ?_)
      refine (call_within (fun _ _ => ⟨[.revalidateStateGeneration body.targetHash],
          rfl⟩)).bind (fun state => ?_)
      split
      · exact trivial
      · exact trivial
    · exact (call_within (fun _ _ => ⟨[.setModelGeneration body.targetHash _],
          rfl⟩)).orFail (fun _ => trivial)

/- Every call of a handler is one of the operations. -/
theorem perform_within (victim : Nat) (message : Message) :
    (perform ticket victim message).Within (Acts ticket) := by
  cases message with
  | heartbeat | undecodable | unhandled => exact trivial
  | registerRequest request =>
    exact (call_within (fun _ now =>
      ⟨[.registerRequest request now], rfl⟩)).orFail
        (fun _ => (look_within _).bind (fun _ => trivial))
  | registerAttempt request attempt modelHash =>
    exact (call_within (fun _ now => ⟨[.registerAttempt request attempt modelHash now],
        rfl⟩)).orFail (fun _ =>
          (namedModel_within modelHash).bind (fun _ => (look_within _).bind (fun _ => trivial)))
  | stageUpdate request attempt stage =>
    exact (call_within (fun _ now => ⟨[.advanceStage request attempt stage now],
        rfl⟩)).orFail (fun _ => trivial)
  | cancelRequest request reason =>
    exact (call_within (fun _ now => ⟨[.cancelRequest request reason now],
        rfl⟩)).orFail (fun _ => trivial)
  | failAttempt request attempt reason =>
    exact (call_within (fun _ now => ⟨[.failAttempt request attempt reason now],
        rfl⟩)).orFail (fun _ => trivial)
  | replaceAttempt request old new modelHash =>
    exact (call_within (fun _ now => ⟨[.replaceAttempt request old new modelHash now],
        rfl⟩)).orFail (fun _ => (look_within _).bind (fun _ => trivial))
  | evaluateTraffic request =>
    exact (call_within (fun _ now => ⟨[.evaluate request now victim], rfl⟩)).bind (fun _ => trivial)
  | openFlow body =>
    exact (call_within (fun _ now => ⟨[.openFlow body.decision body.declaredBytes now],
        rfl⟩)).orFail (fun _ => (look_within _).bind (fun _ => trivial))
  | registerTransfer registration =>
    exact (call_within (fun _ now =>
      ⟨[.registerTransfer registration now], rfl⟩)).orFail (fun _ => (look_within _).bind (fun _ =>
          (look_within _).bind (fun _ => (look_within _).bind (fun _ => trivial))))
  | authorizeTransfer request =>
    exact (call_within (fun _ now => ⟨[.authorizeTransfer request now victim],
        rfl⟩)).orFail (fun _ => trivial)
  | transferComplete transfer verifiedBytes =>
    exact (call_within (fun _ _ => ⟨[.completeTransfer transfer verifiedBytes],
        rfl⟩)).orFail (fun _ => trivial)
  | completionPublish publication =>
    exact (call_within (fun _ now => ⟨[.publishCompletion publication now],
        rfl⟩)).orFail (fun _ => trivial)
  | accountingQuery | policyQuery =>
    unfold perform
    exact (look_within _).bind (fun _ => trivial)
  | statusQuery => exact (look_within _).bind (fun _ => trivial)
  | topologyPublish evidence =>
    exact (call_within (fun _ now =>
      ⟨[.publishTopology evidence now], rfl⟩)).orFail (fun _ => trivial)
  | publishSloContract request tail deadline share =>
    exact (call_within (fun _ _ => ⟨[.registerSloContract request tail deadline share],
        rfl⟩)).orFail (fun _ => trivial)
  | issueRouteDecision request attempt node lateral handoff =>
    exact (call_within (fun _ _ =>
      ⟨[.issueRouteDecision request attempt node lateral handoff], rfl⟩)).orFail (fun _ => trivial)
  | advanceModelGeneration body => exact performAdvance_within body
  | shutdown =>
    intro service clock now hClock
    exact ⟨.stopping service clock now hClock, trivial⟩

theorem maybeSnapshot_within (config : ServiceConfig) (mutated : Bool) :
    (maybeSnapshot config mutated).Within (Acts ticket) := by
  unfold maybeSnapshot
  split
  · exact trivial
  · intro service clock now hClock
    refine ⟨.idle service clock now hClock, ?_⟩
    intro held read later hLater
    refine ⟨.idle held read later hLater, ?_⟩
    simp only
    split
    · exact trivial
    · intro last before saving hSaving
      exact ⟨.saved last before saving hSaving, trivial⟩

theorem handle_within (config : ServiceConfig) (victim : Nat) (message : Message) :
    (handle ticket config victim message).Within (Acts ticket) :=
  (perform_within victim message).orFail (fun _ =>
    (maybeSnapshot_within config _).bind (fun _ => trivial))

abbrev Sessions : Type :=
  Pool CoordinatorService Int64 (Result Reply)

/- The threads of a service are handlers of its sessions. -/
def Serves (config : ServiceConfig) (ticket : Nat) (script : Steps (Result Reply)) : Prop :=
  ∃ victim message, script = handle ticket config victim message

theorem Serves.within {config : ServiceConfig} (ticket : Nat) (script : Steps (Result Reply))
    (hServes : Serves config ticket script) : script.Within (Acts ticket) := by
  rcases hServes with ⟨victim, message, rfl⟩
  exact handle_within config victim message

/- A service before its first session. -/
def opened (coordinator : Coordinator) (disk : Option (List UInt8)) (clock : Int64) : Sessions where
  moment := ⟨create coordinator disk, clock⟩

theorem opened_guaranteed (coordinator : Coordinator) (disk : Option (List UInt8)) (clock : Int64) :
    (opened coordinator disk clock).Guaranteed Acts := by
  intro thread script hThread
  cases hThread

variable {config : ServiceConfig} {coordinator : Coordinator} {disk : Option (List UInt8)}
variable {clock : Int64} {labels : List (PoolLabel Int64)} {p : Sessions}

theorem run_guaranteed
    (hRun : Run (Pool.Step (Serves config)) (opened coordinator disk clock) labels p) :
    p.Guaranteed Acts :=
  (opened_guaranteed coordinator disk clock).run Serves.within hRun

/- The handler with a ticket left this coordinator. -/
def Left (service : CoordinatorService) (ticket : Nat) (place : Nat) (s : Coordinator) : Prop :=
  service.history[place]? = some (some ticket, s)

/-
  The history ends in the current coordinator, and no
  snapshot is from the future.
-/
structure Sound (σ : Moment CoordinatorService Int64) : Prop where
  latest : ∃ ticket, σ.shared.history.getLast? = some (ticket, σ.shared.coordinator)
  clocked : σ.shared.lastSnapshotNanos = 0 ∨ σ.shared.lastSnapshotNanos ≤ σ.clock

variable {service : CoordinatorService} {other place : Nat} {s : Coordinator} {now : Int64}

theorem saved_of_ok {payload : List UInt8}
    (hSnapshot : snapshotOf service.coordinator = .ok payload) :
    service.saved now = { service with
        disk := some payload
        lastSnapshotNanos := now } := by
  unfold saved
  rw [hSnapshot]

theorem saved_of_error {status : Status}
    (hSnapshot : snapshotOf service.coordinator = .error status) : service.saved now = service := by
  unfold saved
  rw [hSnapshot]

@[simp]
theorem saved_history : (service.saved now).history = service.history := by
  unfold saved
  split
  · rfl
  · rfl

@[simp]
theorem saved_coordinator : (service.saved now).coordinator = service.coordinator := by
  unfold saved
  split
  · rfl
  · rfl

theorem Left.record {left : Coordinator} (hLeft : service.Left ticket place left) :
    (service.record other s).Left ticket place left := by
  have hLength : place < service.history.length := by
    unfold Left at hLeft
    rw [List.getElem?_eq_some_iff] at hLeft
    exact hLeft.choose
  unfold Left CoordinatorService.record
  rw [List.getElem?_append_left hLength]
  exact hLeft

theorem left_record : (service.record ticket s).Left ticket service.history.length s := by
  unfold Left record
  rw [List.getElem?_append_right (Nat.le_refl _), Nat.sub_self]
  rfl

theorem sound_stable (other : Nat) : Stable (Acts other) Sound := by
  intro σ τ hActs hSound
  have hLater {last clock now : Int64} (hClock : clock ≤ now) (hLast : last = 0 ∨ last ≤ clock) :
      last = 0 ∨ last ≤ now := by
    rcases hLast with hZero | hLe
    · exact .inl hZero
    · exact .inr (Int64.le_trans hLe hClock)
  cases hActs with
  | idle _ _ _ hClock | stopping _ _ _ hClock => exact ⟨hSound.latest, hLater hClock hSound.clocked⟩
  | called service clock now ops hClock =>
    refine ⟨⟨some other, ?_⟩, hLater hClock hSound.clocked⟩
    exact List.getLast?_concat
  | saved service clock now hClock =>
    refine ⟨?_, ?_⟩
    · rw [saved_history, saved_coordinator]
      exact hSound.latest
    · cases hSnapshot : snapshotOf service.coordinator with
      | error status =>
        rw [saved_of_error hSnapshot]
        exact hLater hClock hSound.clocked
      | ok payload =>
        rw [saved_of_ok hSnapshot]
        exact .inr (Int64.le_refl now)

/- A handler has left a coordinator. -/
def Called (ticket : Nat) (σ : Moment CoordinatorService Int64) : Prop :=
  ∃ place s, σ.shared.Left ticket place s

theorem called_stable (other : Nat) : Stable (Acts other) (Called ticket) := by
  rintro σ τ hActs ⟨place, s, hLeft⟩
  refine ⟨place, s, ?_⟩
  cases hActs with
  | idle | stopping => exact hLeft
  | called service clock now ops hClock => exact hLeft.record
  | saved service clock now hClock =>
    unfold Left
    rw [saved_history]
    exact hLeft

theorem others_stable {assertion : Moment CoordinatorService Int64 → Prop}
    (hStable : ∀ other, Stable (Acts other) assertion) :
    Stable (Pool.Others Acts ticket) assertion := by
  rintro σ τ ⟨other, -, hActs⟩ hHolds
  exact hStable other σ τ hActs hHolds

theorem run_sound {disk : Option (List UInt8)} {labels : List (PoolLabel Int64)}
    (hRun : Run (Pool.Step (Serves config)) (opened coordinator disk clock) labels p) :
    Sound p.moment :=
  Pool.Guaranteed.moment_invariant Sound Serves.within
    sound_stable (opened_guaranteed coordinator disk clock) ⟨⟨none, rfl⟩, .inl rfl⟩ hRun

end CoordinatorService

end TrafficFabric
