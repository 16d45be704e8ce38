import TrafficFabric.Coordinator.Boot

/-
  The coordinator as a transition system: its public
  operations, and the boots that may happen between them.

  A restart exports the state and boots a coordinator from
  that document under the same configuration, either in a
  new process or in the same one.
-/

namespace TrafficFabric

/-
  The public mutators. `now` is the clock reading of the
  call; `victim` picks the deferral record an evaluation
  evicts when the table is full.
-/
inductive Op
| applyPolicy (policy : PolicyConfig)
| publishTopology (evidence : TopologyEvidence) (now : Int64)
| registerSloContract
    (request : RequestId) (tailLatencyBudgetNanos : UInt64) (registrationDeadlineNanos : UInt64)
    (minStreamSharePerMille : UInt32)
| issueRouteDecision (request : RequestId) (attempt : AttemptId) (targetNode : UInt32)
    (lateral disaggregatedHandoff : Bool)
| setModelGeneration (modelHash : UInt64) (expectedCurrent : Option ModelGeneration)
| revalidateModelGeneration (modelHash : UInt64)
| advanceStateGeneration (stateHash : UInt64) (expectedCurrent : Option StateGeneration)
| revalidateStateGeneration (stateHash : UInt64)
| registerRequest (request : RequestId) (now : Int64)
| registerAttempt (request : RequestId) (attempt : AttemptId) (modelHash : UInt64) (now : Int64)
| revalidateRequest (request : RequestId) (attempt : AttemptId) (now : Int64)
| advanceStage (request : RequestId) (attempt : AttemptId) (target : ServingStage) (now : Int64)
| cancelRequest (request : RequestId) (reason : ReasonCode) (now : Int64)
| failAttempt (request : RequestId) (attempt : AttemptId) (reason : ReasonCode) (now : Int64)
| replaceAttempt
    (request : RequestId) (superseded replacement : AttemptId) (modelHash : UInt64) (now : Int64)
| registerTransfer (registration : TransferRegistration) (now : Int64)
| authorizeTransfer (request : TrafficRequest) (now : Int64) (victim : Nat)
| startTransfer (id : StateTransferId) (authorization : TransferAuthorization)
| completeTransfer (id : StateTransferId) (verifiedBytes : UInt64)
| abandonTransfer (id : StateTransferId) (reason : ReasonCode)
| evaluate (request : TrafficRequest) (now : Int64) (victim : Nat)
| openFlow (decision : Decision) (declaredBytes : UInt64) (now : Int64)
| releaseFlow (flow : FlowId)
| recordFlowBytes (flow : FlowId) (bytes : UInt64) (inbound : Bool)
| publishCompletion (publication : CompletionPublication) (now : Int64)

/- The state an operation leaves behind. -/
def Coordinator.step (s : Coordinator) : Op → Coordinator
| .applyPolicy policy => (s.applyPolicy policy).2
| .publishTopology evidence now => (s.publishTopology evidence now).2
| .registerSloContract request tail deadline share =>
  (s.registerSloContract request tail deadline share).2
| .issueRouteDecision request attempt node lateral handoff =>
  (s.issueRouteDecision request attempt node lateral handoff).2
| .setModelGeneration hash expected => (s.setModelGeneration hash expected).2
| .revalidateModelGeneration hash => (s.revalidateModelGeneration hash).2
| .advanceStateGeneration hash expected => (s.advanceStateGeneration hash expected).2
| .revalidateStateGeneration hash => (s.revalidateStateGeneration hash).2
| .registerRequest request now => (s.registerRequest request now).2
| .registerAttempt request attempt hash now => (s.registerAttempt request attempt hash now).2
| .revalidateRequest request attempt now => (s.revalidateRequest request attempt now).2
| .advanceStage request attempt target now => (s.advanceStage request attempt target now).2
| .cancelRequest request reason now => (s.cancelRequest request reason now).2
| .failAttempt request attempt reason now => (s.failAttempt request attempt reason now).2
| .replaceAttempt request old new hash now => (s.replaceAttempt request old new hash now).2
| .registerTransfer registration now => (s.registerTransfer registration now).2
| .authorizeTransfer request now victim => (s.authorizeTransfer request now victim).2
| .startTransfer id authorization => (s.startTransfer id authorization).2
| .completeTransfer id bytes => (s.completeTransfer id bytes).2
| .abandonTransfer id reason => (s.abandonTransfer id reason).2
| .evaluate request now victim => (s.evaluate request now victim).2
| .openFlow decision bytes now => (s.openFlow decision bytes now).2
| .releaseFlow flow => (s.releaseFlow flow).2
| .recordFlowBytes flow bytes inbound => (s.recordFlowBytes flow bytes inbound).2
| .publishCompletion publication now => (s.publishCompletion publication now).2

/- A list of operations in order. -/
def Coordinator.steps (s : Coordinator) (ops : List Op) : Coordinator :=
  ops.foldl step s

/- What may happen to a booted coordinator. -/
inductive Label
| op (op : Op)
| bootFresh
| reboot
| restart (entropy : UInt64)

namespace Coordinator

variable (mt : Generator)
variable {s : Coordinator} {config : CoordinatorConfig}
variable {t : Coordinator} {label : Label}

/-
  One transition. A reboot boots the same object from the
  document it exported, whether or not the document is
  accepted; a restart is a new process, which runs only
  when its boot succeeds.
-/
inductive Transition :
    Coordinator → Label → Coordinator → Prop
| op (s : Coordinator) (op : Op) : Transition s (.op op) (s.step op)
| bootFresh (s : Coordinator) : Transition s .bootFresh (s.bootFresh mt).2
| reboot (s : Coordinator) : Transition s .reboot (s.bootFrom mt s.exportState).2
| restart (s next : Coordinator) (entropy : UInt64) (epoch : CoordinatorEpoch)
    (hBoot : (create s.config entropy).bootFrom mt s.exportState = (.ok epoch, next)) :
    Transition s (.restart entropy) next

inductive Booted : Coordinator → Prop
| fresh (base : Coordinator) : Booted (base.bootFresh mt).2
| restored (base : Coordinator) (document : PersistedCoordinatorState) :
    Booted (base.bootFrom mt document).2

/- A coordinator that has just booted fresh. -/
def Started (config : CoordinatorConfig) (s : Coordinator) : Prop :=
  ∃ entropy, s = ((create config entropy).bootFresh mt).2

/- A state of some run from a fresh boot. -/
def Reachable (config : CoordinatorConfig) (s : Coordinator) : Prop :=
  ∃ start labels, Started mt config start ∧ Run (Transition mt) start labels s

theorem Booted.of_bootFrom {mt : Generator} {base : Coordinator}
    {document : PersistedCoordinatorState} {result : Result CoordinatorEpoch}
    (hBoot : base.bootFrom mt document = (result, s)) : Booted mt s := by
  have hBooted : Booted mt (base.bootFrom mt document).2 := .restored base document
  rw [hBoot] at hBooted
  exact hBooted

theorem Started.booted {mt : Generator} (hStarted : Started mt config s) : Booted mt s := by
  rcases hStarted with ⟨entropy, rfl⟩
  exact .fresh _

/- A transition is an operation or a boot. -/
theorem Transition.booted_or_step {mt : Generator} (hTransition : Transition mt s label t) :
    Booted mt t ∨ ∃ op, label = .op op ∧ t = s.step op := by
  cases hTransition with
  | op op => exact .inr ⟨op, rfl, rfl⟩
  | bootFresh => exact .inl (.fresh s)
  | reboot => exact .inl (.restored s _)
  | restart _ _ _ hBoot => exact .inl (.of_bootFrom hBoot)

/- The coordinator without what a boot sets or restores. -/
def volatile (s : Coordinator) : Coordinator :=
  { s with
    epoch := .unset
    incarnation := .nil
    authoritySequence := .unset
    policy := {}
    topology := {}
    topologyPresent := false
    models := ∅
    states := ∅
    ledger := {}
    bootCount := 0
    random := ⟨0, 0⟩ }

/- A boot clears all the rest. -/
theorem bootFrom_volatile (s : Coordinator) (document : PersistedCoordinatorState) :
    (s.bootFrom mt document).2.volatile = s.clearState.volatile := by
  unfold bootFrom restoreState
  cases s.clearState.validateRestoredState document with
  | error => rfl
  | ok =>
    simp only
    split
    · rfl
    · rfl

theorem Booted.volatile {mt : Generator} (hBooted : Booted mt s) :
    ∃ base : Coordinator, s.volatile = base.clearState.volatile := by
  cases hBooted with
  | fresh base => exact ⟨base, rfl⟩
  | restored base document => exact ⟨base, bootFrom_volatile mt base document⟩

/- A transition from a reachable state reaches a state. -/
theorem Reachable.step {mt : Generator} (hReachable : Reachable mt config s)
    (hTransition : Transition mt s label t) : Reachable mt config t := by
  rcases hReachable with ⟨start, labels, hStarted, hRun⟩
  exact ⟨start, labels ++ [label], hStarted, hRun.append (Run.single hTransition)⟩

/- Operations of a started coordinator are a run. -/
theorem run_steps (s : Coordinator) (ops : List Op) :
    Run (Transition mt) s (ops.map Label.op) (s.steps ops) := by
  induction ops generalizing s with
  | nil => exact .nil s
  | cons op rest ih => exact .cons (.op s op) (ih (s.step op))

theorem Reachable.steps {mt : Generator} (hReachable : Reachable mt config s) (ops : List Op) :
    Reachable mt config (s.steps ops) := by
  rcases hReachable with ⟨start, labels, hStarted, hRun⟩
  exact ⟨start, labels ++ ops.map Label.op, hStarted, hRun.append (run_steps mt s ops)⟩

/- Whether a check passes at every step of operations. -/
def passes (check : Coordinator → Op → Bool) (s : Coordinator) : List Op → Bool
| [] => true
| op :: rest => check s op && (s.step op).passes check rest

/- Operations that pass a check make a guarded run. -/
theorem run_passes {allowed : Coordinator → Label → Prop} (check : Coordinator → Op → Bool)
    (hCheck : ∀ s op, check s op = true → allowed s (.op op)) (s : Coordinator) (ops : List Op)
    (hPasses : s.passes check ops = true) :
    Run (Guarded allowed (Transition mt)) s (ops.map Label.op) (s.steps ops) := by
  induction ops generalizing s with
  | nil => exact .nil s
  | cons op rest ih =>
    simp only [passes, Bool.and_eq_true] at hPasses
    exact .cons ⟨hCheck s op hPasses.1, .op s op⟩ (ih (s.step op) hPasses.2)

/- A generator for evaluated runs. -/
def sampleGenerator (seed : UInt64) (index : Nat) : UInt64 :=
  seed + UInt64.ofNat index

/- The default configuration, just booted. -/
def sampleStart : Coordinator :=
  ((create {} 1).bootFresh sampleGenerator).2

theorem sampleStart_started : Started sampleGenerator {} sampleStart := ⟨1, rfl⟩

/- States of evaluated runs are reachable. -/
theorem sampleStart_reachable (ops : List Op) :
    Reachable sampleGenerator {} (sampleStart.steps ops) :=
  ⟨sampleStart, ops.map Label.op, sampleStart_started, run_steps sampleGenerator sampleStart ops⟩

/- A request whose attempt may send its ingress traffic. -/
def ingressOps : List Op :=
  [ .registerRequest ⟨0, 1⟩ 1,
    .registerAttempt ⟨0, 1⟩ ⟨0, 2⟩ 0 2,
    .advanceStage ⟨0, 1⟩ ⟨0, 2⟩ .admitted 3,
    .registerSloContract ⟨0, 1⟩ 1000 1000 1,
    .issueRouteDecision ⟨0, 1⟩ ⟨0, 2⟩ 1 false false ]

/- A model and its state, on a measured topology. -/
def generationOps : List Op :=
  [ .setModelGeneration 1 none,
    .advanceStateGeneration 1 none,
    .publishTopology { provenance := .measured, nodeCount := 1 } 1 ]

def sampleTransfer (declaredClass : TrafficClass) : TransferRegistration where
  id := ⟨0, 9⟩
  stateHash := 1
  modelHash := 1
  declaredClass

def ownedRegistration : TransferRegistration where
  __ := sampleTransfer .stateTransfer
  request := ⟨0, 1⟩

def ingressTraffic : TrafficRequest where
  subject := some
    { kind := .serving
      request := ⟨0, 1⟩
      attempt := ⟨0, 2⟩
      requestGeneration := ⟨1⟩ }

end Coordinator

end TrafficFabric
