import TrafficFabric.Coordinator.Snapshots
import TrafficFabric.Coordinator.Validation

/-
  The coordinator service on one host: what a start makes
  of the snapshot file, what a save leaves in it, and the
  boots that follow one another when processes crash.

  A host remembers the identity of every boot and whether
  the last one has saved a snapshot yet.
-/

namespace TrafficFabric

open SnapshotStore Coordinator List

namespace CoordinatorService

/-
  Start on the payload of the snapshot file, if there is a
  file. One that cannot be opened is not distinguished here.
-/
def start (mt : Generator) (config : CoordinatorConfig) (entropy : UInt64)
    (disk : Option (List UInt8)) : Result Unit × Coordinator :=
  let constructed := create config entropy
  match disk with
  | none => (.ok (), (constructed.bootFresh mt).2)
  | some payload =>
    match loadPayload maxSnapshotPayloadBytes payload with
    | .error status =>
      (.failure status.code ("durable state was refused: " ++ status.toString), constructed)
    | .ok document =>
      let booted := constructed.bootFrom mt document
      match booted.1 with
      | .error status => (.error status, booted.2)
      | .ok _ => (.ok (), booted.2)

/- The file after a save, whether or not it succeeds. -/
def saveSnapshot (s : Coordinator) (disk : Option (List UInt8)) : Option (List UInt8) :=
  match savePayload maxSnapshotPayloadBytes s.exportState with
  | .error _ => disk
  | .ok payload => some payload

end CoordinatorService

/-
  The snapshot file and the running process of a host, the
  boots so far with the latest one first, and whether that
  one still has to save its first snapshot.
-/
structure Host where
  disk : Option (List UInt8) := none
  process : Option Coordinator := none
  boots : List (CoordinatorEpoch × BootId) := []
  pending : Bool := false

inductive HostLabel
| start (entropy : UInt64)
| op (op : Op)
| save
| crash

/-
  One step of a host. The service of a refused start is
  destroyed, which saves the coordinator it constructed.
-/
inductive Host.Step (mt : Generator) (config : CoordinatorConfig) :
    Host → HostLabel → Host → Prop
| started (h : Host) (entropy : UInt64) (s : Coordinator)
    (hStart : CoordinatorService.start mt config entropy h.disk = (.ok (), s)) :
    Step mt config h (.start entropy) { h with
        process := some s
        boots := (s.epoch, s.incarnation) :: h.boots
        pending := true }
| refused (h : Host) (entropy : UInt64) (s : Coordinator) (status : Status)
    (hStart : CoordinatorService.start mt config entropy h.disk = (.error status, s)) :
    Step mt config h (.start entropy) { h with
        disk := CoordinatorService.saveSnapshot s h.disk
        process := none }
| op (h : Host) (s : Coordinator) (op : Op) (hProcess : h.process = some s) :
    Step mt config h (.op op) { h with process := some (s.step op) }
| saved (h : Host) (s : Coordinator) (payload : List UInt8) (hProcess : h.process = some s)
    (hSaved : savePayload maxSnapshotPayloadBytes s.exportState = .ok payload) :
    Step mt config h .save { h with disk := some payload, pending := false }
| crashed (h : Host) : Step mt config h .crash { h with process := none }

/- Every boot has saved a snapshot before the next start. -/
def Host.Settled (h : Host) : HostLabel → Prop
| .start _ => h.pending = false
| .op _ | .save | .crash => True

/-
  Epochs in the order boots go through them. The epoch after
  the last one is unset, and no snapshot of it is loaded.
-/
def epochRank (epoch : CoordinatorEpoch) : Nat :=
  if epoch = .unset then UInt64.size
  else epoch.value.toNat

theorem epochRank_nextEpoch {epoch : CoordinatorEpoch} (hSet : epoch ≠ .unset) :
    epochRank (nextEpoch epoch) = epochRank epoch + 1 := by
  have hNext : nextEpoch epoch = epoch.next := by
    unfold nextEpoch
    rw [if_neg]
    rw [Generation.isUnset_iff]
    exact hSet
  rw [hNext]
  unfold epochRank
  rw [if_neg hSet]
  by_cases hMax : epoch = .max
  · subst hMax
    rfl
  · rw [if_neg (Generation.next_ne_unset epoch hMax), Generation.toNat_next epoch hMax]

namespace Coordinator

variable (mt : Generator) (base : Coordinator) (document : PersistedCoordinatorState)

theorem restoreState_epoch : (base.restoreState document).2.epoch = base.epoch := by
  unfold restoreState
  split
  · rfl
  · rfl

/- An accepted document sets the epoch after its own. -/
theorem bootFrom_epoch_of_ok {epoch : CoordinatorEpoch}
    (hOk : (base.bootFrom mt document).1 = .ok epoch) :
    (base.bootFrom mt document).2.epoch = nextEpoch document.epoch := by
  unfold bootFrom at hOk ⊢
  simp only at hOk ⊢
  split
  · rename_i hError
    rw [hError] at hOk
    cases hOk
  · rfl

/- A refused document leaves the epoch alone. -/
theorem bootFrom_epoch_of_error {status : Status}
    (hError : (base.bootFrom mt document).1 = .error status) :
    (base.bootFrom mt document).2.epoch = base.epoch := by
  unfold bootFrom at hError ⊢
  simp only at hError ⊢
  split
  · exact restoreState_epoch base.clearState document
  · rename_i hOk
    rw [hOk] at hError
    cases hError

end Coordinator

---
-- Sound Hosts
---

namespace CoordinatorService

variable {mt : Generator} {config : CoordinatorConfig} {entropy : UInt64}
variable {disk : Option (List UInt8)} {s : Coordinator}

/- A start boots fresh or from the document of the file. -/
theorem start_eq_ok (hStart : start mt config entropy disk = (.ok (), s)) :
    disk = none ∨
      ∃ payload document,
        disk = some payload ∧
          loadPayload maxSnapshotPayloadBytes payload = .ok document ∧
          s.epoch = nextEpoch document.epoch := by
  unfold start at hStart
  simp only at hStart
  split at hStart
  · exact .inl rfl
  · rename_i payload
    split at hStart
    · cases hStart
    · rename_i document hLoaded
      split at hStart
      · cases hStart
      · rename_i epoch hBoot
        cases hStart
        exact .inr ⟨payload, document, rfl, hLoaded,
          bootFrom_epoch_of_ok mt _ document hBoot⟩

/- A refused start leaves a coordinator without an epoch. -/
theorem start_eq_error {status : Status}
    (hStart : start mt config entropy disk = (.error status, s)) : s.epoch = .unset := by
  unfold start at hStart
  simp only at hStart
  split at hStart
  · cases hStart
  · split at hStart
    · cases hStart
      rfl
    · rename_i document hLoaded
      split at hStart
      · rename_i failure hBoot
        cases hStart
        exact bootFrom_epoch_of_error mt _ document hBoot
      · cases hStart

end CoordinatorService

namespace Host

variable {mt : Generator} {config : CoordinatorConfig} {h next : Host}
variable {label : HostLabel}

/-
  Boots go through the epochs in order, the process is the
  latest boot, and a snapshot that is loaded when nothing
  is pending is one of the latest boot.
-/
structure Sound (h : Host) : Prop where
  ordered : h.boots.Pairwise (fun newer older => epochRank older.1 < epochRank newer.1)
  serving : ∀ s, h.process = some s → h.boots.head? = some (s.epoch, s.incarnation)
  blank : h.pending = false → h.disk = none → h.boots = []
  saved :
    h.pending = false →
    ∀ payload document,
      h.disk = some payload → loadPayload maxSnapshotPayloadBytes payload = .ok document →
      ∃ boot, h.boots.head? = some boot ∧ document.epoch = boot.1

/- The latest boot is above all the others. -/
theorem Sound.rank_le_head (hSound : h.Sound) {boot older : CoordinatorEpoch × BootId}
    (hHead : h.boots.head? = some boot) (hOlder : older ∈ h.boots) :
    epochRank older.1 ≤ epochRank boot.1 := by
  have hOrdered := hSound.ordered
  cases hBoots : h.boots with
  | nil =>
    rw [hBoots] at hOlder
    cases hOlder
  | cons first rest =>
    rw [hBoots] at hHead hOlder hOrdered
    cases hHead
    rcases mem_cons.mp hOlder with rfl | hRest
    · exact Nat.le_refl _
    · exact (rel_of_pairwise_cons hOrdered hRest).le

/- A start that is settled goes past every earlier boot. -/
theorem Sound.start_above (hSound : h.Sound) {entropy : UInt64} {s : Coordinator}
    (hSettled : h.pending = false)
    (hStart : CoordinatorService.start mt config entropy h.disk = (.ok (), s)) :
    ∀ older ∈ h.boots, epochRank older.1 < epochRank s.epoch := by
  intro older hOlder
  rcases CoordinatorService.start_eq_ok hStart with
    hNone | ⟨payload, document, hDisk, hLoaded, hEpoch⟩
  · rw [hSound.blank hSettled hNone] at hOlder
    cases hOlder
  · rcases hSound.saved hSettled payload document hDisk hLoaded with ⟨boot, hHead, hSame⟩
    have hSet := (loadPayload_storable hLoaded).epoch
    have hBelow := hSound.rank_le_head hHead hOlder
    rw [hEpoch, epochRank_nextEpoch hSet, hSame]
    omega

/- Every settled step keeps a host sound. -/
theorem Sound.step (hSound : h.Sound) (hSettled : h.Settled label)
    (hStep : Step mt config h label next) : next.Sound := by
  cases hStep with
  | started entropy s hStart =>
    have hAbove := hSound.start_above hSettled hStart
    constructor
    · exact pairwise_cons.mpr ⟨hAbove, hSound.ordered⟩
    · intro t hProcess
      cases hProcess
      rfl
    · intro hPending
      cases hPending
    · intro hPending
      cases hPending
  | refused entropy s status hStart =>
    have hUnset := CoordinatorService.start_eq_error hStart
    constructor
    · exact hSound.ordered
    · intro t hProcess
      cases hProcess
    · intro hPending hDisk
      unfold CoordinatorService.saveSnapshot at hDisk
      split at hDisk
      · exact hSound.blank hPending hDisk
      · cases hDisk
    · intro hPending payload document hDisk hLoaded
      unfold CoordinatorService.saveSnapshot at hDisk
      split at hDisk
      · exact hSound.saved hPending payload document hDisk hLoaded
      · rename_i written hSaved
        cases hDisk
        have hEpoch := loadPayload_epoch hSaved hLoaded
        have hSet := (loadPayload_storable hLoaded).epoch
        exact (hSet (hEpoch.trans hUnset)).elim
  | op s op hProcess =>
    have hBoot := s.step_boot op
    refine { hSound with serving := ?_ }
    intro t hNext
    cases hNext
    rw [hBoot.2.1, hBoot.2.2.1]
    exact hSound.serving s hProcess
  | saved s payload hProcess hSaved =>
    have hHead := hSound.serving s hProcess
    constructor
    · exact hSound.ordered
    · exact hSound.serving
    · intro _ hDisk
      cases hDisk
    · intro _ found document hDisk hLoaded
      cases hDisk
      exact ⟨_, hHead, loadPayload_epoch hSaved hLoaded⟩
  | crashed =>
    refine { hSound with serving := ?_ }
    intro t hProcess
    cases hProcess

/- A host that never started anything. -/
theorem sound_empty : ({} : Host).Sound where
  ordered := List.Pairwise.nil
  serving s hProcess := by
    cases hProcess
  blank _ _ := rfl
  saved _ payload document hDisk := by
    cases hDisk

/- Boots are only added, in front of the earlier ones. -/
theorem step_boots (hStep : Step mt config h label next) :
    ∃ newer, next.boots = newer ++ h.boots := by
  cases hStep with
  | started entropy s hStart => exact ⟨[(s.epoch, s.incarnation)], rfl⟩
  | _ => exact ⟨[], rfl⟩

theorem run_boots {labels : List HostLabel}
    (hRun : Run (Guarded Settled (Step mt config)) h labels next) :
    ∃ newer, next.boots = newer ++ h.boots := by
  apply hRun.invariant (fun state => ∃ newer, state.boots = newer ++ h.boots)
  · rintro state label last ⟨-, hStep⟩ ⟨newer, hNewer⟩
    rcases step_boots hStep with ⟨added, hAdded⟩
    refine ⟨added ++ newer, ?_⟩
    rw [hAdded, hNewer, append_assoc]
  · exact ⟨[], rfl⟩

/-
  When every boot saves a snapshot before the next start,
  no two boots of a host have the same identity, and no
  decision of a boot validates in a later one.
-/
theorem boot_identities_fresh (mt : Generator) (config : CoordinatorConfig)
    (first last : Host) (before after : List HostLabel)
    (hBefore : Run (Guarded Settled (Step mt config)) {} before first)
    (hAfter : Run (Guarded Settled (Step mt config)) first after last) :
    last.boots.Nodup ∧ ∀ s t request now victim,
        first.process = some s → last.process = some t → first.boots.length < last.boots.length →
        (t.validateDecision (s.evaluate request now victim).1).isOk = false := by
  have hKeep :
      ∀ state label next,
        Guarded Settled (Step mt config) state label next → state.Sound → next.Sound := by
    rintro state label next ⟨hSettled, hStep⟩ hSound
    exact hSound.step hSettled hStep
  have hFirst := hBefore.invariant Sound hKeep sound_empty
  have hLast := hAfter.invariant Sound hKeep hFirst
  constructor
  · apply hLast.ordered.imp
    intro newer older hBelow hSame
    rw [hSame] at hBelow
    exact Nat.lt_irrefl _ hBelow
  · intro s t request now victim hOld hNew hMore
    rcases run_boots hAfter with ⟨newer, hBoots⟩
    have hHead := hLast.serving t hNew
    have hEarlier := mem_of_mem_head? (hFirst.serving s hOld)
    have hOrdered := hLast.ordered
    cases newer with
    | nil =>
      rw [hBoots, nil_append] at hMore
      exact (Nat.lt_irrefl _ hMore).elim
    | cons boot others =>
      rw [hBoots, cons_append] at hHead hOrdered
      cases hHead
      have hBelow := rel_of_pairwise_cons hOrdered (mem_append_right others hEarlier)
      by_contra hOk
      rw [Bool.not_eq_false, Result.isOk_iff_exists] at hOk
      rcases hOk with ⟨value, hValid⟩
      have hEpoch := (validateDecision_eq_ok_iff.mp hValid).1.epoch
      rw [evaluate_authority] at hEpoch
      rw [← hEpoch] at hBelow
      exact Nat.lt_irrefl _ hBelow

/- A configuration with a seed for the boot identities. -/
def seeded : CoordinatorConfig :=
  { bootSeed := 7 }

def firstBoot : Coordinator :=
  ((create seeded 1).bootFresh sampleGenerator).2

/- The process that starts from its snapshot. -/
def secondBoot : Coordinator :=
  ((create seeded 2).bootFrom sampleGenerator firstBoot.exportState).2

def firstHost : Host where
  process := some firstBoot
  boots := [(firstBoot.epoch, firstBoot.incarnation)]
  pending := true

def secondHost : Host where
  disk := some firstBoot.exportState.layout
  process := some secondBoot
  boots := [(secondBoot.epoch, secondBoot.incarnation), (firstBoot.epoch, firstBoot.incarnation)]
  pending := true

theorem boot_identities_fresh_restarted :
    secondHost.boots.Nodup ∧
      (secondBoot.validateDecision (firstBoot.evaluate {} 0 0).1).isOk = false := by
  have hDurable : firstBoot.Durable := bootFresh_durable _ rfl (by decide) (by decide)
  have hFits := hDurable.exportState_fits rfl
  have hSaved := savePayload_of_fits hFits
  have hLoaded := loadPayload_layout (hDurable.exportState_storable rfl) hFits
  have hBoot :
      ∃ ledger, _ ∧ _ ∧ _ ∧ _ ∧
        ((create seeded 2).bootFrom sampleGenerator
          firstBoot.exportState).1.isOk = true :=
    hDurable.bootFrom_accepted _ rfl hDurable.limits.symm
  rcases hBoot with ⟨-, -, -, -, -, hOk⟩
  have hStart :
      CoordinatorService.start sampleGenerator
          seeded 2 (some firstBoot.exportState.layout) = (.ok (), secondBoot) := by
    rcases (Result.isOk_iff_exists _).mp hOk with ⟨epoch, hEpoch⟩
    unfold CoordinatorService.start
    simp only [hLoaded, hEpoch]
    rfl
  have hBefore :
      Run (Guarded Settled (Step sampleGenerator seeded)) {} [.start 1] firstHost :=
    Run.single ⟨rfl, .started {} 1 firstBoot rfl⟩
  have hAfter :
      Run (Guarded Settled (Step sampleGenerator seeded))
        firstHost [.save, .start 2] secondHost :=
    .cons ⟨trivial, .saved firstHost firstBoot _ rfl hSaved⟩
      (Run.single ⟨rfl, .started _ 2 secondBoot hStart⟩)
  have hFresh := boot_identities_fresh sampleGenerator seeded firstHost secondHost
    _ _ hBefore hAfter
  exact ⟨hFresh.1, hFresh.2 firstBoot secondBoot {} 0 0 rfl rfl (by decide)⟩

theorem run_ops (mt : Generator) (config : CoordinatorConfig) (h : Host)
    (s : Coordinator) (ops : List Op) :
    Run (Step mt config) { h with process := some s } (ops.map HostLabel.op)
      { h with process := some (s.steps ops) } := by
  induction ops generalizing s with
  | nil => exact .nil _
  | cons op rest ih => exact .cons (.op _ s op rfl) (ih (s.step op))

open Coordinator (ingressOps ingressTraffic)

/- The process of a start after a crash. -/
def crashedBoot : Coordinator :=
  ((create seeded 2).bootFresh sampleGenerator).2

/-
  A process that crashes before its first snapshot is
  followed by one with the same identity, in which its
  decisions still validate.
-/
theorem crashed_boot_repeats :
    seeded.bootSeed ≠ 0 ∧
      ∃ first last : Host,
        Run (Step sampleGenerator seeded) {} (.start 1 :: ingressOps.map .op) first ∧
          Run (Step sampleGenerator seeded) first
            (.crash :: .start 2 :: ingressOps.map .op)
            last ∧
          ¬ last.boots.Nodup ∧
          ∃ s t, first.process = some s ∧
            last.process = some t ∧
            (t.validateDecision (s.evaluate ingressTraffic 5 0).1).isOk = true := by
  refine ⟨by decide, { firstHost with
      process := some (firstBoot.steps ingressOps) },
    { firstHost with
      process := some (crashedBoot.steps ingressOps)
      boots := (crashedBoot.epoch, crashedBoot.incarnation) :: firstHost.boots },
    ?_, ?_, by decide, _, _, rfl, rfl, by decide⟩
  · exact .cons (.started {} 1 firstBoot rfl) (run_ops _ _ firstHost firstBoot ingressOps)
  · exact .cons (.crashed _) (.cons (.started _ 2 crashedBoot rfl) (run_ops _ _ { firstHost with
            boots := (crashedBoot.epoch, crashedBoot.incarnation) :: firstHost.boots }
          crashedBoot ingressOps))

end Host

end TrafficFabric
