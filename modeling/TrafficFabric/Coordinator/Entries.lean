import TrafficFabric.Coordinator.Authority
import TrafficFabric.Coordinator.Treatment

/-
  The entry of the current attempt of a request.

  Attempts are looked up by identity, and the first entry is
  found. A revalidation may bind an identity that the
  request has already: the entry it appends is current, and
  the older one is found. Without such a revalidation the
  entry that is found is the one that was bound last.

  Main declarations:
    * `RequestView.Listed`
    * `Coordinator.treatment_not_claimed`
-/

namespace TrafficFabric

open List Option

namespace RequestView

/- Identities are distinct, and the last one is current. -/
structure Listed (view : RequestView) : Prop where
  distinct : (view.attempts.map AttemptView.id).Nodup
  last : ∀ id, (view.attempts.map AttemptView.id).getLast? = some id → view.currentAttempt = id

variable {limits : LedgerLimits} {view next : RequestView} {event : RequestEvent}

/- Only a revalidation can bind an identity twice. -/
theorem Step.listed (hStep : Step limits view event next)
    (hFresh : ∀ attempt, event = .revalidated attempt → view.findAttempt attempt = none)
    (hListed : view.Listed) : next.Listed := by
  have hNew :
      ∀ attempt, event.bound = some attempt → attempt ∉ view.attempts.map AttemptView.id := by
    intro attempt hBound
    rw [← List.findKey?_eq_none_iff]
    cases hStep with
    | attemptRegistered _ _ _ hFree | superseded _ _ _ _ _ _ hFree =>
      cases hBound
      exact hFree
    | revalidated =>
      cases hBound
      exact hFresh attempt rfl
    | _ => cases hBound
  have hCurrent : next.currentAttempt = event.bound.getD view.currentAttempt := by
    cases hStep with
    | _ => rfl
  have hIds := hStep.ids
  cases hBound : event.bound with
  | none =>
    rw [hBound, toList_none, append_nil] at hIds
    rw [hBound, getD_none] at hCurrent
    exact ⟨hIds ▸ hListed.distinct, hIds ▸ hCurrent ▸ hListed.last⟩
  | some attempt =>
    rw [hBound, toList_some] at hIds
    rw [hBound, getD_some] at hCurrent
    constructor
    · rw [hIds]
      exact nodup_append_comm.mp (nodup_cons.mpr ⟨hNew attempt hBound, hListed.distinct⟩)
    · intro id hLast
      rw [hIds, getLast?_concat] at hLast
      cases hLast
      exact hCurrent

theorem Listed.restored (hListed : view.Listed) : view.restored.Listed := by
  unfold RequestView.restored
  split
  · exact ⟨hListed.distinct, hListed.last⟩
  · exact ⟨hListed.distinct, hListed.last⟩

/- The entry that is found is the one bound last. -/
theorem Listed.findsLast {record : RequestRecord} (hListed : record.view.Listed) :
    record.FindsLast := by
  have hIds : record.view.attempts.map AttemptView.id = record.attempts.map AttemptRecord.id :=
    map_map
  rcases hListed with ⟨hDistinct, hCurrent⟩
  rw [hIds] at hDistinct hCurrent
  unfold RequestRecord.FindsLast
  cases hLast : record.attempts.getLast? with
  | none =>
    rw [getLast?_eq_none_iff] at hLast
    rw [RequestRecord.findAttempt, hLast]
    rfl
  | some entry =>
    have hSame : record.currentAttempt = entry.id :=
      hCurrent entry.id (by rw [getLast?_map, hLast]; rfl)
    rw [hSame]
    exact List.findKey?_of_mem _ hDistinct (mem_of_getLast? hLast)

end RequestView

namespace Coordinator

/- A revalidation under an identity that the record holds. -/
def RepeatsAttempt (s : Coordinator) : Label → Prop
| .op (.revalidateRequest request attempt _) =>
  ∃ record, s.ledger.snapshotRequest request = some record ∧
    (record.findAttempt attempt).isSome = true
| _ => False

/- A state of a run that repeats no identity. -/
def Unrepeated (mt : Generator) (config : CoordinatorConfig) (s : Coordinator) : Prop :=
  ∃ start labels, Started mt config start ∧
    Run (Guarded (fun state label => ¬ state.RepeatsAttempt label) (Transition mt)) start labels s

def AttemptsListed (s : Coordinator) : Prop :=
  ∀ id view, s.ledger.view id = some view → view.Listed

variable {mt : Generator} {config : CoordinatorConfig} {s t : Coordinator}
variable {label : Label}

theorem AttemptsListed.step (hListed : s.AttemptsListed) (hCoherent : s.ledger.Coherent)
    (hFresh : ¬ s.RepeatsAttempt label) (hTransition : Transition mt s label t) :
    t.AttemptsListed := by
  intro id view hView
  have hChange := hTransition.viewChange hCoherent id
  rw [hView] at hChange
  generalize hOld : s.ledger.view id = old at hChange
  cases hChange with
  | same => exact hListed id view hOld
  | registered now => exact ⟨nodup_nil, fun _ hLast => by cases hLast⟩
  | evolved before _ op event hLabel hEvent hStep =>
    refine hStep.listed ?_ (hListed id before hOld)
    rintro attempt rfl
    rcases map_eq_some_iff.mp hOld with ⟨record, hRecord, rfl⟩
    rw [RequestRecord.view_findAttempt, map_eq_none_iff]
    by_contra hHeld
    apply hFresh
    subst hLabel
    cases op with
    | revalidateRequest request named now =>
      cases hEvent
      exact ⟨record, hRecord, isSome_iff_ne_none.mpr hHeld⟩
    | _ => cases hEvent
  | restored before => exact (hListed id before hOld).restored

theorem Unrepeated.findsLast (hUnrepeated : Unrepeated mt config s) {id : RequestId}
    {record : RequestRecord} (hRecord : s.ledger.snapshotRequest id = some record) :
    record.FindsLast := by
  rcases hUnrepeated with ⟨start, labels, hStarted, hRun⟩
  have hListed : s.AttemptsListed := by
    refine hRun.invariant_of_invariant (fun state => state.ledger.Coherent) AttemptsListed
      ?_ ?_ hStarted.booted.coherent ?_
    · rintro before label after ⟨-, hTransition⟩ hCoherent
      exact hTransition.coherent hCoherent
    · rintro before label after ⟨hFresh, hTransition⟩ hCoherent hListed
      exact hListed.step hCoherent hFresh hTransition
    · rcases hStarted with ⟨entropy, rfl⟩
      intro id view hNone
      cases hNone
  exact (hListed id record.view (RequestLedger.view_of_lookup hRecord)).findsLast

/-
  The granted class is one the stage of the attempt
  produces, and the treatment is within the rule of that
  class, whatever the caller declared and hinted at. The
  stage is that of the entry bound last, if no revalidation
  repeats an identity.
-/
theorem treatment_not_claimed (mt : Generator) (config : CoordinatorConfig)
    (s : Coordinator) (request : TrafficRequest) (now : Int64) (victim : Nat)
    (hPermits : (s.evaluate request now victim).1.permitsTraffic = true) :
    (s.evaluate request now victim).1.treatment.Within
        (s.policy.rule (s.evaluate request now victim).1.treatment.trafficClass) ∧
      ∀ subject, request.subject = some subject →
        (subject.kind = .serving →
          ∃ record attempt,
            s.ledger.snapshotRequest subject.request = some record ∧
              record.findAttempt subject.attempt = some attempt ∧
              (isClassLegalForStage (s.evaluate request now victim).1.treatment.trafficClass
                    attempt.stage = true ∨
                attempt.stage = .unknown ∧ s.policy.allowUnknownStage = true ∧
                  (s.evaluate request now victim).1.treatment.trafficClass = .unknown) ∧
              (Unrepeated mt config s → record.attempts.getLast? = some attempt)) ∧
          (subject.kind = .transfer →
            ∃ transfer,
              s.transfers.lookup subject.transfer = some transfer ∧
                Enumeration.code transfer.requiredIntegrity ≤
                  Enumeration.code (s.evaluate request now victim).1.treatment.integrity) := by
  rcases evaluate_granted hPermits with ⟨named, admission, hGranted⟩
  constructor
  · rw [hGranted.trafficClass, hGranted.treatment]
    exact treatmentOf_within _
  · intro subject hSubject
    cases hSubject.symm.trans hGranted.asked
    have hPermit := admissionOf_grounds hSubject hGranted.admitted
    constructor
    · intro hKind
      rcases hPermit.serving hSubject hKind with ⟨record, attempt, hGrounds⟩
      rcases hGranted.served hKind hGrounds.retained hGrounds.found with ⟨hClass, hStage⟩
      refine ⟨record, attempt, hGrounds.retained, hGrounds.found, ?_,
        fun hRun => hGrounds.last (hRun.findsLast hGrounds.retained)⟩
      rw [hClass]
      rcases hStage with hActive | ⟨hUnknown, hAllowed⟩
      · exact .inl (servedClass_legal _ hActive)
      · exact .inr ⟨hUnknown, hAllowed,
          (servedClass_eq_unknown_iff _ (.inr hUnknown)).mpr hUnknown⟩
    · intro hKind
      rcases hPermit.transfer hSubject hKind with ⟨transfer, hGrounds⟩
      rcases admissionOf_transfer hGranted.admitted hKind hGrounds.retained with
        ⟨-, -, -, hResolved, -⟩
      refine ⟨transfer, hGrounds.retained, ?_⟩
      rw [hGranted.treatment, treatmentOf_eq]
      simp only [baseTreatment, hResolved]
      exact (le_maxIntegrity _ _).2

theorem treatment_not_claimed_ingress :
    let s := sampleStart.steps ingressOps
    (s.evaluate ingressTraffic 4 0).1.permitsTraffic = true ∧
      (s.evaluate ingressTraffic 4 0).1.treatment.Within
        (s.policy.rule (s.evaluate ingressTraffic 4 0).1.treatment.trafficClass) ∧
      ∃ record attempt,
        s.ledger.snapshotRequest ⟨0, 1⟩ = some record ∧
          record.findAttempt ⟨0, 2⟩ = some attempt ∧ record.attempts.getLast? = some attempt := by
  intro s
  have hUnrepeated : Unrepeated sampleGenerator {} s :=
    ⟨sampleStart, ingressOps.map Label.op, sampleStart_started,
      .cons ⟨not_false, .op _ _⟩ (.cons ⟨not_false, .op _ _⟩ (.cons ⟨not_false, .op _ _⟩
        (.cons ⟨not_false, .op _ _⟩ (Run.single ⟨not_false, .op _ _⟩))))⟩
  have hPermits : (s.evaluate ingressTraffic 4 0).1.permitsTraffic = true := by decide
  rcases treatment_not_claimed sampleGenerator {} s ingressTraffic 4 0 hPermits with
    ⟨hWithin, hSubject⟩
  rcases (hSubject _ rfl).1 rfl with ⟨record, attempt, hRecord, hFound, -, hLast⟩
  exact ⟨hPermits, hWithin, record, attempt, hRecord, hFound, hLast hUnrepeated⟩

/-
  Revalidated under the attempt it had, a request whose
  current attempt is in no stage is granted the class of the
  stage that the older entry had reached.
-/
theorem stale_stage_granted :
    let admitted := sampleStart.steps (ingressOps.take 3)
    let restarted := (admitted.bootFrom sampleGenerator admitted.exportState).2
    let s := restarted.steps (.revalidateRequest ⟨0, 1⟩ ⟨0, 2⟩ 4 :: ingressOps.drop 3)
    let decision := (s.evaluate ingressTraffic 5 0).1
    Reachable sampleGenerator {} s ∧
      s.policy.validate = .valid ∧ s.policy.allowUnknownStage = false ∧
      ((s.ledger.snapshotRequest ⟨0, 1⟩).bind (fun record => record.attempts.getLast?)).map
          (fun entry => (entry.id, entry.stage)) = some (⟨0, 2⟩, .unknown) ∧
      decision.permitsTraffic = true ∧
      isClassLegalForStage decision.treatment.trafficClass .unknown = false := by
  intro admitted restarted s decision
  refine ⟨?_, by decide, by decide, by decide, by decide, by decide⟩
  exact ((sampleStart_reachable _).step (.reboot _)).steps _

end Coordinator

end TrafficFabric
