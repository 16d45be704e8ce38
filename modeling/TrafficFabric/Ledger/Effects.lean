import TrafficFabric.Ledger.Machine
import TrafficFabric.Ledger.Refinement

/-
  What an operation does to the record it names: a rewrite
  keeps the identity, the flow count and whether the request
  is terminal, and a retirement makes it terminal.

  Main declarations:
    * `RequestLedger.Rewrites.agrees`
    * `RequestLedger.Retires.terminal`
    * `RequestLedger.Retires.live`
-/

namespace TrafficFabric

open RequestRecord Result

namespace RequestRecord

variable {limits : LedgerLimits} {record updated : RequestRecord} {attempt : AttemptId}
variable {now : Int64} {generation : AttemptGeneration} {reason : ReasonCode}
variable {hash : UInt64} {model : ModelGeneration} {sequence : AuthoritySequence}

/- A rewrite that moves neither identity nor flow count. -/
structure Agrees (record updated : RequestRecord) : Prop where
  id : updated.id = record.id
  terminal : updated.lifecycle.isTerminal = record.lifecycle.isTerminal
  flows : updated.activeFlows = record.activeFlows

theorem registerAttempt_agrees {route : RouteDecisionGeneration}
    (hOk : record.registerAttempt limits attempt hash model route now = .ok (generation, updated)) :
    record.Agrees updated := by
  unfold registerAttempt at hOk
  simp only [guard_eq_ok_iff, Except.ok.injEq, Prod.mk.injEq] at hOk
  rcases hOk with ⟨hLive, -, -, -, -, rfl⟩
  refine ⟨rfl, ?_, rfl⟩
  split
  · rw [Bool.eq_false_of_not_eq_true hLive]
    rfl
  · rfl

theorem revalidateRequest_agrees
    (hOk : record.revalidateRequest limits attempt now = .ok (generation, updated)) :
    record.Agrees updated := by
  unfold revalidateRequest at hOk
  simp only [guard_eq_ok_iff, Except.ok.injEq, Prod.mk.injEq] at hOk
  rcases hOk with ⟨hLive, -, -, -, -, rfl⟩
  refine ⟨rfl, ?_, rfl⟩
  rw [Bool.eq_false_of_not_eq_true hLive]
  rfl

theorem supersedeAttempt_agrees {replacement : AttemptId}
    (hOk : record.supersedeAttempt limits attempt replacement now = .ok (generation, updated)) :
    record.Agrees updated := by
  unfold supersedeAttempt at hOk
  simp only [guard_eq_ok_iff] at hOk
  rcases hOk with ⟨-, hOk⟩
  split at hOk
  · cases hOk
  simp only [guard_eq_ok_iff, Except.ok.injEq, Prod.mk.injEq] at hOk
  rcases hOk with ⟨-, -, -, -, rfl⟩
  exact ⟨rfl, rfl, rfl⟩

theorem setAttemptModel_agrees (hOk : record.setAttemptModel attempt hash model = .ok updated) :
    record.Agrees updated := by
  unfold setAttemptModel at hOk
  split at hOk
  · cases hOk
  cases hOk
  exact ⟨rfl, rfl, rfl⟩

theorem advanceStage_agrees {target : ServingStage}
    (hOk : record.advanceStage attempt target now = .ok updated) : record.Agrees updated := by
  unfold advanceStage at hOk
  simp only [guard_eq_ok_iff] at hOk
  rcases hOk with ⟨-, hLive, -, hOk⟩
  split at hOk
  · cases hOk
  simp only [guard_eq_ok_iff, Except.ok.injEq] at hOk
  rcases hOk with ⟨-, -, -, rfl⟩
  refine ⟨rfl, ?_, rfl⟩
  split
  · rw [Bool.eq_false_of_not_eq_true hLive]
    rfl
  · rfl

theorem raiseFloor_agrees (record : RequestRecord) (sequence : AuthoritySequence) :
    record.Agrees (record.raiseFloor sequence) := by
  unfold raiseFloor
  split
  · exact ⟨rfl, rfl, rfl⟩
  · exact ⟨rfl, rfl, rfl⟩

theorem recordBytes_agrees {bytes : UInt64} {inbound : Bool}
    (hOk : record.recordBytes bytes inbound = .ok updated) : record.Agrees updated := by
  unfold recordBytes at hOk
  split at hOk
  · split at hOk
    · cases hOk
    · cases hOk
      exact ⟨rfl, rfl, rfl⟩
  · split at hOk
    · cases hOk
    · cases hOk
      exact ⟨rfl, rfl, rfl⟩

theorem recordDecision_agrees (record : RequestRecord) (attempt : AttemptId)
    (outcome : DecisionOutcome) : record.Agrees (record.recordDecision attempt outcome) :=
  ⟨rfl, rfl, rfl⟩

/- A request fails with its current attempt. -/
theorem failAttempt_retires
    (hOk : record.failAttempt attempt reason now = .ok (generation, some updated)) :
    updated.id = record.id ∧ updated.lifecycle.isTerminal = true := by
  unfold failAttempt at hOk
  split at hOk
  · cases hOk
  simp only [guard_eq_ok_iff] at hOk
  rcases hOk with ⟨-, hOk⟩
  split at hOk
  · split at hOk
    · cases hOk
    · cases hOk
  · cases hOk
    exact ⟨rfl, rfl⟩

/- A cancellation of a live request makes it terminal. -/
theorem cancelRequest_retires
    (hOk : record.cancelRequest reason sequence now = .ok (updated, true)) :
    record.lifecycle.isTerminal = false ∧
      updated.id = record.id ∧ updated.lifecycle.isTerminal = true := by
  unfold cancelRequest at hOk
  split at hOk
  · cases hOk
  · simp only [guard_eq_ok_iff, Except.ok.injEq, Prod.mk.injEq, and_true] at hOk
    rcases hOk with ⟨hLive, rfl⟩
    refine ⟨Bool.eq_false_of_not_eq_true hLive, ?_, ?_⟩
    · exact (raiseFloor_agrees _ sequence).id
    · rw [(raiseFloor_agrees _ sequence).terminal]
      rfl

/- A second cancellation only raises the floor. -/
theorem cancelRequest_again
    (hOk : record.cancelRequest reason sequence now = .ok (updated, false)) :
    updated = record.raiseFloor sequence := by
  unfold cancelRequest at hOk
  split at hOk
  · cases hOk
    rfl
  · simp only [guard_eq_ok_iff] at hOk
    cases hOk.2

/- No publication changes the identity of a record. -/
theorem publishCompletion_id (record : RequestRecord) (publication : CompletionPublication)
    (now : Int64) : (record.publishCompletion publication now).2.id = record.id := by
  have hFailure : (record.commitFailure publication now).id = record.id := rfl
  have hSuccess : (record.commitSuccess publication now).id = record.id := rfl
  unfold publishCompletion
  cases record.findAttempt publication.attempt with
  | none => rfl
  | some entry =>
    simp only [apply_ite Prod.snd, apply_ite RequestRecord.id, hFailure, hSuccess, ite_self]

/- A committed publication makes a live request terminal. -/
theorem publishCompletion_retires {publication : CompletionPublication} {outcome : PublishOutcome}
    (hResult : record.publishCompletion publication now = (outcome, updated))
    (hCommitted : outcome.disposition = .committed) :
    record.lifecycle.isTerminal = false ∧
      updated.id = record.id ∧ updated.lifecycle.isTerminal = true := by
  rcases publishCompletion_cases {} hResult with ⟨hRefused, -⟩ | ⟨hSuppressed, -⟩ | ⟨-, hStep⟩
  · rw [hRefused] at hCommitted
    cases hCommitted
  · rw [hSuppressed] at hCommitted
    cases hCommitted
  · have hLive := hStep.published_live
    refine ⟨hLive.1, ?_, hLive.2⟩
    have hId := record.publishCompletion_id publication now
    rw [hResult] at hId
    exact hId

end RequestRecord

namespace RequestLedger

variable {op : LedgerOp} {id ordered : RequestId} {record updated : RequestRecord}

theorem Rewrites.agrees {limits : LedgerLimits} (hRewrites : Rewrites limits id record op updated) :
    record.Agrees updated := by
  cases hRewrites with
  | attemptRegistered _ _ _ _ _ _ _ _ hOk => exact registerAttempt_agrees hOk
  | revalidated _ _ _ _ hOk => exact revalidateRequest_agrees hOk
  | superseded _ _ _ _ _ _ hOk => exact supersedeAttempt_agrees hOk
  | modelSet _ _ _ _ hOk => exact setAttemptModel_agrees hOk
  | stageAdvanced _ _ _ _ _ _ hOk => exact advanceStage_agrees hOk
  | cancelledAgain reason sequence now _ hOk =>
    rw [cancelRequest_again hOk]
    exact record.raiseFloor_agrees sequence
  | decided attempt _ outcome => exact record.recordDecision_agrees attempt outcome

/- The identity that a retired request is listed under. -/
theorem Retires.listed (hRetires : Retires id record op ordered updated) :
    ordered = id ∨ ordered = record.id := by
  cases hRetires with
  | failed | cancelled => exact .inl rfl
  | published => exact .inr rfl

theorem Retires.terminal (hRetires : Retires id record op ordered updated) :
    updated.id = record.id ∧ updated.lifecycle.isTerminal = true := by
  cases hRetires with
  | failed _ _ _ _ _ hOk => exact failAttempt_retires hOk
  | cancelled _ _ _ _ hOk => exact (cancelRequest_retires hOk).2
  | published _ _ _ _ _ hResult hCommitted => exact (publishCompletion_retires hResult hCommitted).2

/- Only the failure of an open attempt can come again. -/
theorem Retires.live (hRetires : Retires id record op ordered updated) :
    record.lifecycle.isTerminal = false ∨
      ∃ attempt reason now,
        op = .failAttempt id attempt reason now ∧
          record.view.FailsOpenAttempt (.attemptFailed attempt reason now) := by
  cases hRetires with
  | failed attempt reason now _ _ hOk =>
    have hStep : RequestView.Step {} record.view (.attemptFailed attempt reason now) updated.view :=
      failAttempt_step hOk
    exact .inr ⟨attempt, reason, now, rfl, hStep.failsOpenAttempt⟩
  | cancelled _ _ _ _ hOk => exact .inl (cancelRequest_retires hOk).1
  | published _ _ _ _ _ hResult hCommitted =>
    exact .inl (publishCompletion_retires hResult hCommitted).1

end RequestLedger

end TrafficFabric
