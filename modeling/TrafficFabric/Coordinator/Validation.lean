import TrafficFabric.Coordinator.Outcomes
import TrafficFabric.Coordinator.Waiting

/-
  What a decision is checked for when it is used to open a
  flow, stated without the order of the checks.
-/

namespace TrafficFabric

namespace Coordinator

/- The stamp names the authority in force. -/
structure StampCurrent (s : Coordinator) (stamp : AuthorityStamp) : Prop where
  epochSet : stamp.epoch ≠ .unset
  incarnationSet : stamp.incarnation ≠ .nil
  epoch : stamp.epoch = s.epoch
  incarnation : stamp.incarnation = s.incarnation
  policy : stamp.policy = s.policy.generation
  sequence : stamp.sequence ≠ .unset

/- A serving subject may use a decision. -/
structure ServingUse (s : Coordinator) (subject : TrafficSubject) (sequence : AuthoritySequence)
    (record : RequestRecord) : Prop where
  retained : s.ledger.snapshotRequest subject.request = some record
  live : record.lifecycle.isTerminal = false
  valid : record.requiresRevalidation = false
  current : record.isCurrentAttempt subject.attempt = true
  floor : belowFloor record sequence = false

/- A transfer subject may use a decision. -/
structure TransferUse (s : Coordinator) (subject : TrafficSubject)
    (transfer : TransferRecord) : Prop where
  retained : s.transfers.lookup subject.transfer = some transfer
  live : transfer.state.isTerminal = false
  model : transfer.modelHash ≠ 0 → s.ModelCurrent transfer.modelHash transfer.modelGeneration
  state : s.StateCurrent transfer.stateHash transfer.stateGeneration

/- A subject of unknown kind is not checked at all. -/
def SubjectUse (s : Coordinator) (subject : TrafficSubject) (sequence : AuthoritySequence) : Prop :=
  match subject.kind with
  | .serving => ∃ record, s.ServingUse subject sequence record
  | .transfer => ∃ transfer, s.TransferUse subject transfer
  | .unknown => True

---
-- Validation
---

variable {s : Coordinator} {subject : TrafficSubject} {decision : Decision}
variable {sequence : AuthoritySequence}
variable (transfer : TransferRecord)

theorem checkStamp_eq_ok_iff (s : Coordinator) (stamp : AuthorityStamp) :
    s.checkStamp stamp = .ok () ↔ s.StampCurrent stamp := by
  have hVerdict :
      s.checkStamp stamp = .ok () ↔
        validateAuthority stamp s.epoch s.incarnation s.policy.generation = .current := by
    unfold checkStamp
    split
    all_goals simp_all
  rw [hVerdict, validateAuthority_eq_current_iff]
  constructor
  · rintro ⟨hSet, hBoot, hEpoch, hIncarnation, hPolicy, hSequence⟩
    exact ⟨hSet, hBoot, hEpoch, hIncarnation, hPolicy, hSequence⟩
  · rintro ⟨hSet, hBoot, hEpoch, hIncarnation, hPolicy, hSequence⟩
    exact ⟨hSet, hBoot, hEpoch, hIncarnation, hPolicy, hSequence⟩

theorem checkServingDecision_eq_ok_iff :
    s.checkServingDecision subject sequence = .ok () ↔
      ∃ record, s.ServingUse subject sequence record := by
  unfold checkServingDecision
  cases hRecord : s.ledger.snapshotRequest subject.request with
  | none =>
    constructor
    · intro hOk
      cases hOk
    · rintro ⟨record, hUse⟩
      rw [hUse.retained] at hRecord
      cases hRecord
  | some record =>
    simp only [Result.guard_eq_ok_iff, Bool.not_eq_true', Bool.not_eq_true, Bool.not_eq_false]
    constructor
    · rintro ⟨-, hValid, hLive, hCurrent, hFloor, -⟩
      exact ⟨record, hRecord, hLive, hValid, hCurrent, hFloor⟩
    · rintro ⟨held, hHeld, hLive, hValid, hCurrent, hFloor⟩
      rw [hRecord] at hHeld
      cases hHeld
      refine ⟨?_, hValid, hLive, hCurrent, hFloor, trivial⟩
      intro hCancelled
      rw [hCancelled] at hLive
      cases hLive

theorem checkDecisionModel_eq_ok_iff :
    s.checkDecisionModel transfer = .ok () ↔
      (transfer.modelHash ≠ 0 → s.ModelCurrent transfer.modelHash transfer.modelGeneration) := by
  unfold checkDecisionModel ModelCurrent
  rw [← requireGeneration_eq_ok_iff "model"]
  by_cases hNone : transfer.modelHash = 0
  · simp [hNone]
  · cases hModel : s.requireModelGeneration transfer.modelHash with
    | error | ok =>
      unfold requireModelGeneration at hModel
      simp [hNone, hModel]

theorem checkDecisionState_eq_ok_iff :
    s.checkDecisionState transfer = .ok () ↔
      s.StateCurrent transfer.stateHash transfer.stateGeneration := by
  unfold checkDecisionState StateCurrent
  rw [← requireGeneration_eq_ok_iff "state"]
  cases hState : s.requireStateGeneration transfer.stateHash with
  | error | ok =>
    unfold requireStateGeneration at hState
    simp [hState]

theorem checkTransferDecision_eq_ok_iff :
    s.checkTransferDecision subject = .ok () ↔ ∃ transfer, s.TransferUse subject transfer := by
  unfold checkTransferDecision
  cases hHeld : s.transfers.lookup subject.transfer with
  | none =>
    constructor
    · intro hOk
      cases hOk
    · rintro ⟨transfer, hUse⟩
      rw [hUse.retained] at hHeld
      cases hHeld
  | some transfer =>
    simp only [Result.guard_eq_ok_iff, Except.check_bind_eq_ok_iff, checkDecisionModel_eq_ok_iff,
      checkDecisionState_eq_ok_iff, Bool.not_eq_true]
    constructor
    · rintro ⟨hLive, hModel, hState⟩
      exact ⟨transfer, hHeld, hLive, hModel, hState⟩
    · rintro ⟨held, hRetained, hLive, hModel, hState⟩
      rw [hHeld] at hRetained
      cases hRetained
      exact ⟨hLive, hModel, hState⟩

/- Everything a decision is checked for at its use. -/
theorem validateDecision_eq_ok_iff :
    s.validateDecision decision = .ok () ↔
      s.StampCurrent decision.authority ∧
        decision.permitsTraffic = true ∧
        s.SubjectUse decision.subject decision.authority.sequence := by
  unfold validateDecision SubjectUse
  simp only [Except.check_bind_eq_ok_iff, checkStamp_eq_ok_iff, Result.guard_eq_ok_iff,
    Bool.not_eq_true', Bool.not_eq_false]
  cases decision.subject.kind with
  | serving => rw [checkServingDecision_eq_ok_iff]
  | transfer => rw [checkTransferDecision_eq_ok_iff]
  | unknown => simp

variable {declaredBytes : UInt64} {now : Int64}

theorem openFlow_use (hOk : (s.openFlow decision declaredBytes now).1.isOk = true) :
    s.StampCurrent decision.authority ∧
      decision.permitsTraffic = true ∧
      s.SubjectUse decision.subject decision.authority.sequence := by
  rw [← validateDecision_eq_ok_iff]
  have hOpening := openFlow_opening s decision declaredBytes now
  generalize s.openFlow decision declaredBytes now = answer at hOpening hOk
  cases hOpening with
  | refused => cases hOk
  | served _ hClears | found _ hClears | carried _ hClears => exact hClears.valid

/- An opened serving flow also passed the ledger. -/
theorem openFlow_serving (hKind : decision.subject.kind = .serving)
    (hOk : (s.openFlow decision declaredBytes now).1.isOk = true) :
    ∃ record entry,
      s.ServingUse decision.subject decision.authority.sequence record ∧
        record.findAttempt decision.subject.attempt = some entry ∧
        entry.lifecycle.isTerminal = false := by
  have hUse := (openFlow_use hOk).2.2
  unfold SubjectUse at hUse
  rw [hKind] at hUse
  rcases hUse with ⟨record, hUse⟩
  refine ⟨record, ?_⟩
  have hOpening := openFlow_opening s decision declaredBytes now
  generalize s.openFlow decision declaredBytes now = answer at hOpening hOk
  cases hOpening with
  | refused => cases hOk
  | served id _ _ hAsked =>
    rcases askLedger_ok hAsked with ⟨-, -, held, entry, hHeld, hOpens⟩
    rw [show s.ledger.requests.lookup _ = some record from hUse.retained] at hHeld
    cases hHeld
    exact ⟨entry, hUse, hOpens.found, hOpens.running⟩
  | found _ _ hOther | carried _ _ hOther => exact (hOther hKind).elim

/- A decision is stamped with the next sequence. -/
theorem evaluate_authority (s : Coordinator) (request : TrafficRequest) (now : Int64)
    (victim : Nat) : (s.evaluate request now victim).1.authority = s.advanceSequence.authority := by
  rcases evaluate_built s request now victim with ⟨w, traffic, -, hStamped, -⟩
  exact hStamped

end Coordinator

end TrafficFabric
