import TrafficFabric.Coordinator.Cancellation

/-
  Decisions that a later change of authority should fence.

  A policy change fences the decisions minted before it,
  because the stamp of a decision carries the generation of
  the policy it was minted under. The generation of an
  applied policy follows the one its document carries, so
  the fence needs documents that do not fall behind the
  policy in force.

  A cancellation fences the decisions of a request by the
  lifecycle and the authority floor of its record. Both are
  gone once the record is evicted, so the fence needs that
  the attempt of the decision is not bound again.
-/

namespace TrafficFabric

namespace Coordinator

variable {policy : PolicyConfig} {label : Label}

/-
  A step of one boot in which no accepted document carries
  a generation below the one in force, or the largest one.
-/
def KeepsPolicyOrder (s : Coordinator) : Label → Prop
| .op (.applyPolicy policy) =>
  policy.validate = .valid →
    s.policy.generation.value ≤ policy.generation.value ∧ policy.generation ≠ .max
| .op _ => True
| .bootFresh | .reboot | .restart _ => False

/- Only an accepted document changes the policy. -/
theorem step_policy (s : Coordinator) (op : Op) :
    (s.step op).policy = s.policy ∨
      ∃ policy, op = .applyPolicy policy ∧
        policy.validate = .valid ∧ (s.step op).policy = withNextGeneration policy := by
  by_cases hOp : op.Configures
  · have hConfigured := step_configured s op hOp
    generalize s.step op = t at hConfigured ⊢
    cases hConfigured with
    | policy policy hValid => exact .inr ⟨policy, rfl, hValid, rfl⟩
    | _ => exact .inl rfl
  · exact .inl (congrArg DurableState.policy (step_durable s op hOp))

/- The next generation exceeds all up to the document. -/
theorem withNextGeneration_generation {generation : PolicyGeneration}
    (hOrder : generation.value ≤ policy.generation.value) (hBelow : policy.generation ≠ .max) :
    generation.value < (withNextGeneration policy).generation.value := by
  have hLe := UInt64.le_iff_toNat_le.mp hOrder
  change generation.value.toNat < (if policy.generation.isUnset then ⟨1⟩
      else policy.generation.next : PolicyGeneration).value.toNat
  split
  · rename_i hUnset
    rw [Generation.isUnset_iff] at hUnset
    rw [hUnset] at hLe
    change generation.value.toNat ≤ 0 at hLe
    change generation.value.toNat < 1
    omega
  · rw [Generation.toNat_next _ hBelow]
    omega

/- An accepted document moves the policy forward. -/
theorem applyPolicy_generation {s : Coordinator}
    (hAllowed : s.KeepsPolicyOrder (.op (.applyPolicy policy)))
    (hApplied : (s.applyPolicy policy).1.isOk = true) :
    s.policy.generation.value < (s.step (.applyPolicy policy)).policy.generation.value := by
  have hValid : policy.validate = .valid := by
    by_contra hInvalid
    simp [applyPolicy, hInvalid] at hApplied
  rcases hAllowed hValid with ⟨hOrder, hBelow⟩
  have hPolicy : (s.step (.applyPolicy policy)).policy = withNextGeneration policy := by
    simp [step, applyPolicy, hValid]
  rw [hPolicy]
  exact withNextGeneration_generation hOrder hBelow

/- The generation of the policy never falls. -/
theorem generation_le_of_keepsPolicyOrder {mt : Generator} {s t : Coordinator}
    (hStep : Guarded KeepsPolicyOrder (Transition mt) s label t) :
    s.policy.generation.value ≤ t.policy.generation.value := by
  rcases hStep with ⟨hAllowed, hTransition⟩
  cases hTransition with
  | op op =>
    rcases step_policy s op with hSame | ⟨policy, rfl, hValid, hPolicy⟩
    · rw [hSame]
      exact UInt64.le_refl _
    · rcases hAllowed hValid with ⟨hOrder, hBelow⟩
      rw [hPolicy]
      exact UInt64.le_of_lt (withNextGeneration_generation hOrder hBelow)
  | _ => exact hAllowed.elim

theorem run_generation_le {mt : Generator} {s t : Coordinator} {labels : List Label}
    (hRun : Run (Guarded KeepsPolicyOrder (Transition mt)) s labels t) :
    s.policy.generation.value ≤ t.policy.generation.value := by
  apply hRun.invariant (fun state => s.policy.generation.value ≤ state.policy.generation.value)
  · intro state label next hStep hSoFar
    exact UInt64.le_trans hSoFar (generation_le_of_keepsPolicyOrder hStep)
  · exact UInt64.le_refl _

/-
  In a run of one boot whose documents do not fall behind,
  an accepted document raises the generation, and nothing
  decided before it validates after it.
-/
theorem policy_change_fences (mt : Generator) (s t u : Coordinator) (before after : List Label)
    (policy : PolicyConfig) (hBefore : Run (Guarded KeepsPolicyOrder (Transition mt)) s before t)
    (hAllowed : t.KeepsPolicyOrder (.op (.applyPolicy policy)))
    (hApplied : (t.applyPolicy policy).1.isOk = true)
    (hAfter :
      Run (Guarded KeepsPolicyOrder (Transition mt)) (t.step (.applyPolicy policy)) after u) :
    t.policy.generation.value < (t.step (.applyPolicy policy)).policy.generation.value ∧
      ∀ request now victim,
        (u.validateDecision
          (s.evaluate request now victim).1).isOk = false := by
  have hRaised := applyPolicy_generation hAllowed hApplied
  refine ⟨hRaised, ?_⟩
  intro request now victim
  have hLess := UInt64.lt_of_lt_of_le (UInt64.lt_of_le_of_lt (run_generation_le hBefore) hRaised)
      (run_generation_le hAfter)
  by_contra hOk
  rw [Bool.not_eq_false, Result.isOk_iff_exists] at hOk
  rcases hOk with ⟨value, hValid⟩
  have hStamp := (validateDecision_eq_ok_iff.mp hValid).1.policy
  rw [evaluate_authority] at hStamp
  have hSame : s.policy.generation = u.policy.generation := hStamp
  rw [hSame] at hLess
  exact UInt64.lt_irrefl _ hLess

theorem policy_change_fences_renewed :
    let s := sampleStart.steps ingressOps
    let policy := PolicyConfig.canonicalDefaults ⟨1⟩
    (s.validateDecision (s.evaluate ingressTraffic 5 0).1).isOk = true ∧
      ((s.step (.applyPolicy policy)).validateDecision
        (s.evaluate ingressTraffic 5 0).1).isOk = false := by
  intro s policy
  refine ⟨by decide, ?_⟩
  exact (policy_change_fences sampleGenerator s s
    (s.step (.applyPolicy policy)) [] [] policy (.nil s)
    (fun _ => by decide) (by decide) (.nil _)).2 ingressTraffic 5 0

/-
  A document without a generation of its own is applied as
  the first generation, so a coordinator at its first
  policy stays there and the decisions made under the old
  rules still validate.
-/
theorem policy_reapplied_unfenced :
    let s := sampleStart.steps ingressOps
    let policy := PolicyConfig.canonicalDefaults .unset
    Reachable sampleGenerator {} s ∧
      (s.applyPolicy policy).1.isOk = true ∧
      (s.step (.applyPolicy policy)).policy.generation = s.policy.generation ∧
      ((s.step (.applyPolicy policy)).validateDecision
        (s.evaluate ingressTraffic 5 0).1).isOk = true := by
  intro s policy
  exact ⟨sampleStart_reachable ingressOps, by decide, by decide, by decide⟩

---
-- Cancellation And Retention
---

/-
  A step of one boot that does not bind the attempt to the
  request while the request is retained and not terminal.
-/
def KeepsUnbound (id : RequestId) (attempt : AttemptId) (s : Coordinator) : Label → Prop
| .op op =>
  ∀ event, op.event s = some (id, event) →
    event.bound = some attempt →
    ∀ view, s.ledger.view id = some view → view.lifecycle.isTerminal = true
| .bootFresh | .reboot | .restart _ => False

/- No live record of the request is bound to the attempt. -/
def Unbound (id : RequestId) (attempt : AttemptId) (s : Coordinator) : Prop :=
  ∀ view, s.ledger.view id = some view → view.lifecycle.isTerminal = true ∨ ¬ view.IsCurrent attempt

variable {mt : Generator} {s t : Coordinator} {id : RequestId} {attempt : AttemptId}

theorem cancelRequest_unbound {reason : ReasonCode} {now : Int64}
    (hCancelled : (s.cancelRequest id reason now).1.isOk = true) :
    Unbound id attempt (s.step (.cancelRequest id reason now)) := by
  rcases cancelRequest_view hCancelled with ⟨record, next, -, -, hDone, hAfter⟩
  intro view hView
  rw [hAfter view hView, hDone]
  exact .inl rfl

/- Evolving a request binds only what the event binds. -/
theorem step_unbound {limits : LedgerLimits} {view next : RequestView} {event : RequestEvent}
    (hStep : RequestView.Step limits view event next)
    (hEvent : event.bound = some attempt → view.lifecycle.isTerminal = true)
    (hUnbound : view.lifecycle.isTerminal = true ∨ ¬ view.IsCurrent attempt) :
    next.lifecycle.isTerminal = true ∨ ¬ next.IsCurrent attempt := by
  by_cases hTerminal : view.lifecycle.isTerminal = true
  · exact .inl (hStep.terminal hTerminal)
  · refine .inr ?_
    rintro ⟨hSet, hCurrent⟩
    rw [hStep.currentAttempt_eq] at hSet hCurrent
    cases hBound : event.bound with
    | none =>
      rw [hBound] at hSet hCurrent
      exact (hUnbound.resolve_left hTerminal) ⟨hSet, hCurrent⟩
    | some bound =>
      rw [hBound] at hCurrent
      have hSame : bound = attempt := hCurrent
      rw [hSame] at hBound
      exact hTerminal (hEvent hBound)

theorem Unbound.step (hUnbound : Unbound id attempt s)
    (hStep : Guarded (KeepsUnbound id attempt) (Transition mt) s label t) :
    Unbound id attempt t := by
  rcases hStep with ⟨hAllowed, hTransition⟩
  cases hTransition with
  | op op =>
    have hChange := step_viewChange s op id
    intro view hView
    rw [hView] at hChange
    generalize hBefore : s.ledger.view id = before at hChange
    cases hChange with
    | same => exact hUnbound view hBefore
    | registered now hLabel =>
      refine .inr ?_
      rintro ⟨hSet, -⟩
      exact hSet rfl
    | evolved old _ moved event hLabel hEvent hEvolved =>
      cases hLabel
      exact step_unbound hEvolved (fun hBound => hAllowed event hEvent hBound old hBefore)
        (hUnbound old hBefore)
    | restored old hLabel => exact (hLabel op rfl).elim
  | _ => exact hAllowed.elim

theorem Unbound.openFlow {decision : Decision}
    (hUnbound : Unbound decision.subject.request decision.subject.attempt s)
    (hKind : decision.subject.kind = .serving) (declaredBytes : UInt64) (now : Int64) :
    (s.openFlow decision declaredBytes now).1.isOk = false := by
  by_contra hOk
  rw [Bool.not_eq_false] at hOk
  rcases openFlow_serving hKind hOk with ⟨record, entry, hUse, -, -⟩
  have hView := RequestLedger.view_of_lookup hUse.retained
  rcases hUnbound record.view hView with hDone | hOther
  · rw [RequestRecord.view_lifecycle, hUse.live] at hDone
    cases hDone
  · exact hOther (record.isCurrentAttempt_iff _ |>.mp hUse.current)

/-
  A decision made for a request, in whichever state, opens
  no flow in the rest of the boot once the request was
  cancelled, as long as its attempt is not bound again to
  the request.
-/
theorem cancellation_outlives_record (mt : Generator) (s t u : Coordinator)
    (after : List Label) (request : TrafficRequest) (subject : TrafficSubject)
    (decided cancelledAt : Int64) (victim : Nat) (reason : ReasonCode)
    (hSubject : request.subject = some subject) (hKind : subject.kind = .serving)
    (hCancelled : (t.cancelRequest subject.request reason cancelledAt).1.isOk = true)
    (hAfter :
      Run (Guarded (KeepsUnbound subject.request subject.attempt) (Transition mt))
        (t.step (.cancelRequest subject.request reason cancelledAt)) after u)
    (declaredBytes : UInt64) (now : Int64) :
    (u.openFlow (s.evaluate request decided victim).1 declaredBytes now).1.isOk = false := by
  have hDecided : (s.evaluate request decided victim).1.subject = subject := by
    rw [evaluate_subject, hSubject]
    rfl
  have hUnbound := hAfter.invariant (Unbound subject.request subject.attempt)
      (fun _ _ _ hStep hHeld => hHeld.step hStep) (cancelRequest_unbound hCancelled)
  rw [← hDecided] at hUnbound hKind
  exact hUnbound.openFlow hKind declaredBytes now

def retainingStart : Coordinator :=
  ((create { limits := { ledger := { maxRetainedTerminalRequests := 1 } } }
    1).bootFresh sampleGenerator).2

/- Another request is cancelled, which evicts the first. -/
def evictingOps : List Op :=
  [ .registerRequest ⟨0, 3⟩ 11, .cancelRequest ⟨0, 3⟩ .cancelled 12, .registerRequest ⟨0, 1⟩ 13 ]

theorem cancellation_outlives_record_evicted :
    let s := retainingStart.steps ingressOps
    let t := s.step (.cancelRequest ⟨0, 1⟩ .cancelled 10)
    let u := t.steps evictingOps
    u.ledger.contains ⟨0, 1⟩ = true ∧
      (u.openFlow (s.evaluate ingressTraffic 5 0).1 64 20).1.isOk = false := by
  intro s t u
  refine ⟨by decide, ?_⟩
  exact cancellation_outlives_record sampleGenerator s s u
    (evictingOps.map Label.op) ingressTraffic _ 5 10 0 .cancelled rfl rfl (by decide)
    (.cons ⟨(by rintro event ⟨⟩), .op _ _⟩
      (.cons ⟨(by rintro event ⟨⟩ ⟨⟩), .op _ _⟩ (.cons ⟨(by rintro event ⟨⟩), .op _ _⟩ (.nil _))))
    64 20

/-
  Once the record of a cancelled request is evicted, the
  request and its attempt can be registered again with the
  same identities, and the decision made before the
  cancellation opens a flow.
-/
theorem evicted_cancellation_forgotten :
    let s := retainingStart.steps ingressOps
    let t := s.step (.cancelRequest ⟨0, 1⟩ .cancelled 10)
    let u := (t.steps evictingOps).step (.registerAttempt ⟨0, 1⟩ ⟨0, 2⟩ 0 14)
    (s.cancelRequest ⟨0, 1⟩ .cancelled 10).1.isOk = true ∧
      u.policy.generation = s.policy.generation ∧
      (u.openFlow (s.evaluate ingressTraffic 5 0).1 64 20).1.isOk = true := by
  intro s t u
  exact ⟨by decide, by decide, by decide⟩

end Coordinator

end TrafficFabric
