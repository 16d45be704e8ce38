import TrafficFabric.Coordinator.Frames

/-
  The side tables of the coordinator: deferrals, contracts
  and route decisions. Each is written by a few operations
  and left alone by the others.
-/

namespace TrafficFabric

namespace Coordinator

variable (s : Coordinator)

/- An evaluation writes the deferral table alone. -/
theorem evaluate_docket (request : TrafficRequest) (now : Int64) (victim : Nat) :
    (s.evaluate request now victim).2.docket = { s.docket with
        waiting := (s.evaluate request now victim).2.waiting } := by
  rcases evaluate_frame s request now victim with ⟨sequence, ledger, accounting, hFrame⟩
  rw [hFrame]
  rfl

end Coordinator

---
-- Operations
---

namespace Coordinator

variable (s : Coordinator)
variable (op : Op)

/- The docket an operation leaves behind. -/
def docketAfter (s : Coordinator) (op : Op) : Docket :=
  match op with
  | .registerSloContract request tail deadline share =>
    { s.docket with
      sloContracts := (s.registerSloContract request tail deadline share).2.sloContracts }
  | .issueRouteDecision request attempt node lateral handoff =>
    { s.docket with
      routeDecisions :=
        (s.issueRouteDecision request attempt node lateral handoff).2.routeDecisions }
  | .replaceAttempt request old new hash now =>
    { s.docket with
      routeDecisions :=
        match (s.replaceAttempt request old new hash now).1 with
        | .error _ => s.routeDecisions
        | .ok _ => s.routeDecisions.erase old }
  | op =>
    match op.evaluation with
    | none => s.docket
    | some (request, now, victim) => (s.evaluate request now victim).2.docket

theorem docket_asked (hNotes : ¬ op.Notes) : (s.step op).docket = (s.asked op).docket :=
  (s.step_settling op).docket.resolve_left hNotes

theorem step_docket : (s.step op).docket = s.docketAfter op := by
  cases op with
  | registerSloContract request tail deadline share =>
    simp only [step, docketAfter, registerSloContract]
    split_ifs
    all_goals rfl
  | issueRouteDecision request attempt node lateral handoff =>
    simp only [step, docketAfter, issueRouteDecision]
    split
    · rfl
    · split_ifs
      all_goals rfl
  | replaceAttempt request old new hash now =>
    have hReleased (base : Coordinator) : (base.releaseRequestFlows request).docket = base.docket :=
      (releaseRequestFlows_settling s (.releaseFlow .nil) base request).docket.resolve_left id
    simp only [step, docketAfter, replaceAttempt]
    cases s.resolveModel hash with
    | error status => rfl
    | ok model =>
      cases (s.ledger.supersedeAttempt request old new now).1 with
      | error status => rfl
      | ok generation =>
        exact congrArg (fun docket : Docket => { docket with
            routeDecisions := docket.routeDecisions.erase old })
          (hReleased _)
  | authorizeTransfer request now victim =>
    rw [docket_asked s _ id]
    simp only [asked, docketAfter]
    cases (Op.authorizeTransfer request now victim).evaluation with
    | _ => rfl
  | _ => exact docket_asked s _ id

/- Only evaluations write the deferral table. -/
theorem step_waiting :
    (s.step op).waiting = match op.evaluation with
      | none => s.waiting
      | some (request, now, victim) => (s.evaluate request now victim).2.waiting := by
  have hDocket := congrArg Docket.waiting (step_docket s op)
  cases op with
  | evaluate request now victim => exact hDocket
  | authorizeTransfer request now victim =>
    simp only [docketAfter, Op.evaluation] at hDocket ⊢
    by_cases hKind : request.subject.any (fun subject => subject.kind = .transfer) = true
    · simp only [hKind, if_true] at hDocket ⊢
      exact hDocket
    · simp only [hKind, Bool.false_eq_true, if_false] at hDocket ⊢
      exact hDocket
  | _ => exact hDocket

/- Only a registration writes the contracts. -/
theorem step_sloContracts :
    (s.step op).sloContracts = s.sloContracts ∨
      ∃ request tail deadline share,
        op = .registerSloContract request tail deadline share := by
  have hDocket := congrArg Docket.sloContracts (step_docket s op)
  cases op with
  | registerSloContract request tail deadline share =>
    exact .inr ⟨request, tail, deadline, share, rfl⟩
  | evaluate request now victim =>
    refine .inl (hDocket.trans ?_)
    exact congrArg Docket.sloContracts (evaluate_docket s request now victim)
  | authorizeTransfer request now victim =>
    refine .inl (hDocket.trans ?_)
    simp only [docketAfter]
    split
    · rfl
    · exact congrArg Docket.sloContracts (evaluate_docket s _ _ _)
  | _ => exact .inl hDocket

theorem step_routeDecisions :
    (s.step op).routeDecisions = s.routeDecisions ∨
      (∃ request attempt node lateral handoff,
        op = .issueRouteDecision request attempt node lateral handoff) ∨
      ∃ request old new hash now,
        op = .replaceAttempt request old new hash now ∧
          (s.replaceAttempt request old new hash now).1.isOk = true ∧
          (s.step op).routeDecisions = s.routeDecisions.erase old := by
  have hDocket := congrArg Docket.routeDecisions (step_docket s op)
  cases op with
  | issueRouteDecision request attempt node lateral handoff =>
    exact .inr (.inl ⟨request, attempt, node, lateral, handoff, rfl⟩)
  | replaceAttempt request old new hash now =>
    simp only [docketAfter] at hDocket
    split at hDocket
    · exact .inl hDocket
    · rename_i hOk
      exact .inr (.inr ⟨request, old, new, hash, now, rfl, by rw [hOk]; rfl, hDocket⟩)
  | evaluate request now victim =>
    refine .inl (hDocket.trans ?_)
    exact congrArg Docket.routeDecisions (evaluate_docket s request now victim)
  | authorizeTransfer request now victim =>
    refine .inl (hDocket.trans ?_)
    simp only [docketAfter]
    split
    · rfl
    · exact congrArg Docket.routeDecisions (evaluate_docket s _ _ _)
  | _ => exact .inl hDocket

end Coordinator

/- What a boot leaves of the docket. -/
def Docket.empty : Docket where
  waiting := .empty
  sloContracts := ∅
  routeDecisions := ∅

namespace Coordinator

variable {mt : Generator} {s t : Coordinator} {label : Label}

theorem Booted.docket (hBooted : Booted mt s) : s.docket = .empty := by
  rcases hBooted.volatile with ⟨base, hSame⟩
  exact (congrArg Coordinator.docket hSame :)

theorem Transition.docket (hTransition : Transition mt s label t) :
    t.docket = .empty ∨ ∃ op, label = .op op ∧ t = s.step op :=
  hTransition.booted_or_step.imp_left Booted.docket

end Coordinator

end TrafficFabric
