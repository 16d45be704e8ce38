import TrafficFabric.Coordinator.DecisionCounts

/-
  The stamps of the decisions that one boot mints. No
  operation takes the sequence back.
-/

namespace TrafficFabric

namespace Coordinator

variable {s t : Coordinator}

theorem sequence_of_releases (hReleases : Releases (fun _ => True) s t) :
    t.authoritySequence = s.authoritySequence := by
  induction hReleases with
  | refl => rfl
  | tail _ hRelease ih =>
    cases hRelease with
    | released =>
      rw [releaseFlowLocked_eq]
      exact ih
    | _ => exact ih

variable (s) (request : TrafficRequest) (now : Int64) (victim : Nat)

theorem releaseRequestFlows_sequence (id : RequestId) :
    (s.releaseRequestFlows id).authoritySequence = s.authoritySequence :=
  sequence_of_releases (releaseRequestFlows_releases s id (fun _ _ => trivial))

theorem openFlow_sequence (decision : Decision) (bytes : UInt64) :
    (s.openFlow decision bytes now).2.authoritySequence = s.authoritySequence := by
  have hOpening := openFlow_opening s decision bytes now
  generalize s.openFlow decision bytes now = answer at hOpening ⊢
  cases hOpening with
  | _ => rfl

theorem evaluate_sequence :
    (s.evaluate request now victim).2.authoritySequence = s.nextSequence := by
  rcases evaluate_built s request now victim with ⟨w, traffic, hBuilt, -⟩
  rw [hBuilt]
  unfold recordDecision
  split
  · rfl
  · rfl

/- A transfer is evaluated, unless none is named. -/
theorem authorizeTransfer_sequence :
    ((s.authorizeTransfer request now victim).2.authoritySequence = s.authoritySequence ∧
        (Op.authorizeTransfer request now victim).evaluation = none) ∨
      (s.authorizeTransfer request now victim).2.authoritySequence = s.nextSequence := by
  have hAuthorizing := authorizeTransfer_authorizing s request now victim
  generalize s.authorizeTransfer request now victim = answer at hAuthorizing ⊢
  have hAsked := evaluate_sequence s request now victim
  cases hAuthorizing with
  | misaddressed _ hOther =>
    left
    cases hSubject : request.subject with
    | none => simp [Op.evaluation, hSubject]
    | some subject => simp [Op.evaluation, hSubject, hOther subject hSubject]
  | denied =>
    right
    exact (sequence_of_releases (closeTransfer_releases _ trivial .refused _ rfl)).trans hAsked
  | granted => exact .inr ((openFlow_sequence _ now _ _).trans hAsked)
  | _ => exact .inr hAsked

/- What is not an evaluation keeps the sequence or moves it. -/
theorem step_sequence_of_none {op : Op} (hNone : op.evaluation = none) :
    (s.step op).authoritySequence = s.authoritySequence ∨
      (s.step op).authoritySequence = s.nextSequence := by
  have hOutcome := step_outcome s op
  generalize s.step op = t at hOutcome ⊢
  cases hOutcome with
  | configured _ _ _ hConfigured =>
    cases hConfigured with
    | _ => exact .inl rfl
  | cancelled id => exact .inr (releaseRequestFlows_sequence _ id)
  | cancelRefused => exact .inr rfl
  | failed id | replaced id => exact .inl (releaseRequestFlows_sequence _ id)
  | published publication =>
    rw [retainCompletion_eq]
    exact .inl (releaseRequestFlows_sequence _ publication.request)
  | registered _ _ _ _ hCheck =>
    unfold registerTransfer
    rw [hCheck]
    exact .inl rfl
  | authorizing request now victim =>
    exact (authorizeTransfer_sequence s request now victim).imp_left And.left
  | completing id bytes =>
    left
    apply sequence_of_releases
    exact (completeTransfer_completing s id bytes).releases trivial
  | abandoned => exact .inl (sequence_of_releases (closeTransfer_releases s trivial _ _ rfl))
  | evaluated => cases hNone
  | opening decision bytes now => exact .inl (openFlow_sequence s now decision bytes)
  | released id flow hFlow =>
    exact .inl (sequence_of_releases (.single (.released s id flow hFlow)))
  | _ => exact .inl rfl

theorem step_sequence_of_some {op : Op} (hSome : op.evaluation = some (request, now, victim)) :
    (s.step op).authoritySequence = s.nextSequence := by
  cases op with
  | evaluate => exact evaluate_sequence s _ _ _
  | authorizeTransfer asked moment turn =>
    refine (authorizeTransfer_sequence s asked moment turn).resolve_left ?_
    rw [hSome]
    simp
  | _ => cases hSome

/-
  As long as the sequence does not wrap around, the decisions
  of a run are stamped in strictly increasing order, above
  every stamp from before: no stamp of a boot is used twice.
-/
theorem decision_stamps_increase (s : Coordinator) (ops : List Op)
    (hRoom : s.authoritySequence.value.toNat + ops.length < UInt64.size) :
    (s.authoritySequence.value.toNat ::
      (s.decisions ops).map (·.authority.sequence.value.toNat)).Pairwise (· < ·) := by
  induction ops generalizing s with
  | nil => exact List.pairwise_singleton _ _
  | cons op rest ih =>
    rw [List.length_cons] at hRoom
    have hNext : s.nextSequence.value.toNat = s.authoritySequence.value.toNat + 1 := by
      apply Generation.toNat_after
      intro hMax
      rw [hMax] at hRoom
      change 18446744073709551615 + _ < 18446744073709551616 at hRoom
      omega
    have hRest := ih (s.step op)
    unfold decisions
    cases hAsks : op.evaluation with
    | none =>
      rcases step_sequence_of_none s hAsks with hSame | hMoved
      · rw [hSame] at hRest
        exact hRest (by omega)
      · rw [hMoved, hNext] at hRest
        have hLater := List.pairwise_cons.mp (hRest (by omega))
        exact List.pairwise_cons.mpr ⟨fun _ hStamp => Nat.lt_of_succ_lt (hLater.1 _ hStamp),
          hLater.2⟩
    | some asked =>
      rcases asked with ⟨request, now, victim⟩
      rw [step_sequence_of_some s _ _ _ hAsks] at hRest
      have hLater := hRest (by omega)
      simp only [List.map_cons, evaluate_authority]
      refine List.pairwise_cons.mpr ⟨fun stamp hStamp => ?_, hLater⟩
      have hAbove := (List.pairwise_cons.mp hLater).1 stamp
      rcases List.mem_cons.mp hStamp with rfl | hMem
      · exact hNext ▸ Nat.lt_succ_self _
      · have hFurther := hAbove hMem
        omega

theorem decision_stamps_increase_ingress :
    ((sampleStart.decisions (ingressOps ++ [.evaluate ingressTraffic 6 0,
      .evaluate ingressTraffic 7 0])).map (·.authority.sequence.value.toNat)).Pairwise (· < ·) :=
  (decision_stamps_increase sampleStart _ (by decide)).of_cons

end Coordinator

end TrafficFabric
