import TrafficFabric.Coordinator.Histories
import TrafficFabric.Coordinator.Occupancy

/-
  Whose route an evaluation relies on.

  Routes are stored under the identity of the attempt alone,
  which requests choose for themselves. A route is that of
  the request in runs that keep the identities apart: an
  attempt is bound while no route is stored under it, and
  routed while no other request retains one of its name.
-/

namespace Run

variable {S A : Type} {step : S → A → S → Prop} {start s : S} {as : List A}

/- An invariant may speak of the labels of the run so far. -/
theorem invariant_history (P : List A → S → Prop)
    (hKeep :
      ∀ before s a t, Run step start before s → step s a t → P before s → P (before ++ [a]) t)
    (hRun : Run step start as s) (hStart : P [] start) : P as s := by
  have hFrom {t u : S} {later : List A} (hLater : Run step t later u) (before : List A)
      (hBefore : Run step start before t) (hHolds : P before t) : P (before ++ later) u := by
    induction hLater generalizing before with
    | nil =>
      rw [List.append_nil]
      exact hHolds
    | cons hStep _ ih =>
      rw [List.append_cons]
      exact ih _ (hBefore.append (.single hStep)) (hKeep _ _ _ _ hBefore hStep hHolds)
  exact hFrom hRun [] (.nil start) hStart

end Run

namespace TrafficFabric

/- The operation binds the attempt to the request. -/
def Op.Binds (s : Coordinator) (request : RequestId) (attempt : AttemptId) (op : Op) : Prop :=
  ∃ event view next,
    op.event s = some (request, event) ∧
      event.bound = some attempt ∧ s.ledger.view request = some view ∧
      RequestView.Step s.ledger.limits view event next

namespace Coordinator

variable {mt : Generator} {s t start : Coordinator} {op : Op} {label : Label}
variable {request : RequestId} {attempt : AttemptId} {route : RouteDecision} {labels : List Label}

/- Identities of attempts are kept apart. -/
def RoutesApart (s : Coordinator) (label : Label) : Prop :=
  ∀ op, label = .op op →
    (∀ request attempt, op.Binds s request attempt → s.routeDecisions.lookup attempt = none) ∧
      ∀ request attempt node lateral handoff,
        op = .issueRouteDecision request attempt node lateral handoff →
        ∀ other, s.Retains other attempt → other = request

/- The request goes on with the attempt it has. -/
def GoesOn (request : RequestId) (attempt : AttemptId) (s : Coordinator) (label : Label) : Prop :=
  s.Retains request attempt ∧ ∀ op, label = .op op → ¬ op.Binds s request attempt

/-
  The run has issued the route for the attempt, which the
  request has been going on with ever since.
-/
def IssuedSince (mt : Generator) (start : Coordinator) (request : RequestId)
    (attempt : AttemptId) (route : RouteDecision) (labels : List Label) (s : Coordinator) : Prop :=
  ∃ before u node lateral handoff after,
    let issue := Op.issueRouteDecision request attempt node lateral handoff
    labels = before ++ .op issue :: after ∧
      Run (Transition mt) start before u ∧
      (u.issueRouteDecision request attempt node lateral handoff).1 = .ok route ∧
      Run (Guarded (GoesOn request attempt) (Transition mt)) (u.step issue) after s

theorem IssuedSince.next (hIssued : IssuedSince mt start request attempt route labels s)
    (hGoes : GoesOn request attempt s label) (hStep : Transition mt s label t) :
    IssuedSince mt start request attempt route (labels ++ [label]) t := by
  rcases hIssued with ⟨before, u, node, lateral, handoff, after, rfl, hBefore, hOk, hAfter⟩
  refine ⟨before, u, node, lateral, handoff, after ++ [label], ?_, hBefore, hOk, ?_⟩
  · rw [List.append_assoc, List.cons_append]
  · exact hAfter.append (.single ⟨hGoes, hStep⟩)

theorem IssuedSince.names (hIssued : IssuedSince mt start request attempt route labels s) :
    route.request = request ∧ route.attempt = attempt := by
  rcases hIssued with ⟨-, u, node, lateral, handoff, -, -, -, hOk, -⟩
  rcases issueRouteDecision_cases u request attempt node lateral handoff with
    ⟨status, hAnswer⟩ | ⟨-, issued, hRequest, hAttempt, -, hAnswer⟩
  · rw [hAnswer] at hOk
    cases hOk
  · rw [hAnswer] at hOk
    cases hOk
    exact ⟨hRequest, hAttempt⟩

/- An attempt was retained before, or it is bound now. -/
theorem Retains.of_step (hRetains : (s.step op).Retains request attempt) :
    s.Retains request attempt ∨ op.Binds s request attempt := by
  rcases retains_iff.mp hRetains with ⟨next, hNext, hHas⟩
  have hChange := step_viewChange s op request
  rw [hNext] at hChange
  generalize hBefore : s.ledger.view request = before at hChange
  cases hChange with
  | same => exact .inl (retains_iff.mpr ⟨next, hBefore, hHas⟩)
  | registered now => cases RequestView.hasAttempt_iff.mp hHas
  | evolved view _ _ event hLabel hEvent hStep =>
    cases hLabel
    rcases hStep.hasAttempt_iff.mp hHas with hHad | hBound
    · exact .inl (retains_iff.mpr ⟨view, hBefore, hHad⟩)
    · exact .inr ⟨event, view, next, hEvent, hBound, hBefore, hStep⟩
  | restored _ hLabel => exact (hLabel op rfl).elim

/- Every route is one of the request that has its attempt. -/
def RoutesBelong (mt : Generator) (start : Coordinator) (labels : List Label) (s : Coordinator) :
    Prop :=
  ∀ request attempt route,
    s.Retains request attempt → s.routeDecisions.lookup attempt = some route →
    IssuedSince mt start request attempt route labels s

theorem RoutesBelong.step (hBelong : RoutesBelong mt start labels s)
    (hBefore : Run (Transition mt) start labels s) (hApart : s.RoutesApart (.op op)) :
    RoutesBelong mt start (labels ++ [.op op]) (s.step op) := by
  intro request attempt route hRetains hRoute
  -- a route that was there before belongs to a request that had its attempt
  have hKept (hHeld : s.routeDecisions.lookup attempt = some route) :
      IssuedSince mt start request attempt route (labels ++ [.op op]) (s.step op) := by
    have hUnbound : ¬ op.Binds s request attempt := by
      intro hBinds
      cases ((hApart op rfl).1 request attempt hBinds).symm.trans hHeld
    have hRetained := hRetains.of_step.resolve_right hUnbound
    exact (hBelong request attempt route hRetained hHeld).next
      ⟨hRetained, fun other hOp => by cases hOp; exact hUnbound⟩ (.op s op)
  rcases step_routeDecisions s op with
    hSame | ⟨owner, routed, node, lateral, handoff, rfl⟩ | ⟨_, old, _, _, _, -, -, hErased⟩
  · rw [hSame] at hRoute
    exact hKept hRoute
  · rcases issueRouteDecision_cases s owner routed node lateral handoff with
      ⟨status, hAnswer⟩ | ⟨-, issued, -, -, -, hAnswer⟩
    · simp only [Coordinator.step, hAnswer] at hRoute
      exact hKept hRoute
    · have hLookup := hRoute
      simp only [Coordinator.step, hAnswer] at hLookup
      rcases AList.lookup_insert_cases hLookup with ⟨rfl, rfl⟩ | ⟨-, hOld⟩
      · have hOwner : s.Retains request attempt := by
          simp only [Coordinator.step, hAnswer] at hRetains
          exact hRetains
        cases (hApart _ rfl).2 owner attempt node lateral handoff rfl request hOwner
        exact ⟨labels, s, node, lateral, handoff, [], rfl, hBefore, by rw [hAnswer], .nil _⟩
      · exact hKept hOld
  · rw [hErased] at hRoute
    exact hKept (AList.lookup_of_erase hRoute).2

/-
  The attempt of a request whose route its traffic relies on.
  A transfer counts if its owner retains the attempt.
-/
def RelyingOn (s : Coordinator) (traffic : TrafficRequest) (request : RequestId)
    (attempt : AttemptId) : Prop :=
  ∃ subject, traffic.subject = some subject ∧
    (subject.kind = .serving ∧ subject.request = request ∧ subject.attempt = attempt ∨
      subject.kind = .transfer ∧ attempt ≠ .nil ∧ s.Retains request attempt ∧
        ∃ transfer, s.transfers.lookup subject.transfer = some transfer ∧
          transfer.request = request ∧ transfer.attempt = attempt)

theorem RelyingOn.routed {traffic : TrafficRequest} {now : Int64} {victim : Nat}
    (hRelying : s.RelyingOn traffic request attempt)
    (hPermits : (s.evaluate traffic now victim).1.permitsTraffic = true)
    (hRule :
      (s.policy.rule
        (s.evaluate traffic now victim).1.treatment.trafficClass).requiresCurrentRoute = true) :
    s.Retains request attempt ∧ ∃ route, s.routeDecisions.lookup attempt = some route := by
  have hGrounds := evaluate_grounds hPermits
  rcases hRelying with ⟨subject, hSubject, ⟨hKind, rfl, rfl⟩ | ⟨hKind, hSet, hRetains, transfer,
    hTransfer, rfl, rfl⟩⟩
  · rcases hGrounds.serving hSubject hKind with ⟨record, entry, hServing⟩
    rcases hServing.route hRule with ⟨route, hRoute, -⟩
    refine ⟨⟨record, hServing.retained, ?_⟩, route, hRoute⟩
    rw [hServing.found]
    rfl
  · rcases hGrounds.transfer hSubject hKind with ⟨held, hHeld⟩
    cases hTransfer.symm.trans hHeld.retained
    rcases hHeld.route hRule hSet with ⟨route, hRoute, -⟩
    exact ⟨hRetains, route, hRoute⟩

/-
  In a run that keeps the identities of attempts apart,
  permitted traffic of a class that requires a route relies
  on one that was issued for its own request and attempt
  since they were bound, and replacing an attempt removes
  routes of its own request only.
-/
theorem route_of_request {config : CoordinatorConfig} (hStarted : Started mt config start)
    (hRun : Run (Guarded RoutesApart (Transition mt)) start labels s) :
    (∀ traffic now victim request attempt,
      (s.evaluate traffic now victim).1.permitsTraffic = true →
      (s.policy.rule
        (s.evaluate traffic now victim).1.treatment.trafficClass).requiresCurrentRoute = true →
      s.RelyingOn traffic request attempt →
      ∃ route, s.routeDecisions.lookup attempt = some route ∧
        route.request = request ∧ route.attempt = attempt ∧
        IssuedSince mt start request attempt route labels s) ∧
    ∀ request old new hash now attempt route,
      s.routeDecisions.lookup attempt = some route →
      (s.step (.replaceAttempt request old new hash now)).routeDecisions.lookup attempt = none →
      route.request = request := by
  have hBelong : RoutesBelong mt start labels s := by
    refine hRun.invariant_history (RoutesBelong mt start) ?_ ?_
    · rintro before u label v hBefore ⟨hApart, hStep⟩ hHolds
      rcases hStep.docket with hEmpty | ⟨op, rfl, rfl⟩
      · intro request attempt route _ hRoute
        rw [show v.routeDecisions = ∅ from congrArg Docket.routeDecisions hEmpty] at hRoute
        cases hRoute
      · exact hHolds.step (hBefore.mono fun _ _ _ hGuarded => hGuarded.2) hApart
    · intro request attempt route _ hRoute
      rcases hStarted with ⟨entropy, rfl⟩
      cases hRoute
  refine ⟨?_, ?_⟩
  · intro traffic now victim request attempt hPermits hRule hRelying
    rcases hRelying.routed hPermits hRule with ⟨hRetains, route, hRoute⟩
    have hIssued := hBelong request attempt route hRetains hRoute
    exact ⟨route, hRoute, hIssued.names.1, hIssued.names.2, hIssued⟩
  · intro request old new hash now attempt route hRoute hGone
    rcases step_routeDecisions s (.replaceAttempt request old new hash now) with
      hSame | ⟨_, _, _, _, _, hOther⟩ | ⟨_, _, _, _, _, hOp, hOk, hErased⟩
    · rw [hSame, hRoute] at hGone
      cases hGone
    · cases hOther
    · cases hOp
      rw [hErased, AList.lookup_erase_if] at hGone
      split at hGone
      · rename_i hSame
        subst hSame
        rcases replaceAttempt_step hOk with ⟨view, next, hView, hStep, -⟩
        have hRetains : s.Retains request attempt := by
          cases hStep with
          | superseded _ _ entry _ hFind => exact retains_iff.mpr ⟨view, hView, entry, hFind⟩
        exact (hBelong request attempt route hRetains hRoute).names.1
      · cases hGone.symm.trans hRoute

/- Operations that are seen to keep identities apart. -/
def plainlyRouted (s : Coordinator) : Op → Bool
| .issueRouteDecision request attempt _ _ _ =>
  s.ledger.requests.entries.all (fun entry =>
    entry.1 = request || (entry.2.findAttempt attempt).isNone)
| .registerAttempt _ attempt _ _ | .revalidateRequest _ attempt _
| .replaceAttempt _ _ attempt _ _ => (s.routeDecisions.lookup attempt).isNone
| _ => true

theorem routesApart_of_plainlyRouted (s : Coordinator) (op : Op)
    (hPlain : plainlyRouted s op = true) : s.RoutesApart (.op op) := by
  rintro other hSame
  cases hSame
  refine ⟨?_, ?_⟩
  · rintro request attempt ⟨event, _, _, hEvent, hBound, -⟩
    cases op with
    | registerAttempt | revalidateRequest | replaceAttempt =>
      cases hEvent
      cases hBound
      exact Option.isNone_iff_eq_none.mp hPlain
    | advanceStage | cancelRequest | failAttempt | publishCompletion =>
      cases hEvent
      cases hBound
    | _ => cases hEvent
  · rintro request attempt node lateral handoff rfl other ⟨record, hRecord, hFind⟩
    have hEntry := List.all_eq_true.mp hPlain ⟨other, record⟩ (AList.mem_lookup_iff.mp hRecord)
    cases hAttempt : record.findAttempt attempt with
    | none =>
      rw [hAttempt] at hFind
      cases hFind
    | some held => simpa [hAttempt] using hEntry

theorem route_of_request_ingress :
    let ops := ingressOps ++
      [ .registerRequest ⟨0, 5⟩ 4,
        .registerAttempt ⟨0, 5⟩ ⟨0, 6⟩ 0 4,
        .issueRouteDecision ⟨0, 5⟩ ⟨0, 6⟩ 1 false false ]
    let s := sampleStart.steps ops
    let replaced := s.step (.replaceAttempt ⟨0, 5⟩ ⟨0, 6⟩ ⟨0, 7⟩ 0 5)
    (s.evaluate ingressTraffic 5 0).1.permitsTraffic = true ∧
      (∃ route, s.routeDecisions.lookup ⟨0, 2⟩ = some route ∧ route.request = ⟨0, 1⟩) ∧
      ∃ route,
        s.routeDecisions.lookup ⟨0, 6⟩ = some route ∧
          replaced.routeDecisions.lookup ⟨0, 6⟩ = none ∧ route.request = ⟨0, 5⟩ := by
  intro ops s replaced
  have hRoutes := route_of_request sampleStart_started
    (run_passes sampleGenerator plainlyRouted routesApart_of_plainlyRouted sampleStart ops
      (by decide))
  have hOther : (s.routeDecisions.lookup ⟨0, 6⟩).isSome = true := by decide
  have hGone : replaced.routeDecisions.lookup ⟨0, 6⟩ = none := by decide
  rcases hRoutes.1 ingressTraffic 5 0 ⟨0, 1⟩ ⟨0, 2⟩ (by decide) (by decide)
    ⟨_, rfl, .inl ⟨rfl, rfl, rfl⟩⟩ with ⟨route, hRoute, hRequest, -⟩
  rcases Option.isSome_iff_exists.mp hOther with ⟨other, hHeld⟩
  exact ⟨by decide, ⟨route, hRoute, hRequest⟩, other, hHeld, hGone,
    hRoutes.2 ⟨0, 5⟩ ⟨0, 6⟩ ⟨0, 7⟩ 0 5 ⟨0, 6⟩ other hHeld hGone⟩

/-
  A second request names its attempt like the first. Its
  traffic is permitted by the route of the first, which is
  gone when the second one replaces its attempt.
-/
theorem route_of_other_request :
    let s := sampleStart.steps (ingressOps ++
      [ .registerRequest ⟨0, 5⟩ 4,
        .registerAttempt ⟨0, 5⟩ ⟨0, 2⟩ 0 4,
        .advanceStage ⟨0, 5⟩ ⟨0, 2⟩ .admitted 4,
        .registerSloContract ⟨0, 5⟩ 1000 1000 1 ])
    let traffic : TrafficRequest :=
      { subject := some
          { kind := .serving
            request := ⟨0, 5⟩
            attempt := ⟨0, 2⟩
            requestGeneration := ⟨1⟩ } }
    let decision := (s.evaluate traffic 5 0).1
    Reachable sampleGenerator {} s ∧
      decision.permitsTraffic = true ∧
      (s.policy.rule decision.treatment.trafficClass).requiresCurrentRoute = true ∧
      (s.routeDecisions.lookup ⟨0, 2⟩).map RouteDecision.request = some ⟨0, 1⟩ ∧
      (s.step (.replaceAttempt ⟨0, 5⟩ ⟨0, 2⟩ ⟨0, 6⟩ 0 6)).routeDecisions.lookup ⟨0, 2⟩ = none := by
  intro s traffic decision
  exact ⟨sampleStart_reachable _, by decide, by decide, by decide, by decide⟩

end Coordinator

end TrafficFabric
