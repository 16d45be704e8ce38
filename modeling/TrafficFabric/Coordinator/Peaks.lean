import TrafficFabric.Coordinator.DecisionCounts

/-
  The peaks the accounting reports.

  The ledger raises its peaks when it opens a flow, and it
  opens the flows of requests only. The flows of transfers
  are added to the current counts of a report, and only the
  peak of the total is compared with the result.

  Main declarations:
    * `RequestLedger.step_steady`
    * `Coordinator.step_ledger_keeps`
    * `Coordinator.peaks_true`
    * `Coordinator.transfer_peak_forgotten`
-/

namespace TrafficFabric

open List Nat

---
-- Peaks Of The Ledger
---

namespace AccountingSnapshot

variable (accounting : AccountingSnapshot) (traffic : TrafficClass)

/- The flows counted now, in all or of one class. -/
def active (accounting : AccountingSnapshot) : Option TrafficClass → Nat
| none => accounting.activeFlowsTotal.toNat
| some traffic => (accounting.perClass traffic).activeFlows.toNat

def peak (accounting : AccountingSnapshot) : Option TrafficClass → Nat
| none => accounting.peakActiveFlowsTotal.toNat
| some traffic => (accounting.perClass traffic).peakActiveFlows.toNat

/- No count has grown and the peaks are the same. -/
def Steady (before after : AccountingSnapshot) : Prop :=
  ∀ which, after.peak which = before.peak which ∧ after.active which ≤ before.active which

theorem Steady.refl : Steady accounting accounting := fun _ => ⟨rfl, le_refl _⟩

theorem Steady.trans {first second third : AccountingSnapshot} (hLeft : Steady first second)
    (hRight : Steady second third) : Steady first third :=
  fun which => ⟨(hRight which).1.trans (hLeft which).1, (hRight which).2.trans (hLeft which).2⟩

/- The classes and the two totals are all that is read. -/
theorem Steady.of_meters {before after : AccountingSnapshot}
    (hMeters : after.meters = before.meters) : Steady before after := by
  simp only [meters, Prod.mk.injEq] at hMeters
  intro which
  cases which with
  | none => exact ⟨congrArg UInt32.toNat hMeters.2.2, (congrArg UInt32.toNat hMeters.2.1).le⟩
  | some traffic =>
    unfold peak active
    rw [hMeters.1]
    exact ⟨rfl, le_refl _⟩

/- Decisions are counted apart from the flows. -/
theorem withClass_steady {f : ClassAccounting → ClassAccounting}
    (hPeak : ∀ entry, (f entry).peakActiveFlows = entry.peakActiveFlows)
    (hActive : ∀ entry, (f entry).activeFlows = entry.activeFlows) :
    Steady accounting (accounting.withClass traffic f) := by
  intro which
  cases which with
  | none => exact ⟨rfl, le_refl _⟩
  | some other =>
    simp only [peak, active, perClass_withClass]
    split
    · rw [hPeak, hActive]
      exact ⟨rfl, le_refl _⟩
    · exact ⟨rfl, le_refl _⟩

/- Counting down stops at zero. -/
theorem countDown_le (count : UInt32) :
    (if 0 < count then count - 1 else count).toNat ≤ count.toNat := by
  split
  · rename_i hSome
    rw [UInt32.toNat_sub_of_le]
    · exact sub_le _ _
    · exact UInt32.le_iff_toNat_le.mpr (UInt32.lt_iff_toNat_lt.mp hSome)
  · exact le_refl _

theorem flowClosed_steady : Steady accounting (accounting.flowClosed traffic) := by
  intro which
  cases which with
  | none => exact ⟨rfl, countDown_le _⟩
  | some other =>
    simp only [peak, active, flowClosed, perClass_withClass]
    split
    · exact ⟨rfl, countDown_le _⟩
    · exact ⟨rfl, le_refl _⟩

theorem toNat_max (left right : UInt32) : (max left right).toNat = max left.toNat right.toNat := by
  change (if left ≤ right then right else left).toNat = _
  split
  · rename_i hLess
    exact (max_eq_right (UInt32.le_iff_toNat_le.mp hLess)).symm
  · rename_i hMore
    exact (max_eq_left (UInt32.le_iff_toNat_le.mp (UInt32.le_of_lt (UInt32.not_le.mp hMore)))).symm

/- A peak is the larger of the old one and the count. -/
theorem flowOpened_peak {accounting : AccountingSnapshot} {which : Option TrafficClass}
    (hBelow : accounting.active which ≤ accounting.peak which) :
    (accounting.flowOpened traffic).peak which =
      max (accounting.peak which) ((accounting.flowOpened traffic).active which) := by
  cases which with
  | none => exact toNat_max _ _
  | some other =>
    simp only [peak, active, flowOpened, perClass_withClass] at hBelow ⊢
    split
    · exact toNat_max _ _
    · exact (max_eq_left hBelow).symm

end AccountingSnapshot

namespace RequestLedger

open AccountingSnapshot

/- Only an opened flow raises a count or a peak. -/
theorem step_steady (ledger : RequestLedger) (op : LedgerOp) (hOpens : op.opensFlow = false)
    (hClear : op ≠ .clear) : Steady ledger.accounting (ledger.step op).accounting := by
  by_cases hOp : op.Recounts
  · cases op with
    | recordDecision _ _ traffic outcome =>
      simp only [step, recordDecision]
      split
      · exact .refl _
      · apply withClass_steady
        all_goals
          intro entry
          split
          all_goals
            cases outcome with
            | _ => rfl
    | clear => exact (hClear rfl).elim
    | _ => exact hOp.elim
  · refine step_meters ledger (P := Steady ledger.accounting) ?_ ?_ op hOp hOpens (.refl _)
    · exact fun _ _ hBefore hMeters => hBefore.trans (.of_meters hMeters)
    · exact fun before traffic hBefore => hBefore.trans (before.flowClosed_steady traffic)

/- The flows that are open, in all or of one class. -/
def flowsOpen (ledger : RequestLedger) : Option TrafficClass → Nat
| none => ledger.flows.size
| some traffic => ledger.classFlows traffic

theorem Reconciled.active_eq {ledger : RequestLedger} {opens : Nat}
    (hReconciled : ledger.Reconciled opens) (which : Option TrafficClass) :
    ledger.accounting.active which = ledger.flowsOpen which := by
  cases which with
  | none => exact hReconciled.exact.total
  | some traffic => exact hReconciled.classed traffic

end RequestLedger

---
-- Operations
---

namespace Coordinator

section Keeps

-- Such a property of the ledger is kept by every operation
-- that opens no flow of a request.
variable {P : RequestLedger → Prop}
variable (hKeep :
    ∀ ledger op, op.opensFlow = false → op ≠ LedgerOp.clear → P ledger → P (ledger.step op))

include hKeep

theorem asked_ledger_keeps {s : Coordinator} (op : Op) (hStart : P s.ledger) :
    P (s.asked op).ledger := by
  unfold asked
  split
  · exact hStart
  · rename_i request now victim _
    rcases evaluate_ledger s request now victim with hSame | ⟨op, hRecorded, hKeeps⟩
    · rw [hSame]
      exact hStart
    · rw [hRecorded]
      cases op with
      | openFlow | clear => exact hKeeps.elim
      | _ => exact hKeep _ _ rfl (by simp) hStart

theorem step_ledger_keeps (s : Coordinator) (op : Op) (hStart : P s.ledger) :
    P (s.step op).ledger ∨
      ∃ request attempt traffic bytes now,
        (s.step op).ledger = s.ledger.step (.openFlow request attempt traffic bytes now) := by
  by_cases hOpens : ∃ decision bytes now, op = .openFlow decision bytes now
  · rcases hOpens with ⟨decision, bytes, now, rfl⟩
    have hOpening := openFlow_opening s decision bytes now
    rw [step]
    generalize s.openFlow decision bytes now = opened at hOpening ⊢
    cases hOpening with
    | served => exact .inr ⟨_, _, _, bytes, now, rfl⟩
    | _ => exact .inl hStart
  · refine .inl ((s.step_settling op).ledger.keeps ?_ ?_)
    · intro ledger ruling hSettles hBefore
      cases ruling with
      | openFlow => exact (hOpens hSettles).elim
      | releaseFlow | setAttemptModel | recordFlowBytes => exact hKeep _ _ rfl (by simp) hBefore
      | _ => exact hSettles.elim
    · have hAsked := asked_ledger_keeps hKeep op hStart
      rcases op.ledgerOps_cases s with hNone | ⟨ruling, hOps, -, -, hOrdinary⟩
      · rw [hNone]
        exact hAsked
      · rw [hOps]
        change P ((s.asked op).ledger.step ruling)
        cases ruling with
        | openFlow | clear => exact hOrdinary.elim
        | _ => exact hKeep _ _ rfl (by simp) hAsked

end Keeps

end Coordinator

---
-- Runs Of One Boot
---

namespace RequestLedger

variable {ledger : RequestLedger}

/- Nothing was ever open, and the limits are words. -/
theorem Reconciled.clear (hOwn : ledger.limits.maxActiveFlowsPerRequest < 2 ^ 32)
    (hAll : ledger.limits.maxActiveFlowsTotal < 2 ^ 32) : ledger.clear.Reconciled 0 where
  coherent := .clear ledger
  exact := .clear ledger
  classed _ := rfl
  contained := AList.forall_empty
  sequenced := ⟨le_refl _, AList.forall_empty⟩
  ownLimit := hOwn
  allLimit := hAll

theorem Reconciled.mono {opens more : Nat} (hReconciled : ledger.Reconciled opens)
    (hMore : opens ≤ more) : ledger.Reconciled more :=
  { hReconciled with sequenced := hReconciled.sequenced.mono hMore }

theorem Reconciled.steady {base : RequestLedger} {opens : Nat} {op : LedgerOp}
    (hOpens : op.opensFlow = false) (hClear : op ≠ .clear)
    (hBefore :
      ledger.Reconciled opens ∧ AccountingSnapshot.Steady base.accounting ledger.accounting) :
    (ledger.step op).Reconciled opens ∧
      AccountingSnapshot.Steady base.accounting (ledger.step op).accounting := by
  refine ⟨?_, hBefore.2.trans (ledger.step_steady op hOpens hClear)⟩
  have hStep := hBefore.1.step (fun hOther => by rw [hOpens] at hOther; cases hOther)
  rw [hOpens] at hStep
  exact hStep

/- Exact counts that no peak is below. -/
structure Levelled (ledger : RequestLedger) (opens : Nat) : Prop where
  reconciled : ledger.Reconciled opens
  below : ∀ which, ledger.accounting.active which ≤ ledger.accounting.peak which

end RequestLedger

namespace Coordinator

open AccountingSnapshot (Steady)

variable {mt : Generator} {s start : Coordinator} {ops : List Op} {opens : Nat}
variable (which : Option TrafficClass)

theorem step_levelled (hLevelled : s.ledger.Levelled opens) (hRoom : opens + 1 < 2 ^ 64) (op : Op) :
    (s.step op).ledger.Levelled (opens + 1) ∧
      ∀ which,
        (s.step op).ledger.accounting.peak which =
          max (s.ledger.accounting.peak which) ((s.step op).ledger.accounting.active which) := by
  have hReached :
      (s.step op).ledger.Reconciled (opens + 1) ∧
        ∀ which,
          (s.step op).ledger.accounting.peak which =
            max (s.ledger.accounting.peak which) ((s.step op).ledger.accounting.active which) := by
    rcases step_ledger_keeps
      (P := fun ledger => ledger.Reconciled opens ∧ Steady s.ledger.accounting ledger.accounting)
      (fun _ _ => RequestLedger.Reconciled.steady) s op ⟨hLevelled.reconciled, .refl _⟩ with
      ⟨hReconciled, hSteady⟩ | ⟨request, attempt, traffic, bytes, now, hOpened⟩
    · refine ⟨hReconciled.mono (le_succ opens), fun which => ?_⟩
      rw [(hSteady which).1]
      exact (max_eq_left ((hSteady which).2.trans (hLevelled.below which))).symm
    · rw [hOpened]
      refine ⟨hLevelled.reconciled.step (fun _ => hRoom), fun which => ?_⟩
      rcases s.ledger.step_openFlow_accounting request attempt traffic bytes now with
        hSame | hCounted
      · rw [hSame]
        exact (max_eq_left (hLevelled.below which)).symm
      · rw [hCounted]
        exact AccountingSnapshot.flowOpened_peak traffic (hLevelled.below which)
  refine ⟨⟨hReached.1, fun which => ?_⟩, hReached.2⟩
  rw [hReached.2 which]
  exact le_max_right _ _

/- The open flows of transfers, in all or of one class. -/
def transferFlows (s : Coordinator) : Option TrafficClass → Nat
| none => s.flows.total (fun flow => flow.request.isNil.toNat)
| some traffic =>
  s.flows.total (fun flow => (flow.request.isNil && decide (flow.traffic = traffic)).toNat)

/- The open flows: the ledger holds those of requests. -/
def flowsOpen (s : Coordinator) (which : Option TrafficClass) : Nat :=
  s.ledger.flowsOpen which + s.transferFlows which

/- The most flows that are open together during a run. -/
def peakFlows (which : Option TrafficClass) : Coordinator → List Op → Nat
| s, [] => s.flowsOpen which
| s, op :: rest => max (s.flowsOpen which) (peakFlows which (s.step op) rest)

/- No flow of a transfer is open. -/
def ServesOnly (s : Coordinator) : Prop :=
  ∀ flow ∈ s.flows.values, flow.request.isNil = false

theorem ServesOnly.transferFlows (hServes : s.ServesOnly) (which : Option TrafficClass) :
    s.transferFlows which = 0 := by
  have hZero (measure : FlowRecord → Nat) (hMeasure : ∀ flow ∈ s.flows.values, measure flow = 0) :
      s.flows.total measure = 0 := by
    apply sum_eq_zero
    simpa using hMeasure
  cases which with
  | none | some => exact hZero _ (fun flow hFlow => by rw [hServes flow hFlow]; rfl)

/- The report then adds nothing to the ledger. -/
theorem ServesOnly.accounting_peak (hServes : s.ServesOnly) (hLevelled : s.ledger.Levelled opens)
    (which : Option TrafficClass) : s.accounting.peak which = s.ledger.accounting.peak which := by
  have hFold (flows : List FlowRecord) (hFlows : ∀ flow ∈ flows, flow.request.isNil = false)
      (snapshot : AccountingSnapshot) :
      flows.foldl AccountingSnapshot.countFlow snapshot = snapshot := by
    induction flows with
    | nil => rfl
    | cons flow rest ih =>
      rw [forall_mem_cons] at hFlows
      rw [foldl_cons, AccountingSnapshot.countFlow, hFlows.1]
      exact ih hFlows.2
  unfold accounting
  simp only [hFold _ hServes]
  cases which with
  | none =>
    have hBelow := hLevelled.below none
    simp only [AccountingSnapshot.peak]
    rw [if_neg]
    rw [UInt32.lt_iff_toNat_lt]
    exact not_lt.mpr hBelow
  | some traffic => rfl

theorem flowsOpen_le_peakFlows (s : Coordinator) (ops : List Op) :
    s.flowsOpen which ≤ peakFlows which s ops := by
  cases ops with
  | nil => exact le_refl _
  | cons op rest => exact le_max_left _ _

theorem ledger_peak_steps (ops : List Op) (hLevelled : s.ledger.Levelled opens)
    (hRoom : opens + ops.length < 2 ^ 64)
    (hServes : ∀ done, done <+: ops → (s.steps done).ServesOnly) (which : Option TrafficClass) :
    (s.steps ops).ledger.Levelled (opens + ops.length) ∧
      (s.steps ops).ledger.accounting.peak which =
        max (s.ledger.accounting.peak which) (peakFlows which s ops) := by
  -- The invariant of a state is that its count is below its peak.
  have hHere (state : Coordinator) {count : Nat} (hState : state.ledger.Levelled count)
      (hOnly : state.ServesOnly) :
      state.flowsOpen which = state.ledger.accounting.active which := by
    rw [flowsOpen, hOnly.transferFlows, add_zero, hState.reconciled.active_eq]
  have hNow := hHere s hLevelled (hServes [] nil_prefix)
  have hBelow := hLevelled.below which
  induction ops generalizing s opens with
  | nil =>
    refine ⟨hLevelled, (max_eq_left ?_).symm⟩
    rw [peakFlows, hNow]
    exact hBelow
  | cons op rest ih =>
    rw [length_cons] at hRoom
    rcases step_levelled hLevelled (by omega) op with ⟨hNext, hPeak⟩
    have hRest := fun done hDone => hServes (op :: done) (prefix_cons_inj op |>.mpr hDone)
    have hThen := hHere (s.step op) hNext (hRest [] nil_prefix)
    rcases ih hNext (by omega) hRest hThen (hNext.below which) with ⟨hAfter, hTop⟩
    have hLeast := flowsOpen_le_peakFlows which (s.step op) rest
    refine ⟨?_, ?_⟩
    · rw [length_cons, add_comm rest.length, ← add_assoc]
      exact hAfter
    · change ((s.step op).steps rest).ledger.accounting.peak which = _
      rw [hTop, hPeak which, peakFlows]
      omega

theorem Booted.levelled (hBooted : Booted mt s)
    (hOwn : s.ledger.limits.maxActiveFlowsPerRequest < 2 ^ 32)
    (hAll : s.ledger.limits.maxActiveFlowsTotal < 2 ^ 32) :
    s.ledger.Levelled 0 ∧ ∀ which, s.ledger.accounting.peak which = 0 := by
  have hCleared (ledger : RequestLedger) (which : Option TrafficClass) :
      ledger.clear.accounting.peak which = 0 ∧ ledger.clear.accounting.active which = 0 := by
    cases which with
    | _ => exact ⟨rfl, rfl⟩
  rcases hBooted.ledger with ⟨ledger, restored, hSteps⟩
  rw [hSteps, RequestLedger.steps_limits] at hOwn hAll
  have hKept : s.ledger.Reconciled 0 ∧ Steady ledger.clear.accounting s.ledger.accounting := by
    rw [hSteps]
    refine List.foldlRecOn (restored.map LedgerOp.restoreRecord) RequestLedger.step
      (motive := fun after => after.Reconciled 0 ∧ Steady ledger.clear.accounting after.accounting)
      ⟨.clear hOwn hAll, .refl _⟩ ?_
    intro before hBefore op hOp
    rcases mem_map.mp hOp with ⟨record, -, rfl⟩
    exact RequestLedger.Reconciled.steady rfl (by simp) hBefore
  have hPeak (which : Option TrafficClass) : s.ledger.accounting.peak which = 0 :=
    (hKept.2 which).1.trans (hCleared ledger which).1
  refine ⟨⟨hKept.1, fun which => ?_⟩, hPeak⟩
  have hActive := (hKept.2 which).2
  rw [(hCleared ledger which).2] at hActive
  exact hActive.trans (zero_le _)

theorem peakFlows_append (s : Coordinator) (done rest : List Op) :
    peakFlows which s done ≤ peakFlows which s (done ++ rest) := by
  induction done generalizing s with
  | nil => exact flowsOpen_le_peakFlows which s rest
  | cons op done ih => exact max_le_max_left _ (ih (s.step op))

/-
  While no flow of a transfer is open, the reported peaks
  are the most flows that were open together since the boot,
  and they never decrease.
-/
theorem peaks_true (hBooted : Booted mt start)
    (hOwn : start.ledger.limits.maxActiveFlowsPerRequest < 2 ^ 32)
    (hAll : start.ledger.limits.maxActiveFlowsTotal < 2 ^ 32) (hShort : ops.length < 2 ^ 64)
    (hServes : ∀ done, done <+: ops → (start.steps done).ServesOnly) (which : Option TrafficClass) :
    (start.steps ops).accounting.peak which = peakFlows which start ops ∧
      ∀ done,
        done <+: ops →
        (start.steps done).accounting.peak which ≤ (start.steps ops).accounting.peak which := by
  rcases hBooted.levelled hOwn hAll with ⟨hLevelled, hZero⟩
  have hTrue (done : List Op) (hDone : done <+: ops) :
      (start.steps done).accounting.peak which = peakFlows which start done := by
    have hFew := hDone.length_le
    rcases ledger_peak_steps done hLevelled (by omega)
      (fun first hFirst => hServes first (hFirst.trans hDone)) which with ⟨hAfter, hPeak⟩
    rw [(hServes done hDone).accounting_peak hAfter, hPeak, hZero, zero_max]
  refine ⟨hTrue ops prefix_rfl, ?_⟩
  intro done hDone
  rw [hTrue done hDone, hTrue ops prefix_rfl]
  rcases hDone with ⟨rest, rfl⟩
  exact peakFlows_append which start done rest

instance (s : Coordinator) : Decidable s.ServesOnly := by
  unfold ServesOnly
  infer_instance

/- The flow of a request is opened and released. -/
def releasedOps : List Op :=
  ingressOps ++
    [ .openFlow ((sampleStart.steps ingressOps).evaluate ingressTraffic 5 0).1 64 6,
      .releaseFlow ⟨1, 11472772413361126423⟩ ]

theorem peaks_true_released :
    (sampleStart.steps releasedOps).flowsOpen none = 0 ∧
      (sampleStart.steps releasedOps).accounting.peak none =
        peakFlows none sampleStart releasedOps ∧
      ∀ done,
        done <+: releasedOps →
        (sampleStart.steps done).accounting.peak none ≤
          (sampleStart.steps releasedOps).accounting.peak none := by
  have hServes : ∀ done ∈ releasedOps.inits, (sampleStart.steps done).ServesOnly := by decide
  exact ⟨by decide, peaks_true (.fresh (create {} 1)) (by decide) (by decide) (by decide)
    (fun done hDone => hServes done ((mem_inits done releasedOps).mpr hDone)) none⟩

/- A transfer is authorized, which opens its flow. -/
def grantedOps : List Op :=
  stateTransferOps unmixedTransfer ++
    [.authorizeTransfer (stateTransferTraffic unmixedTransfer) 7 0]

/-
  The peak goes back to zero when the flow of the transfer
  is closed, and its class never has one.
-/
theorem transfer_peak_forgotten :
    let opened := sampleStart.steps grantedOps
    let closed := opened.step (.abandonTransfer unmixedTransfer .unknown)
    opened.flowsOpen none = 1 ∧ opened.accounting.peak none = 1 ∧
      closed.accounting.peak none = 0 := by
  decide

end Coordinator

end TrafficFabric
