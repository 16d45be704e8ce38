import Mathlib.Algebra.BigOperators.Group.List.Basic
import TrafficFabric.Coordinator.TransferLifecycle

/-
  The decisions the accounting counts.

  Every evaluation mints one decision and counts it once, in
  the ledger when its subject is a request the ledger holds,
  and among the transfers otherwise. The second path counts
  the outcome, as the first does, but not an admission by
  the starvation guard.

  Main declarations:
    * `DecisionCounts`
    * `Coordinator.decisionTotals`
    * `Coordinator.evaluate_decisionTotals`
    * `Coordinator.decisions_counted`
-/

---
-- Counts
---

namespace Enumeration

variable {E M : Type} [AddCommMonoid M] {f g : E → M} {value : E} {extra : M}

/- One of the summands grows. -/
theorem sum_map_of_nodup {values : List E} (hNodup : values.Nodup) (hMem : value ∈ values)
    (hValue : g value = f value + extra) (hRest : ∀ other, other ≠ value → g other = f other) :
    (values.map g).sum = (values.map f).sum + extra := by
  induction values with
  | nil => cases hMem
  | cons head rest ih =>
    rw [List.nodup_cons] at hNodup
    rw [List.map_cons, List.map_cons, List.sum_cons, List.sum_cons]
    by_cases hHead : head = value
    · subst hHead
      have hSame : rest.map g = rest.map f := by
        apply List.map_congr_left
        intro other hOther
        exact hRest other (fun hEq => hNodup.1 (hEq ▸ hOther))
      rw [hSame, hValue, add_right_comm]
    · rw [hRest head hHead, ih hNodup.2 (List.mem_of_ne_of_mem (Ne.symm hHead) hMem), add_assoc]

end Enumeration

namespace TrafficFabric

open Enumeration UInt32 Function

/-
  Decisions that were allowed, degraded, deferred and
  rejected, and admissions by the starvation guard.
-/
abbrev DecisionCounts := (UInt64 × UInt64 × UInt64 × UInt64) × UInt32

namespace DecisionCounts

def single (outcome : DecisionOutcome) (byGuard : Bool) : DecisionCounts :=
  ((if outcome = .allowed then 1 else 0, if outcome = .degraded then 1 else 0,
      if outcome = .deferred then 1 else 0, if outcome = .rejected then 1 else 0),
    if byGuard then 1 else 0)

/- How many decisions of a list have each outcome. -/
def ofDecisions (decisions : List Decision) : DecisionCounts :=
  let number (outcome : DecisionOutcome) :=
    UInt64.ofNat (decisions.countP (fun decision => decision.outcome = outcome))
  ((number .allowed, number .degraded, number .deferred, number .rejected),
    ofNat (decisions.countP (fun decision => decision.reason = .admittedStarvationGuard)))

def total (counts : DecisionCounts) : UInt64 :=
  counts.1.1 + counts.1.2.1 + counts.1.2.2.1 + counts.1.2.2.2

theorem ofDecisions_cons (decision : Decision) (rest : List Decision) :
    ofDecisions (decision :: rest) =
      single decision.outcome (decision.reason = .admittedStarvationGuard) + ofDecisions rest := by
  have hNumber (p : Decision → Bool) :
      (decision :: rest).countP p = (if p decision then 1 else 0) + rest.countP p := by
    rw [List.countP_cons, add_comm]
  unfold ofDecisions single
  simp only [hNumber, UInt64.ofNat_add, ofNat_add, apply_ite UInt64.ofNat,
    apply_ite ofNat, decide_eq_true_eq]
  rfl

theorem total_ofDecisions {decisions : List Decision}
    (hKnown : ∀ decision ∈ decisions, decision.outcome ≠ .unknown) :
    (ofDecisions decisions).total = UInt64.ofNat decisions.length := by
  have hAdd (a b : DecisionCounts) : (a + b).total = a.total + b.total := by
    simp only [total, Prod.fst_add, Prod.snd_add]
    rw [add_add_add_comm a.1.1, add_add_add_comm (a.1.1 + a.1.2.1), add_add_add_comm]
  induction decisions with
  | nil => rfl
  | cons decision rest ih =>
    rw [List.forall_mem_cons] at hKnown
    rw [ofDecisions_cons, hAdd, ih hKnown.2, List.length_cons, UInt64.ofNat_add, add_comm]
    congr 1
    cases hOutcome : decision.outcome with
    | unknown => exact (hKnown.1 hOutcome).elim
    | _ => rfl

end DecisionCounts

def ClassAccounting.decided (entry : ClassAccounting) : DecisionCounts :=
  ((entry.allowed, entry.degraded, entry.deferred, entry.rejected), entry.starvationAdmissions)

theorem ClassAccounting.recordOutcome_decided
    (entry : ClassAccounting) (outcome : DecisionOutcome) (bytes : UInt64) :
    (entry.recordOutcome outcome bytes).decided = entry.decided + .single outcome false := by
  cases outcome with
  | _ => simp [decided, recordOutcome, DecisionCounts.single]

namespace AccountingSnapshot

def decided (accounting : AccountingSnapshot) (traffic : TrafficClass) : DecisionCounts :=
  (accounting.perClass traffic).decided

variable (accounting : AccountingSnapshot) (traffic : TrafficClass)
variable {f : ClassAccounting → ClassAccounting}

theorem withClass_raises (extra : DecisionCounts)
    (hRaise : ∀ entry, (f entry).decided = entry.decided + extra) :
    (accounting.withClass traffic f).decided =
      update accounting.decided traffic (accounting.decided traffic + extra) := by
  funext other
  rw [update_apply, decided, perClass_withClass]
  split
  · rename_i hOther
    rw [hRaise, hOther]
    rfl
  · rfl

theorem withClass_decided (hSame : ∀ entry, (f entry).decided = entry.decided) :
    (accounting.withClass traffic f).decided = accounting.decided := by
  rw [withClass_raises accounting traffic 0 (fun entry => by rw [hSame, add_zero]), add_zero,
    update_eq_self]

theorem flowOpened_decided : (accounting.flowOpened traffic).decided = accounting.decided :=
  withClass_decided _ _ (fun _ => rfl)

theorem flowClosed_decided : (accounting.flowClosed traffic).decided = accounting.decided :=
  withClass_decided _ _ (fun _ => rfl)

/- What is counted about decisions and flows. -/
def meters (accounting : AccountingSnapshot) : (TrafficClass → ClassAccounting) × UInt32 × UInt32 :=
  (accounting.perClass, accounting.activeFlowsTotal, accounting.peakActiveFlowsTotal)

end AccountingSnapshot

/- Operations that write the decision counts. -/
def LedgerOp.Recounts : LedgerOp → Prop
| .recordDecision _ _ _ _ _ _ | .clear => True
| _ => False

namespace RequestLedger

def decided (ledger : RequestLedger) : TrafficClass → DecisionCounts :=
  ledger.accounting.decided

variable (ledger : RequestLedger)

section Meters

-- Such a property is kept by every operation that neither
-- opens a flow nor records a decision.
variable {P : AccountingSnapshot → Prop}
variable (hCount : ∀ before after, P before → after.meters = before.meters → P after)
variable (hClose : ∀ before traffic, P before → P (before.flowClosed traffic))

include hClose

theorem releaseRequestFlows_meters (request : RequestId) (hStart : P ledger.accounting) :
    P (ledger.releaseRequestFlows request).accounting :=
  foldl_dropFlow_keeps (fun dropped => P dropped.accounting)
    (fun before _ opened _ hBefore => hClose before.accounting opened.traffic hBefore)
    (ledger.flowsByRequest.equalRange request) hStart

include hCount

omit hClose in
theorem evictIfNeeded_meters (hStart : P ledger.accounting) :
    P ledger.evictIfNeeded.accounting := by
  apply evictIfNeeded_keeps (fun evicted => P evicted.accounting)
  · exact fun _ _ _ hBefore => hCount _ _ hBefore rfl
  · exact fun _ _ hBefore => hBefore
  · exact fun _ hBefore => hCount _ _ hBefore rfl
  · exact hStart

theorem retire_meters (id ordered : RequestId) (record : RequestRecord)
    {count : AccountingSnapshot → AccountingSnapshot}
    (hSame : ∀ accounting, (count accounting).meters = accounting.meters)
    (hStart : P ledger.accounting) : P (ledger.retire id ordered record count).accounting := by
  unfold retire
  apply evictIfNeeded_meters _ hCount
  exact hCount _ _ (releaseRequestFlows_meters ledger hClose record.id hStart) (hSame _)

theorem step_meters (op : LedgerOp) (hOp : ¬ op.Recounts) (hOpens : op.opensFlow = false)
    (hStart : P ledger.accounting) : P (ledger.step op).accounting := by
  cases op with
  | recordDecision | clear => exact (hOp trivial).elim
  | openFlow => cases hOpens
  | failAttempt =>
    simp only [step, failAttempt]
    repeat' split
    · exact hStart
    · exact hStart
    · exact hCount _ _ hStart rfl
    · exact retire_meters ledger hCount hClose _ _ _ (fun _ => rfl) hStart
  | cancelRequest =>
    simp only [step, cancelRequest]
    repeat' split
    · exact hStart
    · exact hStart
    · exact hStart
    · exact retire_meters ledger hCount hClose _ _ _ (fun _ => rfl) hStart
  | markRequestInterrupted =>
    simp only [step, markRequestInterrupted]
    repeat' split
    · exact hStart
    · exact hStart
    · exact hCount _ _ (releaseRequestFlows_meters ledger hClose _ hStart) rfl
  | publishCompletion publication =>
    simp only [step, publishCompletion]
    repeat' split
    · exact hStart
    · exact hStart
    · exact hCount _ _ hStart rfl
    · exact hCount _ _ hStart rfl
    all_goals exact retire_meters ledger hCount hClose _ _ _ (fun _ => rfl) hStart
  | releaseFlow =>
    simp only [step, releaseFlow]
    split
    · exact hStart
    · exact hClose _ _ hStart
  | restoreRecord record =>
    simp only [step, restoreRecord]
    repeat' split
    · exact hStart
    · exact hStart
    · exact hStart
    all_goals
      refine evictIfNeeded_meters _ hCount (hCount ledger.accounting _ hStart ?_)
      unfold refreshRequestCounts account countRestored
      cases record.lifecycle with
      | _ => rfl
  | _ =>
    simp only [step, registerRequest, registerAttempt, setAttemptModel, revalidateRequest,
      advanceStage, supersedeAttempt, recordFlowBytes]
    repeat' split
    all_goals first | exact hStart | exact hCount _ _ hStart rfl

end Meters

/- The flow that is opened is counted, and nothing else. -/
theorem step_openFlow_accounting (id : RequestId) (attempt : AttemptId) (traffic : TrafficClass)
    (bytes : UInt64) (now : Int64) :
    (ledger.step (.openFlow id attempt traffic bytes now)).accounting = ledger.accounting ∨
      (ledger.step (.openFlow id attempt traffic bytes now)).accounting =
        ledger.accounting.flowOpened traffic := by
  rcases openFlow_cases ledger id attempt traffic bytes now with
    ⟨status, hRefused⟩ | ⟨record, entry, -, -, -, hOpened⟩
  · exact .inl (congrArg (fun answer => answer.2.accounting) hRefused)
  · exact .inr (congrArg (fun answer => answer.2.accounting) hOpened)

/- Only a recorded decision is counted. -/
theorem step_decided (op : LedgerOp) (hOp : ¬ op.Recounts) :
    (ledger.step op).decided = ledger.decided := by
  by_cases hOpens : op.opensFlow = true
  · cases op with
    | openFlow id attempt traffic bytes now =>
      unfold decided
      rcases ledger.step_openFlow_accounting id attempt traffic bytes now with hSame | hCounted
      · rw [hSame]
      · rw [hCounted, AccountingSnapshot.flowOpened_decided]
    | _ => cases hOpens
  · refine step_meters ledger (P := fun after => after.decided = ledger.decided) ?_ ?_ op hOp
      (Bool.eq_false_iff.mpr hOpens) rfl
    · intro before after hBefore hMeters
      have hClasses : after.perClass = before.perClass := congrArg Prod.fst hMeters
      unfold AccountingSnapshot.decided at hBefore ⊢
      rw [hClasses]
      exact hBefore
    · exact fun before traffic hBefore => (before.flowClosed_decided traffic).trans hBefore

theorem recordDecision_decided {id : RequestId} {record : RequestRecord}
    (hRecord : ledger.requests.lookup id = some record) (attempt : AttemptId)
    (traffic : TrafficClass) (outcome : DecisionOutcome) (reason : ReasonCode) (bytes : UInt64) :
    (ledger.recordDecision id attempt traffic outcome reason bytes).2.decided =
      update ledger.decided traffic
        (ledger.decided traffic + .single outcome (reason = .admittedStarvationGuard)) := by
  simp only [decided, recordDecision, hRecord, account, putRecord]
  refine ledger.accounting.withClass_raises traffic _ (fun entry => ?_)
  by_cases hGuard : reason = .admittedStarvationGuard
  · cases outcome with
    | _ => simp [hGuard, ClassAccounting.decided, ClassAccounting.recordOutcome,
        DecisionCounts.single]
  · simp [hGuard, ClassAccounting.recordOutcome_decided]

end RequestLedger

---
-- Operations That Decide Nothing
---

namespace Coordinator

/- What a class counts in the ledger and for transfers. -/
def counted (s : Coordinator) (traffic : TrafficClass) : DecisionCounts :=
  s.ledger.decided traffic + (s.transferClassAccounting traffic).decided

variable (s : Coordinator)
variable (op : Op) (ops : List Op)

theorem counted_congr {s t : Coordinator} (hLedger : t.ledger.decided = s.ledger.decided)
    (hRest : t.transferClassAccounting = s.transferClassAccounting) : t.counted = s.counted := by
  unfold counted
  rw [hLedger, hRest]

theorem ledgerOps_recounts {op : Op} {ruling : LedgerOp} (hOps : op.ledgerOps s = [ruling]) :
    ¬ ruling.Recounts := by
  cases op with
  | registerAttempt | replaceAttempt =>
    simp only [Op.ledgerOps] at hOps
    split at hOps
    · cases hOps
    · cases hOps
      exact id
  | _ => first | (cases hOps; exact id) | cases hOps

/- An operation counts what its evaluation counts. -/
theorem step_counted : (s.step op).counted = (s.asked op).counted := by
  have hSettling := s.step_settling op
  refine counted_congr ?_ hSettling.classes
  refine hSettling.ledger.keeps (P := fun ledger => ledger.decided = (s.asked op).ledger.decided)
    ?_ ?_
  · intro ledger ruling hSettles hBefore
    refine (ledger.step_decided ruling ?_).trans hBefore
    cases ruling with
    | recordDecision | clear => exact hSettles.elim
    | _ => exact id
  · rcases op.ledgerOps_cases s with hNone | ⟨ruling, hOps, -, -, hOrdinary⟩
    · rw [hNone]
      rfl
    · rw [hOps]
      exact RequestLedger.step_decided _ ruling (s.ledgerOps_recounts hOps)

---
-- Evaluations
---

/- The decisions that are reported, over all classes. -/
def decisionTotals : DecisionCounts :=
  ((listed : List TrafficClass).map s.accounting.decided).sum

theorem decisionTotals_eq : s.decisionTotals = (listed.map s.counted).sum := by
  have hLoop (flows : List FlowRecord) (snapshot : AccountingSnapshot) :
      (flows.foldl AccountingSnapshot.countFlow snapshot).decided = snapshot.decided := by
    induction flows generalizing snapshot with
    | nil => rfl
    | cons flow rest ih =>
      rw [List.foldl_cons, ih]
      unfold AccountingSnapshot.countFlow
      split
      · rfl
      · exact AccountingSnapshot.withClass_decided _ _ (fun _ => rfl)
  exact congrArg (fun counts => (listed.map counts).sum) (hLoop s.flows.values _)

theorem decisionTotals_raise {t : Coordinator} (traffic : TrafficClass) (extra : DecisionCounts)
    (hValue : t.counted traffic = s.counted traffic + extra)
    (hRest : ∀ other, other ≠ traffic → t.counted other = s.counted other) :
    t.decisionTotals = s.decisionTotals + extra := by
  rw [decisionTotals_eq, decisionTotals_eq]
  exact sum_map_of_nodup nodup (complete traffic) hValue hRest

variable (request : TrafficRequest) (now : Int64) (victim : Nat)

/- The subject is a request the ledger holds. -/
def inLedger : Bool :=
  let subject := request.subject.getD {}
  subject.kind = .serving ∧ s.ledger.contains subject.request

/- The traffic has to wait and has waited long enough. -/
def guardAdmits : Bool :=
  let subject := request.subject.getD {}
  match s.admissionOf request subject now with
  | .error _ => false
  | .ok admission =>
    let noted := s.noted subject admission.effective now victim
    (s.deferReason request admission.effective now).isSome &&
      deferExhausted (s.policy.rule admission.effective) noted.1
        (noted.2.firstDefer subject admission.effective now) now

theorem evaluate_reason :
    (s.evaluate request now victim).1.reason = .admittedStarvationGuard ↔
      s.guardAdmits request now victim = true := by
  have hFinds : Finds Found (s.admissionOf request (request.subject.getD {}) now) :=
    admissionOf_finds
  have hOther {reason : ReasonCode} (hFinding : reason.isFinding = true) :
      reason ≠ .admittedStarvationGuard := by
    rintro rfl
    cases hFinding
  have hVerdict := evaluate_verdict s request now victim
  generalize (s.evaluate request now victim).1 = decision at hVerdict ⊢
  generalize (s.evaluate request now victim).2.waiting = after at hVerdict
  unfold guardAdmits
  cases hVerdict with
  | rejected refusal hRefused hOutcome hReason =>
    rw [hRefused] at hFinds
    simp [hRefused, hReason, hOther hFinds]
  | granted subject admission hSubject hAdmitted hFree hPermits hReason =>
    simp only [hSubject, Option.getD_some, hAdmitted] at hFinds ⊢
    simp [hFree, hReason, hOther (lowered_degrade_all _ hFinds rfl rfl)]
  | guarded subject admission reason hSubject hAdmitted hWaits hExhausted hPermits hReason =>
    simp [hSubject, hAdmitted, hWaits, hExhausted, hReason]
  | deferred subject admission hSubject hAdmitted hWaits hOpen =>
    have hDeferral := deferReason_isDeferral hWaits
    simp only [hSubject, Option.getD_some, hAdmitted, hOpen, Bool.and_false, reduceCtorEq,
      iff_false]
    intro hReason
    rw [hReason] at hDeferral
    cases hDeferral

/- A decision counts where its subject is accounted. -/
theorem recordDecision_decisionTotals
    (outcome : DecisionOutcome) (reason : ReasonCode) (traffic : TrafficClass) :
    (s.recordDecision request (request.subject.getD {}) outcome reason traffic).decisionTotals +
        .single .unknown (reason = .admittedStarvationGuard && !s.inLedger request) =
      s.decisionTotals + .single outcome (reason = .admittedStarvationGuard) := by
  unfold recordDecision inLedger
  by_cases hHeld :
    (request.subject.getD {}).kind = .serving ∧ s.ledger.contains (request.subject.getD {}).request
  · rcases Option.isSome_iff_exists.mp hHeld.2 with ⟨record, hRecord⟩
    have hCounts := s.ledger.recordDecision_decided hRecord
      (request.subject.getD {}).attempt traffic outcome reason request.payloadBytes
    have hNone : DecisionCounts.single .unknown false = 0 := rfl
    simp only [hHeld, and_self, if_true, decide_true, Bool.not_true, Bool.and_false, hNone,
      add_zero]
    apply decisionTotals_raise s traffic
    · refine (congrArg (· + _) (congrFun hCounts traffic)).trans ?_
      rw [update_self]
      exact add_right_comm _ _ _
    · intro other hOther
      refine (congrArg (· + _) (congrFun hCounts other)).trans ?_
      rw [update_of_ne hOther]
      rfl
  · rw [if_neg hHeld, decisionTotals_raise s traffic (.single outcome false)]
    · rw [add_assoc]
      simp [hHeld, DecisionCounts.single]
    · simp only [counted, accountDecision, if_true, add_assoc,
        ClassAccounting.recordOutcome_decided]
    · intro other hOther
      simp only [counted, accountDecision, hOther, if_false]

/- An evaluation is counted once, under its outcome. -/
theorem evaluate_decisionTotals :
    (s.evaluate request now victim).2.decisionTotals +
        .single .unknown (s.guardAdmits request now victim && !s.inLedger request) =
      s.decisionTotals + .single (s.evaluate request now victim).1.outcome
        ((s.evaluate request now victim).1.reason = .admittedStarvationGuard) := by
  rcases evaluate_built s request now victim with ⟨w, traffic, hRecorded, -⟩
  have hTotals : s.decisionTotals = (s.withWaiting w).mintStamp.2.decisionTotals := by
    rw [decisionTotals_eq, decisionTotals_eq]
    rfl
  have hInside : s.inLedger request = (s.withWaiting w).mintStamp.2.inLedger request := rfl
  have hGuard :
      decide ((s.evaluate request now victim).1.reason = .admittedStarvationGuard) =
        s.guardAdmits request now victim := by
    rw [Bool.eq_iff_iff, decide_eq_true_eq]
    exact s.evaluate_reason request now victim
  rw [hRecorded, hTotals, hInside, ← hGuard]
  exact recordDecision_decisionTotals _ request _ _ traffic

/- Every decision has one of the four outcomes. -/
theorem evaluate_outcome : (s.evaluate request now victim).1.outcome ≠ .unknown := by
  have hVerdict := evaluate_verdict s request now victim
  generalize (s.evaluate request now victim).1 = decision at hVerdict ⊢
  generalize (s.evaluate request now victim).2.waiting = after at hVerdict
  intro hUnknown
  cases hVerdict with
  | rejected _ _ hOutcome | deferred _ _ _ _ _ _ hOutcome => cases hUnknown.symm.trans hOutcome
  | granted _ _ _ _ _ hPermits | guarded _ _ _ _ _ _ _ hPermits =>
    rw [Decision.permitsTraffic, hUnknown] at hPermits
    cases hPermits

---
-- Runs
---

/- The decisions minted in a run. -/
def decisions (s : Coordinator) : List Op → List Decision
| [] => []
| op :: rest =>
  match op.evaluation with
  | none => (s.step op).decisions rest
  | some (request, now, victim) => (s.evaluate request now victim).1 :: (s.step op).decisions rest

/- How often the guard admits a subject outside the ledger. -/
def unseenGuards (s : Coordinator) : List Op → Nat
| [] => 0
| op :: rest =>
  match op.evaluation with
  | none => (s.step op).unseenGuards rest
  | some (request, now, victim) =>
    (s.guardAdmits request now victim && !s.inLedger request).toNat + (s.step op).unseenGuards rest

/- A run counts its decisions, up to the unseen guards. -/
theorem steps_decisionTotals :
    (s.steps ops).decisionTotals + (0, ofNat (s.unseenGuards ops)) =
      s.decisionTotals + .ofDecisions (s.decisions ops) := by
  induction ops generalizing s with
  | nil => rfl
  | cons op rest ih =>
    have hRest := ih (s.step op)
    rw [decisionTotals_eq (s.step op), s.step_counted op, ← decisionTotals_eq, asked] at hRest
    unfold unseenGuards decisions
    cases hAsks : op.evaluation with
    | none =>
      rw [hAsks] at hRest
      exact hRest
    | some asked =>
      rcases asked with ⟨request, now, victim⟩
      have hUnseen (unseen : Bool) (later : Nat) :
          ((0, ofNat (unseen.toNat + later)) : DecisionCounts) =
            (0, ofNat later) + DecisionCounts.single .unknown unseen := by
        rw [add_comm, ofNat_add]
        cases unseen with
        | _ => rfl
      rw [hAsks] at hRest
      simp only at hRest ⊢
      rw [hUnseen, DecisionCounts.ofDecisions_cons, ← add_assoc, ← add_assoc,
        ← s.evaluate_decisionTotals request now victim]
      change ((s.step op).steps rest).decisionTotals + _ + _ = _
      rw [hRest, add_right_comm]

theorem decisions_known : ∀ decision ∈ s.decisions ops, decision.outcome ≠ .unknown := by
  induction ops generalizing s with
  | nil => simp [decisions]
  | cons op rest ih =>
    unfold decisions
    split
    · exact ih _
    · exact List.forall_mem_cons.mpr ⟨evaluate_outcome s _ _ _, ih _⟩

/- A boot starts to count. -/
theorem Booted.decisionTotals {mt : Generator} {s : Coordinator} (hBooted : Booted mt s) :
    s.decisionTotals = 0 := by
  have hRestored (records : List RequestRecord) (ledger : RequestLedger) :
      (ledger.steps (records.map LedgerOp.restoreRecord)).decided = ledger.decided := by
    induction records generalizing ledger with
    | nil => rfl
    | cons record rest ih => exact (ih _).trans (ledger.step_decided (.restoreRecord record) id)
  have hNone : s.counted = fun _ => 0 := by
    rcases hBooted.ledger with ⟨ledger, restored, hLedger⟩
    rcases hBooted.volatile with ⟨base, hSame⟩
    have hDecided := hRestored restored ledger.clear
    rw [← hLedger] at hDecided
    have hTotals := congrArg transferClassAccounting hSame
    exact counted_congr (s := { base.clearState with ledger := ledger.clear }) hDecided hTotals
  rw [decisionTotals_eq, hNone]
  exact List.sum_map_zero

/-
  The report counts every decision of a run under its
  outcome. It counts the admissions by the guard exactly
  when the unseen ones vanish in the width of the counter.
-/
theorem decisions_counted {mt : Generator} {s : Coordinator}
    (hBooted : Booted mt s) (ops : List Op) :
    let counts := (s.steps ops).decisionTotals
    let minted := DecisionCounts.ofDecisions (s.decisions ops)
    counts.1 = minted.1 ∧
      counts.total = UInt64.ofNat (s.decisions ops).length ∧
      (counts.2 = minted.2 ↔ ofNat (s.unseenGuards ops) = 0) := by
  intro counts minted
  have hCounts : counts + (0, ofNat (s.unseenGuards ops)) = minted := by
    rw [steps_decisionTotals, hBooted.decisionTotals, zero_add]
  have hFirst : counts.1 = minted.1 := by rw [← hCounts, Prod.fst_add, add_zero]
  refine ⟨hFirst, ?_, ?_⟩
  · rw [← DecisionCounts.total_ofDecisions (s.decisions_known ops)]
    unfold DecisionCounts.total
    rw [hFirst]
  · rw [← hCounts, Prod.snd_add, left_eq_add]

theorem decisions_counted_sample :
    let ops := congestedTransferOps ++ [.evaluate ownedTraffic 7 0]
    let counts := (sampleStart.steps ops).decisionTotals
    Booted sampleGenerator sampleStart ∧
      counts.1 = (1, 0, 1, 0) ∧ counts.total = 2 ∧ counts.2 = 0 := by
  intro ops counts
  have hBooted : Booted sampleGenerator sampleStart := .fresh _
  rcases decisions_counted hBooted ops with ⟨hOutcomes, hTotal, hGuards⟩
  refine ⟨hBooted, hOutcomes.trans ?_, hTotal.trans ?_, (hGuards.mpr ?_).trans ?_⟩
  all_goals decide +kernel

/-
  A transfer waits for congestion and is then admitted by
  the guard. The report has no admission by the guard.
-/
theorem transfer_guard_uncounted :
    let asked := Op.evaluate ownedTraffic 7 0
    let ops := congestedTransferOps ++ [asked, asked]
    Booted sampleGenerator sampleStart ∧
      ownedTraffic.subject.map TrafficSubject.kind = some .transfer ∧
      (sampleStart.decisions ops).map Decision.reason =
        [.admitted, .deferredCongestion, .admittedStarvationGuard] ∧
      (sampleStart.steps ops).decisionTotals = ((2, 0, 1, 0), 0) := by
  intro asked ops
  refine ⟨.fresh _, ?_⟩
  decide +kernel

end Coordinator

end TrafficFabric
