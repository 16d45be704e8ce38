import TrafficFabric.Coordinator.Soundness
import TrafficFabric.Library.Words

/-
  The deferral table by itself: its records, the counter of
  those that press on bulk traffic, and what an evaluation
  does to both.

  The functions of the coordinator that write the table are
  the operations of this module, applied to its part of the
  state.
-/

---
-- The Table
---

namespace TrafficFabric

open AList UInt64 DeferRecord

/- Deferral records and the pressure they make. -/
structure Waiting where
  records : Table UInt64 DeferRecord
  pressure : UInt32

def DeferRecord.first (subject : TrafficSubject) (traffic : TrafficClass) (shielded : Bool)
    (now : Int64) : DeferRecord where
  kind := subject.kind
  request := subject.request
  attempt := subject.attempt
  transfer := subject.transfer
  traffic
  count := 1
  firstDeferNanos := now
  lastDeferNanos := now
  starvationClass := shielded

/- The record after one more deferral. -/
def DeferRecord.again (record : DeferRecord) (now : Int64) : DeferRecord :=
  { record with
    count := record.count + 1
    lastDeferNanos := now }

namespace Waiting

def empty : Waiting where
  records := ∅
  pressure := 0

/- Forget a record and what it counted for. -/
def drop (w : Waiting) (key : UInt64) (record : DeferRecord) : Waiting where
  records := w.records.erase key
  pressure :=
    if record.starvationClass && 0 < w.pressure then w.pressure - 1
    else w.pressure

/- Forget the record at a position of the table. -/
def evict (w : Waiting) (victim : Nat) : Waiting :=
  match w.records.entries[victim % w.records.size]? with
  | none => w
  | some entry => w.drop entry.1 entry.2

/- Evict a record when the table is full. -/
def room (limit : UInt32) (victim : Nat) (w : Waiting) : Waiting :=
  if limit.toNat ≤ w.records.size then w.evict victim
  else w

/- Store the first record of a subject. -/
def start (w : Waiting) (key : UInt64) (record : DeferRecord) : Waiting where
  records := w.records.emplace key record
  pressure :=
    if record.starvationClass then w.pressure + 1
    else w.pressure

/- Forget a record of another subject under the key. -/
def own (w : Waiting) (subject : TrafficSubject) (traffic : TrafficClass) : Waiting :=
  match w.records.lookup (deferKey subject traffic) with
  | none => w
  | some record =>
    if deferMatches record subject then w
    else w.drop (deferKey subject traffic) record

/- Count one more deferral of a subject. -/
def note (limit : UInt32) (victim : Nat) (shielded : Bool) (now : Int64) (w : Waiting)
    (subject : TrafficSubject) (traffic : TrafficClass) : UInt32 × Waiting :=
  let owned := w.own subject traffic
  match owned.records.lookup (deferKey subject traffic) with
  | none =>
    (1, (owned.room limit victim).start (deferKey subject traffic)
      (.first subject traffic shielded now))
  | some record =>
    (record.count + 1, { owned with
        records := owned.records.insert (deferKey subject traffic) (record.again now) })

/- Forget the record of a subject that was admitted. -/
def clear (w : Waiting) (subject : TrafficSubject) (traffic : TrafficClass) : Waiting :=
  match w.records.lookup (deferKey subject traffic) with
  | none => w
  | some record =>
    if !deferMatches record subject then w
    else w.drop (deferKey subject traffic) record

/- When the deferral of a subject began. -/
def firstDefer (w : Waiting) (subject : TrafficSubject) (traffic : TrafficClass) (now : Int64) :
    Int64 :=
  match w.records.lookup (deferKey subject traffic) with
  | none => now
  | some record => record.firstDeferNanos

end Waiting

/- The mixing of a word loses nothing. -/
theorem mix64_injective : Function.Injective mix64 := by
  intro a b hSame
  have hThird := xor_shiftRight_injective 31 (by decide) hSame
  have hScaled := mul_right_injective_of_inverse
    0x94D049BB133111EB 0x319642B2D24D8EC3 (by decide) hThird
  have hSecond := xor_shiftRight_injective 27 (by decide) hScaled
  have hFirst := mul_right_injective_of_inverse
    0xBF58476D1CE4E5B9 0x96DE1B173F119089 (by decide) hSecond
  exact xor_shiftRight_injective 30 (by decide) hFirst

/- The classes of one subject have different keys. -/
theorem deferKey_traffic_injective (subject : TrafficSubject) :
    Function.Injective (deferKey subject) := by
  intro a b hSame
  have hMixed :
      mix64
          ((Enumeration.code a).toUInt64 * (0x9E3779B97F4A7C15 : UInt64) +
            (0x165667B19E3779F9 : UInt64)) =
        mix64
          ((Enumeration.code b).toUInt64 * (0x9E3779B97F4A7C15 : UInt64) +
            (0x165667B19E3779F9 : UInt64)) := by
    unfold deferKey at hSame
    split at hSame
    · simpa only [xor_left_inj] using hSame
    · simpa only [xor_left_inj] using hSame
  have hScaled := add_left_inj _ |>.mp (mix64_injective hMixed)
  have hCode := mul_right_injective_of_inverse
    0x9E3779B97F4A7C15 0xF1DE83E19937733D (by decide) hScaled
  exact Enumeration.code_injective (UInt16.toUInt64_inj.mp hCode)

---
-- Counting
---

/- What a record adds to the pressure. -/
def DeferRecord.weight (record : DeferRecord) : Nat :=
  if record.starvationClass then 1 else 0

theorem DeferRecord.weight_le_one (record : DeferRecord) : record.weight ≤ 1 := by
  unfold weight
  split
  · exact Nat.le_refl 1
  · exact Nat.zero_le 1

namespace Waiting

/-
  The table stays within its limit, and the counter is the
  number of protected records.
-/
structure Counted (limit : UInt32) (w : Waiting) : Prop where
  bounded : w.records.size ≤ max 1 limit.toNat
  exact : w.pressure.toNat = w.records.total weight

variable {limit : UInt32} {w : Waiting} {key : UInt64}

theorem counted_empty : empty.Counted limit := ⟨Nat.zero_le _, rfl⟩

/- The pressure after a record is forgotten. -/
theorem toNat_pressure_drop (w : Waiting) (key : UInt64) (record : DeferRecord) :
    (w.drop key record).pressure.toNat = w.pressure.toNat - record.weight := by
  unfold drop weight
  by_cases hShielded : record.starvationClass = true
  · by_cases hPositive : 0 < w.pressure
    · have hNat := UInt32.lt_iff_toNat_lt.mp hPositive
      have hLe : (1 : UInt32) ≤ w.pressure := by exact hNat
      simp only [hShielded, hPositive, decide_true, Bool.and_self, if_true]
      rw [UInt32.toNat_sub_of_le _ _ hLe]
      rfl
    · have hZero : w.pressure.toNat = 0 := by
        exact Nat.eq_zero_of_not_pos hPositive
      simp [hShielded, hPositive, hZero]
  · simp [hShielded]

/- Forgetting a stored record keeps the count. -/
theorem Counted.drop (hCounted : w.Counted limit) {record : DeferRecord}
    (hHeld : w.records.lookup key = some record) : (w.drop key record).Counted limit := by
  have hTotal := total_erase_of_some weight hHeld
  have hSize := size_erase_of_some w.records key record hHeld
  have hBounded := hCounted.bounded
  have hExact := hCounted.exact
  refine ⟨?_, ?_⟩
  · change (w.records.erase key).size ≤ _
    omega
  · rw [toNat_pressure_drop]
    change _ = (w.records.erase key).total _
    omega

/- An evicted record was stored. -/
theorem lookup_of_getElem {position : Nat} {entry : Sigma fun _ : UInt64 => DeferRecord}
    (hEntry : w.records.entries[position]? = some entry) :
    w.records.lookup entry.1 = some entry.2 := by
  have hMem := List.mem_of_getElem? hEntry
  exact (mem_entries_iff w.records entry.1 entry.2).mp hMem

theorem Counted.evict (hCounted : w.Counted limit) (victim : Nat) :
    (w.evict victim).Counted limit := by
  unfold Waiting.evict
  split
  · exact hCounted
  · rename_i entry hEntry
    exact hCounted.drop (lookup_of_getElem hEntry)

/- After making room there is room. -/
theorem size_room (hCounted : w.Counted limit) (victim : Nat) :
    (w.room limit victim).records.size < max 1 limit.toNat := by
  have hBounded := hCounted.bounded
  unfold room
  split
  · unfold evict
    split
    · rename_i hNone
      rw [List.getElem?_eq_none_iff] at hNone
      change w.records.size ≤ victim % w.records.size at hNone
      have hEmpty : w.records.size = 0 := by
        by_contra hSome
        have hBelow := Nat.mod_lt victim (Nat.pos_of_ne_zero hSome)
        omega
      omega
    · rename_i entry hEntry
      have hSize := size_erase_of_some w.records entry.1 entry.2 (lookup_of_getElem hEntry)
      change (w.records.erase entry.1).size < _
      omega
  · omega

theorem Counted.room (hCounted : w.Counted limit) (victim : Nat) :
    (w.room limit victim).Counted limit := by
  unfold Waiting.room
  split
  · exact hCounted.evict victim
  · exact hCounted

/- Storing a first record where there is room for it. -/
theorem Counted.start (hCounted : w.Counted limit) (record : DeferRecord)
    (hFresh : w.records.lookup key = none) (hRoom : w.records.size < max 1 limit.toNat) :
    (w.start key record).Counted limit := by
  have hTotal := total_insert_of_none weight record hFresh
  have hSize := size_insert_of_none w.records key record hFresh
  have hExact := hCounted.exact
  have hLimit := limit.toNat_lt
  have hFits := total_le_size weight weight_le_one w.records
  have hRecords : (w.start key record).records = w.records.insert key record :=
    emplace_of_none w.records key record hFresh
  have hPressure :
      (w.start key record).pressure.toNat = (w.pressure.toNat + record.weight) % 2 ^ 32 := by
    unfold Waiting.start weight
    have hBelow := w.pressure.toNat_lt
    by_cases hShielded : record.starvationClass = true
    · simp only [hShielded, if_true]
      rfl
    · simp only [hShielded, Bool.false_eq_true, if_false]
      exact (Nat.mod_eq_of_lt hBelow).symm
  refine ⟨?_, ?_⟩
  · rw [hRecords, hSize]
    exact hRoom
  · have hWeight := record.weight_le_one
    rw [hRecords, hTotal, hPressure, Nat.mod_eq_of_lt]
    · omega
    · omega

theorem Counted.own (hCounted : w.Counted limit) (subject : TrafficSubject)
    (traffic : TrafficClass) : (w.own subject traffic).Counted limit := by
  unfold Waiting.own
  split
  · exact hCounted
  · rename_i record hHeld
    split
    · exact hCounted
    · exact hCounted.drop hHeld

theorem Counted.clear (hCounted : w.Counted limit) (subject : TrafficSubject)
    (traffic : TrafficClass) : (w.clear subject traffic).Counted limit := by
  unfold Waiting.clear
  split
  · exact hCounted
  · rename_i record hHeld
    split
    · exact hCounted
    · exact hCounted.drop hHeld

/- Making room adds nothing under a key. -/
theorem lookup_room_of_none (hNone : w.records.lookup key = none) (victim : Nat) :
    (w.room limit victim).records.lookup key = none := by
  unfold Waiting.room Waiting.evict
  split
  · split
    · exact hNone
    · change (w.records.erase _).lookup key = none
      rw [lookup_erase_if, hNone]
      split
      · rfl
      · rfl
  · exact hNone

/- Counting one more deferral. -/
theorem Counted.note (hCounted : w.Counted limit) (victim : Nat) (shielded : Bool) (now : Int64)
    (subject : TrafficSubject) (traffic : TrafficClass) :
    (w.note limit victim shielded now subject traffic).2.Counted limit := by
  have hOwned := hCounted.own subject traffic
  unfold Waiting.note
  simp only
  split
  · rename_i hNone
    exact (hOwned.room victim).start _ (lookup_room_of_none hNone victim) (size_room hOwned victim)
  · rename_i record hHeld
    have hTotal := total_insert_of_some weight (record.again now) hHeld
    have hSize := size_insert_of_some (w.own subject traffic).records _ (record.again now)
      record hHeld
    have hWeight : (record.again now).weight = record.weight := rfl
    have hExact := hOwned.exact
    refine ⟨?_, ?_⟩
    · rw [hSize]
      exact hOwned.bounded
    · change (w.own subject traffic).pressure.toNat = AList.total _ (AList.insert _ _ _)
      omega

/- A property of every entry of the table. -/
def Each (P : UInt64 → DeferRecord → Prop) (w : Waiting) : Prop :=
  ∀ key record, w.records.lookup key = some record → P key record

variable {P : UInt64 → DeferRecord → Prop}

theorem Each.drop (hEach : w.Each P) (key : UInt64) (record : DeferRecord) :
    (w.drop key record).Each P :=
  fun other held hHeld => hEach other held (lookup_of_erase hHeld).2

theorem Each.own (hEach : w.Each P) (subject : TrafficSubject) (traffic : TrafficClass) :
    (w.own subject traffic).Each P := by
  unfold Waiting.own
  split
  · exact hEach
  · split
    · exact hEach
    · exact hEach.drop _ _

theorem Each.clear (hEach : w.Each P) (subject : TrafficSubject) (traffic : TrafficClass) :
    (w.clear subject traffic).Each P := by
  unfold Waiting.clear
  split
  · exact hEach
  · split
    · exact hEach
    · exact hEach.drop _ _

theorem Each.room (hEach : w.Each P) (limit : UInt32) (victim : Nat) :
    (w.room limit victim).Each P := by
  unfold Waiting.room Waiting.evict
  split
  · split
    · exact hEach
    · exact hEach.drop _ _
  · exact hEach

/- Counting a deferral adds a first record or renews one. -/
theorem Each.note (hEach : w.Each P) {subject : TrafficSubject} {traffic : TrafficClass}
    {shielded : Bool} {now : Int64}
    (hFirst : P (deferKey subject traffic) (.first subject traffic shielded now))
    (hAgain : ∀ key record, P key record → P key (record.again now)) (limit : UInt32)
    (victim : Nat) : (w.note limit victim shielded now subject traffic).2.Each P := by
  have hOwned := hEach.own subject traffic
  unfold Waiting.note
  simp only
  split
  · intro key record hHeld
    rcases lookup_emplace_cases hHeld with hOld | ⟨rfl, rfl⟩
    · exact hOwned.room limit victim key record hOld
    · exact hFirst
  · rename_i held hFound
    intro key record hHeld
    rcases lookup_insert_cases hHeld with ⟨rfl, rfl⟩ | ⟨-, hOld⟩
    · exact hAgain _ held (hOwned _ held hFound)
    · exact hOwned key record hOld

end Waiting

namespace Coordinator

def waiting (s : Coordinator) : Waiting where
  records := s.defers
  pressure := s.streamingDeferrals

def withWaiting (s : Coordinator) (w : Waiting) : Coordinator :=
  { s with
    defers := w.records
    streamingDeferrals := w.pressure }

variable (s : Coordinator) (request : TrafficRequest) (subject : TrafficSubject)
variable (traffic : TrafficClass)

theorem clearDefer_eq :
    s.clearDefer subject traffic = s.withWaiting (s.waiting.clear subject traffic) := by
  unfold clearDefer Waiting.clear waiting
  cases hHeld : s.defers.lookup (deferKey subject traffic) with
  | none => rfl
  | some record =>
    simp only
    split
    · rfl
    · rfl

theorem dropForeignDefer_eq :
    s.dropForeignDefer subject traffic = s.withWaiting (s.waiting.own subject traffic) := by
  unfold dropForeignDefer Waiting.own waiting
  cases hHeld : s.defers.lookup (deferKey subject traffic) with
  | none => rfl
  | some record =>
    simp only
    split
    · rfl
    · rfl

theorem evictDeferRecords_eq (victim : Nat) :
    s.evictDeferRecords victim = s.withWaiting (s.waiting.evict victim) := by
  unfold evictDeferRecords Waiting.evict waiting
  cases hEntry : s.defers.entries[victim % s.defers.size]? with
  | none | some => rfl

theorem addDefer_eq (now : Int64) (victim : Nat) :
    s.addDefer subject traffic now victim =
      s.withWaiting
        ((s.waiting.room s.config.limits.maxDeferRecords
          victim).start (deferKey subject traffic)
            (.first subject traffic (s.policy.rule traffic).starvationProtected now)) := by
  unfold addDefer Waiting.room
  rw [evictDeferRecords_eq]
  by_cases hFull : s.config.limits.maxDeferRecords.toNat ≤ s.defers.size
  · have hTable : s.config.limits.maxDeferRecords.toNat ≤ s.waiting.records.size := hFull
    rw [if_pos hFull, if_pos hTable]
    rfl
  · have hTable : ¬ s.config.limits.maxDeferRecords.toNat ≤ s.waiting.records.size := hFull
    rw [if_neg hFull, if_neg hTable]
    rfl

/- Counting a deferral as the table alone sees it. -/
def noted (now : Int64) (victim : Nat) : UInt32 × Waiting :=
  s.waiting.note s.config.limits.maxDeferRecords victim
    (s.policy.rule traffic).starvationProtected now subject traffic

theorem noteDefer_eq (now : Int64) (victim : Nat) :
    s.noteDefer subject traffic now victim =
      ((s.noted subject traffic now victim).1,
        s.withWaiting (s.noted subject traffic now victim).2) := by
  unfold noteDefer noted Waiting.note
  rw [dropForeignDefer_eq]
  simp only
  split
  · rename_i hNone
    change (s.waiting.own subject traffic).records.lookup (deferKey subject traffic) = none at hNone
    rw [hNone, addDefer_eq]
    rfl
  · rename_i record hHeld
    change (s.waiting.own subject traffic).records.lookup
      (deferKey subject traffic) = some record at hHeld
    rw [hHeld]
    rfl

---
-- Evaluations
---

/-
  The four ways an evaluation ends, with the decision it
  returns and the deferral table it leaves.
-/
inductive Verdict (s : Coordinator) (request : TrafficRequest) (now : Int64) (victim : Nat) :
    Decision → Waiting → Prop
| rejected (decision : Decision) (refusal : Refusal)
    (hRefused : s.admissionOf request (request.subject.getD {}) now = .error refusal)
    (hOutcome : decision.outcome = .rejected) (hReason : decision.reason = refusal.reason) :
    Verdict s request now victim decision s.waiting
| granted (decision : Decision) (subject : TrafficSubject) (admission : Admission)
    (hSubject : request.subject = some subject)
    (hAdmitted : s.admissionOf request subject now = .ok admission)
    (hFree : s.deferReason request admission.effective now = none)
    (hPermits : decision.permitsTraffic = true)
    (hReason :
      decision.reason =
        (lowered request (s.policy.rule admission.effective) admission).degrade.getD .admitted)
    (hClass : decision.treatment.trafficClass = admission.effective) :
    Verdict s request now victim decision (s.waiting.clear subject admission.effective)
| guarded
    (decision : Decision) (subject : TrafficSubject) (admission : Admission) (reason : ReasonCode)
    (hSubject : request.subject = some subject)
    (hAdmitted : s.admissionOf request subject now = .ok admission)
    (hWaits : s.deferReason request admission.effective now = some reason)
    (hExhausted :
      deferExhausted (s.policy.rule admission.effective)
        (s.noted subject admission.effective now victim).1
        ((s.noted subject admission.effective now
          victim).2.firstDefer subject admission.effective now) now = true)
    (hPermits : decision.permitsTraffic = true)
    (hReason : decision.reason = .admittedStarvationGuard)
    (hClass : decision.treatment.trafficClass = admission.effective) :
    Verdict s request now victim decision
      ((s.noted subject admission.effective now victim).2.clear subject admission.effective)
| deferred (decision : Decision) (subject : TrafficSubject) (admission : Admission)
    (hSubject : request.subject = some subject)
    (hAdmitted : s.admissionOf request subject now = .ok admission)
    (hWaits : s.deferReason request admission.effective now = some decision.reason)
    (hOpen :
      deferExhausted (s.policy.rule admission.effective)
        (s.noted subject admission.effective now victim).1
        ((s.noted subject admission.effective now
          victim).2.firstDefer subject admission.effective now) now = false)
    (hOutcome : decision.outcome = .deferred)
    (hClass : decision.treatment.trafficClass = admission.effective) :
    Verdict s request now victim decision (s.noted subject admission.effective now victim).2

variable {s : Coordinator} {request : TrafficRequest} {subject : TrafficSubject}
variable {admission : Admission}

/- Accounting a decision leaves the table alone. -/
theorem build_waiting (outcome : DecisionOutcome) (reason : ReasonCode) (traffic : TrafficClass)
    (log : ExplanationLog) :
    (s.build request subject outcome reason traffic log).2.waiting = s.waiting := by
  unfold build recordDecision
  split
  · rfl
  · rfl

theorem grant_permits (byGuard : Bool) :
    (s.grant request subject admission byGuard).1.permitsTraffic = true := by
  unfold grant build Decision.permitsTraffic
  cases byGuard with
  | true => rfl
  | false =>
    simp only
    split_ifs
    all_goals rfl

/- An evaluation ends in one of the four ways. -/
theorem evaluate_verdict (s : Coordinator) (request : TrafficRequest) (now : Int64) (victim : Nat) :
    Verdict s request now victim (s.evaluate request now victim).1
      (s.evaluate request now victim).2.waiting := by
  unfold evaluate
  simp only
  cases hAdmitted : s.admissionOf request (request.subject.getD {}) now with
  | error refusal =>
    rw [build_waiting]
    exact .rejected _ refusal hAdmitted rfl rfl
  | ok admission =>
    rcases admissionOf_subject hAdmitted with ⟨subject, hSubject⟩
    simp only [hSubject, Option.getD_some] at hAdmitted ⊢
    cases hWaits : s.deferReason request admission.effective now with
    | none =>
      rw [clearDefer_eq]
      unfold grant
      rw [build_waiting]
      refine .granted _ subject admission hSubject hAdmitted hWaits ?_ ?_ ?_
      · exact grant_permits false
      · rfl
      · exact grant_trafficClass false
    | some reason =>
      unfold deferOrGuard
      rw [noteDefer_eq]
      simp only
      split
      · rename_i hExhausted
        rw [clearDefer_eq]
        unfold grant
        rw [build_waiting]
        refine .guarded _ subject admission reason hSubject hAdmitted hWaits hExhausted ?_ ?_ ?_
        · rfl
        · rfl
        · exact grant_trafficClass true
      · rename_i hOpen
        unfold defer
        rw [build_waiting]
        refine .deferred _ subject admission hSubject hAdmitted hWaits ?_ rfl rfl
        rw [Bool.not_eq_true] at hOpen
        exact hOpen

/- What first and renewed records have, all records keep. -/
theorem evaluate_each {P : UInt64 → DeferRecord → Prop} (hEach : s.waiting.Each P)
    (now : Int64) (victim : Nat)
    (hFirst :
      ∀ subject admission, request.subject = some subject →
        s.admissionOf request subject now = .ok admission →
        s.deferReason request admission.effective now ≠ none →
        P (deferKey subject admission.effective)
          (.first subject admission.effective
            (s.policy.rule admission.effective).starvationProtected now))
    (hAgain : ∀ key record, P key record → P key (record.again now)) :
    (s.evaluate request now victim).2.waiting.Each P := by
  have hVerdict := evaluate_verdict s request now victim
  generalize (s.evaluate request now victim).1 = decision at hVerdict
  generalize (s.evaluate request now victim).2.waiting = next at hVerdict ⊢
  cases hVerdict with
  | rejected => exact hEach
  | granted subject admission => exact hEach.clear subject _
  | guarded subject admission reason hSubject hOk hWaits =>
    exact (hEach.note (hFirst subject admission hSubject hOk (by simp [hWaits])) hAgain _ _).clear
      subject _
  | deferred subject admission hSubject hOk hWaits =>
    exact hEach.note (hFirst subject admission hSubject hOk (by simp [hWaits])) hAgain _ _

theorem permitsTraffic_of_deferred {decision : Decision}
    (hDeferred : decision.outcome = .deferred) : decision.permitsTraffic = false := by
  rw [Decision.permitsTraffic, hDeferred]
  rfl

/- What is deferred was admissible. -/
theorem admitted_of_deferred {now : Int64} {victim : Nat}
    (hDeferred : (s.evaluate request now victim).1.outcome = .deferred) :
    ∃ subject admission,
      request.subject = some subject ∧ s.admissionOf request subject now = .ok admission := by
  have hVerdict := evaluate_verdict s request now victim
  generalize (s.evaluate request now victim).1 = decision at hVerdict hDeferred
  generalize (s.evaluate request now victim).2.waiting = waiting at hVerdict
  cases hVerdict with
  | rejected _ _ hOutcome => cases hOutcome.symm.trans hDeferred
  | granted subject admission hSubject hAdmitted | guarded subject admission _ hSubject hAdmitted
  | deferred subject admission hSubject hAdmitted => exact ⟨subject, admission, hSubject, hAdmitted⟩

/-
  The states differ in the deferral table, the sequence and
  where decisions are accounted.
-/
def Evaluated (s t : Coordinator) : Prop :=
  ∃ sequence ledger accounting, t = { s.withWaiting t.waiting with
        authoritySequence := sequence
        ledger
        transferClassAccounting := accounting }

/-
  Whatever an evaluation finds, it ends by building one
  decision after the table was written.
-/
theorem evaluate_built (s : Coordinator) (request : TrafficRequest) (now : Int64) (victim : Nat) :
    ∃ w traffic,
      (s.evaluate request now victim).2 =
          (s.withWaiting w).mintStamp.2.recordDecision request (request.subject.getD {})
            (s.evaluate request now victim).1.outcome (s.evaluate request now victim).1.reason
            traffic ∧
        (s.evaluate request now victim).1.authority = s.advanceSequence.authority ∧
        (s.evaluate request now victim).1.subject = request.subject.getD {} := by
  unfold evaluate
  simp only
  split
  · exact ⟨s.waiting, _, rfl, rfl, rfl⟩
  · split
    · rw [clearDefer_eq]
      exact ⟨_, _, rfl, rfl, rfl⟩
    · unfold deferOrGuard
      rw [noteDefer_eq]
      simp only
      split
      · rw [clearDefer_eq]
        exact ⟨_, _, rfl, rfl, rfl⟩
      · exact ⟨_, _, rfl, rfl, rfl⟩

theorem evaluate_subject (s : Coordinator) (request : TrafficRequest) (now : Int64) (victim : Nat) :
    (s.evaluate request now victim).1.subject = request.subject.getD {} := by
  rcases evaluate_built s request now victim with ⟨w, traffic, -, -, hSubject⟩
  exact hSubject

theorem evaluate_frame (s : Coordinator) (request : TrafficRequest) (now : Int64) (victim : Nat) :
    Evaluated s (s.evaluate request now victim).2 := by
  rcases evaluate_built s request now victim with ⟨w, traffic, hBuilt, -⟩
  rw [hBuilt]
  unfold recordDecision
  split
  · exact ⟨_, _, _, rfl⟩
  · exact ⟨_, _, _, rfl⟩

end Coordinator

/- An attempt, a record and a class without their decisions. -/
def AttemptRecord.undecided (entry : AttemptRecord) : AttemptRecord :=
  { entry with
    decisions := 0
    defers := 0
    rejections := 0 }

def RequestRecord.undecided (record : RequestRecord) : RequestRecord :=
  { record with
    attempts := record.attempts.map AttemptRecord.undecided
    decisions := 0
    defers := 0
    rejections := 0 }

def ClassAccounting.undecided (entry : ClassAccounting) : ClassAccounting where
  activeFlows := entry.activeFlows
  peakActiveFlows := entry.peakActiveFlows

/- The ledgers differ in what they count decisions by. -/
structure RequestLedger.Recounted (before after : RequestLedger) : Prop where
  rest :
    after = { before with
        requests := after.requests
        accounting := { before.accounting with perClass := after.accounting.perClass } }
  requests :
    ∀ id, (after.requests.lookup id).map RequestRecord.undecided =
      (before.requests.lookup id).map RequestRecord.undecided
  classes :
    ∀ traffic, (after.accounting.perClass traffic).undecided =
      (before.accounting.perClass traffic).undecided

theorem RequestRecord.undecided_recordDecision (record : RequestRecord) (attempt : AttemptId)
    (outcome : DecisionOutcome) :
    (record.recordDecision attempt outcome).undecided = record.undecided := by
  have hAttempts :
      (record.attempts.updateKey AttemptRecord.id attempt
          (fun entry => entry.recordDecision outcome)).map AttemptRecord.undecided =
        record.attempts.map AttemptRecord.undecided := by
    rw [List.map_updateKey AttemptRecord.id AttemptRecord.id AttemptRecord.undecided
      (fun _ => rfl) attempt (AttemptRecord.recordDecision · outcome) (fun entry => entry)
      (fun _ => rfl), List.updateKey_self]
  simp only [undecided, recordDecision, updateAttempt, hAttempts]

theorem ClassAccounting.undecided_recordOutcome (entry : ClassAccounting)
    (outcome : DecisionOutcome) (bytes : UInt64) :
    (entry.recordOutcome outcome bytes).undecided = entry.undecided := by
  cases outcome with
  | _ => rfl

/- Recording a decision counts it and does nothing else. -/
theorem RequestLedger.recordDecision_recounted
    (ledger : RequestLedger) (id : RequestId) (attempt : AttemptId) (traffic : TrafficClass)
    (outcome : DecisionOutcome) (reason : ReasonCode) (bytes : UInt64) :
    ledger.Recounted (ledger.recordDecision id attempt traffic outcome reason bytes).2 := by
  unfold recordDecision
  split
  · exact ⟨rfl, fun _ => rfl, fun _ => rfl⟩
  · rename_i record hRecord
    refine ⟨rfl, fun other => ?_, fun other => ?_⟩
    · change ((ledger.requests.insert id _).lookup other).map _ = _
      rw [lookup_insert_if]
      split
      · rename_i hSame
        rw [hSame, hRecord, Option.map_some, Option.map_some, record.undecided_recordDecision]
      · rfl
    · simp only [account, putRecord, AccountingSnapshot.perClass_withClass]
      split
      · split
        · exact ClassAccounting.undecided_recordOutcome _ outcome bytes
        · exact ClassAccounting.undecided_recordOutcome _ outcome bytes
      · rfl

namespace Coordinator

theorem nextSequence_eq (s : Coordinator) : s.nextSequence = ⟨s.authoritySequence.value + 1⟩ := by
  unfold nextSequence
  split
  · rename_i hUnset
    rw [(Generation.isUnset_iff _).mp hUnset]
    rfl
  · rfl

/-
  An evaluation moves the sequence by one, counts the
  decision and may write the deferral table. Everything
  else is as it was.
-/
theorem evaluation_framed (s : Coordinator) (request : TrafficRequest) (now : Int64)
    (victim : Nat) :
    ∃ w ledger accounting,
      (s.evaluate request now victim).2 = { s.withWaiting w with
          authoritySequence := ⟨s.authoritySequence.value + 1⟩
          ledger
          transferClassAccounting := accounting } ∧
        s.ledger.Recounted ledger ∧
        ∀ traffic,
          (accounting traffic).undecided = (s.transferClassAccounting traffic).undecided := by
  rcases evaluate_built s request now victim with ⟨w, traffic, hBuilt, -⟩
  rw [hBuilt, ← nextSequence_eq]
  unfold recordDecision
  split
  · refine ⟨w, _, s.transferClassAccounting, rfl, ?_, fun _ => rfl⟩
    exact s.ledger.recordDecision_recounted _ _ traffic _ _ _
  · refine ⟨w, s.ledger, _, rfl, ⟨rfl, fun _ => rfl, fun _ => rfl⟩, fun other => ?_⟩
    split
    · exact ClassAccounting.undecided_recordOutcome _ _ _
    · rfl

end Coordinator

end TrafficFabric
