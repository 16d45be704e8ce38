import TrafficFabric.Ledger.Ledger
import TrafficFabric.Ledger.View

/-
  Everything a ledger operation can answer and leave
  behind, as one relation. The guards and loops of the
  operations are read here once; what later modules say
  about a step is read off the relation.

  An operation that fails leaves the ledger as it was. The
  one exception is a byte report that fits its flow and
  overflows the total of its request.

  Main declarations:
    * `RequestLedger.succeeds`
    * `RequestLedger.Rewrites`
    * `RequestLedger.step_outcome`
    * `RequestLedger.failed_operation_unchanged`
-/

---
-- Counters
---

namespace TrafficFabric

open AccountingSnapshot

/- The counters that follow the requests of a ledger. -/
structure RequestCounts where
  registered : UInt64
  completed : UInt64
  cancelled : UInt64
  failed : UInt64
  evicted : UInt64
  live : Nat
  retained : Nat
deriving DecidableEq

namespace AccountingSnapshot

def requestCounts (accounting : AccountingSnapshot) : RequestCounts where
  registered := accounting.requestsRegistered
  completed := accounting.requestsCompleted
  cancelled := accounting.requestsCancelled
  failed := accounting.requestsFailed
  evicted := accounting.requestsEvicted
  live := accounting.liveRequests
  retained := accounting.retainedRequests

def flowCounts (accounting : AccountingSnapshot) : UInt32 × (TrafficClass → UInt32) :=
  (accounting.activeFlowsTotal, fun traffic => (accounting.perClass traffic).activeFlows)

/- How many requests have become terminal. -/
def ended (accounting : AccountingSnapshot) : UInt64 :=
  accounting.requestsCompleted + accounting.requestsCancelled + accounting.requestsFailed

/- Counting that touches neither requests nor flows. -/
structure Uncounted (f : AccountingSnapshot → AccountingSnapshot) :
    Prop where
  requests : ∀ accounting, (f accounting).requestCounts = accounting.requestCounts
  flows : ∀ accounting, (f accounting).flowCounts = accounting.flowCounts

/- Counting one request more that has become terminal. -/
structure CountsEnd (f : AccountingSnapshot → AccountingSnapshot) :
    Prop where
  ended : ∀ accounting, (f accounting).ended = accounting.ended + 1
  registered : ∀ accounting, (f accounting).requestsRegistered = accounting.requestsRegistered
  evicted : ∀ accounting, (f accounting).requestsEvicted = accounting.requestsEvicted
  flows : ∀ accounting, (f accounting).flowCounts = accounting.flowCounts

/- Decisions are counted apart from the flows. -/
theorem withClass_uncounted (traffic : TrafficClass) (g : ClassAccounting → ClassAccounting)
    (hFlows : ∀ entry, (g entry).activeFlows = entry.activeFlows) :
    Uncounted (fun accounting => accounting.withClass traffic g) where
  requests _ := rfl
  flows accounting := by
    refine Prod.ext rfl (funext fun other => ?_)
    simp only [flowCounts, perClass_withClass]
    split
    · exact hFlows _
    · rfl

end AccountingSnapshot

---
-- Outcomes
---

/- The request an operation adds when it succeeds. -/
def LedgerOp.newRequest : LedgerOp → Option RequestId
| .registerRequest id _ => some id
| .restoreRecord record => some record.id
| _ => none

/- One flow fewer, never below zero. -/
def RequestRecord.releaseOne (record : RequestRecord) : RequestRecord :=
  { record with
    activeFlows :=
      if 0 < record.activeFlows then record.activeFlows - 1
      else record.activeFlows }

namespace RequestLedger

/- The ledger `restore_record` leaves behind. -/
def restoring (ledger : RequestLedger) (record : RequestRecord) : RequestLedger :=
  evictIfNeeded (refreshRequestCounts (({ ledger with
        terminalOrder :=
          if record.lifecycle.isTerminal then ledger.terminalOrder ++ [record.id]
          else ledger.terminalOrder }.putRecord record.id
        record.restored).account (countRestored record.lifecycle)))

/- The ledger `open_flow` leaves behind. -/
def opening (ledger : RequestLedger) (record : RequestRecord) (id : RequestId) (flow : FlowId)
    (opened : LedgerFlow) : RequestLedger :=
  { ledger with
    nextFlowSequence := ledger.nextFlowSequence + 1
    flows := ledger.flows.emplace flow opened
    flowsByRequest := ledger.flowsByRequest ++ [(id, flow)]
    requests := ledger.requests.insert id { record with activeFlows := record.activeFlows + 1 }
    accounting := ledger.accounting.flowOpened opened.traffic }

/- The ledger `release_flow` leaves behind. -/
def closing (ledger : RequestLedger) (flow : FlowId) (opened : LedgerFlow) : RequestLedger :=
  { ledger with
    accounting := ledger.accounting.flowClosed opened.traffic
    flows := ledger.flows.erase flow
    flowsByRequest := ledger.flowsByRequest.erase (opened.request, flow)
    requests := ledger.requests.modify opened.request RequestRecord.releaseOne }

def newFlow (ledger : RequestLedger) (id : RequestId) (attempt : AttemptId) (traffic : TrafficClass)
    (bytes : UInt64) (now : Int64) : LedgerFlow where
  id := ledgerFlowId (ledger.nextFlowSequence + 1) id attempt traffic
  request := id
  traffic
  declaredBytes := bytes
  openedAtNanos := now

end RequestLedger

namespace RequestRecord

/- What lets an attempt of a request open a flow. -/
structure OpensFlow (limits : LedgerLimits) (record : RequestRecord) (attempt : AttemptId)
    (entry : AttemptRecord) : Prop where
  live : record.lifecycle.isTerminal = false
  valid : record.requiresRevalidation = false
  found : record.findAttempt attempt = some entry
  current : record.isCurrentAttempt attempt = true
  running : entry.lifecycle.isTerminal = false
  room : record.activeFlows.toNat < limits.maxActiveFlowsPerRequest

theorem opensFlow_of_check {limits : LedgerLimits} {record : RequestRecord} {attempt : AttemptId}
    (hOk : record.checkOpenFlow limits attempt = .ok ()) :
    ∃ entry, record.OpensFlow limits attempt entry := by
  unfold checkOpenFlow at hOk
  simp only [Result.guard_eq_ok_iff] at hOk
  rcases hOk with ⟨-, hLive, hValid, hAttempt⟩
  split at hAttempt
  · cases hAttempt
  · rename_i entry hFound
    simp only [Result.guard_eq_ok_iff, Bool.not_eq_true',
      Bool.not_eq_false, Bool.not_eq_true] at hAttempt
    rcases hAttempt with ⟨hCurrent, -, hRunning, hRoom, -⟩
    exact ⟨entry, by simpa using hLive, by simpa using hValid,
      hFound, hCurrent, hRunning, Nat.lt_of_not_le hRoom⟩

end RequestRecord

namespace RequestLedger

/- The operation rewrites a record and ends no request. -/
inductive Rewrites (limits : LedgerLimits) (id : RequestId) (record : RequestRecord) :
    LedgerOp → RequestRecord → Prop
| attemptRegistered (attempt : AttemptId) (hash : UInt64) (model : ModelGeneration)
    (route : RouteDecisionGeneration) (now : Int64) (generation : AttemptGeneration)
    (updated : RequestRecord) (hSet : attempt ≠ .nil)
    (hOk : record.registerAttempt limits attempt hash model route now = .ok (generation, updated)) :
    Rewrites limits id record (.registerAttempt id attempt hash model route now) updated
| revalidated
    (attempt : AttemptId) (now : Int64) (generation : AttemptGeneration) (updated : RequestRecord)
    (hOk : record.revalidateRequest limits attempt now = .ok (generation, updated)) :
    Rewrites limits id record (.revalidateRequest id attempt now) updated
| superseded (attempt replacement : AttemptId) (now : Int64) (generation : AttemptGeneration)
    (updated : RequestRecord) (hSet : replacement ≠ .nil)
    (hOk : record.supersedeAttempt limits attempt replacement now = .ok (generation, updated)) :
    Rewrites limits id record (.supersedeAttempt id attempt replacement now) updated
| modelSet (attempt : AttemptId) (hash : UInt64) (model : ModelGeneration) (updated : RequestRecord)
    (hOk : record.setAttemptModel attempt hash model = .ok updated) :
    Rewrites limits id record (.setAttemptModel id attempt hash model) updated
| stageAdvanced
    (attempt : AttemptId) (target : ServingStage) (now : Int64) (updated : RequestRecord)
    (hServing : target.isTerminal = false) (hKnown : target ≠ .unknown)
    (hOk : record.advanceStage attempt target now = .ok updated) :
    Rewrites limits id record (.advanceStage id attempt target now) updated
| cancelledAgain
    (reason : ReasonCode) (sequence : AuthoritySequence) (now : Int64) (updated : RequestRecord)
    (hOk : record.cancelRequest reason sequence now = .ok (updated, false)) :
    Rewrites limits id record (.cancelRequest id reason sequence now) updated
| decided
    (attempt : AttemptId) (traffic : TrafficClass) (outcome : DecisionOutcome) (reason : ReasonCode)
    (bytes : UInt64) :
    Rewrites limits id record (.recordDecision id attempt traffic outcome reason bytes)
      (record.recordDecision attempt outcome)

/- The operation makes the request terminal. -/
inductive Retires (id : RequestId) (record : RequestRecord) :
    LedgerOp → RequestId → RequestRecord → Prop
| failed (attempt : AttemptId) (reason : ReasonCode) (now : Int64) (generation : AttemptGeneration)
    (updated : RequestRecord)
    (hOk : record.failAttempt attempt reason now = .ok (generation, some updated)) :
    Retires id record (.failAttempt id attempt reason now) id updated
| cancelled
    (reason : ReasonCode) (sequence : AuthoritySequence) (now : Int64) (updated : RequestRecord)
    (hOk : record.cancelRequest reason sequence now = .ok (updated, true)) :
    Retires id record (.cancelRequest id reason sequence now) id updated
| published (publication : CompletionPublication) (now : Int64) (outcome : PublishOutcome)
    (updated : RequestRecord) (hId : publication.request = id)
    (hResult : record.publishCompletion publication now = (outcome, updated))
    (hCommitted : outcome.disposition = .committed) :
    Retires id record (.publishCompletion publication now) record.id updated

/-
  What an operation answers, success or failure, and the
  ledger it leaves behind.
-/
inductive Outcome (ledger : RequestLedger) :
    LedgerOp → Bool → RequestLedger → Prop
| refused (op : LedgerOp) : Outcome ledger op false ledger
| counted (op : LedgerOp) (f : AccountingSnapshot → AccountingSnapshot) (hOp : op.newRequest = none)
    (hCount : Uncounted f) : Outcome ledger op true (ledger.account f)
| rewritten (op : LedgerOp) (id : RequestId) (record updated : RequestRecord)
    (f : AccountingSnapshot → AccountingSnapshot)
    (hRecord : ledger.requests.lookup id = some record)
    (hRewrites : Rewrites ledger.limits id record op updated)
    (hCount : Uncounted f) :
    Outcome ledger op true ((ledger.putRecord id updated).account f)
| retired (op : LedgerOp) (id ordered : RequestId) (record updated : RequestRecord)
    (count : AccountingSnapshot → AccountingSnapshot)
    (hRecord : ledger.requests.lookup id = some record)
    (hRetires : Retires id record op ordered updated)
    (hCount : CountsEnd count) :
    Outcome ledger op true (ledger.retire id ordered updated count)
| interrupted (id : RequestId) (now : Int64) (record : RequestRecord)
    (f : AccountingSnapshot → AccountingSnapshot)
    (hRecord : ledger.requests.lookup id = some record)
    (hLive : record.lifecycle.isTerminal = false) (hCount : Uncounted f) :
    Outcome ledger (.markRequestInterrupted id now) true
      (((ledger.releaseRequestFlows record.id).putRecord id (record.markInterrupted now)).account f)
| registered (id : RequestId) (now : Int64) (hSet : id ≠ .nil)
    (hFresh : ledger.requests.lookup id = none)
    (hRoom : ledger.liveCount.toNat < ledger.limits.maxLiveRequests) :
    Outcome ledger (.registerRequest id now) true
      ((ledger.putRecord id
        (RequestRecord.registered id now)).account (fun accounting => { accounting with
              requestsRegistered := accounting.requestsRegistered + 1 })).refreshRequestCounts
| opened
    (id : RequestId) (attempt : AttemptId) (traffic : TrafficClass) (bytes : UInt64) (now : Int64)
    (record : RequestRecord) (hClass : traffic ≠ .unknown)
    (hRecord : ledger.requests.lookup id = some record)
    (hCheck : record.checkOpenFlow ledger.limits attempt = .ok ())
    (hRoom : ledger.accounting.activeFlowsTotal.toNat < ledger.limits.maxActiveFlowsTotal) :
    Outcome ledger (.openFlow id attempt traffic bytes now) true
      (ledger.opening record id (ledger.newFlow id attempt traffic bytes now).id
        (ledger.newFlow id attempt traffic bytes now))
| released (flow : FlowId) (opened : LedgerFlow) (hFlow : ledger.flows.lookup flow = some opened) :
    Outcome ledger (.releaseFlow flow) true (ledger.closing flow opened)
| observed (flow : FlowId) (bytes total : UInt64) (inbound : Bool) (opened : LedgerFlow)
    (hFlow : ledger.flows.lookup flow = some opened)
    (hTotal : checkedAdd opened.observedBytes bytes = some total)
    (hRecord : ledger.requests.lookup opened.request = none) :
    Outcome ledger (.recordFlowBytes flow bytes inbound) true
      (ledger.putFlow flow { opened with observedBytes := total })
| overflowed (flow : FlowId) (bytes total : UInt64) (inbound : Bool) (opened : LedgerFlow)
    (record : RequestRecord) (status : Status) (hFlow : ledger.flows.lookup flow = some opened)
    (hTotal : checkedAdd opened.observedBytes bytes = some total)
    (hRecord : ledger.requests.lookup opened.request = some record)
    (hError : record.recordBytes bytes inbound = .error status) :
    Outcome ledger (.recordFlowBytes flow bytes inbound) false
      (ledger.putFlow flow { opened with observedBytes := total })
| charged (flow : FlowId) (bytes total : UInt64) (inbound : Bool) (opened : LedgerFlow)
    (record updated : RequestRecord) (hFlow : ledger.flows.lookup flow = some opened)
    (hTotal : checkedAdd opened.observedBytes bytes = some total)
    (hRecord : ledger.requests.lookup opened.request = some record)
    (hOk : record.recordBytes bytes inbound = .ok updated) :
    Outcome ledger (.recordFlowBytes flow bytes inbound) true
      ((ledger.putFlow flow
        { opened with observedBytes := total }).putRecord opened.request updated)
| restored (record : RequestRecord) (hSet : record.id ≠ .nil)
    (hLength : record.attempts.length ≤ maxAttemptsPerRequest)
    (hFresh : ledger.requests.lookup record.id = none) :
    Outcome ledger (.restoreRecord record) true (ledger.restoring record)
| cleared : Outcome ledger .clear true ledger.clear

/- Whether an operation succeeds. -/
@[simp] def succeeds (ledger : RequestLedger) :
    LedgerOp → Bool
| .registerRequest id now => (ledger.registerRequest id now).1.isOk
| .registerAttempt id attempt hash model route now =>
  (ledger.registerAttempt id attempt hash model route now).1.isOk
| .setAttemptModel id attempt hash model => (ledger.setAttemptModel id attempt hash model).1.isOk
| .revalidateRequest id attempt now => (ledger.revalidateRequest id attempt now).1.isOk
| .advanceStage id attempt target now => (ledger.advanceStage id attempt target now).1.isOk
| .failAttempt id attempt reason now => (ledger.failAttempt id attempt reason now).1.isOk
| .supersedeAttempt id attempt replacement now =>
  (ledger.supersedeAttempt id attempt replacement now).1.isOk
| .cancelRequest id reason sequence now => (ledger.cancelRequest id reason sequence now).1.isOk
| .markRequestInterrupted id now => (ledger.markRequestInterrupted id now).1.isOk
| .publishCompletion publication now => (ledger.publishCompletion publication now).1.isOk
| .openFlow id attempt traffic bytes now => (ledger.openFlow id attempt traffic bytes now).1.isOk
| .releaseFlow flow => (ledger.releaseFlow flow).1.isOk
| .recordFlowBytes flow bytes inbound => (ledger.recordFlowBytes flow bytes inbound).1.isOk
| .recordDecision id attempt traffic outcome reason bytes =>
  (ledger.recordDecision id attempt traffic outcome reason bytes).1.isOk
| .restoreRecord record => (ledger.restoreRecord record).1.isOk
| .clear => true

---
-- Every Operation Has An Outcome
---

variable (ledger : RequestLedger)
variable (id : RequestId) (now : Int64) (attempt : AttemptId) (reason : ReasonCode)
variable (op : LedgerOp) (hash : UInt64) (model : ModelGeneration) (traffic : TrafficClass)
  (flow : FlowId)

/- Success that changes nothing. -/
theorem Outcome.same (hOp : op.newRequest = none) : Outcome ledger op true ledger :=
  .counted op (fun accounting => accounting) hOp ⟨fun _ => rfl, fun _ => rfl⟩

/- What an operation answers and leaves is an outcome. -/
def Answers (op : LedgerOp) : Prop :=
  Outcome ledger op (ledger.succeeds op) (ledger.step op)

theorem registerRequest_answers : ledger.Answers (.registerRequest id now) := by
  simp only [Answers, succeeds, step, registerRequest]
  split
  · exact .refused _
  rename_i hSet
  split
  · split
    · exact .refused _
    · exact .refused _
  · rename_i hFresh
    split
    · exact .refused _
    · rename_i hRoom
      exact .registered id now (by simpa using hSet) hFresh (Nat.lt_of_not_le hRoom)

theorem registerAttempt_answers (route : RouteDecisionGeneration) (now : Int64) :
    ledger.Answers (.registerAttempt id attempt hash model route now) := by
  simp only [Answers, succeeds, step, registerAttempt]
  split
  · exact .refused _
  rename_i hSet
  split
  · exact .refused _
  rename_i record hRecord
  split
  · exact .refused _
  · rename_i generation updated hOk
    dsimp only
    exact .rewritten _ id record updated _ hRecord
      (.attemptRegistered attempt hash model route now generation updated (by simpa using hSet) hOk)
      ⟨fun _ => rfl, fun _ => rfl⟩

theorem revalidateRequest_answers (now : Int64) :
    ledger.Answers (.revalidateRequest id attempt now) := by
  simp only [Answers, succeeds, step, revalidateRequest]
  split
  · exact .refused _
  rename_i record hRecord
  split
  · exact .refused _
  · rename_i generation updated hOk
    dsimp only
    exact .rewritten _ id record updated _ hRecord
      (.revalidated attempt now generation updated hOk) ⟨fun _ => rfl, fun _ => rfl⟩

theorem supersedeAttempt_answers (replacement : AttemptId) (now : Int64) :
    ledger.Answers (.supersedeAttempt id attempt replacement now) := by
  simp only [Answers, succeeds, step, supersedeAttempt]
  split
  · exact .refused _
  rename_i hSet
  split
  · exact .refused _
  rename_i record hRecord
  split
  · exact .refused _
  · rename_i generation updated hOk
    dsimp only
    exact .rewritten _ id record updated _ hRecord
      (.superseded attempt replacement now generation updated (by simpa using hSet) hOk)
      ⟨fun _ => rfl, fun _ => rfl⟩

theorem setAttemptModel_answers : ledger.Answers (.setAttemptModel id attempt hash model) := by
  simp only [Answers, succeeds, step, setAttemptModel]
  split
  · exact .refused _
  rename_i record hRecord
  split
  · exact .refused _
  · rename_i updated hOk
    exact .rewritten _ id record updated (fun accounting => accounting) hRecord
      (.modelSet attempt hash model updated hOk) ⟨fun _ => rfl, fun _ => rfl⟩

theorem advanceStage_answers (target : ServingStage) (now : Int64) :
    ledger.Answers (.advanceStage id attempt target now) := by
  simp only [Answers, succeeds, step, advanceStage]
  split
  · exact .refused _
  rename_i hServing
  split
  · exact .refused _
  rename_i hKnown
  split
  · exact .refused _
  rename_i record hRecord
  split
  · exact .refused _
  · rename_i updated hOk
    exact .rewritten _ id record updated (fun accounting => accounting) hRecord
      (.stageAdvanced attempt target now updated (by simpa using hServing) hKnown hOk)
      ⟨fun _ => rfl, fun _ => rfl⟩

theorem failAttempt_answers (now : Int64) :
    ledger.Answers (.failAttempt id attempt reason now) := by
  simp only [Answers, succeeds, step, failAttempt]
  split
  · exact .refused _
  rename_i record hRecord
  split
  · exact .refused _
  · exact .same ledger _ rfl
  · rename_i generation updated hOk
    refine .retired _ id id record updated _ hRecord
      (.failed attempt reason now generation updated hOk)
      ⟨?_, fun _ => rfl, fun _ => rfl, fun _ => rfl⟩
    intro accounting
    exact (add_assoc _ _ _).symm

theorem cancelRequest_answers (sequence : AuthoritySequence) (now : Int64) :
    ledger.Answers (.cancelRequest id reason sequence now) := by
  simp only [Answers, succeeds, step, cancelRequest]
  split
  · exact .refused _
  rename_i record hRecord
  split
  · exact .refused _
  · rename_i updated hOk
    exact .rewritten _ id record updated (fun accounting => accounting) hRecord
      (.cancelledAgain reason sequence now updated hOk) ⟨fun _ => rfl, fun _ => rfl⟩
  · rename_i updated hOk
    refine .retired _ id id record updated _ hRecord
      (.cancelled reason sequence now updated hOk)
      ⟨?_, fun _ => rfl, fun _ => rfl, fun _ => rfl⟩
    intro accounting
    unfold ended
    simp only
    ac_rfl

theorem markRequestInterrupted_answers : ledger.Answers (.markRequestInterrupted id now) := by
  simp only [Answers, succeeds, step, markRequestInterrupted]
  split
  · exact .refused _
  rename_i record hRecord
  split
  · exact .same ledger _ rfl
  · rename_i hLive
    dsimp only
    refine .interrupted id now record _ hRecord (by simpa using hLive) ?_
    exact ⟨fun _ => rfl, fun _ => rfl⟩

theorem publishCompletion_answers (publication : CompletionPublication) (now : Int64) :
    ledger.Answers (.publishCompletion publication now) := by
  simp only [Answers, succeeds, step, publishCompletion]
  split
  · exact .refused _
  split
  · exact .refused _
  rename_i record hRecord
  cases hResult : record.publishCompletion publication now with
  | mk outcome updated =>
  rcases RequestRecord.publishCompletion_cases ledger.limits hResult with
    ⟨hRefused, -⟩ | ⟨hSuppressed, -⟩ | ⟨hCommitted, -⟩
  · simp only [hRefused]
    refine .counted _ _ rfl ?_
    exact ⟨fun _ => rfl, fun _ => rfl⟩
  · simp only [hSuppressed]
    refine .counted _ _ rfl ?_
    exact ⟨fun _ => rfl, fun _ => rfl⟩
  · simp only [hCommitted]
    refine .retired _ publication.request record.id record updated _ hRecord
      (.published publication now outcome updated rfl hResult hCommitted) ?_
    cases publication.success with
    | true =>
      refine ⟨?_, fun _ => rfl, fun _ => rfl, fun _ => rfl⟩
      intro accounting
      unfold ended
      simp only [if_true]
      ac_rfl
    | false =>
      refine ⟨?_, fun _ => rfl, fun _ => rfl, fun _ => rfl⟩
      intro accounting
      exact (add_assoc _ _ _).symm

theorem openFlow_answers (bytes : UInt64) (now : Int64) :
    ledger.Answers (.openFlow id attempt traffic bytes now) := by
  simp only [Answers, succeeds, step, openFlow]
  split
  · exact .refused _
  rename_i hClass
  split
  · exact .refused _
  rename_i record hRecord
  split
  · exact .refused _
  rename_i hCheck
  split
  · exact .refused _
  · rename_i hRoom
    exact .opened id attempt traffic bytes now record hClass hRecord hCheck
      (Nat.lt_of_not_le hRoom)

theorem releaseFlow_answers : ledger.Answers (.releaseFlow flow) := by
  simp only [Answers, succeeds, step, releaseFlow]
  split
  · exact .refused _
  · rename_i opened hFlow
    exact .released flow opened hFlow

theorem recordFlowBytes_answers (bytes : UInt64) (inbound : Bool) :
    ledger.Answers (.recordFlowBytes flow bytes inbound) := by
  simp only [Answers, succeeds, step, recordFlowBytes]
  split
  · exact .refused _
  rename_i opened hFlow
  split
  · exact .refused _
  rename_i total hTotal
  split
  · rename_i hRecord
    exact .observed flow bytes total inbound opened hFlow hTotal hRecord
  rename_i record hRecord
  split
  · rename_i status hOk
    exact .overflowed flow bytes total inbound opened record status hFlow hTotal hRecord hOk
  · rename_i updated hOk
    exact .charged flow bytes total inbound opened record updated hFlow hTotal hRecord hOk

theorem recordDecision_answers (outcome : DecisionOutcome) (reason : ReasonCode) (bytes : UInt64) :
    ledger.Answers (.recordDecision id attempt traffic outcome reason bytes) := by
  simp only [Answers, succeeds, step, recordDecision]
  split
  · exact .refused _
  rename_i record hRecord
  refine .rewritten _ id record _ _ hRecord (.decided attempt traffic outcome reason bytes)
    (withClass_uncounted traffic _ ?_)
  intro entry
  have hCounted : (entry.recordOutcome outcome bytes).activeFlows = entry.activeFlows := by
    cases outcome with
    | _ => rfl
  split
  · exact hCounted
  · exact hCounted

theorem restoreRecord_answers (record : RequestRecord) :
    ledger.Answers (.restoreRecord record) := by
  simp only [Answers, succeeds, step, restoreRecord]
  split
  · exact .refused _
  rename_i hSet
  split
  · exact .refused _
  rename_i hLength
  split
  · exact .refused _
  · rename_i hFresh
    exact .restored record (by simpa using hSet)
      (Nat.le_of_not_lt hLength) (by simpa using hFresh)

/- Everything an operation can answer and leave behind. -/
theorem step_outcome : Outcome ledger op (ledger.succeeds op) (ledger.step op) := by
  cases op with
  | registerRequest => exact registerRequest_answers ..
  | registerAttempt => exact registerAttempt_answers ..
  | setAttemptModel => exact setAttemptModel_answers ..
  | revalidateRequest => exact revalidateRequest_answers ..
  | advanceStage => exact advanceStage_answers ..
  | failAttempt => exact failAttempt_answers ..
  | supersedeAttempt => exact supersedeAttempt_answers ..
  | cancelRequest => exact cancelRequest_answers ..
  | markRequestInterrupted => exact markRequestInterrupted_answers ..
  | publishCompletion => exact publishCompletion_answers ..
  | openFlow => exact openFlow_answers ..
  | releaseFlow => exact releaseFlow_answers ..
  | recordFlowBytes => exact recordFlowBytes_answers ..
  | recordDecision => exact recordDecision_answers ..
  | restoreRecord => exact restoreRecord_answers ..
  | clear => exact .cleared

end RequestLedger

---
-- Failures
---

theorem checkedAdd_eq_some {a b total : UInt64} (hSum : checkedAdd a b = some total) :
    total = a + b := by
  unfold checkedAdd at hSum
  split at hSum
  · cases hSum
  · cases hSum
    rfl

theorem pos_of_checkedAdd_eq_none {a b : UInt64} (hSum : checkedAdd a b = none) : b ≠ 0 := by
  intro hZero
  subst hZero
  unfold checkedAdd at hSum
  rw [if_neg] at hSum
  · cases hSum
  · simpa using a.toNat_lt

namespace RequestRecord

/- The total of a request that a byte report is added to. -/
def observedTotal (record : RequestRecord) (inbound : Bool) : UInt64 :=
  if inbound then record.bytesIn else record.bytesOut

theorem recordBytes_error_iff (record : RequestRecord) (bytes : UInt64) (inbound : Bool) :
    (∃ status,
      record.recordBytes bytes inbound = .error status) ↔
      checkedAdd (record.observedTotal inbound) bytes = none := by
  unfold recordBytes observedTotal
  cases inbound with
  | true =>
    simp only [if_true]
    split
    · rename_i hSum
      exact ⟨fun _ => hSum, fun _ => ⟨_, rfl⟩⟩
    · rename_i total hSum
      simp [hSum]
  | false =>
    simp only [Bool.false_eq_true, if_false]
    split
    · rename_i hSum
      exact ⟨fun _ => hSum, fun _ => ⟨_, rfl⟩⟩
    · rename_i total hSum
      simp [hSum]

end RequestRecord

namespace RequestLedger

variable {ledger : RequestLedger} {op : LedgerOp}

/- A refused operation that reports no bytes does nothing. -/
theorem step_of_refused (ledger : RequestLedger) (op : LedgerOp)
    (hRefused : ledger.succeeds op ≠ true)
    (hReport : ∀ flow bytes inbound, op ≠ .recordFlowBytes flow bytes inbound) :
    ledger.step op = ledger := by
  have hOutcome := step_outcome ledger op
  rw [Bool.eq_false_of_not_eq_true hRefused] at hOutcome
  generalize ledger.step op = after at hOutcome ⊢
  cases hOutcome with
  | refused => rfl
  | overflowed flow bytes total inbound => exact (hReport flow bytes inbound rfl).elim

/-
  The operation reports bytes that fit the open flow and
  overflow the total of its request.
-/
def OverflowsTotal (ledger : RequestLedger) (op : LedgerOp) : Prop :=
  ∃ flow bytes inbound opened total record,
    op = .recordFlowBytes flow bytes inbound ∧
      ledger.flows.lookup flow = some opened ∧ checkedAdd opened.observedBytes bytes = some total ∧
      ledger.requests.lookup opened.request = some record ∧
      checkedAdd (record.observedTotal inbound) bytes = none

/- Such a report is kept in the flow. -/
theorem step_ne_of_overflowsTotal (hOverflows : ledger.OverflowsTotal op) :
    ledger.step op ≠ ledger := by
  rcases hOverflows with ⟨flow, bytes, inbound, opened,
    total, record, hOp, hFlow, hTotal, hRecord, hSum⟩
  rcases (record.recordBytes_error_iff bytes inbound).mpr hSum with ⟨status, hError⟩
  have hStep : ledger.step op = ledger.putFlow flow { opened with observedBytes := total } := by
    rw [hOp]
    simp only [step, recordFlowBytes, hFlow, hTotal, hRecord, hError]
  intro hSame
  have hKept : some { opened with observedBytes := total } = some opened := by
    rw [← hFlow, ← AList.lookup_insert ledger.flows]
    exact congrArg (fun after : RequestLedger => after.flows.lookup flow) (hStep.symm.trans hSame)
  have hBytes : opened.observedBytes + bytes = opened.observedBytes := by
    rw [← checkedAdd_eq_some hTotal]
    exact congrArg LedgerFlow.observedBytes (Option.some.inj hKept)
  exact pos_of_checkedAdd_eq_none hSum (left_eq_add.mp hBytes.symm)

/-
  A failed operation leaves the ledger as it was, unless it
  reports bytes that overflow the total of a request after
  they were added to the flow.
-/
theorem failed_operation_unchanged (ledger : RequestLedger) (op : LedgerOp)
    (hFails : ledger.succeeds op = false) :
    ledger.step op = ledger ↔ ¬ ledger.OverflowsTotal op := by
  constructor
  · intro hSame hOverflows
    exact step_ne_of_overflowsTotal hOverflows hSame
  · intro hFits
    have hOutcome := step_outcome ledger op
    rw [hFails] at hOutcome
    generalize ledger.step op = after at hOutcome ⊢
    cases hOutcome with
    | refused => rfl
    | overflowed flow bytes total inbound opened record status hFlow hTotal hRecord hError =>
      exact (hFits ⟨flow, bytes, inbound, opened, total, record, rfl, hFlow, hTotal, hRecord,
        (record.recordBytes_error_iff bytes inbound).mp ⟨status, hError⟩⟩).elim

theorem failed_operation_unchanged_unattempted :
    let ledger := (create {}).step (.registerRequest ⟨1, 1⟩ 1)
    let op : LedgerOp := .openFlow ⟨1, 1⟩ ⟨2, 1⟩ .requestIngress 64 2
    ledger.succeeds op = false ∧ ledger.step op = ledger := by
  intro ledger op
  have hFails : ledger.succeeds op = false := by decide
  refine ⟨hFails, (failed_operation_unchanged ledger op hFails).mpr ?_⟩
  rintro ⟨_, _, _, _, _, _, hOp, -⟩
  change LedgerOp.openFlow _ _ _ _ _ = _ at hOp
  cases hOp

/-
  The first flow fills the inbound total of the request. A
  byte reported for the second one is refused and kept.
-/
theorem refused_report_kept :
    let request : RequestId := ⟨1, 1⟩
    let attempt : AttemptId := ⟨2, 1⟩
    let first := ledgerFlowId 1 request attempt .requestIngress
    let second := ledgerFlowId 2 request attempt .requestIngress
    let ledger :=
      (create {}).steps
        [.registerRequest request 1,
          .registerAttempt request attempt 0 .unset .unset 2,
          .openFlow request attempt .requestIngress 64 3,
          .openFlow request attempt .requestIngress 64 4,
          .recordFlowBytes first 0xFFFFFFFFFFFFFFFF true]
    let op : LedgerOp := .recordFlowBytes second 1 true
    let observed (state : RequestLedger) := (state.flows.lookup second).map LedgerFlow.observedBytes
    ledger.succeeds op = false ∧ observed ledger = some 0 ∧ observed (ledger.step op) = some 1 := by
  decide

end RequestLedger

end TrafficFabric
