import TrafficFabric.Core.Accounting
import TrafficFabric.Ledger.Record
import TrafficFabric.Library.Run
import TrafficFabric.Library.Table

/-
  The request ledger: the table of request records, the
  order in which requests became terminal, the open flows
  and the counters.

  Every operation returns its result with the ledger it
  leaves behind. A failed operation leaves the ledger as it
  was, except `recordFlowBytes`, whose failure on the
  totals of the request keeps the bytes already added to
  the flow.

  Main declarations:
    * `RequestLedger`
    * `RequestLedger.retire`
    * `RequestLedger.evictIfNeeded`
    * `LedgerOp`
-/

---
-- State
---

namespace TrafficFabric

/- An open flow as the ledger sees it. -/
structure LedgerFlow where
  id : FlowId := .nil
  request : RequestId := .nil
  attempt : AttemptId := .nil
  traffic : TrafficClass := .unknown
  declaredBytes : UInt64 := 0
  observedBytes : UInt64 := 0
  openedAtNanos : Int64 := 0
deriving DecidableEq

structure RequestLedger where
  limits : LedgerLimits := {}
  requests : Table RequestId RequestRecord := ∅
  terminalOrder : List RequestId := []
  flows : Table FlowId LedgerFlow := ∅
  flowsByRequest : Multimap RequestId FlowId := []
  nextFlowSequence : UInt64 := 0
  accounting : AccountingSnapshot := {}

def LedgerLimits.normalised (limits : LedgerLimits) : LedgerLimits :=
  { limits with
    maxAttemptsPerRequest :=
      if limits.maxAttemptsPerRequest = 0 ∨
          TrafficFabric.maxAttemptsPerRequest < limits.maxAttemptsPerRequest then
        TrafficFabric.maxAttemptsPerRequest
      else limits.maxAttemptsPerRequest
    maxLiveRequests := max limits.maxLiveRequests 1
    maxActiveFlowsTotal := max limits.maxActiveFlowsTotal 1
    maxActiveFlowsPerRequest := max limits.maxActiveFlowsPerRequest 1 }

namespace RequestLedger

/- A ledger as it is constructed. -/
def create (limits : LedgerLimits) : RequestLedger :=
  { limits := limits.normalised }

def clear (ledger : RequestLedger) : RequestLedger :=
  { limits := ledger.limits }

/- Update the counters. -/
def account (ledger : RequestLedger) (f : AccountingSnapshot → AccountingSnapshot) :
    RequestLedger :=
  { ledger with accounting := f ledger.accounting }

/- Store a record under the key it was found with. -/
def putRecord (ledger : RequestLedger) (id : RequestId) (record : RequestRecord) : RequestLedger :=
  { ledger with requests := ledger.requests.insert id record }

/- Rewrite an open flow. -/
def putFlow (ledger : RequestLedger) (flow : FlowId) (record : LedgerFlow) : RequestLedger :=
  { ledger with flows := ledger.flows.insert flow record }

end RequestLedger

namespace AccountingSnapshot

def flowOpened (accounting : AccountingSnapshot) (traffic : TrafficClass) : AccountingSnapshot :=
  { accounting with
    activeFlowsTotal := accounting.activeFlowsTotal + 1
    peakActiveFlowsTotal :=
      max accounting.peakActiveFlowsTotal (accounting.activeFlowsTotal + 1) }.withClass
    traffic (fun entry => { entry with
        activeFlows := entry.activeFlows + 1
        peakActiveFlows := max entry.peakActiveFlows (entry.activeFlows + 1) })

def flowClosed (accounting : AccountingSnapshot) (traffic : TrafficClass) : AccountingSnapshot :=
  { accounting with
    activeFlowsTotal :=
      if 0 < accounting.activeFlowsTotal then accounting.activeFlowsTotal - 1
      else accounting.activeFlowsTotal }.withClass
    traffic (fun entry => { entry with
        activeFlows :=
          if 0 < entry.activeFlows then entry.activeFlows - 1
          else entry.activeFlows })

end AccountingSnapshot

namespace RequestLedger

/- Close and erase one flow if it is open. -/
def dropFlow (ledger : RequestLedger) (flow : FlowId) : RequestLedger :=
  match ledger.flows.lookup flow with
  | none => ledger
  | some record =>
    { ledger with
      flows := ledger.flows.erase flow
      accounting := ledger.accounting.flowClosed record.traffic }

/- Close every flow indexed under a request. -/
def releaseRequestFlows (ledger : RequestLedger) (request : RequestId) : RequestLedger :=
  let dropped := (ledger.flowsByRequest.equalRange request).foldl dropFlow ledger
  { dropped with flowsByRequest := dropped.flowsByRequest.eraseKey request }

def refreshRequestCounts (ledger : RequestLedger) : RequestLedger :=
  ledger.account (fun accounting => { accounting with
      retainedRequests := ledger.terminalOrder.length
      liveRequests := ledger.requests.size - ledger.terminalOrder.length })

/- Remove a record from the ledger. -/
def evict (ledger : RequestLedger) (victim : RequestId) : RequestLedger :=
  { ledger with
    requests := ledger.requests.erase victim
    accounting := { ledger.accounting with
        requestsEvicted := ledger.accounting.requestsEvicted + 1 } }

def retainsTerminal (ledger : RequestLedger) (id : RequestId) : Bool :=
  (ledger.requests.lookup id).any (fun record => record.lifecycle.isTerminal)

/- One turn of the eviction loop for its front entry. -/
def evictFront (ledger : RequestLedger) : RequestLedger :=
  match ledger.terminalOrder with
  | [] => ledger
  | victim :: rest =>
    let popped := { ledger with terminalOrder := rest }
    if ledger.retainsTerminal victim then popped.evict victim
    else popped

/-
  The eviction loop. Every turn removes one entry, so the
  number of turns is the excess over the retention limit.
-/
def evictIfNeeded (ledger : RequestLedger) : RequestLedger :=
  refreshRequestCounts
    (evictFront^[ledger.terminalOrder.length - ledger.limits.maxRetainedTerminalRequests] ledger)

/-
  Common ending of the operations that make a request
  terminal: release its flows, store the record, append
  the identity to the order, count and evict.
-/
def retire (ledger : RequestLedger) (id ordered : RequestId) (record : RequestRecord)
    (count : AccountingSnapshot → AccountingSnapshot) : RequestLedger :=
  let released := ledger.releaseRequestFlows record.id
  let stored := released.putRecord id record.closeAccounting
  evictIfNeeded (account { stored with
        terminalOrder := stored.terminalOrder ++ [ordered] }
      count)

---
-- Lifecycle Operations
---

/- The `size_t` difference of live and terminal counts. -/
def liveCount (ledger : RequestLedger) : UInt64 :=
  UInt64.ofNat ledger.requests.size - UInt64.ofNat ledger.terminalOrder.length

def registerRequest (ledger : RequestLedger) (id : RequestId) (now : Int64) :
    Result RequestGeneration × RequestLedger :=
  if id.isNil then (.failure .invalidArgument "nil request id", ledger)
  else
    match ledger.requests.lookup id with
    | some existing =>
      if existing.lifecycle.isTerminal then
        (.failure .conflict "request id already exists in terminal state", ledger)
      else (.failure .alreadyExists "request id already registered", ledger)
    | none =>
      if ledger.limits.maxLiveRequests ≤ ledger.liveCount.toNat then
        (.failure .capacityExhausted "live request limit reached", ledger)
      else
        let record := RequestRecord.registered id now
        (.ok record.generation,
          ((ledger.putRecord id record).account (fun accounting => { accounting with
                requestsRegistered := accounting.requestsRegistered + 1 })).refreshRequestCounts)

def registerAttempt
    (ledger : RequestLedger) (id : RequestId) (attempt : AttemptId) (modelHash : UInt64)
    (modelGeneration : ModelGeneration) (routeGeneration : RouteDecisionGeneration) (now : Int64) :
    Result AttemptGeneration × RequestLedger :=
  if attempt.isNil then (.failure .invalidArgument "nil attempt id", ledger)
  else
    match ledger.requests.lookup id with
    | none => (.failure .notFound "unknown request", ledger)
    | some record =>
      match record.registerAttempt ledger.limits attempt modelHash modelGeneration routeGeneration
          now with
      | .error status => (.error status, ledger)
      | .ok (generation, updated) =>
        (.ok generation, (ledger.putRecord id updated).account (fun accounting => { accounting with
                attemptsRegistered := accounting.attemptsRegistered + 1 }))

def revalidateRequest (ledger : RequestLedger) (id : RequestId) (attempt : AttemptId)
    (now : Int64) : Result AttemptGeneration × RequestLedger :=
  match ledger.requests.lookup id with
  | none => (.failure .notFound "unknown request", ledger)
  | some record =>
    match record.revalidateRequest ledger.limits attempt now with
    | .error status => (.error status, ledger)
    | .ok (generation, updated) =>
      (.ok generation, (ledger.putRecord id updated).account (fun accounting => { accounting with
              attemptsRegistered := accounting.attemptsRegistered + 1 }))

def supersedeAttempt (ledger : RequestLedger) (id : RequestId) (attempt replacement : AttemptId)
    (now : Int64) : Result AttemptGeneration × RequestLedger :=
  if replacement.isNil then (.failure .invalidArgument "nil replacement id", ledger)
  else
    match ledger.requests.lookup id with
    | none => (.failure .notFound "unknown request", ledger)
    | some record =>
      match record.supersedeAttempt ledger.limits attempt replacement now with
      | .error status => (.error status, ledger)
      | .ok (generation, updated) =>
        (.ok generation, (ledger.putRecord id updated).account (fun accounting => { accounting with
                attemptsSuperseded := accounting.attemptsSuperseded + 1
                attemptsRegistered := accounting.attemptsRegistered + 1 }))

def setAttemptModel (ledger : RequestLedger) (id : RequestId) (attempt : AttemptId)
    (modelHash : UInt64) (modelGeneration : ModelGeneration) : Result Unit × RequestLedger :=
  match ledger.requests.lookup id with
  | none => (.failure .notFound "unknown request", ledger)
  | some record =>
    match record.setAttemptModel attempt modelHash modelGeneration with
    | .error status => (.error status, ledger)
    | .ok updated => (.ok (), ledger.putRecord id updated)

def advanceStage (ledger : RequestLedger) (id : RequestId) (attempt : AttemptId)
    (target : ServingStage) (now : Int64) : Result Unit × RequestLedger :=
  if target.isTerminal then
    (.failure .invalidArgument
      ("terminal stages are reached through " ++ "publish_completion or cancel_request"), ledger)
  else if target = .unknown then
    (.failure .invalidArgument "stage cannot regress to UNKNOWN", ledger)
  else
    match ledger.requests.lookup id with
    | none => (.failure .notFound "unknown request", ledger)
    | some record =>
      match record.advanceStage attempt target now with
      | .error status => (.error status, ledger)
      | .ok updated => (.ok (), ledger.putRecord id updated)

def failAttempt (ledger : RequestLedger) (id : RequestId) (attempt : AttemptId)
    (reason : ReasonCode) (now : Int64) : Result AttemptGeneration × RequestLedger :=
  match ledger.requests.lookup id with
  | none => (.failure .notFound "unknown request", ledger)
  | some record =>
    match record.failAttempt attempt reason now with
    | .error status => (.error status, ledger)
    | .ok (generation, none) => (.ok generation, ledger)
    | .ok (generation, some updated) =>
      (.ok generation, ledger.retire id id updated (fun accounting => { accounting with
            attemptsFailed := accounting.attemptsFailed + 1
            requestsFailed := accounting.requestsFailed + 1 }))

def cancelRequest (ledger : RequestLedger) (id : RequestId) (reason : ReasonCode)
    (sequence : AuthoritySequence) (now : Int64) : Result Unit × RequestLedger :=
  match ledger.requests.lookup id with
  | none => (.failure .notFound "unknown request", ledger)
  | some record =>
    match record.cancelRequest reason sequence now with
    | .error status => (.error status, ledger)
    | .ok (updated, false) => (.ok (), ledger.putRecord id updated)
    | .ok (updated, true) =>
      (.ok (), ledger.retire id id updated (fun accounting => { accounting with
            requestsCancelled := accounting.requestsCancelled + 1 }))

def markRequestInterrupted (ledger : RequestLedger) (id : RequestId) (now : Int64) :
    Result Unit × RequestLedger :=
  match ledger.requests.lookup id with
  | none => (.failure .notFound "unknown request", ledger)
  | some record =>
    if record.lifecycle.isTerminal then (.ok (), ledger)
    else
      let released := ledger.releaseRequestFlows record.id
      (.ok (),
        (released.putRecord id (record.markInterrupted now)).account
          (fun accounting => { accounting with
              requestsInterrupted := accounting.requestsInterrupted + 1 }))

def publishCompletion (ledger : RequestLedger) (publication : CompletionPublication) (now : Int64) :
    Result PublishOutcome × RequestLedger :=
  if publication.request.isNil || publication.attempt.isNil then
    (.failure .invalidArgument
      ("completion publication requires request " ++ "and attempt"), ledger)
  else
    match ledger.requests.lookup publication.request with
    | none => (.failure .notFound "unknown request", ledger)
    | some record =>
      let (outcome, updated) := record.publishCompletion publication now
      match outcome.disposition with
      | .refused =>
        (.ok outcome, ledger.account (fun accounting => { accounting with
              completionsRefused := accounting.completionsRefused + 1 }))
      | .duplicateSuppressed =>
        (.ok outcome, ledger.account (fun accounting => { accounting with
              completionsSuppressed := accounting.completionsSuppressed + 1 }))
      | .unknown | .committed =>
        (.ok outcome, ledger.retire publication.request record.id updated (fun accounting =>
              if publication.success then
                { accounting with
                  attemptsCompleted := accounting.attemptsCompleted + 1
                  requestsCompleted := accounting.requestsCompleted + 1
                  completionsCommitted := accounting.completionsCommitted + 1 }
              else
                { accounting with
                  attemptsFailed := accounting.attemptsFailed + 1
                  requestsFailed := accounting.requestsFailed + 1 }))

end RequestLedger

---
-- Flows And Decisions
---

/- Addition that refuses to wrap. -/
def checkedAdd (a b : UInt64) : Option UInt64 :=
  if UInt64.size ≤ a.toNat + b.toNat then none
  else some (a + b)

/- The flow identity the ledger issues. -/
def ledgerFlowId (sequence : UInt64) (id : RequestId) (attempt : AttemptId)
    (traffic : TrafficClass) : FlowId :=
  ⟨sequence,
    id.high ^^^ (id.low * (0x9E3779B97F4A7C15 : UInt64)) ^^^
      (attempt.high * (0xBF58476D1CE4E5B9 : UInt64)) ^^^ attempt.low ^^^
      ((Enumeration.code traffic).toUInt64 <<< 56)⟩

namespace ClassAccounting

/- Count one decision and the bytes it was about. -/
def recordOutcome (entry : ClassAccounting) (outcome : DecisionOutcome) (bytes : UInt64) :
    ClassAccounting :=
  match outcome with
  | .allowed =>
    { entry with
      allowed := entry.allowed + 1
      bytesAllowed := entry.bytesAllowed + bytes }
  | .degraded =>
    { entry with
      degraded := entry.degraded + 1
      bytesAllowed := entry.bytesAllowed + bytes }
  | .deferred =>
    { entry with
      deferred := entry.deferred + 1
      bytesDeferred := entry.bytesDeferred + bytes }
  | .rejected =>
    { entry with
      rejected := entry.rejected + 1
      bytesRejected := entry.bytesRejected + bytes }
  | .unknown => entry

end ClassAccounting

namespace AttemptRecord

def recordDecision (entry : AttemptRecord) (outcome : DecisionOutcome) : AttemptRecord :=
  { entry with
    decisions := entry.decisions + 1
    defers :=
      if outcome = .deferred then entry.defers + 1
      else entry.defers
    rejections :=
      if outcome = .rejected then entry.rejections + 1
      else entry.rejections }

end AttemptRecord

namespace RequestRecord

def recordDecision (record : RequestRecord) (attempt : AttemptId) (outcome : DecisionOutcome) :
    RequestRecord :=
  { record.updateAttempt attempt (fun entry => entry.recordDecision outcome) with
    decisions := record.decisions + 1
    defers :=
      if outcome = .deferred then record.defers + 1
      else record.defers
    rejections :=
      if outcome = .rejected then record.rejections + 1
      else record.rejections }

/- Add observed bytes to one of the request totals. -/
def recordBytes (record : RequestRecord) (bytes : UInt64) (inbound : Bool) : Result RequestRecord :=
  if inbound then
    match checkedAdd record.bytesIn bytes with
    | none => .failure .boundsExceeded "request inbound byte accounting overflow"
    | some total => .ok { record with bytesIn := total }
  else
    match checkedAdd record.bytesOut bytes with
    | none => .failure .boundsExceeded "request outbound byte accounting overflow"
    | some total => .ok { record with bytesOut := total }

def checkOpenFlow (limits : LedgerLimits) (record : RequestRecord) (attempt : AttemptId) :
    Result Unit :=
  if record.lifecycle = .cancelled then .failure .cancelled "cancelled request cannot open a flow"
  else if record.lifecycle.isTerminal then .failure .conflict "terminal request cannot open a flow"
  else if record.requiresRevalidation then
    .failure .revalidationRequired "request requires revalidation"
  else
    match record.findAttempt attempt with
    | none => .failure .notFound "unknown attempt"
    | some entry =>
      if !record.isCurrentAttempt attempt then
        .failure .staleGeneration "attempt is no longer current"
      else if entry.lifecycle = .superseded then .failure .staleGeneration "attempt was superseded"
      else if entry.lifecycle.isTerminal then
        .failure .conflict "terminal attempt cannot open a flow"
      else if limits.maxActiveFlowsPerRequest ≤ record.activeFlows.toNat then
        .failure .capacityExhausted "per-request active flow limit reached"
      else .ok ()

end RequestRecord

namespace RequestLedger

def openFlow (ledger : RequestLedger) (id : RequestId) (attempt : AttemptId)
    (traffic : TrafficClass) (declaredBytes : UInt64) (now : Int64) :
    Result FlowId × RequestLedger :=
  if traffic = .unknown then (.failure .invalidArgument "unknown traffic class for flow", ledger)
  else
    match ledger.requests.lookup id with
    | none => (.failure .notFound "unknown request", ledger)
    | some record =>
      match record.checkOpenFlow ledger.limits attempt with
      | .error status => (.error status, ledger)
      | .ok () =>
        if ledger.limits.maxActiveFlowsTotal ≤ ledger.accounting.activeFlowsTotal.toNat then
          (.failure .capacityExhausted "global active flow limit reached", ledger)
        else
          let sequence := ledger.nextFlowSequence + 1
          let flow := ledgerFlowId sequence id attempt traffic
          (.ok flow, { ledger with
              nextFlowSequence := sequence
              flows := ledger.flows.emplace flow
                { id := flow
                  request := id
                  traffic, declaredBytes
                  openedAtNanos := now }
              flowsByRequest := ledger.flowsByRequest ++ [(id, flow)]
              requests := ledger.requests.insert id { record with
                  activeFlows := record.activeFlows + 1 }
              accounting := ledger.accounting.flowOpened traffic })

def releaseFlow (ledger : RequestLedger) (flow : FlowId) : Result Unit × RequestLedger :=
  match ledger.flows.lookup flow with
  | none => (.failure .notFound "unknown flow", ledger)
  | some opened =>
    (.ok (), { ledger with
        accounting := ledger.accounting.flowClosed opened.traffic
        flows := ledger.flows.erase flow
        flowsByRequest := ledger.flowsByRequest.erase (opened.request, flow)
        requests := ledger.requests.modify opened.request (fun record => { record with
                activeFlows :=
                  if 0 < record.activeFlows then record.activeFlows - 1
                  else record.activeFlows }) })

def recordFlowBytes (ledger : RequestLedger) (flow : FlowId) (bytes : UInt64) (inbound : Bool) :
    Result Unit × RequestLedger :=
  match ledger.flows.lookup flow with
  | none => (.failure .notFound "unknown flow", ledger)
  | some opened =>
    match checkedAdd opened.observedBytes bytes with
    | none => (.failure .boundsExceeded "flow byte accounting overflow", ledger)
    | some updated =>
      let observed := ledger.putFlow flow { opened with observedBytes := updated }
      match ledger.requests.lookup opened.request with
      | none => (.ok (), observed)
      | some record =>
        match record.recordBytes bytes inbound with
        | .error status => (.error status, observed)
        | .ok total => (.ok (), observed.putRecord opened.request total)

def recordDecision (ledger : RequestLedger) (id : RequestId) (attempt : AttemptId)
    (traffic : TrafficClass) (outcome : DecisionOutcome) (reason : ReasonCode) (bytes : UInt64) :
    Result Unit × RequestLedger :=
  match ledger.requests.lookup id with
  | none => (.failure .notFound "unknown request", ledger)
  | some record =>
    (.ok (),
      (ledger.putRecord id
        (record.recordDecision attempt outcome)).account
        (fun accounting =>
          accounting.withClass traffic (fun entry =>
            let counted := entry.recordOutcome outcome bytes
            if reason = .admittedStarvationGuard then
              { counted with starvationAdmissions := counted.starvationAdmissions + 1 }
            else counted)))

def contains (ledger : RequestLedger) (id : RequestId) : Bool :=
  (ledger.requests.lookup id).isSome

def isCancelled (ledger : RequestLedger) (id : RequestId) : Bool :=
  (ledger.requests.lookup id).any (fun record => record.lifecycle == .cancelled)

def snapshotRequest (ledger : RequestLedger) (id : RequestId) : Option RequestRecord :=
  ledger.requests.lookup id

/- The live flows of a class, as the check counts them. -/
def flowsOfClass (ledger : RequestLedger) (traffic : TrafficClass) : UInt32 :=
  ledger.flows.values.foldl (fun count flow =>
      if flow.traffic = traffic then count + 1 else count)
    0

def verifyRecord (record : RequestRecord) : Result Unit :=
  if record.lifecycle.isTerminal && record.activeFlows != 0 then
    .failure .internal "terminal request retains active flows"
  else if !record.lifecycle.isTerminal && record.requiresRevalidation &&
      record.activeFlows != 0 then
    .failure .internal "interrupted request retains active flows"
  else .ok ()

def verifyClosure (ledger : RequestLedger) : Result Unit :=
  if UInt32.ofNat ledger.flows.size ≠ ledger.accounting.activeFlowsTotal then
    .failure .internal "active flow counter diverged from live flow records"
  else if (Enumeration.listed : List TrafficClass).any
      (fun traffic =>
        ledger.flowsOfClass traffic != (ledger.accounting.perClass traffic).activeFlows) then
    .failure .internal ("per-class active flow counter diverged from live " ++ "flow records")
  else ledger.requests.values.forM verifyRecord

/- Counters after a record is restored. -/
def countRestored (lifecycle : RequestLifecycle) (accounting : AccountingSnapshot) :
    AccountingSnapshot :=
  match lifecycle with
  | .completed =>
    { accounting with
      requestsCompleted := accounting.requestsCompleted + 1
      requestsRegistered := accounting.requestsRegistered + 1 }
  | .cancelled =>
    { accounting with
      requestsCancelled := accounting.requestsCancelled + 1
      requestsRegistered := accounting.requestsRegistered + 1 }
  | .failed =>
    { accounting with
      requestsFailed := accounting.requestsFailed + 1
      requestsRegistered := accounting.requestsRegistered + 1 }
  | .unknown | .registered | .active | .completing | .interrupted =>
    { accounting with
      requestsInterrupted := accounting.requestsInterrupted + 1
      requestsRegistered := accounting.requestsRegistered + 1 }

def restoreRecord (ledger : RequestLedger) (record : RequestRecord) : Result Unit × RequestLedger :=
  if record.id.isNil then (.failure .invalidArgument "restored record has nil identity", ledger)
  else if maxAttemptsPerRequest < record.attempts.length then
    (.failure .malformedInput "restored record exceeds attempt ceiling", ledger)
  else if (ledger.requests.lookup record.id).isSome then
    (.failure .alreadyExists "restored record duplicates a live request", ledger)
  else
    let ordered := { ledger with
        terminalOrder :=
          if record.lifecycle.isTerminal then ledger.terminalOrder ++ [record.id]
          else ledger.terminalOrder }
    (.ok (),
      evictIfNeeded
        (refreshRequestCounts
          ((ordered.putRecord record.id record.restored).account (countRestored record.lifecycle))))

/- Restore records until one is refused. -/
def restoreRecords (ledger : RequestLedger) : List RequestRecord → Result Unit × RequestLedger
| [] => (.ok (), ledger)
| record :: rest =>
  let restored := ledger.restoreRecord record
  match restored.1 with
  | .error status => (.error status, restored.2)
  | .ok () => restored.2.restoreRecords rest

/- Terminal records, newest first, up to a bound. -/
def exportTerminalRecords (ledger : RequestLedger) (maxRecords : Nat) : List RequestRecord :=
  (ledger.terminalOrder.reverse.filterMap (fun id => ledger.requests.lookup id)).take maxRecords

/- Every record that is not terminal. -/
def exportLiveRecords (ledger : RequestLedger) : List RequestRecord :=
  ledger.requests.values.filter (fun record => !record.lifecycle.isTerminal)

end RequestLedger

/- The public mutators of the ledger. -/
inductive LedgerOp
| registerRequest (id : RequestId) (now : Int64)
| registerAttempt
    (id : RequestId) (attempt : AttemptId) (modelHash : UInt64) (modelGeneration : ModelGeneration)
    (routeGeneration : RouteDecisionGeneration) (now : Int64)
| setAttemptModel
    (id : RequestId) (attempt : AttemptId) (modelHash : UInt64) (modelGeneration : ModelGeneration)
| revalidateRequest (id : RequestId) (attempt : AttemptId) (now : Int64)
| advanceStage (id : RequestId) (attempt : AttemptId) (target : ServingStage) (now : Int64)
| failAttempt (id : RequestId) (attempt : AttemptId) (reason : ReasonCode) (now : Int64)
| supersedeAttempt (id : RequestId) (attempt replacement : AttemptId) (now : Int64)
| cancelRequest (id : RequestId) (reason : ReasonCode) (sequence : AuthoritySequence) (now : Int64)
| markRequestInterrupted (id : RequestId) (now : Int64)
| publishCompletion (publication : CompletionPublication) (now : Int64)
| openFlow (id : RequestId) (attempt : AttemptId) (traffic : TrafficClass) (declaredBytes : UInt64)
    (now : Int64)
| releaseFlow (flow : FlowId)
| recordFlowBytes (flow : FlowId) (bytes : UInt64) (inbound : Bool)
| recordDecision
    (id : RequestId) (attempt : AttemptId) (traffic : TrafficClass) (outcome : DecisionOutcome)
    (reason : ReasonCode) (bytes : UInt64)
| restoreRecord (record : RequestRecord)
| clear

/- The request an operation names, if it names one. -/
def LedgerOp.request : LedgerOp → Option RequestId
| .registerRequest id _ | .registerAttempt id _ _ _ _ _
| .setAttemptModel id _ _ _ | .revalidateRequest id _ _
| .advanceStage id _ _ _ | .failAttempt id _ _ _
| .supersedeAttempt id _ _ _ | .cancelRequest id _ _ _
| .markRequestInterrupted id _ | .openFlow id _ _ _ _
| .recordDecision id _ _ _ _ _ => some id
| .publishCompletion publication _ => some publication.request
| .restoreRecord record => some record.id
| .releaseFlow _ | .recordFlowBytes _ _ _ | .clear => none

/- The ledger an operation leaves behind. -/
@[simp] def RequestLedger.step (ledger : RequestLedger) :
    LedgerOp → RequestLedger
| .registerRequest id now => (ledger.registerRequest id now).2
| .registerAttempt id attempt hash model route now =>
  (ledger.registerAttempt id attempt hash model route now).2
| .setAttemptModel id attempt hash model => (ledger.setAttemptModel id attempt hash model).2
| .revalidateRequest id attempt now => (ledger.revalidateRequest id attempt now).2
| .advanceStage id attempt target now => (ledger.advanceStage id attempt target now).2
| .failAttempt id attempt reason now => (ledger.failAttempt id attempt reason now).2
| .supersedeAttempt id attempt replacement now =>
  (ledger.supersedeAttempt id attempt replacement now).2
| .cancelRequest id reason sequence now => (ledger.cancelRequest id reason sequence now).2
| .markRequestInterrupted id now => (ledger.markRequestInterrupted id now).2
| .publishCompletion publication now => (ledger.publishCompletion publication now).2
| .openFlow id attempt traffic bytes now => (ledger.openFlow id attempt traffic bytes now).2
| .releaseFlow flow => (ledger.releaseFlow flow).2
| .recordFlowBytes flow bytes inbound => (ledger.recordFlowBytes flow bytes inbound).2
| .recordDecision id attempt traffic outcome reason bytes =>
  (ledger.recordDecision id attempt traffic outcome reason bytes).2
| .restoreRecord record => (ledger.restoreRecord record).2
| .clear => ledger.clear

/- A list of operations in order. -/
def RequestLedger.steps (ledger : RequestLedger) (ops : List LedgerOp) : RequestLedger :=
  ops.foldl step ledger

end TrafficFabric
