import TrafficFabric.Core.Decision
import TrafficFabric.Core.Status
import TrafficFabric.Library.Keyed

/-
  Request and attempt records, and what each ledger
  operation does to the record it is about.

  Every operation below is the part of the ledger operation
  of the same name that reads and writes one request
  record: its guards in the order of the source, then its
  update. The ledger adds the lookup, the flow tables and
  the counters around it.

  The attempt array with its count is a list; the entry a
  lookup finds is the first one that bears the identity.
-/

namespace TrafficFabric

/- Compile-time ceiling on attempts per request. -/
def maxAttemptsPerRequest : Nat := 8

inductive RequestLifecycle
| unknown
| registered
| active
| completing
| completed
| cancelled
| failed
| interrupted
deriving DecidableEq, Inhabited

instance : Enumeration RequestLifecycle where
  listed :=
    [.unknown, .registered, .active, .completing, .completed, .cancelled, .failed, .interrupted]

def RequestLifecycle.isTerminal (lifecycle : RequestLifecycle) : Bool :=
  lifecycle == .completed || lifecycle == .cancelled || lifecycle == .failed

inductive AttemptLifecycle
| unknown
| registered
| active
| draining
| completed
| failed
| cancelled
| superseded
deriving DecidableEq, Inhabited

instance : Enumeration AttemptLifecycle where
  listed :=
    [.unknown, .registered, .active, .draining, .completed, .failed, .cancelled, .superseded]

def AttemptLifecycle.isTerminal (lifecycle : AttemptLifecycle) : Bool :=
  lifecycle == .completed || lifecycle == .failed ||
    lifecycle == .cancelled || lifecycle == .superseded

structure LedgerLimits where
  maxLiveRequests : Nat := 4096
  maxAttemptsPerRequest : Nat := 8
  maxRetainedTerminalRequests : Nat := 2048
  maxActiveFlowsPerRequest : Nat := 64
  maxActiveFlowsTotal : Nat := 65536
deriving DecidableEq

/- Limits as the source holds them, in 32 bits each. -/
def LedgerLimits.ofWords (live attempts retained perRequest total : UInt32) : LedgerLimits where
  maxLiveRequests := live.toNat
  maxAttemptsPerRequest := attempts.toNat
  maxRetainedTerminalRequests := retained.toNat
  maxActiveFlowsPerRequest := perRequest.toNat
  maxActiveFlowsTotal := total.toNat

structure AttemptRecord where
  id : AttemptId := .nil
  generation : AttemptGeneration := .unset
  stage : ServingStage := .unknown
  lifecycle : AttemptLifecycle := .unknown
  modelHash : UInt64 := 0
  modelGeneration : ModelGeneration := .unset
  routeGeneration : RouteDecisionGeneration := .unset
  successPublished : Bool := false
  failurePublished : Bool := false
  terminalReason : ReasonCode := .unknown
  bytesIn : UInt64 := 0
  bytesOut : UInt64 := 0
  decisions : UInt32 := 0
  defers : UInt32 := 0
  rejections : UInt32 := 0
  registeredAtNanos : Int64 := 0
  updatedAtNanos : Int64 := 0
deriving DecidableEq

structure RequestRecord where
  id : RequestId := .nil
  generation : RequestGeneration := .unset
  lifecycle : RequestLifecycle := .unknown
  stage : ServingStage := .unknown
  currentAttempt : AttemptId := .nil
  currentAttemptGeneration : AttemptGeneration := .unset
  attempts : List AttemptRecord := []
  terminalReason : ReasonCode := .unknown
  registeredAtNanos : Int64 := 0
  terminalAtNanos : Int64 := 0
  requiresRevalidation : Bool := false
  accountingClosed : Bool := false
  bytesIn : UInt64 := 0
  bytesOut : UInt64 := 0
  decisions : UInt32 := 0
  defers : UInt32 := 0
  rejections : UInt32 := 0
  activeFlows : UInt32 := 0
  authorityFloor : AuthoritySequence := .unset
deriving DecidableEq

namespace RequestRecord

/- The first attempt entry that bears the identity. -/
def findAttempt (record : RequestRecord) (attempt : AttemptId) : Option AttemptRecord :=
  record.attempts.findKey? AttemptRecord.id attempt

/- Rewrite the entry that `findAttempt` returns. -/
def updateAttempt (record : RequestRecord) (attempt : AttemptId)
    (f : AttemptRecord → AttemptRecord) : RequestRecord :=
  { record with attempts := record.attempts.updateKey AttemptRecord.id attempt f }

def isCurrentAttempt (record : RequestRecord) (attempt : AttemptId) : Bool :=
  !record.currentAttempt.isNil && record.currentAttempt == attempt

/- Looking up the current attempt finds the entry bound last. -/
def FindsLast (record : RequestRecord) : Prop :=
  record.findAttempt record.currentAttempt = record.attempts.getLast?

theorem FindsLast.getLast?_eq {record : RequestRecord} {attempt : AttemptId}
    (hFinds : record.FindsLast) (hCurrent : record.isCurrentAttempt attempt = true) :
    record.attempts.getLast? = record.findAttempt attempt := by
  unfold isCurrentAttempt at hCurrent
  simp only [Bool.and_eq_true, beq_iff_eq] at hCurrent
  rw [← hCurrent.2]
  exact hFinds.symm

def nextAttemptGeneration (record : RequestRecord) : AttemptGeneration :=
  ⟨UInt64.ofNat (record.attempts.length + 1)⟩

/- Append an entry and make it the current attempt. -/
def bindAttempt (record : RequestRecord) (entry : AttemptRecord) : RequestRecord :=
  { record with
    attempts := record.attempts ++ [entry]
    currentAttempt := entry.id
    currentAttemptGeneration := entry.generation
    stage := .unknown }

/- What `release_request_flows` writes to the record. -/
def closeAccounting (record : RequestRecord) : RequestRecord :=
  { record with
    activeFlows := 0
    accountingClosed := true }

/- The record `register_request` creates. -/
def registered (id : RequestId) (now : Int64) : RequestRecord :=
  { id
    generation := ⟨1⟩
    lifecycle := .registered
    stage := .unknown
    registeredAtNanos := now }

def registerAttempt
    (limits : LedgerLimits) (record : RequestRecord) (attempt : AttemptId) (modelHash : UInt64)
    (modelGeneration : ModelGeneration) (routeGeneration : RouteDecisionGeneration) (now : Int64) :
    Result (AttemptGeneration × RequestRecord) :=
  if record.lifecycle.isTerminal then
    .failure .conflict "request is terminal; a new attempt cannot be bound"
  else if record.requiresRevalidation then
    .failure .revalidationRequired
      ("request interrupted by coordinator restart " ++ "requires revalidation")
  else if (record.findAttempt attempt).isSome then
    .failure .alreadyExists "attempt id already bound to this request"
  else if limits.maxAttemptsPerRequest ≤ record.attempts.length then
    .failure .capacityExhausted "attempt limit reached for request"
  else
    let entry : AttemptRecord :=
      { id := attempt
        generation := record.nextAttemptGeneration
        stage := .unknown
        lifecycle := .registered
        modelHash, modelGeneration, routeGeneration
        registeredAtNanos := now
        updatedAtNanos := now }
    .ok (entry.generation, { record.bindAttempt entry with
        lifecycle :=
          if record.lifecycle = .interrupted then .active
          else record.lifecycle
        requiresRevalidation := false })

def revalidateRequest (limits : LedgerLimits) (record : RequestRecord) (attempt : AttemptId)
    (now : Int64) : Result (AttemptGeneration × RequestRecord) :=
  if record.lifecycle.isTerminal then .failure .conflict "terminal request cannot be revalidated"
  else if !record.requiresRevalidation then
    .failure .conflict "request does not require revalidation"
  else if attempt.isNil then .failure .invalidArgument "nil attempt id"
  else if limits.maxAttemptsPerRequest ≤ record.attempts.length then
    .failure .capacityExhausted "attempt limit reached for request"
  else
    let entry : AttemptRecord :=
      { id := attempt
        generation := record.nextAttemptGeneration
        stage := .unknown
        lifecycle := .registered
        registeredAtNanos := now
        updatedAtNanos := now }
    .ok (entry.generation, { record.bindAttempt entry with
        lifecycle := .active
        requiresRevalidation := false
        generation := record.generation.next })

def supersedeAttempt (limits : LedgerLimits) (record : RequestRecord)
    (attempt replacement : AttemptId) (now : Int64) : Result (AttemptGeneration × RequestRecord) :=
  if record.lifecycle.isTerminal then .failure .conflict "request is terminal"
  else
    match record.findAttempt attempt with
    | none => .failure .notFound "unknown attempt"
    | some entry =>
      if !record.isCurrentAttempt attempt then
        .failure .staleGeneration "attempt is no longer current"
      else if (record.findAttempt replacement).isSome then
        .failure .alreadyExists "replacement attempt id already used"
      else if limits.maxAttemptsPerRequest ≤ record.attempts.length then
        .failure .capacityExhausted "attempt limit reached for request"
      else
        let retired := record.updateAttempt attempt (fun old => { old with
              lifecycle := .superseded
              terminalReason := .attemptSuperseded
              updatedAtNanos := now })
        let fresh : AttemptRecord :=
          { id := replacement
            generation := record.nextAttemptGeneration
            stage := .unknown
            lifecycle := .registered
            modelHash := entry.modelHash
            modelGeneration := entry.modelGeneration
            registeredAtNanos := now
            updatedAtNanos := now }
        .ok (fresh.generation, { retired.bindAttempt fresh with
            generation := record.generation.next })

/- Rebind the model of an existing attempt. -/
def setAttemptModel (record : RequestRecord) (attempt : AttemptId) (modelHash : UInt64)
    (modelGeneration : ModelGeneration) : Result RequestRecord :=
  match record.findAttempt attempt with
  | none => .failure .notFound "unknown attempt"
  | some _ =>
    .ok (record.updateAttempt attempt (fun old => { old with modelHash, modelGeneration }))

---
-- Stages, Failure And Cancellation
---

def advanceStage (record : RequestRecord) (attempt : AttemptId) (target : ServingStage)
    (now : Int64) : Result RequestRecord :=
  if record.lifecycle = .cancelled then .failure .cancelled "request is cancelled"
  else if record.lifecycle.isTerminal then .failure .conflict "request is terminal"
  else if record.requiresRevalidation then
    .failure .revalidationRequired ("request requires revalidation after " ++ "coordinator restart")
  else
    match record.findAttempt attempt with
    | none => .failure .notFound "unknown attempt for request"
    | some entry =>
      if !record.isCurrentAttempt attempt then
        .failure .staleGeneration "attempt is no longer current"
      else if entry.lifecycle.isTerminal then .failure .conflict "attempt is terminal"
      else if !ServingStage.isLegalTransition entry.stage target then
        .failure .invalidTransition
          ("illegal stage transition " ++ entry.stage.label ++ " -> " ++ target.label)
      else
        let staged := record.updateAttempt attempt (fun old => { old with
              stage := target
              updatedAtNanos := now
              lifecycle :=
                if target = .completing then .draining
                else if old.lifecycle = .registered then .active
                else old.lifecycle })
        .ok { staged with
          stage := target
          lifecycle :=
            if target = .completing then .completing
            else record.lifecycle }

/-
  The outcome of `fail_attempt`: the attempt generation,
  and the failed record unless the attempt had failed
  before. The lifecycle of the request is not tested.
-/
def failAttempt (record : RequestRecord) (attempt : AttemptId) (reason : ReasonCode) (now : Int64) :
    Result (AttemptGeneration × Option RequestRecord) :=
  match record.findAttempt attempt with
  | none => .failure .notFound "unknown attempt"
  | some entry =>
    if !record.isCurrentAttempt attempt then
      .failure .staleGeneration "attempt is no longer current"
    else if entry.lifecycle.isTerminal then
      if entry.lifecycle = .failed then .ok (entry.generation, none)
      else .failure .conflict "attempt is terminal"
    else
      let marked := record.updateAttempt attempt (fun old => { old with
            lifecycle := .failed
            stage := .failed
            failurePublished := true
            terminalReason := reason
            updatedAtNanos := now })
      .ok (entry.generation, some { marked with
          lifecycle := .failed
          stage := .failed
          terminalReason := reason
          terminalAtNanos := now })

/- Raise the authority floor; it is never lowered. -/
def raiseFloor (record : RequestRecord) (sequence : AuthoritySequence) : RequestRecord :=
  if !sequence.isUnset && record.authorityFloor.value < sequence.value then
    { record with authorityFloor := sequence }
  else record

/- The attempt entries after a cancellation. -/
def cancelAttempts (reason : ReasonCode) (now : Int64) (attempts : List AttemptRecord) :
    List AttemptRecord :=
  attempts.map (fun entry =>
    if entry.lifecycle.isTerminal then entry
    else
      { entry with
        lifecycle := .cancelled
        stage := .cancelled
        terminalReason := reason
        updatedAtNanos := now })

/-
  The outcome of `cancel_request`: the record, and whether
  it became terminal in this call.
-/
def cancelRequest (record : RequestRecord) (reason : ReasonCode) (sequence : AuthoritySequence)
    (now : Int64) : Result (RequestRecord × Bool) :=
  if record.lifecycle = .cancelled then .ok (record.raiseFloor sequence, false)
  else if record.lifecycle.isTerminal then .failure .conflict "request already completed or failed"
  else
    let marked := { record with
        lifecycle := .cancelled
        stage := .cancelled
        terminalReason := reason
        terminalAtNanos := now
        requiresRevalidation := false
        attempts := cancelAttempts reason now record.attempts }
    .ok (marked.raiseFloor sequence, true)

/- The attempt entries after an interruption. -/
def interruptAttempts (now : Int64) (attempts : List AttemptRecord) : List AttemptRecord :=
  attempts.map (fun entry =>
    if entry.lifecycle.isTerminal then entry
    else
      { entry with
        lifecycle := .cancelled
        terminalReason := .cancelled
        updatedAtNanos := now })

def markInterrupted (record : RequestRecord) (now : Int64) : RequestRecord :=
  let marked := { record with
      lifecycle := .interrupted
      requiresRevalidation := true
      attempts := interruptAttempts now record.attempts }
  { marked.closeAccounting with accountingClosed := false }

def restored (record : RequestRecord) : RequestRecord :=
  if record.lifecycle.isTerminal then
    { record with
      accountingClosed := true
      activeFlows := 0 }
  else
    { record with
      lifecycle := .interrupted
      requiresRevalidation := true
      activeFlows := 0
      accountingClosed := false }

end RequestRecord

structure CompletionPublication where
  request : RequestId := .nil
  attempt : AttemptId := .nil
  attemptGeneration : AttemptGeneration := .unset
  success : Bool := true
  reason : ReasonCode := .unknown
  bytesIn : UInt64 := 0
  bytesOut : UInt64 := 0
deriving DecidableEq

inductive Disposition
| unknown
| committed
| duplicateSuppressed
| refused
deriving DecidableEq, Inhabited

structure PublishOutcome where
  disposition : Disposition := .unknown
  refusal : StatusCode := .ok
  reason : ReasonCode := .unknown
  accountedBytesIn : UInt64 := 0
  accountedBytesOut : UInt64 := 0
  releasedFlows : UInt32 := 0
deriving DecidableEq

def PublishOutcome.refuse (refusal : StatusCode) (reason : ReasonCode) : PublishOutcome :=
  { disposition := .refused
    refusal, reason }

def PublishOutcome.suppress : PublishOutcome :=
  { disposition := .duplicateSuppressed
    reason := .duplicateCompletionSuppressed }

namespace RequestRecord

/- The record after a committed failure report. -/
def commitFailure (record : RequestRecord) (publication : CompletionPublication) (now : Int64) :
    RequestRecord :=
  let reason :=
    if publication.reason = .unknown then ReasonCode.attemptFailed
    else publication.reason
  let marked := record.updateAttempt publication.attempt (fun old => { old with
        failurePublished := true
        lifecycle := .failed
        stage := .failed
        terminalReason := reason
        updatedAtNanos := now
        bytesIn := max old.bytesIn publication.bytesIn
        bytesOut := max old.bytesOut publication.bytesOut })
  { marked with
    lifecycle := .failed
    stage := .failed
    terminalReason := reason
    terminalAtNanos := now
    bytesIn := max record.bytesIn publication.bytesIn
    bytesOut := max record.bytesOut publication.bytesOut }

/- The record after a committed success report. -/
def commitSuccess (record : RequestRecord) (publication : CompletionPublication) (now : Int64) :
    RequestRecord :=
  let marked := record.updateAttempt publication.attempt (fun old => { old with
        successPublished := true
        lifecycle := .completed
        stage := .completed
        updatedAtNanos := now
        bytesIn := max old.bytesIn publication.bytesIn
        bytesOut := max old.bytesOut publication.bytesOut })
  { marked with
    lifecycle := .completed
    stage := .completed
    terminalReason := .committedCompletion
    terminalAtNanos := now
    bytesIn := max record.bytesIn publication.bytesIn
    bytesOut := max record.bytesOut publication.bytesOut }

/-
  The outcome of a publication and, when it is committed,
  the record it leaves before its flows are released.
-/
def publishCompletion (record : RequestRecord) (publication : CompletionPublication) (now : Int64) :
    PublishOutcome × RequestRecord :=
  match record.findAttempt publication.attempt with
  | none => (.refuse .staleGeneration .rejectedUnknownAttempt, record)
  | some entry =>
    if !publication.attemptGeneration.isUnset &&
        publication.attemptGeneration ≠ entry.generation then
      (.refuse .staleGeneration .rejectedStaleAttempt, record)
    else if record.lifecycle = .cancelled then
      (.refuse .cancelled .rejectedRequestCancelled, record)
    else if record.lifecycle = .completed then (.suppress, record)
    else if record.lifecycle.isTerminal then (.refuse .conflict .rejectedRequestTerminal, record)
    else if entry.lifecycle = .superseded then
      (.refuse .staleGeneration .rejectedStaleAttempt, record)
    else if entry.lifecycle = .failed then (.refuse .conflict .attemptFailed, record)
    else if entry.lifecycle = .cancelled then (.refuse .cancelled .rejectedRequestCancelled, record)
    else if !publication.success then
      if entry.failurePublished then (.suppress, record)
      else
        ({ disposition := .committed
           reason := .attemptFailed },
          record.commitFailure publication now)
    else if entry.successPublished then (.suppress, record)
    else
      ({ disposition := .committed
         reason := .committedCompletion
         accountedBytesIn := publication.bytesIn
         accountedBytesOut := publication.bytesOut
         releasedFlows := record.activeFlows },
        record.commitSuccess publication now)

end RequestRecord

end TrafficFabric
