import TrafficFabric.Coordinator.Transfers

/-
  The serving operations of the coordinator. Each one works
  through the ledger and releases the flows of a request
  whose authority ends.
-/

namespace TrafficFabric

namespace Coordinator

def registerRequest (s : Coordinator) (request : RequestId) (now : Int64) :
    Result RequestGeneration × Coordinator :=
  let registered := s.ledger.registerRequest request now
  (registered.1, s.withLedger registered.2)

/- The current generation of a model that is named. -/
def resolveModel (s : Coordinator) (modelHash : UInt64) : Result ModelGeneration :=
  if modelHash = 0 then .ok .unset
  else s.requireModelGeneration modelHash

def registerAttempt (s : Coordinator) (request : RequestId) (attempt : AttemptId)
    (modelHash : UInt64) (now : Int64) : Result AttemptGeneration × Coordinator :=
  match s.resolveModel modelHash with
  | .error status => (.error status, s)
  | .ok model =>
    let registered := s.ledger.registerAttempt request attempt modelHash model .unset now
    (registered.1, s.withLedger registered.2)

def revalidateRequest (s : Coordinator) (request : RequestId) (attempt : AttemptId) (now : Int64) :
    Result AttemptGeneration × Coordinator :=
  let revalidated := s.ledger.revalidateRequest request attempt now
  (revalidated.1, s.withLedger revalidated.2)

def advanceStage (s : Coordinator) (request : RequestId) (attempt : AttemptId)
    (target : ServingStage) (now : Int64) : Result Unit × Coordinator :=
  let advanced := s.ledger.advanceStage request attempt target now
  (advanced.1, s.withLedger advanced.2)

/- Release the flows of a request after a success. -/
def releaseOnSuccess {α : Type} (s : Coordinator) (result : Result α) (request : RequestId) :
    Coordinator :=
  if result.isOk then s.releaseRequestFlows request else s

/- The sequence advances whatever the ledger answers. -/
def cancelRequest (s : Coordinator) (request : RequestId) (reason : ReasonCode) (now : Int64) :
    Result Unit × Coordinator :=
  let cancelled := s.ledger.cancelRequest request reason s.nextSequence now
  (cancelled.1, (s.advanceSequence.withLedger cancelled.2).releaseOnSuccess cancelled.1 request)

def failAttempt (s : Coordinator) (request : RequestId) (attempt : AttemptId) (reason : ReasonCode)
    (now : Int64) : Result AttemptGeneration × Coordinator :=
  let failed := s.ledger.failAttempt request attempt reason now
  (failed.1, (s.withLedger failed.2).releaseOnSuccess failed.1 request)

/- Bind the model of a replacement, drop the old route. -/
def finishReplacement (s : Coordinator) (request : RequestId) (superseded replacement : AttemptId)
    (modelHash : UInt64) (model : ModelGeneration) : Coordinator :=
  { s with
    ledger := (s.ledger.setAttemptModel request replacement modelHash model).2
    routeDecisions := s.routeDecisions.erase superseded }

def replaceAttempt (s : Coordinator) (request : RequestId) (superseded replacement : AttemptId)
    (modelHash : UInt64) (now : Int64) : Result AttemptGeneration × Coordinator :=
  match s.resolveModel modelHash with
  | .error status => (.error status, s)
  | .ok model =>
    let replaced := s.ledger.supersedeAttempt request superseded replacement now
    match replaced.1 with
    | .error status => (.error status, s.withLedger replaced.2)
    | .ok generation =>
      (.ok generation,
        ((s.withLedger replaced.2).releaseRequestFlows
          request).finishReplacement request superseded replacement modelHash model)

/- Forget the oldest completion beyond the retained ones. -/
def trimCompletion (s : Coordinator) : Coordinator :=
  match s.completionOrder with
  | [] => s
  | victim :: rest =>
    if s.config.maxRetainedCompletionRecords < s.completionOrder.length then
      { s with
        completionOrder := rest
        completions := s.completions.erase victim }
    else s

/- Remember the outcome of a committed publication. -/
def retainCompletion (s : Coordinator) (request : RequestId) (outcome : PublishOutcome) :
    Coordinator :=
  let kept := { s with
      completions := s.completions.insert request outcome
      completionOrder := s.completionOrder ++ [request] }
  trimCompletion^[kept.completionOrder.length] kept

/- A suppressed duplicate repeats the retained totals. -/
def repeatTotals (s : Coordinator) (request : RequestId) (outcome : PublishOutcome) :
    PublishOutcome :=
  match s.completions.lookup request with
  | none => outcome
  | some existing =>
    if outcome.disposition = .duplicateSuppressed then
      { outcome with
        accountedBytesIn := existing.accountedBytesIn
        accountedBytesOut := existing.accountedBytesOut }
    else outcome

def publishCompletion (s : Coordinator) (publication : CompletionPublication) (now : Int64) :
    Result PublishOutcome × Coordinator :=
  let published := s.ledger.publishCompletion publication now
  let after := s.withLedger published.2
  match published.1 with
  | .error status => (.error status, after)
  | .ok outcome =>
    if outcome.disposition = .committed then
      (.ok outcome,
        (after.releaseRequestFlows
          publication.request).retainCompletion publication.request outcome)
    else (.ok (after.repeatTotals publication.request outcome), after)

end Coordinator

end TrafficFabric
