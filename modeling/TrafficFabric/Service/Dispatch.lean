import TrafficFabric.Codec.Messages
import TrafficFabric.Coordinator.Validation

/-
  What the service makes of the messages of its peers.

  A peer asks for a flow by sending back a decision. The
  decision is taken from the bytes of the message; nothing
  compares it with the decisions that were minted.
-/

namespace TrafficFabric

open Coordinator OpenFlowMessage

structure OpenFlowResponse where
  flow : FlowId := .nil
  authority : AuthorityStamp := {}
deriving DecidableEq

namespace CoordinatorService

/- The answer to the payload of an open flow message. -/
def handleOpenFlow (s : Coordinator) (payload : List UInt8) (now : Int64) :
    Result OpenFlowResponse × Coordinator :=
  match decodeBody decode payload with
  | .error status => (.error status, s)
  | .ok body =>
    let opened := s.openFlow body.decision body.declaredBytes now
    match opened.1 with
    | .error status => (.error status, opened.2)
    | .ok flow =>
      (.ok
        { flow
          authority := opened.2.authority }, opened.2)

theorem handleOpenFlow_eq_ok
    {s after : Coordinator} {payload : List UInt8} {now : Int64} {response : OpenFlowResponse}
    (hHandled : handleOpenFlow s payload now = (.ok response, after)) :
    ∃ body,
      decodeBody decode payload = .ok body ∧
        (s.openFlow body.decision body.declaredBytes now).1.isOk = true := by
  unfold handleOpenFlow at hHandled
  split at hHandled
  · cases hHandled
  · rename_i body hBody
    simp only at hHandled
    split at hHandled
    · cases hHandled
    · rename_i flow hFlow
      refine ⟨body, hBody, ?_⟩
      rw [hFlow]
      rfl

theorem openFlow_unknown {s : Coordinator} {decision : Decision} {declaredBytes : UInt64}
    {now : Int64} (hKind : decision.subject.kind = .unknown)
    (hOk : (s.openFlow decision declaredBytes now).1.isOk = true) :
    ∃ transfer,
      s.transfers.lookup decision.subject.transfer = some transfer := by
  unfold openFlow at hOk
  simp only [hKind, reduceCtorEq, if_false] at hOk
  split at hOk
  · cases hOk
  split at hOk
  · cases hOk
  split at hOk
  · cases hOk
  unfold openTransferFlow at hOk
  cases hTransfer : s.transfers.lookup decision.subject.transfer with
  | none =>
    rw [hTransfer] at hOk
    cases hOk
  | some transfer => exact ⟨transfer, rfl⟩

/-
  A flow is opened only for a decision under the current
  epoch, incarnation and policy, with a permitting outcome
  and a subject that may still be served. The sequence is
  compared with the floor of the request only.
-/
theorem opened_flow_authorized
    (s after : Coordinator) (payload : List UInt8) (now : Int64) (response : OpenFlowResponse)
    (hHandled : handleOpenFlow s payload now = (.ok response, after)) :
    ∃ body,
      decodeBody decode payload = .ok body ∧
        s.StampCurrent body.decision.authority ∧ body.decision.permitsTraffic = true ∧
        s.SubjectUse body.decision.subject body.decision.authority.sequence ∧
        (body.decision.subject.kind = .unknown →
          ∃ transfer, s.transfers.lookup body.decision.subject.transfer = some transfer) := by
  rcases handleOpenFlow_eq_ok hHandled with ⟨body, hBody, hOpened⟩
  rcases openFlow_use hOpened with ⟨hStamp, hPermits, hUse⟩
  exact ⟨body, hBody, hStamp, hPermits, hUse, fun hKind => openFlow_unknown hKind hOpened⟩

/- A request with an attempt, and nothing evaluated. -/
def unevaluatedOps : List Op :=
  [ .registerRequest ⟨0, 1⟩ 1, .registerAttempt ⟨0, 1⟩ ⟨0, 2⟩ 0 2 ]

def unevaluated : Coordinator :=
  sampleStart.steps unevaluatedOps

/- A decision a peer made up, with a sequence of its own. -/
def forgedMessage : OpenFlowMessage where
  decision :=
    { outcome := .allowed
      treatment := { trafficClass := .requestIngress }
      subject :=
        { kind := .serving
          request := ⟨0, 1⟩
          attempt := ⟨0, 2⟩
          requestGeneration := ⟨1⟩ }
      authority := { unevaluated.authority with sequence := ⟨1000⟩ } }
  declaredBytes := 64

theorem forgedMessage_transmissible : forgedMessage.decision.Transmissible true where
  named := by decide
  unnamed := by decide
  bound := by constructor <;> decide
  stamped := by decide
  explained := by decide

/- The bytes of the forged decision are accepted. -/
theorem decodeBody_forgedMessage :
    decodeBody decode (forgedMessage.layoutWith true) = .ok forgedMessage :=
  decodeBody_layout (decode_decodes true forgedMessage forgedMessage_transmissible)
    (by decide +kernel)

theorem opened_flow_authorized_forged :
    unevaluated.StampCurrent forgedMessage.decision.authority := by
  have hOpened :
      (unevaluated.openFlow forgedMessage.decision
        forgedMessage.declaredBytes 5).1.isOk = true := by
    decide
  have hHandled :
      ∃ response after,
        handleOpenFlow unevaluated (forgedMessage.layoutWith true) 5 = (.ok response, after) := by
    unfold handleOpenFlow
    rw [decodeBody_forgedMessage]
    rcases (Result.isOk_iff_exists _).mp hOpened with ⟨flow, hFlow⟩
    exact ⟨_, _, rfl⟩
  rcases hHandled with ⟨response, after, hHandled⟩
  rcases opened_flow_authorized unevaluated after
    (forgedMessage.layoutWith true) 5 response hHandled with ⟨body, hBody, hStamp, -⟩
  rw [decodeBody_forgedMessage] at hBody
  cases hBody
  exact hStamp

/-
  In a run that evaluates nothing, a message with a made-up
  decision opens a flow.
-/
theorem forged_decision_opens :
    Run (Transition sampleGenerator) sampleStart
        (unevaluatedOps.map Label.op) unevaluated ∧
      unevaluated.authority.sequence = ⟨1⟩ ∧ forgedMessage.decision.authority.sequence = ⟨1000⟩ ∧
      (handleOpenFlow unevaluated (forgedMessage.layoutWith true) 5).1.isOk = true ∧
      (handleOpenFlow unevaluated (forgedMessage.layoutWith true) 5).2.flows.size = 1 := by
  have hHandled :
      handleOpenFlow unevaluated (forgedMessage.layoutWith true) 5 =
        let opened := unevaluated.openFlow forgedMessage.decision forgedMessage.declaredBytes 5
        match opened.1 with
        | .error status => (.error status, opened.2)
        | .ok flow =>
          (.ok
            { flow
              authority := opened.2.authority },
            opened.2) := by
    unfold handleOpenFlow
    rw [decodeBody_forgedMessage]
  rw [hHandled]
  exact ⟨run_steps _ _ unevaluatedOps, by decide, by decide, by decide, by decide⟩

end CoordinatorService

end TrafficFabric
