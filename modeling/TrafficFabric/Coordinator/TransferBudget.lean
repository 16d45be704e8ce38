import TrafficFabric.Coordinator.Fences
import TrafficFabric.Coordinator.FlowChanges
import TrafficFabric.Coordinator.GenerationFence

/-
  The bulk counter across one operation: it rises only with
  a bulk flow that was checked against the cap.
-/

namespace TrafficFabric

/- Without a new flow the bulk counter does not rise. -/
theorem Fleet.Moves.bulk_le {terms : Terms} {f g : Fleet} (hMoves : Moves terms f g)
    (hQuiet : ∀ id, ¬ terms.mints id) : g.bulkInFlightBytes ≤ f.bulkInFlightBytes := by
  refine Moves.invariant (fun h => h.bulkInFlightBytes ≤ f.bulkInFlightBytes) ?_
    hMoves (UInt64.le_refl _)
  intro a b hMove hBefore
  cases hMove with
  | released id flow =>
    refine UInt64.le_trans ?_ hBefore
    unfold Fleet.release
    simp only
    split
    · split
      · rename_i hFits
        rw [UInt64.le_iff_toNat_le, UInt64.toNat_sub_of_le _ _ hFits]
        omega
      · exact UInt64.zero_le
    · exact UInt64.le_refl _
  | served _ _ _ _ _ hMinted | carried _ _ _ _ _ _ _ hMinted => exact (hQuiet _ hMinted).elim
  | _ => exact hBefore

namespace Coordinator

variable {s : Coordinator} {op : Op}

theorem OpenedBy.bulk {flow : FlowRecord} (hOpened : s.OpenedBy flow op) :
    flow.bulk = (s.policy.rule flow.traffic).yieldsToLatency ∧
      s.bulkExhausted flow.traffic flow.declaredBytes = false ∧
      flow.declaredBytes ≤ s.config.limits.maxSinglePayloadBytes := by
  cases hOpened with
  | opened decision bytes now hOpens =>
    exact ⟨hOpens.bulk, hOpens.declared ▸ hOpens.room, hOpens.declared ▸ hOpens.sized⟩
  | authorized request now victim transfer _ _ _ hOpens =>
    have hDurable := (evaluate_bookkeeping s request now victim).incidental.durable
    have hPolicy : (s.evaluate request now victim).2.policy = s.policy :=
      congrArg DurableState.policy hDurable
    have hConfig : (s.evaluate request now victim).2.config = s.config :=
      congrArg DurableState.config hDurable
    have hBulk : (s.evaluate request now victim).2.bulkInFlightBytes = s.bulkInFlightBytes :=
      congrArg Cargo.bulkInFlightBytes (evaluate_cargo s request now victim)
    have hRoom := hOpens.room
    unfold bulkExhausted at hRoom ⊢
    rw [hPolicy, hBulk, ← hOpens.declared] at hRoom
    exact ⟨hPolicy ▸ hOpens.bulk, hRoom, hOpens.declared ▸ hConfig ▸ hOpens.sized⟩

theorem capped_step (hCoherent : s.ledger.Coherent) (hCap : s.policy.bulkInFlightCapBytes ≠ 0)
    (hCapped : s.bulkInFlightBytes ≤ s.policy.bulkInFlightCapBytes) :
    (s.step op).bulkInFlightBytes ≤ s.policy.bulkInFlightCapBytes := by
  rcases step_cargo s hCoherent op with
    hSame | ⟨terms, hQuiet, hMoves⟩ | ⟨flow, hOpened, -, hStored⟩
  · rw [show (s.step op).bulkInFlightBytes = _ from congrArg Cargo.bulkInFlightBytes hSame]
    exact hCapped
  · exact UInt64.le_trans (hMoves.bulk_le hQuiet) hCapped
  · rw [show (s.step op).bulkInFlightBytes = _ from congrArg Cargo.bulkInFlightBytes hStored]
    change (if flow.bulk then
      s.bulkInFlightBytes + flow.declaredBytes
      else s.bulkInFlightBytes) ≤ _
    split
    · rename_i hBulk
      rcases hOpened.bulk with ⟨hYields, hRoom, -⟩
      rw [hBulk] at hYields
      have hPositive := UInt64.pos_iff_ne_zero.mpr hCap
      simp only [bulkExhausted, ← hYields, Bool.true_and,
        hPositive, decide_true, decide_eq_false_iff_not] at hRoom
      exact UInt64.not_lt.mp hRoom
    · exact hCapped

def bulkOps (registration : TransferRegistration) : List Op :=
  [ .registerTransfer registration 2,
    .authorizeTransfer
      { subject := some
          { kind := .transfer
            transfer := registration.id } } 3 0 ]

end Coordinator

end TrafficFabric
