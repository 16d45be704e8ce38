import Mathlib.Data.List.Destutter
import Mathlib.Data.List.Nodup
import Mathlib.Data.List.Perm.Subperm
import Mathlib.Data.List.Range

/-
  Histories that climb a rank: each value is the one before
  it or has a higher rank.

  Such a history never comes back to a value it has left,
  and it changes at most as often as there are ranks.
-/

variable {α : Type}

/- The second value is the first one or ranks above it. -/
def Climbs (rank : α → Nat) (a b : α) : Prop :=
  a = b ∨ rank a < rank b

namespace Climbs

variable {rank : α → Nat} {a b c : α} {values : List α}

instance : IsTrans α (Climbs rank) where
  trans a b c hLeft hRight := by
    rcases hLeft with rfl | hLeft
    · exact hRight
    · rcases hRight with rfl | hRight
      · exact .inr hLeft
      · exact .inr (Nat.lt_trans hLeft hRight)

theorem antisymm (hLeft : Climbs rank a b) (hRight : Climbs rank b a) : a = b := by
  rcases hLeft with hSame | hLeft
  · exact hSame
  · rcases hRight with hSame | hRight
    · exact hSame.symm
    · exact absurd hRight (Nat.lt_asymm hLeft)

/- Later values are equal or rank above. -/
theorem of_le (hClimbs : values.IsChain (Climbs rank)) {i j : Nat} (hOrder : i ≤ j)
    (hFirst : values[i]? = some a) (hSecond : values[j]? = some b) : Climbs rank a b := by
  rcases Nat.eq_or_lt_of_le hOrder with rfl | hBefore
  · rw [hFirst] at hSecond
    cases hSecond
    exact .inl rfl
  · have hPairs := List.isChain_iff_pairwise.mp hClimbs
    rcases List.getElem?_eq_some_iff.mp hFirst with ⟨hBoundFirst, rfl⟩
    rcases List.getElem?_eq_some_iff.mp hSecond with ⟨hBoundSecond, rfl⟩
    exact List.pairwise_iff_getElem.mp hPairs i j hBoundFirst hBoundSecond hBefore

/- Between two equal values nothing else is seen. -/
theorem no_return (hClimbs : values.IsChain (Climbs rank)) {i j k : Nat} (hLeft : i ≤ j)
    (hRight : j ≤ k) (hFirst : values[i]? = some a) (hBetween : values[j]? = some b)
    (hLast : values[k]? = some a) : b = a :=
  antisymm (of_le hClimbs hRight hBetween hLast) (of_le hClimbs hLeft hFirst hBetween)

/- A history changes at most as often as there are ranks. -/
theorem length_destutter_le [DecidableEq α] (hClimbs : values.IsChain (Climbs rank)) (bound : Nat)
    (hBound : ∀ value ∈ values, rank value ≤ bound) :
    (values.destutter (· ≠ ·)).length ≤ bound + 1 := by
  have hSublist := values.destutter_sublist (· ≠ ·)
  have hPairs := (List.isChain_iff_pairwise.mp hClimbs).sublist hSublist
  have hStrict : (values.destutter (· ≠ ·)).IsChain (fun a b => rank a < rank b) := by
    have hChanged := values.isChain_destutter (· ≠ ·)
    rw [List.isChain_iff_getElem] at hChanged ⊢
    intro i hBefore
    have hClimb := List.isChain_iff_getElem.mp hPairs.isChain i hBefore
    exact hClimb.resolve_left (hChanged i hBefore)
  have hRanks : ((values.destutter (· ≠ ·)).map rank).Pairwise (· < ·) := by
    rw [← List.isChain_iff_pairwise, List.isChain_map]
    exact hStrict
  have hInside : (values.destutter (· ≠ ·)).map rank ⊆ List.range (bound + 1) := by
    intro r hMem
    rcases List.mem_map.mp hMem with ⟨value, hValue, rfl⟩
    have hRank := hBound value (hSublist.subset hValue)
    exact List.mem_range.mpr (Nat.lt_succ_of_le hRank)
  have hNodup := hRanks.imp Nat.ne_of_lt
  have hLength := (List.subperm_of_subset hNodup hInside).length_le
  rwa [List.length_map, List.length_range] at hLength

end Climbs
