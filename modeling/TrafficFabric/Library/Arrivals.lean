import Mathlib.Data.List.Basic

/-
  Reading a fixed number of items from what arrives on a
  connection: chunks of items, waits that elapse and
  faults, in the order in which a reader meets them.
-/

/-
  What a wait on a connection ends with. An empty chunk is
  the end of the connection.
-/
inductive Arrival (α F : Type)
| chunk (items : List α)
| elapsed
| failed (fault : F)
deriving DecidableEq

/- How an attempt to read ends. -/
inductive ReadOutcome (F : Type)
| complete
| elapsed
| closed
| failed (fault : F)
| waiting
deriving DecidableEq

/- What an attempt to read takes, and what it leaves. -/
structure ReadAttempt (α F : Type) where
  outcome : ReadOutcome F
  taken : List α
  left : List (Arrival α F)
deriving DecidableEq

namespace Arrival

variable {α F : Type}

/- The items that arrive, without their timing. -/
def flow : List (Arrival α F) → List α
| [] => []
| .chunk items :: rest => items ++ flow rest
| .elapsed :: rest => flow rest
| .failed _ :: rest => flow rest

/- How much there is to meet. -/
def size : List (Arrival α F) → Nat
| [] => 0
| .chunk items :: rest => items.length + 1 + size rest
| .elapsed :: rest => 1 + size rest
| .failed _ :: rest => 1 + size rest

def gathered (items : List α) : List (Arrival α F) :=
  if items.isEmpty then [] else [.chunk items]

/-
  Wait and receive until the buffer is full. Items that do
  not fit the buffer are left for the next attempt; items
  that were taken are gone when the attempt fails.
-/
@[simp] def readExact :
    Nat → List (Arrival α F) → ReadAttempt α F
| 0, arrivals => ⟨.complete, [], arrivals⟩
| _ + 1, [] => ⟨.waiting, [], []⟩
| _ + 1, .elapsed :: rest => ⟨.elapsed, [], rest⟩
| _ + 1, .failed fault :: rest => ⟨.failed fault, [], rest⟩
| count + 1, .chunk items :: rest =>
  if items.isEmpty then ⟨.closed, [], rest⟩
  else if items.length ≤ count + 1 then
    let further := readExact (count + 1 - items.length) rest
    ⟨further.outcome, items ++ further.taken, further.left⟩
  else ⟨.complete, items.take (count + 1), .chunk (items.drop (count + 1)) :: rest⟩

end Arrival

---
-- Reading
---

namespace Arrival

variable {α F : Type} {count : Nat}

theorem flow_append (arrivals later : List (Arrival α F)) :
    flow (arrivals ++ later) = flow arrivals ++ flow later := by
  induction arrivals with
  | nil => rfl
  | cons first rest ih =>
    cases first with
    | chunk items => simp only [List.cons_append, flow, ih, List.append_assoc]
    | elapsed | failed => exact ih

/- Nothing that arrives is lost or made up by reading. -/
theorem taken_append_flow (count : Nat) (arrivals : List (Arrival α F)) :
    (readExact count arrivals).taken ++ flow (readExact count arrivals).left = flow arrivals := by
  fun_induction readExact count arrivals with
  | case1 => rfl
  | case2 => rfl
  | case3 => rfl
  | case4 => rfl
  | case5 count items rest hEmpty =>
    rw [List.isEmpty_iff] at hEmpty
    rw [hEmpty]
    rfl
  | case6 count items rest _ _ further ih =>
    rw [List.append_assoc, ih]
    rfl
  | case7 count items rest _ _ =>
    simp only [flow]
    rw [← List.append_assoc, List.take_append_drop]

/- A buffer that is full holds as many items as it has. -/
theorem length_taken {arrivals : List (Arrival α F)}
    (hComplete : (readExact count arrivals).outcome = .complete) :
    (readExact count arrivals).taken.length = count := by
  fun_induction readExact count arrivals with
  | case1 => rfl
  | case2 => cases hComplete
  | case3 => cases hComplete
  | case4 => cases hComplete
  | case5 => cases hComplete
  | case6 count items rest _ hFits further ih =>
    rw [List.length_append, ih hComplete]
    omega
  | case7 count items rest _ hFits =>
    rw [List.length_take]
    omega

/- An attempt that still waits has met everything. -/
theorem left_of_waiting {arrivals : List (Arrival α F)}
    (hWaiting : (readExact count arrivals).outcome = .waiting) :
    (readExact count arrivals).left = [] ∧ (readExact count arrivals).taken.length < count := by
  fun_induction readExact count arrivals with
  | case1 => cases hWaiting
  | case2 => exact ⟨rfl, Nat.zero_lt_succ _⟩
  | case3 => cases hWaiting
  | case4 => cases hWaiting
  | case5 => cases hWaiting
  | case6 count items rest _ hFits further ih =>
    rcases ih hWaiting with ⟨hLeft, hShort⟩
    refine ⟨hLeft, ?_⟩
    change further.taken.length < _ at hShort
    rw [List.length_append]
    omega
  | case7 => cases hWaiting

/- A full buffer holds the first items of the flow. -/
theorem taken_of_complete {arrivals : List (Arrival α F)}
    (hComplete : (readExact count arrivals).outcome = .complete) :
    (readExact count arrivals).taken = (flow arrivals).take count ∧
      flow (readExact count arrivals).left = (flow arrivals).drop count ∧
      count ≤ (flow arrivals).length := by
  have hLength := length_taken hComplete
  have hFlow := taken_append_flow count arrivals
  rw [← hFlow, List.take_left' hLength, List.drop_left' hLength, List.length_append, hLength]
  exact ⟨rfl, rfl, Nat.le_add_right _ _⟩

/- An attempt that still waits has taken the whole flow. -/
theorem flow_of_waiting {arrivals : List (Arrival α F)}
    (hWaiting : (readExact count arrivals).outcome = .waiting) :
    (readExact count arrivals).taken = flow arrivals ∧ (flow arrivals).length < count := by
  rcases left_of_waiting hWaiting with ⟨hLeft, hShort⟩
  have hFlow := taken_append_flow count arrivals
  rw [hLeft, flow, List.append_nil] at hFlow
  rw [← hFlow]
  exact ⟨rfl, hShort⟩

/- Items that arrive at once are read without a wait. -/
theorem readExact_gathered {items : List α} (hEnough : count ≤ items.length) :
    readExact count (gathered items : List (Arrival α F)) =
      ⟨.complete, items.take count, gathered (items.drop count)⟩ := by
  cases count with
  | zero => rw [readExact, List.take_zero, List.drop_zero]
  | succ count =>
    cases items with
    | nil => cases hEnough
    | cons first rest =>
      rw [List.length_cons] at hEnough
      simp only [gathered, List.isEmpty_cons, Bool.false_eq_true, if_false, readExact]
      by_cases hAll : rest.length = count
      · subst hAll
        simp [readExact]
      · have hMore : ¬ (first :: rest).length ≤ count + 1 := by
          rw [List.length_cons]
          omega
        have hLeft : ((first :: rest).drop (count + 1)).isEmpty = false := by
          rw [List.isEmpty_eq_false_iff, ne_eq, List.drop_eq_nil_iff]
          exact hMore
        rw [if_neg hMore, if_neg (Bool.eq_false_iff.mp hLeft)]

/- Too few items leave the reader waiting. -/
theorem readExact_gathered_short {items : List α} (hShort : items.length < count) :
    readExact count (gathered items : List (Arrival α F)) = ⟨.waiting, items, []⟩ := by
  cases count with
  | zero => cases hShort
  | succ count =>
    cases items with
    | nil => rfl
    | cons first rest =>
      rw [List.length_cons] at hShort
      have hFits : (first :: rest).length ≤ count + 1 := by
        rw [List.length_cons]
        omega
      have hRest : count + 1 - (first :: rest).length = (count - rest.length - 1) + 1 := by
        rw [List.length_cons]
        omega
      simp only [gathered, List.isEmpty_cons, Bool.false_eq_true, if_false, readExact]
      rw [if_pos hFits, hRest]
      simp only [readExact, List.append_nil]

end Arrival

namespace Arrival

variable {α F : Type}

theorem size_left_le (count : Nat) (arrivals : List (Arrival α F)) :
    size (readExact count arrivals).left ≤ size arrivals := by
  fun_induction readExact count arrivals with
  | case1 => exact Nat.le_refl _
  | case2 => exact Nat.le_refl _
  | case3 => exact Nat.le_add_left _ _
  | case4 => exact Nat.le_add_left _ _
  | case5 => exact Nat.le_add_left _ _
  | case6 count items rest _ _ further ih => exact Nat.le_trans ih (Nat.le_add_left _ _)
  | case7 count items rest _ _ =>
    simp only [size, List.length_drop]
    omega

/- An attempt that does not wait has met something. -/
theorem size_left_lt {count : Nat} {arrivals : List (Arrival α F)} (hCount : 0 < count)
    (hMet : (readExact count arrivals).outcome ≠ .waiting) :
    size (readExact count arrivals).left < size arrivals := by
  fun_cases readExact count arrivals with
  | case1 => cases hCount
  | case2 => exact (hMet rfl).elim
  | case3 => exact Nat.lt_add_of_pos_left Nat.zero_lt_one
  | case4 => exact Nat.lt_add_of_pos_left Nat.zero_lt_one
  | case5 => exact Nat.lt_add_of_pos_left (Nat.zero_lt_succ _)
  | case6 count items rest _ _ further =>
    have hLeft : size further.left ≤ size rest := size_left_le (count + 1 - items.length) rest
    simp only [size]
    omega
  | case7 count items rest _ _ =>
    simp only [size, List.length_drop]
    omega

end Arrival
