import Mathlib.Data.UInt

/-
  Identities, generations and instants.

  An identity is a 128-bit value whose all-zero value is
  nil. A generation is a 64-bit counter whose value zero
  means that no generation has been established. An instant
  is a 64-bit nanosecond count whose minimum value means
  that no instant is set.
-/

namespace TrafficFabric

/- What an identity names. -/
inductive IdTag
| request
| attempt
| stateTransfer
| flow
| boot
| session
| peer
deriving DecidableEq

/- A strongly typed 128-bit identity. -/
structure Id128 (tag : IdTag) where
  high : UInt64
  low : UInt64
deriving DecidableEq

abbrev RequestId := Id128 .request
abbrev AttemptId := Id128 .attempt
abbrev StateTransferId := Id128 .stateTransfer
abbrev FlowId := Id128 .flow
abbrev BootId := Id128 .boot
abbrev SessionId := Id128 .session
abbrev PeerId := Id128 .peer

namespace Id128

variable {tag : IdTag}

/- The nil identity, which is never issued. -/
def nil : Id128 tag :=
  ⟨0, 0⟩

instance : Inhabited (Id128 tag) := ⟨nil⟩

def isNil (id : Id128 tag) : Bool :=
  id.high == 0 && id.low == 0

@[simp] theorem isNil_iff (id : Id128 tag) : id.isNil = true ↔ id = nil := by
  rcases id with ⟨high, low⟩
  simp [isNil, nil]

@[simp] theorem isNil_eq_false_iff (id : Id128 tag) : id.isNil = false ↔ id ≠ nil := by
  rw [← Bool.not_eq_true, isNil_iff]

end Id128

/- What a generation counts. -/
inductive GenerationTag
| request
| attempt
| model
| state
| routeDecision
| sloContract
| topology
| policy
| coordinatorEpoch
| authoritySequence
deriving DecidableEq

/- A strongly typed 64-bit generation counter. -/
structure Generation (tag : GenerationTag) where
  value : UInt64
deriving DecidableEq

abbrev RequestGeneration := Generation .request
abbrev AttemptGeneration := Generation .attempt
abbrev ModelGeneration := Generation .model
abbrev StateGeneration := Generation .state
abbrev RouteDecisionGeneration :=
  Generation .routeDecision
abbrev SloContractGeneration := Generation .sloContract
abbrev TopologyGeneration := Generation .topology
abbrev PolicyGeneration := Generation .policy
abbrev CoordinatorEpoch := Generation .coordinatorEpoch
abbrev AuthoritySequence :=
  Generation .authoritySequence

namespace Generation

variable {tag : GenerationTag}

/- The generation that has not been established. -/
def unset : Generation tag :=
  ⟨0⟩

instance : Inhabited (Generation tag) := ⟨unset⟩

def isUnset (generation : Generation tag) : Bool :=
  generation.value == 0

/- The next generation; the maximum value wraps to unset. -/
def next (generation : Generation tag) : Generation tag :=
  ⟨generation.value + 1⟩

/- The largest value a generation can hold. -/
def max : Generation tag :=
  ⟨18446744073709551615⟩

@[simp] theorem isUnset_iff (generation : Generation tag) :
    generation.isUnset = true ↔ generation = unset := by
  rcases generation with ⟨value⟩
  simp [isUnset, unset]

@[simp] theorem isUnset_eq_false_iff (generation : Generation tag) :
    generation.isUnset = false ↔ generation ≠ unset := by
  rw [← Bool.not_eq_true, isUnset_iff]

theorem first_ne_unset : (⟨1⟩ : Generation tag) ≠ unset := by
  intro hEq
  injection hEq with hValue
  exact absurd hValue (by decide)

/- Below the maximum, the next generation counts one more. -/
theorem toNat_next (generation : Generation tag) (hBelow : generation ≠ max) :
    generation.next.value.toNat = generation.value.toNat + 1 := by
  have hRange := generation.value.toNat_lt
  have hNe : generation.value.toNat ≠ 18446744073709551615 := by
    intro hEq
    apply hBelow
    rcases generation with ⟨value⟩
    have hValue : value = 18446744073709551615 := UInt64.toNat_inj.mp hEq
    rw [hValue]
    rfl
  unfold next
  change (generation.value.toNat + 1) % 2 ^ 64 = _
  apply Nat.mod_eq_of_lt
  omega

theorem toNat_after (generation : Generation tag) (hBelow : generation ≠ max) :
    (if generation.isUnset then ⟨1⟩
      else generation.next : Generation tag).value.toNat = generation.value.toNat + 1 := by
  split
  · rename_i hUnset
    rw [(isUnset_iff generation).mp hUnset]
    rfl
  · exact toNat_next generation hBelow

/- Below the maximum, the next generation is set. -/
theorem next_ne_unset (generation : Generation tag) (hBelow : generation ≠ max) :
    generation.next ≠ unset := by
  intro hEq
  have hNat := toNat_next generation hBelow
  rw [hEq] at hNat
  change 0 = generation.value.toNat + 1 at hNat
  omega

end Generation

/- An absolute instant in nanoseconds, possibly unset. -/
structure Instant where
  nanos : Int64
deriving DecidableEq

namespace Instant

/- The instant that stands for no deadline. -/
def unset : Instant :=
  ⟨Int64.minValue⟩

instance : Inhabited Instant := ⟨unset⟩

def isSet (instant : Instant) : Bool :=
  instant.nanos != Int64.minValue

/-
  The instant a positive delay after `now`, unset when the
  delay is not positive or the sum is out of range.
-/
def fromNow (now delta : Int64) : Instant :=
  if delta ≤ 0 then unset
  else if Int64.maxValue - delta < now then unset
  else ⟨now + delta⟩

/- True only when the instant is set and `now` reached it. -/
def expiredAt (instant : Instant) (now : Int64) : Bool :=
  instant.isSet && decide (instant.nanos ≤ now)

end Instant

end TrafficFabric
