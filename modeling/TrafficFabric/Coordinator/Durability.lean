import TrafficFabric.Codec.Snapshot
import TrafficFabric.Coordinator.Authority
import TrafficFabric.Ledger.Recovery

/-
  What is durable in a coordinator is fit to be stored: the
  parts of the state a snapshot is made of satisfy what the
  decoder and the next boot check.
-/

---
-- Registries
---

namespace TrafficFabric

open Generation List StateGenerationRecord AList

/-
  A registry of generations: every entry is valid and
  stored under its own hash, and there is a limit on them.
-/
structure Registered {V : Type} (hash : V → UInt64) (valid : V → Bool) (limit : Nat)
    (registry : Table UInt64 V) : Prop where
  keyed : ∀ key entry, registry.lookup key = some entry → hash entry = key
  valid : ∀ key entry, registry.lookup key = some entry → valid entry = true
  bounded : registry.size ≤ limit

namespace Registered

variable {V : Type} {hash : V → UInt64} {valid : V → Bool} {limit : Nat} {registry : Table UInt64 V}

theorem empty (hash : V → UInt64) (valid : V → Bool) (limit : Nat) :
    Registered hash valid limit (∅ : Table UInt64 V) where
  keyed key entry hHeld := by
    cases hHeld
  valid key entry hHeld := by
    cases hHeld
  bounded := Nat.zero_le limit

/- Storing a valid entry under its hash. -/
theorem insert {key : UInt64} {entry : V} (hRegistered : Registered hash valid limit registry)
    (hHash : hash entry = key) (hValid : valid entry = true)
    (hRoom : registry.lookup key = none → registry.size < limit) :
    Registered hash valid limit (registry.insert key entry) := by
  have hCases :
      ∀ other held,
        (registry.insert key entry).lookup other = some held →
        (other = key ∧ held = entry) ∨ registry.lookup other = some held := by
    intro other held hHeld
    rw [lookup_insert_if] at hHeld
    by_cases hSame : other = key
    · rw [if_pos hSame, Option.some.injEq] at hHeld
      exact .inl ⟨hSame, hHeld.symm⟩
    · rw [if_neg hSame] at hHeld
      exact .inr hHeld
  constructor
  · intro other held hHeld
    rcases hCases other held hHeld with ⟨rfl, rfl⟩ | hOld
    · exact hHash
    · exact hRegistered.keyed other held hOld
  · intro other held hHeld
    rcases hCases other held hHeld with ⟨rfl, rfl⟩ | hOld
    · exact hValid
    · exact hRegistered.valid other held hOld
  · cases hLookup : registry.lookup key with
    | none =>
      rw [size_insert_of_none _ _ _ hLookup]
      exact hRoom hLookup
    | some held =>
      rw [size_insert_of_some _ _ _ held hLookup]
      exact hRegistered.bounded

theorem rewrite {key : UInt64} {held entry : V} (hRegistered : Registered hash valid limit registry)
    (hHeld : registry.lookup key = some held) (hHash : hash entry = hash held)
    (hValid : valid entry = valid held) :
    Registered hash valid limit (registry.insert key entry) := by
  apply hRegistered.insert
  · rw [hHash]
    exact hRegistered.keyed key held hHeld
  · rw [hValid]
    exact hRegistered.valid key held hHeld
  · intro hNone
    rw [hHeld] at hNone
    cases hNone

theorem foldl_emplace (restore : V → V) (hHash : ∀ entry, hash (restore entry) = hash entry)
    (hValid : ∀ entry, valid (restore entry) = valid entry) (entries : List V)
    (hEntries : ∀ entry ∈ entries, valid entry = true) (registry : Table UInt64 V)
    (hRegistered : Registered hash valid limit registry)
    (hRoom : registry.size + entries.length ≤ limit) :
    Registered hash valid limit
      (entries.foldl (fun table entry => table.emplace (hash entry) (restore entry)) registry) := by
  induction entries generalizing registry with
  | nil => exact hRegistered
  | cons entry rest ih =>
    rw [length_cons] at hRoom
    rw [foldl_cons]
    apply ih
    · intro other hOther
      exact hEntries other (mem_cons_of_mem entry hOther)
    · unfold emplace
      split
      · exact hRegistered
      · apply hRegistered.insert (hHash entry)
        · rw [hValid]
          exact hEntries entry mem_cons_self
        · intro _
          omega
    · unfold emplace
      split
      · omega
      · have hSize := size_insert_le registry (hash entry) (restore entry)
        omega

theorem mem_sorted {r : V → V → Prop} [DecidableRel r] {entry : V}
    (hRegistered : Registered hash valid limit registry)
    (hMem : entry ∈ registry.values.insertionSort r) : valid entry = true := by
  rw [mem_insertionSort, mem_values_iff] at hMem
  rcases hMem with ⟨key, hHeld⟩
  exact hRegistered.valid key entry hHeld

theorem length_sorted (r : V → V → Prop) [DecidableRel r]
    (hRegistered : Registered hash valid limit registry) :
    (registry.values.insertionSort r).length ≤ limit := by
  rw [length_insertionSort, length_values]
  exact hRegistered.bounded

end Registered

---
-- Sound Durable State
---

/- What a snapshot keeps passes the checks made on it. -/
structure DurableState.Sound (state : DurableState) : Prop where
  epoch : state.epoch ≠ .unset
  incarnation : state.incarnation ≠ .nil
  policy : state.policy.Storable
  topology : state.topologyPresent = true → state.topology.isAuthoritative = true
  models :
    Registered ModelState.modelHash ModelState.isValid
      state.config.limits.maxModelRecords state.models
  states :
    Registered stateHash isValid
      state.config.limits.maxStateRecords state.states

/-
  The operation would set a generation past its maximum, or
  a policy that explains nothing.
-/
def Op.Exhausts (s : Coordinator) : Op → Prop
| .applyPolicy policy => policy.maxExplanationSteps = 0 ∨ policy.generation = .max
| .setModelGeneration hash _ => ∃ held, s.models.lookup hash = some held ∧ held.generation = .max
| .advanceStateGeneration hash _ =>
  ∃ held, s.states.lookup hash = some held ∧ held.generation = .max
| _ => False

namespace Coordinator

variable {tag : GenerationTag} {noun : String} {limit : Nat} {policy : PolicyConfig}

/- The generation a registry entry receives. -/
theorem advanceGeneration_eq_ok {V : Type} {generation : V → Generation tag}
    {requiresRevalidation : V → Bool} {registry : Table UInt64 V} {hash : UInt64}
    {expected : Option (Generation tag)} {value : Generation tag}
    (hOk :
      advanceGeneration noun generation
        requiresRevalidation limit registry hash expected = .ok value) :
    hash ≠ 0 ∧
      ((registry.lookup hash = none ∧ expected = none ∧
          registry.size < limit ∧ value = ⟨1⟩) ∨
        ∃ held, registry.lookup hash = some held ∧
          requiresRevalidation held = false ∧
          (∀ bound, expected = some bound → bound = generation held) ∧
          value = (generation held).next) := by
  unfold advanceGeneration at hOk
  rw [Result.guard_eq_ok_iff] at hOk
  rcases hOk with ⟨hHash, hOk⟩
  refine ⟨hHash, ?_⟩
  cases hHeld : registry.lookup hash with
  | none =>
    simp only [hHeld, Result.guard_eq_ok_iff, Except.ok.injEq] at hOk
    rcases hOk with ⟨hFree, hRoom, hValue⟩
    exact .inl ⟨rfl, by simpa using hFree, Nat.lt_of_not_le hRoom, hValue.symm⟩
  | some held =>
    simp only [hHeld, Result.guard_eq_ok_iff, Except.ok.injEq] at hOk
    rcases hOk with ⟨hValid, hBound, hValue⟩
    exact .inr ⟨held, rfl, by simpa using hValid,
      (bindsOther_eq_false_iff _ _).mp (Bool.eq_false_of_not_eq_true hBound), hValue.symm⟩

theorem advanceGeneration_registered {V : Type} {generation : V → Generation tag}
    {requiresRevalidation : V → Bool} {registry : Table UInt64 V} {key : UInt64}
    {expected : Option (Generation tag)} {value : Generation tag} {hash : V → UInt64}
    {valid : V → Bool} {entry : V} (hRegistered : Registered hash valid limit registry)
    (hOk :
      advanceGeneration noun generation
        requiresRevalidation limit registry key expected = .ok value)
    (hBelow : ∀ held, registry.lookup key = some held → generation held ≠ .max)
    (hHash : hash entry = key) (hValid : key ≠ 0 → value ≠ .unset → valid entry = true) :
    Registered hash valid limit (registry.insert key entry) := by
  rcases advanceGeneration_eq_ok hOk with ⟨hKey, hCases⟩
  rcases hCases with ⟨hNone, -, hRoom, rfl⟩ | ⟨held, hHeld, -, -, rfl⟩
  · apply hRegistered.insert hHash
    · exact hValid hKey first_ne_unset
    · intro _
      exact hRoom
  · apply hRegistered.insert hHash
    · exact hValid hKey (next_ne_unset _ (hBelow held hHeld))
    · intro hNone
      rw [hHeld] at hNone
      cases hNone

theorem withNextGeneration_storable (hValid : policy.validate = .valid)
    (hExplains : policy.maxExplanationSteps ≠ 0) (hBelow : policy.generation ≠ .max) :
    (withNextGeneration policy).Storable where
  valid := by
    unfold withNextGeneration
    rw [PolicyConfig.validate_setGeneration]
    exact hValid
  issued := by
    change (if policy.generation.isUnset = true then ⟨1⟩
      else policy.generation.next) ≠ _
    split
    · exact first_ne_unset
    · exact next_ne_unset _ hBelow
  explains := hExplains

theorem withGeneration_storable (hValid : policy.validate = .valid)
    (hExplains : policy.maxExplanationSteps ≠ 0) : (withGeneration policy).Storable := by
  unfold withGeneration
  split
  · constructor
    · rw [PolicyConfig.validate_setGeneration]
      exact hValid
    · exact first_ne_unset
    · exact hExplains
  · rename_i hIssued
    exact ⟨hValid, by simpa using hIssued, hExplains⟩

/- Every operation keeps the durable state sound. -/
theorem step_durable_sound (s : Coordinator) (op : Op) (hSound : s.durable.Sound)
    (hBelow : ¬ op.Exhausts s) : (s.step op).durable.Sound := by
  by_cases hOp : op.Configures
  · have hConfigured := step_configured s op hOp
    generalize s.step op = t at hConfigured ⊢
    cases hConfigured with
    | refused => exact hSound
    | policy policy hValid =>
      simp only [Op.Exhausts, not_or] at hBelow
      have hPolicy := withNextGeneration_storable hValid hBelow.1 hBelow.2
      exact { hSound with policy := hPolicy }
    | topology evidence now hFit => exact { hSound with topology := fun _ => hFit }
    | modelAdvanced hash expected value hOk =>
      refine { hSound with models := ?_ }
      refine advanceGeneration_registered hSound.models hOk ?_ rfl ?_
      · intro held hHeld hMax
        exact hBelow ⟨held, hHeld, hMax⟩
      · intro hKey hSet
        simp [ModelState.isValid, hKey, hSet]
    | modelRevalidated hash held hHeld =>
      refine { hSound with models := ?_ }
      exact hSound.models.rewrite hHeld rfl rfl
    | stateAdvanced hash expected value hOk =>
      refine { hSound with states := ?_ }
      refine advanceGeneration_registered hSound.states hOk ?_ rfl ?_
      · intro held hHeld hMax
        exact hBelow ⟨held, hHeld, hMax⟩
      · intro hKey hSet
        simp [isValid, hKey, hSet]
    | stateRevalidated hash held hHeld =>
      refine { hSound with states := ?_ }
      exact hSound.states.rewrite hHeld rfl rfl
  · rw [step_durable s op hOp]
    exact hSound

end Coordinator

---
-- Restored Records
---

/- Distinct records pass the inspection of a document. -/
theorem inspectRecords_eq_ok (records : List RequestRecord) (seen : List RequestId)
    (hNodup : (seen ++ records.map RequestRecord.id).Nodup)
    (hNamed : ∀ record ∈ records, record.id ≠ .nil)
    (hBounded : ∀ record ∈ records, record.attempts.length ≤ maxAttemptsPerRequest) :
    inspectRecords records seen = .ok (seen ++ records.map RequestRecord.id) := by
  induction records generalizing seen with
  | nil =>
    rw [map_nil, append_nil]
    rfl
  | cons record rest ih =>
    have hSplit :
        seen ++ (record :: rest).map RequestRecord.id =
          (seen ++ [record.id]) ++ rest.map RequestRecord.id := by
      simp
    have hUnseen : record.id ∉ seen := by
      intro hMem
      have hDisjoint := disjoint_of_nodup_append hNodup
      exact hDisjoint hMem (by simp)
    have hId : ¬ record.id.isNil = true := by simpa using hNamed record mem_cons_self
    have hRoom := Nat.not_lt.mpr (hBounded record mem_cons_self)
    rw [hSplit] at hNodup ⊢
    rw [inspectRecords, if_neg hId, if_neg hRoom, if_neg hUnseen]
    apply ih _ hNodup
    · intro other hOther
      exact hNamed other (mem_cons_of_mem record hOther)
    · intro other hOther
      exact hBounded other (mem_cons_of_mem record hOther)

end TrafficFabric
