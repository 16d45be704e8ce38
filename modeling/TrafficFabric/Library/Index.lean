import Mathlib.Algebra.BigOperators.Group.Finset.Piecewise
import TrafficFabric.Library.Table

/-
  Reverse indexes and totals of keyed tables.

  A reverse index holds, for every value stored under some
  key, the pair of the label read from the value and that
  key, and holds nothing else.
-/

namespace AList

variable {K L V W : Type}

variable [DecidableEq K] [DecidableEq L]

/- A total is a sum over any set that holds all keys. -/
theorem total_eq_sum (measure : V → Nat) (m : Table K V) (keys : Finset K)
    (hKeys : ∀ key ∈ m, key ∈ keys) :
    m.total measure = ∑ key ∈ keys, (m.lookup key).elim 0 measure := by
  induction m using AList.insertRec with
  | H0 => simp
  | IH key value rest hFresh ih =>
    have hNone := lookup_eq_none.mpr hFresh
    have hRest := fun other hOther => hKeys other ((mem_insert rest).mpr (.inr hOther))
    have hKey : key ∈ keys := hKeys key ((mem_insert rest).mpr (.inl rfl))
    have hTerm (other : K) :
        ((rest.insert key value).lookup other).elim 0 measure = (rest.lookup other).elim 0 measure +
            if other = key then measure value else 0 := by
      rw [lookup_insert_if]
      by_cases hSame : other = key
      · rw [if_pos hSame, if_pos hSame, hSame, hNone]
        simp
      · rw [if_neg hSame, if_neg hSame, Nat.add_zero]
    rw [total_insert_of_none measure value hNone, ih hRest]
    simp only [hTerm, Finset.sum_add_distrib, Finset.sum_ite_eq', if_pos hKey]

theorem total_eq_of_lookup (measure : V → Nat) (other : W → Nat) {m : Table K V} {n : Table K W}
    (hSame : ∀ key, (m.lookup key).elim 0 measure = (n.lookup key).elim 0 other) :
    m.total measure = n.total other := by
  have hLeft := total_eq_sum measure m (m.keys.toFinset ∪ n.keys.toFinset)
    (fun key hKey => Finset.mem_union_left _ (List.mem_toFinset.mpr hKey))
  have hRight := total_eq_sum other n (m.keys.toFinset ∪ n.keys.toFinset)
    (fun key hKey => Finset.mem_union_right _ (List.mem_toFinset.mpr hKey))
  rw [hLeft, hRight]
  exact Finset.sum_congr rfl (fun key _ => hSame key)

theorem total_erase (measure : V → Nat) (m : Table K V) (key : K) :
    (m.erase key).total measure + (m.lookup key).elim 0 measure = m.total measure := by
  cases hHeld : m.lookup key with
  | none => exact total_erase_of_none measure hHeld
  | some value => exact total_erase_of_some measure hHeld

/- Tables that differ at one key differ by what it adds. -/
theorem total_change (measure : V → Nat) {m n : Table K V} {key : K}
    (hRest :
      ∀ other, other ≠ key → (n.lookup other).elim 0 measure = (m.lookup other).elim 0 measure) :
    n.total measure + (m.lookup key).elim 0 measure =
      m.total measure + (n.lookup key).elim 0 measure := by
  have hErased : (n.erase key).total measure = (m.erase key).total measure := by
    refine total_eq_of_lookup measure measure ?_
    intro other
    rw [lookup_erase_if, lookup_erase_if]
    split
    · rfl
    · rename_i hOther
      exact hRest other hOther
  have hBefore := total_erase measure m key
  have hAfter := total_erase measure n key
  omega

end AList

---
-- Reverse Indexes
---

namespace Multimap

variable {K L V : Type} [DecidableEq K]

/-
  The multimap holds each label with the keys of the values
  that carry it, every pair once.
-/
structure Indexes (label : V → Option L) (index : Multimap L K) (m : Table K V) : Prop where
  nodup : index.Nodup
  mem :
    ∀ name key, (name, key) ∈ index ↔ ∃ value, m.lookup key = some value ∧ label value = some name

namespace Indexes

variable {label : V → Option L} {index : Multimap L K} {m : Table K V} {key : K} {old : V}

theorem empty : Indexes label ([] : Multimap L K) ∅ where
  nodup := List.nodup_nil
  mem name key := by
    simp

theorem mem_equalRange [DecidableEq L] (hIndexes : Indexes label index m) (name : L) (key : K) :
    key ∈ index.equalRange name ↔ ∃ value, m.lookup key = some value ∧ label value = some name := by
  rw [mem_equalRange_iff]
  exact hIndexes.mem name key

/- A new value is added under its label, if it has one. -/
theorem insert (hIndexes : Indexes label index m) (value : V) (hFresh : m.lookup key = none) :
    Indexes label (match label value with
        | none => index
        | some name => index ++ [(name, key)])
      (m.insert key value) := by
  have hAbsent (name : L) : (name, key) ∉ index := by
    intro hMem
    rcases (hIndexes.mem name key).mp hMem with ⟨held, hHeld, -⟩
    rw [hFresh] at hHeld
    cases hHeld
  have hLookup (other : K) (held : V) :
      (m.insert key value).lookup other = some held ↔
        m.lookup other = some held ∨ other = key ∧ held = value := by
    by_cases hSame : other = key
    · subst hSame
      simp [hFresh, eq_comm]
    · simp [hSame]
  cases hLabel : label value with
  | none =>
    refine ⟨hIndexes.nodup, ?_⟩
    intro name other
    rw [hIndexes.mem]
    constructor
    · rintro ⟨held, hHeld, hName⟩
      exact ⟨held, (hLookup other held).mpr (.inl hHeld), hName⟩
    · rintro ⟨held, hHeld, hName⟩
      rcases (hLookup other held).mp hHeld with hOld | ⟨-, rfl⟩
      · exact ⟨held, hOld, hName⟩
      · rw [hLabel] at hName
        cases hName
  | some first =>
    refine ⟨?_, ?_⟩
    · rw [List.nodup_append]
      refine ⟨hIndexes.nodup, List.nodup_singleton _, ?_⟩
      rintro pair hPair last hLast rfl
      rw [List.mem_singleton.mp hLast] at hPair
      exact hAbsent first hPair
    · intro name other
      rw [List.mem_append, List.mem_singleton, hIndexes.mem]
      constructor
      · rintro (⟨held, hHeld, hName⟩ | hNew)
        · exact ⟨held, (hLookup other held).mpr (.inl hHeld), hName⟩
        · cases hNew
          exact ⟨value, AList.lookup_insert m, hLabel⟩
      · rintro ⟨held, hHeld, hName⟩
        rcases (hLookup other held).mp hHeld with hOld | ⟨rfl, rfl⟩
        · exact .inl ⟨held, hOld, hName⟩
        · rw [hLabel] at hName
          cases hName
          exact .inr rfl

/- Rewriting a value under the same label. -/
theorem update {value : V} (hIndexes : Indexes label index m) (hOld : m.lookup key = some old)
    (hLabel : label value = label old) : Indexes label index (m.insert key value) := by
  refine ⟨hIndexes.nodup, ?_⟩
  intro name other
  rw [hIndexes.mem, AList.lookup_insert_if]
  by_cases hSame : other = key
  · subst hSame
    simp [hOld, hLabel]
  · rw [if_neg hSame]

variable [DecidableEq L]

/- Removing a value removes its pair. -/
theorem erase (hIndexes : Indexes label index m) (hOld : m.lookup key = some old) :
    Indexes label (match label old with
        | none => index
        | some name => List.erase index (name, key))
      (m.erase key) := by
  have hLookup (other : K) (held : V) :
      (m.erase key).lookup other = some held ↔ m.lookup other = some held ∧ other ≠ key := by
    rw [AList.lookup_erase_if]
    by_cases hSame : other = key
    · simp [hSame]
    · simp [hSame]
  cases hLabel : label old with
  | none =>
    refine ⟨hIndexes.nodup, ?_⟩
    intro name other
    rw [hIndexes.mem]
    constructor
    · rintro ⟨held, hHeld, hName⟩
      refine ⟨held, (hLookup other held).mpr ⟨hHeld, ?_⟩, hName⟩
      rintro rfl
      rw [hOld] at hHeld
      cases hHeld
      rw [hLabel] at hName
      cases hName
    · rintro ⟨held, hHeld, hName⟩
      exact ⟨held, ((hLookup other held).mp hHeld).1, hName⟩
  | some first =>
    refine ⟨hIndexes.nodup.erase _, ?_⟩
    intro name other
    rw [hIndexes.nodup.mem_erase_iff, hIndexes.mem]
    constructor
    · rintro ⟨hOther, held, hHeld, hName⟩
      refine ⟨held, (hLookup other held).mpr ⟨hHeld, ?_⟩, hName⟩
      rintro rfl
      rw [hOld] at hHeld
      cases hHeld
      rw [hLabel] at hName
      cases hName
      exact hOther rfl
    · rintro ⟨held, hHeld, hName⟩
      rcases (hLookup other held).mp hHeld with ⟨hThere, hNe⟩
      refine ⟨?_, held, hThere, hName⟩
      intro hPair
      exact hNe (congrArg Prod.snd hPair)

/- Removing every value of one label. -/
theorem eraseKey {n : Table K V} (hIndexes : Indexes label index m) (name : L)
    (hLookup : ∀ key, n.lookup key = if key ∈ index.equalRange name then none else m.lookup key) :
    Indexes label (index.eraseKey name) n := by
  refine ⟨hIndexes.nodup.filter _, ?_⟩
  intro other key
  rw [mem_eraseKey_iff, hIndexes.mem, hLookup]
  constructor
  · rintro ⟨⟨value, hValue, hLabel⟩, hOther⟩
    refine ⟨value, ?_, hLabel⟩
    rw [if_neg]
    · exact hValue
    · intro hMem
      rcases (hIndexes.mem_equalRange name key).mp hMem with ⟨held, hHeld, hName⟩
      rw [hValue] at hHeld
      cases hHeld
      rw [hLabel] at hName
      exact hOther (Option.some.inj hName)
  · rintro ⟨value, hValue, hLabel⟩
    split at hValue
    · cases hValue
    · rename_i hNot
      refine ⟨⟨value, hValue, hLabel⟩, ?_⟩
      rintro rfl
      exact hNot ((hIndexes.mem_equalRange other key).mpr ⟨value, hValue, hLabel⟩)

end Indexes

end Multimap
