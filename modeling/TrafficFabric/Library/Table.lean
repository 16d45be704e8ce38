import Mathlib.Algebra.GroupWithZero.Nat
import Mathlib.Data.List.AList
import TrafficFabric.Library.Keyed

/-
  Finite keyed tables and multimaps in the manner of the
  C++ hash containers: association lists without repeated
  keys, and plain lists of pairs.

  The entry order of a table stands for the iteration order
  of a hash table, which no client may rely upon.
-/

---
-- Tables
---

/- A finite map from keys to values. -/
abbrev Table (K V : Type) :=
  AList (fun _ : K => V)

namespace AList

variable {K V : Type}

/- Number of entries. -/
def size (m : Table K V) : Nat :=
  m.entries.length

/- The stored values in iteration order. -/
def values (m : Table K V) : List V :=
  m.entries.map (fun entry => entry.2)

variable [DecidableEq K]

/- Insert an entry unless the key is already present. -/
def emplace (m : Table K V) (key : K) (value : V) : Table K V :=
  if key ∈ m then m else m.insert key value

/- Update the value of a key that is present. -/
def modify (m : Table K V) (key : K) (f : V → V) : Table K V :=
  match m.lookup key with
  | some value => m.insert key (f value)
  | none => m

end AList

---
-- Lookup Algebra
---

namespace AList

variable {K V : Type} [DecidableEq K] {m : Table K V}

theorem lookup_insert_if (m : Table K V) (key other : K) (value : V) :
    (m.insert key value).lookup other = if other = key then some value
      else m.lookup other := by
  by_cases hKey : other = key
  · subst hKey
    simp
  · simp [hKey, lookup_insert_ne hKey]

theorem lookup_erase_if (m : Table K V) (key other : K) :
    (m.erase key).lookup other = if other = key then none else m.lookup other := by
  by_cases hKey : other = key
  · subst hKey
    simp
  · simp [hKey, lookup_erase_ne hKey]

def eraseAll (m : Table K V) (keys : List K) : Table K V :=
  keys.foldl (fun kept key => kept.erase key) m

theorem lookup_eraseAll (m : Table K V) (keys : List K) (key : K) :
    (m.eraseAll keys).lookup key = if key ∈ keys then none else m.lookup key := by
  unfold eraseAll
  induction keys generalizing m with
  | nil => simp
  | cons first rest ih =>
    rw [List.foldl_cons, ih, lookup_erase_if]
    by_cases hFirst : key = first
    · simp [hFirst]
    · simp [hFirst]

theorem mem_iff_lookup (m : Table K V) (key : K) :
    key ∈ m ↔ ∃ value, m.lookup key = some value := by
  rw [← lookup_isSome, Option.isSome_iff_exists]

theorem lookup_modify (m : Table K V) (key other : K) (f : V → V) :
    (m.modify key f).lookup other = if other = key then (m.lookup other).map f
      else m.lookup other := by
  unfold modify
  by_cases hKey : other = key
  · subst hKey
    cases hLookup : m.lookup other with
    | none => simp [hLookup]
    | some value => simp
  · cases hLookup : m.lookup key with
    | none => simp [hKey]
    | some value => simp [hKey, lookup_insert_ne hKey]

theorem lookup_emplace (m : Table K V) (key other : K) (value : V) :
    (m.emplace key value).lookup other =
      if other = key then some ((m.lookup key).getD value)
      else m.lookup other := by
  unfold emplace
  by_cases hMem : key ∈ m
  · rcases (mem_iff_lookup m key).mp hMem with ⟨present, hPresent⟩
    by_cases hKey : other = key
    · subst hKey
      simp [hMem, hPresent]
    · simp [hMem, hKey]
  · have hNone := lookup_eq_none.mpr hMem
    simp [hMem, hNone, lookup_insert_if]

theorem lookup_foldl_emplace {α : Type}
    (key : α → K) (value : α → V) (entries : List α) (m : Table K V) (other : K) :
    (entries.foldl (fun table entry => table.emplace (key entry) (value entry)) m).lookup other =
      (m.lookup other).or ((entries.findKey? key other).map value) := by
  induction entries generalizing m with
  | nil => simp
  | cons entry rest ih =>
    rw [List.foldl_cons, ih, lookup_emplace, List.findKey?_cons]
    by_cases hKey : key entry = other
    · subst hKey
      cases m.lookup (key entry) with
      | none | some => simp
    · rw [if_neg (Ne.symm hKey), if_neg hKey]

theorem emplace_of_none (m : Table K V) (key : K) (value : V) (hNone : m.lookup key = none) :
    m.emplace key value = m.insert key value := by
  unfold emplace
  rw [if_neg (lookup_eq_none.mp hNone)]

/- An entry after an insertion is the new one or was there. -/
theorem lookup_insert_cases {key other : K} {value held : V}
    (hHeld : (m.insert key value).lookup other = some held) :
    (other = key ∧ held = value) ∨ (other ≠ key ∧ m.lookup other = some held) := by
  rw [lookup_insert_if] at hHeld
  split at hHeld
  · rename_i hSame
    exact .inl ⟨hSame, (Option.some.inj hHeld).symm⟩
  · rename_i hOther
    exact .inr ⟨hOther, hHeld⟩

/- An entry after an erasure was there under another key. -/
theorem lookup_of_erase {key other : K} {held : V}
    (hHeld : (m.erase key).lookup other = some held) :
    other ≠ key ∧ m.lookup other = some held := by
  rw [lookup_erase_if] at hHeld
  split at hHeld
  · cases hHeld
  · rename_i hOther
    exact ⟨hOther, hHeld⟩

/- Emplacing leaves what is there. -/
theorem lookup_emplace_of_some {other : K} {held : V} (hHeld : m.lookup other = some held)
    (key : K) (value : V) : (m.emplace key value).lookup other = some held := by
  rw [lookup_emplace]
  split
  · rename_i hSame
    rw [← hSame, hHeld, Option.getD_some]
  · exact hHeld

/- An entry after an emplacement is old or the new one. -/
theorem lookup_emplace_cases {key other : K} {value held : V}
    (hHeld : (m.emplace key value).lookup other = some held) :
    m.lookup other = some held ∨ (other = key ∧ held = value) := by
  rw [lookup_emplace] at hHeld
  by_cases hKey : other = key
  · subst hKey
    rw [if_pos rfl, Option.some.injEq] at hHeld
    cases hOld : m.lookup other with
    | none =>
      rw [hOld] at hHeld
      exact .inr ⟨rfl, hHeld.symm⟩
    | some old =>
      rw [hOld] at hHeld
      exact .inl (congrArg some hHeld)
  · rw [if_neg hKey] at hHeld
    exact .inl hHeld

/- An entry after an update is old or an updated one. -/
theorem lookup_modify_cases {key other : K} {f : V → V} {held : V}
    (hHeld : (m.modify key f).lookup other = some held) :
    ∃ old, m.lookup other = some old ∧ (held = old ∨ (other = key ∧ held = f old)) := by
  rw [lookup_modify] at hHeld
  by_cases hKey : other = key
  · rw [if_pos hKey] at hHeld
    rcases Option.map_eq_some_iff.mp hHeld with ⟨old, hOld, hUpdated⟩
    exact ⟨old, hOld, .inr ⟨hKey, hUpdated.symm⟩⟩
  · rw [if_neg hKey] at hHeld
    exact ⟨held, hHeld, .inl rfl⟩

section Forall

variable {P : K → V → Prop} {key : K} {value : V}

/- A property of all entries after a change of the table. -/
theorem forall_empty : ∀ key value, (∅ : Table K V).lookup key = some value → P key value := by
  intro key value hHeld
  cases hHeld

theorem forall_insert (hAll : ∀ key value, m.lookup key = some value → P key value)
    (hNew : P key value) :
    ∀ other held, (m.insert key value).lookup other = some held → P other held := by
  intro other held hHeld
  rcases lookup_insert_cases hHeld with ⟨rfl, rfl⟩ | ⟨-, hOld⟩
  · exact hNew
  · exact hAll other held hOld

theorem forall_emplace (hAll : ∀ key value, m.lookup key = some value → P key value)
    (hNew : P key value) :
    ∀ other held, (m.emplace key value).lookup other = some held → P other held := by
  intro other held hHeld
  rcases lookup_emplace_cases hHeld with hOld | ⟨rfl, rfl⟩
  · exact hAll other held hOld
  · exact hNew

theorem forall_erase (hAll : ∀ key value, m.lookup key = some value → P key value) :
    ∀ other held, (m.erase key).lookup other = some held → P other held :=
  fun other held hHeld => hAll other held (lookup_of_erase hHeld).2

/- An entry that is rewritten keeps what it is found for. -/
theorem exists_lookup_insert {Q : V → Prop} {present : V} {other : K}
    (hPresent : m.lookup key = some present) (hKept : Q present → Q value)
    (hFound : ∃ held, m.lookup other = some held ∧ Q held) :
    ∃ held, (m.insert key value).lookup other = some held ∧ Q held := by
  rcases hFound with ⟨held, hHeld, hMeets⟩
  rw [lookup_insert_if]
  split
  · rename_i hSame
    rw [hSame, hPresent] at hHeld
    cases hHeld
    exact ⟨value, rfl, hKept hMeets⟩
  · exact ⟨held, hHeld, hMeets⟩

end Forall

/- Entries and lookups describe the same pairs. -/
theorem mem_entries_iff (m : Table K V) (key : K) (value : V) :
    (⟨key, value⟩ : Sigma fun _ : K => V) ∈ m.entries ↔ m.lookup key = some value := by
  exact mem_lookup_iff.symm

theorem mem_values_iff (m : Table K V) (value : V) :
    value ∈ m.values ↔ ∃ key, m.lookup key = some value := by
  constructor
  · intro hMem
    rcases List.mem_map.mp hMem with ⟨⟨key, stored⟩, hEntry, rfl⟩
    exact ⟨key, (mem_entries_iff m key stored).mp hEntry⟩
  · rintro ⟨key, hLookup⟩
    exact List.mem_map.mpr ⟨⟨key, value⟩, (mem_entries_iff m key value).mpr hLookup, rfl⟩

end AList

namespace AList

variable {K V : Type}

@[simp] theorem size_empty :
    size (∅ : Table K V) = 0 := rfl

theorem length_keys (m : Table K V) : m.keys.length = m.size := by simp [keys, List.keys, size]

@[simp] theorem length_values (m : Table K V) : m.values.length = m.size := by simp [values, size]

/- A table with fewer keys is not larger. -/
theorem size_le_of_subset {W : Type} {m : Table K V} {n : Table K W}
    (hSubset : ∀ key ∈ m, key ∈ n) : m.size ≤ n.size := by
  rw [← length_keys, ← length_keys]
  exact (List.subperm_of_subset m.keys_nodup hSubset).length_le

variable [DecidableEq K]

theorem size_insert_of_none (m : Table K V) (key : K) (value : V) (hNone : m.lookup key = none) :
    (m.insert key value).size = m.size + 1 := by
  have hAbsent : key ∉ m := lookup_eq_none.mp hNone
  unfold size
  rw [entries_insert_of_notMem hAbsent, List.length_cons]

theorem size_insert_of_some (m : Table K V) (key : K) (value present : V)
    (hSome : m.lookup key = some present) : (m.insert key value).size = m.size := by
  have hMem : key ∈ m := (mem_iff_lookup m key).mpr ⟨present, hSome⟩
  have hPositive : 0 < m.keys.length := List.length_pos_of_mem hMem
  rw [← length_keys, ← length_keys, keys_insert, List.length_cons, List.length_erase_of_mem hMem]
  omega

theorem size_insert_le (m : Table K V) (key : K) (value : V) :
    (m.insert key value).size ≤ m.size + 1 := by
  cases hLookup : m.lookup key with
  | none => rw [size_insert_of_none m key value hLookup]
  | some present =>
    rw [size_insert_of_some m key value present hLookup]
    omega

theorem size_emplace_le (m : Table K V) (key : K) (value : V) :
    (m.emplace key value).size ≤ m.size + 1 := by
  unfold emplace
  split
  · omega
  · exact size_insert_le m key value

@[simp] theorem size_modify (m : Table K V) (key : K) (f : V → V) :
    (m.modify key f).size = m.size := by
  unfold modify
  cases hLookup : m.lookup key with
  | none => rfl
  | some present => exact size_insert_of_some m key (f present) present hLookup

theorem size_erase_of_some (m : Table K V) (key : K) (present : V)
    (hSome : m.lookup key = some present) : (m.erase key).size + 1 = m.size := by
  have hMem : key ∈ m := (mem_iff_lookup m key).mpr ⟨present, hSome⟩
  have hPositive : 0 < m.keys.length := List.length_pos_of_mem hMem
  rw [← length_keys, ← length_keys, keys_erase, List.length_erase_of_mem hMem]
  omega

end AList

---
-- Totals
---

namespace AList

variable {K V : Type}

/- The sum of a measure over the stored values. -/
def total (measure : V → Nat) (m : Table K V) : Nat :=
  (m.values.map measure).sum

@[simp] theorem total_empty (measure : V → Nat) :
    total measure (∅ : Table K V) = 0 := rfl

/- A measure of at most one totals at most the size. -/
theorem total_le_size (measure : V → Nat) (hMeasure : ∀ value, measure value ≤ 1) (m : Table K V) :
    m.total measure ≤ m.size := by
  rw [← length_values]
  unfold total
  induction m.values with
  | nil => exact Nat.le_refl 0
  | cons value rest ih =>
    have hHead := hMeasure value
    simp only [List.map_cons, List.sum_cons, List.length_cons]
    omega

variable [DecidableEq K] {m : Table K V} {key : K} {value : V}

/- An entry that is present stands before the others. -/
theorem perm_erase_of_some (hSome : m.lookup key = some value) :
    m.entries.Perm (⟨key, value⟩ :: (m.erase key).entries) := by
  have hMem : key ∈ m.keys := (mem_iff_lookup m key).mpr ⟨value, hSome⟩
  rcases List.exists_of_kerase hMem with ⟨held, left, right, -, hEntries, hErased⟩
  have hHeld : (⟨key, held⟩ : Sigma fun _ : K => V) ∈ m.entries := by
    rw [hEntries]
    simp
  rw [mem_entries_iff, hSome, Option.some.injEq] at hHeld
  subst hHeld
  change m.entries.Perm (⟨key, value⟩ :: m.entries.kerase key)
  rw [hErased, hEntries]
  exact List.perm_middle

theorem total_erase_of_some (measure : V → Nat) (hSome : m.lookup key = some value) :
    (m.erase key).total measure + measure value = m.total measure := by
  have hPerm := ((perm_erase_of_some hSome).map (fun entry => measure entry.2)).sum_nat
  simp only [total, values, List.map_map, List.map_cons,
    List.sum_cons, Function.comp_def] at hPerm ⊢
  omega

theorem total_erase_of_none (measure : V → Nat) (hNone : m.lookup key = none) :
    (m.erase key).total measure = m.total measure := by
  have hAbsent := lookup_eq_none.mp hNone
  have hSame : (m.erase key).entries = m.entries := List.kerase_of_notMem_keys hAbsent
  unfold total values
  rw [hSame]

/- An insertion replaces what the key measured before. -/
theorem total_insert (measure : V → Nat) (m : Table K V) (key : K) (value : V) :
    (m.insert key value).total measure = (m.erase key).total measure + measure value := by
  change (List.map measure
    (List.map (fun entry => entry.2) (⟨key, value⟩ :: m.entries.kerase key))).sum = _
  exact Nat.add_comm _ _

theorem total_insert_of_none (measure : V → Nat) (value : V) (hNone : m.lookup key = none) :
    (m.insert key value).total measure = m.total measure + measure value := by
  rw [total_insert, total_erase_of_none measure hNone]

theorem total_insert_of_some (measure : V → Nat) {present : V} (value : V)
    (hSome : m.lookup key = some present) :
    (m.insert key value).total measure + measure present = m.total measure + measure value := by
  rw [total_insert, ← total_erase_of_some measure hSome]
  omega

theorem total_emplace_le (measure : V → Nat) (m : Table K V) (key : K) (value : V) :
    (m.emplace key value).total measure ≤ m.total measure + measure value := by
  unfold emplace
  split
  · exact Nat.le_add_right _ _
  · rename_i hAbsent
    rw [total_insert_of_none measure value (lookup_eq_none.mpr hAbsent)]

/- A total that is not zero has an entry that counts. -/
theorem exists_of_total_pos (measure : V → Nat) (hPositive : 0 < m.total measure) :
    ∃ key value, m.lookup key = some value ∧ 0 < measure value := by
  by_contra hNone
  have hZero : ∀ value ∈ m.values, measure value = 0 := by
    intro value hValue
    rcases (mem_values_iff m value).mp hValue with ⟨key, hLookup⟩
    by_contra hCounts
    exact hNone ⟨key, value, hLookup, Nat.pos_of_ne_zero hCounts⟩
  have hTotal : m.total measure = 0 := by
    unfold total
    rw [List.map_congr_left hZero]
    simp
  omega

/- A measured entry is part of the total. -/
theorem measure_le_total (measure : V → Nat) (hSome : m.lookup key = some value) :
    measure value ≤ m.total measure := by
  rw [← total_erase_of_some measure hSome]
  omega

/-
  Entries that count find entries of another table that count
  at least as much and are labelled with their keys.
-/
theorem total_le_of_labelled {L W : Type} [DecidableEq L]
    (measure : V → Nat) (weight : W → Nat) (label : W → K) (m : Table K V) (n : Table L W)
    (hLabelled :
      ∀ key value, m.lookup key = some value →
        0 < measure value →
        ∃ place held, n.lookup place = some held ∧ label held = key ∧ measure value ≤ weight held) :
    m.total measure ≤ n.total weight := by
  -- both tables lose an entry until nothing counts
  induction hSize : m.size generalizing m n with
  | zero =>
    have hZero : m.total measure = 0 := by
      by_contra hCounts
      rcases exists_of_total_pos measure (Nat.pos_of_ne_zero hCounts) with ⟨key, value, hValue, -⟩
      have hErased := size_erase_of_some m key value hValue
      omega
    omega
  | succ size ih =>
    by_cases hNone : m.total measure = 0
    · omega
    rcases exists_of_total_pos measure (Nat.pos_of_ne_zero hNone) with ⟨key, value, hValue, hCounts⟩
    rcases hLabelled key value hValue hCounts with ⟨place, held, hHeld, hLabel, hLe⟩
    have hErased := size_erase_of_some m key value hValue
    have hRest := ih (m.erase key) (n.erase place) ?_ (by omega)
    · have hLeft := total_erase_of_some measure hValue
      have hRight := total_erase_of_some weight hHeld
      omega
    · intro other rest hOther hPositive
      rw [lookup_erase_if] at hOther
      split at hOther
      · cases hOther
      · rename_i hApart
        rcases hLabelled other rest hOther hPositive with ⟨there, found, hFound, hNamed, hWeighs⟩
        refine ⟨there, found, ?_, hNamed, hWeighs⟩
        rw [lookup_erase_if, if_neg ?_]
        · exact hFound
        · intro hSame
          rw [hSame, hHeld] at hFound
          cases hFound
          exact hApart (hNamed.symm.trans hLabel)

end AList

/- A multimap is the list of its pairs. -/
abbrev Multimap (K V : Type) :=
  List (K × V)

namespace Multimap

variable {K V : Type} [DecidableEq K]

/- All values stored under a key. -/
def equalRange (m : Multimap K V) (key : K) : List V :=
  (m.filter (fun pair => pair.1 = key)).map Prod.snd

/- Remove every pair of a key. -/
def eraseKey (m : Multimap K V) (key : K) : Multimap K V :=
  m.filter (fun pair => pair.1 ≠ key)

theorem mem_equalRange_iff (m : Multimap K V) (key : K) (value : V) :
    value ∈ m.equalRange key ↔ (key, value) ∈ m := by
  simp [equalRange]

theorem mem_eraseKey_iff (m : Multimap K V) (key : K) (pair : K × V) :
    pair ∈ m.eraseKey key ↔ pair ∈ m ∧ pair.1 ≠ key := by
  simp [eraseKey]

end Multimap
