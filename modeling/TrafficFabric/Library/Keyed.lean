import Mathlib.Data.List.Basic
import Mathlib.Data.List.Forall2
import Mathlib.Data.List.Nodup

/-
  Lists of keyed entries searched from the front: the first
  entry that bears a key answers for that key, whether or
  not a later entry bears the same one.
-/

namespace List

variable {α K : Type} [DecidableEq K]

/- The first entry that bears the key. -/
def findKey? (key : α → K) (k : K) (entries : List α) : Option α :=
  entries.find? (fun entry => key entry = k)

/- Replace the first entry that bears the key. -/
def updateKey (key : α → K) (k : K) (f : α → α) : List α → List α
| [] => []
| entry :: rest =>
  if key entry = k then f entry :: rest
  else entry :: updateKey key k f rest

@[simp] theorem findKey?_nil (key : α → K) (k : K) :
    findKey? key k [] = none := rfl

theorem findKey?_cons (key : α → K) (k : K) (entry : α) (rest : List α) :
    findKey? key k (entry :: rest) = if key entry = k then some entry
      else findKey? key k rest := by
  unfold findKey?
  by_cases hKey : key entry = k
  · simp [hKey]
  · simp [hKey]

theorem mem_of_findKey? {key : α → K} {k : K} {entries : List α} {entry : α}
    (hFind : findKey? key k entries = some entry) : entry ∈ entries :=
  List.mem_of_find?_eq_some hFind

/- An appended entry answers only where nothing did. -/
theorem findKey?_append (key : α → K) (k : K) (entries : List α) (last : α) :
    findKey? key k (entries ++ [last]) =
      (findKey? key k entries).or (if key last = k then some last else none) := by
  unfold findKey?
  by_cases hKey : key last = k
  · simp [hKey]
  · simp [hKey]

/- Mapping by a function that keeps keys maps the answer. -/
theorem findKey?_map {β : Type} (key : α → K) (keyOut : β → K) (f : α → β)
    (hKey : ∀ entry, keyOut (f entry) = key entry) (k : K) (entries : List α) :
    findKey? keyOut k (entries.map f) = (findKey? key k entries).map f := by
  induction entries with
  | nil => rfl
  | cons entry rest ih =>
    rw [List.map_cons, findKey?_cons, findKey?_cons, hKey, ih]
    split
    · rfl
    · rfl

/- An update is seen under its own key and no other. -/
theorem findKey?_updateKey (key : α → K) (k other : K) (f : α → α)
    (hKey : ∀ entry, key (f entry) = key entry) (entries : List α) :
    findKey? key other (updateKey key k f entries) =
      if other = k then (findKey? key k entries).map f
      else findKey? key other entries := by
  induction entries with
  | nil => simp [updateKey]
  | cons entry rest ih =>
    unfold updateKey
    by_cases hEntry : key entry = k
    · by_cases hOther : other = k
      · subst hOther
        simp [findKey?_cons, hEntry, hKey]
      · simp [findKey?_cons, hEntry, hKey, hOther, Ne.symm hOther]
    · rw [if_neg hEntry, findKey?_cons, ih]
      by_cases hOther : other = k
      · subst hOther
        simp [findKey?_cons, hEntry]
      · simp [findKey?_cons, hOther]

@[simp] theorem length_updateKey (key : α → K) (k : K) (f : α → α) (entries : List α) :
    (updateKey key k f entries).length = entries.length := by
  induction entries with
  | nil => rfl
  | cons entry rest ih =>
    unfold updateKey
    split
    · rfl
    · simp [ih]

@[simp] theorem updateKey_self (key : α → K) (k : K) (entries : List α) :
    updateKey key k (fun entry => entry) entries = entries := by
  induction entries with
  | nil => rfl
  | cons entry rest ih =>
    unfold updateKey
    split
    · rfl
    · rw [ih]

theorem updateKey_eq_nil_iff (key : α → K) (k : K) (f : α → α) (entries : List α) :
    updateKey key k f entries = [] ↔ entries = [] := by
  rw [← List.length_eq_zero_iff, length_updateKey, List.length_eq_zero_iff]

/- Updating commutes with a map that keeps keys. -/
theorem map_updateKey {β : Type} (key : α → K) (keyOut : β → K) (view : α → β)
    (hKey : ∀ entry, keyOut (view entry) = key entry) (k : K) (f : α → α) (g : β → β)
    (hView : ∀ entry, view (f entry) = g (view entry)) (entries : List α) :
    (updateKey key k f entries).map view = updateKey keyOut k g (entries.map view) := by
  induction entries with
  | nil => rfl
  | cons entry rest ih =>
    simp only [updateKey, List.map_cons, hKey]
    split
    · simp [hView]
    · simp [ih]

/- An update relates each entry to what it becomes. -/
theorem forall₂_updateKey {R : α → α → Prop} (key : α → K) (k : K) (f : α → α)
    (hSame : ∀ entry, R entry entry) (entries : List α)
    (hFound : ∀ entry, findKey? key k entries = some entry → R entry (f entry)) :
    Forall₂ R entries (updateKey key k f entries) := by
  induction entries with
  | nil => exact .nil
  | cons entry rest ih =>
    unfold updateKey
    by_cases hKey : key entry = k
    · rw [if_pos hKey]
      refine .cons (hFound entry ?_) (forall₂_same.mpr fun other _ => hSame other)
      rw [findKey?_cons, if_pos hKey]
    · rw [if_neg hKey]
      refine .cons (hSame entry) (ih ?_)
      intro found hRest
      apply hFound
      rw [findKey?_cons, if_neg hKey]
      exact hRest

/- Distinct keys lead to the entry that bears them. -/
theorem findKey?_of_mem (key : α → K) {entries : List α} {entry : α}
    (hNodup : (entries.map key).Nodup) (hMem : entry ∈ entries) :
    findKey? key (key entry) entries = some entry := by
  induction entries with
  | nil => cases hMem
  | cons first rest ih =>
    rw [map_cons, nodup_cons] at hNodup
    rw [findKey?_cons]
    rcases mem_cons.mp hMem with hFirst | hRest
    · rw [hFirst, if_pos rfl]
    · rw [if_neg]
      · exact ih hNodup.2 hRest
      · intro hKey
        apply hNodup.1
        rw [hKey]
        exact mem_map_of_mem hRest

/- No entry answers where no key fits. -/
theorem findKey?_eq_none_iff (key : α → K) (k : K) (entries : List α) :
    findKey? key k entries = none ↔ k ∉ entries.map key := by
  unfold findKey?
  simp

end List
