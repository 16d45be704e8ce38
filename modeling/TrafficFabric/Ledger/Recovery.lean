import Mathlib.Data.List.DropRight
import TrafficFabric.Ledger.Retention

/-
  The records a populated ledger exports, and what
  restoring such records does to an empty ledger.
-/

namespace List

variable {α : Type}

/- What was dropped before does not matter later. -/
theorem rtake_append_rtake (first second : List α) (n : Nat) :
    (first.rtake n ++ second).rtake n = (first ++ second).rtake n := by
  simp only [rtake_eq_reverse_take_reverse, reverse_append, reverse_reverse, take_append, take_take]
  congr 4
  omega

end List

namespace TrafficFabric

open List

namespace RequestLedger

variable {ledger : RequestLedger} {live : Nat} {record : RequestRecord}

/- Looking up listed identities finds their records. -/
theorem map_id_filterMap_lookup (ids : List RequestId)
    (hHeld : ∀ id ∈ ids, ∃ record, ledger.requests.lookup id = some record ∧ record.id = id) :
    (ids.filterMap (fun id => ledger.requests.lookup id)).map RequestRecord.id = ids := by
  induction ids with
  | nil => rfl
  | cons id rest ih =>
    rcases hHeld id mem_cons_self with ⟨record, hRecord, hId⟩
    have hRest := ih (fun other hOther => hHeld other (mem_cons_of_mem id hOther))
    rw [filterMap_cons]
    simp only [hRecord]
    rw [map_cons, hRest, hId]

/- Terminal records are exported newest first. -/
theorem Ordered.map_id_exportTerminalRecords (hOrdered : ledger.Ordered live)
    (hCoherent : ledger.Coherent) (bound : Nat) (hBound : ledger.terminalOrder.length ≤ bound) :
    (ledger.exportTerminalRecords bound).map RequestRecord.id = ledger.terminalOrder.reverse := by
  have hHeld :
      ∀ id ∈ ledger.terminalOrder.reverse, ∃ record,
        ledger.requests.lookup id = some record ∧ record.id = id := by
    intro id hMem
    have hRetained := (hOrdered.listed id).mp (mem_reverse.mp hMem)
    rcases (retainsTerminal_iff ledger id).mp hRetained with ⟨record, hRecord, -⟩
    exact ⟨record, hRecord, hCoherent.keyed id record hRecord⟩
  have hIds := map_id_filterMap_lookup _ hHeld
  have hLength :
      (ledger.terminalOrder.reverse.filterMap
        (fun id => ledger.requests.lookup id)).length ≤ bound := by
    rw [← length_map RequestRecord.id, hIds, length_reverse]
    exact hBound
  unfold exportTerminalRecords
  rw [take_of_length_le hLength]
  exact hIds

theorem Ordered.mem_exportTerminalRecords (hOrdered : ledger.Ordered live) {bound : Nat}
    (hMem : record ∈ ledger.exportTerminalRecords bound) :
    (∃ id, ledger.requests.lookup id = some record) ∧ record.lifecycle.isTerminal = true := by
  have hHeld := mem_of_mem_take hMem
  rcases mem_filterMap.mp hHeld with ⟨id, hListed, hLookup⟩
  have hRetained := (hOrdered.listed id).mp (mem_reverse.mp hListed)
  rcases (retainsTerminal_iff ledger id).mp hRetained with ⟨held, hHeld, hTerminal⟩
  rw [hLookup] at hHeld
  cases hHeld
  exact ⟨⟨id, hLookup⟩, hTerminal⟩

theorem mem_exportLiveRecords (hMem : record ∈ ledger.exportLiveRecords) :
    (∃ id, ledger.requests.lookup id = some record) ∧ record.lifecycle.isTerminal = false := by
  rcases mem_filter.mp hMem with ⟨hHeld, hLive⟩
  exact ⟨(AList.mem_values_iff _ record).mp hHeld, by simpa using hLive⟩

/- Every record is stored under its own identity. -/
theorem Coherent.map_id_values (hCoherent : ledger.Coherent) :
    ledger.requests.values.map RequestRecord.id = ledger.requests.keys := by
  unfold AList.values AList.keys List.keys
  rw [map_map]
  apply map_congr_left
  rintro ⟨id, record⟩ hEntry
  exact hCoherent.keyed id record ((AList.mem_entries_iff _ id record).mp hEntry)

theorem Coherent.nodup_map_id_values (hCoherent : ledger.Coherent) :
    (ledger.requests.values.map RequestRecord.id).Nodup := by
  rw [hCoherent.map_id_values]
  exact ledger.requests.keys_nodup

/- Every record in a terminal lifecycle. -/
def terminalRecords (ledger : RequestLedger) : List RequestRecord :=
  ledger.requests.values.filter (fun record => record.lifecycle.isTerminal)

theorem Ordered.length_terminalRecords (hOrdered : ledger.Ordered live)
    (hCoherent : ledger.Coherent) :
    ledger.terminalRecords.length = ledger.terminalOrder.length := by
  have hPerm : (ledger.terminalRecords.map RequestRecord.id).Perm ledger.terminalOrder := by
    apply (perm_ext_iff_of_nodup _ hOrdered.nodup).mpr
    · intro id
      rw [hOrdered.listed, retainsTerminal_iff, mem_map]
      constructor
      · rintro ⟨record, hMem, rfl⟩
        rcases mem_filter.mp hMem with ⟨hHeld, hTerminal⟩
        rcases (AList.mem_values_iff _ record).mp hHeld with ⟨key, hLookup⟩
        rw [hCoherent.keyed key record hLookup]
        exact ⟨record, hLookup, hTerminal⟩
      · rintro ⟨record, hLookup, hTerminal⟩
        refine ⟨record, ?_, hCoherent.keyed id record hLookup⟩
        exact mem_filter.mpr ⟨(AList.mem_values_iff _ record).mpr ⟨id, hLookup⟩, hTerminal⟩
    · exact hCoherent.nodup_map_id_values.sublist (filter_sublist.map RequestRecord.id)
  rw [← hPerm.length_eq, length_map]

theorem Ordered.length_exportLiveRecords (hOrdered : ledger.Ordered live)
    (hCoherent : ledger.Coherent) : ledger.exportLiveRecords.length = live := by
  have hTerminal := hOrdered.length_terminalRecords hCoherent
  have hSplit := length_eq_length_filter_add (l := ledger.requests.values)
    (fun record => record.lifecycle.isTerminal)
  rw [AList.length_values, hOrdered.balance] at hSplit
  unfold terminalRecords at hTerminal
  unfold exportLiveRecords
  omega

---
-- Restorable Records
---

/- Records an empty ledger of these limits can restore. -/
structure Restorable (limits : LedgerLimits) (records : List RequestRecord) : Prop where
  nodup : (records.map RequestRecord.id).Nodup
  named : ∀ record ∈ records, record.id ≠ .nil
  bounded : ∀ record ∈ records, record.attempts.length ≤ maxAttemptsPerRequest
  live :
    (records.filter (fun record => !record.lifecycle.isTerminal)).length ≤ limits.maxLiveRequests

theorem Populated.restorable (hPopulated : ledger.Populated) (hCoherent : ledger.Coherent)
    (hBounded :
      ∀ id record,
        ledger.requests.lookup id = some record →
        record.attempts.length ≤ maxAttemptsPerRequest) (bound : Nat)
    (hBound : ledger.terminalOrder.length ≤ bound) :
    Restorable ledger.limits (ledger.exportTerminalRecords bound ++ ledger.exportLiveRecords) := by
  rcases hPopulated with ⟨⟨live, hOrdered, hLive⟩, -⟩
  have hTerminalIds := hOrdered.map_id_exportTerminalRecords hCoherent bound hBound
  have hHeld :
      ∀ record ∈ ledger.exportTerminalRecords bound ++ ledger.exportLiveRecords,
        ∃ id, ledger.requests.lookup id = some record := by
    intro record hMem
    rcases mem_append.mp hMem with hMem | hMem
    · exact (hOrdered.mem_exportTerminalRecords hMem).1
    · exact (mem_exportLiveRecords hMem).1
  have hNone :
      (ledger.exportTerminalRecords bound).filter (fun record => !record.lifecycle.isTerminal) =
      [] := by
    rw [filter_eq_nil_iff]
    intro record hMem
    simp [(hOrdered.mem_exportTerminalRecords hMem).2]
  constructor
  · rw [map_append]
    apply List.Nodup.append
    · rw [hTerminalIds]
      exact nodup_reverse.mpr hOrdered.nodup
    · exact hCoherent.nodup_map_id_values.sublist (filter_sublist.map RequestRecord.id)
    · intro id hLeft hRight
      rcases mem_map.mp hLeft with ⟨first, hFirst, rfl⟩
      rcases mem_map.mp hRight with ⟨second, hSecond, hSame⟩
      rcases hOrdered.mem_exportTerminalRecords hFirst with ⟨⟨left, hLeftHeld⟩, hFirstTerminal⟩
      rcases mem_exportLiveRecords hSecond with ⟨⟨right, hRightHeld⟩, hSecondLive⟩
      have hLeftKey := hCoherent.keyed left first hLeftHeld
      have hRightKey := hCoherent.keyed right second hRightHeld
      rw [← hLeftKey] at hLeftHeld
      rw [← hRightKey, hSame, hLeftHeld] at hRightHeld
      cases hRightHeld
      rw [hFirstTerminal] at hSecondLive
      cases hSecondLive
  · intro record hMem
    rcases hHeld record hMem with ⟨id, hLookup⟩
    rw [hCoherent.keyed id record hLookup]
    exact hCoherent.ne_nil hLookup
  · intro record hMem
    rcases hHeld record hMem with ⟨id, hLookup⟩
    exact hBounded id record hLookup
  · rw [filter_append, hNone, nil_append]
    refine (length_filter_le _ _).trans ?_
    rw [hOrdered.length_exportLiveRecords hCoherent]
    exact hLive

/- The ledger after a record is restored with room left. -/
theorem restoreRecord_eq_ok (hNamed : record.id ≠ .nil)
    (hBounded : record.attempts.length ≤ maxAttemptsPerRequest)
    (hFresh : ledger.requests.lookup record.id = none) :
    ledger.restoreRecord record = (.ok (), ledger.restoring record) := by
  unfold restoreRecord
  rw [if_neg (by simpa using hNamed), if_neg (Nat.not_lt.mpr hBounded), hFresh]
  rfl

theorem Ordered.restoring_retains (hOrdered : ledger.Ordered live) (record : RequestRecord)
    (hFresh : ledger.requests.lookup record.id = none) :
    (ledger.restoring record).Ordered (live + (!record.lifecycle.isTerminal).toNat) ∧
      (ledger.restoring record).terminalOrder =
        (ledger.terminalOrder ++
          ([record].filter (fun source => source.lifecycle.isTerminal)).map RequestRecord.id).rtake
          ledger.limits.maxRetainedTerminalRequests ∧
      (∀ id held,
        ledger.requests.lookup id = some held → held.lifecycle.isTerminal = false →
        (ledger.restoring record).requests.lookup id = some held) ∧
      (record.lifecycle.isTerminal = false →
        (ledger.restoring record).requests.lookup record.id = some record.restored) := by
  have hAdded := hOrdered.adding record hFresh
  have hEvicted := evicted_evictIfNeeded (ledger.adding record)
  have hPut : ∀ id, (ledger.adding record).requests.lookup id =
        if id = record.id then some record.restored
        else ledger.requests.lookup id :=
    fun id => AList.lookup_insert_if _ _ _ _
  have hOrder :
      (ledger.adding record).terminalOrder =
        ledger.terminalOrder ++
          ([record].filter (fun source => source.lifecycle.isTerminal)).map RequestRecord.id := by
    unfold RequestLedger.adding
    by_cases hTerminal : record.lifecycle.isTerminal = true
    · simp [refreshRequestCounts, account, putRecord, hTerminal]
    · simp [refreshRequestCounts, account, putRecord, hTerminal]
  refine ⟨hAdded.evictIfNeeded.1, ?_, ?_, ?_⟩
  · rw [← hOrder]
    exact (iterate_evictFront_retains _ _ .nil).1
  · intro id held hHeld hLive
    refine hEvicted.live id held ?_ hLive
    rw [hPut, if_neg]
    · exact hHeld
    · rintro rfl
      rw [hFresh] at hHeld
      cases hHeld
  · intro hLive
    refine hEvicted.live _ _ ?_ ?_
    · rw [hPut, if_pos rfl]
    · unfold RequestRecord.restored
      rw [hLive]
      rfl

/-
  Restoring distinct new records never fails. It keeps every
  live record, and of the terminal ones those at the end.
-/
theorem Ordered.restoreRecords (records : List RequestRecord) (hOrdered : ledger.Ordered live)
    (hNodup : (records.map RequestRecord.id).Nodup) (hNamed : ∀ record ∈ records, record.id ≠ .nil)
    (hBounded : ∀ record ∈ records, record.attempts.length ≤ maxAttemptsPerRequest)
    (hFresh : ∀ record ∈ records, ledger.requests.lookup record.id = none)
    (hLength : ledger.terminalOrder.length ≤ ledger.limits.maxRetainedTerminalRequests) :
    ∃ after,
      ledger.restoreRecords records = (.ok (), after) ∧
        after.Ordered
          (live + (records.filter (fun record => !record.lifecycle.isTerminal)).length) ∧
        after.limits = ledger.limits ∧
        after.terminalOrder =
          (ledger.terminalOrder ++
            (records.filter (fun record => record.lifecycle.isTerminal)).map RequestRecord.id).rtake
            ledger.limits.maxRetainedTerminalRequests ∧
        (∀ id held,
          ledger.requests.lookup id = some held → held.lifecycle.isTerminal = false →
          after.requests.lookup id = some held) ∧
        ∀ record ∈ records,
          record.lifecycle.isTerminal = false →
          after.requests.lookup record.id = some record.restored := by
  induction records generalizing ledger live with
  | nil =>
    refine ⟨ledger, rfl, hOrdered, rfl, ?_, ?_, ?_⟩
    · rw [filter_nil, map_nil, append_nil, List.rtake, Nat.sub_eq_zero_of_le hLength,
        drop_zero]
    · intro id held hHeld _
      exact hHeld
    · intro record hMem
      cases hMem
  | cons record rest ih =>
    rcases nodup_cons.mp hNodup with ⟨hNew, hRest⟩
    have hHead := hFresh record mem_cons_self
    have hRestored := restoreRecord_eq_ok (hNamed record mem_cons_self)
      (hBounded record mem_cons_self) hHead
    rcases hOrdered.restoring_retains record hHead with ⟨hNext, hOrder, hKept, hOwn⟩
    have hLimits : (ledger.restoring record).limits = ledger.limits :=
      evictIfNeeded_limits (ledger.adding record)
    have hOthers : ∀ other ∈ rest, (ledger.restoring record).requests.lookup other.id = none := by
      intro other hOther
      by_contra hSome
      rcases Option.ne_none_iff_exists'.mp hSome with ⟨held, hHeld⟩
      have hAdded := (evicted_evictIfNeeded (ledger.adding record)).subset _ held hHeld
      rcases AList.lookup_insert_cases hAdded with ⟨hSame, -⟩ | ⟨-, hOld⟩
      · apply hNew
        rw [← hSame]
        exact mem_map_of_mem hOther
      · rw [hFresh other (mem_cons_of_mem record hOther)] at hOld
        cases hOld
    rcases ih hNext hRest (fun other hOther => hNamed other (mem_cons_of_mem _ hOther))
        (fun other hOther => hBounded other (mem_cons_of_mem _ hOther)) hOthers (by
          rw [hLimits, hOrder, List.rtake, length_drop]
          omega) with
      ⟨after, hLoop, hAfter, hSame, hOrderAfter, hKeptAfter, hOwnAfter⟩
    refine ⟨after, ?_, ?_, hSame.trans hLimits, ?_, ?_, ?_⟩
    · rw [RequestLedger.restoreRecords, hRestored]
      exact hLoop
    · cases hTerminal : record.lifecycle.isTerminal with
      | _ => simpa [hTerminal, Nat.add_assoc, Nat.add_comm 1] using hAfter
    · rw [hOrderAfter, hLimits, hOrder, rtake_append_rtake, append_assoc,
        ← map_append, ← filter_append, singleton_append]
    · intro id held hHeld hLive
      exact hKeptAfter id held (hKept id held hHeld hLive) hLive
    · intro source hSource hLive
      rcases mem_cons.mp hSource with rfl | hSource
      · refine hKeptAfter _ _ (hOwn hLive) ?_
        unfold RequestRecord.restored
        rw [hLive]
        rfl
      · exact hOwnAfter source hSource hLive

/- Restorable records fill an empty ledger. -/
theorem Restorable.restoreRecords {records : List RequestRecord}
    (hRestorable : Restorable ledger.limits records) :
    ∃ after,
      ledger.clear.restoreRecords records = (.ok (), after) ∧
        after.Populated ∧ after.limits = ledger.limits := by
  rcases (Ordered.clear ledger).restoreRecords records hRestorable.nodup hRestorable.named
    hRestorable.bounded (fun _ _ => rfl) (Nat.zero_le _) with
    ⟨after, hOk, hOrdered, hLimits, hOrder, -, -⟩
  refine ⟨after, hOk, ⟨⟨_, hOrdered, ?_⟩, ?_⟩, hLimits⟩
  · rw [hLimits, Nat.zero_add]
    exact hRestorable.live
  · rw [hOrder, hLimits, List.rtake, length_drop]
    omega

end RequestLedger

end TrafficFabric
