import TrafficFabric.Coordinator.Histories

/-
  The results of committed publications that a coordinator
  remembers, by request and in the order of the commits.

  A result is forgotten by the identity of its request. An
  identity that is committed twice stands in the order
  twice, and its first entry then removes the second result.

  Main declarations:
    * `Coordinator.commitsOf`
    * `Coordinator.Remembers`
    * `Coordinator.duplicates_repeat`
    * `Coordinator.reused_result_forgotten`
-/

namespace TrafficFabric

open AList List

namespace Coordinator

---
-- What Writes The Results
---

/- The commit an operation makes, if it makes one. -/
def commitOf (s : Coordinator) : Op → Option (RequestId × PublishOutcome)
| .publishCompletion publication now =>
  match (s.publishCompletion publication now).1 with
  | .ok outcome =>
    if outcome.disposition = .committed then some (publication.request, outcome) else none
  | .error _ => none
| _ => none

/- The commits of a run, the latest one first. -/
def commitsOf : Coordinator → List Op → List (RequestId × PublishOutcome)
| _, [] => []
| s, op :: rest => (s.step op).commitsOf rest ++ (s.commitOf op).toList

variable {mt : Generator} {s t start : Coordinator} {op : Op}
variable {publication : CompletionPublication} {now : Int64} {outcome : PublishOutcome}
variable {commit : RequestId × PublishOutcome} {commits : List (RequestId × PublishOutcome)}

theorem commitOf_eq_some (hCommit : s.commitOf op = some commit) :
    ∃ publication now,
      op = .publishCompletion publication now ∧
        publication.request = commit.1 ∧ (s.publishCompletion publication now).1 = .ok commit.2 ∧
        commit.2.disposition = .committed := by
  cases op with
  | publishCompletion publication now =>
    simp only [commitOf] at hCommit
    split at hCommit
    · rename_i outcome hOk
      split at hCommit
      · rename_i hCommitted
        cases hCommit
        exact ⟨publication, now, rfl, rfl, hOk, hCommitted⟩
      · cases hCommit
    · cases hCommit
  | _ => cases hCommit

theorem retainCompletion_cache (request : RequestId) (outcome : PublishOutcome)
    (hCache : t.cache = s.cache) :
    (t.retainCompletion request outcome).cache = (s.retainCompletion request outcome).cache := by
  simp only [cache, Prod.mk.injEq] at hCache
  simp only [retainCompletion_eq, cache, hCache.1, hCache.2.1, hCache.2.2]

theorem step_cache (hNone : s.commitOf op = none) : (s.step op).cache = s.cache := by
  have hAsked : (s.asked op).cache = s.cache := by
    unfold asked
    split
    · rfl
    · rename_i request now victim _
      rcases evaluate_frame s request now victim with ⟨sequence, ledger, accounting, hFrame⟩
      rw [hFrame]
      rfl
  rcases (s.step_settling op).cache with hCommits | hSame
  · cases op with
    | publishCompletion publication now =>
      rcases hCommits with ⟨outcome, hOk, hCommitted⟩
      simp only [commitOf, publishCompletion, hOk, hCommitted, if_true] at hNone
      cases hNone
    | _ => exact hCommits.elim
  · exact hSame.trans hAsked

/- A commit is retained, and nothing else is. -/
theorem step_cache_of_commit (hCommit : s.commitOf op = some commit) :
    (s.step op).cache = (s.retainCompletion commit.1 commit.2).cache := by
  rcases commitOf_eq_some hCommit with ⟨publication, now, rfl, hRequest, hOk, hCommitted⟩
  rcases publishCompletion_disposition hOk with ⟨inner, hInner, hKind⟩
  rw [hCommitted] at hKind
  simp only [publishCompletion, hInner, hKind, if_true] at hOk
  simp only [step, publishCompletion, hInner, hKind, if_true]
  rw [← hRequest, ← Except.ok.inj hOk]
  exact retainCompletion_cache _ _
    ((releaseRequestFlows_settling s (.releaseFlow .nil) _ _).cache.resolve_left id)

---
-- Bounds
---

/- Every result is listed, and the list is bounded. -/
structure Listed (s : Coordinator) : Prop where
  listed : ∀ id result, s.completions.lookup id = some result → id ∈ s.completionOrder
  bounded : s.completionOrder.length ≤ s.config.maxRetainedCompletionRecords

theorem Listed.congr (hListed : s.Listed) (hCache : t.cache = s.cache) : t.Listed := by
  simp only [cache, Prod.mk.injEq] at hCache
  rcases hCache with ⟨hResults, hOrder, hLimit⟩
  constructor
  · rw [hResults, hOrder]
    exact hListed.listed
  · rw [hOrder, hLimit]
    exact hListed.bounded

theorem Listed.retainCompletion (hListed : s.Listed) (request : RequestId)
    (outcome : PublishOutcome) : (s.retainCompletion request outcome).Listed := by
  rw [retainCompletion_eq]
  constructor
  · intro id result hResult
    simp only [lookup_eraseAll, lookup_insert_if] at hResult ⊢
    have hMem : id ∈ s.completionOrder ++ [request] := by
      split at hResult
      · cases hResult
      · split at hResult
        · rename_i hSame
          rw [hSame]
          exact mem_append_right _ mem_cons_self
        · exact mem_append_left _ (hListed.listed id result hResult)
    rw [← take_append_drop ((s.completionOrder ++ [request]).length -
      s.config.maxRetainedCompletionRecords) (s.completionOrder ++ [request])] at hMem
    rcases mem_append.mp hMem with hGone | hKept
    · rw [if_pos hGone] at hResult
      cases hResult
    · exact hKept
  · simp only [length_drop]
    omega

theorem Listed.step (hListed : s.Listed) (op : Op) : (s.step op).Listed := by
  cases hCommit : s.commitOf op with
  | none => exact hListed.congr (step_cache hCommit)
  | some commit =>
    exact (hListed.retainCompletion commit.1 commit.2).congr (step_cache_of_commit hCommit)

theorem Listed.size_le (hListed : s.Listed) :
    s.completions.size ≤ s.config.maxRetainedCompletionRecords := by
  have hSubset : s.completions.keys ⊆ s.completionOrder := by
    intro id hMem
    rcases (mem_iff_lookup _ id).mp hMem with ⟨result, hResult⟩
    exact hListed.listed id result hResult
  have hFew := (subperm_of_subset (keys_nodup s.completions) hSubset).length_le
  rw [length_keys] at hFew
  exact hFew.trans hListed.bounded

---
-- Remembered Commits
---

/-
  The latest commits are listed, each under a request of its
  own that is not live, and their results are remembered.
-/
structure Remembers (s : Coordinator) (commits : List (RequestId × PublishOutcome)) : Prop where
  order :
    s.completionOrder.reverse = (commits.take s.config.maxRetainedCompletionRecords).map Prod.fst
  distinct : s.completionOrder.Nodup
  results :
    ∀ commit ∈ commits.take s.config.maxRetainedCompletionRecords,
      s.completions.lookup commit.1 = some commit.2
  ended :
    ∀ id ∈ s.completionOrder,
      ∀ view, s.ledger.view id = some view → view.lifecycle.isTerminal = true

/- A request is registered only when it is not listed. -/
def registersUnlisted (s : Coordinator) : Op → Bool
| .registerRequest request _ => !s.completionOrder.contains request
| _ => true

/- The latest entries, with one more. -/
theorem reverse_drop_append {order : List RequestId} {limit : Nat}
    (hOrder : order.reverse = (commits.take limit).map Prod.fst) :
    ((order ++ [commit.1]).drop ((order ++ [commit.1]).length - limit)).reverse =
      ((commit :: commits).take limit).map Prod.fst := by
  have hCount : order.length = min limit commits.length := by
    rw [← length_reverse, hOrder, length_map, length_take]
  rw [reverse_drop, reverse_append, reverse_singleton, singleton_append, hOrder]
  change List.take _ (List.map Prod.fst (commit :: commits.take limit)) = _
  rw [← map_take]
  congr 1
  cases limit with
  | zero => simp
  | succ limit =>
    have hKept : (order ++ [commit.1]).length - ((order ++ [commit.1]).length - (limit + 1)) =
        min order.length limit + 1 := by
      rw [length_append, length_singleton]
      omega
    rw [hKept, take_succ_cons, take_succ_cons, take_take]
    congr 1
    rw [take_eq_take_iff]
    omega

theorem mem_take_cons {limit : Nat} {recent : RequestId × PublishOutcome}
    (hRecent : recent ∈ (commit :: commits).take limit) :
    recent = commit ∨ recent ∈ commits.take limit := by
  cases limit with
  | zero => cases hRecent
  | succ limit =>
    rw [take_succ_cons, mem_cons] at hRecent
    exact hRecent.imp_right (fun hOld => take_subset_take_left commits (Nat.le_succ limit) hOld)

/- A listed request does not become live. -/
theorem ended_step (hUnlisted : s.registersUnlisted op = true)
    (hEnded :
      ∀ id ∈ s.completionOrder,
        ∀ view, s.ledger.view id = some view → view.lifecycle.isTerminal = true) :
    ∀ id ∈ s.completionOrder,
      ∀ view, (s.step op).ledger.view id = some view → view.lifecycle.isTerminal = true := by
  intro id hMem next hNext
  have hChange := step_viewChange s op id
  rw [hNext] at hChange
  generalize hView : s.ledger.view id = before at hChange
  cases hChange with
  | same => exact hEnded id hMem next hView
  | registered now hLabel =>
    cases hLabel
    simp [registersUnlisted, hMem] at hUnlisted
  | evolved view _ _ _ _ _ hStep => exact hStep.terminal (hEnded id hMem view hView)
  | restored view hLabel => exact (hLabel op rfl).elim

theorem Remembers.step (hKept : s.Remembers commits) (hUnlisted : s.registersUnlisted op = true) :
    (s.step op).Remembers ((s.commitOf op).toList ++ commits) := by
  have hEnded := ended_step hUnlisted hKept.ended
  cases hCommit : s.commitOf op with
  | none =>
    have hCache := step_cache hCommit
    simp only [cache, Prod.mk.injEq] at hCache
    rcases hCache with ⟨hResults, hOrder, hLimit⟩
    refine ⟨?_, ?_, ?_, ?_⟩
    · rw [hOrder, hLimit]
      exact hKept.order
    · rw [hOrder]
      exact hKept.distinct
    · rw [hResults, hLimit]
      exact hKept.results
    · rw [hOrder]
      exact hEnded
  | some commit =>
    have hCache := step_cache_of_commit hCommit
    simp only [cache, Prod.mk.injEq, retainCompletion_eq] at hCache
    rcases hCache with ⟨hResults, hOrder, hLimit⟩
    rcases commitOf_eq_some hCommit with ⟨publication, now, rfl, hRequest, hOk, hCommitted⟩
    rcases publishCompletion_committed hOk hCommitted with ⟨⟨view, _, hView, hStep⟩, hOver⟩
    rw [hRequest] at hView hOver
    have hFresh : commit.1 ∉ s.completionOrder := by
      intro hMem
      have hLive := hStep.published_live.1
      rw [hKept.ended commit.1 hMem view hView] at hLive
      cases hLive
    have hDistinct : (s.completionOrder ++ [commit.1]).Nodup := by
      rw [nodup_append_comm]
      exact nodup_cons.mpr ⟨hFresh, hKept.distinct⟩
    have hLatest :
        (s.step (.publishCompletion publication now)).completionOrder.reverse =
          ((commit :: commits).take s.config.maxRetainedCompletionRecords).map Prod.fst := by
      rw [hOrder]
      exact reverse_drop_append hKept.order
    refine ⟨?_, ?_, ?_, ?_⟩
    · rw [hLimit]
      exact hLatest
    · rw [hOrder]
      exact hDistinct.sublist (drop_sublist _ _)
    · intro recent hRecent
      rw [hLimit] at hRecent
      have hListed : recent.1 ∈ (s.step (.publishCompletion publication now)).completionOrder := by
        rw [← mem_reverse, hLatest]
        exact mem_map_of_mem hRecent
      rw [hOrder] at hListed
      rw [hResults, lookup_eraseAll, if_neg, lookup_insert_if]
      · rcases mem_take_cons hRecent with rfl | hOld
        · exact if_pos rfl
        · rw [if_neg]
          · exact hKept.results recent hOld
          · intro hSame
            apply hFresh
            rw [← hSame, ← mem_reverse, hKept.order]
            exact mem_map_of_mem hOld
      · intro hGone
        exact disjoint_take_drop hDistinct (Nat.le_refl _) hGone hListed
    · intro id hMem
      rw [hOrder] at hMem
      rcases mem_append.mp (mem_of_mem_drop hMem) with hOld | hNew
      · exact hEnded id hOld
      · rw [mem_singleton.mp hNew]
        exact hOver

theorem Remembers.steps (ops : List Op) (hKept : s.Remembers commits)
    (hUnlisted : s.passes registersUnlisted ops = true) :
    (s.steps ops).Remembers (s.commitsOf ops ++ commits) := by
  induction ops generalizing s commits with
  | nil => exact hKept
  | cons op rest ih =>
    simp only [passes, Bool.and_eq_true] at hUnlisted
    rw [commitsOf, append_assoc]
    exact ih (hKept.step hUnlisted.1) hUnlisted.2

/- A duplicate is answered with the remembered result. -/
theorem publishCompletion_duplicate {existing : PublishOutcome}
    (hOk : (s.publishCompletion publication now).1 = .ok outcome)
    (hDuplicate : outcome.disposition = .duplicateSuppressed)
    (hResult : s.completions.lookup publication.request = some existing) :
    outcome.accountedBytesIn = existing.accountedBytesIn ∧
      outcome.accountedBytesOut = existing.accountedBytesOut := by
  rcases publishCompletion_disposition hOk with ⟨inner, hInner, hKind⟩
  rw [hDuplicate] at hKind
  have hOther : ¬ inner.disposition = .committed := by
    rw [hKind]
    decide
  simp only [publishCompletion, hInner, if_neg hOther] at hOk
  rw [← Except.ok.inj hOk]
  unfold repeatTotals
  have hHeld : (s.withLedger (s.ledger.publishCompletion publication now).2).completions.lookup
      publication.request = some existing := hResult
  rw [hHeld]
  simp only [hKind, if_true, and_self]

theorem Booted.cache (hBooted : Booted mt s) : s.completions = ∅ ∧ s.completionOrder = [] := by
  rcases hBooted.volatile with ⟨base, hSame⟩
  have hResults := congrArg Coordinator.completions hSame
  have hOrder := congrArg Coordinator.completionOrder hSame
  exact ⟨hResults, hOrder⟩

/-
  The cache is bounded. When no request is registered while
  it is listed, a duplicate of one of the latest commits
  since the boot is answered with the bytes of that commit.
-/
theorem duplicates_repeat (hBooted : Booted mt start) (ops : List Op) :
    (start.steps ops).completions.size ≤
        (start.steps ops).config.maxRetainedCompletionRecords ∧
      (start.passes registersUnlisted ops = true →
        ∀ publication now outcome,
          ((start.steps ops).publishCompletion publication now).1 = .ok outcome →
          outcome.disposition = .duplicateSuppressed →
          ∀ commit ∈
            (start.commitsOf ops).take (start.steps ops).config.maxRetainedCompletionRecords,
            commit.1 = publication.request →
            outcome.accountedBytesIn = commit.2.accountedBytesIn ∧
              outcome.accountedBytesOut = commit.2.accountedBytesOut) := by
  rcases hBooted.cache with ⟨hResults, hOrder⟩
  constructor
  · have hStart : start.Listed := by
      constructor
      · intro id result hResult
        rw [hResults, lookup_empty] at hResult
        cases hResult
      · rw [hOrder]
        exact Nat.zero_le _
    exact (List.foldlRecOn ops Coordinator.step hStart
      (fun _ hListed op _ => hListed.step op)).size_le
  · intro hUnlisted publication now outcome hOk hDuplicate commit hCommit hRequest
    have hStart : start.Remembers [] := by
      refine ⟨?_, ?_, ?_, ?_⟩
      · rw [hOrder, take_nil]
        rfl
      · rw [hOrder]
        exact nodup_nil
      · rw [take_nil]
        exact fun _ hMem => (not_mem_nil hMem).elim
      · rw [hOrder]
        exact fun _ hMem => (not_mem_nil hMem).elim
    have hKept := hStart.steps ops hUnlisted
    rw [append_nil] at hKept
    have hResult := hKept.results commit hCommit
    rw [hRequest] at hResult
    exact publishCompletion_duplicate hOk hDuplicate hResult

def publicationOf (request : RequestId) (bytes : UInt64) : CompletionPublication where
  request
  attempt := ⟨0, 9⟩
  bytesIn := bytes

def completedOps (request : RequestId) (bytes : UInt64) : List Op :=
  [ .registerRequest request 1,
    .registerAttempt request ⟨0, 9⟩ 0 2,
    .publishCompletion (publicationOf request bytes) 3 ]

theorem duplicates_repeat_completed :
    let s := sampleStart.steps (completedOps ⟨0, 1⟩ 7)
    (s.publishCompletion (publicationOf ⟨0, 1⟩ 8) 4).1.toOption.map PublishOutcome.disposition =
        some .duplicateSuppressed ∧
      ∀ outcome,
        (s.publishCompletion (publicationOf ⟨0, 1⟩ 8) 4).1 = .ok outcome →
        outcome.disposition = .duplicateSuppressed →
        ∀ commit ∈
          (sampleStart.commitsOf (completedOps ⟨0, 1⟩ 7)).take
            s.config.maxRetainedCompletionRecords,
          commit.1 = ⟨0, 1⟩ →
          outcome.accountedBytesIn = commit.2.accountedBytesIn ∧
            outcome.accountedBytesOut = commit.2.accountedBytesOut := by
  intro s
  refine ⟨by decide, ?_⟩
  exact (duplicates_repeat (.fresh (create {} 1)) (completedOps ⟨0, 1⟩ 7)).2 (by decide) _ _

/- Two results are retained, and one terminal request. -/
def reusingStart : Coordinator :=
  ((create
    { maxRetainedCompletionRecords := 2
      limits := { ledger := { maxRetainedTerminalRequests := 1 } } } 1).bootFresh
    sampleGenerator).2

/- A request, another one, and again the first identity. -/
def reusingOps : List Op :=
  completedOps ⟨0, 1⟩ 5 ++ completedOps ⟨0, 2⟩ 6 ++ completedOps ⟨0, 1⟩ 7

/-
  The last commit is answered without its bytes: the entry
  of the first commit removed its result.
-/
theorem reused_result_forgotten :
    let s := reusingStart.steps reusingOps
    (reusingStart.commitsOf reusingOps).head?.map
        (fun commit => (commit.1, commit.2.accountedBytesIn)) = some (⟨0, 1⟩, 7) ∧
      (s.publishCompletion (publicationOf ⟨0, 1⟩ 7) 4).1.toOption.map
          (fun outcome => (outcome.disposition, outcome.accountedBytesIn)) =
        some (.duplicateSuppressed, 0) := by
  decide

end Coordinator

end TrafficFabric
