import TrafficFabric.Library.Run

/-
  Programs made of atomic steps over shared state, and any
  number of them running side by side.

  A step sees the shared state and a reading of the clock.
  Between two steps of a program the others may take any
  number of steps of theirs, so what a program is shown to
  leave rests on assertions that the steps of the others
  keep: each thread guarantees what its steps do, and
  relies on the guarantees of the others.
-/

---
-- Scripts
---

/- The shared state, and the latest reading of the clock. -/
structure Moment (S T : Type) where
  shared : S
  clock : T

inductive Script (S T α : Type)
| done (value : α)
| act (effect : S → T → S) (next : S → T → Script S T α)

namespace Script

variable {S T α β ε : Type}

def bind : Script S T α → (α → Script S T β) → Script S T β
| done value, rest => rest value
| act effect next, rest => act effect (fun s now => (next s now).bind rest)

instance : Monad (Script S T) where
  pure := done
  bind := bind

/- Go on with a value, or end with the error. -/
def orFail (script : Script S T (Except ε α)) (rest : α → Script S T (Except ε β)) :
    Script S T (Except ε β) :=
  script.bind (fun outcome =>
    match outcome with
    | .error status => done (.error status)
    | .ok value => rest value)

end Script

/- An assertion that the steps of a relation keep. -/
def Stable {M : Type} (steps : M → M → Prop) (assertion : M → Prop) : Prop :=
  ∀ σ τ, steps σ τ → assertion σ → assertion τ

namespace Script

variable {S T α β : Type} [LE T]

/- Every step of a script is one of a relation. -/
def Within (guarantee : Moment S T → Moment S T → Prop) : Script S T α → Prop
| done _ => True
| act effect next =>
  ∀ s clock now,
    clock ≤ now → guarantee ⟨s, clock⟩ ⟨effect s now, now⟩ ∧ (next s now).Within guarantee

theorem Within.bind {guarantee : Moment S T → Moment S T → Prop} {script : Script S T α}
    {rest : α → Script S T β} (hScript : script.Within guarantee)
    (hRest : ∀ value, (rest value).Within guarantee) : (script.bind rest).Within guarantee := by
  induction script with
  | done value => exact hRest value
  | act effect next ih =>
    intro s clock now hClock
    rcases hScript s clock now hClock with ⟨hStep, hNext⟩
    exact ⟨hStep, ih s now hNext⟩

theorem Within.orFail {ε : Type} {guarantee : Moment S T → Moment S T → Prop}
    {script : Script S T (Except ε α)} {rest : α → Script S T (Except ε β)}
    (hScript : script.Within guarantee) (hRest : ∀ value, (rest value).Within guarantee) :
    (script.orFail rest).Within guarantee := by
  apply hScript.bind
  intro outcome
  cases outcome with
  | error status => exact trivial
  | ok value => exact hRest value

end Script

---
-- Assertions
---

namespace Script

variable {S T α β : Type} [LE T]

/-
  From a moment of the assertion a script leaves a value and
  a moment of the postcondition, whatever steps of the
  environment fall in between: after each step there is an
  assertion that the environment keeps.
-/
def Meets (env : Moment S T → Moment S T → Prop) (post : α → Moment S T → Prop) :
    Script S T α → (Moment S T → Prop) → Prop
| done value, pre => ∀ σ, pre σ → post value σ
| act effect next, pre =>
  ∀ s clock now,
    clock ≤ now → pre ⟨s, clock⟩ →
    ∃ mid, Stable env mid ∧ mid ⟨effect s now, now⟩ ∧ (next s now).Meets env post mid

variable {env guarantee : Moment S T → Moment S T → Prop} {pre mid : Moment S T → Prop}

theorem Meets.of_imp {script : Script S T α} {post : α → Moment S T → Prop}
    (hMeets : script.Meets env post mid) (hImp : ∀ σ, pre σ → mid σ) :
    script.Meets env post pre := by
  cases script with
  | done value =>
    intro σ hPre
    exact hMeets σ (hImp σ hPre)
  | act effect next =>
    intro s clock now hClock hPre
    exact hMeets s clock now hClock (hImp _ hPre)

/- One script after another. -/
theorem Meets.bind
    {script : Script S T α} {rest : α → Script S T β} {between : α → Moment S T → Prop}
    {post : β → Moment S T → Prop} (hScript : script.Meets env between pre)
    (hRest : ∀ value, (rest value).Meets env post (between value)) :
    (script.bind rest).Meets env post pre := by
  induction script generalizing pre with
  | done value => exact (hRest value).of_imp hScript
  | act effect next ih =>
    intro s clock now hClock hPre
    rcases hScript s clock now hClock hPre with ⟨assertion, hStable, hHolds, hNext⟩
    exact ⟨assertion, hStable, hHolds, ih s now hNext⟩

/- A script keeps what its own steps and the others keep. -/
theorem Within.meets {script : Script S T α} (hWithin : script.Within guarantee)
    (hOwn : Stable guarantee pre) (hEnv : Stable env pre) :
    script.Meets env (fun _ => pre) pre := by
  induction script with
  | done value =>
    intro σ hPre
    exact hPre
  | act effect next ih =>
    intro s clock now hClock hPre
    rcases hWithin s clock now hClock with ⟨hStep, hNext⟩
    exact ⟨pre, hEnv, hOwn _ _ hStep hPre, ih s now hNext⟩

/- What everybody keeps may be carried along. -/
theorem Meets.frame
    {script : Script S T α} {post : α → Moment S T → Prop} {assertion : Moment S T → Prop}
    (hMeets : script.Meets env post pre) (hWithin : script.Within guarantee)
    (hOwn : Stable guarantee assertion) (hEnv : Stable env assertion) :
    script.Meets env (fun value σ => post value σ ∧ assertion σ)
      (fun σ => pre σ ∧ assertion σ) := by
  induction script generalizing pre with
  | done value =>
    intro σ hPre
    exact ⟨hMeets σ hPre.1, hPre.2⟩
  | act effect next ih =>
    intro s clock now hClock hPre
    rcases hMeets s clock now hClock hPre.1 with ⟨mid, hStable, hMid, hNext⟩
    rcases hWithin s clock now hClock with ⟨hStep, hRest⟩
    refine ⟨fun σ => mid σ ∧ assertion σ, ?_, ⟨hMid, hOwn _ _ hStep hPre.2⟩, ih s now hNext hRest⟩
    rintro σ τ hMoved ⟨hBefore, hKept⟩
    exact ⟨hStable σ τ hMoved hBefore, hEnv σ τ hMoved hKept⟩

end Script

/- Threads over one shared state, in the order they began. -/
structure Pool (S T α : Type) where
  moment : Moment S T
  threads : List (Script S T α) := []

inductive PoolLabel (T : Type)
| begins
| acts (thread : Nat) (now : T)

namespace Pool

variable {S T α : Type}

/- One atomic step of one thread. -/
def act (p : Pool S T α) (thread : Nat) (now : T) : Pool S T α :=
  match p.threads[thread]? with
  | some (.act effect next) =>
    { moment := ⟨effect p.moment.shared now, now⟩
      threads := p.threads.set thread (next p.moment.shared now) }
  | _ => p

def begin (p : Pool S T α) (script : Script S T α) : Pool S T α :=
  { p with threads := p.threads ++ [script] }

/-
  A thread begins with a program for the place it takes, or
  one of the threads acts. The clock does not go back.
-/
inductive Step [LE T] (program : Nat → Script S T α → Prop) :
    Pool S T α → PoolLabel T → Pool S T α → Prop
| begins (p : Pool S T α) (script : Script S T α) (hProgram : program p.threads.length script) :
    Step program p .begins (p.begin script)
| acts (p : Pool S T α) (thread : Nat) (now : T) (hClock : p.moment.clock ≤ now) :
    Step program p (.acts thread now) (p.act thread now)

def Others (guarantee : Nat → Moment S T → Moment S T → Prop) (thread : Nat) (σ τ : Moment S T) :
    Prop :=
  ∃ other, other ≠ thread ∧ guarantee other σ τ

variable [LE T]

/- Every thread stays within its guarantee. -/
def Guaranteed (guarantee : Nat → Moment S T → Moment S T → Prop) (p : Pool S T α) : Prop :=
  ∀ (thread : Nat) (script : Script S T α),
    p.threads[thread]? = some script → script.Within (guarantee thread)

/- A thread meets its postcondition from here on. -/
def Proves (env : Moment S T → Moment S T → Prop) (thread : Nat) (post : α → Moment S T → Prop)
    (p : Pool S T α) : Prop :=
  ∃ script pre,
    p.threads[thread]? = some script ∧ Stable env pre ∧ pre p.moment ∧ script.Meets env post pre

end Pool

---
-- Runs Of Pools
---

namespace Pool

variable {S T α : Type} {p q : Pool S T α} {thread other : Nat} {now : T}

theorem act_eq {effect : S → T → S} {next : S → T → Script S T α}
    (hThread : p.threads[thread]? = some (.act effect next)) :
    p.act thread now =
      { moment := ⟨effect p.moment.shared now, now⟩
        threads := p.threads.set thread (next p.moment.shared now) } := by
  unfold act
  rw [hThread]

/- A thread that cannot act leaves the pool as it is. -/
theorem act_eq_self (hThread : ∀ effect next, p.threads[thread]? ≠ some (.act effect next)) :
    p.act thread now = p := by
  unfold act
  split
  · rename_i effect next hAct
    exact absurd hAct (hThread effect next)
  · rfl

/- What a step of one thread is. -/
theorem act_cases (p : Pool S T α) (thread : Nat) (now : T) :
    p.act thread now = p ∨ ∃ effect next, p.threads[thread]? = some (.act effect next) := by
  by_cases hAct : ∃ effect next, p.threads[thread]? = some (.act effect next)
  · exact .inr hAct
  · left
    apply act_eq_self
    intro effect next hThread
    exact hAct ⟨effect, next, hThread⟩

theorem getElem?_begin {script held : Script S T α} (hThread : p.threads[thread]? = some held) :
    (p.begin script).threads[thread]? = some held := by
  have hLength : thread < p.threads.length := by
    rw [List.getElem?_eq_some_iff] at hThread
    exact hThread.choose
  unfold begin
  rw [List.getElem?_append_left hLength]
  exact hThread

variable [LE T] {program : Nat → Script S T α → Prop}
variable {guarantee : Nat → Moment S T → Moment S T → Prop} {post : α → Moment S T → Prop}
variable {label : PoolLabel T} {labels : List (PoolLabel T)}

theorem Guaranteed.begin {script : Script S T α} (hPool : p.Guaranteed guarantee)
    (hScript : script.Within (guarantee p.threads.length)) :
    (p.begin script).Guaranteed guarantee := by
  intro place held hHeld
  unfold Pool.begin at hHeld
  rw [List.getElem?_append] at hHeld
  split at hHeld
  · exact hPool place held hHeld
  · rw [List.getElem?_singleton] at hHeld
    split at hHeld
    · cases hHeld
      have hPlace : place = p.threads.length := by omega
      rw [hPlace]
      exact hScript
    · cases hHeld

theorem Guaranteed.step
    (hProgram : ∀ place script, program place script → script.Within (guarantee place))
    (hPool : p.Guaranteed guarantee) (hStep : Step program p label q) : q.Guaranteed guarantee := by
  cases hStep with
  | begins script hBegun => exact hPool.begin (hProgram _ script hBegun)
  | acts thread now hClock =>
    rcases act_cases p thread now with hSelf | ⟨effect, next, hThread⟩
    · rw [hSelf]
      exact hPool
    · rw [act_eq hThread]
      intro place held hHeld
      have hNext := (hPool thread _ hThread p.moment.shared p.moment.clock now hClock).2
      rw [List.getElem?_set] at hHeld
      split at hHeld
      · rename_i hSame
        split at hHeld
        · cases hHeld
          rw [← hSame]
          exact hNext
        · cases hHeld
      · exact hPool place held hHeld

/- The others keep the assertion, the thread moves along. -/
theorem Proves.step (hPool : p.Guaranteed guarantee)
    (hProves : p.Proves (Others guarantee thread) thread post) (hStep : Step program p label q) :
    q.Proves (Others guarantee thread) thread post := by
  rcases hProves with ⟨script, pre, hScript, hStable, hPre, hMeets⟩
  cases hStep with
  | begins begun hBegun => exact ⟨script, pre, getElem?_begin hScript, hStable, hPre, hMeets⟩
  | acts other now hClock =>
    rcases act_cases p other now with hSelf | ⟨effect, next, hOther⟩
    · rw [hSelf]
      exact ⟨script, pre, hScript, hStable, hPre, hMeets⟩
    · rw [act_eq hOther]
      have hLength : other < p.threads.length := by
        rw [List.getElem?_eq_some_iff] at hOther
        exact hOther.choose
      by_cases hSame : other = thread
      · subst hSame
        rw [hScript] at hOther
        cases hOther
        rcases hMeets p.moment.shared p.moment.clock now hClock hPre with ⟨mid, hMid, hHolds, hNext⟩
        exact ⟨_, mid, List.getElem?_set_self hLength, hMid, hHolds, hNext⟩
      · refine ⟨script, pre, ?_, hStable, ?_, hMeets⟩
        · rw [List.getElem?_set_ne hSame]
          exact hScript
        · apply hStable p.moment _ _ hPre
          exact ⟨other, hSame, (hPool other _ hOther p.moment.shared p.moment.clock now hClock).1⟩

theorem Guaranteed.run
    (hProgram : ∀ place script, program place script → script.Within (guarantee place))
    (hPool : p.Guaranteed guarantee) (hRun : Run (Step program) p labels q) :
    q.Guaranteed guarantee :=
  hRun.invariant (Guaranteed guarantee) (fun _ _ _ hStep hHeld => hHeld.step hProgram hStep) hPool

theorem Proves.run
    (hProgram : ∀ place script, program place script → script.Within (guarantee place))
    (hPool : p.Guaranteed guarantee) (hProves : p.Proves (Others guarantee thread) thread post)
    (hRun : Run (Step program) p labels q) : q.Proves (Others guarantee thread) thread post :=
  hRun.invariant_of_invariant (Guaranteed guarantee) (Proves (Others guarantee thread) thread post)
    (fun _ _ _ hStep hHeld => hHeld.step hProgram hStep)
    (fun _ _ _ hStep hHeld hMet => hMet.step hHeld hStep) hPool hProves

/- A finished thread has met its postcondition. -/
theorem Proves.finished {env : Moment S T → Moment S T → Prop} {value : α}
    (hProves : p.Proves env thread post) (hDone : p.threads[thread]? = some (.done value)) :
    post value p.moment := by
  rcases hProves with ⟨script, pre, hScript, -, hPre, hMeets⟩
  rw [hDone] at hScript
  cases hScript
  exact hMeets p.moment hPre

/- What every thread keeps holds in every moment. -/
theorem Guaranteed.moment_invariant (assertion : Moment S T → Prop)
    (hProgram : ∀ place script, program place script → script.Within (guarantee place))
    (hStable : ∀ place, Stable (guarantee place) assertion) (hPool : p.Guaranteed guarantee)
    (hHolds : assertion p.moment) (hRun : Run (Step program) p labels q) : assertion q.moment := by
  apply hRun.invariant_of_invariant (Guaranteed guarantee) (fun pool => assertion pool.moment)
    (fun _ _ _ hStep hHeld => hHeld.step hProgram hStep) _ hPool hHolds
  intro before label after hStep hHeld hBefore
  cases hStep with
  | begins script hBegun => exact hBefore
  | acts thread now hClock =>
    rcases act_cases before thread now with hSelf | ⟨effect, next, hThread⟩
    · rw [hSelf]
      exact hBefore
    · rw [act_eq hThread]
      exact hStable thread before.moment _
        (hHeld thread _ hThread before.moment.shared before.moment.clock now hClock).1 hBefore

end Pool

def Script.value? {S T α : Type} : Script S T α → Option α
| done value => some value
| act _ _ => none

namespace Pool

variable {S T α : Type}

def returned? (p : Pool S T α) (thread : Nat) : Option α :=
  p.threads[thread]?.bind Script.value?

theorem returned?_eq_some {p : Pool S T α} {thread : Nat} {value : α}
    (hReturned : p.returned? thread = some value) : p.threads[thread]? = some (.done value) := by
  rcases Option.bind_eq_some_iff.mp hReturned with ⟨script, hScript, hValue⟩
  cases script with
  | done held =>
    cases hValue
    exact hScript
  | act effect next => cases hValue

/- Threads act in turn at readings of the clock. -/
def play (p : Pool S T α) (schedule : List (Nat × T)) : Pool S T α :=
  schedule.foldl (fun pool turn => pool.act turn.1 turn.2) p

/- A schedule whose clock does not go back is a run. -/
theorem run_play [LE T]
    (program : Nat → Script S T α → Prop) (p : Pool S T α) (schedule : List (Nat × T))
    (hClock :
      (p.moment.clock :: schedule.map Prod.snd).Pairwise (fun earlier later => earlier ≤ later)) :
    Run (Step program) p (schedule.map (fun turn => .acts turn.1 turn.2)) (p.play schedule) := by
  induction schedule generalizing p with
  | nil => exact .nil p
  | cons turn rest ih =>
    rw [List.map_cons, List.pairwise_cons] at hClock
    rcases hClock with ⟨hFirst, hRest⟩
    have hNow := hFirst _ List.mem_cons_self
    refine .cons (.acts p turn.1 turn.2 hNow) (ih _ ?_)
    rcases act_cases p turn.1 turn.2 with hSelf | ⟨effect, next, hThread⟩
    · rw [hSelf, List.pairwise_cons]
      refine ⟨fun later hLater => ?_, hRest.of_cons⟩
      exact hFirst later (List.mem_cons_of_mem _ hLater)
    · rw [act_eq hThread]
      exact hRest

end Pool
