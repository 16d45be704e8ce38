import Mathlib.Logic.Relation

/-
  Labelled transition runs and the induction rules used
  throughout the development: an invariant of every step is
  an invariant of every run, alone or given a second
  invariant.
-/

/- The runs of a labelled transition relation. -/
inductive Run {S A : Type} (step : S → A → S → Prop) :
    S → List A → S → Prop
| nil (s : S) : Run step s [] s
| cons {s t u : S} {a : A} {as : List A} (hStep : step s a t) (hRun : Run step t as u) :
    Run step s (a :: as) u

def Guarded {S A : Type} (allowed : S → A → Prop) (step : S → A → S → Prop) (s : S) (a : A)
    (t : S) : Prop :=
  allowed s a ∧ step s a t

/- Steps whose label tells the state they leave. -/
def Traced {S A : Type} (step : S → A → S → Prop) (s : S) (entry : S × A) (t : S) : Prop :=
  entry.1 = s ∧ step s entry.2 t

namespace Run

variable {S A : Type} {step : S → A → S → Prop} {s t : S} {as : List A}

theorem single {a : A} (hStep : step s a t) : Run step s [a] t := .cons hStep (.nil t)

theorem append {u : S} {bs : List A} (hLeft : Run step s as t) (hRight : Run step t bs u) :
    Run step s (as ++ bs) u := by
  induction hLeft with
  | nil => exact hRight
  | cons hStep _ ih => exact .cons hStep (ih hRight)

/- A property that every step keeps holds after every run. -/
theorem invariant (P : S → Prop) (hKeep : ∀ s a t, step s a t → P s → P t) (hRun : Run step s as t)
    (hStart : P s) : P t := by
  induction hRun with
  | nil => exact hStart
  | cons hStep _ ih => exact ih (hKeep _ _ _ hStep hStart)

/- Weakening the step relation keeps the runs. -/
theorem mono {weaker : S → A → S → Prop} (hWeaken : ∀ s a t, step s a t → weaker s a t)
    (hRun : Run step s as t) : Run weaker s as t := by
  induction hRun with
  | nil => exact .nil _
  | cons hStep _ ih => exact .cons (hWeaken _ _ _ hStep) ih

/-
  An invariant may assume a second invariant that is known
  to hold along the run.
-/
theorem invariant_of_invariant (P Q : S → Prop) (hKeepP : ∀ s a t, step s a t → P s → P t)
    (hKeepQ : ∀ s a t, step s a t → P s → Q s → Q t) (hRun : Run step s as t) (hStartP : P s)
    (hStartQ : Q s) : Q t := by
  have hBoth : P t ∧ Q t := by
    apply hRun.invariant (fun state => P state ∧ Q state)
    · rintro state label next hStep ⟨hP, hQ⟩
      exact ⟨hKeepP state label next hStep hP, hKeepQ state label next hStep hP hQ⟩
    · exact ⟨hStartP, hStartQ⟩
  exact hBoth.2

end Run
