import Libsocket.Library.Command

/-
  Labelled transition systems and the states reached by
  runs whose steps all satisfy a guard.

  A guard `ok s a` may look at the state before a step and
  at its label. The unguarded reachable states are the case
  of the guard that is always true.

  Main declarations:
    * `TransitionSystem`
    * `TransitionSystem.ReachableUnder`
    * `TransitionSystem.ReachableUnder.invariant`
    * `TransitionSystem.ReachableUnder.invariant_of`
    * `TransitionSystem.Path`
    * `TransitionSystem.Path.preserves`
    * `TransitionSystem.runUnder`
-/

------------------------------------------------------------
-- Systems And Guarded Reachability
------------------------------------------------------------

/- A system whose steps carry a label. -/
structure TransitionSystem (σ α : Type) where
  init : σ → Prop
  step : σ → α → σ → Prop

namespace TransitionSystem

variable {σ α : Type}

/-
  States reached from an initial state by steps that all
  satisfy the guard.
-/
inductive ReachableUnder
    (T : TransitionSystem σ α)
    (ok : σ → α → Prop) : σ → Prop
  | init {s : σ} (hInit : T.init s) :
      ReachableUnder T ok s
  | step {s s' : σ} {a : α}
      (hReach : ReachableUnder T ok s)
      (hOk : ok s a)
      (hStep : T.step s a s') :
      ReachableUnder T ok s'

/- Reachability with no condition on the steps. -/
abbrev Reachable (T : TransitionSystem σ α) : σ → Prop :=
  T.ReachableUnder fun _ _ => True

namespace ReachableUnder

variable {T : TransitionSystem σ α}
variable {ok ok' : σ → α → Prop}

/- A weaker guard reaches at least the same states. -/
theorem mono
    (hGuard : ∀ s a, ok s a → ok' s a)
    {s : σ}
    (hReach : T.ReachableUnder ok s) :
    T.ReachableUnder ok' s := by
  induction hReach with
  | init hInit => exact .init hInit
  | step _ hOk hStep ih =>
      exact .step ih (hGuard _ _ hOk) hStep

/- Forget the guard. -/
theorem reachable
    {s : σ}
    (hReach : T.ReachableUnder ok s) :
    T.Reachable s :=
  hReach.mono fun _ _ _ => trivial

/-
  The invariant rule: what holds initially and is kept by
  every guarded step holds in every state reached.
-/
theorem invariant
    {I : σ → Prop}
    (hInit : ∀ s, T.init s → I s)
    (hStep : ∀ s a s',
      I s → ok s a → T.step s a s' → I s')
    {s : σ}
    (hReach : T.ReachableUnder ok s) :
    I s := by
  induction hReach with
  | init h => exact hInit _ h
  | step _ hOk h ih => exact hStep _ _ _ ih hOk h

/-
  The invariant rule relative to an invariant that is
  already known.
-/
theorem invariant_of
    {I J : σ → Prop}
    (hKnown : ∀ s, T.ReachableUnder ok s → J s)
    (hInit : ∀ s, T.init s → I s)
    (hStep : ∀ s a s',
      J s → I s → ok s a → T.step s a s' → I s')
    {s : σ}
    (hReach : T.ReachableUnder ok s) :
    I s := by
  induction hReach with
  | init h => exact hInit _ h
  | step hPrior hOk h ih =>
      exact hStep _ _ _ (hKnown _ hPrior) ih hOk h

end ReachableUnder

end TransitionSystem

------------------------------------------------------------
-- Paths Between States
------------------------------------------------------------

namespace TransitionSystem

variable {σ α : Type}

/-
  Runs from one state to another, all of whose steps lead to
  states where the condition holds.
-/
inductive Path
    (T : TransitionSystem σ α)
    (ok : σ → Prop)
    (s : σ) : σ → Prop
  | refl : Path T ok s s
  | step {t u : σ} {a : α}
      (hPath : Path T ok s t)
      (hStep : T.step t a u)
      (hOk : ok u) :
      Path T ok s u

namespace Path

variable {T : TransitionSystem σ α} {ok : σ → Prop}
variable {s t : σ}

/- What a run from a reachable state reaches is reachable. -/
theorem reachable
    (hPath : T.Path ok s t)
    (hReach : T.Reachable s) :
    T.Reachable t := by
  induction hPath with
  | refl => exact hReach
  | step _ hStep _ ih => exact .step ih trivial hStep

/-
  What holds at the start and is kept by every step of a run
  from a reachable state holds at its end.
-/
theorem preserves
    {Φ : σ → Prop}
    (hStep : ∀ u a v, T.Reachable u → Φ u → T.step u a v →
      ok v → Φ v)
    (hReach : T.Reachable s)
    (hStart : Φ s)
    (hPath : T.Path ok s t) :
    Φ t := by
  induction hPath with
  | refl => exact hStart
  | step hPrior hNext hOk ih =>
      exact hStep _ _ _ (hPrior.reachable hReach) ih hNext hOk

end Path

end TransitionSystem

------------------------------------------------------------
-- Systems Given By Commands
------------------------------------------------------------

namespace TransitionSystem

variable {ε σ α ρ : Type}

/-
  The system whose labels are commands. A label whose
  command stops has no step.
-/
def ofExec
    (init : σ → Prop)
    (exec : α → Command ε σ ρ) :
    TransitionSystem σ α where
  init := init
  step s a s' := ∃ r, exec a s = .ok (r, s')

/-
  Execute a list of labels that all satisfy a guard, dropping
  the results.
-/
def runUnder
    (exec : α → Command ε σ ρ)
    (ok : σ → α → Bool) :
    List α → σ → Option σ
| [], s => some s
| a :: as, s =>
    if ok s a then
      match exec a s with
      | .error _ => none
      | .ok (_, s') => runUnder exec ok as s'
    else
      none

/- Guarded labels lead to states reached under the guard. -/
theorem reachableUnder_of_runUnder
    {init : σ → Prop}
    {exec : α → Command ε σ ρ}
    {ok : σ → α → Bool}
    {guard : σ → α → Prop}
    {labels : List α}
    {s s' : σ}
    (hGuard : ∀ s a, ok s a = true → guard s a)
    (hReach : (ofExec init exec).ReachableUnder guard s)
    (hRun : runUnder exec ok labels s = some s') :
    (ofExec init exec).ReachableUnder guard s' := by
  induction labels generalizing s with
  | nil =>
      have hEq : s = s' := by
        simpa [runUnder] using hRun
      exact hEq ▸ hReach
  | cons a as ih =>
      by_cases hOk : ok s a
      · cases hExec : exec a s with
        | error e => simp [runUnder, hOk, hExec] at hRun
        | ok next =>
            rcases next with ⟨r, s₁⟩
            have hTail : runUnder exec ok as s₁ = some s' := by
              simpa [runUnder, hOk, hExec] using hRun
            exact ih (.step hReach (hGuard s a hOk)
              ⟨r, hExec⟩) hTail
      · simp [runUnder, hOk] at hRun

end TransitionSystem
