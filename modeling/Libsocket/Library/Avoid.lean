import Libsocket.Library.Command

/-
  Commands that do not stop for a given reason, whatever
  else they do.

  Main declarations:
    * `Command.Avoids`
    * `Command.avoids_bind`
-/

namespace Command

variable {ε σ α β : Type}
variable {e : ε} {m : Command ε σ α} {s : σ}

/- From `s` the command does not stop for the reason `e`. -/
def Avoids
    (e : ε)
    (m : Command ε σ α)
    (s : σ) : Prop :=
  m s ≠ .error e

@[simp] theorem avoids_pure (a : α) :
    Avoids e (pure a : Command ε σ α) s := by
  simp [Avoids]

@[simp] theorem avoids_get :
    Avoids e (get : Command ε σ σ) s := by
  simp [Avoids]

@[simp] theorem avoids_modify (f : σ → σ) :
    Avoids e (modify f : Command ε σ Unit) s := by
  simp [Avoids]

@[simp] theorem avoids_stop (e' : ε) :
    Avoids e (stop e' : Command ε σ α) s ↔ e' ≠ e := by
  simp [Avoids]

/- A command that finishes has not stopped. -/
theorem avoids_of_ok
    {s' : σ}
    {a : α}
    (hRun : m s = .ok (a, s')) :
    Avoids e m s := by
  unfold Avoids
  rw [hRun]
  intro hStop
  cases hStop

/-
  A sequence avoids a reason when its first part does, and
  the rest does wherever the first part gets to.
-/
theorem avoids_bind {f : α → Command ε σ β} :
    Avoids e (m >>= f) s ↔
      Avoids e m s ∧
        Ensures m s fun a s' => Avoids e (f a) s' := by
  unfold Avoids
  rw [run_bind]
  constructor
  · intro hRun
    constructor
    · intro hStop
      exact hRun (by rw [hStop])
    · intro a s' hFirst
      rw [hFirst] at hRun
      exact hRun
  · rintro ⟨hFirst, hRest⟩
    cases hStep : m s with
    | error e' =>
        rw [hStep] at hFirst
        exact fun hStop => hFirst (by cases hStop; rfl)
    | ok next => exact hRest next.1 next.2 hStep

theorem Avoids.bind
    {f : α → Command ε σ β}
    (hFirst : Avoids e m s)
    (hRest : ∀ a s', m s = .ok (a, s') → Avoids e (f a) s') :
    Avoids e (m >>= f) s :=
  avoids_bind.mpr ⟨hFirst, hRest⟩

/- After a first part that is known to finish. -/
theorem avoids_bind_ok
    {f : α → Command ε σ β}
    {s' : σ}
    {a : α}
    (hFirst : m s = .ok (a, s')) :
    Avoids e (m >>= f) s ↔ Avoids e (f a) s' := by
  unfold Avoids
  rw [run_bind_ok hFirst]

theorem avoids_ite
    {c : Prop}
    [Decidable c]
    {m₁ m₂ : Command ε σ α} :
    Avoids e (if c then m₁ else m₂) s ↔
      (c → Avoids e m₁ s) ∧ (¬ c → Avoids e m₂ s) := by
  by_cases hCond : c
  · simp [hCond]
  · simp [hCond]

theorem Avoids.ite
    {c : Prop}
    [Decidable c]
    {m₁ m₂ : Command ε σ α}
    (hThen : c → Avoids e m₁ s)
    (hElse : ¬ c → Avoids e m₂ s) :
    Avoids e (if c then m₁ else m₂) s :=
  avoids_ite.mpr ⟨hThen, hElse⟩

theorem Avoids.when
    {c : Prop}
    [Decidable c]
    {m : Command ε σ Unit}
    (hThen : c → Avoids e m s) :
    Avoids e (when c m) s := by
  unfold Command.when
  exact Avoids.ite hThen fun _ => avoids_pure ()

end Command
