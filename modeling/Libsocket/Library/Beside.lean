import Libsocket.Library.Command

/-
  Commands with a second component beside their state: what
  a device or another party holds, which the state of the
  command does not show.

  A command on the pair erases to one on the state alone if
  leaving the second component out of its runs gives that
  command's runs.

  Main declarations:
    * `Command.beside`, `Command.aside`
    * `Command.Erases`
    * `Command.Erases.ok`, `Command.Erases.finishes`
    * `Command.Finishes`
-/

namespace Command

variable {ε σ γ α β : Type}

------------------------------------------------------------
-- Both Components
------------------------------------------------------------

/- A command that leaves the second component alone. -/
def beside (m : Command ε σ α) : Command ε (σ × γ) α :=
  fun t =>
    match m t.1 with
    | .ok (a, s') => .ok (a, (s', t.2))
    | .error e => .error e

/- A change of the second component. -/
def aside (f : γ → γ) : Command ε (σ × γ) Unit :=
  modify fun t => (t.1, f t.2)

theorem beside_eq_ok
    {m : Command ε σ α}
    {t t' : σ × γ}
    {a : α} :
    beside m t = .ok (a, t') ↔
      m t.1 = .ok (a, t'.1) ∧ t'.2 = t.2 := by
  unfold beside
  cases hRun : m t.1 with
  | error e => simp
  | ok next =>
      obtain ⟨b, s'⟩ := next
      obtain ⟨u, g⟩ := t'
      constructor
      · intro hSame
        cases hSame
        exact ⟨rfl, rfl⟩
      · rintro ⟨hSame, rfl⟩
        cases hSame
        rfl

theorem run_beside
    {m : Command ε σ α}
    {s s' : σ}
    {a : α}
    (hRun : m s = .ok (a, s'))
    (g : γ) :
    beside m (s, g) = .ok (a, (s', g)) :=
  beside_eq_ok.mpr ⟨hRun, rfl⟩

@[simp] theorem run_aside (f : γ → γ) (t : σ × γ) :
    (aside f : Command ε (σ × γ) Unit) t =
      .ok ((), (t.1, f t.2)) := rfl

------------------------------------------------------------
-- Leaving The Second Component Out
------------------------------------------------------------

/- The outcome of a run without the second component. -/
def outcome :
    Except ε (α × (σ × γ)) → Except ε (α × σ)
| .ok (a, t) => .ok (a, t.1)
| .error e => .error e

/- Without the second component `m` runs as `m₀`. -/
def Erases
    (m : Command ε (σ × γ) α)
    (m₀ : Command ε σ α) : Prop :=
  ∀ t, outcome (m t) = m₀ t.1

section Erases

variable {m : Command ε (σ × γ) α} {m₀ : Command ε σ α}

theorem Erases.run
    (hErases : Erases m m₀)
    (t : σ × γ) :
    outcome (m t) = m₀ t.1 :=
  hErases t

theorem Erases.ok
    {t t' : σ × γ}
    {a : α}
    (hErases : Erases m m₀)
    (hRun : m t = .ok (a, t')) :
    m₀ t.1 = .ok (a, t'.1) := by
  rw [← hErases t, hRun]
  rfl

/- An outcome that is a result comes from a result. -/
theorem exists_of_outcome
    {r : Except ε (α × (σ × γ))}
    {s' : σ}
    {a : α}
    (hOutcome : outcome r = .ok (a, s')) :
    ∃ g, r = .ok (a, (s', g)) := by
  cases r with
  | error e => cases hOutcome
  | ok next =>
      obtain ⟨b, s, g⟩ := next
      cases hOutcome
      exact ⟨g, rfl⟩

theorem Erases.finishes
    {t : σ × γ}
    {s' : σ}
    {a : α}
    (hErases : Erases m m₀)
    (hRun : m₀ t.1 = .ok (a, s')) :
    ∃ g, m t = .ok (a, (s', g)) :=
  exists_of_outcome ((hErases t).trans hRun)

theorem erases_beside (m₀ : Command ε σ α) :
    Erases (γ := γ) (beside m₀) m₀ := by
  intro t
  unfold beside
  cases m₀ t.1 with
  | error e => rfl
  | ok next => rfl

theorem erases_pure (a : α) :
    Erases (γ := γ) (pure a : Command ε (σ × γ) α)
      (pure a) :=
  fun _ => rfl

theorem Erases.bind
    {f : α → Command ε (σ × γ) β}
    {f₀ : α → Command ε σ β}
    (hFirst : Erases m m₀)
    (hRest : ∀ a, Erases (f a) (f₀ a)) :
    Erases (m >>= f) (m₀ >>= f₀) := by
  intro t
  rw [run_bind, run_bind, ← hFirst t]
  cases m t with
  | error e => rfl
  | ok next => exact hRest next.1 next.2

theorem Erases.ite
    {c : Prop}
    [Decidable c]
    {m' : Command ε (σ × γ) α}
    {m₀' : Command ε σ α}
    (hThen : Erases m m₀)
    (hElse : Erases m' m₀') :
    Erases (if c then m else m') (if c then m₀ else m₀') := by
  by_cases hCond : c
  · rw [if_pos hCond, if_pos hCond]
    exact hThen
  · rw [if_neg hCond, if_neg hCond]
    exact hElse

theorem erases_when
    {c : Prop}
    [Decidable c]
    {m : Command ε (σ × γ) Unit}
    {m₀ : Command ε σ Unit}
    (hThen : Erases m m₀) :
    Erases (when c m) (when c m₀) :=
  hThen.ite (erases_pure ())

/- A part that is not run is not missed. -/
theorem Erases.skip
    {c : Prop}
    [Decidable c]
    {k : Command ε σ Unit}
    (hNot : ¬ c)
    (hRest : Erases m m₀) :
    Erases m (when c k >>= fun _ => m₀) := by
  unfold when
  rw [if_neg hNot]
  exact hRest

/- A command together with what it does to the second. -/
theorem erases_beside_aside
    (c : Prop)
    [Decidable c]
    (m₀ : Command ε σ α)
    (f : γ → γ) :
    Erases (do
      let a ← beside m₀
      when c (aside f)
      return a) m₀ := by
  intro t
  have hSplit := run_bind (beside m₀)
    (fun a => when c (aside f) >>= fun _ => pure a) t
  refine (congrArg outcome hSplit).trans ?_
  unfold beside
  cases m₀ t.1 with
  | error e => rfl
  | ok next =>
      by_cases hCond : c
      · rw [when, if_pos hCond]
        rfl
      · rw [when, if_neg hCond]
        rfl

end Erases

------------------------------------------------------------
-- Commands That Finish
------------------------------------------------------------

/- From `I` the command finishes with `R`, and `I` holds on. -/
def Finishes
    (I : σ → Prop)
    (m : Command ε σ α)
    (R : α → Prop) : Prop :=
  ∀ s, I s → ∃ a s', m s = .ok (a, s') ∧ I s' ∧ R a

section Finishes

variable {I : σ → Prop} {R : α → Prop} {R' : β → Prop}

theorem Finishes.pure
    {a : α}
    (hResult : R a) :
    Finishes I (pure a : Command ε σ α) R :=
  fun s hI => ⟨a, s, rfl, hI, hResult⟩

theorem Finishes.bind
    {m : Command ε σ α}
    {f : α → Command ε σ β}
    (hFirst : Finishes I m R)
    (hRest : ∀ a, R a → Finishes I (f a) R') :
    Finishes I (m >>= f) R' := by
  intro s hI
  obtain ⟨a, s₁, hRun, hI₁, hResult⟩ := hFirst s hI
  rw [run_bind_ok hRun]
  exact hRest a hResult s₁ hI₁

theorem Finishes.ite
    {c : Prop}
    [Decidable c]
    {m m' : Command ε σ α}
    (hThen : Finishes I m R)
    (hElse : Finishes I m' R) :
    Finishes I (if c then m else m') R := by
  by_cases hCond : c
  · rw [if_pos hCond]
    exact hThen
  · rw [if_neg hCond]
    exact hElse

theorem Finishes.when
    {c : Prop}
    [Decidable c]
    {m : Command ε σ Unit}
    (hThen : Finishes I m fun _ => True) :
    Finishes I (when c m) fun _ => True :=
  hThen.ite (Finishes.pure trivial)

theorem Finishes.modify
    {f : σ → σ}
    (hStep : ∀ s, I s → I (f s)) :
    Finishes I (modify f : Command ε σ Unit)
      fun _ => True :=
  fun s hI => ⟨(), f s, rfl, hStep s hI, trivial⟩

end Finishes

end Command
