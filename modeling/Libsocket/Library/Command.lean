/-
  Commands: stateful computations that may stop.

  A command reads and changes a state and either finishes
  with a result or stops for a reason `ε`. `Ensures` says
  what holds whenever the command finishes; its rules follow
  the shape of the command.

  Main declarations:
    * `Command`
    * `Command.Ensures`
    * `Command.ensures_bind`
    * `Command.Within`
    * `Command.Reads`, `Command.answer`, `Command.after`
    * `Command.Alike`
-/

------------------------------------------------------------
-- Commands
------------------------------------------------------------

/- A computation on `σ` that may stop with `ε`. -/
abbrev Command (ε σ α : Type) : Type :=
  StateT σ (Except ε) α

namespace Command

variable {ε σ α β : Type}

/- Stop for a reason. -/
def stop (e : ε) : Command ε σ α :=
  fun _ => .error e

/- Run a command only when a condition holds. -/
def when (c : Prop) [Decidable c]
    (m : Command ε σ Unit) : Command ε σ Unit :=
  if c then m else pure ()

------------------------------------------------------------
-- Running Compound Commands
------------------------------------------------------------

@[simp] theorem run_pure (a : α) (s : σ) :
    (pure a : Command ε σ α) s = .ok (a, s) := rfl

@[simp] theorem run_get (s : σ) :
    (get : Command ε σ σ) s = .ok (s, s) := rfl

@[simp] theorem run_modify (f : σ → σ) (s : σ) :
    (modify f : Command ε σ Unit) s = .ok ((), f s) := rfl

@[simp] theorem run_set (t s : σ) :
    (set t : Command ε σ PUnit) s = .ok (.unit, t) := rfl

@[simp] theorem run_stop (e : ε) (s : σ) :
    (stop e : Command ε σ α) s = .error e := rfl

theorem run_bind
    (m : Command ε σ α)
    (f : α → Command ε σ β)
    (s : σ) :
    (m >>= f) s =
      match m s with
      | .ok (a, s₁) => f a s₁
      | .error e => .error e := by
  change (m s >>= fun p => f p.1 p.2) = _
  cases m s with
  | ok p => rfl
  | error e => rfl

/- A first command that finishes hands over its result. -/
theorem run_bind_ok
    {m : Command ε σ α}
    {f : α → Command ε σ β}
    {s s₁ : σ}
    {a : α}
    (hFirst : m s = .ok (a, s₁)) :
    (m >>= f) s = f a s₁ := by
  rw [run_bind, hFirst]

/- A first command that stops, stops the whole. -/
theorem run_bind_error
    {m : Command ε σ α}
    {f : α → Command ε σ β}
    {s : σ}
    {e : ε}
    (hFirst : m s = .error e) :
    (m >>= f) s = .error e := by
  rw [run_bind, hFirst]

/- A finished sequence splits into two finished parts. -/
theorem bind_eq_ok
    {m : Command ε σ α}
    {f : α → Command ε σ β}
    {s s' : σ}
    {b : β} :
    (m >>= f) s = .ok (b, s') ↔
      ∃ a s₁, m s = .ok (a, s₁) ∧
        f a s₁ = .ok (b, s') := by
  rw [run_bind]
  constructor
  · intro hRun
    cases hFirst : m s with
    | ok p => exact ⟨p.1, p.2, rfl, by simpa [hFirst] using hRun⟩
    | error e => simp [hFirst] at hRun
  · rintro ⟨a, s₁, hFirst, hRest⟩
    simpa [hFirst] using hRest

------------------------------------------------------------
-- What A Command Ensures
------------------------------------------------------------

/-
  Whenever the command finishes from `s`, its result and
  final state satisfy `Q`.
-/
def Ensures
    (m : Command ε σ α)
    (s : σ)
    (Q : α → σ → Prop) : Prop :=
  ∀ a s', m s = .ok (a, s') → Q a s'

section Rules

variable {m : Command ε σ α} {f : α → Command ε σ β}
variable {s : σ}

@[simp] theorem ensures_pure
    {a : α}
    {Q : α → σ → Prop} :
    Ensures (pure a : Command ε σ α) s Q ↔ Q a s := by
  simp [Ensures]

@[simp] theorem ensures_get {Q : σ → σ → Prop} :
    Ensures (get : Command ε σ σ) s Q ↔ Q s s := by
  simp [Ensures]

@[simp] theorem ensures_modify
    {g : σ → σ}
    {Q : Unit → σ → Prop} :
    Ensures (modify g : Command ε σ Unit) s Q ↔
      Q () (g s) := by
  constructor
  · intro hRun
    exact hRun () (g s) (run_modify g s)
  · intro hRun a s' hFirst
    rw [run_modify] at hFirst
    cases hFirst
    exact hRun

@[simp] theorem ensures_stop
    {e : ε}
    {Q : α → σ → Prop} :
    Ensures (stop e : Command ε σ α) s Q ↔ True := by
  simp [Ensures]

@[simp] theorem ensures_bind {Q : β → σ → Prop} :
    Ensures (m >>= f) s Q ↔
      Ensures m s fun a s₁ => Ensures (f a) s₁ Q := by
  constructor
  · intro hRun a s₁ hFirst b s' hRest
    exact hRun b s' (bind_eq_ok.mpr ⟨a, s₁, hFirst, hRest⟩)
  · intro hRun b s' hBoth
    rcases bind_eq_ok.mp hBoth with ⟨a, s₁, hFirst, hRest⟩
    exact hRun a s₁ hFirst b s' hRest

theorem ensures_ite
    {c : Prop}
    [Decidable c]
    {m₁ m₂ : Command ε σ α}
    {Q : α → σ → Prop} :
    Ensures (if c then m₁ else m₂) s Q ↔
      (c → Ensures m₁ s Q) ∧ (¬ c → Ensures m₂ s Q) := by
  by_cases hCond : c <;> simp [hCond]

@[simp] theorem ensures_when
    {c : Prop}
    [Decidable c]
    {m : Command ε σ Unit}
    {Q : Unit → σ → Prop} :
    Ensures (when c m) s Q ↔
      (c → Ensures m s Q) ∧ (¬ c → Q () s) := by
  unfold when
  rw [ensures_ite, ensures_pure]

/- A weaker conclusion is ensured as well. -/
theorem Ensures.mono
    {Q Q' : α → σ → Prop}
    (hRun : Ensures m s Q)
    (hWeaken : ∀ a s', Q a s' → Q' a s') :
    Ensures m s Q' :=
  fun a s' hFirst => hWeaken a s' (hRun a s' hFirst)

theorem Ensures.and
    {Q Q' : α → σ → Prop}
    (hLeft : Ensures m s Q)
    (hRight : Ensures m s Q') :
    Ensures m s fun a s' => Q a s' ∧ Q' a s' :=
  fun a s' hFirst =>
    ⟨hLeft a s' hFirst, hRight a s' hFirst⟩

end Rules

------------------------------------------------------------
-- Commands Within A Preorder Of States
------------------------------------------------------------

/- The command only moves the state along `R`. -/
def Within
    (R : σ → σ → Prop)
    (m : Command ε σ α) : Prop :=
  ∀ s a s', m s = .ok (a, s') → R s s'

section Within

variable {R : σ → σ → Prop}

theorem Within.pure
    (hRefl : ∀ s, R s s)
    (a : α) :
    Within R (pure a : Command ε σ α) := by
  intro s b s' hRun
  simp only [run_pure, Except.ok.injEq,
    Prod.mk.injEq] at hRun
  rcases hRun with ⟨-, rfl⟩
  exact hRefl s

theorem Within.bind
    (hTrans : ∀ s t u, R s t → R t u → R s u)
    {m : Command ε σ α}
    {f : α → Command ε σ β}
    (hFirst : Within R m)
    (hRest : ∀ a, Within R (f a)) :
    Within R (m >>= f) := by
  intro s b s' hRun
  rcases bind_eq_ok.mp hRun with ⟨a, s₁, hOne, hTwo⟩
  exact hTrans _ _ _ (hFirst s a s₁ hOne)
    (hRest a s₁ b s' hTwo)

/- A command that starts by looking at the state. -/
theorem Within.get_bind
    {f : σ → Command ε σ α}
    (hRest : ∀ s a s', f s s = .ok (a, s') → R s s') :
    Within R (get >>= f) := by
  intro s a s' hRun
  rw [run_bind_ok (run_get s)] at hRun
  exact hRest s a s' hRun

theorem Within.ite
    {c : Prop}
    [Decidable c]
    {m₁ m₂ : Command ε σ α}
    (hThen : Within R m₁)
    (hElse : Within R m₂) :
    Within R (if c then m₁ else m₂) := by
  by_cases hCond : c
  · simpa [hCond] using hThen
  · simpa [hCond] using hElse

theorem Within.when
    (hRefl : ∀ s, R s s)
    {c : Prop}
    [Decidable c]
    {m : Command ε σ Unit}
    (hThen : Within R m) :
    Within R (when c m) :=
  Within.ite hThen (Within.pure hRefl ())

theorem Within.stop (e : ε) :
    Within R (stop e : Command ε σ α) := by
  intro s a s' hRun
  cases hRun

theorem Within.get
    (hRefl : ∀ s, R s s) :
    Within R (get : Command ε σ σ) := by
  intro s a s' hRun
  cases hRun
  exact hRefl s

theorem Within.modify
    {f : σ → σ}
    (hStep : ∀ s, R s (f s)) :
    Within R (modify f : Command ε σ Unit) := by
  intro s a s' hRun
  cases hRun
  exact hStep s

end Within

------------------------------------------------------------
-- Commands That Only Read
------------------------------------------------------------

/- The command leaves the state alone. -/
abbrev Reads (m : Command ε σ α) : Prop :=
  Within (fun s s' => s' = s) m

theorem Reads.pure (a : α) :
    Reads (pure a : Command ε σ α) := by
  intro s b s' hRun
  cases hRun
  rfl

/- A command that only reads is within any preorder. -/
theorem Reads.within
    {R : σ → σ → Prop}
    {m : Command ε σ α}
    (hRefl : ∀ s, R s s)
    (hReads : Reads m) :
    Within R m := by
  intro s a s' hRun
  rw [hReads s a s' hRun]
  exact hRefl s

/- What a command answers, unless it stops. -/
def answer (m : Command ε σ α) (s : σ) : Option α :=
  match m s with
  | .ok (a, _) => some a
  | .error _ => none

theorem answer_of_run
    {m : Command ε σ α}
    {s s' : σ}
    {a : α}
    (hRun : m s = .ok (a, s')) :
    answer m s = some a := by
  simp [answer, hRun]

/- The state after a command, as it was if it stops. -/
@[irreducible] def after (m : Command ε σ α) (s : σ) : σ :=
  match m s with
  | .ok (_, s') => s'
  | .error _ => s

theorem run_after
    {m : Command ε σ α}
    {s : σ}
    {a : α}
    (hAnswer : answer m s = some a) :
    m s = .ok (a, after m s) := by
  unfold answer at hAnswer
  unfold after
  cases hRun : m s with
  | error e =>
      rw [hRun] at hAnswer
      cases hAnswer
  | ok next =>
      rcases next with ⟨b, s'⟩
      rw [hRun] at hAnswer
      cases hAnswer
      rfl

/- A run that is known by its answer. -/
theorem exists_run_of_answer
    {m : Command ε σ α}
    {s : σ}
    {a : α}
    (hAnswer : answer m s = some a) :
    ∃ s', m s = .ok (a, s') :=
  ⟨after m s, run_after hAnswer⟩

/- A run whose outcome passes a check. -/
theorem exists_run_of_any
    {m : Command ε σ α}
    {s : σ}
    {check : α × σ → Bool}
    (hCheck : (m s).toOption.any check = true) :
    ∃ a s', m s = .ok (a, s') ∧ check (a, s') = true := by
  cases hRun : m s with
  | error e =>
      rw [hRun] at hCheck
      cases hCheck
  | ok next =>
      rw [hRun] at hCheck
      exact ⟨next.1, next.2, rfl, hCheck⟩

------------------------------------------------------------
-- Commands That Cannot Tell States Apart
------------------------------------------------------------

/-
  From related states the command answers the same and ends
  in related states, or stops for the same reason.
-/
def Alike
    (R : σ → σ → Prop)
    (m : Command ε σ α) : Prop :=
  ∀ s t, R s t →
    match m s, m t with
    | .ok (a, s'), .ok (b, t') => a = b ∧ R s' t'
    | .error e, .error e' => e = e'
    | _, _ => False

section Alike

variable {R : σ → σ → Prop}

theorem Alike.pure (a : α) :
    Alike R (pure a : Command ε σ α) :=
  fun _ _ hRel => ⟨rfl, hRel⟩

theorem Alike.stop (e : ε) :
    Alike R (stop e : Command ε σ α) :=
  fun _ _ _ => rfl

theorem Alike.modify
    {f : σ → σ}
    (hStep : ∀ s t, R s t → R (f s) (f t)) :
    Alike R (modify f : Command ε σ Unit) :=
  fun s t hRel => ⟨rfl, hStep s t hRel⟩

theorem Alike.bind
    {m : Command ε σ α}
    {f : α → Command ε σ β}
    (hFirst : Alike R m)
    (hRest : ∀ a, Alike R (f a)) :
    Alike R (m >>= f) := by
  intro s t hRel
  have hStep := hFirst s t hRel
  cases hS : m s with
  | error e =>
      cases hT : m t with
      | error e' =>
          simpa only [hS, hT, run_bind] using hStep
      | ok next => simp [hS, hT] at hStep
  | ok next =>
      cases hT : m t with
      | error e' => simp [hS, hT] at hStep
      | ok next' =>
          simp only [hS, hT] at hStep
          simp only [hS, hT, run_bind]
          rw [← hStep.1]
          exact hRest next.1 next.2 next'.2 hStep.2

theorem Alike.ite
    {c : Prop}
    [Decidable c]
    {m₁ m₂ : Command ε σ α}
    (hThen : Alike R m₁)
    (hElse : Alike R m₂) :
    Alike R (if c then m₁ else m₂) := by
  by_cases hCond : c
  · simpa [hCond] using hThen
  · simpa [hCond] using hElse

/- What is looked at must agree on related states. -/
theorem Alike.get_bind
    {f : σ → Command ε σ α}
    (hSame : ∀ s t, R s t → f s = f t)
    (hRest : ∀ s, Alike R (f s)) :
    Alike R (get >>= f) := by
  intro s t hRel
  rw [run_bind_ok (run_get s), run_bind_ok (run_get t),
    hSame s t hRel]
  exact hRest t s t hRel

theorem Alike.answer_eq
    {m : Command ε σ α}
    (hAlike : Alike R m)
    {s t : σ}
    (hRel : R s t) :
    answer m s = answer m t := by
  have hStep := hAlike s t hRel
  unfold answer
  cases hS : m s with
  | error e =>
      cases hT : m t with
      | error e' => rfl
      | ok next => simp [hS, hT] at hStep
  | ok next =>
      cases hT : m t with
      | error e' => simp [hS, hT] at hStep
      | ok next' =>
          simp only [hS, hT] at hStep
          exact congrArg some hStep.1

/- A run from one state is matched from the other. -/
theorem Alike.exists_left
    {m : Command ε σ α}
    (hAlike : Alike R m)
    {s t t' : σ}
    {a : α}
    (hRel : R s t)
    (hRun : m t = .ok (a, t')) :
    ∃ s', m s = .ok (a, s') ∧ R s' t' := by
  have hStep := hAlike s t hRel
  rw [hRun] at hStep
  cases hS : m s with
  | error e =>
      rw [hS] at hStep
      exact hStep.elim
  | ok next =>
      rw [hS] at hStep
      rcases next with ⟨b, s'⟩
      rcases hStep with ⟨rfl, hRel'⟩
      exact ⟨s', rfl, hRel'⟩

end Alike

end Command
