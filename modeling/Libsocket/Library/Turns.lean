import Mathlib.Data.List.Basic

/-
  Loops that go round at most so many times, and are left
  when a condition holds or in the middle of a turn.

  Main declarations:
    * `Turns.Loop`, `Turns.run`, `Turns.reached`
    * `Turns.Goes`, `Turns.goes_run`
    * `Turns.Goes.invariant`
    * `Turns.Goes.gathered`, `Turns.Goes.latest`
-/

namespace Turns

/-
  A loop: when it is left at the start of a turn, what a turn
  does, and the result once it is left. A turn gives the next
  state, or a result of its own.
-/
structure Loop (σ ρ : Type) where
  stop : σ → Bool
  turn : σ → σ ⊕ ρ
  finish : σ → ρ

variable {σ ρ : Type} (l : Loop σ ρ)

/- The result of at most so many turns. -/
def run : Nat → σ → ρ
| 0, s => l.finish s
| n + 1, s =>
    if l.stop s then
      l.finish s
    else
      match l.turn s with
      | .inl s' => run n s'
      | .inr r => r

/- The states at the start of the turns. -/
def reached : Nat → σ → List σ
| 0, _ => []
| n + 1, s =>
    if l.stop s then
      []
    else
      s :: match l.turn s with
        | .inl s' => reached n s'
        | .inr _ => []

/-
  From a state, these turns are begun, and this is the result
  in the end.
-/
inductive Goes : σ → List σ → ρ → Prop
  | ends (s : σ) : Goes s [] (l.finish s)
  | next {s s' : σ} {ts : List σ} {r : ρ}
      (hGoes : l.stop s = false)
      (hTurn : l.turn s = .inl s')
      (hRest : Goes s' ts r) :
      Goes s (s :: ts) r
  | leaves {s : σ} {r : ρ}
      (hGoes : l.stop s = false)
      (hTurn : l.turn s = .inr r) :
      Goes s [s] r

theorem goes_run
    (n : Nat)
    (s : σ) :
    Goes l s (reached l n s) (run l n s) := by
  induction n generalizing s with
  | zero => exact .ends s
  | succ n ih =>
      unfold reached run
      cases hStop : l.stop s with
      | true => exact .ends s
      | false =>
          rw [if_neg Bool.false_ne_true,
            if_neg Bool.false_ne_true]
          cases hTurn : l.turn s with
          | inl s' => exact .next hStop hTurn (ih s')
          | inr r => exact .leaves hStop hTurn

namespace Goes

variable {l} {s : σ} {ts : List σ} {r : ρ}

------------------------------------------------------------
-- Every Turn
------------------------------------------------------------

/- No turn begins where the loop stops. -/
theorem not_stop
    (hLoop : Goes l s ts r) :
    ∀ t ∈ ts, l.stop t = false := by
  induction hLoop with
  | ends s => exact List.forall_mem_nil _
  | next hGoes hTurn hRest ih =>
      exact List.forall_mem_cons.mpr ⟨hGoes, ih⟩
  | leaves hGoes hTurn =>
      exact List.forall_mem_cons.mpr
        ⟨hGoes, List.forall_mem_nil _⟩

/- A turn with a result of its own is the end of the loop. -/
theorem result_of_turn
    (hLoop : Goes l s ts r)
    {t : σ}
    {r' : ρ}
    (hMem : t ∈ ts)
    (hTurn : l.turn t = .inr r') :
    r = r' := by
  induction hLoop with
  | ends s => cases hMem
  | next hGoes hNext hRest ih =>
      rcases List.mem_cons.mp hMem with rfl | hMem
      · rw [hTurn] at hNext
        cases hNext
      · exact ih hMem
  | leaves hGoes hEnd =>
      rw [List.mem_singleton.mp hMem, hEnd] at hTurn
      cases hTurn
      rfl

/-
  What holds at first, and is kept by every turn that is
  begun, holds at every turn; and where the loop is left, if
  it is not left in the middle of a turn.
-/
theorem invariant
    {P : σ → Prop}
    (hLoop : Goes l s ts r)
    (hFirst : P s)
    (hKeeps : ∀ t ∈ ts, P t →
      ∀ t', l.turn t = .inl t' → P t') :
    (∀ t ∈ ts, P t) ∧
      ((∃ t, P t ∧ r = l.finish t) ∨
        ∃ t ∈ ts, l.turn t = .inr r) := by
  induction hLoop with
  | ends s =>
      exact ⟨List.forall_mem_nil _, .inl ⟨s, hFirst, rfl⟩⟩
  | @next s s' ts r hGoes hTurn hRest ih =>
      have hNext := hKeeps s List.mem_cons_self hFirst s' hTurn
      obtain ⟨hAll, hEnd⟩ := ih hNext fun t hMem =>
        hKeeps t (List.mem_cons_of_mem s hMem)
      refine ⟨List.forall_mem_cons.mpr ⟨hFirst, hAll⟩, ?_⟩
      rcases hEnd with hDone | ⟨t, hMem, hLeft⟩
      · exact .inl hDone
      · exact .inr ⟨t, List.mem_cons_of_mem s hMem, hLeft⟩
  | @leaves s r hGoes hTurn =>
      refine ⟨List.forall_mem_cons.mpr
        ⟨hFirst, List.forall_mem_nil _⟩, .inr ?_⟩
      exact ⟨s, List.mem_cons_self, hTurn⟩

------------------------------------------------------------
-- What The Turns Leave
------------------------------------------------------------

variable {β : Type}

/- A list that each turn may add to, up to the result. -/
theorem gathered
    (hLoop : Goes l s ts r)
    (list : σ → List β)
    (added : σ → Option β)
    (holds : ρ → List β → Prop)
    (hTurn : ∀ t t', l.turn t = .inl t' →
      list t' = list t ++ (added t).toList)
    (hFinish : ∀ t, holds (l.finish t) (list t))
    (hLeft : ∀ t r, l.turn t = .inr r →
      holds r (list t ++ (added t).toList)) :
    holds r (list s ++ ts.filterMap added) := by
  induction hLoop with
  | ends s => simpa using hFinish s
  | @next s s' ts r hGoes hNext hRest ih =>
      rw [hTurn s s' hNext] at ih
      rw [List.filterMap_cons]
      cases hAdded : added s with
      | none => simpa [hAdded] using ih
      | some b => simpa [hAdded] using ih
  | @leaves s r hGoes hEnd =>
      have hHolds := hLeft s r hEnd
      cases hAdded : added s with
      | none => simpa [hAdded] using hHolds
      | some b => simpa [hAdded] using hHolds

/-
  Where each turn may give something a new value, the last
  turn that did so decides.
-/
theorem latest
    (hLoop : Goes l s ts r)
    (value given : σ → Option β)
    (holds : ρ → Option β → Prop)
    (hTurn : ∀ t t', l.turn t = .inl t' →
      value t' = (given t).or (value t))
    (hFinish : ∀ t, holds (l.finish t) (value t))
    (hLeft : ∀ t r, l.turn t = .inr r →
      holds r ((given t).or (value t))) :
    holds r ((ts.filterMap given).getLast?.or (value s)) := by
  induction hLoop with
  | ends s => simpa using hFinish s
  | @next s s' ts r hGoes hNext hRest ih =>
      rw [hTurn s s' hNext, ← Option.or_assoc] at ih
      rw [List.filterMap_cons]
      cases hGiven : given s with
      | none => simpa [hGiven] using ih
      | some b =>
          rw [hGiven] at ih
          simpa [List.getLast?_cons] using ih
  | @leaves s r hGoes hEnd =>
      have hHolds := hLeft s r hEnd
      cases hGiven : given s with
      | none => simpa [hGiven] using hHolds
      | some b => simpa [hGiven] using hHolds

end Goes

end Turns
