/-
  Loops that try again until a try gives something.

  A try starts at a position of an endless sequence of
  answers and uses some of them. It is given a bound on
  their number, and is pending when it would need more. A
  loop ends if and only if there is a mark ahead, where the
  marks are the positions whose answer completes the try
  that comes to it.

  Main declarations:
    * `Retry.Attempt`, `Retry.run`
    * `Retry.result_of_run`
    * `Retry.Marked`
    * `Retry.Marked.ends_iff`
    * `Retry.InBlocks`
-/

namespace Retry

variable {β : Type}

/- What comes of one try. -/
inductive Attempt (β : Type)
  | pending
  | done (b : β)
  | again (next : Nat)

/- The loop with a bound, from a position on. -/
def run
    (attempt : Nat → Nat → Attempt β) :
    Nat → Nat → Option β
| 0, _ => none
| n + 1, p =>
    match attempt (n + 1) p with
    | .pending => none
    | .done b => some b
    | .again q => run attempt n q

/- What every finished try gives, the loop gives. -/
theorem result_of_run
    {attempt : Nat → Nat → Attempt β}
    {P : β → Prop}
    (hDone : ∀ n p b, attempt n p = .done b → P b)
    {n p : Nat}
    {b : β}
    (hRun : run attempt n p = some b) :
    P b := by
  induction n generalizing p with
  | zero => cases hRun
  | succ n ih =>
      unfold run at hRun
      cases hTry : attempt (n + 1) p with
      | pending =>
          rw [hTry] at hRun
          cases hRun
      | done c =>
          rw [hTry] at hRun
          cases hRun
          exact hDone _ _ _ hTry
      | again q =>
          rw [hTry] at hRun
          exact ih hRun

/-
  A try that is done has found a mark. From a start, a try
  with a mark in its reach comes to an end, and the next one
  starts behind it but not behind the mark.
-/
structure Marked
    (attempt : Nat → Nat → Attempt β)
    (start mark : Nat → Prop) : Prop where
  found : ∀ n p b, attempt n p = .done b →
    ∃ j, p ≤ j ∧ mark j
  reached : ∀ n p j, start p → mark j → p ≤ j → j < p + n →
    attempt n p ≠ .pending
  behind : ∀ n p q, attempt n p = .again q → start q ∧ p < q
  kept : ∀ n p q j, start p → attempt n p = .again q →
    mark j → p ≤ j → j < p + n → q ≤ j

variable {attempt : Nat → Nat → Attempt β}
variable {start mark : Nat → Prop}

theorem Marked.found_of_run
    (hMarked : Marked attempt start mark)
    {n p : Nat}
    {b : β}
    (hRun : run attempt n p = some b) :
    ∃ j, p ≤ j ∧ mark j := by
  induction n generalizing p with
  | zero => cases hRun
  | succ n ih =>
      unfold run at hRun
      cases hTry : attempt (n + 1) p with
      | pending =>
          rw [hTry] at hRun
          cases hRun
      | done c => exact hMarked.found _ _ _ hTry
      | again q =>
          rw [hTry] at hRun
          rcases ih hRun with ⟨j, hLe, hMark⟩
          have hBehind := (hMarked.behind _ _ _ hTry).2
          exact ⟨j, by omega, hMark⟩

theorem Marked.run_of_mark
    (hMarked : Marked attempt start mark)
    {n p j : Nat}
    (hStart : start p)
    (hMark : mark j)
    (hLe : p ≤ j)
    (hReach : j < p + n) :
    ∃ b, run attempt n p = some b := by
  induction n generalizing p with
  | zero => omega
  | succ n ih =>
      unfold run
      cases hTry : attempt (n + 1) p with
      | pending =>
          exact absurd hTry
            (hMarked.reached _ _ _ hStart hMark hLe hReach)
      | done b => exact ⟨b, rfl⟩
      | again q =>
          rcases hMarked.behind _ _ _ hTry with ⟨hNext, hLt⟩
          have hAhead := hMarked.kept _ _ _ _ hStart hTry
            hMark hLe hReach
          exact ih hNext hAhead (by omega)

/- The loop ends if and only if there is a mark ahead. -/
theorem Marked.ends_iff
    (hMarked : Marked attempt start mark)
    {p : Nat}
    (hStart : start p) :
    (∃ n b, run attempt n p = some b) ↔
      ∃ j, p ≤ j ∧ mark j := by
  constructor
  · rintro ⟨n, b, hRun⟩
    exact hMarked.found_of_run hRun
  · rintro ⟨j, hLe, hMark⟩
    exact ⟨j - p + 1, hMarked.run_of_mark hStart hMark hLe
      (by omega)⟩

------------------------------------------------------------
-- Tries Of One Width
------------------------------------------------------------

/-
  A try that uses `width` answers, and is done with a result
  if one of them is marked.
-/
def InBlocks
    (attempt : Nat → Nat → Attempt β)
    (width : Nat)
    (result : β → Prop)
    (mark : Nat → Prop) : Prop :=
  ∀ n p,
    (∃ b j, attempt n p = .done b ∧ result b ∧ p ≤ j ∧
      j < p + width ∧ mark j) ∨
    attempt n p = .again (p + width) ∧
      ∀ j, p ≤ j → j < p + width → ¬ mark j

namespace InBlocks

variable {width : Nat} {result : β → Prop}

theorem result_of_done
    (hBlocks : InBlocks attempt width result mark)
    (n p : Nat)
    (b : β)
    (hDone : attempt n p = .done b) :
    result b := by
  rcases hBlocks n p with ⟨c, j, hSame, hResult, -⟩ |
    ⟨hAgain, -⟩
  · rw [hDone] at hSame
    cases hSame
    exact hResult
  · rw [hDone] at hAgain
    cases hAgain

/- The next try starts behind all answers of this one. -/
theorem next_of_again
    (hBlocks : InBlocks attempt width result mark)
    {n p q : Nat}
    (hNext : attempt n p = .again q) :
    q = p + width ∧
      ∀ j, p ≤ j → j < p + width → ¬ mark j := by
  rcases hBlocks n p with ⟨c, j, hDone, -⟩ | ⟨hAgain, hNone⟩
  · rw [hNext] at hDone
    cases hDone
  · rw [hNext] at hAgain
    cases hAgain
    exact ⟨rfl, hNone⟩

theorem marked
    (hBlocks : InBlocks attempt width result mark)
    (hWidth : 0 < width) :
    Marked attempt (fun _ => True) mark := by
  constructor
  · intro n p b hDone
    rcases hBlocks n p with ⟨c, j, -, -, hLow, -, hMark⟩ |
      ⟨hAgain, -⟩
    · exact ⟨j, hLow, hMark⟩
    · rw [hDone] at hAgain
      cases hAgain
  · intro n p j _ _ _ _ hPending
    rcases hBlocks n p with ⟨c, j, hDone, -⟩ | ⟨hAgain, -⟩
    · rw [hPending] at hDone
      cases hDone
    · rw [hPending] at hAgain
      cases hAgain
  · intro n p q hNext
    have hBehind := (hBlocks.next_of_again hNext).1
    exact ⟨trivial, by omega⟩
  · intro n p q j _ hNext hMark hLow _
    rcases hBlocks.next_of_again hNext with ⟨rfl, hNone⟩
    apply Nat.le_of_not_lt
    exact fun hHigh => hNone j hLow hHigh hMark

end InBlocks

end Retry
