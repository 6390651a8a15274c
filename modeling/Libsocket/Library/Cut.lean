import Mathlib.Data.List.Basic

/-
  Lists cut at the first occurrence of a separator.

  `before c l` is the part of `l` in front of the first `c`,
  `after c l` the part behind it. A list without a `c` is all
  in front.

  Main declarations:
    * `Cut.before`, `Cut.after`
    * `Cut.before_cons_after`
    * `Cut.before_append`, `Cut.after_append`
-/

namespace Cut

variable {α : Type} [DecidableEq α]

/- The part in front of the first `c`. -/
def before (c : α) : List α → List α
| [] => []
| x :: xs => if x = c then [] else x :: before c xs

/- The part behind the first `c`. -/
def after (c : α) : List α → List α
| [] => []
| x :: xs => if x = c then xs else after c xs

------------------------------------------------------------
-- Both Parts Of A List
------------------------------------------------------------

theorem not_mem_before (c : α) (l : List α) :
    c ∉ before c l := by
  induction l with
  | nil => simp [before]
  | cons x xs ih =>
      by_cases hx : x = c
      · simp [before, hx]
      · simpa [before, hx, Ne.symm hx] using ih

theorem before_cons_after
    {c : α}
    {l : List α}
    (hMem : c ∈ l) :
    before c l ++ c :: after c l = l := by
  induction l with
  | nil => cases hMem
  | cons x xs ih =>
      by_cases hx : x = c
      · simp [before, after, hx]
      · have hTail : c ∈ xs := by
          simpa [Ne.symm hx] using hMem
        simp [before, after, hx, ih hTail]

theorem before_of_not_mem
    {c : α}
    {l : List α}
    (hMem : c ∉ l) :
    before c l = l := by
  induction l with
  | nil => rfl
  | cons x xs ih =>
      have hx : x ≠ c := fun h => hMem (by simp [h])
      have hTail : c ∉ xs := fun h => hMem (by simp [h])
      simp [before, hx, ih hTail]

theorem after_of_not_mem
    {c : α}
    {l : List α}
    (hMem : c ∉ l) :
    after c l = [] := by
  induction l with
  | nil => rfl
  | cons x xs ih =>
      have hx : x ≠ c := fun h => hMem (by simp [h])
      have hTail : c ∉ xs := fun h => hMem (by simp [h])
      simp [after, hx, ih hTail]

------------------------------------------------------------
-- A List Put Together From Two Parts
------------------------------------------------------------

theorem before_append
    {c : α}
    {left : List α}
    (hLeft : c ∉ left)
    (right : List α) :
    before c (left ++ c :: right) = left := by
  induction left with
  | nil => simp [before]
  | cons x xs ih =>
      have hx : x ≠ c := fun h => hLeft (by simp [h])
      have hTail : c ∉ xs := fun h => hLeft (by simp [h])
      simp [before, hx, ih hTail]

theorem after_append
    {c : α}
    {left : List α}
    (hLeft : c ∉ left)
    (right : List α) :
    after c (left ++ c :: right) = right := by
  induction left with
  | nil => simp [after]
  | cons x xs ih =>
      have hx : x ≠ c := fun h => hLeft (by simp [h])
      have hTail : c ∉ xs := fun h => hLeft (by simp [h])
      simp [after, hx, ih hTail]

theorem before_append_of_mem
    {c : α}
    {l : List α}
    (hMem : c ∈ l)
    (right : List α) :
    before c (l ++ right) = before c l := by
  have hParts := before_append (not_mem_before c l)
    (after c l ++ right)
  rw [← List.cons_append, ← List.append_assoc,
    before_cons_after hMem] at hParts
  exact hParts

theorem after_append_of_mem
    {c : α}
    {l : List α}
    (hMem : c ∈ l)
    (right : List α) :
    after c (l ++ right) = after c l ++ right := by
  have hParts := after_append (not_mem_before c l)
    (after c l ++ right)
  rw [← List.cons_append, ← List.append_assoc,
    before_cons_after hMem] at hParts
  exact hParts

------------------------------------------------------------
-- Lengths
------------------------------------------------------------

theorem length_before_le (c : α) (l : List α) :
    (before c l).length ≤ l.length := by
  induction l with
  | nil => simp [before]
  | cons x xs ih =>
      by_cases hx : x = c
      · simp [before, hx]
      · simpa [before, hx] using ih

theorem length_after_le (c : α) (l : List α) :
    (after c l).length ≤ l.length := by
  induction l with
  | nil => simp [after]
  | cons x xs ih =>
      by_cases hx : x = c
      · simp [after, hx]
      · simp only [after, hx, if_false, List.length_cons]
        omega

theorem length_before_lt
    {c : α}
    {l : List α}
    (hMem : c ∈ l) :
    (before c l).length < l.length := by
  have hLength := congrArg List.length (before_cons_after hMem)
  rw [List.length_append, List.length_cons] at hLength
  omega

end Cut
