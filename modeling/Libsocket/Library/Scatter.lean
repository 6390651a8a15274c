import Mathlib.Algebra.GroupWithZero.Nat
import Mathlib.Data.List.Basic

/-
  Filling places of given sizes with the elements of a list,
  each place completely before the next.

  Main declarations:
    * `Scatter.fill`
    * `Scatter.flatten_fill`
    * `Scatter.full_before`
-/

namespace Scatter

variable {α : Type}

/- What each place gets. -/
def fill : List Nat → List α → List (List α)
| [], _ => []
| k :: ks, l => l.take k :: fill ks (l.drop k)

@[simp] theorem fill_nil (l : List α) : fill [] l = [] := rfl

@[simp] theorem fill_cons
    (k : Nat)
    (ks : List Nat)
    (l : List α) :
    fill (k :: ks) l = l.take k :: fill ks (l.drop k) := rfl

@[simp] theorem length_fill
    (ks : List Nat)
    (l : List α) :
    (fill ks l).length = ks.length := by
  induction ks generalizing l with
  | nil => rfl
  | cons k ks ih =>
      rw [fill_cons, List.length_cons, ih, List.length_cons]

/- The places hold the list, as far as there is room. -/
theorem flatten_fill
    (ks : List Nat)
    (l : List α) :
    (fill ks l).flatten = l.take ks.sum := by
  induction ks generalizing l with
  | nil => simp
  | cons k ks ih =>
      rw [fill_cons, List.flatten_cons, ih, List.sum_cons,
        List.take_add]

/- Nothing is left for any place. -/
theorem fill_empty
    (ks : List Nat)
    {c : List α}
    (hMem : c ∈ fill ks ([] : List α)) :
    c = [] := by
  induction ks with
  | nil => cases hMem
  | cons k ks ih =>
      rw [fill_cons, List.take_nil, List.drop_nil] at hMem
      rcases List.mem_cons.mp hMem with hHead | hTail
      · exact hHead
      · exact ih hTail

/- No place gets more than its size. -/
theorem fits
    {ks : List Nat}
    {l c : List α}
    {i k : Nat}
    (hSize : ks[i]? = some k)
    (hPart : (fill ks l)[i]? = some c) :
    c.length ≤ k := by
  induction ks generalizing l i with
  | nil => cases hSize
  | cons k₀ ks ih =>
      cases i with
      | zero =>
          cases hSize
          cases hPart
          exact List.length_take_le k l
      | succ i => exact ih hSize hPart

/- A place that gets something has full places before it. -/
theorem full_before
    {ks : List Nat}
    {l c d : List α}
    {i j k : Nat}
    (hBefore : i < j)
    (hSize : ks[i]? = some k)
    (hPart : (fill ks l)[i]? = some c)
    (hLater : (fill ks l)[j]? = some d)
    (hSome : d ≠ []) :
    c.length = k := by
  induction ks generalizing l i j with
  | nil => cases hSize
  | cons k₀ ks ih =>
      cases j with
      | zero => cases hBefore
      | succ j =>
          cases i with
          | zero =>
              cases hSize
              cases hPart
              by_contra hShort
              have hNone : l.drop k = [] := by
                rw [List.drop_eq_nil_iff]
                rw [List.length_take] at hShort
                omega
              rw [fill_cons, List.getElem?_cons_succ, hNone]
                at hLater
              exact hSome (fill_empty ks
                (List.mem_of_getElem? hLater))
          | succ i =>
              exact ih (Nat.lt_of_succ_lt_succ hBefore) hSize
                hPart hLater

end Scatter
