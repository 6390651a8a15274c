import Mathlib.Data.List.Induction
import Mathlib.Data.List.Sort

/-
  Sorting in place by neighbours that change places: it is
  stable, and begins at the first element that stands behind
  a greater one.

  Main declarations:
    * `Sifting.sift`, `Sifting.sort`
    * `Sifting.sort_eq`
    * `Sifting.perm_sort`, `Sifting.pairwise_sort`
    * `Sifting.filter_sort`
-/

namespace Sifting

variable {α : Type} (key : α → Nat)

/-
  The element at this place changes places with those in
  front of it, as long as their keys are greater.
-/
def sift : Nat → List α → List α
| 0, l => l
| j + 1, l =>
    match l[j]?, l[j + 1]? with
    | some a, some b =>
        if key b < key a then
          sift j ((l.set j b).set (j + 1) a)
        else
          l
    | _, _ => l

/- So many elements, from this place on. -/
def siftFrom : Nat → Nat → List α → List α
| 0, _, l => l
| n + 1, j, l => siftFrom n (j + 1) (sift key j l)

/- The first place, from `i` on, behind a greater key, or 0. -/
def descent : Nat → List α → Nat
| i, a :: b :: l =>
    if key b < key a then i else descent (i + 1) (b :: l)
| _, _ => 0

def sort (l : List α) : List α :=
  let start := descent key 1 l
  if start = 0 then
    l
  else
    siftFrom key (l.length - start) start l

------------------------------------------------------------
-- The Order From Behind
------------------------------------------------------------

/- The order of the elements when they are read backwards. -/
def Later (x a : α) : Prop := key a ≤ key x

instance : DecidableRel (Later key) :=
  fun x a => inferInstanceAs (Decidable (key a ≤ key x))

instance : Std.Total (Later key) :=
  ⟨fun x a => Nat.le_total (key a) (key x)⟩

instance : IsTrans α (Later key) :=
  ⟨fun _ _ _ hFirst hNext => Nat.le_trans hNext hFirst⟩

/- An element finds its place among those in front of it. -/
theorem sift_eq
    (front : List α)
    (x : α)
    (back : List α) :
    sift key front.length (front ++ x :: back) =
      (front.reverse.orderedInsert (Later key) x).reverse ++
        back := by
  induction front using List.reverseRecOn generalizing back with
  | nil => rfl
  | append_singleton front a ih =>
      have hLeft : (front ++ [a] ++ x :: back)[front.length]? =
          some a := by simp
      have hRight :
          (front ++ [a] ++ x :: back)[front.length + 1]? =
            some x := by simp
      rw [List.length_append, List.length_singleton, sift,
        hLeft, hRight, List.reverse_append,
        List.reverse_singleton, List.singleton_append,
        List.orderedInsert_cons]
      dsimp only
      by_cases hLess : key x < key a
      · have hSwap : ((front ++ [a] ++ x :: back).set
            front.length x).set (front.length + 1) a =
              front ++ x :: (a :: back) := by simp
        have hNot : ¬ Later key x a := Nat.not_le.mpr hLess
        rw [if_pos hLess, if_neg hNot, hSwap, ih]
        simp
      · have hLater : Later key x a := Nat.not_lt.mp hLess
        rw [if_neg hLess, if_pos hLater]
        simp

/- The elements behind the sorted ones, one after another. -/
theorem siftFrom_eq
    (s back : List α) :
    siftFrom key back.length s.length
        ((s.insertionSort (Later key)).reverse ++ back) =
      ((back.reverse ++ s).insertionSort (Later key)).reverse
      := by
  induction back generalizing s with
  | nil => simp [siftFrom]
  | cons x back ih =>
      have hSift := sift_eq key
        (s.insertionSort (Later key)).reverse x back
      rw [List.length_reverse, List.length_insertionSort,
        List.reverse_reverse, ← List.insertionSort_cons]
        at hSift
      rw [List.length_cons, siftFrom, hSift]
      have hRest := ih (x :: s)
      rw [List.length_cons] at hRest
      rw [hRest]
      simp

/- What stands in front of the first descent is in order. -/
theorem descent_spec
    (i : Nat)
    (l : List α) :
    (descent key (i + 1) l = 0 ∧
        l.IsChain fun a b => key a ≤ key b) ∨
      ∃ front back, l = front ++ back ∧
        descent key (i + 1) l = i + front.length ∧
        front ≠ [] ∧
        front.IsChain fun a b => key a ≤ key b := by
  induction l generalizing i with
  | nil => exact .inl ⟨rfl, .nil⟩
  | cons a l ih =>
      cases l with
      | nil => exact .inl ⟨rfl, .singleton a⟩
      | cons b l =>
          unfold descent
          by_cases hLess : key b < key a
          · rw [if_pos hLess]
            exact .inr ⟨[a], b :: l, rfl, rfl,
              List.cons_ne_nil a [], .singleton a⟩
          · rw [if_neg hLess]
            have hPair := Nat.not_lt.mp hLess
            rcases ih (i + 1) with
              ⟨hZero, hAll⟩ |
                ⟨front, back, hSplit, hPlace, hSome, hFront⟩
            · exact .inl ⟨hZero, .cons_cons hPair hAll⟩
            · rcases List.exists_cons_of_ne_nil hSome with
                ⟨c, front, rfl⟩
              rcases List.cons.inj hSplit with ⟨rfl, rfl⟩
              refine .inr ⟨a :: b :: front, back, rfl, ?_,
                List.cons_ne_nil a _,
                .cons_cons hPair hFront⟩
              rw [hPlace]
              simp only [List.length_cons]
              omega

/- A list in order is in order backwards. -/
theorem insertionSort_chain
    {l : List α}
    (hChain : l.IsChain fun a b => key a ≤ key b) :
    (l.reverse.insertionSort (Later key)).reverse = l := by
  have hPairs : l.reverse.Pairwise (Later key) := by
    rw [List.pairwise_reverse]
    exact List.isChain_iff_pairwise.mp hChain
  rw [hPairs.insertionSort_eq, List.reverse_reverse]

/- The places do not matter: it is the sort by insertion. -/
theorem sort_eq (l : List α) :
    sort key l =
      (l.reverse.insertionSort (Later key)).reverse := by
  unfold sort
  dsimp only
  rcases descent_spec key 0 l with
    ⟨hZero, hAll⟩ | ⟨front, back, rfl, hPlace, hSome, hFront⟩
  · rw [if_pos hZero, insertionSort_chain key hAll]
  · have hLength := List.length_pos_iff.mpr hSome
    have hSorted := siftFrom_eq key front.reverse back
    rw [insertionSort_chain key hFront, List.length_reverse,
      ← List.reverse_append] at hSorted
    rw [Nat.zero_add, Nat.zero_add] at hPlace
    rw [hPlace, if_neg (by omega), List.length_append,
      Nat.add_sub_cancel_left, hSorted]

------------------------------------------------------------
-- What Sorting Does
------------------------------------------------------------

theorem perm_sort (l : List α) : (sort key l).Perm l := by
  rw [sort_eq]
  exact (List.reverse_perm _).trans
    ((List.perm_insertionSort _ _).trans (List.reverse_perm l))

theorem pairwise_sort (l : List α) :
    (sort key l).Pairwise fun a b => key a ≤ key b := by
  rw [sort_eq, List.pairwise_reverse]
  exact List.pairwise_insertionSort (Later key) l.reverse

/- Elements with one key stay in their order. -/
theorem filter_sort
    (k : Nat)
    (l : List α) :
    (sort key l).filter (fun a => key a = k) =
      l.filter fun a => key a = k := by
  have hSame : (l.reverse.filter fun a =>
      decide (key a = k)).Pairwise (Later key) := by
    apply List.Pairwise.imp_of_mem _
      (List.pairwise_of_forall fun _ _ => trivial)
    intro a b hA hB _
    have hKeyA := (List.mem_filter.mp hA).2
    have hKeyB := (List.mem_filter.mp hB).2
    rw [decide_eq_true_eq] at hKeyA hKeyB
    exact Nat.le_of_eq (hKeyB.trans hKeyA.symm)
  have hSub := (List.sublist_insertionSort hSame
    List.filter_sublist).filter fun a => decide (key a = k)
  have hPerm := (perm_sort key l).filter
    fun a => decide (key a = k)
  rw [List.filter_filter] at hSub
  simp only [Bool.and_self] at hSub
  have hList : (l.filter fun a => decide (key a = k)).Sublist
      ((sort key l).filter fun a => decide (key a = k)) := by
    rw [sort_eq, List.filter_reverse]
    rw [List.filter_reverse] at hSub
    exact List.reverse_sublist.mp (by simpa using hSub)
  exact (hList.eq_of_length hPerm.length_eq.symm).symm

end Sifting
