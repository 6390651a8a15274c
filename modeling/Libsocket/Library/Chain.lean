import Mathlib.Data.List.Basic

/-
  Sequences that lie in a memory in chunks: an item is
  followed by what stands behind it, and a chunk may end by
  pointing back into one that was finished before it began.

  Main declarations:
    * `Link`, `Chain`
    * `Chain.seen_le`, `Chain.congr`
-/

/-
  What lies at a place: the end of a sequence, an item, or
  the place where the sequence goes on; and what it takes.
-/
inductive Link (α : Type) where
| stop (size : Nat)
| item (x : α) (size : Nat)
| back (target size : Nat)

namespace Link

variable {α : Type}

def size : Link α → Nat
| stop n => n
| item _ n => n
| back _ n => n

end Link

variable {α : Type}

/-
  The sequence from a place on, in a chunk that begins at
  `base` or above: how much of the chunk is left, how much is
  seen of the memory, and how many places are looked at. No
  chunk begins below `floor`.
-/
inductive Chain
    (read : Nat → Option (Link α))
    (floor : Nat) :
    Nat → Nat → List α → Nat → Nat → Nat → Prop
| stop {base off n : Nat} :
    read off = some (.stop n) →
    Chain read floor base off [] n n 1
| item {base off n size seen steps : Nat} {x : α}
    {xs : List α} :
    read off = some (.item x n) →
    Chain read floor base (off + n) xs size seen steps →
    Chain read floor base off (x :: xs) (n + size) (n + seen)
      (steps + 1)
| back {base base' off n target size seen steps : Nat}
    {xs : List α} :
    read off = some (.back target n) →
    floor ≤ base' →
    base' ≤ target →
    target + size ≤ base →
    Chain read floor base' target xs size seen steps →
    Chain read floor base off xs n (n + seen) (steps + 1)

namespace Chain

variable {read read' : Nat → Option (Link α)}
variable {floor base off size seen steps limit : Nat}
variable {xs : List α}

/- No part of the memory is seen twice. -/
theorem seen_le
    (hChain : Chain read floor base off xs size seen steps) :
    seen ≤ base + size := by
  induction hChain with
  | stop hRead => exact Nat.le_add_left _ _
  | item hRead hRest ih => omega
  | back hRead hFloor hTarget hBelow hRest ih => omega

/- With links that are not empty, a step sees something. -/
theorem steps_le
    (hSome : ∀ o link, read o = some link → 0 < link.size)
    (hChain : Chain read floor base off xs size seen steps) :
    steps ≤ seen := by
  induction hChain with
  | stop hRead => exact hSome _ _ hRead
  | item hRead hRest ih =>
      have hSize := hSome _ _ hRead
      simp only [Link.size] at hSize
      omega
  | back hRead hFloor hTarget hBelow hRest ih =>
      have hSize := hSome _ _ hRead
      simp only [Link.size] at hSize
      omega

theorem steps_pos
    (hChain : Chain read floor base off xs size seen steps) :
    0 < steps := by
  cases hChain with
  | stop hRead => exact Nat.one_pos
  | item hRead hRest => exact Nat.succ_pos _
  | back hRead hFloor hTarget hBelow hRest => exact Nat.succ_pos _

theorem size_pos
    (hSome : ∀ o link, read o = some link → 0 < link.size)
    (hChain : Chain read floor base off xs size seen steps) :
    0 < size := by
  cases hChain with
  | stop hRead => exact hSome _ _ hRead
  | item hRead hRest =>
      exact Nat.add_pos_left (hSome _ _ hRead) _
  | back hRead hFloor hTarget hBelow hRest =>
      exact hSome _ _ hRead

/-
  A sequence stays what it is where the memory stays as it is
  between the floor and its end.
-/
theorem congr
    (hAgree : ∀ o link, read o = some link → floor ≤ o →
      o + link.size ≤ limit → read' o = some link)
    (hChain : Chain read floor base off xs size seen steps)
    (hFloor : floor ≤ base)
    (hBase : base ≤ off)
    (hLimit : off + size ≤ limit) :
    Chain read' floor base off xs size seen steps := by
  induction hChain with
  | stop hRead => exact .stop (hAgree _ _ hRead (by omega) hLimit)
  | @item base off n size seen steps x xs hRead hRest ih =>
      have hHere : off + n ≤ limit := by omega
      exact .item (hAgree _ _ hRead (by omega) hHere)
        (ih hFloor (Nat.le_add_right_of_le hBase) (by omega))
  | back hRead hLow hTarget hBelow hRest ih =>
      exact .back (hAgree _ _ hRead (by omega) hLimit) hLow
        hTarget hBelow (ih hLow hTarget (by omega))

end Chain
