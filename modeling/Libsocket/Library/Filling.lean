import Mathlib.Data.List.Basic

/-
  An array that is filled from its start. A store behind its
  end is not defined.

  Main declarations:
    * `Filling.store`, `Filling.storeAll`
    * `Filling.storeAll_counted`
-/

variable {α β : Type}

/- The array, and the number of entries that are taken. -/
structure Filling (α : Type) where
  entries : List (Option α)
  count : Nat
deriving DecidableEq, Repr

namespace Filling

/- An array of `n` entries in which nothing is stored yet. -/
def cleared (n : Nat) : Filling α where
  entries := List.replicate n none
  count := 0

def store (x : α) (s : Filling α) : Option (Filling α) :=
  if s.count < s.entries.length then
    some ⟨s.entries.set s.count (some x), s.count + 1⟩
  else
    none

def storeAll : List α → Filling α → Option (Filling α)
| [], s => some s
| x :: xs, s => (store x s).bind (storeAll xs)

/- Some entries are taken and some are free. -/
def holding (front : List α) (n : Nat) : Filling α where
  entries := front.map some ++ List.replicate n none
  count := front.length

theorem store_holding
    (x : α)
    (front : List α)
    (n : Nat) :
    store x (holding front (n + 1)) =
      some (holding (front ++ [x]) n) := by
  have hRoom : (holding front (n + 1)).count <
      (holding front (n + 1)).entries.length := by
    simp only [holding, List.length_append, List.length_map,
      List.length_replicate]
    omega
  unfold store
  rw [if_pos hRoom]
  have hLength : front.length =
      (front.map (some : α → Option α)).length :=
    (List.length_map _).symm
  simp only [holding]
  rw [hLength, List.set_append_right (h := Nat.le_refl _),
    Nat.sub_self, List.replicate_succ, List.set_cons_zero]
  simp

theorem storeAll_append
    (xs ys : List α)
    (s : Filling α) :
    storeAll (xs ++ ys) s =
      (storeAll xs s).bind (storeAll ys) := by
  induction xs generalizing s with
  | nil => rfl
  | cons x xs ih =>
      rw [List.cons_append, storeAll, storeAll,
        Option.bind_assoc]
      congr 1
      funext s'
      exact ih s'

/- As many entries as there are free ones find their place. -/
theorem storeAll_holding
    (xs front : List α)
    (n : Nat) :
    storeAll xs (holding front (xs.length + n)) =
      some (holding (front ++ xs) n) := by
  induction xs generalizing front with
  | nil =>
      rw [List.length_nil, Nat.zero_add, List.append_nil]
      rfl
  | cons x xs ih =>
      have hRoom : (x :: xs).length + n =
          xs.length + n + 1 := by
        rw [List.length_cons]
        omega
      rw [storeAll, hRoom, store_holding, Option.bind_some, ih,
        List.append_assoc, List.singleton_append]

/-
  An array of one entry more than there are to be stored
  takes them all, and its last entry stays free.
-/
theorem storeAll_counted (xs : List α) :
    storeAll xs (cleared (xs.length + 1)) =
      some (holding xs 1) :=
  storeAll_holding xs [] 1

/- A loop that stores what each element calls for. -/
theorem foldlM_storeAll
    {f : β → List α}
    {step : Filling α → β → Option (Filling α)}
    (hStep : ∀ s x, step s x = storeAll (f x) s)
    (l : List β)
    (s : Filling α) :
    l.foldlM step s = storeAll (l.flatMap f) s := by
  induction l generalizing s with
  | nil => rfl
  | cons x l ih =>
      rw [List.foldlM_cons, List.flatMap_cons, storeAll_append,
        hStep]
      change (storeAll (f x) s).bind _ = _
      congr 1
      funext s'
      exact ih s'

/- A loop that counts what each element calls for. -/
theorem foldl_count
    {f : β → List α}
    {step : Nat → β → Nat}
    (hStep : ∀ n x, step n x = n + (f x).length)
    (l : List β)
    (n : Nat) :
    l.foldl step n = n + (l.flatMap f).length := by
  induction l generalizing n with
  | nil => rfl
  | cons x l ih =>
      rw [List.foldl_cons, ih, hStep, List.flatMap_cons,
        List.length_append, Nat.add_assoc]

end Filling
