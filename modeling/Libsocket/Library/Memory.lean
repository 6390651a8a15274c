import Mathlib.Data.List.Basic

/-
  Memory as a function of its addresses, and what loading
  and storing a run of elements does.

  Main declarations:
    * `Memory.load`, `Memory.store`, `Memory.storeAll`
    * `Memory.load_store`, `Memory.store_outside`
    * `Memory.load_storeAll`
-/

/- What lies at each address. -/
abbrev Memory (α : Type) : Type := Nat → α

namespace Memory

variable {α : Type} {m : Memory α} {a b n : Nat}
variable {l : List α}

/- The elements of a region. -/
def load (m : Memory α) (a n : Nat) : List α :=
  (List.range n).map fun k => m (a + k)

/- Store elements from an address on. -/
def store (m : Memory α) (a : Nat) (l : List α) : Memory α :=
  fun b => if a ≤ b then (l[b - a]?).getD (m b) else m b

/- Store some parts, one after the other. -/
def storeAll : Memory α → List (Nat × List α) → Memory α
| m, [] => m
| m, (a, l) :: parts => storeAll (m.store a l) parts

@[simp] theorem length_load : (m.load a n).length = n := by
  rw [load, List.length_map, List.length_range]

theorem load_succ :
    m.load a (n + 1) = m a :: m.load (a + 1) n := by
  unfold load
  rw [List.range_succ_eq_map, List.map_cons, List.map_map]
  congr 1
  apply List.map_congr_left
  intro k _
  change m (a + (k + 1)) = m (a + 1 + k)
  congr 1
  omega

theorem load_congr
    {m' : Memory α}
    (hSame : ∀ k < n, m' (a + k) = m (a + k)) :
    m'.load a n = m.load a n := by
  apply List.map_congr_left
  intro k hK
  exact hSame k (List.mem_range.mp hK)

/- An address that no element is stored at. -/
def Outside (b a n : Nat) : Prop := b < a ∨ a + n ≤ b

@[simp] theorem store_nil : m.store a [] = m := by
  funext b
  unfold store
  split
  · rfl
  · rfl

theorem store_outside
    (hOutside : Outside b a l.length) :
    m.store a l b = m b := by
  unfold store
  rcases hOutside with hBelow | hAbove
  · rw [if_neg (Nat.not_le.mpr hBelow)]
  · rw [if_pos (by omega), List.getElem?_eq_none (by omega)]
    rfl

theorem store_at
    {k : Nat}
    (hK : k < l.length) :
    m.store a l (a + k) = l[k] := by
  unfold store
  rw [if_pos (Nat.le_add_right a k), Nat.add_sub_cancel_left,
    List.getElem?_eq_getElem hK]
  rfl

/- Two parts behind one another are stored as one. -/
theorem store_append
    {k : List α} :
    (m.store a l).store (a + l.length) k =
      m.store a (l ++ k) := by
  funext b
  unfold store
  by_cases hA : a ≤ b
  · rw [if_pos hA, if_pos hA]
    by_cases hL : a + l.length ≤ b
    · rw [if_pos hL, List.getElem?_append_right (by omega),
        List.getElem?_eq_none (l := l) (by omega)]
      congr 2
      omega
    · rw [if_neg hL, List.getElem?_append_left (by omega)]
  · rw [if_neg hA, if_neg hA, if_neg (by omega)]

/- What was stored is there. -/
theorem load_store : (m.store a l).load a l.length = l := by
  apply List.ext_getElem
  · rw [length_load]
  · intro k _ hL
    exact (by simp [load] :
      ((m.store a l).load a l.length)[k] =
        m.store a l (a + k)).trans (store_at hL)

/- Two regions with no address in common. -/
def Apart (a n b k : Nat) : Prop := a + n ≤ b ∨ b + k ≤ a

theorem storeAll_outside
    {parts : List (Nat × List α)}
    (hOutside : ∀ part ∈ parts,
      Outside b part.1 part.2.length) :
    m.storeAll parts b = m b := by
  induction parts generalizing m with
  | nil => rfl
  | cons part parts ih =>
      rw [storeAll, ih fun p hP =>
        hOutside p (List.mem_cons_of_mem _ hP)]
      exact store_outside (hOutside part List.mem_cons_self)

/- Parts that do not overlap are all there in the end. -/
theorem load_storeAll
    {parts : List (Nat × List α)}
    (hApart : parts.Pairwise fun p q =>
      Apart p.1 p.2.length q.1 q.2.length)
    {part : Nat × List α}
    (hMem : part ∈ parts) :
    (m.storeAll parts).load part.1 part.2.length = part.2 := by
  induction parts generalizing m with
  | nil => cases hMem
  | cons first parts ih =>
      rw [List.pairwise_cons] at hApart
      rcases List.mem_cons.mp hMem with rfl | hTail
      · -- No later part reaches the first one.
        have hStays : (storeAll (m.store part.1 part.2)
            parts).load part.1 part.2.length =
              (m.store part.1 part.2).load part.1
                part.2.length := by
          apply List.map_congr_left
          intro k hK
          apply storeAll_outside
          intro q hQ
          have hBelow := List.mem_range.mp hK
          rcases hApart.1 q hQ with hLow | hHigh
          · exact .inl (by omega)
          · exact .inr (by omega)
        exact hStays.trans load_store
      · exact ih hApart.2 hTail

end Memory
