/-
  Tables of flags in the bits of a word.

  Main declarations:
    * `BitTable.ofFlags`, `BitTable.set`, `BitTable.toggle`
    * `BitTable.getLsbD_ofFlags`
    * `BitTable.getLsbD_set`, `BitTable.getLsbD_toggle`
-/

namespace BitTable

variable {w : Nat}

/- The table of the first `w` flags. -/
def ofFlags (f : Nat → Bool) : (w : Nat) → BitVec w
| 0 => 0#0
| w + 1 => BitVec.cons (f w) (ofFlags f w)

theorem getLsbD_ofFlags
    {f : Nat → Bool}
    {i : Nat}
    (hBound : i < w) :
    (ofFlags f w).getLsbD i = f i := by
  induction w with
  | zero => omega
  | succ w ih =>
      rw [ofFlags, BitVec.getLsbD_cons]
      by_cases hLast : i = w
      · rw [if_pos hLast, hLast]
      · rw [if_neg hLast]
        exact ih (by omega)

/- Set one flag. -/
def set (t : BitVec w) (i : Nat) : BitVec w :=
  t ||| (1#w <<< i)

/- Turn one flag over. -/
def toggle (t : BitVec w) (i : Nat) : BitVec w :=
  t ^^^ (1#w <<< i)

theorem getLsbD_single (i j : Nat) :
    (1#w <<< i).getLsbD j = decide (j < w ∧ j = i) := by
  rw [BitVec.getLsbD_shiftLeft, BitVec.getLsbD_one]
  by_cases hBound : j < w
  · by_cases hSame : j = i
    · subst hSame
      simp [hBound]
      omega
    · simp only [hBound, hSame]
      by_cases hLess : j < i
      · simp [hLess]
      · have hPositive : j - i ≠ 0 := by omega
        simp [hPositive]
  · simp [hBound]

theorem getLsbD_set (t : BitVec w) (i j : Nat) :
    (set t i).getLsbD j =
      (t.getLsbD j || decide (j < w ∧ j = i)) := by
  rw [set, BitVec.getLsbD_or, getLsbD_single]

theorem getLsbD_toggle (t : BitVec w) (i j : Nat) :
    (toggle t i).getLsbD j =
      Bool.xor (t.getLsbD j) (decide (j < w ∧ j = i)) := by
  rw [toggle, BitVec.getLsbD_xor, getLsbD_single]

/- A flag stays when another or the same one is set. -/
theorem getLsbD_set_of
    {t : BitVec w}
    {i j : Nat}
    (hFlag : t.getLsbD j = true) :
    (set t i).getLsbD j = true := by
  rw [getLsbD_set, hFlag]
  rfl

theorem getLsbD_set_self
    {t : BitVec w}
    {i : Nat}
    (hBound : i < w) :
    (set t i).getLsbD i = true := by
  rw [getLsbD_set]
  simp [hBound]

theorem getLsbD_toggle_of_ne
    (t : BitVec w)
    {i j : Nat}
    (hNe : j ≠ i) :
    (toggle t i).getLsbD j = t.getLsbD j := by
  rw [getLsbD_toggle]
  simp [hNe]

/- A flag that is set is cleared when it is turned over. -/
theorem getLsbD_toggle_self
    {t : BitVec w}
    {i : Nat}
    (hFlag : t.getLsbD i = true) :
    (toggle t i).getLsbD i = false := by
  have hBound := BitVec.lt_of_getLsbD hFlag
  rw [getLsbD_toggle, hFlag]
  simp [hBound]

/- Then no other flag is set by it. -/
theorem getLsbD_of_toggle
    {t : BitVec w}
    {i j : Nat}
    (hFlag : t.getLsbD i = true)
    (hAfter : (toggle t i).getLsbD j = true) :
    t.getLsbD j = true := by
  by_cases hSame : j = i
  · rw [hSame]
    exact hFlag
  · rw [getLsbD_toggle_of_ne t hSame] at hAfter
    exact hAfter

end BitTable
