import Mathlib.Data.Nat.Init

/-
  Runs of ones at the low end of a word, and the scan that
  looks for a one behind a zero.

  Main declarations:
    * `BitRun.scan`
    * `BitRun.scan_iff`
-/

namespace BitRun

/-
  Look at `n` bits from bit `i` on, given whether a zero has
  been found. A one behind a zero is refused.
-/
def scan
    (bit : Nat → Bool) : Nat → Nat → Bool → Bool
| 0, _, _ => true
| n + 1, i, foundZero =>
    if bit i = false then
      scan bit n (i + 1) true
    else if foundZero then
      false
    else
      scan bit n (i + 1) foundZero

/- Behind a zero there must be zeros only. -/
theorem scan_true_iff
    (bit : Nat → Bool)
    (n i : Nat) :
    scan bit n i true = true ↔
      ∀ j, j < n → bit (i + j) = false := by
  induction n generalizing i with
  | zero => simp [scan]
  | succ n ih =>
      by_cases hZero : bit i = false
      · rw [scan, if_pos hZero, ih]
        constructor
        · intro hRest j hj
          cases j with
          | zero => exact hZero
          | succ j =>
              have hBit := hRest j (by omega)
              rwa [show i + (j + 1) = i + 1 + j by omega]
        · intro hAll j hj
          have hBit := hAll (j + 1) (by omega)
          rwa [show i + 1 + j = i + (j + 1) by omega]
      · rw [scan, if_neg hZero, if_pos rfl]
        constructor
        · intro hFalse
          cases hFalse
        · exact fun hAll => absurd (hAll 0 (by omega)) hZero

/- What is accepted is a run of ones, then zeros. -/
theorem scan_iff
    (bit : Nat → Bool)
    (n i : Nat) :
    scan bit n i false = true ↔
      ∃ k, k ≤ n ∧
        ∀ j, j < n → bit (i + j) = decide (j < k) := by
  induction n generalizing i with
  | zero => simp [scan]
  | succ n ih =>
      by_cases hZero : bit i = false
      · rw [scan, if_pos hZero, scan_true_iff]
        constructor
        · intro hRest
          refine ⟨0, Nat.zero_le _, fun j hj => ?_⟩
          cases j with
          | zero => simpa using hZero
          | succ j =>
              have hBit := hRest j (by omega)
              rw [show i + (j + 1) = i + 1 + j by omega, hBit]
              rfl
        · rintro ⟨k, -, hRun⟩ j hj
          have hFirst := hRun 0 (by omega)
          rw [Nat.add_zero, hZero] at hFirst
          have hNone : k = 0 := by
            simpa using hFirst.symm
          have hBit := hRun (j + 1) (by omega)
          rw [hNone] at hBit
          rw [show i + 1 + j = i + (j + 1) by omega, hBit]
          rfl
      · have hOne : bit i = true := by simpa using hZero
        rw [scan, if_neg hZero, if_neg Bool.false_ne_true, ih]
        constructor
        · rintro ⟨k, hk, hRun⟩
          refine ⟨k + 1, by omega, fun j hj => ?_⟩
          cases j with
          | zero => simpa using hOne
          | succ j =>
              have hBit := hRun j (by omega)
              rw [show i + (j + 1) = i + 1 + j by omega, hBit]
              simp
        · rintro ⟨k, hk, hRun⟩
          have hFirst := hRun 0 (by omega)
          rw [Nat.add_zero, hOne] at hFirst
          have hSome : 0 < k := by
            simpa using hFirst.symm
          refine ⟨k - 1, by omega, fun j hj => ?_⟩
          have hBit := hRun (j + 1) (by omega)
          rw [show i + 1 + j = i + (j + 1) by omega, hBit]
          simp only [decide_eq_decide]
          omega

end BitRun
