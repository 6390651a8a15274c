import Mathlib.Data.List.Basic

/-
  The least element of a list, by a scan that takes another
  one only if it is less.

  Main declarations:
    * `Least.scan`, `Least.scan_cases`
-/

namespace Least

variable {ι : Type} (m : ι → Nat)

/- The best element so far, with its measure. -/
def take (best : ι × Nat) (i : ι) : ι × Nat :=
  if m i < best.2 then (i, m i) else best

def scan (best : ι × Nat) (l : List ι) : ι × Nat :=
  l.foldl (take m) best

/- No element is less than the first best, or one is least. -/
theorem scan_cases
    (best : ι × Nat)
    (l : List ι) :
    (scan m best l = best ∧ ∀ i ∈ l, best.2 ≤ m i) ∨
      ∃ i ∈ l, scan m best l = (i, m i) ∧ m i < best.2 ∧
        ∀ j ∈ l, m i ≤ m j := by
  induction l generalizing best with
  | nil => exact .inl ⟨rfl, nofun⟩
  | cons i l ih =>
      have hScan : scan m best (i :: l) =
          scan m (take m best i) l := rfl
      rw [hScan]
      unfold take
      by_cases hLess : m i < best.2
      · rw [if_pos hLess]
        right
        rcases ih (i, m i) with
          ⟨hSame, hAll⟩ | ⟨j, hJ, hSame, hMore, hAll⟩
        · refine ⟨i, List.mem_cons_self, hSame, hLess, ?_⟩
          exact List.forall_mem_cons.mpr ⟨Nat.le_refl _, hAll⟩
        · refine ⟨j, List.mem_cons_of_mem i hJ, hSame,
            Nat.lt_trans hMore hLess, ?_⟩
          exact List.forall_mem_cons.mpr
            ⟨Nat.le_of_lt hMore, hAll⟩
      · rw [if_neg hLess]
        have hLeast := Nat.not_lt.mp hLess
        rcases ih best with
          ⟨hSame, hAll⟩ | ⟨j, hJ, hSame, hMore, hAll⟩
        · exact .inl ⟨hSame,
            List.forall_mem_cons.mpr ⟨hLeast, hAll⟩⟩
        · refine .inr ⟨j, List.mem_cons_of_mem i hJ, hSame,
            hMore, List.forall_mem_cons.mpr ⟨?_, hAll⟩⟩
          exact Nat.le_trans (Nat.le_of_lt hMore) hLeast

end Least
