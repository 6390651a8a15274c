import Mathlib.Data.List.Basic
import Mathlib.Data.List.Chain

/-
  Texts whose parts between separators are not empty: there
  is no separator at either end and no two are adjacent.

  Main declarations:
    * `Separated.Apart`
    * `Separated.parts_ne_nil_iff`
    * `Separated.length_splitOnP`
-/

namespace Separated

variable {α : Type} {sep : α → Bool}

/- Not both are separators. -/
def Apart (sep : α → Bool) (a b : α) : Prop :=
  sep a = false ∨ sep b = false

/- There is one part more than there are separators. -/
theorem length_splitOnP (text : List α) :
    (text.splitOnP sep).length = text.countP sep + 1 := by
  induction text with
  | nil => simp [List.splitOnP_nil]
  | cons b text ih =>
      rw [List.splitOnP_cons_eq_if_modifyHead,
        List.countP_cons]
      by_cases hSep : sep b = true
      · simp [hSep, ih]
      · simp [hSep, ih, List.length_modifyHead]

/-
  Behind a character, and in front of a separator, no two
  separators are adjacent: then only the first part can be
  empty, and not if the character is a separator.
-/
theorem isChain_iff
    {s : α}
    (hSep : sep s = true)
    (a : α)
    (text : List α) :
    List.IsChain (Apart sep) (a :: (text ++ [s])) ↔
      (∀ part, part ∈ (text.splitOnP sep).tail → part ≠ []) ∧
        (sep a = true → (text.splitOnP sep).head? ≠ some []) := by
  induction text generalizing a with
  | nil =>
      simp [List.splitOnP_nil, Apart, hSep]
  | cons b text ih =>
      obtain ⟨part, parts, hShape⟩ :=
        List.exists_cons_of_ne_nil
          (List.splitOnP_ne_nil sep text)
      rw [List.cons_append, List.isChain_cons_cons, ih b,
        List.splitOnP_cons_eq_if_modifyHead, hShape]
      by_cases hB : sep b = true
      · simp only [hB, Apart, if_true, List.tail_cons,
          List.mem_cons, forall_eq_or_imp, List.head?_cons,
          ne_eq, Option.some.injEq, true_imp_iff, or_false,
          Bool.true_eq_false, not_true, imp_false,
          Bool.not_eq_true]
        tauto
      · simp [Apart, hB]

/- Every part of a text has a character. -/
theorem parts_ne_nil_iff
    {s : α}
    (hSep : sep s = true)
    (text : List α) :
    (∀ part, part ∈ text.splitOnP sep → part ≠ []) ↔
      List.IsChain (Apart sep) (s :: (text ++ [s])) := by
  obtain ⟨part, parts, hShape⟩ := List.exists_cons_of_ne_nil
    (List.splitOnP_ne_nil sep text)
  rw [isChain_iff hSep, hShape]
  simp [hSep, and_comm]

/- The characters of the parts are those between separators. -/
theorem mem_part
    (text : List α) :
    ∀ part, part ∈ text.splitOnP sep →
      ∀ a, a ∈ part → a ∈ text ∧ sep a = false := by
  induction text with
  | nil => simp [List.splitOnP_nil]
  | cons b text ih =>
      obtain ⟨part, parts, hShape⟩ :=
        List.exists_cons_of_ne_nil
          (List.splitOnP_ne_nil sep text)
      rw [hShape] at ih
      intro part' hPart a hMem
      rw [List.splitOnP_cons_eq_if_modifyHead, hShape] at hPart
      by_cases hB : sep b = true
      · rw [if_pos hB] at hPart
        rcases List.mem_cons.mp hPart with rfl | hPart
        · cases hMem
        · have hIs := ih part' hPart a hMem
          exact ⟨List.mem_cons_of_mem _ hIs.1, hIs.2⟩
      · rw [if_neg hB, List.modifyHead_cons] at hPart
        rcases List.mem_cons.mp hPart with rfl | hPart
        · rcases List.mem_cons.mp hMem with rfl | hMem
          · exact ⟨List.mem_cons_self, by simpa using hB⟩
          · have hIs := ih part List.mem_cons_self a hMem
            exact ⟨List.mem_cons_of_mem _ hIs.1, hIs.2⟩
        · have hIs := ih part'
            (List.mem_cons_of_mem _ hPart) a hMem
          exact ⟨List.mem_cons_of_mem _ hIs.1, hIs.2⟩

end Separated
