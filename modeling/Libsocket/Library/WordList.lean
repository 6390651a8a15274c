import Libsocket.Library.Tokens
import Libsocket.Library.Words

/-
  The words that are collected in place are the tokens of the
  string, as many as there is room for.

  Main declarations:
    * `Words.collect_eq`
    * `Words.word_collect`
-/

namespace Words

open Strtok

variable {p : UInt8 → Bool}

theorem collect_eq
    (room : Nat)
    (l : List UInt8) :
    collect p room (some l) = (tokens p l).take room := by
  induction hLength : l.length using Nat.strong_induction_on
    generalizing room l with
  | _ n ih =>
      cases l with
      | nil => simp [collect, tokens, List.splitOnP_nil]
      | cons x xs =>
          have hShort : xs.length < n := by
            rw [← hLength, List.length_cons]
            exact Nat.lt_succ_self _
          by_cases hX : p x = true
          · have hLead : ∀ b ∈ [x], p b = true :=
              List.forall_mem_singleton.mpr hX
            have hTokens := tokens_lead hLead xs
            rw [List.singleton_append] at hTokens
            rw [collect, if_pos hX, hTokens]
            exact ih _ hShort room xs rfl
          · rw [collect, if_neg hX]
            split
            · rename_i hCut
              have hWord := cut_eq_none hCut
              rw [tokens_word hWord (List.cons_ne_nil x xs)]
              cases room with
              | zero => rfl
              | succ room => simp
            · rename_i w rest hCut
              obtain ⟨s, hShape, hS, hWord⟩ := cut_eq_some hCut
              have hSome : w ≠ [] := by
                rintro rfl
                cases hShape
                exact hX hS
              have hLess := cut_length hCut
              rw [hLength] at hLess
              rw [hShape, tokens_delim hS,
                tokens_word hWord hSome,
                ih _ hLess _ rest rfl, ih _ hLess _ rest rfl]
              cases room with
              | zero => simp
              | succ room => simp

/- The first word and those that are collected behind it. -/
theorem word_collect
    {l : List UInt8}
    (hSome : tokens p l ≠ [])
    (room : Nat) :
    (word p (l.dropWhile p)).1 ::
        collect p room (word p (l.dropWhile p)).2 =
      (tokens p l).take (room + 1) := by
  have hLead : ∀ b ∈ l.takeWhile p, p b = true :=
    fun b hB => List.mem_takeWhile_imp hB
  have hTokens := tokens_lead hLead (l.dropWhile p)
  rw [List.takeWhile_append_dropWhile] at hTokens
  rw [hTokens] at hSome ⊢
  have hHead := List.head?_dropWhile_not p l
  cases hShape : l.dropWhile p with
  | nil =>
      rw [hShape] at hSome
      exact absurd rfl hSome
  | cons x xs =>
      rw [hShape] at hHead
      have hX : p x = false := hHead
      rw [← collect_eq]
      cases hCut : cut p (x :: xs) with
      | none =>
          have hWord := cut_eq_none hCut
          rw [word_of_none hWord, collect_none,
            collect_word (List.cons_ne_nil x xs) hWord]
      | some parts =>
          obtain ⟨w, rest⟩ := parts
          obtain ⟨s, hParts, hS, hWord⟩ := cut_eq_some hCut
          have hFirst : w ≠ [] := by
            rintro rfl
            cases hParts
            exact Bool.false_ne_true (hX.symm.trans hS)
          rw [hParts, word_append hWord hS,
            collect_word_append hFirst hWord hS]

end Words
