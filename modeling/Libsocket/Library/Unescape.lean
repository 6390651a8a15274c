import Mathlib.Data.List.Basic

/-
  A word up to a character that ends words, where an escape
  sign in front of a character takes it as it is.

  Main declarations:
    * `Unescape.word`, `Unescape.write`
    * `Unescape.word_write_append`
-/

namespace Unescape

variable {α : Type} [DecidableEq α]

/-
  The word at the front, and what stands behind the character
  that ends it. Where nothing follows an escape sign, the
  word ends with `gap`.
-/
def word (stop : α → Bool) (esc gap : α) :
    List α → List α × List α
| [] => ([], [])
| [c] =>
    if stop c then
      ([], [])
    else if c = esc then
      ([gap], [])
    else
      ([c], [])
| c :: d :: s =>
    if stop c then
      ([], d :: s)
    else if c = esc then
      (d :: (word stop esc gap s).1, (word stop esc gap s).2)
    else
      (c :: (word stop esc gap (d :: s)).1,
        (word stop esc gap (d :: s)).2)

variable {stop : α → Bool} {esc gap : α}

theorem word_stop
    {c : α}
    (hStop : stop c = true)
    (s : List α) :
    word stop esc gap (c :: s) = ([], s) := by
  cases s with
  | nil => simp [word, hStop]
  | cons d s => simp [word, hStop]

theorem word_esc
    (hGoes : stop esc = false)
    (c : α)
    (s : List α) :
    word stop esc gap (esc :: c :: s) =
      (c :: (word stop esc gap s).1,
        (word stop esc gap s).2) := by
  simp [word, hGoes]

theorem word_plain
    {c : α}
    (hGoes : stop c = false)
    (hEsc : c ≠ esc)
    (s : List α) :
    word stop esc gap (c :: s) =
      (c :: (word stop esc gap s).1,
        (word stop esc gap s).2) := by
  cases s with
  | nil => simp [word, hGoes, hEsc]
  | cons d s => simp [word, hGoes, hEsc]

/- Reading a word does not make the text longer. -/
theorem length_word_le (s : List α) :
    (word stop esc gap s).2.length ≤ s.length := by
  fun_induction word stop esc gap s with
  | case1 => exact Nat.le_refl _
  | case2 => exact Nat.zero_le _
  | case3 => exact Nat.zero_le _
  | case4 => exact Nat.zero_le _
  | case5 => exact Nat.le_succ _
  | case6 d s hGoes ih =>
      simp only [List.length_cons]
      omega
  | case7 c d s hGoes hEsc ih =>
      simp only [List.length_cons] at ih ⊢
      omega

/- A word with an escape sign where it needs one. -/
def write (stop : α → Bool) (esc : α) (l : List α) : List α :=
  l.flatMap fun c =>
    if stop c ∨ c = esc then [esc, c] else [c]

/- What is written is read, and what is behind it as well. -/
theorem word_write_append
    (hGoes : stop esc = false)
    (l s : List α) :
    word stop esc gap (write stop esc l ++ s) =
      (l ++ (word stop esc gap s).1,
        (word stop esc gap s).2) := by
  induction l with
  | nil => rfl
  | cons c l ih =>
      have hWrite : write stop esc (c :: l) =
          (if stop c ∨ c = esc then [esc, c] else [c]) ++
            write stop esc l := rfl
      rw [hWrite]
      by_cases hMark : stop c ∨ c = esc
      · rw [if_pos hMark]
        simp only [List.cons_append, List.nil_append]
        rw [word_esc hGoes, ih]
      · rw [if_neg hMark]
        rw [not_or, Bool.not_eq_true] at hMark
        simp only [List.cons_append, List.nil_append]
        rw [word_plain hMark.1 hMark.2, ih]

/- A word up to the character that ends it. -/
theorem word_write
    {c : α}
    (hGoes : stop esc = false)
    (hStop : stop c = true)
    (l s : List α) :
    word stop esc gap (write stop esc l ++ c :: s) =
      (l, s) := by
  rw [word_write_append hGoes, word_stop hStop]
  simp

end Unescape
