import Mathlib.Data.List.TakeWhile

/-
  Words between separators, taken apart in place: a list is
  cut at its first separator, and the part behind it is taken
  up again.

  Main declarations:
    * `Words.cut`, `Words.word`
    * `Words.collect`
    * `Words.spaced`, `Words.collect_spaced`
-/

namespace Words

variable {α : Type} (p : α → Bool)

------------------------------------------------------------
-- Cutting
------------------------------------------------------------

/- The parts in front of the first separator and behind it. -/
def cut : List α → Option (List α × List α)
| [] => none
| x :: xs =>
    if p x then
      some ([], xs)
    else
      (cut xs).map fun parts => (x :: parts.1, parts.2)

variable {p}

/- A list with a separator has a first one. -/
theorem exists_first
    {l : List α}
    (hAny : ∃ y ∈ l, p y = true) :
    ∃ left x right, p x = true ∧
      (∀ y ∈ left, p y = false) ∧ l = left ++ x :: right := by
  induction l with
  | nil =>
      obtain ⟨y, hY, -⟩ := hAny
      cases hY
  | cons y ys ih =>
      by_cases hHead : p y = true
      · exact ⟨[], y, ys, hHead, List.forall_mem_nil _, rfl⟩
      · obtain ⟨z, hZ, hSeparator⟩ := hAny
        have hTail : z ∈ ys := by
          rcases List.mem_cons.mp hZ with rfl | hZ
          · exact absurd hSeparator hHead
          · exact hZ
        obtain ⟨left, x, right, hX, hLeft, rfl⟩ :=
          ih ⟨z, hTail, hSeparator⟩
        refine ⟨y :: left, x, right, hX, ?_, rfl⟩
        exact List.forall_mem_cons.mpr
          ⟨by simpa using hHead, hLeft⟩

theorem cut_append
    {left : List α}
    {x : α}
    (hLeft : ∀ y ∈ left, p y = false)
    (hSeparator : p x = true)
    (right : List α) :
    cut p (left ++ x :: right) = some (left, right) := by
  induction left with
  | nil => simp [cut, hSeparator]
  | cons y ys ih =>
      have hHead := hLeft y List.mem_cons_self
      have hTail := ih fun z hz =>
        hLeft z (List.mem_cons_of_mem y hz)
      simp [cut, hHead, hTail]

theorem cut_of_none
    {l : List α}
    (hNone : ∀ y ∈ l, p y = false) :
    cut p l = none := by
  induction l with
  | nil => rfl
  | cons y ys ih =>
      have hHead := hNone y List.mem_cons_self
      have hTail := ih fun z hz =>
        hNone z (List.mem_cons_of_mem y hz)
      simp [cut, hHead, hTail]

theorem cut_eq_none
    {l : List α}
    (hCut : cut p l = none) :
    ∀ y ∈ l, p y = false := by
  intro y hY
  by_contra hSeparator
  rw [Bool.not_eq_false] at hSeparator
  obtain ⟨left, x, right, hX, hLeft, rfl⟩ :=
    exists_first ⟨y, hY, hSeparator⟩
  rw [cut_append hLeft hX] at hCut
  cases hCut

/- What is cut off, the separator, and what is behind it. -/
theorem cut_eq_some
    {l left right : List α}
    (hCut : cut p l = some (left, right)) :
    ∃ x, l = left ++ x :: right ∧ p x = true ∧
      ∀ y ∈ left, p y = false := by
  by_cases hAny : ∃ y ∈ l, p y = true
  · obtain ⟨left', x, right', hX, hLeft, rfl⟩ :=
      exists_first hAny
    rw [cut_append hLeft hX] at hCut
    cases hCut
    exact ⟨x, rfl, hX, hLeft⟩
  · rw [cut_of_none fun y hY => by
      by_contra hSeparator
      exact hAny ⟨y, hY, by simpa using hSeparator⟩] at hCut
    cases hCut

theorem cut_length
    {l left right : List α}
    (hCut : cut p l = some (left, right)) :
    right.length < l.length := by
  induction l generalizing left with
  | nil => cases hCut
  | cons y ys ih =>
      unfold cut at hCut
      split at hCut
      · cases hCut
        exact Nat.lt_succ_self _
      · obtain ⟨⟨a, b⟩, hTail, hParts⟩ :=
          Option.map_eq_some_iff.mp hCut
        cases hParts
        have hLess := ih hTail
        rw [List.length_cons]
        omega

------------------------------------------------------------
-- One Word
------------------------------------------------------------

variable (p)

/-
  The word at the front and the part behind its separator,
  if it has one.
-/
def word (l : List α) : List α × Option (List α) :=
  match cut p l with
  | some (w, rest) => (w, some rest)
  | none => (l, none)

variable {p}

theorem word_append
    {w : List α}
    {x : α}
    (hWord : ∀ y ∈ w, p y = false)
    (hSeparator : p x = true)
    (rest : List α) :
    word p (w ++ x :: rest) = (w, some rest) := by
  rw [word, cut_append hWord hSeparator]

theorem word_of_none
    {w : List α}
    (hWord : ∀ y ∈ w, p y = false) :
    word p w = (w, none) := by
  rw [word, cut_of_none hWord]

------------------------------------------------------------
-- All Words
------------------------------------------------------------

variable (p)

/-
  The words from a cursor on, as many as there is room for;
  separators in front of a word are skipped.
-/
def collect (room : Nat) :
    Option (List α) → List (List α)
| none => []
| some [] => []
| some (x :: xs) =>
    if p x then
      collect room (some xs)
    else
      match hCut : cut p (x :: xs) with
      | none => if 0 < room then [x :: xs] else []
      | some (w, rest) =>
          if 0 < room then
            w :: collect (room - 1) (some rest)
          else
            collect room (some rest)
termination_by cursor => (cursor.getD []).length
decreasing_by
  · simp
  · have hLess := cut_length hCut
    simpa using hLess
  · have hLess := cut_length hCut
    simpa using hLess

/- Words with separators in front of each. -/
def spaced (words : List (List α × List α)) : List α :=
  words.flatMap fun next => next.1 ++ next.2

variable {p}

theorem collect_none (room : Nat) :
    collect p room none = [] := by
  rw [collect]

theorem collect_separators
    {separators : List α}
    (hSeparators : ∀ y ∈ separators, p y = true)
    (room : Nat)
    (rest : List α) :
    collect p room (some (separators ++ rest)) =
      collect p room (some rest) := by
  induction separators with
  | nil => rfl
  | cons y ys ih =>
      have hHead := hSeparators y List.mem_cons_self
      rw [List.cons_append, collect, if_pos hHead]
      exact ih fun z hz =>
        hSeparators z (List.mem_cons_of_mem y hz)

/- One word, when there is room. -/
theorem collect_word
    {w : List α}
    (hSome : w ≠ [])
    (hWord : ∀ y ∈ w, p y = false)
    (room : Nat) :
    collect p (room + 1) (some w) = [w] := by
  cases w with
  | nil => exact absurd rfl hSome
  | cons x xs =>
      have hHead := hWord x List.mem_cons_self
      have hCut := cut_of_none hWord
      rw [collect, if_neg (by simp [hHead])]
      split
      · rfl
      · rename_i hOther
        rw [hCut] at hOther
        cases hOther

theorem collect_word_append
    {w : List α}
    {x : α}
    (hSome : w ≠ [])
    (hWord : ∀ y ∈ w, p y = false)
    (hSeparator : p x = true)
    (room : Nat)
    (rest : List α) :
    collect p (room + 1) (some (w ++ x :: rest)) =
      w :: collect p room (some rest) := by
  cases w with
  | nil => exact absurd rfl hSome
  | cons y ys =>
      have hHead := hWord y List.mem_cons_self
      have hCut := cut_append hWord hSeparator rest
      rw [List.cons_append] at hCut ⊢
      rw [collect, if_neg (by simp [hHead])]
      split
      · rename_i hOther
        rw [hCut] at hOther
        cases hOther
      · rename_i hOther
        rw [hCut] at hOther
        cases hOther
        rw [if_pos (Nat.succ_pos room)]
        rfl

/- Nothing, or a separator, stands in front. -/
theorem spaced_head
    {words : List (List α × List α)}
    (hSeparators : ∀ next ∈ words,
      next.1 ≠ [] ∧ ∀ y ∈ next.1, p y = true)
    {trailing : List α}
    (hTrailing : ∀ y ∈ trailing, p y = true) :
    spaced words ++ trailing = [] ∨
      ∃ x xs, spaced words ++ trailing = x :: xs ∧
        p x = true := by
  cases words with
  | nil =>
      cases trailing with
      | nil => exact .inl rfl
      | cons x xs =>
          exact .inr ⟨x, xs, rfl,
            hTrailing x List.mem_cons_self⟩
  | cons next words =>
      obtain ⟨hSome, hAll⟩ :=
        hSeparators next List.mem_cons_self
      obtain ⟨x, xs, hShape⟩ :=
        List.exists_cons_of_ne_nil hSome
      refine .inr ⟨x, xs ++ next.2 ++ spaced words ++ trailing,
        ?_, hAll x ?_⟩
      · simp [spaced, hShape]
      · rw [hShape]
        exact List.mem_cons_self

/-
  Words that are put behind separators are collected again,
  whatever separators follow the last one.
-/
theorem collect_spaced
    {words : List (List α × List α)}
    (hSeparators : ∀ next ∈ words,
      next.1 ≠ [] ∧ ∀ y ∈ next.1, p y = true)
    (hWords : ∀ next ∈ words,
      next.2 ≠ [] ∧ ∀ y ∈ next.2, p y = false)
    {trailing : List α}
    (hTrailing : ∀ y ∈ trailing, p y = true)
    {room : Nat}
    (hRoom : words.length ≤ room) :
    collect p room (some (spaced words ++ trailing)) =
      words.map Prod.snd := by
  induction words generalizing room with
  | nil =>
      have hAll := collect_separators hTrailing room []
      rw [List.append_nil] at hAll
      change collect p room (some trailing) = []
      rw [hAll, collect]
  | cons next words ih =>
      obtain ⟨separators, w⟩ := next
      have hHere := hSeparators _ List.mem_cons_self
      have hWord := hWords _ List.mem_cons_self
      rw [List.length_cons] at hRoom
      obtain ⟨room, rfl⟩ := Nat.exists_eq_add_of_le' hRoom
      have hRest := @ih
        (fun n hn => hSeparators n (List.mem_cons_of_mem _ hn))
        (fun n hn => hWords n (List.mem_cons_of_mem _ hn))
        (room + words.length) (Nat.le_add_left _ _)
      change collect p _ (some ((separators ++ w ++
        spaced words) ++ trailing)) = w :: words.map Prod.snd
      rw [List.append_assoc, List.append_assoc,
        collect_separators hHere.2]
      have hLater : ∀ n ∈ words,
          n.1 ≠ [] ∧ ∀ y ∈ n.1, p y = true :=
        fun n hn => hSeparators n (List.mem_cons_of_mem _ hn)
      obtain hEmpty | ⟨x, xs, hShape, hSeparator⟩ :=
        spaced_head hLater hTrailing
      · rw [hEmpty, collect] at hRest
        rw [hEmpty, List.append_nil, ← hRest,
          show room + (words.length + 1) =
            room + words.length + 1 from rfl]
        exact collect_word hWord.1 hWord.2 _
      · rw [hShape, collect, if_pos hSeparator] at hRest
        rw [hShape, ← hRest,
          show room + (words.length + 1) =
            room + words.length + 1 from rfl]
        exact collect_word_append hWord.1 hWord.2
          hSeparator _ xs

end Words
