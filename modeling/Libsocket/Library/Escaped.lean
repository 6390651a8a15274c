import Mathlib.Data.List.Basic

/-
  Fields between separators, where an escape sign in front of
  a character takes it as it is.

  Main declarations:
    * `Escaped.field`, `Escaped.fields`
    * `Escaped.quote`, `Escaped.join`
    * `Escaped.fields_join`
-/

namespace Escaped

variable {α : Type} [DecidableEq α]

/-
  The field at the front, and what stands behind its
  separator; an escape sign at the end stands for nothing.
-/
def field (sep esc : α) : List α → List α × List α
| [] => ([], [])
| [c] => if c = sep ∨ c = esc then ([], []) else ([c], [])
| c :: d :: s =>
    if c = sep then
      ([], d :: s)
    else if c = esc then
      (d :: (field sep esc s).1, (field sep esc s).2)
    else
      (c :: (field sep esc (d :: s)).1,
        (field sep esc (d :: s)).2)

variable {sep esc : α}

@[simp] theorem field_nil :
    field sep esc [] = ([], []) := rfl

theorem field_sep (s : List α) :
    field sep esc (sep :: s) = ([], s) := by
  cases s with
  | nil => simp [field]
  | cons d s => simp [field]

theorem field_esc
    (hDiffer : esc ≠ sep)
    (c : α)
    (s : List α) :
    field sep esc (esc :: c :: s) =
      (c :: (field sep esc s).1, (field sep esc s).2) := by
  simp [field, hDiffer]

theorem field_plain
    {c : α}
    (hSep : c ≠ sep)
    (hEsc : c ≠ esc)
    (s : List α) :
    field sep esc (c :: s) =
      (c :: (field sep esc s).1, (field sep esc s).2) := by
  cases s with
  | nil => simp [field, hSep, hEsc]
  | cons d s => simp [field, hSep, hEsc]

theorem length_field_le (s : List α) :
    (field sep esc s).1.length + (field sep esc s).2.length ≤
      s.length := by
  fun_induction field sep esc s with
  | case1 => exact Nat.le_refl _
  | case2 => simp
  | case3 => simp
  | case4 d s => simp
  | case5 d s hSep ih =>
      simp only [List.length_cons]
      omega
  | case6 c d s hSep hEsc ih =>
      simp only [List.length_cons] at ih ⊢
      omega

theorem mem_of_mem_field
    {c : α}
    {s : List α}
    (hMem : c ∈ (field sep esc s).1 ∨
      c ∈ (field sep esc s).2) :
    c ∈ s := by
  fun_induction field sep esc s with
  | case1 => simp at hMem
  | case2 => simp at hMem
  | case3 => simpa using hMem
  | case4 d s =>
      rcases hMem with hNone | hRest
      · cases hNone
      · exact List.mem_cons_of_mem _ hRest
  | case5 d s hSep ih =>
      rcases hMem with hField | hRest
      · rcases List.mem_cons.mp hField with rfl | hField
        · simp
        · exact List.mem_cons_of_mem _
            (List.mem_cons_of_mem _ (ih (.inl hField)))
      · exact List.mem_cons_of_mem _
          (List.mem_cons_of_mem _ (ih (.inr hRest)))
  | case6 c d s hSep hEsc ih =>
      rcases hMem with hField | hRest
      · rcases List.mem_cons.mp hField with rfl | hField
        · exact List.mem_cons_self
        · exact List.mem_cons_of_mem _ (ih (.inl hField))
      · exact List.mem_cons_of_mem _ (ih (.inr hRest))

/- A field takes something of what is there. -/
theorem length_field_lt
    {s : List α}
    (hSome : s ≠ []) :
    (field sep esc s).2.length < s.length := by
  cases s with
  | nil => exact absurd rfl hSome
  | cons c s =>
      by_cases hSep : c = sep
      · rw [hSep, field_sep]
        exact Nat.lt_succ_self _
      · by_cases hEsc : c = esc
        · cases s with
          | nil => simp [field, hEsc]
          | cons d s =>
              subst hEsc
              rw [field_esc hSep]
              have hRest := @length_field_le α _ sep c s
              simp only [List.length_cons]
              omega
        · rw [field_plain hSep hEsc]
          have hRest := @length_field_le α _ sep esc s
          simp only [List.length_cons]
          omega

/- The fields of a text, one after the other. -/
def fields (sep esc : α) (s : List α) : List (List α) :=
  if _hSome : s = [] then
    []
  else
    (field sep esc s).1 :: fields sep esc (field sep esc s).2
termination_by s.length
decreasing_by exact length_field_lt _hSome

@[simp] theorem fields_nil :
    fields sep esc ([] : List α) = [] := by
  rw [fields]
  rfl

theorem fields_of_ne
    {s : List α}
    (hSome : s ≠ []) :
    fields sep esc s =
      (field sep esc s).1 ::
        fields sep esc (field sep esc s).2 := by
  rw [fields, dif_neg hSome]

/- A field with an escape sign where it needs one. -/
def quote (sep esc : α) (l : List α) : List α :=
  l.flatMap fun c =>
    if c = sep ∨ c = esc then [esc, c] else [c]

@[simp] theorem quote_nil : quote sep esc [] = [] := rfl

theorem quote_cons (c : α) (l : List α) :
    quote sep esc (c :: l) =
      (if c = sep ∨ c = esc then [esc, c] else [c]) ++
        quote sep esc l := rfl

theorem length_le_quote (l : List α) :
    l.length ≤ (quote sep esc l).length := by
  induction l with
  | nil => exact Nat.le_refl _
  | cons c l ih =>
      rw [quote_cons, List.length_append, List.length_cons]
      split
      · simp only [List.length_cons, List.length_nil]
        omega
      · simp only [List.length_cons, List.length_nil]
        omega

theorem quote_eq_nil_iff (l : List α) :
    quote sep esc l = [] ↔ l = [] := by
  constructor
  · intro hNone
    have hLength := @length_le_quote α _ sep esc l
    rw [hNone] at hLength
    exact List.length_eq_zero_iff.mp (Nat.le_zero.mp hLength)
  · rintro rfl
    rfl

/- Fields with separators between them. -/
def join (sep esc : α) : List (List α) → List α
| [] => []
| [l] => quote sep esc l
| l :: k :: ls =>
    quote sep esc l ++ sep :: join sep esc (k :: ls)

theorem mem_quote
    {c : α}
    {l : List α}
    (hMem : c ∈ quote sep esc l) :
    c = esc ∨ c ∈ l := by
  obtain ⟨d, hD, hC⟩ := List.mem_flatMap.mp hMem
  split at hC
  · rcases List.mem_cons.mp hC with rfl | hC
    · exact .inl rfl
    · rw [List.mem_singleton.mp hC]
      exact .inr hD
  · rw [List.mem_singleton.mp hC]
    exact .inr hD

/- What stands in a text of fields. -/
theorem mem_join
    {c : α}
    {ls : List (List α)}
    (hMem : c ∈ join sep esc ls) :
    c = sep ∨ c = esc ∨ ∃ l ∈ ls, c ∈ l := by
  induction ls with
  | nil => cases hMem
  | cons l ls ih =>
      have hQuote : c ∈ quote sep esc l →
          c = sep ∨ c = esc ∨ ∃ k ∈ l :: ls, c ∈ k := by
        intro hC
        rcases mem_quote hC with hEsc | hL
        · exact .inr (.inl hEsc)
        · exact .inr (.inr ⟨l, List.mem_cons_self, hL⟩)
      cases ls with
      | nil => exact hQuote hMem
      | cons k ls =>
          unfold join at hMem
          rcases List.mem_append.mp hMem with hFirst | hRest
          · exact hQuote hFirst
          · rcases List.mem_cons.mp hRest with hSep | hRest
            · exact .inl hSep
            · rcases ih hRest with hSep | hEsc | ⟨m, hM, hC⟩
              · exact .inl hSep
              · exact .inr (.inl hEsc)
              · exact .inr (.inr
                  ⟨m, List.mem_cons_of_mem _ hM, hC⟩)

/- What is behind a quoted field is not part of it. -/
theorem field_quote_append
    (hDiffer : esc ≠ sep)
    (l s : List α) :
    field sep esc (quote sep esc l ++ s) =
      (l ++ (field sep esc s).1, (field sep esc s).2) := by
  induction l with
  | nil => rfl
  | cons c l ih =>
      rw [quote_cons]
      by_cases hMark : c = sep ∨ c = esc
      · rw [if_pos hMark]
        simp only [List.cons_append, List.nil_append]
        rw [field_esc hDiffer, ih]
      · rw [if_neg hMark]
        simp only [List.cons_append, List.nil_append]
        rw [field_plain (fun h => hMark (.inl h))
          (fun h => hMark (.inr h)), ih]

theorem join_ne_nil
    {l : List α}
    {ls : List (List α)}
    (hSome : l ≠ []) :
    join sep esc (l :: ls) ≠ [] := by
  cases ls with
  | nil =>
      unfold join
      exact fun hNone =>
        hSome ((quote_eq_nil_iff l).mp hNone)
  | cons k ls =>
      unfold join
      simp

/- Fields that are joined are found again. -/
theorem fields_join
    (hDiffer : esc ≠ sep)
    {ls : List (List α)}
    (hSome : ∀ l ∈ ls, l ≠ []) :
    fields sep esc (join sep esc ls) = ls := by
  induction ls with
  | nil => exact fields_nil
  | cons l ls ih =>
      rw [fields_of_ne (join_ne_nil
        (hSome l List.mem_cons_self))]
      cases ls with
      | nil =>
          have hField := @field_quote_append α _ sep esc
            hDiffer l []
          rw [List.append_nil] at hField
          unfold join
          rw [hField]
          simp
      | cons k ls =>
          unfold join
          rw [field_quote_append hDiffer, field_sep]
          rw [ih fun m hM => hSome m (List.mem_cons_of_mem _ hM)]
          simp

/-
  A map of the characters that takes the two signs, and only
  them, to themselves.
-/
structure KeepsSigns (sep esc : α) (f : α → α) : Prop where
  sep_iff : ∀ c, f c = sep ↔ c = sep
  esc_iff : ∀ c, f c = esc ↔ c = esc

theorem quote_map
    {f : α → α}
    (hKeeps : KeepsSigns sep esc f)
    (l : List α) :
    quote sep esc (l.map f) = (quote sep esc l).map f := by
  induction l with
  | nil => rfl
  | cons c l ih =>
      rw [List.map_cons, quote_cons, quote_cons, ih,
        List.map_append]
      simp only [hKeeps.sep_iff, hKeeps.esc_iff]
      split
      · rw [List.map_cons, List.map_cons, List.map_nil,
          (hKeeps.esc_iff esc).mpr rfl]
      · rw [List.map_cons, List.map_nil]

theorem join_map
    {f : α → α}
    (hKeeps : KeepsSigns sep esc f)
    (ls : List (List α)) :
    join sep esc (ls.map (List.map f)) =
      (join sep esc ls).map f := by
  induction ls with
  | nil => rfl
  | cons l ls ih =>
      cases ls with
      | nil => exact quote_map hKeeps l
      | cons k ls =>
          simp only [List.map_cons, join] at ih ⊢
          rw [ih, quote_map hKeeps, List.map_append,
            List.map_cons, (hKeeps.sep_iff sep).mpr rfl]

end Escaped
