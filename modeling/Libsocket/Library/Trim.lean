import Libsocket.Library.Cut
import Mathlib.Data.List.DropRight

/-
  Lists without the elements of a class around them.

  Main declarations:
    * `Trim.trim`
    * `Trim.trim_between`
    * `Trim.trim_before`, `Trim.trim_after`
-/

namespace Trim

variable {α : Type} {p : α → Bool}

/- Leave out what is of the class, at both ends. -/
def trim (p : α → Bool) (l : List α) : List α :=
  (l.dropWhile p).rdropWhile p

theorem rdropWhile_append_of_all
    {l behind : List α}
    (hAll : ∀ x ∈ behind, p x = true) :
    (l ++ behind).rdropWhile p = l.rdropWhile p := by
  induction behind using List.reverseRecOn with
  | nil => rw [List.append_nil]
  | append_singleton xs x ih =>
      rw [← List.append_assoc, List.rdropWhile_concat_pos _ _ _
        (hAll x (by simp))]
      exact ih fun y hY => hAll y (by simp [hY])

theorem dropWhile_append_of_all
    {front l : List α}
    (hAll : ∀ x ∈ front, p x = true) :
    (front ++ l).dropWhile p = l.dropWhile p := by
  induction front with
  | nil => rfl
  | cons x xs ih =>
      rw [List.cons_append,
        List.dropWhile_cons_of_pos (hAll x (by simp))]
      exact ih fun y hY => hAll y (by simp [hY])

theorem trim_eq_nil_of_all
    {l : List α}
    (hAll : ∀ x ∈ l, p x = true) :
    trim p l = [] := by
  have hNone : l.dropWhile p = [] := by
    simpa [List.dropWhile_eq_nil_iff] using hAll
  rw [trim, hNone, List.rdropWhile_nil]

/- Elements of the class around a list do not count. -/
theorem trim_between
    {front l behind : List α}
    (hFront : ∀ x ∈ front, p x = true)
    (hBehind : ∀ x ∈ behind, p x = true) :
    trim p (front ++ l ++ behind) = trim p l := by
  rw [List.append_assoc, trim, dropWhile_append_of_all hFront]
  by_cases hAll : ∀ x ∈ l, p x = true
  · rw [trim_eq_nil_of_all hAll,
      dropWhile_append_of_all hAll]
    exact trim_eq_nil_of_all hBehind
  · rw [List.dropWhile_append, trim]
    have hSome : (l.dropWhile p).isEmpty = false := by
      simpa [List.dropWhile_eq_nil_iff] using hAll
    rw [if_neg (by simp [hSome]),
      rdropWhile_append_of_all hBehind]

/- The parts that are left out are of the class. -/
theorem exists_trim (p : α → Bool) (l : List α) :
    ∃ front behind, l = front ++ trim p l ++ behind ∧
      (∀ x ∈ front, p x = true) ∧
      ∀ x ∈ behind, p x = true := by
  refine ⟨l.takeWhile p, (l.dropWhile p).rtakeWhile p,
    ?_, fun x hX => List.mem_takeWhile_imp hX,
    fun x hX => List.mem_rtakeWhile_imp hX⟩
  rw [trim, List.append_assoc,
    List.rdropWhile_append_rtakeWhile,
    List.takeWhile_append_dropWhile]

/- The first element is not of the class. -/
theorem head_dropWhile
    {l : List α}
    {x : α}
    (hHead : (l.dropWhile p).head? = some x) :
    p x = false := by
  induction l with
  | nil => cases hHead
  | cons y ys ih =>
      by_cases hY : p y = true
      · rw [List.dropWhile_cons_of_pos hY] at hHead
        exact ih hHead
      · rw [List.dropWhile_cons_of_neg hY] at hHead
        cases hHead
        simpa using hY

/- A list keeps a first element that is not of the class. -/
theorem head_rdropWhile
    {l : List α}
    (hHead : ∀ x, l.head? = some x → p x = false) :
    (l.rdropWhile p).head? = l.head? := by
  cases l with
  | nil => rfl
  | cons x xs =>
      have hX := hHead x rfl
      rcases List.rdropWhile_prefix p (x :: xs) with
        ⟨behind, hShape⟩
      cases hCut : (x :: xs).rdropWhile p with
      | nil =>
          rw [List.rdropWhile_eq_nil_iff] at hCut
          rw [hCut x List.mem_cons_self] at hX
          cases hX
      | cons y ys =>
          rw [hCut, List.cons_append] at hShape
          rw [(List.cons.inj hShape).1]
          rfl

theorem head_trim (p : α → Bool) (l : List α) :
    (trim p l).head? = (l.dropWhile p).head? :=
  head_rdropWhile fun _ => head_dropWhile

/- A list that does not begin with the class stays. -/
theorem dropWhile_eq_self
    {l : List α}
    (hHead : ∀ x, l.head? = some x → p x = false) :
    l.dropWhile p = l := by
  cases l with
  | nil => rfl
  | cons x xs =>
      exact List.dropWhile_cons_of_neg (by simp [hHead x rfl])

/- A list with nothing of the class stays. -/
theorem trim_eq_self
    {l : List α}
    (hNone : ∀ x ∈ l, p x = false) :
    trim p l = l := by
  rw [trim, dropWhile_eq_self, List.rdropWhile_eq_self_iff]
  · intro hSome
    rw [hNone _ (List.getLast_mem hSome)]
    exact Bool.false_ne_true
  · intro x hHead
    exact hNone x (List.mem_of_mem_head? hHead)

theorem mem_trim_iff
    {l : List α}
    {c : α}
    (hClass : p c = false) :
    c ∈ trim p l ↔ c ∈ l := by
  rcases exists_trim p l with
    ⟨front, behind, hShape, hFront, hBehind⟩
  constructor
  · intro hMem
    rw [hShape]
    simp [hMem]
  · intro hMem
    rw [hShape, List.mem_append, List.mem_append] at hMem
    rcases hMem with (hMem | hMem) | hMem
    · rw [hFront c hMem] at hClass
      cases hClass
    · exact hMem
    · rw [hBehind c hMem] at hClass
      cases hClass

------------------------------------------------------------
-- Trimmed Parts
------------------------------------------------------------

variable [DecidableEq α] {l : List α} {c : α}

/- Where the list is cut, what is trimmed does not count. -/
theorem cut_trim
    (hClass : p c = false)
    (hMem : c ∈ l) :
    ∃ front behind,
      Cut.before c l = front ++ Cut.before c (trim p l) ∧
      Cut.after c l = Cut.after c (trim p l) ++ behind ∧
      (∀ x ∈ front, p x = true) ∧
      ∀ x ∈ behind, p x = true := by
  rcases exists_trim p l with
    ⟨front, behind, hShape, hFront, hBehind⟩
  have hIn : c ∈ trim p l := (mem_trim_iff hClass).mpr hMem
  have hWhole : l = (front ++ Cut.before c (trim p l)) ++
      c :: (Cut.after c (trim p l) ++ behind) := by
    calc l = front ++ trim p l ++ behind := hShape
      _ = front ++ (Cut.before c (trim p l) ++
            c :: Cut.after c (trim p l)) ++ behind := by
          rw [Cut.before_cons_after hIn]
      _ = _ := by simp
  have hOut : c ∉ front ++ Cut.before c (trim p l) := by
    intro hBad
    rcases List.mem_append.mp hBad with hBad | hBad
    · rw [hFront c hBad] at hClass
      cases hClass
    · exact Cut.not_mem_before c _ hBad
  refine ⟨front, behind, ?_, ?_, hFront, hBehind⟩
  · conv_lhs => rw [hWhole]
    exact Cut.before_append hOut _
  · conv_lhs => rw [hWhole]
    exact Cut.after_append hOut _

/- The part in front needs trimming at its end only. -/
theorem trim_before
    (hClass : p c = false)
    (hMem : c ∈ l) :
    trim p (Cut.before c l) =
      (Cut.before c (trim p l)).rdropWhile p := by
  rcases cut_trim hClass hMem with
    ⟨front, behind, hBefore, -, hFront, -⟩
  have hNone : ∀ x ∈ ([] : List α), p x = true := by simp
  have hBetween := trim_between (l := Cut.before c (trim p l))
    hFront hNone
  rw [List.append_nil] at hBetween
  rw [hBefore, hBetween, trim, dropWhile_eq_self]
  intro x hHead
  have hIn : c ∈ trim p l := (mem_trim_iff hClass).mpr hMem
  have hFirst : (trim p l).head? = some x := by
    rw [← Cut.before_cons_after hIn, List.head?_append, hHead]
    rfl
  rw [head_trim] at hFirst
  exact head_dropWhile hFirst

/- The part behind needs trimming at its start only. -/
theorem trim_after
    (hClass : p c = false)
    (hMem : c ∈ l) :
    trim p (Cut.after c l) =
      (Cut.after c (trim p l)).dropWhile p := by
  rcases cut_trim hClass hMem with
    ⟨front, behind, -, hAfter, -, hBehind⟩
  have hNone : ∀ x ∈ ([] : List α), p x = true := by simp
  have hBetween := trim_between (l := Cut.after c (trim p l))
    hNone hBehind
  rw [List.nil_append] at hBetween
  rw [hAfter, hBetween, trim, List.rdropWhile_eq_self_iff]
  intro hSome
  have hIn : c ∈ trim p l := (mem_trim_iff hClass).mpr hMem
  have hSuffix : (Cut.after c (trim p l)).dropWhile p <:+
      trim p l := by
    apply (List.dropWhile_suffix p).trans
    exact ⟨Cut.before c (trim p l) ++ [c], by
      rw [List.append_assoc]
      exact Cut.before_cons_after hIn⟩
  rw [hSuffix.getLast hSome]
  exact List.rdropWhile_last_not p (l.dropWhile p)
    (hSuffix.ne_nil hSome)

end Trim
