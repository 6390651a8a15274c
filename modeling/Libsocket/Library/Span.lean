import Mathlib.Data.List.TakeWhile

/-
  The longest start of a list with a property: it is known
  where what follows does not have the property.

  Main declarations:
    * `Span.Stops`
    * `Span.takeWhile_append`, `Span.dropWhile_append`
-/

namespace Span

variable {α : Type} {p : α → Bool} {front rest : List α}

/- The list is empty or begins with an element without `p`. -/
def Stops (p : α → Bool) (rest : List α) : Prop :=
  ∀ x ∈ rest.head?, p x = false

theorem Stops.nil : Stops p [] := nofun

theorem Stops.cons
    {x : α}
    (hX : p x = false) :
    Stops p (x :: rest) := by
  intro y hY
  cases hY
  exact hX

/- The first element decides. -/
theorem Stops.append
    (hFront : Stops p front)
    (hRest : Stops p rest) :
    Stops p (front ++ rest) := by
  cases front with
  | nil => exact hRest
  | cons x front => exact .cons (hFront x rfl)

theorem Stops.of_all
    (hAll : ∀ x ∈ front, p x = false) :
    Stops p front :=
  fun x hX => hAll x (List.mem_of_head? hX)

theorem takeWhile_append
    (hFront : ∀ x ∈ front, p x = true)
    (hRest : Stops p rest) :
    (front ++ rest).takeWhile p = front := by
  rw [List.takeWhile_append_of_pos hFront]
  cases rest with
  | nil => exact List.append_nil _
  | cons x rest =>
      rw [List.takeWhile_cons_of_neg
        (Bool.not_eq_true _ ▸ hRest x rfl), List.append_nil]

theorem dropWhile_append
    (hFront : ∀ x ∈ front, p x = true)
    (hRest : Stops p rest) :
    (front ++ rest).dropWhile p = rest := by
  rw [List.dropWhile_append_of_pos hFront]
  cases rest with
  | nil => rfl
  | cons x rest =>
      exact List.dropWhile_cons_of_neg
        (Bool.not_eq_true _ ▸ hRest x rfl)

end Span
