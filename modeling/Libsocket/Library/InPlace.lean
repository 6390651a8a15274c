import Libsocket.Library.CString
import Libsocket.Library.Cut
import Mathlib.Data.List.DropRight

/-
  C strings that are taken apart in the buffer they lie in:
  a pointer is an index, a string ends at the first NUL from
  there, and text is cut off by storing a NUL.

  Main declarations:
    * `CString.textAt`
    * `CString.skip`, `CString.trimBack`, `CString.strchr`
    * `CString.trimBack_eq`
-/

namespace CString

------------------------------------------------------------
-- Pointers Into A Buffer
------------------------------------------------------------

/- The string that a pointer points to. -/
def textAt (buffer : List UInt8) (i : Nat) : List UInt8 :=
  (buffer.drop i).takeWhile fun b => b != 0

/- Step over the characters of a class. -/
def skip
    (class? : UInt8 → Bool)
    (buffer : List UInt8)
    (i : Nat) : Nat :=
  i + ((buffer.drop i).takeWhile class?).length

/-
  Overwrite the characters of a class with NULs, backwards
  from the one in front of `k`. The loop ends at the start
  of the buffer: the byte in front of it is not of the class.
-/
def trimBack
    (class? : UInt8 → Bool)
    (buffer : List UInt8) : Nat → List UInt8
| 0 => buffer
| k + 1 =>
    if class? (buffer.getD k 0) then
      trimBack class? (buffer.set k 0) k
    else
      buffer

/- The first occurrence of a character in a string. -/
def strchr
    (buffer : List UInt8)
    (i : Nat)
    (c : UInt8) : Option Nat :=
  if c ∈ textAt buffer i then
    some (i + (Cut.before c (textAt buffer i)).length)
  else
    none

/- The buffer holds this string, and its end, at an index. -/
def HoldsAt (buffer : List UInt8) (i : Nat)
    (text : List UInt8) : Prop :=
  IsText text ∧ ∃ front rest, front.length = i ∧
    buffer = front ++ text ++ 0 :: rest

------------------------------------------------------------
-- Trimming From The End
------------------------------------------------------------

variable {p : UInt8 → Bool}

@[simp] theorem length_trimBack
    (buffer : List UInt8)
    (k : Nat) :
    (trimBack p buffer k).length = buffer.length := by
  induction k generalizing buffer with
  | zero => rfl
  | succ k ih =>
      unfold trimBack
      split
      · rw [ih, List.length_set]
      · rfl

/- What follows the trimmed characters is untouched. -/
theorem drop_trimBack
    (buffer : List UInt8)
    {k m : Nat}
    (hLe : k ≤ m) :
    (trimBack p buffer k).drop m = buffer.drop m := by
  induction k generalizing buffer with
  | zero => rfl
  | succ k ih =>
      unfold trimBack
      split
      · rw [ih (buffer.set k 0) (by omega),
          List.drop_set_of_lt (by omega)]
      · rfl

/-
  Trimming a string from its end leaves the string without
  the characters of the class behind it.
-/
theorem trimBack_eq
    (front text rest : List UInt8) :
    ∃ front' rest', front'.length = front.length ∧
      trimBack p (front ++ text ++ 0 :: rest)
        (front.length + text.length) =
        front' ++ text.rdropWhile p ++ 0 :: rest' := by
  induction text using List.reverseRecOn generalizing rest with
  | nil =>
      have hRest : (trimBack p (front ++ 0 :: rest)
          front.length).drop front.length = 0 :: rest := by
        rw [drop_trimBack _ (Nat.le_refl _), List.drop_left]
      refine ⟨(trimBack p (front ++ 0 :: rest)
        front.length).take front.length, rest, ?_, ?_⟩
      · rw [List.length_take, length_trimBack,
          List.length_append]
        omega
      · simp only [List.append_nil, List.rdropWhile_nil,
          List.length_nil, Nat.add_zero]
        exact (List.take_append_drop front.length _).symm.trans
          (by rw [hRest])
  | append_singleton text c ih =>
      have hIndex : front.length + (text ++ [c]).length =
          (front ++ text).length + 1 := by
        simp only [List.length_append, List.length_singleton]
        omega
      have hShape : front ++ (text ++ [c]) ++ 0 :: rest =
          front ++ text ++ c :: 0 :: rest := by
        simp
      rw [hIndex, hShape, trimBack]
      have hLast : (front ++ text ++ c :: 0 :: rest).getD
          (front ++ text).length 0 = c := by
        simp
      rw [hLast]
      by_cases hClass : p c = true
      · have hCut : (front ++ text ++ c :: 0 :: rest).set
            (front ++ text).length 0 =
              front ++ text ++ 0 :: 0 :: rest := by
          simp
        rw [if_pos hClass, hCut, List.length_append,
          List.rdropWhile_concat_pos _ _ _ hClass]
        exact ih (0 :: rest)
      · rw [if_neg hClass,
          List.rdropWhile_concat_neg _ _ _ hClass]
        exact ⟨front, rest, rfl, hShape.symm⟩

------------------------------------------------------------
-- Strings In A Buffer
------------------------------------------------------------

/- A text without some of its characters is a text. -/
theorem IsText.sublist
    {text part : List UInt8}
    (hText : IsText text)
    (hPart : part.Sublist text) :
    IsText part :=
  fun b hB => hText b (hPart.subset hB)

/- What is read at the start of a buffer is held there. -/
theorem holdsAt_of_read?
    {buf text : List UInt8}
    (hRead : read? buf = some text) :
    HoldsAt buf 0 text := by
  have hText := isText_of_read? hRead
  unfold read? at hRead
  split at hRead
  · rename_i hMem
    cases hRead
    have hParts := List.takeWhile_append_dropWhile
      (p := fun b => b != 0) (l := buf)
    cases hRest : buf.dropWhile fun b => b != 0 with
    | nil =>
        rw [List.dropWhile_eq_nil_iff] at hRest
        exact absurd (hRest 0 hMem) (by decide)
    | cons b rest =>
        have hZero : b = 0 := by
          have hShape : buf.dropWhile (fun b => b != 0) ≠
              [] := by
            rw [hRest]
            exact List.cons_ne_nil b rest
          have hNot := List.head_dropWhile_not _ hShape
          simpa [hRest] using hNot
        refine ⟨hText, [], rest, rfl, ?_⟩
        rw [hRest, hZero] at hParts
        exact hParts.symm
  · cases hRead

namespace HoldsAt

variable {buffer text left right : List UInt8}
variable {i j k : Nat} {b c : UInt8}

theorem textAt_eq
    (hHolds : HoldsAt buffer i text) :
    textAt buffer i = text := by
  rcases hHolds with ⟨hText, front, rest, rfl, rfl⟩
  rw [textAt, List.append_assoc, List.drop_left,
    takeWhile_store hText]

/- The byte that a pointer points to. -/
theorem getD_eq
    (hHolds : HoldsAt buffer i text) :
    buffer.getD i 0 = text.head?.getD 0 := by
  rcases hHolds with ⟨-, front, rest, rfl, rfl⟩
  cases text with
  | nil => simp
  | cons b bs => simp

/- The last byte of a string that is not empty. -/
theorem getD_last
    (hHolds : HoldsAt buffer i (text ++ [b])) :
    buffer.getD (i + (text ++ [b]).length - 1) 0 = b := by
  rcases hHolds with ⟨-, front, rest, rfl, rfl⟩
  have hIndex : front.length + (text ++ [b]).length - 1 =
      (front ++ text).length := by
    simp only [List.length_append, List.length_singleton]
    omega
  rw [hIndex]
  simp

theorem behind
    (hHolds : HoldsAt buffer i (left ++ right)) :
    HoldsAt buffer (i + left.length) right := by
  rcases hHolds with ⟨hText, front, rest, rfl, rfl⟩
  refine ⟨fun b hB => hText b (by simp [hB]),
    front ++ left, rest, ?_, ?_⟩
  · rw [List.length_append]
  · simp

/- As many characters of the class as the string begins with. -/
theorem skip_eq
    (hHolds : HoldsAt buffer i text)
    (hEnds : p 0 = false) :
    CString.skip p buffer i =
      i + (text.takeWhile p).length := by
  rcases hHolds with ⟨-, front, rest, rfl, rfl⟩
  unfold CString.skip
  rw [List.append_assoc, List.drop_left,
    List.takeWhile_append]
  split
  next hAll => simp [hEnds, hAll]
  next => rfl

/- A pointer steps over the characters of a class. -/
theorem skip
    (hHolds : HoldsAt buffer i text)
    (hEnds : p 0 = false) :
    HoldsAt buffer (CString.skip p buffer i)
      (text.dropWhile p) := by
  rw [hHolds.skip_eq hEnds]
  apply behind
  rw [List.takeWhile_append_dropWhile]
  exact hHolds

theorem trimBack
    (hHolds : HoldsAt buffer i text) :
    HoldsAt (CString.trimBack p buffer
      (i + text.length)) i (text.rdropWhile p) := by
  rcases hHolds with ⟨hText, front, rest, rfl, rfl⟩
  rcases trimBack_eq (p := p) front text rest with
    ⟨front', rest', hLength, hShape⟩
  exact ⟨hText.sublist
    (List.rdropWhile_prefix p text).sublist,
    front', rest', hLength, hShape⟩

/- A string behind the trimmed one stays. -/
theorem trimBack_behind
    (hHolds : HoldsAt buffer i text)
    (hLe : k ≤ i) :
    HoldsAt (CString.trimBack p buffer k) i text := by
  rcases hHolds with ⟨hText, front, rest, rfl, rfl⟩
  have hDrop := drop_trimBack (p := p)
    (front ++ text ++ 0 :: rest) hLe
  refine ⟨hText, (CString.trimBack p
    (front ++ text ++ 0 :: rest) k).take front.length, rest,
    ?_, ?_⟩
  · rw [List.length_take, length_trimBack]
    simp
  · rw [List.append_assoc, List.drop_left] at hDrop
    conv_lhs => rw [← List.take_append_drop front.length
      (CString.trimBack p (front ++ text ++ 0 :: rest) k)]
    rw [List.append_assoc, List.append_assoc, hDrop]

/- A NUL over a character splits the string in two. -/
theorem cut
    (hHolds : HoldsAt buffer i (left ++ c :: right)) :
    HoldsAt (buffer.set (i + left.length) 0) i left ∧
      HoldsAt (buffer.set (i + left.length) 0)
        (i + left.length + 1) right := by
  rcases hHolds with ⟨hText, front, rest, rfl, rfl⟩
  have hShape : (front ++ (left ++ c :: right) ++
      0 :: rest).set (front.length + left.length) 0 =
        front ++ left ++ 0 :: (right ++ 0 :: rest) := by
    rw [← List.length_append]
    simp
  rw [hShape]
  constructor
  · exact ⟨fun b hB => hText b (by simp [hB]), front,
      right ++ 0 :: rest, rfl, rfl⟩
  · refine ⟨fun b hB => hText b (by simp [hB]),
      front ++ left ++ [0], rest, ?_, ?_⟩
    · simp only [List.length_append, List.length_singleton]
    · simp

/- A NUL behind the characters of a class. -/
theorem cut_takeWhile
    (hHolds : HoldsAt buffer i text) :
    HoldsAt (buffer.set (i + (text.takeWhile p).length) 0) i
      (text.takeWhile p) := by
  have hParts := List.takeWhile_append_dropWhile
    (p := p) (l := text)
  cases hRest : text.dropWhile p with
  | nil =>
      rw [hRest, List.append_nil] at hParts
      rw [hParts]
      rcases hHolds with ⟨hText, front, rest, rfl, rfl⟩
      refine ⟨hText, front, rest, rfl, ?_⟩
      rw [← List.length_append]
      simp
  | cons c right =>
      rw [hRest] at hParts
      rw [← hParts] at hHolds
      exact hHolds.cut.1

theorem strchr_eq
    (hHolds : HoldsAt buffer i text)
    (c : UInt8) :
    strchr buffer i c =
      if c ∈ text then
        some (i + (Cut.before c text).length)
      else
        none := by
  rw [strchr, hHolds.textAt_eq]

end HoldsAt

end CString
