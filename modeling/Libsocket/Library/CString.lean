import Mathlib.Data.List.TakeWhile

/-
  NUL-terminated strings inside byte buffers.

  A buffer is the list of its bytes. `CString.read?` is
  what a C string function sees at the start of a buffer;
  it is undefined when the buffer holds no terminator.

  Main declarations:
    * `CString.read?`
    * `CString.store`
    * `CString.read?_store`
-/

namespace CString

/- The bytes before the terminator, if there is one. -/
def read? (buffer : List UInt8) : Option (List UInt8) :=
  if 0 ∈ buffer then
    some (buffer.takeWhile fun b => b != 0)
  else
    none

/- A string with its terminator, as `strcpy` stores it. -/
def store (text : List UInt8) : List UInt8 :=
  text ++ [0]

/- No byte of a text is the terminator. -/
def IsText (text : List UInt8) : Prop :=
  ∀ b ∈ text, b ≠ 0

instance (text : List UInt8) : Decidable (IsText text) :=
  List.decidableBAll (· ≠ 0) text

theorem IsText.append
    {left right : List UInt8}
    (hLeft : IsText left)
    (hRight : IsText right) :
    IsText (left ++ right) := by
  intro b hb
  rcases List.mem_append.mp hb with h | h
  · exact hLeft b h
  · exact hRight b h

theorem takeWhile_store
    {text : List UInt8}
    (hText : IsText text)
    (rest : List UInt8) :
    (text ++ 0 :: rest).takeWhile (fun b => b != 0) =
      text := by
  induction text with
  | nil => simp
  | cons b bs ih =>
      have hHead : b ≠ 0 := hText b (by simp)
      have hTail : IsText bs := fun c hc =>
        hText c (by simp [hc])
      simp [hHead, ih hTail]

/- A stored text reads back, whatever follows it. -/
theorem read?_store
    {text : List UInt8}
    (hText : IsText text)
    (rest : List UInt8) :
    read? (store text ++ rest) = some text := by
  have hShape :
      store text ++ rest = text ++ 0 :: rest := by
    simp [store]
  rw [hShape, read?, if_pos (by simp),
    takeWhile_store hText]

/- A string that ends in a buffer is shorter. -/
theorem length_takeWhile_lt
    {buffer : List UInt8}
    (hEnds : 0 ∈ buffer) :
    (buffer.takeWhile fun b => b != 0).length <
      buffer.length := by
  apply Nat.lt_of_le_of_ne
    (List.takeWhile_prefix _).length_le
  intro hAll
  have hMem : (0 : UInt8) ∈
      buffer.takeWhile fun b => b != 0 := by
    rw [(List.takeWhile_prefix _).eq_of_length hAll]
    exact hEnds
  have hNonzero := List.mem_takeWhile_imp hMem
  simp at hNonzero

/- What follows the end of a string is no part of it. -/
theorem takeWhile_append_of_mem
    {buffer : List UInt8}
    (hEnds : 0 ∈ buffer)
    (rest : List UInt8) :
    ((buffer ++ rest).takeWhile fun b => b != 0) =
      buffer.takeWhile fun b => b != 0 := by
  have hLess := length_takeWhile_lt hEnds
  rw [List.takeWhile_append, if_neg (by omega)]

/- A string that ends in a buffer ends before what follows. -/
theorem read?_append
    {buffer text : List UInt8}
    (hRead : read? buffer = some text)
    (rest : List UInt8) :
    read? (buffer ++ rest) = some text := by
  unfold read? at hRead ⊢
  split at hRead
  next hEnds =>
      rw [if_pos (List.mem_append_left rest hEnds), ← hRead,
        takeWhile_append_of_mem hEnds]
  next => cases hRead

/- The empty string begins with its terminator. -/
theorem read?_eq_nil_iff (buffer : List UInt8) :
    read? buffer = some [] ↔ buffer.head? = some 0 := by
  cases buffer with
  | nil => simp [read?]
  | cons b bs =>
      by_cases hEnd : b = 0
      · simp [read?, hEnd]
      · simp [read?, hEnd]

/- A string that goes on behind some text. -/
theorem read?_text_append
    {text : List UInt8}
    (hText : IsText text)
    (rest : List UInt8) :
    read? (text ++ rest) = (read? rest).map (text ++ ·) := by
  have hNot : (0 : UInt8) ∉ text := fun h => hText 0 h rfl
  have hAll : ∀ b ∈ text, (b != 0) = true := by
    intro b hB
    exact bne_iff_ne.mpr (hText b hB)
  unfold read?
  by_cases hEnds : 0 ∈ rest
  · rw [if_pos (List.mem_append_right text hEnds),
      if_pos hEnds, List.takeWhile_append_of_pos hAll]
    rfl
  · have hMem : (0 : UInt8) ∉ text ++ rest := by
      rw [List.mem_append]
      exact fun h => h.elim hNot hEnds
    rw [if_neg hMem, if_neg hEnds]
    rfl

/- The start of a buffer reads the same, if it reads. -/
theorem read?_of_prefix
    {buffer start text text' : List UInt8}
    (hPrefix : start <+: buffer)
    (hRead : read? buffer = some text)
    (hStart : read? start = some text') :
    text' = text := by
  rcases hPrefix with ⟨rest, rfl⟩
  rw [read?_append hStart rest] at hRead
  exact Option.some.inj hRead

/- What is read back is a text. -/
theorem isText_of_read?
    {buffer text : List UInt8}
    (hRead : read? buffer = some text) :
    IsText text := by
  unfold read? at hRead
  split at hRead
  · have hEq := Option.some.inj hRead
    intro b hb
    rw [← hEq] at hb
    simpa using List.mem_takeWhile_imp hb
  · exact absurd hRead (by simp)

end CString
