import Libsocket.Library.InPlace

/-
  Pointers that walk through a buffer, with every access
  checked: an access outside the buffer stops the walk with
  its index.

  Main declarations:
    * `Cursor.peek`, `Cursor.poke`, `Cursor.fetch`
    * `Cursor.forward`, `Cursor.backward`, `Cursor.stringAt`
    * `Cursor.forward_eq`, `Cursor.backward_eq`
-/

namespace Cursor

/- The result of a walk, or the index where it stopped. -/
abbrev Checked (α : Type) : Type := Except Int α

theorem ok_bind
    {α β : Type}
    (a : α)
    (f : α → Checked β) :
    ((.ok a : Checked α) >>= f) = f a := rfl

theorem error_bind
    {α β : Type}
    (i : Int)
    (f : α → Checked β) :
    ((.error i : Checked α) >>= f) = .error i := rfl

------------------------------------------------------------
-- Walks
------------------------------------------------------------

/- Read the byte that a pointer points to. -/
def peek (buffer : List UInt8) (i : Int) : Checked UInt8 :=
  if 0 ≤ i ∧ i < buffer.length then
    .ok (buffer.getD i.toNat 0)
  else
    .error i

/- Overwrite the byte that a pointer points to. -/
def poke
    (buffer : List UInt8)
    (i : Int)
    (b : UInt8) : Checked (List UInt8) :=
  if 0 ≤ i ∧ i < buffer.length then
    .ok (buffer.set i.toNat b)
  else
    .error i

/- Read some bytes, one after the other. -/
def fetch
    (buffer : List UInt8) : Nat → Int → Checked (List UInt8)
| 0, _ => return []
| n + 1, i => do
    let b ← peek buffer i
    let bs ← fetch buffer n (i + 1)
    return b :: bs

/- Step forward to the first byte that stops the walk. -/
def forwardFrom
    (stop : UInt8 → Bool)
    (buffer : List UInt8) : Nat → Int → Checked Int
| 0, i => .error i
| fuel + 1, i => do
    let b ← peek buffer i
    if stop b then
      return i
    else
      forwardFrom stop buffer fuel (i + 1)

/- A walk leaves the buffer before it runs out of fuel. -/
def forward
    (stop : UInt8 → Bool)
    (buffer : List UInt8)
    (i : Int) : Checked Int :=
  forwardFrom stop buffer (buffer.length + 1) i

/- Overwrite the bytes of a class with NULs, backwards. -/
def backwardFrom
    (class? : UInt8 → Bool) :
    Nat → List UInt8 → Int → Checked (List UInt8)
| 0, _, i => .error i
| fuel + 1, buffer, i => do
    let b ← peek buffer i
    if class? b then do
      let buffer ← poke buffer i 0
      backwardFrom class? fuel buffer (i - 1)
    else
      return buffer

def backward
    (class? : UInt8 → Bool)
    (buffer : List UInt8)
    (i : Int) : Checked (List UInt8) :=
  backwardFrom class? (buffer.length + 1) buffer i

/- The string that a pointer points to. -/
def stringAt
    (buffer : List UInt8)
    (i : Int) : Checked (List UInt8) := do
  let e ← forward (fun b => b == 0) buffer i
  return (buffer.drop i.toNat).take (e - i).toNat

------------------------------------------------------------
-- Walks That Stay Inside
------------------------------------------------------------

variable {buffer text : List UInt8} {i k : Nat}

theorem peek_of_lt
    (hInside : i < buffer.length) :
    peek buffer i = .ok (buffer.getD i 0) := by
  unfold peek
  rw [if_pos ⟨Int.natCast_nonneg i, Int.ofNat_lt.mpr hInside⟩]
  rfl

theorem poke_of_lt
    (hInside : i < buffer.length)
    (b : UInt8) :
    poke buffer i b = .ok (buffer.set i b) := by
  unfold poke
  rw [if_pos ⟨Int.natCast_nonneg i, Int.ofNat_lt.mpr hInside⟩]
  rfl

theorem peek_of_le
    (hOutside : buffer.length ≤ i) :
    peek buffer i = .error i := by
  unfold peek
  rw [if_neg]
  omega

theorem fetch_eq
    {n : Nat}
    (hInside : i + n ≤ buffer.length) :
    fetch buffer n i = .ok ((buffer.drop i).take n) := by
  induction n generalizing i with
  | zero => rfl
  | succ n ih =>
      have hHere : i < buffer.length := by omega
      have hNext : ((i + 1 : Nat) : Int) = (i : Int) + 1 := rfl
      have hRest := @ih (i + 1) (by omega)
      rw [hNext] at hRest
      rw [fetch, peek_of_lt hHere, ok_bind, hRest, ok_bind,
        List.drop_eq_getElem_cons hHere, List.take_succ_cons,
        List.getD, List.getElem?_eq_getElem hHere]
      rfl

/- Bytes that do not all lie in the buffer. -/
theorem fetch_outside
    {n : Nat}
    (hSome : n ≠ 0)
    (hOutside : buffer.length < i + n)
    (bs : List UInt8) :
    fetch buffer n i ≠ .ok bs := by
  induction n generalizing i bs with
  | zero => exact absurd rfl hSome
  | succ n ih =>
      intro hRun
      rw [fetch] at hRun
      by_cases hHere : i < buffer.length
      · have hMore : n ≠ 0 := by omega
        have hNext : ((i + 1 : Nat) : Int) = (i : Int) + 1 :=
          rfl
        rw [peek_of_lt hHere, ok_bind, ← hNext] at hRun
        cases hRest : fetch buffer n ((i + 1 : Nat) : Int) with
        | error e =>
            rw [hRest] at hRun
            cases hRun
        | ok rest => exact ih hMore (by omega) rest hRest
      · rw [peek_of_le (by omega)] at hRun
        cases hRun

/- The end of a string lies in the buffer. -/
theorem end_lt
    (hHolds : CString.HoldsAt buffer i text) :
    i + text.length < buffer.length := by
  rcases hHolds with ⟨-, front, rest, rfl, rfl⟩
  simp only [List.length_append, List.length_cons]
  omega

theorem peek_eq
    (hHolds : CString.HoldsAt buffer i text) :
    peek buffer i = .ok (buffer.getD i 0) := by
  have hEnd := end_lt hHolds
  exact peek_of_lt (by omega)

theorem forwardFrom_eq
    {stop : UInt8 → Bool}
    {fuel : Nat}
    (hHolds : CString.HoldsAt buffer i text)
    (hStop : stop 0 = true)
    (hFuel : text.length < fuel) :
    forwardFrom stop buffer fuel i = .ok
      ((i + (text.takeWhile fun b => !stop b).length : Nat) :
        Int) := by
  induction text generalizing i fuel with
  | nil =>
      cases fuel with
      | zero => cases hFuel
      | succ fuel =>
          rw [forwardFrom, peek_eq hHolds, hHolds.getD_eq]
          change (if stop 0 = true then _ else _) = _
          rw [if_pos hStop]
          rfl
  | cons b bs ih =>
      cases fuel with
      | zero => cases hFuel
      | succ fuel =>
          rw [forwardFrom, peek_eq hHolds, hHolds.getD_eq]
          change (if stop b = true then _ else _) = _
          by_cases hHere : stop b = true
          · rw [if_pos hHere, List.takeWhile_cons_of_neg
              (by simp [hHere])]
            rfl
          · have hRest : CString.HoldsAt buffer (i + 1) bs :=
              @CString.HoldsAt.behind _ [b] _ _ hHolds
            rw [if_neg hHere, List.takeWhile_cons_of_pos
              (by simp [hHere])]
            have hStep := ih hRest
              (Nat.lt_of_succ_lt_succ hFuel)
            have hNext : ((i + 1 : Nat) : Int) = (i : Int) + 1 :=
              rfl
            rw [hNext] at hStep
            rw [hStep, List.length_cons, Nat.add_assoc,
              Nat.add_comm 1]

/- A walk through a string stops at its end at the latest. -/
theorem forward_eq
    {stop : UInt8 → Bool}
    (hHolds : CString.HoldsAt buffer i text)
    (hStop : stop 0 = true) :
    forward stop buffer i = .ok
      ((i + (text.takeWhile fun b => !stop b).length : Nat) :
        Int) := by
  have hEnd := end_lt hHolds
  exact forwardFrom_eq hHolds hStop (by omega)

/- Stepping over a class is a walk to what is not of it. -/
theorem forward_skip
    {p : UInt8 → Bool}
    (hHolds : CString.HoldsAt buffer i text)
    (hEnds : p 0 = false) :
    forward (fun b => !p b) buffer i =
      .ok ((CString.skip p buffer i : Nat) : Int) := by
  have hWalk := @forward_eq _ _ _ (fun b => !p b) hHolds
    (by rw [hEnds]; rfl)
  have hSame : (fun b => !!p b) = p := by
    funext b
    exact Bool.not_not (p b)
  rw [hWalk, hHolds.skip_eq hEnds, hSame]

theorem stringAt_eq
    (hHolds : CString.HoldsAt buffer i text) :
    stringAt buffer i = .ok (CString.textAt buffer i) := by
  have hWalk := @forward_eq _ _ _ (fun b => b == 0) hHolds rfl
  have hAll : (text.takeWhile fun b => !(b == 0)) = text := by
    rw [List.takeWhile_eq_self_iff]
    intro b hB
    simp [hHolds.1 b hB]
  rw [hAll] at hWalk
  unfold stringAt
  rw [hWalk, hHolds.textAt_eq]
  change Except.ok _ = _
  rcases hHolds with ⟨-, front, rest, rfl, rfl⟩
  have hLength : (((front.length + text.length : Nat) : Int) -
      front.length).toNat = text.length := by
    omega
  rw [hLength, Int.toNat_natCast, List.append_assoc,
    List.drop_left, List.take_left]

/-
  Trimming stops in the buffer unless all bytes in front are
  of the class. Then it reads the byte before the first one.
-/
theorem backwardFrom_eq
    {p : UInt8 → Bool}
    {fuel : Nat}
    (hInside : k ≤ buffer.length)
    (hFuel : k < fuel) :
    backwardFrom p fuel buffer (k - 1) =
      if (buffer.take k).all p then
        .error (-1)
      else
        .ok (CString.trimBack p buffer k) := by
  induction k generalizing buffer fuel with
  | zero =>
      cases fuel with
      | zero => cases hFuel
      | succ fuel => rfl
  | succ k ih =>
      cases fuel with
      | zero => cases hFuel
      | succ fuel =>
          have hIndex : ((k + 1 : Nat) : Int) - 1 = k := by
            omega
          have hTake : buffer.take (k + 1) =
              buffer.take k ++ [buffer.getD k 0] := by
            rw [List.take_add_one, List.getD,
              List.getElem?_eq_getElem hInside]
            rfl
          rw [hIndex, backwardFrom, peek_of_lt hInside, hTake,
            List.all_append, List.all_cons, List.all_nil,
            Bool.and_true]
          change (if p (buffer.getD k 0) = true then _
            else _) = _
          by_cases hClass : p (buffer.getD k 0) = true
          · rw [if_pos hClass, poke_of_lt hInside]
            change backwardFrom p fuel (buffer.set k 0)
              ((k : Int) - 1) = _
            rw [ih (by rw [List.length_set]; omega)
              (Nat.lt_of_succ_lt_succ hFuel),
              List.take_set_of_le (Nat.le_refl k),
              CString.trimBack, if_pos hClass, hClass,
              Bool.and_true]
          · rw [if_neg hClass, CString.trimBack,
              if_neg hClass, if_neg (by
                rw [Bool.and_eq_true]
                exact fun h => hClass h.2)]
            rfl

theorem backward_eq
    {p : UInt8 → Bool}
    (hInside : k ≤ buffer.length) :
    backward p buffer (k - 1) =
      if (buffer.take k).all p then
        .error (-1)
      else
        .ok (CString.trimBack p buffer k) :=
  backwardFrom_eq hInside (by omega)

end Cursor
