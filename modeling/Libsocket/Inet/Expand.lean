import Libsocket.Inet.Databases

/-
  Names in a packet: `dn_expand` puts the labels of a name
  together, follows the pointers between them, and gives up
  when it has looked at as much as the packet holds.

  Main declarations:
    * `Packet`, `dnExpand`
    * `dnExpand_inside`
-/

namespace Libsocket

/-
  What lies at the start of an answer and behind it, and the
  length of the answer.
-/
structure Packet where
  buf : Nat → UInt8
  anslen : Nat

/- `_getshort` -/
def Packet.getshort (p : Packet) (i : Nat) : Nat :=
  (p.buf i).toNat * 256 + (p.buf (i + 1)).toNat

def escapeSign : UInt8 := 92

/-
  Copy a label of so many characters behind those that are
  written already; an error leaves those that were written.
-/
def copyLabel
    (p : Packet)
    (length : Int) :
    Nat → Nat → Bytes → Except Bytes (Nat × Bytes)
| 0, cp, dn => .ok (cp, dn)
| n + 1, cp, dn =>
    let c := p.buf cp
    if (c = fullStop ∨ c = escapeSign) ∧
        length ≤ (dn.length + n + 2 : Nat) then
      .error dn
    else
      let dn :=
        if c = fullStop ∨ c = escapeSign then
          dn ++ [escapeSign, c]
        else
          dn ++ [c]
      if p.anslen ≤ cp + 1 then
        .error dn
      else
        copyLabel p length n (cp + 1) dn

/- A label that is copied lies inside the packet. -/
theorem copyLabel_cp
    {p : Packet}
    {length : Int}
    {n cp cp' : Nat}
    {dn dn' : Bytes}
    (hSome : n ≠ 0)
    (hOk : copyLabel p length n cp dn = .ok (cp', dn')) :
    cp < cp' ∧ cp' < p.anslen := by
  induction n generalizing cp dn with
  | zero => exact absurd rfl hSome
  | succ n ih =>
      unfold copyLabel at hOk
      dsimp only at hOk
      split at hOk
      · cases hOk
      · split at hOk
        · cases hOk
        · rename_i hInside
          cases n with
          | zero =>
              cases hOk
              omega
          | succ n =>
              have hRest := ih (Nat.succ_ne_zero n) hOk
              omega

/-
  What the pointers may still look at comes first, then what
  is left of the packet behind the cursor.
-/
def labelsLeft (p : Packet) (cp checked : Nat) : Nat :=
  (p.anslen - checked) * (p.anslen + 1) + (p.anslen - cp)

theorem labelsLeft_label
    {p : Packet}
    {cp cp' checked n : Nat}
    (hForth : cp < cp')
    (hInside : cp' < p.anslen) :
    labelsLeft p cp' (checked + n) <
      labelsLeft p cp checked := by
  have hBudget : p.anslen - (checked + n) ≤
      p.anslen - checked := by omega
  have hFirst := Nat.mul_le_mul_right (p.anslen + 1) hBudget
  unfold labelsLeft
  omega

theorem labelsLeft_pointer
    {p : Packet}
    {cp cp' checked : Nat}
    (hChecked : checked + 2 < p.anslen) :
    labelsLeft p cp' (checked + 2) <
      labelsLeft p cp checked := by
  have hBudget : p.anslen - (checked + 2) + 1 ≤
      p.anslen - checked := by omega
  have hFirst := Nat.mul_le_mul_right (p.anslen + 1) hBudget
  rw [Nat.add_mul] at hFirst
  unfold labelsLeft
  omega

/-
  The loop over the labels: the name, and the length of what
  stands for it at its place in the packet.
-/
def labels
    (p : Packet)
    (length : Int)
    (comp cp checked : Nat)
    (len : Option Nat)
    (dn : Bytes) : Except Bytes (Bytes × Nat) :=
  let n := (p.buf cp).toNat
  if _hSome : n = 0 then
    .ok (dn, len.getD (cp + 1 - comp))
  else if n < 64 then
    if dn ≠ [] ∧ length ≤ dn.length then
      .error dn
    else
      let dn := if dn ≠ [] then dn ++ [fullStop] else dn
      if length ≤ (dn.length + n : Nat) then
        .error dn
      else
        match _hOk : copyLabel p length n (cp + 1) dn with
        | .error dn => .error dn
        | .ok (cp', dn) =>
            labels p length comp cp' (checked + (n + 1)) len dn
  else if 192 ≤ n then
    let len := len.getD (cp + 2 - comp)
    let cp' := n % 64 * 256 + (p.buf (cp + 1)).toNat
    if p.anslen ≤ cp' then
      .error dn
    else if _hLoop : p.anslen ≤ checked + 2 then
      .error dn
    else
      labels p length comp cp' (checked + 2) (some len) dn
  else
    .error dn
termination_by labelsLeft p cp checked
decreasing_by
  · have hInside := copyLabel_cp _hSome _hOk
    exact labelsLeft_label (by omega) hInside.2
  · exact labelsLeft_pointer (by omega)

/-
  What `dn_expand` returns, and how many characters it wrote.
-/
structure Expanded where
  result : Option (Bytes × Nat)
  written : Nat
deriving DecidableEq

/- `dn_expand`; a name may not have white space in it. -/
def dnExpand
    (p : Packet)
    (comp : Nat)
    (length : Int) : Expanded :=
  match labels p length comp comp 0 none [] with
  | .error dn => ⟨none, dn.length⟩
  | .ok (dn, len) =>
      let text := dn.takeWhile (· ≠ 0)
      if text.any fun c => isAscii c && isSpace c then
        ⟨none, dn.length + 1⟩
      else
        ⟨some (text, len), dn.length + 1⟩

------------------------------------------------------------
-- Inside The Buffer
------------------------------------------------------------

/- Enough room for what a label has to come, and the NUL. -/
theorem copyLabel_inside
    {p : Packet}
    {length : Int}
    {n cp : Nat}
    {dn : Bytes}
    (hRoom : (dn.length + n : Nat) < length) :
    match copyLabel p length n cp dn with
    | .error dn' => (dn'.length : Int) < length
    | .ok (_, dn') => (dn'.length : Int) < length := by
  induction n generalizing cp dn with
  | zero => exact hRoom
  | succ n ih =>
      unfold copyLabel
      dsimp only
      by_cases hMark :
          p.buf cp = fullStop ∨ p.buf cp = escapeSign
      · by_cases hFull : length ≤ (dn.length + n + 2 : Nat)
        · rw [if_pos ⟨hMark, hFull⟩]
          omega
        · rw [if_neg (fun hBoth => hFull hBoth.2),
            if_pos hMark]
          have hLength : (dn ++ [escapeSign, p.buf cp]).length =
              dn.length + 2 := by simp
          by_cases hEnd : p.anslen ≤ cp + 1
          · rw [if_pos hEnd]
            dsimp only
            omega
          · rw [if_neg hEnd]
            apply ih
            omega
      · rw [if_neg (fun hBoth => hMark hBoth.1), if_neg hMark]
        have hLength : (dn ++ [p.buf cp]).length =
            dn.length + 1 := by simp
        by_cases hEnd : p.anslen ≤ cp + 1
        · rw [if_pos hEnd]
          dsimp only
          omega
        · rw [if_neg hEnd]
          apply ih
          omega

/- No more is written than there is room for. -/
def KeepsInside
    (length : Int) : Except Bytes (Bytes × Nat) → Prop
| .error dn => dn = [] ∨ (dn.length : Int) ≤ length
| .ok (dn, _) => dn = [] ∨ (dn.length : Int) < length

theorem le_of_room
    {length : Int}
    {dn : Bytes}
    (hRoom : dn = [] ∨ (dn.length : Int) < length) :
    dn = [] ∨ (dn.length : Int) ≤ length := by
  rcases hRoom with hNone | hLess
  · exact .inl hNone
  · exact .inr (Int.le_of_lt hLess)

/- The dot in front of a label takes the room of the NUL. -/
theorem dotted_inside
    {length : Int}
    {dn : Bytes}
    (hRoom : dn = [] ∨ (dn.length : Int) < length) :
    (if dn ≠ [] then dn ++ [fullStop] else dn) = [] ∨
      ((if dn ≠ [] then dn ++ [fullStop] else dn).length :
        Int) ≤ length := by
  by_cases hSome : dn ≠ []
  · rw [if_pos hSome, List.length_append, List.length_singleton]
    rcases hRoom with hNone | hLess
    · exact absurd hNone hSome
    · right
      omega
  · rw [if_neg hSome]
    exact .inl (not_not.mp hSome)

theorem labels_inside
    {p : Packet}
    {length : Int}
    {comp cp checked : Nat}
    {len : Option Nat}
    {dn : Bytes}
    (hRoom : dn = [] ∨ (dn.length : Int) < length) :
    KeepsInside length
      (labels p length comp cp checked len dn) := by
  fun_induction labels p length comp cp checked len dn with
  | case1 => exact hRoom
  | case2 cp checked len dn n hSome hLabel hFull =>
      rcases hRoom with hNone | hLess
      · exact absurd hNone hFull.1
      · omega
  | case3 cp checked len dn n hSome hLabel hGoes dn' hFull =>
      exact dotted_inside hRoom
  | case4 cp checked len dn n hSome hLabel hGoes dn' hFits
      dn'' hCopy =>
      have hInside := @copyLabel_inside p length n (cp + 1) dn'
        (by omega)
      rw [hCopy] at hInside
      exact .inr (Int.le_of_lt hInside)
  | case5 cp checked len dn n hSome hLabel hGoes dn' hFits cp'
      dn'' hCopy ih =>
      have hInside := @copyLabel_inside p length n (cp + 1) dn'
        (by omega)
      rw [hCopy] at hInside
      exact ih (.inr hInside)
  | case6 => exact le_of_room hRoom
  | case7 => exact le_of_room hRoom
  | case8 cp checked len dn n hSome hLabel hPointer len' cp'
      hInside hLoop ih =>
      exact ih hRoom
  | case9 => exact le_of_room hRoom

/-
  No more is written than there is room for, except that the
  empty name takes a NUL.
-/
theorem dnExpand_inside
    (p : Packet)
    (comp : Nat)
    (length : Int) :
    ((dnExpand p comp length).written : Int) ≤
      max 1 length := by
  have hInside := @labels_inside p length comp comp 0 none []
    (.inl rfl)
  unfold dnExpand
  cases hEnd : labels p length comp comp 0 none [] with
  | error dn =>
      rw [hEnd] at hInside
      dsimp only at hInside ⊢
      rcases hInside with rfl | hLess
      · exact Int.le_trans (by decide) (Int.le_max_left 1 length)
      · omega
  | ok end_ =>
      rw [hEnd] at hInside
      dsimp only at hInside ⊢
      have hCount : (end_.1.length + 1 : Int) ≤
          max 1 length := by
        rcases hInside with hNone | hLess
        · rw [hNone]
          exact Int.le_max_left 1 length
        · omega
      split
      · exact hCount
      · exact hCount

end Libsocket
