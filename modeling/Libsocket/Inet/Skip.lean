import Libsocket.Inet.Expand

/-
  `__dn_skipname` goes over a name without putting it
  together. Where `dn_expand` has a name, it goes as far, if
  the name does not leave the packet.

  Main declarations:
    * `dnSkipname`
    * `dnSkipname_of_dnExpand`
-/

namespace Libsocket

/- Behind the name, unless this is behind the packet. -/
def skipEnd (p : Packet) (cp : Nat) : Option Nat :=
  if p.anslen < cp then none else some cp

/- The loop of `__dn_skipname`: where the name ends. -/
def skipLabels (p : Packet) (cp : Nat) : Option Nat :=
  if _hInside : cp < p.anslen then
    let n := (p.buf cp).toNat
    if n = 0 then
      skipEnd p (cp + 1)
    else if n < 64 then
      skipLabels p (cp + 1 + n)
    else if 192 ≤ n then
      skipEnd p (cp + 2)
    else
      none
  else
    skipEnd p cp
termination_by p.anslen - cp
decreasing_by omega

/- `__dn_skipname` -/
def dnSkipname
    (p : Packet)
    (compDn : Nat) : Option Nat :=
  (skipLabels p compDn).map fun cp => cp - compDn

/- Once a pointer was followed, the size is settled. -/
theorem labels_len
    {p : Packet}
    {length : Int}
    {comp cp checked len n : Nat}
    {dn t : Bytes}
    (hOk : labels p length comp cp checked (some len) dn =
      .ok (t, n)) :
    n = len := by
  generalize hLen : some len = len' at hOk
  fun_induction labels p length comp cp checked len' dn with
  | case1 =>
      subst hLen
      cases hOk
      rfl
  | case2 => cases hOk
  | case3 => cases hOk
  | case4 => cases hOk
  | case5 cp checked len dn n hSome hLabel hGoes dn' hFits cp'
      dn'' hCopy ih =>
      exact ih hLen hOk
  | case6 => cases hOk
  | case7 => cases hOk
  | case8 cp checked len' dn n hSome hLabel hPointer len₁ cp'
      hInside hLoop ih =>
      subst hLen
      exact ih rfl hOk
  | case9 => cases hOk

/- A label is as long in the packet as it says. -/
theorem copyLabel_end
    {p : Packet}
    {length : Int}
    {n cp cp' : Nat}
    {dn dn' : Bytes}
    (hOk : copyLabel p length n cp dn = .ok (cp', dn')) :
    cp' = cp + n := by
  induction n generalizing cp dn with
  | zero =>
      cases hOk
      rfl
  | succ n ih =>
      unfold copyLabel at hOk
      dsimp only at hOk
      split at hOk
      · cases hOk
      · split at hOk
        · cases hOk
        · rw [ih hOk]
          omega

/- Both loops go over the same labels. -/
theorem skipLabels_of_labels
    {p : Packet}
    {length : Int}
    {comp cp checked n : Nat}
    {dn t : Bytes}
    (hOk : labels p length comp cp checked none dn = .ok (t, n))
    (hComp : comp ≤ cp)
    (hInside : cp < p.anslen) :
    skipLabels p cp = skipEnd p (comp + n) ∧ 0 < n := by
  generalize hLen : (none : Option Nat) = len at hOk
  fun_induction labels p length comp cp checked len dn with
  | case1 cp checked len dn n' hNone =>
      subst hLen
      cases hOk
      unfold skipLabels
      dsimp only
      rw [dif_pos hInside, if_pos hNone]
      have hEnd : comp + (cp + 1 - comp) = cp + 1 := by omega
      refine ⟨?_, ?_⟩
      · rw [Option.getD_none, hEnd]
      · rw [Option.getD_none]
        omega
  | case2 => cases hOk
  | case3 => cases hOk
  | case4 => cases hOk
  | case5 cp checked len dn n' hSome hLabel hGoes dn' hFits cp'
      dn'' hCopy ih =>
      have hEnd := copyLabel_end hCopy
      have hBounds := copyLabel_cp hSome hCopy
      rcases ih (by omega) hBounds.2 hLen hOk with ⟨hSkip, hPos⟩
      refine ⟨?_, hPos⟩
      unfold skipLabels
      dsimp only
      rw [dif_pos hInside, if_neg hSome, if_pos hLabel, ← hSkip,
        hEnd]
  | case6 => cases hOk
  | case7 => cases hOk
  | case8 cp checked len dn n' hSome hLabel hPointer len' cp'
      hReach hLoop ih =>
      subst hLen
      have hSize : n = cp + 2 - comp := labels_len hOk
      unfold skipLabels
      dsimp only
      rw [dif_pos hInside, if_neg hSome, if_neg hLabel,
        if_pos hPointer, hSize]
      have hEnd : comp + (cp + 2 - comp) = cp + 2 := by omega
      rw [hEnd]
      exact ⟨rfl, by omega⟩
  | case9 => cases hOk

/-
  Where `dn_expand` finds a name in a packet, `__dn_skipname`
  returns its size, or an error if its pointer is cut off by
  the end of the packet.
-/
theorem dnSkipname_of_dnExpand
    {p : Packet}
    {length : Int}
    {compDn n : Nat}
    {t : Bytes}
    (hInside : compDn < p.anslen)
    (hOk : (dnExpand p compDn length).result = some (t, n)) :
    dnSkipname p compDn =
      if compDn + n ≤ p.anslen then some n else none := by
  unfold dnExpand at hOk
  cases hLabels : labels p length compDn compDn 0 none [] with
  | error dn =>
      rw [hLabels] at hOk
      cases hOk
  | ok end_ =>
      rcases end_ with ⟨dn, len⟩
      rw [hLabels] at hOk
      dsimp only at hOk
      split at hOk
      · cases hOk
      · cases hOk
        rcases skipLabels_of_labels hLabels
            (Nat.le_refl compDn) hInside with ⟨hSkip, -⟩
        unfold dnSkipname
        rw [hSkip, skipEnd]
        by_cases hFits : compDn + n ≤ p.anslen
        · rw [if_pos hFits, if_neg (by omega), Option.map_some,
            Nat.add_sub_cancel_left]
        · rw [if_neg hFits, if_pos (by omega), Option.map_none]

/- "a", and a pointer to it behind it. -/
def pointingPacket : Packet :=
  ⟨fun i => [1, 97, 0, 192, 0].getD i 0, 5⟩

theorem dnSkipname_of_dnExpand_pointer :
    dnSkipname pointingPacket 3 =
      if 3 + 2 ≤ pointingPacket.anslen then some 2 else none :=
  dnSkipname_of_dnExpand (t := [97]) (by decide)
    (by decide +kernel :
      (dnExpand pointingPacket 3 4).result = some ([97], 2))

end Libsocket
