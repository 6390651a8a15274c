import Libsocket.Inet.ReadBack

/-
  What is appended to a database goes behind its last line,
  which need not have a newline.

  Main declarations:
    * `allEntries_eq`
    * `unfinished`
    * `exists_fgetsAll_append`
-/

namespace Libsocket

------------------------------------------------------------
-- Entries And Lines
------------------------------------------------------------

/- The first call of `fgets`, and those that follow it. -/
theorem fgetsFrom_cons
    {size room : Nat}
    {line s : Bytes}
    (hRoom : 1 ≤ room)
    (hSome : s ≠ []) :
    fgetsFrom size line room s =
      (line ++ (fgets room s).1) ::
        fgetsAll size (fgets room s).2 := by
  induction s generalizing line room with
  | nil => exact absurd rfl hSome
  | cons b s ih =>
      obtain ⟨room, rfl⟩ := Nat.exists_eq_add_of_le' hRoom
      unfold fgetsFrom fgets
      by_cases hEnd : b = newline
      · rw [if_pos (.inl hEnd), if_pos hEnd]
        rfl
      · rw [if_neg hEnd]
        cases room with
        | zero =>
            rw [if_pos (.inr le_rfl)]
            simp [fgets, fgetsAll]
        | succ room =>
            rw [if_neg (by simp [hEnd])]
            cases s with
            | nil =>
                simp [fgetsFrom, fgets, fgetsAll]
            | cons c s =>
                rw [Nat.add_sub_cancel, ih (Nat.succ_pos room)
                  (List.cons_ne_nil c s), List.append_assoc]
                rfl

theorem fgetsAll_nil (size : Nat) : fgetsAll size [] = [] := by
  unfold fgetsAll fgetsFrom
  rfl

/- The calls return the entries of the lines, in order. -/
theorem allEntries_eq
    {ε : Type}
    (parse : Bytes → Option ε)
    (s : Bytes) :
    allEntries parse s =
      (fgetsAll bufsiz s).filterMap parse := by
  induction hLength : s.length using Nat.strong_induction_on
    generalizing s with
  | _ n ih =>
      cases s with
      | nil => rw [allEntries_nil, fgetsAll_nil, List.filterMap]
      | cons b s =>
          have hSome := List.cons_ne_nil b s
          have hLess : (dbTurn parse (b :: s)).2.length < n := by
            rw [← hLength]
            exact fgets_shorter (bufsiz - 2) b s
          have hLines : fgetsAll bufsiz (b :: s) =
              (fgets (bufsiz - 1) (b :: s)).1 ::
                fgetsAll bufsiz (dbTurn parse (b :: s)).2 :=
            fgetsFrom_cons (by decide) hSome
          rw [hLines, List.filterMap_cons, ← ih _ hLess _ rfl]
          cases hEntry : (dbTurn parse (b :: s)).1 with
          | none =>
              have hParse : parse
                  (fgets (bufsiz - 1) (b :: s)).1 = none :=
                hEntry
              rw [hParse]
              exact allEntries_congr
                (readEntry_of_skip hSome (Prod.ext hEntry rfl))
          | some entry =>
              have hParse : parse
                  (fgets (bufsiz - 1) (b :: s)).1 =
                    some entry := hEntry
              rw [hParse]
              exact allEntries_of_some
                (readEntry_of_turn hSome (Prod.ext hEntry rfl))

------------------------------------------------------------
-- The Last Line
------------------------------------------------------------

/-
  What `fgets` has in the buffer when the file ends and the
  call could have gone on.
-/
def unfinishedFrom (size : Nat) (line : Bytes) :
    Nat → Bytes → Bytes
| _, [] => line
| room, b :: bs =>
    if b = newline ∨ room ≤ 1 then
      unfinishedFrom size [] (size - 1) bs
    else
      unfinishedFrom size (line ++ [b]) (room - 1) bs

/-
  The last line of a file if it has no newline, or its last
  part if the line is longer than the buffer.
-/
def unfinished (size : Nat) (file : Bytes) : Bytes :=
  unfinishedFrom size [] (size - 1) file

/- Characters of a line that have been read already. -/
theorem fgetsFrom_line
    {size room : Nat}
    {line more : Bytes}
    (hOpen : newline ∉ more)
    (hRoom : 1 ≤ room)
    (rest : Bytes) :
    fgetsFrom size line (more.length + room) (more ++ rest) =
      fgetsFrom size (line ++ more) room rest := by
  induction more generalizing line with
  | nil => rw [List.length_nil, Nat.zero_add, List.nil_append,
      List.append_nil]
  | cons b more ih =>
      have hHead : b ≠ newline := fun hSame =>
        hOpen (hSame ▸ List.mem_cons_self)
      have hRest := @ih (line ++ [b])
        fun hMem => hOpen (List.mem_cons_of_mem b hMem)
      rw [List.append_assoc, List.singleton_append] at hRest
      rw [List.cons_append, fgetsFrom, List.length_cons,
        if_neg (by simp only [hHead, false_or]; omega),
        ← hRest]
      congr 1
      omega

/- Reading goes on with what the unfinished line holds. -/
structure Unfinished
    (size : Nat)
    (line : Bytes)
    (room : Nat)
    (file last : Bytes) : Prop where
  single : newline ∉ last
  short : last.length < size - 1
  behind : ∃ lines, ∀ rest,
    fgetsFrom size line room (file ++ rest) =
      lines ++ fgetsAll size (last ++ rest)

theorem unfinishedFrom_spec
    {size room : Nat}
    {line : Bytes}
    (hOpen : newline ∉ line)
    (hSize : line.length + room = size - 1)
    (hRoom : 1 ≤ room)
    (file : Bytes) :
    Unfinished size line room file
      (unfinishedFrom size line room file) := by
  induction file generalizing line room with
  | nil =>
      unfold unfinishedFrom
      refine ⟨hOpen, by omega, [], fun rest => ?_⟩
      have hLine := @fgetsFrom_line size room [] line hOpen
        hRoom rest
      rw [hSize, List.nil_append] at hLine
      exact hLine.symm
  | cons b file ih =>
      unfold unfinishedFrom
      by_cases hCut : b = newline ∨ room ≤ 1
      · rw [if_pos hCut]
        have hNew := @ih (size - 1) [] List.not_mem_nil
          (Nat.zero_add _) (by omega)
        obtain ⟨lines, hLines⟩ := hNew.behind
        refine ⟨hNew.single, hNew.short,
          (line ++ [b]) :: lines, fun rest => ?_⟩
        rw [List.cons_append, fgetsFrom, if_pos hCut,
          hLines rest]
        rfl
      · have hGoes := hCut
        rw [not_or, Nat.not_le] at hCut
        rw [if_neg hGoes]
        have hMore : newline ∉ line ++ [b] := by
          rw [List.mem_append, List.mem_singleton]
          rintro (hMem | hSame)
          · exact hOpen hMem
          · exact hCut.1 hSame.symm
        have hLonger : (line ++ [b]).length + (room - 1) =
            size - 1 := by
          rw [List.length_append, List.length_singleton]
          omega
        have hNext := ih hMore hLonger (by omega)
        obtain ⟨lines, hLines⟩ := hNext.behind
        refine ⟨hNext.single, hNext.short, lines,
          fun rest => ?_⟩
        rw [List.cons_append, fgetsFrom, if_neg hGoes,
          hLines rest]

theorem unfinished_spec
    {size : Nat}
    (hSize : 2 ≤ size)
    (file : Bytes) :
    Unfinished size [] (size - 1) file
      (unfinished size file) :=
  unfinishedFrom_spec List.not_mem_nil (Nat.zero_add _)
    (by omega) file

/- A file whose last line has a newline has none. -/
theorem unfinishedFrom_newline
    (size room : Nat)
    (line file : Bytes) :
    unfinishedFrom size line room (file ++ [newline]) = [] := by
  induction file generalizing line room with
  | nil =>
      rw [List.nil_append, unfinishedFrom, if_pos (.inl rfl)]
      rfl
  | cons b file ih =>
      rw [List.cons_append, unfinishedFrom]
      split
      · exact ih _ _
      · exact ih _ _

------------------------------------------------------------
-- Short And Long Lines
------------------------------------------------------------

/- A line that fits is read at once. -/
theorem fgetsAll_fits
    {size : Nat}
    {t : Bytes}
    {ended : Bool}
    (hOpen : newline ∉ t)
    (hSome : t ++ lineEnd ended ≠ [])
    (hFits : (t ++ lineEnd ended).length ≤ size - 1) :
    fgetsAll size (t ++ lineEnd ended) =
      [t ++ lineEnd ended] := by
  have hRead := @fgets_fits (size - 1) t [] ended hOpen
    (fun _ => rfl) hFits
  have hPositive := List.length_pos_iff.mpr hSome
  rw [List.append_nil] at hRead
  unfold fgetsAll
  rw [fgetsFrom_cons (by omega) hSome, hRead, fgetsAll_nil]
  rfl

/- A longer one is read up to the end of the buffer. -/
theorem fgetsAll_long
    {size : Nat}
    {t : Bytes}
    (hSize : 2 ≤ size)
    (hOpen : newline ∉ t)
    (hLength : t.length = size - 1)
    (rest : Bytes) :
    fgetsAll size (t ++ rest) = t :: fgetsAll size rest := by
  have hLast := List.eq_nil_or_concat t
  rcases hLast with rfl | ⟨front, b, rfl⟩
  · rw [List.length_nil] at hLength
    omega
  · rw [List.concat_eq_append, List.length_append,
      List.length_singleton] at hLength
    rw [List.concat_eq_append] at hOpen ⊢
    have hLine := @fgetsFrom_line size 1 [] front
      (fun hMem => hOpen (List.mem_append_left _ hMem)) le_rfl
      (b :: rest)
    rw [hLength, List.nil_append, fgetsFrom,
      if_pos (.inr le_rfl)] at hLine
    rw [List.append_assoc, List.singleton_append]
    exact hLine

end Libsocket
