import Libsocket.Inet.Compress

/-
  What a name is: its labels, whether it is written as a text
  or lies in a message, and whatever the case of its letters.

  Main declarations:
    * `nameLabels`, `readLink`, `Placed`
    * `dnFind_spec`
-/

namespace Libsocket

------------------------------------------------------------
-- Lower Case
------------------------------------------------------------

theorem toNat_mklower (c : UInt8) :
    (mklower c).toNat =
      if 65 ≤ c.toNat ∧ c.toNat ≤ 90 then
        c.toNat + 32
      else
        c.toNat := by
  unfold mklower
  by_cases hUpper : 65 ≤ c.toNat ∧ c.toNat ≤ 90
  · have hBoth : (isAscii c && isUpper c) = true := by
      rw [Bool.and_eq_true, isAscii, isUpper,
        decide_eq_true_iff, decide_eq_true_iff]
      exact ⟨by omega, hUpper⟩
    rw [if_pos hBoth, if_pos hUpper, UInt8.toNat_add]
    change (c.toNat + 32) % 256 = c.toNat + 32
    omega
  · have hNot : ¬ (isAscii c && isUpper c) = true := by
      rw [Bool.and_eq_true, isUpper, decide_eq_true_iff]
      exact fun hBoth => hUpper hBoth.2
    rw [if_neg hNot, if_neg hUpper]

/- A sign in front of the letters is no letter. -/
theorem mklower_eq_iff
    {c sign : UInt8}
    (hSign : sign.toNat < 65) :
    mklower c = sign ↔ c = sign := by
  rw [← UInt8.toNat_inj, ← UInt8.toNat_inj, toNat_mklower]
  split
  · omega
  · exact Iff.rfl

theorem mklower_eq_zero_iff (c : UInt8) :
    mklower c = 0 ↔ c = 0 :=
  mklower_eq_iff (by decide)

theorem mklower_eq_escapeSign_iff (c : UInt8) :
    mklower c = escapeSign ↔ c = escapeSign := by
  rw [← UInt8.toNat_inj, ← UInt8.toNat_inj, toNat_mklower]
  have hSign : escapeSign.toNat = 92 := rfl
  split
  · omega
  · exact Iff.rfl

theorem mklower_keepsSigns :
    Escaped.KeepsSigns fullStop escapeSign mklower where
  sep_iff c := mklower_eq_iff (by decide)
  esc_iff := mklower_eq_escapeSign_iff

theorem isSpace_mklower (c : UInt8) :
    isSpace (mklower c) = isSpace c := by
  rw [Bool.eq_iff_iff]
  simp only [isSpace, Bool.or_eq_true, beq_iff_eq,
    decide_eq_true_iff]
  rw [mklower_eq_iff (by decide), toNat_mklower]
  apply or_congr Iff.rfl
  split
  · omega
  · exact Iff.rfl

/- Two names whose labels differ in case at most. -/
def SameLabels (ls ks : List Bytes) : Prop :=
  ls.map (List.map mklower) = ks.map (List.map mklower)

------------------------------------------------------------
-- Names As Texts
------------------------------------------------------------

/- The field of a text up to its first full stop. -/
abbrev field : Bytes → Bytes × Bytes :=
  Escaped.field fullStop escapeSign

theorem field_escape
    (c : UInt8)
    (s : Bytes) :
    field (escapeSign :: c :: s) =
      (c :: (field s).1, (field s).2) :=
  Escaped.field_esc (by decide) c s

theorem field_plain
    {c : UInt8}
    (hStop : c ≠ fullStop)
    (hEscape : c ≠ escapeSign)
    (s : Bytes) :
    field (c :: s) = (c :: (field s).1, (field s).2) :=
  Escaped.field_plain hStop hEscape s

/- The fields of a text between its full stops. -/
abbrev fields : Bytes → List Bytes :=
  Escaped.fields fullStop escapeSign

theorem fields_of_ne
    {dn : Bytes}
    (hSome : dn ≠ []) :
    fields dn = (field dn).1 :: fields (field dn).2 :=
  Escaped.fields_of_ne hSome

/-
  The labels of a name: one full stop at its end, and one more
  behind that, do not matter; otherwise there is a label
  between any two full stops.
-/
def nameLabels (dn : Bytes) : Option (List Bytes) :=
  if _hSome : dn = [] then
    some []
  else if (field dn).1 = [] ∧ (field dn).2 = [] then
    some []
  else if (field dn).1 = [] ∨ maxLabel < (field dn).1.length then
    none
  else
    (nameLabels (field dn).2).map fun ls => (field dn).1 :: ls
termination_by dn.length
decreasing_by exact Escaped.length_field_lt _hSome

/- A label that a name may have. -/
def IsLabel (l : Bytes) : Prop :=
  l ≠ [] ∧ l.length ≤ maxLabel ∧ CString.IsText l

theorem nameLabels_of_fields
    {dn : Bytes}
    (hFields : ∀ l ∈ fields dn,
      l ≠ [] ∧ l.length ≤ maxLabel) :
    nameLabels dn = some (fields dn) := by
  fun_induction nameLabels dn with
  | case1 => simp
  | case2 dn hSome hBoth =>
      rw [fields_of_ne hSome] at hFields
      exact absurd hBoth.1 (hFields _ List.mem_cons_self).1
  | case3 dn hSome hNot hBad =>
      rw [fields_of_ne hSome] at hFields
      have hFirst := hFields _ List.mem_cons_self
      rcases hBad with hNone | hLong
      · exact absurd hNone hFirst.1
      · exact absurd hFirst.2 (Nat.not_le.mpr hLong)
  | case4 dn hSome hNot hGood ih =>
      rw [fields_of_ne hSome] at hFields ⊢
      rw [ih fun l hL => hFields l (List.mem_cons_of_mem _ hL)]
      rfl

------------------------------------------------------------
-- Names In A Message
------------------------------------------------------------

/- What lies in a message where a label might. -/
def readLink
    (buf : Memory UInt8)
    (o : Nat) : Option (Link Bytes) :=
  let n := (buf o).toNat
  if n = 0 then
    some (.stop 1)
  else if n < 64 then
    some (.item (buf.load (o + 1) n) (n + 1))
  else if 192 ≤ n then
    some (.back (n % 64 * 256 + (buf (o + 1)).toNat) 2)
  else
    none

theorem readLink_cases
    {buf : Memory UInt8}
    {o : Nat}
    {link : Link Bytes}
    (hRead : readLink buf o = some link) :
    ((buf o).toNat = 0 ∧ link = .stop 1) ∨
    ((buf o).toNat ≠ 0 ∧ (buf o).toNat < 64 ∧
      link = .item (buf.load (o + 1) (buf o).toNat)
        ((buf o).toNat + 1)) ∨
    (192 ≤ (buf o).toNat ∧
      link = .back ((buf o).toNat % 64 * 256 +
        (buf (o + 1)).toNat) 2) := by
  unfold readLink at hRead
  dsimp only at hRead
  split at hRead
  · rename_i hStop
    cases hRead
    exact .inl ⟨hStop, rfl⟩
  · rename_i hSome
    split at hRead
    · rename_i hLabel
      cases hRead
      exact .inr (.inl ⟨hSome, hLabel, rfl⟩)
    · split at hRead
      · rename_i hPointer
        cases hRead
        exact .inr (.inr ⟨hPointer, rfl⟩)
      · cases hRead

theorem readLink_size
    {buf : Memory UInt8}
    (o : Nat)
    (link : Link Bytes)
    (hRead : readLink buf o = some link) :
    0 < link.size := by
  rcases readLink_cases hRead with
    ⟨-, rfl⟩ | ⟨-, -, rfl⟩ | ⟨-, rfl⟩
  · exact Nat.one_pos
  · exact Nat.succ_pos _
  · exact Nat.two_pos

/- A link is made of the bytes that it takes. -/
theorem readLink_congr
    {buf buf' : Memory UInt8}
    {o : Nat}
    {link : Link Bytes}
    (hRead : readLink buf o = some link)
    (hSame : ∀ b, o ≤ b → b < o + link.size →
      buf' b = buf b) :
    readLink buf' o = some link := by
  have hSize := readLink_size o link hRead
  have hHere : buf' o = buf o :=
    hSame o (Nat.le_refl o) (by omega)
  rw [← hRead]
  unfold readLink
  dsimp only
  rw [hHere]
  rcases readLink_cases hRead with
    ⟨hStop, rfl⟩ | ⟨hSome, hLabel, rfl⟩ | ⟨hPointer, rfl⟩
  · rw [if_pos hStop, if_pos hStop]
  · have hLoad : buf'.load (o + 1) (buf o).toNat =
        buf.load (o + 1) (buf o).toNat := by
      apply Memory.load_congr
      intro k hK
      simp only [Link.size] at hSame
      exact hSame _ (by omega) (by omega)
    rw [hLoad, if_neg hSome, if_pos hLabel, if_neg hSome,
      if_pos hLabel]
  · have hSecond : buf' (o + 1) = buf (o + 1) := by
      simp only [Link.size] at hSame
      exact hSame _ (by omega) (by omega)
    have hSome : ¬ (buf o).toNat = 0 := by omega
    have hLabel : ¬ (buf o).toNat < 64 := by omega
    rw [hSecond, if_neg hSome, if_neg hLabel, if_neg hSome,
      if_neg hLabel]

/-
  A name lies at a place of a message: it takes so many bytes
  there, and goes on in front of `base` if it does, but not in
  front of `floor`.
-/
def Placed
    (buf : Memory UInt8)
    (floor base off : Nat)
    (ls : List Bytes)
    (size : Nat) : Prop :=
  (∃ seen steps, Chain (readLink buf) floor base off ls size
    seen steps) ∧ ∀ l ∈ ls, IsLabel l

theorem Placed.congr
    {buf buf' : Memory UInt8}
    {floor base off size : Nat}
    {ls : List Bytes}
    (hPlaced : Placed buf floor base off ls size)
    (hFloor : floor ≤ base)
    (hBase : base ≤ off)
    (hSame : ∀ b, floor ≤ b → b < off + size →
      buf' b = buf b) :
    Placed buf' floor base off ls size := by
  rcases hPlaced with ⟨⟨seen, steps, hChain⟩, hLabels⟩
  refine ⟨⟨seen, steps, hChain.congr ?_ hFloor hBase
    (Nat.le_refl _)⟩, hLabels⟩
  intro o link hRead hLow hLimit
  exact readLink_congr hRead fun b hB hEnd =>
    hSame b (Nat.le_trans hLow hB)
      (Nat.lt_of_lt_of_le hEnd hLimit)

/- At a NUL a name ends. -/
theorem Placed.of_zero
    {buf : Memory UInt8}
    {floor base off size seen steps : Nat}
    {ls : List Bytes}
    (hChain : Chain (readLink buf) floor base off ls size seen
      steps)
    (hZero : buf off = 0) :
    ls = [] ∧ size = 1 := by
  have hRead : readLink buf off = some (.stop 1) := by
    unfold readLink
    rw [hZero]
    rfl
  cases hChain with
  | stop hStop =>
      rw [hRead] at hStop
      cases hStop
      exact ⟨rfl, rfl⟩
  | item hItem _ =>
      rw [hRead] at hItem
      cases hItem
  | back hBack _ _ _ _ =>
      rw [hRead] at hBack
      cases hBack

------------------------------------------------------------
-- Looking For A Name
------------------------------------------------------------

/- A label that matches is the text's, whatever the case. -/
theorem matchLabel_spec
    {buf : Memory UInt8}
    {n cp cp' : Nat}
    {dn dn' : Bytes}
    (hText : CString.IsText (buf.load cp n))
    (hMatch : matchLabel buf n cp dn = some (cp', dn')) :
    cp' = cp + n ∧
      ∃ w, w.map mklower = (buf.load cp n).map mklower ∧
        field dn = (w ++ (field dn').1, (field dn').2) := by
  induction n generalizing cp dn with
  | zero =>
      cases hMatch
      exact ⟨rfl, [], rfl, rfl⟩
  | succ n ih =>
      rw [Memory.load_succ] at hText ⊢
      have hHead : mklower 0 ≠ mklower (buf cp) := by
        intro hZero
        exact hText _ List.mem_cons_self
          ((mklower_eq_zero_iff _).mp hZero.symm)
      have hRest : CString.IsText (buf.load (cp + 1) n) :=
        fun b hB => hText b (List.mem_cons_of_mem _ hB)
      unfold matchLabel at hMatch
      dsimp only at hMatch
      cases dn with
      | nil =>
          change (if 0 = fullStop then none else _) = _ at hMatch
          rw [if_neg (by decide)] at hMatch
          change (if mklower 0 ≠ mklower (buf cp) then none
            else _) = _ at hMatch
          rw [if_pos hHead] at hMatch
          cases hMatch
      | cons c s =>
          rw [List.headD_cons, List.tail_cons] at hMatch
          by_cases hStop : c = fullStop
          · rw [if_pos hStop] at hMatch
            cases hMatch
          rw [if_neg hStop] at hMatch
          by_cases hEscape : c = escapeSign
          · rw [if_pos hEscape] at hMatch
            cases s with
            | nil =>
                change (if mklower 0 ≠ mklower (buf cp) then
                  none else _) = _ at hMatch
                rw [if_pos hHead] at hMatch
                cases hMatch
            | cons d s =>
                rw [List.headD_cons, List.tail_cons] at hMatch
                split at hMatch
                · cases hMatch
                · rename_i hSame
                  rcases ih hRest hMatch with ⟨hCp, w, hW, hField⟩
                  refine ⟨by omega, d :: w, ?_, ?_⟩
                  · rw [List.map_cons, List.map_cons, hW,
                      not_not.mp hSame]
                  · rw [hEscape, field_escape, hField]
                    rfl
          · rw [if_neg hEscape, List.headD_cons,
              List.tail_cons] at hMatch
            split at hMatch
            · cases hMatch
            · rename_i hSame
              rcases ih hRest hMatch with ⟨hCp, w, hW, hField⟩
              refine ⟨by omega, c :: w, ?_, ?_⟩
              · rw [List.map_cons, List.map_cons, hW,
                  not_not.mp hSame]
              · rw [field_plain hStop hEscape, hField]
                rfl

/-
  A name of the list is gone through to its end, and it is
  found only when it has the labels of the text.
-/
theorem dnFindName_spec
    {buf : Memory UInt8}
    {floor base off size seen steps turns : Nat}
    {ls : List Bytes}
    {dn : Bytes}
    (hChain : Chain (readLink buf) floor base off ls size seen
      steps)
    (hLabels : ∀ l ∈ ls, IsLabel l)
    (hTurns : steps ≤ turns) :
    dnFindName buf turns off dn = some .next ∨
      (dnFindName buf turns off dn = some .here ∧
        SameLabels (fields dn) ls) := by
  induction hChain generalizing turns dn with
  | @stop base off n hRead =>
      rcases Nat.exists_eq_add_of_le'
          (Nat.one_le_of_lt hTurns) with ⟨turns, rfl⟩
      rcases readLink_cases hRead with
        ⟨hStop, -⟩ | ⟨-, -, hLink⟩ | ⟨-, hLink⟩
      · unfold dnFindName
        dsimp only
        rw [if_pos hStop]
        by_cases hEnd : dn = []
        · rw [if_pos hEnd, hEnd]
          right
          refine ⟨rfl, ?_⟩
          rw [fields, Escaped.fields_nil]
          rfl
        · rw [if_neg hEnd]
          exact .inl rfl
      · cases hLink
      · cases hLink
  | @item base off n size seen steps x xs hRead hRest ih =>
      rcases Nat.exists_eq_add_of_le' (Nat.le_trans
          (Nat.le_add_left 1 steps) hTurns) with ⟨turns, rfl⟩
      rcases readLink_cases hRead with
        ⟨-, hLink⟩ | ⟨hSome, hLabel, hLink⟩ | ⟨-, hLink⟩
      · cases hLink
      · cases hLink
        have hFirst := hLabels _ List.mem_cons_self
        have hPlace : off + ((buf off).toNat + 1) =
            off + 1 + (buf off).toNat := by omega
        rw [hPlace] at hRest ih
        unfold dnFindName
        dsimp only
        rw [if_neg hSome, if_pos hLabel]
        cases hMatch : matchLabel buf (buf off).toNat
            (off + 1) dn with
        | none => exact .inl rfl
        | some at_ =>
            rcases at_ with ⟨cp', dn'⟩
            rcases matchLabel_spec hFirst.2.2 hMatch with
              ⟨rfl, w, hW, hField⟩
            have hSome : dn ≠ [] := by
              rintro rfl
              have hNone : w = [] :=
                (List.append_eq_nil_iff.mp
                  (congrArg Prod.fst hField).symm).1
              rw [hNone] at hW
              exact hFirst.1 (List.map_eq_nil_iff.mp hW.symm)
            have hSame : ∀ rest,
                field dn = (w, rest) →
                SameLabels (fields rest) xs →
                SameLabels (fields dn)
                  (buf.load (off + 1) (buf off).toNat :: xs) := by
              intro rest hHere hRest
              rw [fields_of_ne hSome, hHere]
              unfold SameLabels at hRest ⊢
              rw [List.map_cons, List.map_cons, hW, hRest]
            cases dn' with
            | nil =>
                dsimp only
                by_cases hZero :
                    buf (off + 1 + (buf off).toNat) = 0
                · rw [if_pos hZero]
                  right
                  refine ⟨rfl, hSame [] ?_ ?_⟩
                  · rw [hField]
                    exact congrArg (·, []) (List.append_nil w)
                  · rw [(Placed.of_zero hRest hZero).1, fields,
                      Escaped.fields_nil]
                    rfl
                · rw [if_neg hZero]
                  exact .inl rfl
            | cons c dn' =>
                dsimp only
                by_cases hStop : c = fullStop
                · have hHere : field dn = (w, dn') := by
                    rw [hField, hStop, field, Escaped.field_sep]
                    exact congrArg (·, dn') (List.append_nil w)
                  rw [if_pos hStop]
                  rcases @ih _ dn' (fun l hL =>
                    hLabels l (List.mem_cons_of_mem _ hL))
                    (Nat.le_of_succ_le_succ hTurns) with
                    hNext | ⟨hFound, hRest⟩
                  · exact .inl hNext
                  · exact .inr ⟨hFound, hSame dn' hHere hRest⟩
                · rw [if_neg hStop]
                  exact .inl rfl
      · cases hLink
  | @back base base' off n target size seen steps xs hRead
      hLow hTarget hBelow hRest ih =>
      rcases Nat.exists_eq_add_of_le' (Nat.le_trans
          (Nat.le_add_left 1 steps) hTurns) with ⟨turns, rfl⟩
      rcases readLink_cases hRead with
        ⟨-, hLink⟩ | ⟨-, -, hLink⟩ | ⟨hPointer, hLink⟩
      · cases hLink
      · cases hLink
      · cases hLink
        unfold dnFindName
        dsimp only
        rw [if_neg (by omega), if_neg (by omega),
          if_pos hPointer]
        exact ih hLabels (by omega)

/- A name that lies between the floor and a limit. -/
def Known
    (buf : Memory UInt8)
    (floor limit p : Nat)
    (ls : List Bytes) : Prop :=
  ∃ base size, Placed buf floor base p ls size ∧
    floor ≤ base ∧ base ≤ p ∧ p + size ≤ limit

theorem Known.congr
    {buf buf' : Memory UInt8}
    {floor limit p : Nat}
    {ls : List Bytes}
    (hKnown : Known buf floor limit p ls)
    (hSame : ∀ b, floor ≤ b → b < limit → buf' b = buf b) :
    Known buf' floor limit p ls := by
  rcases hKnown with ⟨base, size, hPlaced, hFloor, hBase, hLimit⟩
  refine ⟨base, size, hPlaced.congr hFloor hBase ?_, hFloor,
    hBase, hLimit⟩
  exact fun b hLow hB =>
    hSame b hLow (Nat.lt_of_lt_of_le hB hLimit)

/- The pointers of a list lead to names. -/
def KnownNames
    (buf : Memory UInt8)
    (floor limit : Nat)
    (names : List Nat) : Prop :=
  ∀ p ∈ names, ∃ ls, Known buf floor limit p ls

/- How far a pointer in a message reaches. -/
def pointerReach : Nat := 16384

/-
  A search among names comes back, and what it finds is the
  rest of the name.
-/
theorem dnFind_spec
    {buf : Memory UInt8}
    {floor limit : Nat}
    {names : List Nat}
    {dn : Bytes}
    (hNames : KnownNames buf floor limit names)
    (hReach : limit ≤ pointerReach) :
    ∃ found, dnFind buf dn names = some found ∧
      ∀ l, found = some l →
        ∃ ls, Known buf floor limit l ls ∧
          SameLabels (fields dn) ls := by
  induction names with
  | nil => exact ⟨none, rfl, fun l hL => nomatch hL⟩
  | cons p names ih =>
      rcases hNames p List.mem_cons_self with
        ⟨ls, base, size, hPlaced, hFloor, hBase, hLimit⟩
      rcases hPlaced with ⟨⟨seen, steps, hChain⟩, hLabels⟩
      have hSteps : steps ≤ findTurns dn := by
        have hSeen := hChain.seen_le
        have hLess := hChain.steps_le readLink_size
        unfold pointerReach at hReach
        unfold findTurns
        omega
      unfold dnFind
      rcases dnFindName_spec hChain hLabels hSteps with
        hNext | ⟨hHere, hSame⟩
      · rw [hNext]
        exact ih fun q hQ => hNames q (List.mem_cons_of_mem _ hQ)
      · rw [hHere]
        refine ⟨some p, rfl, ?_⟩
        intro l hL
        cases hL
        exact ⟨ls, ⟨base, size,
          ⟨⟨seen, steps, hChain⟩, hLabels⟩, hFloor, hBase,
          hLimit⟩,
          hSame⟩

end Libsocket
