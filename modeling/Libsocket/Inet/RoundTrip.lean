import Libsocket.Inet.Placed

/-
  Names that `dn_comp` put into a message are the ones that
  `dn_expand` finds there, whatever was put in behind them.

  Main declarations:
    * `dnExpand_placed`
    * `Part`, `Draft.put`, `Draft.putAll`
    * `names_read_back`, `dnComp_reached`
-/

namespace Libsocket

------------------------------------------------------------
-- Reading A Name That Is There
------------------------------------------------------------

/- A label as it stands in a text. -/
abbrev quote : Bytes → Bytes :=
  Escaped.quote fullStop escapeSign

theorem length_le_quote (l : Bytes) :
    l.length ≤ (quote l).length :=
  Escaped.length_le_quote l

theorem quote_cons
    (c : UInt8)
    (l : Bytes) :
    quote (c :: l) =
      (if c = fullStop ∨ c = escapeSign then
        [escapeSign, c]
      else
        [c]) ++ quote l := rfl

/- A name as a text. -/
abbrev nameText : List Bytes → Bytes :=
  Escaped.join fullStop escapeSign

/- With room for all of it, a label is copied. -/
theorem copyLabel_load
    {p : Packet}
    {length : Int}
    {n cp : Nat}
    {dn : Bytes}
    (hInside : cp + n < p.anslen)
    (hRoom : ((dn ++ quote (Memory.load p.buf cp n)).length :
      Int) < length) :
    copyLabel p length n cp dn =
      .ok (cp + n, dn ++ quote (Memory.load p.buf cp n)) := by
  induction n generalizing cp dn with
  | zero =>
      rw [Memory.load]
      simp [copyLabel]
  | succ n ih =>
      rw [Memory.load_succ, quote_cons] at hRoom ⊢
      have hRest :=
        length_le_quote (Memory.load p.buf (cp + 1) n)
      rw [Memory.length_load] at hRest
      unfold copyLabel
      dsimp only
      by_cases hMark :
          p.buf cp = fullStop ∨ p.buf cp = escapeSign
      · rw [if_pos hMark] at hRoom ⊢
        have hHere : ¬ length ≤ (dn.length + n + 2 : Nat) := by
          simp only [List.length_append, List.length_cons,
            List.length_nil] at hRoom
          omega
        rw [if_neg fun hBoth => hHere hBoth.2, if_pos hMark,
          if_neg (by omega)]
        rw [← List.append_assoc] at hRoom ⊢
        rw [ih (by omega) hRoom]
        congr 2
        omega
      · rw [if_neg hMark] at hRoom ⊢
        rw [if_neg fun hBoth => hMark hBoth.1, if_neg hMark,
          if_neg (by omega)]
        rw [← List.append_assoc] at hRoom ⊢
        rw [ih (by omega) hRoom]
        congr 2
        omega

/- Labels are put behind a name that was begun. -/
def extend (dn : Bytes) (ls : List Bytes) : Bytes :=
  ls.foldl (fun dn l =>
    (if dn ≠ [] then dn ++ [fullStop] else dn) ++ quote l) dn

theorem extend_of_ne
    {dn : Bytes}
    {ls : List Bytes}
    (hSome : dn ≠ []) :
    extend dn ls =
      if ls = [] then dn else dn ++ fullStop :: nameText ls := by
  induction ls generalizing dn with
  | nil => rfl
  | cons l ls ih =>
      unfold extend
      rw [List.foldl_cons, if_pos hSome,
        if_neg (List.cons_ne_nil _ _)]
      change extend _ ls = _
      rw [ih (by simp)]
      cases ls with
      | nil => simp [nameText, Escaped.join]
      | cons k ls => simp [nameText, Escaped.join]

/- From the start on it is the text of the labels. -/
theorem extend_nil
    {ls : List Bytes}
    (hLabels : ∀ l ∈ ls, l ≠ []) :
    extend [] ls = nameText ls := by
  cases ls with
  | nil => rfl
  | cons l ls =>
      have hSome : quote l ≠ [] := fun hNone =>
        hLabels l List.mem_cons_self
          ((Escaped.quote_eq_nil_iff l).mp hNone)
      unfold extend
      rw [List.foldl_cons, if_neg (not_not.mpr rfl),
        List.nil_append]
      change extend (quote l) ls = _
      rw [extend_of_ne hSome]
      cases ls with
      | nil => rfl
      | cons k ls => rfl

theorem length_le_extend
    (dn : Bytes)
    (ls : List Bytes) :
    dn.length ≤ (extend dn ls).length := by
  induction ls generalizing dn with
  | nil => exact Nat.le_refl _
  | cons l ls ih =>
      refine Nat.le_trans ?_ (ih _)
      rw [List.length_append]
      split
      · rw [List.length_append]
        omega
      · omega

/- The labels of a name that is there are gone through. -/
theorem labels_of_chain
    {p : Packet}
    {length : Int}
    {comp floor base off size seen steps checked : Nat}
    {len : Option Nat}
    {ls : List Bytes}
    {dn : Bytes}
    (hChain : Chain (readLink p.buf) floor base off ls size
      seen steps)
    (hBudget : checked + seen ≤ p.anslen)
    (hBase : base ≤ off)
    (hInside : off + size ≤ p.anslen)
    (hRoom : dn = [] ∧ ls = [] ∨
      ((extend dn ls).length : Int) < length) :
    labels p length comp off checked len dn =
      .ok (extend dn ls, len.getD (off + size - comp)) := by
  induction hChain generalizing checked len dn with
  | @stop base off n hRead =>
      rcases readLink_cases hRead with
        ⟨hStop, hLink⟩ | ⟨-, -, hLink⟩ | ⟨-, hLink⟩
      · cases hLink
        unfold labels
        dsimp only
        rw [dif_pos hStop]
        rfl
      · cases hLink
      · cases hLink
  | @item base off n size seen steps x xs hRead hRest ih =>
      rcases readLink_cases hRead with
        ⟨-, hLink⟩ | ⟨hSome, hLabel, hLink⟩ | ⟨-, hLink⟩
      · cases hLink
      · cases hLink
        have hSize := hRest.size_pos readLink_size
        have hExtend := hRoom.resolve_left fun hBoth =>
          List.cons_ne_nil _ _ hBoth.2
        have hDn := length_le_extend dn
          (Memory.load p.buf (off + 1) (p.buf off).toNat :: xs)
        have hLength := length_le_quote
          (Memory.load p.buf (off + 1) (p.buf off).toNat)
        rw [Memory.length_load] at hLength
        generalize hDots :
          (if dn ≠ [] then dn ++ [fullStop] else dn) = dots
        have hStep : extend dn (Memory.load p.buf (off + 1)
            (p.buf off).toNat :: xs) =
              extend (dots ++ quote (Memory.load p.buf (off + 1)
                (p.buf off).toNat)) xs := by
          rw [← hDots]
          rfl
        rw [hStep] at hExtend hDn ⊢
        have hFirst := length_le_extend
          (dots ++ quote (Memory.load p.buf (off + 1)
            (p.buf off).toNat)) xs
        rw [List.length_append] at hFirst
        have hCopy := @copyLabel_load p length
          (p.buf off).toNat (off + 1) dots (by omega)
          (by rw [List.length_append]; omega)
        unfold labels
        dsimp only
        rw [dif_neg hSome, if_pos hLabel,
          if_neg (fun hBoth => by omega), hDots,
          if_neg (by omega)]
        split
        · rename_i hError
          rw [hCopy] at hError
          cases hError
        · rename_i hOk
          rw [hCopy] at hOk
          cases hOk
          have hPlace : off + ((p.buf off).toNat + 1) =
              off + 1 + (p.buf off).toNat := by omega
          rw [hPlace] at ih
          rw [ih (by omega) (by omega) (by omega)
            (.inr hExtend)]
          congr 3
          omega
      · cases hLink
  | @back base base' off n target size seen steps xs hRead
      hLow hTarget hBelow hRest ih =>
      rcases readLink_cases hRead with
        ⟨-, hLink⟩ | ⟨-, -, hLink⟩ | ⟨hPointer, hLink⟩
      · cases hLink
      · cases hLink
      · cases hLink
        have hSeen : 0 < seen := Nat.lt_of_lt_of_le
          hRest.steps_pos (hRest.steps_le readLink_size)
        have hSize := hRest.size_pos readLink_size
        unfold labels
        dsimp only
        rw [dif_neg (by omega), if_neg (by omega),
          if_pos hPointer, if_neg (by omega),
          dif_neg (by omega)]
        rw [ih (by omega) hTarget (by omega) hRoom]
        rfl

/- The text of a name that is there comes out, and its size. -/
theorem dnExpand_placed
    {p : Packet}
    {length : Int}
    {floor base off size : Nat}
    {ls : List Bytes}
    (hPlaced : Placed p.buf floor base off ls size)
    (hBase : base ≤ off)
    (hInside : off + size ≤ p.anslen)
    (hRoom : ((nameText ls).length : Int) < length)
    (hSpace : ∀ c ∈ nameText ls, isSpace c = false) :
    dnExpand p off length =
      ⟨some (nameText ls, size), (nameText ls).length + 1⟩ := by
  rcases hPlaced with ⟨⟨seen, steps, hChain⟩, hLabels⟩
  have hExtend : extend [] ls = nameText ls :=
    extend_nil fun l hL => (hLabels l hL).1
  have hSeen := hChain.seen_le
  have hRun := @labels_of_chain p length off floor base off size
    seen steps 0 none ls [] hChain (by omega) hBase hInside
    (.inr (hExtend.symm ▸ hRoom))
  rw [hExtend] at hRun
  have hText : (nameText ls).takeWhile (· ≠ 0) =
      nameText ls := by
    rw [List.takeWhile_eq_self_iff]
    intro c hC
    apply decide_eq_true
    rcases Escaped.mem_join hC with rfl | rfl | ⟨l, hL, hIn⟩
    · decide
    · decide
    · exact (hLabels l hL).2.2 c hIn
  have hNone : ¬ ((nameText ls).any fun c =>
      isAscii c && isSpace c) = true := by
    rw [List.any_eq_true]
    rintro ⟨c, hC, hBoth⟩
    rw [hSpace c hC, Bool.and_false] at hBoth
    cases hBoth
  have hSize : (none : Option Nat).getD (off + size - off) =
      size := Nat.add_sub_cancel_left off size
  unfold dnExpand
  rw [hRun, hSize]
  dsimp only
  rw [hText, if_neg hNone]

------------------------------------------------------------
-- Messages With Many Names
------------------------------------------------------------

/-
  What is put into a message: a name, with so much room for
  it, or some bytes; or bytes of the header are set.
-/
inductive Part where
| name (text : Bytes) (length : Int)
| bytes (s : Bytes)
| header (off : Nat) (s : Bytes)

/- The names are C strings. -/
def Part.IsText : Part → Prop
| .name text _ => CString.IsText text
| .bytes _ => True
| .header _ _ => True

/- A message as far as it is written, behind its header. -/
structure Draft where
  floor : Nat
  buf : Memory UInt8
  size : Nat
  list : Option NameList
  behind : floor ≤ size

/- A part is put behind what is written. -/
def Draft.put (d : Draft) : Part → Option Draft
| .name text length =>
    match dnComp text d.size length d.list d.buf with
    | some ⟨some n, buf, list⟩ =>
        some ⟨d.floor, buf, d.size + n, list,
          Nat.le_add_right_of_le d.behind⟩
    | _ => none
| .bytes s =>
    some ⟨d.floor, d.buf.store d.size s, d.size + s.length,
      d.list, Nat.le_add_right_of_le d.behind⟩
| .header off s =>
    if off + s.length ≤ d.floor then
      some { d with buf := d.buf.store off s }
    else
      none

def Draft.putAll (d : Draft) : List Part → Option Draft
| [] => some d
| part :: parts =>
    match d.put part with
    | none => none
    | some d => d.putAll parts

theorem Draft.putAll_cons
    {d d' : Draft}
    {part : Part}
    (hPut : d.put part = some d')
    (parts : List Part) :
    d.putAll (part :: parts) = d'.putAll parts := by
  unfold Draft.putAll
  rw [hPut]
  cases parts with
  | nil => rfl
  | cons _ _ => rfl

theorem Draft.put_header
    {d : Draft}
    {off : Nat}
    {s : Bytes}
    (hInside : off + s.length ≤ d.floor) :
    d.put (.header off s) =
      some { d with buf := d.buf.store off s } := by
  unfold Draft.put
  dsimp only
  rw [if_pos hInside]

/- The list of a draft leads to names in it. -/
def Draft.Listed (d : Draft) : Prop :=
  ∀ t, d.list = some t → KnownNames d.buf d.floor d.size t.names

/- A draft goes on from another, but for its header. -/
structure Draft.Continues (d d' : Draft) : Prop where
  floor : d'.floor = d.floor
  size : d.size ≤ d'.size
  same : ∀ b, d.floor ≤ b → b < d.size → d'.buf b = d.buf b

theorem Draft.put_size
    {d d' : Draft}
    {part : Part}
    (hPut : d.put part = some d') :
    d.size ≤ d'.size := by
  unfold Draft.put at hPut
  split at hPut
  · split at hPut
    · cases hPut
      exact Nat.le_add_right _ _
    · cases hPut
  · cases hPut
    exact Nat.le_add_right _ _
  · split at hPut
    · cases hPut
      exact Nat.le_refl _
    · cases hPut

theorem Draft.putAll_size
    {d d' : Draft}
    {parts : List Part}
    (hRun : d.putAll parts = some d') :
    d.size ≤ d'.size := by
  induction parts generalizing d with
  | nil =>
      cases hRun
      exact Nat.le_refl _
  | cons part parts ih =>
      unfold Draft.putAll at hRun
      split at hRun
      · cases hRun
      · rename_i hPut
        exact Nat.le_trans (Draft.put_size hPut) (ih hRun)

theorem Draft.Continues.refl (d : Draft) : d.Continues d :=
  ⟨rfl, Nat.le_refl _, fun _ _ _ => rfl⟩

theorem Draft.Continues.trans
    {d₁ d₂ d₃ : Draft}
    (hFirst : d₁.Continues d₂)
    (hSecond : d₂.Continues d₃) :
    d₁.Continues d₃ := by
  refine ⟨hSecond.floor.trans hFirst.floor,
    Nat.le_trans hFirst.size hSecond.size, fun b hLow hB => ?_⟩
  have hSecondLow : d₂.floor ≤ b := by
    rw [hFirst.floor]
    exact hLow
  rw [hSecond.same b hSecondLow
    (Nat.lt_of_lt_of_le hB hFirst.size), hFirst.same b hLow hB]

theorem KnownNames.continues
    {d d' : Draft}
    {names : List Nat}
    (hKnown : KnownNames d.buf d.floor d.size names)
    (hContinues : d.Continues d') :
    KnownNames d'.buf d'.floor d'.size names := by
  intro p hP
  rcases hKnown p hP with ⟨ls, hThere⟩
  rcases hThere.congr hContinues.same with
    ⟨base, size, hPlaced, hFloor, hBase, hLimit⟩
  rw [hContinues.floor]
  exact ⟨ls, base, size, hPlaced, hFloor, hBase,
    Nat.le_trans hLimit hContinues.size⟩

/- The name of a text lies behind a draft. -/
def Draft.Holds
    (d d' : Draft)
    (text : Bytes) : Prop :=
  ∃ ns ls, nameLabels text = some ns ∧ SameLabels ns ls ∧
    Placed d'.buf d.floor d.size d.size ls (d'.size - d.size)

/- A name is put in, and the list still leads to names. -/
theorem Draft.put_name
    {d d' : Draft}
    {text : Bytes}
    {length : Int}
    (hText : CString.IsText text)
    (hListed : d.Listed)
    (hReach : d.size ≤ pointerReach)
    (hPut : d.put (.name text length) = some d') :
    d'.Listed ∧ d.Continues d' ∧ d.Holds d' text := by
  rcases @dnComp_spec text d.floor d.size length d.list d.buf
      hText hListed hReach with ⟨out, hRun, hSame, hPuts, -⟩
  unfold Draft.put at hPut
  dsimp only at hPut
  rw [hRun] at hPut
  split at hPut
  · rename_i n buf list hOut
    cases hOut
    cases hPut
    rcases hPuts n rfl with
      ⟨hFits, hForth, ⟨ns, ls, hNames, hLabels, hPlaced⟩, hAdded⟩
    have hContinues : d.Continues ⟨d.floor, buf, d.size + n,
        list, Nat.le_add_right_of_le d.behind⟩ :=
      ⟨rfl, Nat.le_add_right _ _,
        fun b _ hB => hSame b (.inl hB)⟩
    refine ⟨?_, hContinues, ns, ls, hNames, hLabels, hPlaced⟩
    intro t hT p hP
    rcases hAdded t hT with ⟨t₀, hList, hMem⟩
    rcases hMem p hP with hOld | ⟨hAbove, hBelow, ks, hThere⟩
    · exact (hListed t₀ hList).continues hContinues p hOld
    · exact ⟨ks, d.size, d.size + n - p, hThere, d.behind,
        hAbove, by dsimp only; omega⟩
  · cases hPut

/- Whatever is put in, what was there stays there. -/
theorem Draft.put_keeps
    {d d' : Draft}
    {part : Part}
    (hText : part.IsText)
    (hListed : d.Listed)
    (hReach : d.size ≤ pointerReach)
    (hPut : d.put part = some d') :
    d'.Listed ∧ d.Continues d' := by
  cases part with
  | name text length =>
      rcases Draft.put_name hText hListed hReach hPut with
        ⟨hKeeps, hContinues, -⟩
      exact ⟨hKeeps, hContinues⟩
  | bytes s =>
      unfold Draft.put at hPut
      cases hPut
      have hContinues : d.Continues ⟨d.floor,
          d.buf.store d.size s, d.size + s.length, d.list,
          Nat.le_add_right_of_le d.behind⟩ :=
        ⟨rfl, Nat.le_add_right _ _, fun b _ hB =>
          Memory.store_outside (.inl hB)⟩
      exact ⟨fun t hT => (hListed t hT).continues hContinues,
        hContinues⟩
  | header off s =>
      unfold Draft.put at hPut
      dsimp only at hPut
      split at hPut
      · rename_i hInside
        cases hPut
        have hContinues : d.Continues
            { d with buf := d.buf.store off s } :=
          ⟨rfl, Nat.le_refl _, fun b hLow _ =>
            Memory.store_outside (.inr (by omega))⟩
        exact ⟨fun t hT => (hListed t hT).continues hContinues,
          hContinues⟩
      · cases hPut

theorem Draft.putAll_keeps
    {d d' : Draft}
    {parts : List Part}
    (hTexts : ∀ part ∈ parts, part.IsText)
    (hListed : d.Listed)
    (hRun : d.putAll parts = some d')
    (hReach : d'.size ≤ pointerReach) :
    d'.Listed ∧ d.Continues d' := by
  induction parts generalizing d with
  | nil =>
      cases hRun
      exact ⟨hListed, Draft.Continues.refl _⟩
  | cons part parts ih =>
      unfold Draft.putAll at hRun
      split at hRun
      · cases hRun
      · rename_i d₁ hPut
        have hSizes := Draft.putAll_size hRun
        have hSize := Draft.put_size hPut
        rcases Draft.put_keeps
            (hTexts part List.mem_cons_self) hListed (by omega)
            hPut with ⟨hListed₁, hFirst⟩
        rcases ih
            (fun p hP => hTexts p (List.mem_cons_of_mem _ hP))
            hListed₁ hRun with ⟨hListed', hRest⟩
        exact ⟨hListed', hFirst.trans hRest⟩

/- A part that does not set this byte of the header. -/
def Part.Spares (b : Nat) : Part → Prop
| .name _ _ => True
| .bytes _ => True
| .header off s => b < off ∨ off + s.length ≤ b

theorem Draft.put_spares
    {d d' : Draft}
    {part : Part}
    {b : Nat}
    (hText : part.IsText)
    (hListed : d.Listed)
    (hReach : d.size ≤ pointerReach)
    (hPut : d.put part = some d')
    (hSpares : part.Spares b)
    (hHeader : b < d.floor) :
    d'.buf b = d.buf b := by
  have hBehind := d.behind
  cases part with
  | name text length =>
      rcases @dnComp_spec text d.floor d.size length d.list d.buf
          hText hListed hReach with ⟨out, hRun, hSame, -⟩
      unfold Draft.put at hPut
      dsimp only at hPut
      rw [hRun] at hPut
      split at hPut
      · rename_i n buf list hOut
        cases hOut
        cases hPut
        exact hSame b (.inl (by omega))
      · cases hPut
  | bytes s =>
      unfold Draft.put at hPut
      cases hPut
      exact Memory.store_outside (.inl (by omega))
  | header off s =>
      unfold Draft.put at hPut
      dsimp only at hPut
      split at hPut
      · cases hPut
        exact Memory.store_outside hSpares
      · cases hPut

/- What no part sets of the header stays as it is. -/
theorem Draft.putAll_spares
    {d d' : Draft}
    {parts : List Part}
    {b : Nat}
    (hTexts : ∀ part ∈ parts, part.IsText)
    (hListed : d.Listed)
    (hRun : d.putAll parts = some d')
    (hReach : d'.size ≤ pointerReach)
    (hSpares : ∀ part ∈ parts, part.Spares b)
    (hHeader : b < d.floor) :
    d'.buf b = d.buf b := by
  induction parts generalizing d with
  | nil =>
      cases hRun
      rfl
  | cons part parts ih =>
      unfold Draft.putAll at hRun
      split at hRun
      · cases hRun
      · rename_i d₁ hPut
        have hSizes := Draft.putAll_size hRun
        have hSize := Draft.put_size hPut
        have hText := hTexts part List.mem_cons_self
        rcases Draft.put_keeps hText
            hListed (by omega) hPut with ⟨hListed₁, hFirst⟩
        have hHere := Draft.put_spares hText hListed (by omega)
          hPut (hSpares part List.mem_cons_self) hHeader
        rw [← hHere]
        apply ih
          (fun p hP => hTexts p (List.mem_cons_of_mem _ hP))
          hListed₁ hRun
          (fun p hP => hSpares p (List.mem_cons_of_mem _ hP))
        rw [hFirst.floor]
        exact hHeader

/- The characters of the labels are the text's. -/
theorem mem_nameLabels
    {dn : Bytes}
    {ns : List Bytes}
    {l : Bytes}
    {c : UInt8}
    (hNames : nameLabels dn = some ns)
    (hL : l ∈ ns)
    (hC : c ∈ l) :
    c ∈ dn := by
  fun_induction nameLabels dn generalizing ns with
  | case1 =>
      cases hNames
      cases hL
  | case2 =>
      cases hNames
      cases hL
  | case3 => cases hNames
  | case4 dn hSome hNot hGood ih =>
      rcases Option.map_eq_some_iff.mp hNames with
        ⟨ls, hRest, rfl⟩
      rcases List.mem_cons.mp hL with rfl | hTail
      · exact Escaped.mem_of_mem_field (.inl hC)
      · exact Escaped.mem_of_mem_field
          (.inr (ih hRest hTail))

theorem SameLabels.nameText
    {ns ls : List Bytes}
    (hSame : SameLabels ns ls) :
    (nameText ns).map mklower = (nameText ls).map mklower := by
  unfold SameLabels at hSame
  rw [← Escaped.join_map mklower_keepsSigns,
    ← Escaped.join_map mklower_keepsSigns, hSame]

/- Without white space in a name there is none in its like. -/
theorem SameLabels.noSpace
    {dn : Bytes}
    {ns ls : List Bytes}
    (hNames : nameLabels dn = some ns)
    (hSame : SameLabels ns ls)
    (hSpace : ∀ c ∈ dn, isSpace c = false) :
    ∀ c ∈ Libsocket.nameText ls, isSpace c = false := by
  intro c hC
  have hMem := List.mem_map_of_mem (f := mklower) hC
  rw [← hSame.nameText] at hMem
  rcases List.mem_map.mp hMem with ⟨d, hD, hLower⟩
  rw [← isSpace_mklower, ← hLower, isSpace_mklower]
  rcases Escaped.mem_join hD with rfl | rfl | ⟨l, hL, hIn⟩
  · rfl
  · rfl
  · exact hSpace d (mem_nameLabels hNames hL hIn)

/-
  A name that lies behind a draft is found there, however the
  message goes on.
-/
theorem Draft.Holds.expands
    {d d₁ d₂ : Draft}
    {text : Bytes}
    {anslen : Nat}
    (hHolds : d.Holds d₁ text)
    (hName : d.Continues d₁)
    (hBehind : d₁.Continues d₂)
    (hSpace : ∀ c ∈ text, isSpace c = false)
    (hAnslen : d₂.size ≤ anslen) :
    ∃ ns, nameLabels text = some ns ∧
      ∀ length : Int, (nameText ns).length < length →
        ∃ t, (dnExpand ⟨d₂.buf, anslen⟩ d.size length).result =
            some (t, d₁.size - d.size) ∧
          t.map mklower = (nameText ns).map mklower := by
  rcases hHolds with ⟨ns, ls, hNames, hSame, hPlaced⟩
  have hSize := hName.size
  have hSizes := hBehind.size
  have hThere : Placed d₂.buf d.floor d.size d.size ls
      (d₁.size - d.size) := by
    apply hPlaced.congr d.behind (Nat.le_refl _)
    intro b hLow hB
    rw [← hName.floor] at hLow
    exact hBehind.same b hLow (by omega)
  refine ⟨ns, hNames, fun length hLength => ?_⟩
  have hSameLength := congrArg List.length hSame.nameText
  rw [List.length_map, List.length_map] at hSameLength
  have hExpand := @dnExpand_placed ⟨d₂.buf, anslen⟩ length
    d.floor d.size d.size (d₁.size - d.size) ls hThere
    (Nat.le_refl _) (by dsimp only; omega) (by omega)
    (hSame.noSpace hNames hSpace)
  exact ⟨nameText ls, by rw [hExpand], hSame.nameText.symm⟩

/-
  In a message that names and bytes are put into one behind
  the other, and whose header changes, `dn_expand` finds
  every name where it was put, up to the case of its
  letters, with the size that `dn_comp`
  returned, in whatever room its text fits.
-/
theorem names_read_back
    {d d₁ d₂ d₃ : Draft}
    {before behind : List Part}
    {text : Bytes}
    {room : Int}
    {anslen : Nat}
    (hFresh : ∀ t, d.list = some t → t.names = [])
    (hTexts : ∀ part ∈ before ++ .name text room :: behind,
      part.IsText)
    (hBefore : d.putAll before = some d₁)
    (hName : d₁.put (.name text room) = some d₂)
    (hBehind : d₂.putAll behind = some d₃)
    (hReach : d₃.size ≤ pointerReach)
    (hSpace : ∀ c ∈ text, isSpace c = false)
    (hAnslen : d₃.size ≤ anslen) :
    ∃ ns, nameLabels text = some ns ∧
      ∀ length : Int, (nameText ns).length < length →
        ∃ t, (dnExpand ⟨d₃.buf, anslen⟩ d₁.size length).result =
            some (t, d₂.size - d₁.size) ∧
          t.map mklower = (nameText ns).map mklower := by
  have hSizes := Draft.putAll_size hBehind
  have hSize := Draft.put_size hName
  have hListed : d.Listed := by
    intro t hT p hP
    rw [hFresh t hT] at hP
    cases hP
  rcases Draft.putAll_keeps
      (fun p hP => hTexts p (List.mem_append_left _ hP))
      hListed hBefore (by omega) with ⟨hListed₁, -⟩
  have hText : CString.IsText text := hTexts (.name text room)
    (List.mem_append_right _ List.mem_cons_self)
  rcases Draft.put_name hText hListed₁ (by omega) hName with
    ⟨hListed₂, hFirst, hHolds⟩
  rcases Draft.putAll_keeps
      (fun p hP => hTexts p (List.mem_append_right _
        (List.mem_cons_of_mem _ hP)))
      hListed₂ hBehind hReach with ⟨-, hContinues⟩
  exact hHolds.expands hFirst hContinues hSpace hAnslen

/- A draft with a header of zeros and no name. -/
def freshDraft : Draft :=
  ⟨12, fun _ => 0, 12, some ⟨[], some 19⟩, Nat.le_refl 12⟩

/- "c.B" points to the end of "a.b", and "x.C.b" to it. -/
theorem names_read_back_pointers :
    ∃ d₁ d₂ d₃ : Draft,
      freshDraft.putAll
        [.name [97, 46, 98] 500, .bytes [0, 1]] = some d₁ ∧
      d₁.put (.name [99, 46, 66] 400) = some d₂ ∧
      d₂.putAll [.name [120, 46, 67, 46, 98] 50,
        .header 5 [3]] = some d₃ ∧
      ∃ ns, nameLabels [99, 46, 66] = some ns ∧
        ∀ length : Int, (nameText ns).length < length →
          ∃ t, (dnExpand ⟨d₃.buf, 512⟩ d₁.size length).result =
              some (t, d₂.size - d₁.size) ∧
            t.map mklower = (nameText ns).map mklower := by
  rcases Option.isSome_iff_exists.mp
      (by decide +kernel : (freshDraft.putAll
        [.name [97, 46, 98] 500, .bytes [0, 1]]).isSome = true)
    with ⟨d₁, hFirst⟩
  have hSecond : ((freshDraft.putAll
      [.name [97, 46, 98] 500, .bytes [0, 1]]).bind fun d =>
        d.put (.name [99, 46, 66] 400)).isSome = true := by
    decide +kernel
  rw [hFirst, Option.bind_some] at hSecond
  rcases Option.isSome_iff_exists.mp hSecond with ⟨d₂, hSecond⟩
  have hThird : (((freshDraft.putAll
      [.name [97, 46, 98] 500, .bytes [0, 1]]).bind fun d =>
        d.put (.name [99, 46, 66] 400)).bind fun d =>
          d.putAll [.name [120, 46, 67, 46, 98] 50,
            .header 5 [3]]).map
            (·.size) = some 27 := by
    decide +kernel
  rw [hFirst, Option.bind_some, hSecond, Option.bind_some,
    Option.map_eq_some_iff] at hThird
  rcases hThird with ⟨d₃, hThird, hSize⟩
  refine ⟨d₁, d₂, d₃, hFirst, hSecond, hThird,
    names_read_back ?_ ?_ hFirst hSecond hThird ?_
      (by simp [isSpace]) ?_⟩
  · intro t hT
    cases hT
    rfl
  · intro part hPart
    simp only [List.cons_append, List.nil_append,
      List.mem_cons, List.not_mem_nil, or_false] at hPart
    rcases hPart with rfl | rfl | rfl | rfl | rfl
    · simp [Part.IsText, CString.IsText]
    · trivial
    · simp [Part.IsText, CString.IsText]
    · simp [Part.IsText, CString.IsText]
    · trivial
  · rw [hSize]
    decide
  · rw [hSize]
    decide

/-
  In every message that was put together so, `dn_comp` comes
  back whatever the next name is. It leaves everything outside
  its room alone. It returns a size for well formed names
  only, no more than the room, and no more than the name would
  take without pointers; and it does return one when there is
  room for as much.
-/
theorem dnComp_reached
    {d d' : Draft}
    {parts : List Part}
    {text : Bytes}
    (hFresh : ∀ t, d.list = some t → t.names = [])
    (hTexts : ∀ part ∈ parts, part.IsText)
    (hRun : d.putAll parts = some d')
    (hReach : d'.size ≤ pointerReach)
    (hText : CString.IsText text)
    (room : Int) :
    ∃ out,
      dnComp text d'.size room d'.list d'.buf = some out ∧
      (∀ b : Nat, b < d'.size ∨ d'.size + room ≤ b →
        out.buf b = d'.buf b) ∧
      (∀ n, out.result = some n → (n : Int) ≤ room ∧
        ∃ ns, nameLabels text = some ns ∧ n ≤ plainSize ns) ∧
      ∀ ns, nameLabels text = some ns →
        (plainSize ns : Int) ≤ room → out.result ≠ none := by
  have hListed : d.Listed := by
    intro t hT p hP
    rw [hFresh t hT] at hP
    cases hP
  rcases Draft.putAll_keeps hTexts hListed hRun hReach with
    ⟨hListed', -⟩
  rcases @dnComp_spec text d'.floor d'.size room d'.list d'.buf
      hText hListed' hReach with
    ⟨out, hOut, hSame, hPuts, hSized⟩
  refine ⟨out, hOut, hSame, ?_, ?_⟩
  · intro n hN
    rcases hPuts n hN with ⟨hFits, -, ⟨ns, -, hNames, -⟩, -⟩
    have hBound := (hSized ns hNames).1 n hN
    exact ⟨by omega, ns, hNames, by omega⟩
  · intro ns hNames hRoom
    exact (hSized ns hNames).2 (by omega)

/- "b.C" goes in behind "a.b" where there is room for it. -/
theorem dnComp_reached_fresh :
    ∃ d' : Draft, freshDraft.putAll [.name [97, 46, 98] 500] =
        some d' ∧
      ∃ out, dnComp [98, 46, 67] d'.size 5 d'.list d'.buf =
          some out ∧
        (∀ b : Nat, b < d'.size ∨ d'.size + 5 ≤ (b : Int) →
          out.buf b = d'.buf b) ∧
        (∀ n, out.result = some n → (n : Int) ≤ 5 ∧
          ∃ ns, nameLabels [98, 46, 67] = some ns ∧
            n ≤ plainSize ns) ∧
        ∀ ns, nameLabels [98, 46, 67] = some ns →
          (plainSize ns : Int) ≤ 5 → out.result ≠ none := by
  have hRun : (freshDraft.putAll [.name [97, 46, 98] 500]).map
      (·.size) = some 17 := by
    decide +kernel
  rcases Option.map_eq_some_iff.mp hRun with ⟨d', hRun, hSize⟩
  refine ⟨d', hRun, dnComp_reached ?_ ?_ hRun ?_ ?_ 5⟩
  · intro t hT
    cases hT
    rfl
  · intro part hPart
    rw [List.mem_singleton.mp hPart]
    simp [Part.IsText, CString.IsText]
  · rw [hSize]
    decide
  · simp [CString.IsText]

end Libsocket
