import Libsocket.Inet.Labels

/-
  What `dn_comp` puts into a message: the labels of the name,
  in the room it was given, and pointers to nothing but names
  with these labels.

  Main declarations:
    * `compLabel_spec`, `Compressed.Puts`
    * `dnComp_spec`
-/

namespace Libsocket

/-
  A label is written from its place on, or there is no room
  for it and what was written of it stays inside the room.
-/
def LabelPut
    (eob : Int)
    (cp : Nat)
    (buf : Memory UInt8)
    (w rest : Bytes) :
    Except (Memory UInt8) (Nat × Bytes × Memory UInt8) → Prop
| .error buf' =>
    eob < cp + w.length ∧
      ∀ b : Nat, b < cp ∨ eob ≤ b → buf' b = buf b
| .ok (cp', dn', buf') =>
    cp' = cp + w.length ∧ dn' = rest ∧ buf' = buf.store cp w ∧
      (w = [] ∨ (cp' : Int) ≤ eob)

theorem LabelPut.cons
    {eob : Int}
    {cp : Nat}
    {buf : Memory UInt8}
    {c : UInt8}
    {w rest : Bytes}
    {result :
      Except (Memory UInt8) (Nat × Bytes × Memory UInt8)}
    (hRoom : ¬ eob ≤ cp)
    (hPut : LabelPut eob (cp + 1) (buf.store cp [c]) w rest
      result) :
    LabelPut eob cp buf (c :: w) rest result := by
  cases result with
  | error buf' =>
      refine ⟨?_, fun b hB => ?_⟩
      · have hFull := hPut.1
        rw [List.length_cons]
        omega
      rw [hPut.2 b (by omega)]
      apply Memory.store_outside
      rcases hB with hBelow | hAbove
      · exact .inl hBelow
      · right
        rw [List.length_singleton]
        omega
  | ok end_ =>
      rcases end_ with ⟨cp', dn', buf'⟩
      rcases hPut with ⟨rfl, rfl, rfl, hFits⟩
      refine ⟨?_, rfl, ?_, .inr ?_⟩
      · rw [List.length_cons]
        omega
      · exact Memory.store_append
      · rcases hFits with rfl | hFits
        · rw [List.length_nil]
          omega
        · exact hFits

/- The field of the text is what is written. -/
theorem compLabel_spec
    {eob : Int}
    {dn : Bytes}
    {cp : Nat}
    {buf : Memory UInt8} :
    LabelPut eob cp buf (field dn).1 (field dn).2
      (compLabel eob dn cp buf) := by
  fun_induction compLabel eob dn cp buf with
  | case1 => exact ⟨rfl, rfl, Memory.store_nil.symm, .inl rfl⟩
  | case2 cp buf dn =>
      rw [field, Escaped.field_sep]
      exact ⟨rfl, rfl, Memory.store_nil.symm, .inl rfl⟩
  | case3 cp buf hStop =>
      have hField : field [escapeSign] = ([], []) := rfl
      rw [hField]
      exact ⟨rfl, rfl, Memory.store_nil.symm, .inl rfl⟩
  | case4 cp buf c dn hFull hStop =>
      rw [field_escape]
      refine ⟨?_, fun b _ => rfl⟩
      rw [List.length_cons]
      omega
  | case5 cp buf c dn hRoom hStop ih =>
      rw [field_escape]
      exact LabelPut.cons hRoom ih
  | case6 c dn cp buf hStop hEscape hFull =>
      rw [field_plain hStop hEscape]
      refine ⟨?_, fun b _ => rfl⟩
      rw [List.length_cons]
      omega
  | case7 c dn cp buf hStop hEscape hRoom ih =>
      rw [field_plain hStop hEscape]
      exact LabelPut.cons hRoom ih

------------------------------------------------------------
-- Links That Are Written
------------------------------------------------------------

/- A root lies where its NUL does. -/
theorem placed_root
    {buf : Memory UInt8}
    {floor base off : Nat}
    (hZero : buf off = 0) :
    Placed buf floor base off [] 1 := by
  refine ⟨⟨1, 1, .stop ?_⟩, fun l hL => nomatch hL⟩
  unfold readLink
  rw [hZero]
  rfl

/- A label lies in front of a name. -/
theorem placed_label
    {buf : Memory UInt8}
    {floor base off size : Nat}
    {l : Bytes}
    {ls : List Bytes}
    (hLabel : IsLabel l)
    (hLength : buf off = UInt8.ofNat l.length)
    (hBytes : buf.load (off + 1) l.length = l)
    (hRest : Placed buf floor base (off + (l.length + 1)) ls
      size) :
    Placed buf floor base off (l :: ls)
      (l.length + 1 + size) := by
  rcases hRest with ⟨⟨seen, steps, hChain⟩, hLabels⟩
  have hShort : l.length ≤ 63 := hLabel.2.1
  have hNat : (buf off).toNat = l.length := by
    rw [hLength, UInt8.toNat_ofNat']
    omega
  have hSome : l.length ≠ 0 := fun hNone =>
    hLabel.1 (List.length_eq_zero_iff.mp hNone)
  refine ⟨⟨l.length + 1 + seen, steps + 1, .item ?_ hChain⟩,
    ?_⟩
  · unfold readLink
    dsimp only
    rw [hNat, if_neg hSome, if_pos (by omega), hBytes]
  · intro k hK
    rcases List.mem_cons.mp hK with rfl | hTail
    · exact hLabel
    · exact hLabels k hTail

/- The two bytes of a pointer. -/
def pointerBytes (l : Nat) : Bytes :=
  [UInt8.ofNat (l / 256) ||| indirMask, UInt8.ofNat (l % 256)]

/- A pointer within reach leads to where it should. -/
theorem toNat_pointer
    {l : Nat}
    (hReach : l < pointerReach) :
    (UInt8.ofNat (l / 256) ||| indirMask).toNat =
        192 + l / 256 ∧
      (UInt8.ofNat (l % 256)).toNat = l % 256 := by
  unfold pointerReach at hReach
  have hHigh : l / 256 < 64 := by omega
  constructor
  · generalize l / 256 = h at hHigh
    decide +revert
  · rw [UInt8.toNat_ofNat']
    omega

/- A name lies where a pointer to it does. -/
theorem placed_pointer
    {buf : Memory UInt8}
    {floor limit off l : Nat}
    {ls : List Bytes}
    (hReach : limit ≤ pointerReach)
    (hKnown : Known buf floor limit l ls)
    (hBytes : buf.load off 2 = pointerBytes l) :
    Placed buf floor limit off ls 2 := by
  rcases hKnown with
    ⟨base, size, ⟨⟨seen, steps, hChain⟩, hLabels⟩, hFloor, hBase,
      hLimit⟩
  have hSize := hChain.size_pos readLink_size
  rcases @toNat_pointer l (by omega) with ⟨hFirst, hSecond⟩
  rw [Memory.load_succ, Memory.load_succ] at hBytes
  injection hBytes with hHigh hRest
  injection hRest with hLow _
  have hHighNat := congrArg UInt8.toNat hHigh
  have hLowNat := congrArg UInt8.toNat hLow
  rw [hFirst] at hHighNat
  rw [hSecond] at hLowNat
  unfold pointerReach at hReach
  have hRead : readLink buf off = some (.back l 2) := by
    unfold readLink
    dsimp only
    rw [hHighNat, hLowNat, if_neg (by omega),
      if_neg (by omega), if_pos (by omega)]
    have hTarget :
        (192 + l / 256) % 64 * 256 + l % 256 = l := by omega
    rw [hTarget]
  exact ⟨⟨2 + seen, steps + 1,
    .back hRead hFloor hBase hLimit hChain⟩, hLabels⟩

------------------------------------------------------------
-- A Name That Is Put In
------------------------------------------------------------

/- A name that is saved is the one of the place. -/
theorem NameList.mem_save
    {list : NameList}
    {cp p : Nat}
    (hMem : p ∈ (list.save cp).names) :
    p ∈ list.names ∨ p = cp := by
  unfold NameList.save at hMem
  split at hMem
  · exact .inl hMem
  · split at hMem
    · rcases List.mem_append.mp hMem with hOld | hNew
      · exact .inl hOld
      · exact .inr (List.mem_singleton.mp hNew)
    · exact .inl hMem

/- A list has at most one place more. -/
def Adds
    (list list' : Option NameList)
    (cp : Nat) : Prop :=
  ∀ t, list' = some t → ∃ t₀, list = some t₀ ∧
    ∀ p ∈ t.names, p ∈ t₀.names ∨ p = cp

theorem Adds.save
    (list : Option NameList)
    (cp : Nat) :
    Adds list (list.map fun t => t.save cp) cp := by
  intro t hT
  rcases Option.map_eq_some_iff.mp hT with ⟨t₀, hList, rfl⟩
  exact ⟨t₀, hList, fun p hP => NameList.mem_save hP⟩

theorem Adds.refl
    (list : Option NameList)
    (cp : Nat) : Adds list list cp :=
  fun t hT => ⟨t, hT, fun _ hP => .inl hP⟩

/-
  The call wrote so many bytes. From `cp` on they hold the
  name of the text; the pointers that it added to the list
  lead to the ends of this name.
-/
structure Compressed.Puts
    (out : Compressed)
    (floor comp cp : Nat)
    (eob : Int)
    (list : Option NameList)
    (dn : Bytes)
    (n : Nat) : Prop where
  fits : ((comp + n : Nat) : Int) ≤ eob
  forth : cp < comp + n
  placed : ∃ ns ls, nameLabels dn = some ns ∧
    SameLabels ns ls ∧
    Placed out.buf floor comp cp ls (comp + n - cp)
  listed : ∀ t, out.list = some t →
    ∃ t₀, list = some t₀ ∧ ∀ p ∈ t.names,
      p ∈ t₀.names ∨ (cp ≤ p ∧ p < comp + n ∧
        ∃ ls, Placed out.buf floor comp p ls (comp + n - p))

/- The root is put behind the last label. -/
theorem compEnd_spec
    {floor comp cp : Nat}
    {eob : Int}
    {old list list' : Option NameList}
    {buf : Memory UInt8}
    {dn : Bytes}
    (hOrder : comp ≤ cp)
    (hNone : nameLabels dn = some [])
    (hAdds : Adds list list' cp) :
    (∀ b : Nat, b < cp ∨ eob ≤ b →
      (compEnd comp eob old list' cp buf).buf b = buf b) ∧
    ∀ n, (compEnd comp eob old list' cp buf).result = some n →
      (compEnd comp eob old list' cp buf).Puts floor comp cp
        eob list dn n := by
  unfold compEnd
  by_cases hFull : eob ≤ cp
  · rw [if_pos hFull]
    exact ⟨fun b _ => rfl, fun n hN => nomatch hN⟩
  · rw [if_neg hFull]
    constructor
    · intro b hB
      apply Memory.store_outside
      rcases hB with hBelow | hAbove
      · exact .inl hBelow
      · right
        rw [List.length_singleton]
        omega
    · intro n hN
      cases hN
      have hRoot : Placed (buf.store cp [0]) floor comp cp []
          (comp + (cp + 1 - comp) - cp) := by
        have hSize : comp + (cp + 1 - comp) - cp = 1 := by omega
        rw [hSize]
        exact placed_root
          (Memory.store_at (k := 0) (l := [0]) Nat.one_pos)
      refine ⟨by omega, by omega, ⟨[], [], hNone, rfl, hRoot⟩,
        ?_⟩
      intro t hT
      rcases hAdds t hT with ⟨t₀, hList, hMem⟩
      refine ⟨t₀, hList, fun p hP => (hMem p hP).imp_right ?_⟩
      rintro rfl
      exact ⟨Nat.le_refl _, by omega, [], hRoot⟩

/- A name that lies elsewhere is the text's. -/
theorem nameLabels_of_same
    {dn : Bytes}
    {ls : List Bytes}
    (hLabels : ∀ l ∈ ls, IsLabel l)
    (hSame : SameLabels (fields dn) ls) :
    nameLabels dn = some (fields dn) := by
  apply nameLabels_of_fields
  intro l hL
  have hMem := List.mem_map_of_mem (f := List.map mklower) hL
  rw [hSame] at hMem
  rcases List.mem_map.mp hMem with ⟨k, hK, hMap⟩
  have hLength : k.length = l.length := by
    rw [← List.length_map mklower, hMap, List.length_map]
  rcases hLabels k hK with ⟨hSome, hShort, -⟩
  constructor
  · rintro rfl
    exact hSome (List.length_eq_zero_iff.mp hLength)
  · rw [← hLength]
    exact hShort

/- A pointer to the rest of the name ends it. -/
theorem Compressed.puts_pointer
    {floor comp cp l : Nat}
    {eob : Int}
    {list : Option NameList}
    {buf : Memory UInt8}
    {dn : Bytes}
    {ls : List Bytes}
    (hReach : comp ≤ pointerReach)
    (hOrder : comp ≤ cp)
    (hRoom : ¬ eob ≤ cp + 1)
    (hKnown : Known buf floor comp l ls)
    (hSame : SameLabels (fields dn) ls) :
    Compressed.Puts
      ⟨some (cp + 2 - comp), buf.store cp (pointerBytes l), list⟩
      floor comp cp eob list dn (cp + 2 - comp) where
  fits := by omega
  forth := by omega
  placed := by
    have hLabels : ∀ l ∈ ls, IsLabel l := by
      rcases hKnown with ⟨base, size, hPlaced, -⟩
      exact hPlaced.2
    refine ⟨fields dn, ls, nameLabels_of_same hLabels hSame,
      hSame, ?_⟩
    have hSize : comp + (cp + 2 - comp) - cp = 2 := by omega
    rw [hSize]
    apply placed_pointer hReach (hKnown.congr ?_)
      Memory.load_store
    intro b _ hB
    exact Memory.store_outside (.inl (by omega))
  listed t hT := ⟨t, hT, fun p hP => .inl hP⟩

/- A label is put in front of the rest of the name. -/
theorem Compressed.Puts.label
    {out : Compressed}
    {floor comp cp n : Nat}
    {eob : Int}
    {list list' : Option NameList}
    {dn rest : Bytes}
    {l : Bytes}
    (hPuts : out.Puts floor comp (cp + 1 + l.length) eob list'
      rest n)
    (hField : field dn = (l, rest))
    (hSome : dn ≠ [])
    (hLabel : IsLabel l)
    (hLength : out.buf cp = UInt8.ofNat l.length)
    (hBytes : out.buf.load (cp + 1) l.length = l)
    (hAdds : Adds list list' cp) :
    out.Puts floor comp cp eob list dn n := by
  rcases hPuts with
    ⟨hFits, hForth, ⟨ns, ls, hNames, hSame, hPlaced⟩, hListed⟩
  have hHere : Placed out.buf floor comp cp (l :: ls)
      (comp + n - cp) := by
    have hSize : comp + n - cp = l.length + 1 +
        (comp + n - (cp + 1 + l.length)) := by omega
    have hPlace : cp + 1 + l.length = cp + (l.length + 1) := by
      omega
    rw [hSize]
    apply placed_label hLabel hLength hBytes
    rw [← hPlace]
    exact hPlaced
  refine ⟨hFits, by omega, ⟨l :: ns, l :: ls, ?_, ?_, hHere⟩, ?_⟩
  · rw [nameLabels, dif_neg hSome, hField, if_neg, if_neg,
      hNames]
    · rfl
    · rintro (hNone | hLong)
      · exact hLabel.1 hNone
      · exact absurd hLabel.2.1 (Nat.not_le.mpr hLong)
    · exact fun hBoth => hLabel.1 hBoth.1
  · unfold SameLabels at hSame ⊢
    rw [List.map_cons, List.map_cons, hSame]
  · intro t hT
    rcases hListed t hT with ⟨t₁, hList', hMem'⟩
    rcases hAdds t₁ hList' with ⟨t₀, hList, hMem⟩
    refine ⟨t₀, hList, ?_⟩
    intro p hP
    rcases hMem' p hP with hOld | ⟨hAbove, hBelow, hThere⟩
    · rcases hMem p hOld with hOlder | rfl
      · exact .inl hOlder
      · exact .inr ⟨Nat.le_refl _, by omega, l :: ls, hHere⟩
    · exact .inr ⟨by omega, hBelow, hThere⟩

theorem searchNames_spec
    {floor comp : Nat}
    {old : Option NameList}
    {buf : Memory UInt8}
    {dn : Bytes}
    (hOld : ∀ t, old = some t → KnownNames buf floor comp t.names)
    (hReach : comp ≤ pointerReach) :
    ∃ found, searchNames buf dn old = some found ∧
      ∀ l, found = some l →
        ∃ ls, Known buf floor comp l ls ∧
          SameLabels (fields dn) ls := by
  cases old with
  | none => exact ⟨none, rfl, fun l hL => nomatch hL⟩
  | some t => exact dnFind_spec (hOld t rfl) hReach

theorem isText_field
    {dn : Bytes}
    (hText : CString.IsText dn) :
    CString.IsText (field dn).1 ∧
      CString.IsText (field dn).2 :=
  ⟨fun b hB => hText b (Escaped.mem_of_mem_field (.inl hB)),
    fun b hB => hText b (Escaped.mem_of_mem_field (.inr hB))⟩

/- A label and its length change nothing outside their room. -/
theorem store_label_outside
    {buf : Memory UInt8}
    {cp b : Nat}
    {l : Bytes}
    {c : UInt8}
    (hOutside : b < cp ∨ cp + 1 + l.length ≤ b) :
    (buf.store (cp + 1) l).store cp [c] b = buf b := by
  rw [Memory.store_outside, Memory.store_outside]
  · rcases hOutside with hBelow | hAbove
    · exact .inl (Nat.lt_succ_of_lt hBelow)
    · exact .inr hAbove
  · rcases hOutside with hBelow | hAbove
    · exact .inl hBelow
    · right
      rw [List.length_singleton]
      omega

theorem load_label
    {buf : Memory UInt8}
    {cp : Nat}
    {l : Bytes}
    {c : UInt8} :
    ((buf.store (cp + 1) l).store cp [c]).load (cp + 1)
      l.length = l := by
  rw [Memory.load_congr fun k hK => Memory.store_outside
    (.inr (by rw [List.length_singleton]; omega))]
  exact Memory.load_store

/-
  The loop over the labels comes to an end. It stays inside
  its room, and puts the name in when it returns its size.
-/
theorem compLabels_spec
    {floor comp cp : Nat}
    {eob : Int}
    {old list : Option NameList}
    {buf : Memory UInt8}
    {dn : Bytes}
    (hText : CString.IsText dn)
    (hOld : ∀ t, old = some t → KnownNames buf floor comp t.names)
    (hReach : comp ≤ pointerReach)
    (hOrder : comp ≤ cp) :
    ∃ out, compLabels comp eob old list cp buf dn = some out ∧
      (∀ b : Nat, b < cp ∨ eob ≤ b → out.buf b = buf b) ∧
      ∀ n, out.result = some n →
        out.Puts floor comp cp eob list dn n := by
  fun_induction compLabels comp eob old list cp buf dn with
  | case1 list cp buf =>
      have hNone : nameLabels [] = some [] := by
        rw [nameLabels, dif_pos rfl]
      exact ⟨_, rfl, compEnd_spec hOrder hNone
        (Adds.refl list cp)⟩
  | case2 list cp buf dn hSome hSearch =>
      rcases @searchNames_spec floor comp old buf dn hOld
          hReach with ⟨found, hFound, -⟩
      rw [hSearch] at hFound
      cases hFound
  | case3 list cp buf dn hSome l hSearch hFull =>
      exact ⟨_, rfl, fun b _ => rfl, fun n hN => nomatch hN⟩
  | case4 list cp buf dn hSome l hSearch hRoom =>
      rcases @searchNames_spec floor comp old buf dn hOld
          hReach with ⟨found, hFound, hKnown⟩
      rw [hSearch] at hFound
      cases hFound
      rcases hKnown l rfl with ⟨ls, hThere, hSame⟩
      refine ⟨_, rfl, ?_, ?_⟩
      · intro b hB
        apply Memory.store_outside
        rcases hB with hBelow | hAbove
        · exact .inl hBelow
        · right
          simp only [List.length_cons, List.length_nil]
          omega
      · intro n hN
        cases hN
        exact Compressed.puts_pointer hReach hOrder hRoom hThere
          hSame
  | case5 list cp buf dn hSome hSearch buf' hOk =>
      have hPut := @compLabel_spec eob dn (cp + 1) buf
      rw [hOk] at hPut
      exact ⟨_, rfl, fun b hB => hPut.2 b (by omega),
        fun n hN => nomatch hN⟩
  | case6 list cp buf dn hSome hSearch list' cp' dn' buf' hOk l
      hEmpty =>
      have hPut := @compLabel_spec eob dn (cp + 1) buf
      rw [hOk] at hPut
      rcases hPut with ⟨rfl, rfl, rfl, hFits⟩
      have hLabel : (field dn).1 = [] := by
        apply List.length_eq_zero_iff.mp
        have hZero := hEmpty.1
        omega
      have hNone : nameLabels dn = some [] := by
        rw [nameLabels, dif_neg hSome,
          if_pos ⟨hLabel, hEmpty.2⟩]
      rw [hLabel, Memory.store_nil]
      exact ⟨_, rfl, compEnd_spec hOrder hNone
        (Adds.save list cp)⟩
  | case7 list cp buf dn hSome hSearch cp' dn' buf' hOk l
      hNotEnd hBad =>
      have hPut := @compLabel_spec eob dn (cp + 1) buf
      rw [hOk] at hPut
      rcases hPut with ⟨rfl, rfl, rfl, hFits⟩
      refine ⟨_, rfl, ?_, fun n hN => nomatch hN⟩
      intro b hB
      rcases hFits with hNone | hFits
      · rw [hNone, Memory.store_nil]
      · apply Memory.store_outside
        rcases hB with hBelow | hAbove
        · exact .inl (Nat.lt_succ_of_lt hBelow)
        · right
          omega
  | case8 list cp buf dn hSome hSearch list' cp' dn' buf' hOk l
      hNotEnd hGood ih =>
      have hPut := @compLabel_spec eob dn (cp + 1) buf
      rw [hOk] at hPut
      rcases hPut with ⟨rfl, rfl, rfl, hFits⟩
      rcases isText_field hText with ⟨hLabelText, hRestText⟩
      have hCount : l = (field dn).1.length := by omega
      have hLabel : IsLabel (field dn).1 := by
        refine ⟨?_, by omega, hLabelText⟩
        intro hNone
        rw [hNone, List.length_nil] at hCount
        exact hGood (.inl hCount)
      have hInside := hFits.resolve_left hLabel.1
      rcases ih hRestText
          (fun t hT p hP => (hOld t hT p hP).imp fun ls hK =>
            hK.congr fun b _ hB =>
              store_label_outside (.inl (by omega)))
          (by omega) with ⟨out, hRun, hSame, hPuts⟩
      refine ⟨out, hRun, ?_, ?_⟩
      · intro b hB
        rw [hSame b (by omega),
          store_label_outside (by omega)]
      · intro n hN
        apply (hPuts n hN).label rfl hSome hLabel ?_ ?_
          (Adds.save list cp)
        · rw [hSame cp (by omega), ← hCount]
          exact Memory.store_at (k := 0) (l := [UInt8.ofNat l])
            Nat.one_pos
        · rw [Memory.load_congr fun k hK =>
            hSame (cp + 1 + k) (by omega)]
          exact load_label

/- What a name takes without a pointer. -/
def plainSize : List Bytes → Nat
| [] => 1
| l :: ls => l.length + 1 + plainSize ls

theorem plainSize_pos (ls : List Bytes) : 0 < plainSize ls := by
  cases ls with
  | nil => exact Nat.one_pos
  | cons l ls =>
      unfold plainSize
      omega

/- The size that is returned, and when there is one. -/
def Compressed.Sized
    (out : Compressed)
    (comp cp : Nat)
    (eob : Int)
    (ns : List Bytes) : Prop :=
  (∀ n, out.result = some n → comp + n ≤ cp + plainSize ns) ∧
    ((cp + plainSize ns : Nat) ≤ eob → out.result ≠ none)

theorem compEnd_sized
    {comp cp : Nat}
    {eob : Int}
    {old list : Option NameList}
    {buf : Memory UInt8}
    (hOrder : comp ≤ cp) :
    (compEnd comp eob old list cp buf).Sized comp cp eob [] := by
  unfold compEnd Compressed.Sized plainSize
  by_cases hFull : eob ≤ cp
  · rw [if_pos hFull]
    exact ⟨fun n hN => (nomatch hN), fun hRoom => by omega⟩
  · rw [if_neg hFull]
    refine ⟨?_, fun _ hNone => nomatch hNone⟩
    intro n hN
    cases hN
    omega

/- A name is at its end, or it has one more label. -/
theorem nameLabels_cases
    {dn : Bytes}
    {ns : List Bytes}
    (hSome : dn ≠ [])
    (hNames : nameLabels dn = some ns) :
    (field dn = ([], []) ∧ ns = []) ∨
      (field dn).1 ≠ [] ∧ (field dn).1.length ≤ maxLabel ∧
        ∃ ms, nameLabels (field dn).2 = some ms ∧
          ns = (field dn).1 :: ms := by
  rw [nameLabels, dif_neg hSome] at hNames
  split at hNames
  · rename_i hEmpty
    cases hNames
    exact .inl ⟨Prod.ext hEmpty.1 hEmpty.2, rfl⟩
  · split at hNames
    · cases hNames
    · rename_i hGood
      rcases Option.map_eq_some_iff.mp hNames with
        ⟨ms, hRest, rfl⟩
      exact .inr ⟨fun hNone => hGood (.inl hNone),
        Nat.not_lt.mp fun hLong => hGood (.inr hLong),
        ms, hRest, rfl⟩

/- A name that was found is longer than a pointer. -/
theorem plainSize_of_found
    {floor comp l : Nat}
    {old : Option NameList}
    {buf : Memory UInt8}
    {dn : Bytes}
    {ns : List Bytes}
    (hNames : nameLabels dn = some ns)
    (hSome : dn ≠ [])
    (hOld : ∀ t, old = some t → KnownNames buf floor comp t.names)
    (hReach : comp ≤ pointerReach)
    (hSearch : searchNames buf dn old = some (some l)) :
    2 < plainSize ns := by
  rcases @searchNames_spec floor comp old buf dn hOld hReach with
    ⟨found, hFound, hKnown⟩
  rw [hSearch] at hFound
  cases hFound
  rcases hKnown l rfl with ⟨ls, ⟨base, size, hPlaced, -⟩, hSame⟩
  have hFields := nameLabels_of_same hPlaced.2 hSame
  rw [hNames, fields_of_ne hSome] at hFields
  injection hFields with hFields
  rcases nameLabels_cases hSome hNames with
    ⟨-, hNone⟩ | ⟨hFirst, -, ms, -, rfl⟩
  · rw [hNone] at hFields
    cases hFields
  · have hLength := List.length_pos_of_ne_nil hFirst
    have hRest := plainSize_pos ms
    unfold plainSize
    omega

/-
  A name that is well formed takes no more than it would
  without pointers, and goes in where there is room for that.
-/
theorem compLabels_sized
    {floor comp cp : Nat}
    {eob : Int}
    {old list : Option NameList}
    {buf : Memory UInt8}
    {dn : Bytes}
    {ns : List Bytes}
    {out : Compressed}
    (hNames : nameLabels dn = some ns)
    (hOld : ∀ t, old = some t → KnownNames buf floor comp t.names)
    (hReach : comp ≤ pointerReach)
    (hOrder : comp ≤ cp)
    (hRun : compLabels comp eob old list cp buf dn = some out) :
    out.Sized comp cp eob ns := by
  fun_induction compLabels comp eob old list cp buf dn
    generalizing ns with
  | case1 list cp buf =>
      rw [nameLabels, dif_pos rfl] at hNames
      cases hNames
      cases hRun
      exact compEnd_sized hOrder
  | case2 => cases hRun
  | case3 list cp buf dn hSome l hSearch hFull =>
      have hLong := plainSize_of_found hNames hSome hOld hReach
        hSearch
      cases hRun
      exact ⟨fun n hN => (nomatch hN), fun hRoom => by omega⟩
  | case4 list cp buf dn hSome l hSearch hRoom =>
      have hLong := plainSize_of_found hNames hSome hOld hReach
        hSearch
      cases hRun
      refine ⟨?_, fun _ hNone => nomatch hNone⟩
      intro n hN
      cases hN
      omega
  | case5 list cp buf dn hSome hSearch buf' hOk =>
      have hPut := @compLabel_spec eob dn (cp + 1) buf
      rw [hOk] at hPut
      have hFull := hPut.1
      cases hRun
      refine ⟨fun n hN => (nomatch hN), fun hRoom => ?_⟩
      rcases nameLabels_cases hSome hNames with
        ⟨hField, rfl⟩ | ⟨-, -, ms, -, rfl⟩
      · rw [hField, List.length_nil] at hFull
        unfold plainSize at hRoom
        omega
      · unfold plainSize at hRoom
        omega
  | case6 list cp buf dn hSome hSearch list' cp' dn' buf' hOk
      l =>
      rename_i hEmpty
      have hPut := @compLabel_spec eob dn (cp + 1) buf
      rw [hOk] at hPut
      rcases hPut with ⟨rfl, rfl, rfl, -⟩
      cases hRun
      rcases nameLabels_cases hSome hNames with
        ⟨-, rfl⟩ | ⟨hFirst, -⟩
      · exact compEnd_sized hOrder
      · have hLength := List.length_pos_of_ne_nil hFirst
        have hZero := hEmpty.1
        omega
  | case7 list cp buf dn hSome hSearch cp' dn' buf' hOk
      l hNotEnd =>
      rename_i hBad
      have hPut := @compLabel_spec eob dn (cp + 1) buf
      rw [hOk] at hPut
      rcases hPut with ⟨rfl, rfl, rfl, -⟩
      have hCount : l = (field dn).1.length := by omega
      rcases nameLabels_cases hSome hNames with
        ⟨hField, -⟩ | ⟨hFirst, hShort, -⟩
      · rw [hField] at hNotEnd hCount
        exact absurd ⟨hCount, rfl⟩ hNotEnd
      · have hLength := List.length_pos_of_ne_nil hFirst
        omega
  | case8 list cp buf dn hSome hSearch list' cp' dn' buf' hOk
      l hNotEnd hGood =>
      rename_i ih
      have hPut := @compLabel_spec eob dn (cp + 1) buf
      rw [hOk] at hPut
      rcases hPut with ⟨rfl, rfl, rfl, -⟩
      rcases nameLabels_cases hSome hNames with
        ⟨hField, -⟩ | ⟨-, -, ms, hRest, rfl⟩
      · have hCount : l = (field dn).1.length := by omega
        rw [hField] at hNotEnd hCount
        exact absurd ⟨hCount, rfl⟩ hNotEnd
      · rcases ih hRest
            (fun t hT p hP => (hOld t hT p hP).imp fun ls hK =>
              hK.congr fun b _ hB =>
                store_label_outside (.inl (by omega)))
            (by omega) hRun with ⟨hSize, hGoes⟩
        unfold Compressed.Sized plainSize
        refine ⟨fun n hN => ?_, fun hRoom => hGoes (by omega)⟩
        have hBound := hSize n hN
        omega

/-
  `dn_comp` comes back. It writes in its room only, when it
  returns a size it put the name in, and it does return one
  for a name that would fit without pointers.
-/
theorem dnComp_spec
    {text : Bytes}
    {floor comp : Nat}
    {length : Int}
    {list : Option NameList}
    {buf : Memory UInt8}
    (hText : CString.IsText text)
    (hKnown : ∀ t, list = some t →
      KnownNames buf floor comp t.names)
    (hReach : comp ≤ pointerReach) :
    ∃ out, dnComp text comp length list buf = some out ∧
      (∀ b : Nat, b < comp ∨ comp + length ≤ b →
        out.buf b = buf b) ∧
      (∀ n, out.result = some n →
        out.Puts floor comp comp (comp + length) list text n) ∧
      ∀ ns, nameLabels text = some ns →
        out.Sized comp comp (comp + length) ns := by
  have hTake : text.takeWhile (· ≠ 0) = text := by
    rw [List.takeWhile_eq_self_iff]
    intro b hB
    exact decide_eq_true (hText b hB)
  unfold dnComp
  rw [hTake]
  rcases @compLabels_spec floor comp comp (comp + length) list
      list buf text hText hKnown hReach (Nat.le_refl comp) with
    ⟨out, hRun, hSame, hPuts⟩
  exact ⟨out, hRun, hSame, hPuts, fun ns hNames =>
    compLabels_sized hNames hKnown hReach (Nat.le_refl comp)
      hRun⟩

end Libsocket
