import Libsocket.Ini.Texts

/-
  Lines that do not fit the line buffer. They are read in
  pieces, and each piece is taken for a line of its own.

  Main declarations:
    * `Unchanged`, `LineLaw`, `LineWhole`
    * `unchanged_iff`, `line_law_iff`
-/

namespace Libsocket

------------------------------------------------------------
-- Files In Parts
------------------------------------------------------------

/- A text that ends where a line ends. -/
def EndsLine (before : Bytes) : Prop :=
  before = [] ∨ before.getLast? = some newline

/- Reading begins anew behind a newline. -/
theorem fgetsFrom_append
    {size room : Nat}
    {line before : Bytes}
    (hEnds : before.getLast? = some newline)
    (rest : Bytes) :
    fgetsFrom size line room (before ++ rest) =
      fgetsFrom size line room before ++
        fgetsFrom size [] (size - 1) rest := by
  induction before generalizing line room with
  | nil => cases hEnds
  | cons b before ih =>
      rw [List.cons_append, fgetsFrom, fgetsFrom]
      cases before with
      | nil =>
          have hB : b = newline := Option.some.inj hEnds
          rw [if_pos (.inl hB), if_pos (.inl hB)]
          rfl
      | cons c before =>
          rw [List.getLast?_cons_cons] at hEnds
          by_cases hCut : b = newline ∨ room ≤ 1
          · rw [if_pos hCut, if_pos hCut, ih hEnds]
            rfl
          · rw [if_neg hCut, if_neg hCut, ih hEnds]

theorem iniTexts_append
    {before : Bytes}
    (hEnds : EndsLine before)
    (rest : Bytes) :
    iniTexts (before ++ rest) =
      iniTexts before ++ iniTexts rest := by
  rcases hEnds with rfl | hEnds
  · rfl
  · unfold iniTexts fgetsAll
    rw [fgetsFrom_append hEnds, List.map_append]

/- Looking up in two parts, one after the other. -/
theorem lookup_append
    (appname keyname : Bytes)
    (inSection : Bool)
    (texts rest : List Bytes) :
    lookup appname keyname inSection (texts ++ rest) =
      (lookup appname keyname inSection texts).or
        (lookup appname keyname
          (texts.foldl (sectionAfter appname) inSection)
          rest) := by
  induction texts generalizing inSection with
  | nil => rfl
  | cons text texts ih =>
      rw [List.cons_append, lookup, lookup, List.foldl_cons]
      by_cases hHere : inSection = true ∧
          (pairOf? text).map Prod.fst = some keyname
      · rw [if_pos hHere, if_pos hHere]
        rcases Option.map_eq_some_iff.mp hHere.2 with
          ⟨entry, hEntry, -⟩
        rw [hEntry]
        rfl
      · rw [if_neg hHere, if_neg hHere, ih]

------------------------------------------------------------
-- The Law
------------------------------------------------------------

/- What a line with this text is read as. -/
def pieces (text : Bytes) : List Bytes :=
  iniTexts (text ++ [newline])

/- What follows a text lies in a section of the name. -/
def LiesIn (appname before : Bytes) : Prop :=
  Inside appname (iniTexts before) (iniTexts before).length

/-
  A line with this text, where it is a comment or lies in a
  different section, may as well be empty. It is any line of
  any file, and the last one may lack its newline.
-/
def Unchanged (text : Bytes) : Prop :=
  ∀ (junk : Fin iniBufSize → UInt8) (appname keyname : Bytes)
      (deflt : Option Bytes) (dest : Bytes) (destsize : Nat)
      (before ending after : Bytes),
    EndsLine before →
    (ending = [newline] ∨ ending = [] ∧ after = []) →
    (IsComment text ∨ ¬ LiesIn appname before) →
    getPrivateProfileString junk (some appname) (some keyname)
        deflt dest destsize
        (some (before ++ (text ++ ending ++ after))) =
      getPrivateProfileString junk (some appname)
        (some keyname) deflt dest destsize
        (some (before ++ (ending ++ after)))

/- A read piece begins or ends a section, or gives the key. -/
def Acts (read : Bytes) : Prop :=
  ∃ appname keyname destsize s s',
    s.buf.length = iniBufSize ∧
      iniLine appname keyname destsize read s = some s' ∧
      (s'.inSection ≠ s.inSection ∨ s'.gotKey ≠ s.gotKey)

/-
  A line is one line: it may as well be empty where it says
  nothing, and none of it but the first piece acts on its own
  or is a comment.
-/
def LineLaw (text : Bytes) : Prop :=
  Unchanged text ∧
    ∀ read ∈ (fgetsAll iniBufSize (text ++ [newline])).tail,
      ¬ Acts read ∧ ¬ IsComment (lineText read)

/-
  No piece of the line looks like a header, and none but the
  first like a comment or a key with a value.
-/
def LineWhole (text : Bytes) : Prop :=
  (∀ piece ∈ pieces text, headerName? piece = none) ∧
    ∀ piece ∈ (pieces text).tail,
      pairOf? piece = none ∧ ¬ IsComment piece

------------------------------------------------------------
-- Sections
------------------------------------------------------------

/- The section behind some texts, by their last header. -/
theorem foldl_sectionAfter
    (appname : Bytes)
    (inSection : Bool)
    (texts : List Bytes) :
    texts.foldl (sectionAfter appname) inSection = true ↔
      InsideFrom appname inSection texts texts.length := by
  induction texts generalizing inSection with
  | nil => exact insideFrom_zero.symm
  | cons text texts ih =>
      rw [List.foldl_cons, ih, List.length_cons,
        insideFrom_succ]

theorem foldl_iniTexts
    (appname before : Bytes) :
    (iniTexts before).foldl (sectionAfter appname) false =
        true ↔
      LiesIn appname before := by
  rw [foldl_sectionAfter]
  simp [InsideFrom, LiesIn]

/- Texts without headers stay in their section. -/
theorem foldl_of_no_header
    {texts : List Bytes}
    (hNone : ∀ text ∈ texts, headerName? text = none)
    (appname : Bytes)
    (inSection : Bool) :
    texts.foldl (sectionAfter appname) inSection =
      inSection := by
  induction texts with
  | nil => rfl
  | cons text texts ih =>
      have hHere : sectionAfter appname inSection text =
          inSection := by
        rw [sectionAfter, hNone text List.mem_cons_self]
        rfl
      rw [List.foldl_cons, hHere]
      exact ih fun t hT => hNone t (List.mem_cons_of_mem _ hT)

/- The last header names a section that is left open. -/
theorem exists_section
    {texts : List Bytes}
    {header : Bytes}
    (hMem : header ∈ texts)
    (hHeader : headerName? header ≠ none)
    (inSection : Bool) :
    ∃ name, texts.foldl (sectionAfter name) inSection =
      true := by
  induction texts using List.reverseRecOn with
  | nil => cases hMem
  | append_singleton texts text ih =>
      cases hLast : headerName? text with
      | some name =>
          refine ⟨name, ?_⟩
          rw [List.foldl_append, List.foldl_cons,
            List.foldl_nil, sectionAfter_eq_true]
          exact .inl hLast
      | none =>
          rcases List.mem_append.mp hMem with hEarly | hIs
          · rcases ih hEarly with ⟨name, hOpen⟩
            refine ⟨name, ?_⟩
            rw [List.foldl_append, hOpen, List.foldl_cons,
              List.foldl_nil, sectionAfter_eq_true]
            exact .inr ⟨hLast, rfl⟩
          · cases List.mem_singleton.mp hIs
            exact absurd hLast hHeader

/- Texts outside, or without keys, give nothing. -/
theorem lookup_of_quiet
    {texts : List Bytes}
    {inSection : Bool}
    (hNone : ∀ text ∈ texts, headerName? text = none)
    (hQuiet : inSection = true →
      ∀ text ∈ texts, pairOf? text = none)
    (appname keyname : Bytes) :
    lookup appname keyname inSection texts = none := by
  induction texts with
  | nil => rfl
  | cons text texts ih =>
      have hHere : sectionAfter appname inSection text =
          inSection := by
        rw [sectionAfter, hNone text List.mem_cons_self]
        rfl
      rw [lookup, if_neg, hHere]
      · apply ih
        · exact fun t hT => hNone t (List.mem_cons_of_mem _ hT)
        · exact fun hIn t hT =>
            hQuiet hIn t (List.mem_cons_of_mem _ hT)
      · rintro ⟨hIn, hKey⟩
        rw [hQuiet hIn text List.mem_cons_self] at hKey
        cases hKey

/- A key inside gives some value. -/
theorem lookup_of_entry
    {texts : List Bytes}
    {text keyname value : Bytes}
    (hNone : ∀ text ∈ texts, headerName? text = none)
    (hMem : text ∈ texts)
    (hEntry : pairOf? text = some (keyname, value))
    (appname : Bytes) :
    ∃ found, lookup appname keyname true texts =
      some found := by
  induction texts with
  | nil => cases hMem
  | cons other texts ih =>
      have hHere : sectionAfter appname true other = true := by
        rw [sectionAfter, hNone other List.mem_cons_self]
        rfl
      rw [lookup, hHere]
      by_cases hKey : (pairOf? other).map Prod.fst =
          some keyname
      · rcases Option.map_eq_some_iff.mp hKey with
          ⟨entry, hOther, -⟩
        rw [if_pos ⟨rfl, hKey⟩, hOther]
        exact ⟨entry.2, rfl⟩
      · rw [if_neg fun h => hKey h.2]
        rcases List.mem_cons.mp hMem with rfl | hTail
        · rw [hEntry] at hKey
          exact absurd rfl hKey
        · apply ih _ hTail
          exact fun t hT => hNone t (List.mem_cons_of_mem _ hT)

------------------------------------------------------------
-- What A Look-Up Tells
------------------------------------------------------------

/- The length that is returned is that of the value. -/
theorem getPrivateProfileString_length
    (junk : Fin iniBufSize → UInt8)
    (appname keyname : Bytes)
    {deflt dest : Bytes}
    {destsize : Nat}
    (file : Bytes)
    (hRoom : destsize ≤ dest.length)
    (hSize : 1 ≤ destsize)
    (hText : CString.IsText deflt) :
    (getPrivateProfileString junk (some appname) (some keyname)
        (some deflt) dest destsize (some file)).map Prod.snd =
      some (((lookup appname keyname false
        (iniTexts file)).getD deflt).take
          (destsize - 1)).length := by
  have hDefault : ∀ text, some deflt = some text →
      CString.IsText text := by
    rintro text ⟨rfl⟩
    exact hText
  rcases getPrivateProfileString_receives junk appname keyname
    (some file) hRoom hSize hDefault with
    ⟨dest', n, hRun, -, hLength⟩
  rw [hRun, hLength rfl]
  rfl

/- One file may not give a value where the other does not. -/
theorem Unchanged.lookup_none
    {text appname keyname before after : Bytes}
    (hUnchanged : Unchanged text)
    (hEnds : EndsLine before)
    (hHarmless : IsComment text ∨ ¬ LiesIn appname before)
    (hNone : lookup appname keyname false (iniTexts
      (before ++ ([newline] ++ after))) = none) :
    lookup appname keyname false (iniTexts
      (before ++ (text ++ [newline] ++ after))) = none := by
  by_contra hSome
  rcases Option.ne_none_iff_exists'.mp hSome with
    ⟨value, hValue⟩
  have hText := lookup_isText
    (fun text hMem => isText_iniTexts hMem) hValue
  -- A default that is longer than the value tells the two.
  have hDefault : CString.IsText (120 :: value) := by
    intro b hB
    rcases List.mem_cons.mp hB with rfl | hTail
    · decide
    · exact hText b hTail
  have hSame := congrArg (Option.map Prod.snd)
    (hUnchanged (fun _ => 0) appname keyname
      (some (120 :: value))
      (List.replicate (value.length + 2) 0)
      (value.length + 2) before [newline] after hEnds
      (.inl rfl) hHarmless)
  have hRoom : value.length + 2 ≤
      (List.replicate (value.length + 2) (0 : UInt8)).length := by
    rw [List.length_replicate]
  rw [getPrivateProfileString_length _ _ _ _ hRoom (by omega)
    hDefault, getPrivateProfileString_length _ _ _ _ hRoom
    (by omega) hDefault, hNone, hValue] at hSame
  simp at hSame

------------------------------------------------------------
-- Lines That Are Quiet
------------------------------------------------------------

/- Only what is left of a text when it is trimmed counts. -/
theorem headerName?_trimmed
    {left right : Bytes}
    (hSame : trimmed left = trimmed right) :
    headerName? left = headerName? right := by
  unfold headerName?
  rw [hSame]

theorem isComment_trimmed
    {left right : Bytes}
    (hSame : trimmed left = trimmed right) :
    IsComment left ↔ IsComment right := by
  unfold IsComment
  rw [hSame]

theorem pairOf?_eq_none_iff (text : Bytes) :
    pairOf? text = none ↔
      ¬ (trimmed text ≠ [] ∧ ¬ IsComment text ∧
        headerName? text = none ∧ equals ∈ text) := by
  unfold pairOf?
  split
  next hIs => simp [hIs]
  next hNot => simp [hNot]

theorem pairOf?_eq_none_trimmed
    {left right : Bytes}
    (hSame : trimmed left = trimmed right) :
    pairOf? left = none ↔ pairOf? right = none := by
  have hMem : equals ∈ left ↔ equals ∈ right := by
    have hLeft := Trim.mem_trim_iff (p := isSpace) (l := left)
      (c := equals) (by decide)
    have hRight := Trim.mem_trim_iff (p := isSpace)
      (l := right) (c := equals) (by decide)
    unfold trimmed at hSame
    rw [← hLeft, ← hRight, hSame]
  rw [pairOf?_eq_none_iff, pairOf?_eq_none_iff, hSame,
    isComment_trimmed hSame, headerName?_trimmed hSame, hMem]

theorem trimmed_lineText_newline (read : Bytes) :
    trimmed (lineText (read ++ [newline])) =
      trimmed (lineText read) := by
  unfold lineText
  rw [List.takeWhile_append]
  split
  next hAll =>
      have hLast : [newline].takeWhile (fun b => b != 0) =
          [newline] := by decide
      have hWhole := (List.takeWhile_prefix
        (fun b : UInt8 => b != 0)).eq_of_length hAll
      rw [hLast, trimmed_newline, hWhole]
  next => rfl

/- A line without its newline is read in the same pieces. -/
theorem mem_fgetsFrom_newline
    {size room : Nat}
    {line text read : Bytes}
    (hText : newline ∉ text)
    (hMem : read ∈ fgetsFrom size line room text) :
    ∃ read' ∈ fgetsFrom size line room (text ++ [newline]),
      read' = read ∨ read' = read ++ [newline] := by
  induction text generalizing line room with
  | nil =>
      unfold fgetsFrom at hMem
      split at hMem
      · cases hMem
      · rw [List.mem_singleton] at hMem
        refine ⟨line ++ [newline], ?_, .inr (by rw [hMem])⟩
        rw [List.nil_append, fgetsFrom, if_pos (.inl rfl)]
        exact List.mem_cons_self
  | cons b text ih =>
      rw [List.cons_append]
      have hRest : newline ∉ text := fun h =>
        hText (List.mem_cons_of_mem b h)
      unfold fgetsFrom at hMem ⊢
      by_cases hCut : b = newline ∨ room ≤ 1
      · rw [if_pos hCut] at hMem ⊢
        rcases List.mem_cons.mp hMem with rfl | hTail
        · exact ⟨_, List.mem_cons_self, .inl rfl⟩
        · rcases ih hRest hTail with ⟨read', hMem', hSame⟩
          exact ⟨read', List.mem_cons_of_mem _ hMem', hSame⟩
      · rw [if_neg hCut] at hMem ⊢
        exact ih hRest hMem

/- So no text of it is a header, or holds a key. -/
theorem iniTexts_of_pieces
    {text piece : Bytes}
    (hText : newline ∉ text)
    (hMem : piece ∈ iniTexts text) :
    ∃ piece' ∈ pieces text,
      trimmed piece' = trimmed piece := by
  rcases List.mem_map.mp hMem with ⟨read, hRead, rfl⟩
  rcases mem_fgetsFrom_newline hText hRead with
    ⟨read', hRead', rfl | rfl⟩
  · exact ⟨_, List.mem_map.mpr ⟨_, hRead', rfl⟩, rfl⟩
  · exact ⟨_, List.mem_map.mpr ⟨_, hRead', rfl⟩,
      trimmed_lineText_newline read⟩

/- A line that is quiet where it lies can be left out. -/
theorem lookup_middle
    {appname before : Bytes}
    {texts rest : List Bytes}
    (hNone : ∀ text ∈ texts, headerName? text = none)
    (hQuiet : LiesIn appname before →
      ∀ text ∈ texts, pairOf? text = none)
    (keyname : Bytes) :
    lookup appname keyname false
        (iniTexts before ++ (texts ++ rest)) =
      lookup appname keyname false
        (iniTexts before ++ rest) := by
  rw [lookup_append, lookup_append appname keyname false
    (iniTexts before) rest]
  congr 1
  rw [lookup_append, foldl_of_no_header hNone,
    lookup_of_quiet hNone]
  · rfl
  · rw [foldl_iniTexts]
    exact hQuiet

/- A line with the newline behind it ends there. -/
theorem endsLine_newline (text : Bytes) :
    EndsLine (text ++ [newline]) := by
  right
  rw [List.getLast?_append]
  rfl

/- A header in the line opens a section for what follows. -/
theorem Unchanged.no_header
    {text : Bytes}
    (hUnchanged : Unchanged text) :
    ∀ piece ∈ pieces text, headerName? piece = none := by
  intro piece hMem
  by_contra hHeader
  -- A section of that name gets the key behind the line.
  rcases exists_section hMem hHeader false with
    ⟨name, hOpen⟩
  have hAfter : lookup name [107] false (iniTexts
      ([] ++ ([newline] ++ [107, 61, 118]))) = none := by
    apply lookup_of_quiet
    · decide
    · intro hIn
      cases hIn
  have hBefore := hUnchanged.lookup_none (.inl rfl) (.inr (by
    rintro ⟨j, header, hLess, -⟩
    exact Nat.not_lt_zero j hLess)) hAfter
  rw [List.nil_append, iniTexts_append (endsLine_newline text),
    lookup_append] at hBefore
  rw [pieces] at hOpen
  rw [hOpen] at hBefore
  have hFound : lookup name [107] true
      (iniTexts [107, 61, 118]) = some [118] := by
    have hTexts : iniTexts [107, 61, 118] =
        [[107, 61, 118]] := by decide
    have hEntry : pairOf? [107, 61, 118] =
        some ([107], [118]) := by decide
    rw [hTexts, lookup, hEntry]
    rfl
  rw [hFound] at hBefore
  cases hLeft : lookup name [107] false
      (iniTexts (text ++ [newline])) with
  | none =>
      rw [hLeft] at hBefore
      cases hBefore
  | some value =>
      rw [hLeft] at hBefore
      cases hBefore

/- A pair in a comment is found by its key. -/
theorem Unchanged.no_pair
    {text : Bytes}
    (hUnchanged : Unchanged text)
    (hComment : IsComment text) :
    ∀ piece ∈ pieces text, pairOf? piece = none := by
  intro piece hMem
  by_contra hEntry
  rcases Option.ne_none_iff_exists'.mp hEntry with
    ⟨⟨key, value⟩, hPair⟩
  -- The key is asked for in a section around the comment.
  have hTexts : iniTexts (bytes "[main]\n") =
      [bytes "[main]\n"] := by decide
  have hName : headerName? (bytes "[main]\n") =
      some (bytes "main") := by decide
  have hEnds : EndsLine (bytes "[main]\n") := by
    right
    decide
  have hStart : ∀ texts, lookup (bytes "main") key false
      (bytes "[main]\n" :: texts) =
        lookup (bytes "main") key true texts := by
    intro texts
    rw [lookup, if_neg, sectionAfter, hName]
    · rfl
    · rintro ⟨hIn, -⟩
      cases hIn
  have hAfter : lookup (bytes "main") key false (iniTexts
      (bytes "[main]\n" ++ ([newline] ++ []))) = none := by
    rw [iniTexts_append hEnds, hTexts, List.cons_append,
      List.nil_append, hStart]
    apply lookup_of_quiet
    · decide
    · decide
  have hBefore := hUnchanged.lookup_none hEnds
    (.inl hComment) hAfter
  rcases lookup_of_entry hUnchanged.no_header hMem hPair
    (bytes "main") with ⟨found, hFound⟩
  rw [iniTexts_append hEnds, hTexts, List.cons_append,
    List.nil_append, hStart, List.append_nil] at hBefore
  rw [pieces, hBefore] at hFound
  cases hFound

/- If there is neither, the look-ups find the same. -/
theorem unchanged_of_quiet
    {text : Bytes}
    (hText : newline ∉ text)
    (hHeaders : ∀ piece ∈ pieces text, headerName? piece = none)
    (hPairs : IsComment text →
      ∀ piece ∈ pieces text, pairOf? piece = none) :
    Unchanged text := by
  intro junk appname keyname deflt dest destsize
    before ending after hEnds hEnding hHarmless
  rw [getPrivateProfileString_lookup,
    getPrivateProfileString_lookup]
  have hHere : LiesIn appname before →
      ∀ piece ∈ pieces text, pairOf? piece = none :=
    fun hIn => hPairs (hHarmless.resolve_right
      (not_not.mpr hIn))
  congr 2
  rw [iniTexts_append hEnds, iniTexts_append hEnds]
  rcases hEnding with rfl | ⟨rfl, rfl⟩
  · have hEmpty := @lookup_middle appname before
      [[newline]] (iniTexts after) (by decide)
      (fun _ => by decide) keyname
    have hLine := @lookup_middle appname before
      (pieces text) (iniTexts after) hHeaders hHere keyname
    rw [iniTexts_append (endsLine_newline text)]
    exact hLine.trans hEmpty.symm
  · rw [List.append_nil, List.append_nil]
    have hLine := @lookup_middle appname before
      (iniTexts text) []
    rw [List.append_nil] at hLine
    apply hLine
    · intro piece hMem
      rcases iniTexts_of_pieces hText hMem with
        ⟨piece', hMem', hSame⟩
      rw [← headerName?_trimmed hSame]
      exact hHeaders piece' hMem'
    · intro hIn piece hMem
      rcases iniTexts_of_pieces hText hMem with
        ⟨piece', hMem', hSame⟩
      rw [← pairOf?_eq_none_trimmed hSame]
      exact hHere hIn piece' hMem'

/-
  A line is unchanged by emptying it exactly when no piece of
  it is a header and, for a comment, none holds a key.
-/
theorem unchanged_iff
    {text : Bytes}
    (hText : newline ∉ text) :
    Unchanged text ↔
      (∀ piece ∈ pieces text, headerName? piece = none) ∧
        (IsComment text →
          ∀ piece ∈ pieces text, pairOf? piece = none) := by
  constructor
  · intro hUnchanged
    exact ⟨hUnchanged.no_header, hUnchanged.no_pair⟩
  · rintro ⟨hHeaders, hPairs⟩
    exact unchanged_of_quiet hText hHeaders hPairs

------------------------------------------------------------
-- Pieces That Act
------------------------------------------------------------

/- A piece acts if it is a header or holds a key. -/
theorem acts_iff
    {read : Bytes}
    (hFits : read.length < iniBufSize) :
    Acts read ↔ headerName? (lineText read) ≠ none ∨
      pairOf? (lineText read) ≠ none := by
  have hTurns : ∀ appname keyname destsize (s : IniState),
      s.buf.length = iniBufSize →
      ∃ buf, iniLine appname keyname destsize read s =
        iniTurn appname keyname destsize (lineText read)
          { s with buf := buf } := by
    intro appname keyname destsize s hBuf
    rcases iniLine_of_holds appname keyname destsize
      (holdsAt_lineText (hFits.trans_eq hBuf.symm)) with
      ⟨buf, -, hTurn⟩
    exact ⟨buf, hTurn⟩
  constructor
  · rintro ⟨appname, keyname, destsize, s, s', hBuf, hRun,
      hDiffers⟩
    by_contra hQuiet
    rw [not_or, not_not, not_not] at hQuiet
    rcases hTurns appname keyname destsize s hBuf with
      ⟨buf, hTurn⟩
    rw [hTurn] at hRun
    unfold iniTurn at hRun
    rw [hQuiet.1, hQuiet.2] at hRun
    cases hRun
    exact hDiffers.elim (fun h => h rfl) fun h => h rfl
  · intro hSays
    have hBuf : (List.replicate iniBufSize (0 : UInt8)).length =
        iniBufSize := List.length_replicate
    cases hHeader : headerName? (lineText read) with
    | some name =>
        rcases hTurns name [] 0
          ⟨List.replicate iniBufSize 0, false, false, []⟩ hBuf
          with ⟨buf, hTurn⟩
        refine ⟨name, [], 0,
          ⟨List.replicate iniBufSize 0, false, false, []⟩,
          ⟨buf, true, false, []⟩, hBuf, ?_, .inl ?_⟩
        · rw [hTurn]
          unfold iniTurn
          rw [hHeader]
          simp
        · exact fun hSame => Bool.noConfusion hSame
    | none =>
        rcases Option.ne_none_iff_exists'.mp
          (hSays.resolve_left (not_not.mpr hHeader)) with
          ⟨⟨key, value⟩, hEntry⟩
        rcases hTurns [] key (value.length + 1)
          ⟨List.replicate iniBufSize 0, true, false,
            List.replicate (value.length + 1) 0⟩ hBuf
          with ⟨buf, hTurn⟩
        have hCopy : copyCut
            (List.replicate (value.length + 1) 0)
            (value.length + 1) value = some (overlay
              (List.replicate (value.length + 1) 0)
              (CString.store value)) := by
          unfold copyCut
          rw [if_neg (by omega), if_neg (by
            rw [List.length_replicate]
            omega)]
        refine ⟨[], key, value.length + 1,
          ⟨List.replicate iniBufSize 0, true, false,
            List.replicate (value.length + 1) 0⟩,
          ⟨buf, true, true, overlay
            (List.replicate (value.length + 1) 0)
            (CString.store value)⟩, hBuf, ?_, .inr ?_⟩
        · rw [hTurn]
          unfold iniTurn
          rw [hHeader, hEntry]
          simp [hCopy]
        · exact fun hSame => Bool.noConfusion hSame

/- What is left of a part when its blanks are skipped. -/
theorem dropWhile_of_prefix
    {p : UInt8 → Bool}
    {left right : Bytes}
    (hPrefix : left <+: right) :
    left.dropWhile p = [] ∨
      (left.dropWhile p).head? = (right.dropWhile p).head? := by
  rcases hPrefix with ⟨rest, rfl⟩
  rw [List.dropWhile_append]
  cases hLeft : left.dropWhile p with
  | nil => exact .inl rfl
  | cons b bs => exact .inr rfl

/- The first piece is the beginning of what is read. -/
theorem head_fgetsFrom
    {size room : Nat}
    {line file read : Bytes}
    (hHead : (fgetsFrom size line room file).head? =
      some read) :
    read <+: line ++ file := by
  induction file generalizing line room with
  | nil =>
      unfold fgetsFrom at hHead
      split at hHead
      · cases hHead
      · cases hHead
        exact List.prefix_append _ []
  | cons b file ih =>
      unfold fgetsFrom at hHead
      by_cases hCut : b = newline ∨ room ≤ 1
      · rw [if_pos hCut] at hHead
        cases hHead
        exact ⟨file, by simp⟩
      · rw [if_neg hCut] at hHead
        have hRest := ih hHead
        rw [List.append_assoc] at hRest
        exact hRest

/- The first piece of a comment holds no key. -/
theorem pairOf?_of_comment
    {text piece : Bytes}
    (hComment : IsComment text)
    (hHead : (pieces text).head? = some piece) :
    pairOf? piece = none := by
  rw [pieces, iniTexts, List.head?_map] at hHead
  rcases Option.map_eq_some_iff.mp hHead with
    ⟨read, hRead, rfl⟩
  have hPrefix : lineText read <+: text ++ [newline] := by
    unfold fgetsAll at hRead
    have hStarts := head_fgetsFrom hRead
    rw [List.nil_append] at hStarts
    exact (List.takeWhile_prefix _).trans hStarts
  rw [pairOf?_eq_none_iff]
  rintro ⟨hSome, hNot, -⟩
  rcases dropWhile_of_prefix (p := isSpace) hPrefix with
    hBlank | hSame
  · apply hSome
    rw [trimmed, Trim.trim, hBlank]
    rfl
  · apply hNot
    have hWhole : IsComment (text ++ [newline]) :=
      (isComment_trimmed (trimmed_newline text)).mpr hComment
    unfold IsComment trimmed at hWhole ⊢
    rw [Trim.head_trim] at hWhole ⊢
    rw [hSame]
    exact hWhole

/-
  A line is one line exactly when none of the pieces that it
  is read in looks like something of its own.
-/
theorem line_law_iff
    {text : Bytes}
    (hText : newline ∉ text) :
    LineLaw text ↔ LineWhole text := by
  unfold LineLaw LineWhole
  rw [unchanged_iff hText]
  have hTail : (pieces text).tail =
      (fgetsAll iniBufSize
        (text ++ [newline])).tail.map lineText :=
    List.map_tail.symm
  constructor
  · rintro ⟨⟨hNone, -⟩, hAlone⟩
    refine ⟨hNone, fun piece hMem => ?_⟩
    rw [hTail] at hMem
    rcases List.mem_map.mp hMem with ⟨read, hRead, rfl⟩
    have hFits := length_fgetsAll (List.mem_of_mem_tail hRead)
    rcases hAlone read hRead with ⟨hActs, hComment⟩
    rw [acts_iff hFits, not_or, not_not, not_not] at hActs
    exact ⟨hActs.2, hComment⟩
  · rintro ⟨hNone, hRest⟩
    refine ⟨⟨hNone, fun hComment piece hMem => ?_⟩,
      fun read hRead => ?_⟩
    · cases hPieces : pieces text with
      | nil =>
          rw [hPieces] at hMem
          cases hMem
      | cons first others =>
          rw [hPieces] at hMem hRest
          rcases List.mem_cons.mp hMem with rfl | hOther
          · exact pairOf?_of_comment hComment (by
              rw [hPieces]
              rfl)
          · exact (hRest piece hOther).1
    · have hMem : lineText read ∈ (pieces text).tail := by
        rw [hTail]
        exact List.mem_map.mpr ⟨read, hRead, rfl⟩
      have hFits := length_fgetsAll
        (List.mem_of_mem_tail hRead)
      rcases hRest _ hMem with ⟨hEntry, hComment⟩
      refine ⟨?_, hComment⟩
      rw [acts_iff hFits, not_or, not_not, not_not]
      exact ⟨hNone _ (List.mem_of_mem_tail hMem), hEntry⟩

/- A long comment of plain characters. -/
theorem plain_comment_whole :
    newline ∉ 35 :: List.replicate 300 (120 : UInt8) ∧
      LineLaw (35 :: List.replicate 300 120) := by
  have hText : newline ∉ 35 :: List.replicate 300 (120 : UInt8) :=
    by decide +kernel
  refine ⟨hText, (line_law_iff hText).mpr ⟨?_, ?_⟩⟩
  · decide +kernel
  · decide +kernel

/-
  A comment of 261 characters whose tail is read as a section
  header: the key below it is found only while it is there.
-/
theorem header_in_comment :
    ¬ ∀ text : Bytes, newline ∉ text → 255 < text.length →
      LineLaw text := by
  intro hLaw
  let text := 35 :: (List.replicate 254 120 ++ bytes "[main]")
  have hText : newline ∉ text := by decide +kernel
  have hLong : 255 < text.length := by decide +kernel
  have hComment : IsComment text := by decide +kernel
  have hUnchanged := (hLaw text hText hLong).1
  have hSame := hUnchanged (fun _ => 0) (bytes "main")
    (bytes "key") none (List.replicate 4 0) 4 [] [newline]
    (bytes "key=1") (.inl rfl) (.inl rfl) (.inl hComment)
  rw [getPrivateProfileString_lookup,
    getPrivateProfileString_lookup] at hSame
  have hFound : lookup (bytes "main") (bytes "key") false
      (iniTexts ([] ++ (text ++ [newline] ++ bytes "key=1"))) =
        some (bytes "1") := by
    decide +kernel
  have hNothing : lookup (bytes "main") (bytes "key") false
      (iniTexts ([] ++ ([newline] ++ bytes "key=1"))) =
        none := by
    decide +kernel
  rw [hFound, hNothing] at hSame
  revert hSame
  decide +kernel

end Libsocket
