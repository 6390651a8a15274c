import Libsocket.Ini.Lookup

/-
  What a look-up gives in any file, with lines of any length
  and with NULs in them.

  Main declarations:
    * `iniTexts`
    * `getPrivateProfileString_lookup`
    * `getPrivateProfileString_receives`
    * `getPrivateProfileString_finds`
-/

namespace Libsocket

------------------------------------------------------------
-- Texts Of A File
------------------------------------------------------------

/- What `fgets` reads leaves room for the NUL. -/
theorem length_fgetsFrom
    {size room : Nat}
    {line file read : Bytes}
    (hRoom : line.length + room ≤ size - 1)
    (hSome : 1 ≤ room)
    (hMem : read ∈ fgetsFrom size line room file) :
    read.length ≤ size - 1 := by
  induction file generalizing line room with
  | nil =>
      unfold fgetsFrom at hMem
      split at hMem
      · cases hMem
      · cases List.mem_singleton.mp hMem
        omega
  | cons b file ih =>
      unfold fgetsFrom at hMem
      by_cases hEnd : b = newline ∨ room ≤ 1
      · rw [if_pos hEnd] at hMem
        rcases List.mem_cons.mp hMem with rfl | hRest
        · rw [List.length_append, List.length_singleton]
          omega
        · apply ih _ _ hRest
          · rw [List.length_nil, Nat.zero_add]
          · omega
      · rw [if_neg hEnd] at hMem
        apply ih _ _ hMem
        · rw [List.length_append, List.length_singleton]
          omega
        · omega

theorem length_fgetsAll
    {file read : Bytes}
    (hMem : read ∈ fgetsAll iniBufSize file) :
    read.length < iniBufSize := by
  have hLength := length_fgetsFrom
    (by rw [List.length_nil, Nat.zero_add]) (by decide) hMem
  unfold iniBufSize at hLength ⊢
  omega

/- The texts that a look-up takes apart in a file. -/
def iniTexts (file : Bytes) : List Bytes :=
  (fgetsAll iniBufSize file).map lineText

theorem isText_iniTexts
    {file text : Bytes}
    (hMem : text ∈ iniTexts file) :
    CString.IsText text := by
  rcases List.mem_map.mp hMem with ⟨read, -, rfl⟩
  exact isText_lineText read

------------------------------------------------------------
-- Results Of Any File
------------------------------------------------------------

/- What the loop stores is what the texts give. -/
theorem iniLoop_dest
    {appname keyname : Bytes}
    {destsize : Nat}
    {reads : List Bytes}
    {s : IniState}
    (hRoom : ∀ read ∈ reads, read.length < s.buf.length)
    (hGoes : s.gotKey = false) :
    (iniLoop appname keyname destsize reads s).map
        (fun s => s.dest) =
      (lookup appname keyname s.inSection
        (reads.map lineText)).elim (some s.dest)
          (copyCut s.dest destsize) := by
  induction reads generalizing s with
  | nil => rfl
  | cons read reads ih =>
      have hHere := hRoom read List.mem_cons_self
      have hGo : ¬ s.gotKey = true := by simp [hGoes]
      rcases iniLine_of_holds appname keyname destsize
          (holdsAt_lineText hHere) with ⟨buf, hLength, hTurn⟩
      rw [iniLoop, if_neg hGo, hTurn, List.map_cons, lookup]
      by_cases hFound : s.inSection = true ∧
          (pairOf? (lineText read)).map Prod.fst = some keyname
      · rw [if_pos hFound]
        rcases hFound with ⟨hInside, hKey⟩
        rcases Option.map_eq_some_iff.mp hKey with
          ⟨⟨key, value⟩, hEntry, rfl⟩
        rw [iniTurn_of_entry (s := { s with buf := buf })
          hInside hEntry, hEntry]
        change _ = copyCut s.dest destsize value
        cases copyCut s.dest destsize value with
        | none => rfl
        | some dest =>
            cases reads with
            | nil => rfl
            | cons other reads => rfl
      · rw [if_neg hFound, iniTurn_of_other
          (s := { s with buf := buf }) hFound]
        apply ih (s := { s with
          buf := buf
          inSection := sectionAfter appname s.inSection
            (lineText read) })
        · intro other hOther
          rw [hLength]
          exact hRoom other (List.mem_cons_of_mem _ hOther)
        · exact hGoes

/-
  What is returned, once it is known what the texts give and
  the default has been stored.
-/
def lookedUp
    (destsize : Nat)
    (value : Option Bytes)
    (dest : Bytes) : Option (Bytes × Nat) :=
  (value.elim (some dest) (copyCut dest destsize)).bind
    fun dest => (CString.read? dest).map fun text =>
      (dest, text.length)

theorem iniLoop_file_dest
    (appname keyname : Bytes)
    (destsize : Nat)
    {buf dest : Bytes}
    (file : Bytes)
    (hBuf : buf.length = iniBufSize) :
    (iniLoop appname keyname destsize
        (fgetsAll iniBufSize file)
        ⟨buf, false, false, dest⟩).map (fun s => s.dest) =
      (lookup appname keyname false (iniTexts file)).elim
        (some dest) (copyCut dest destsize) := by
  apply iniLoop_dest (s := ⟨buf, false, false, dest⟩)
  · intro read hMem
    rw [hBuf]
    exact length_fgetsAll hMem
  · rfl

/- A look-up in any file is one in the texts of the file. -/
theorem getPrivateProfileString_lookup
    (junk : Fin iniBufSize → UInt8)
    (appname keyname : Bytes)
    (deflt : Option Bytes)
    (dest : Bytes)
    (destsize : Nat)
    (file : Bytes) :
    getPrivateProfileString junk (some appname) (some keyname)
        deflt dest destsize (some file) =
      (iniDefault deflt dest destsize).bind
        (lookedUp destsize
          (lookup appname keyname false (iniTexts file))) := by
  unfold getPrivateProfileString
  cases iniDefault deflt dest destsize with
  | none => rfl
  | some dest₀ =>
      have hDest := @iniLoop_file_dest appname keyname
        destsize (List.ofFn junk) dest₀ file List.length_ofFn
      dsimp only
      rw [Option.bind_eq_bind, Option.bind_some,
        Option.bind_some, lookedUp, ← hDest]
      cases iniLoop appname keyname destsize
          (fgetsAll iniBufSize file)
          ⟨List.ofFn junk, false, false, dest₀⟩ with
      | none => rfl
      | some s =>
          rw [Option.bind_eq_bind, Option.bind_some,
            Option.map_some, Option.bind_some]
          cases CString.read? s.dest with
          | none => rfl
          | some text => rfl

/- The value that a file gives to a key, if it can be opened. -/
def valueIn
    (file : Option Bytes)
    (appname keyname : Bytes) : Option Bytes :=
  file.bind fun file =>
    lookup appname keyname false (iniTexts file)

theorem isText_valueIn
    {file : Option Bytes}
    {appname keyname value : Bytes}
    (hValue : valueIn file appname keyname = some value) :
    CString.IsText value := by
  rcases Option.bind_eq_some_iff.mp hValue with
    ⟨text, -, hLookup⟩
  exact lookup_isText (fun _ hMem => isText_iniTexts hMem)
    hLookup

/-
  `dest` ends up with the value or the default, cut to its
  size. The length of it is returned if there is a file.
-/
theorem getPrivateProfileString_receives
    (junk : Fin iniBufSize → UInt8)
    (appname keyname : Bytes)
    {deflt : Option Bytes}
    {dest : Bytes}
    {destsize : Nat}
    (file : Option Bytes)
    (hRoom : destsize ≤ dest.length)
    (hSize : 1 ≤ destsize)
    (hDefault : ∀ text, deflt = some text →
      CString.IsText text) :
    ∃ dest' n,
      getPrivateProfileString junk (some appname)
        (some keyname) deflt dest destsize file =
          some (dest', n) ∧
      Receives dest destsize
        ((valueIn file appname keyname).getD
          (deflt.getD [])) dest' ∧
      (file.isSome = true →
        n = (((valueIn file appname keyname).getD
          (deflt.getD [])).take (destsize - 1)).length) := by
  rcases iniDefault_receives hDefault hRoom hSize with
    ⟨dest₀, hFirst, hBlank⟩
  cases file with
  | none =>
      refine ⟨dest₀, 0, ?_, hBlank, ?_⟩
      · unfold getPrivateProfileString
        simp only [hFirst, Option.bind_eq_bind,
          Option.bind_some, Option.pure_def]
      · intro hSome
        cases hSome
  | some file =>
      rw [getPrivateProfileString_lookup, hFirst,
        Option.bind_some, lookedUp]
      cases hLookup : lookup appname keyname false
          (iniTexts file) with
      | none =>
          have hValue : valueIn (some file) appname keyname =
              none := hLookup
          refine ⟨dest₀, _, ?_, ?_, fun _ => rfl⟩
          · change (CString.read? dest₀).map _ = _
            rw [hBlank.reads, hValue]
            rfl
          · rw [hValue]
            exact hBlank
      | some value =>
          have hValue : valueIn (some file) appname keyname =
              some value := hLookup
          rcases copyCut_receives (isText_valueIn hValue)
            (hRoom.trans (Nat.le_of_eq hBlank.length.symm))
            hSize with ⟨dest', hCopy, hGets⟩
          refine ⟨dest', _, ?_, ?_, fun _ => rfl⟩
          · change ((copyCut dest₀ destsize value).bind _) = _
            rw [hCopy, Option.bind_some, hGets.reads, hValue]
            rfl
          · rw [hValue]
            exact ⟨hGets.reads, hGets.rest.trans hBlank.rest,
              hGets.length.trans hBlank.length⟩

/- Lines that fit and have no NULs are the texts. -/
theorem iniTexts_of_fit
    {file : Bytes}
    (hLines : ∀ line ∈ physicalLines [] file,
      line.length ≤ iniBufSize - 1 ∧ CString.IsText line) :
    iniTexts file = physicalLines [] file := by
  unfold iniTexts
  rw [fgetsAll_eq fun line hLine => (hLines line hLine).1]
  conv_rhs => rw [← List.map_id (physicalLines [] file)]
  apply List.map_congr_left
  intro line hLine
  exact lineText_of_isText (hLines line hLine).2

/-
  Any text file whose lines fit the line buffer: `dest` ends
  up with what the lines give, or else the default.
-/
theorem getPrivateProfileString_eq
    {junk : Fin iniBufSize → UInt8}
    {appname keyname : Bytes}
    {deflt : Option Bytes}
    {dest file : Bytes}
    {destsize : Nat}
    (hRoom : destsize ≤ dest.length)
    (hSize : 1 ≤ destsize)
    (hDefault : ∀ text, deflt = some text →
      CString.IsText text)
    (hLines : ∀ line ∈ physicalLines [] file,
      line.length ≤ iniBufSize - 1 ∧ CString.IsText line) :
    ∃ dest', Receives dest destsize
        ((lookup appname keyname false
          (physicalLines [] file)).getD (deflt.getD [])) dest' ∧
      getPrivateProfileString junk (some appname)
        (some keyname) deflt dest destsize (some file) =
          some (dest', (((lookup appname keyname false
            (physicalLines [] file)).getD
              (deflt.getD [])).take (destsize - 1)).length) := by
  have hValue : valueIn (some file) appname keyname =
      lookup appname keyname false (physicalLines [] file) := by
    rw [← iniTexts_of_fit hLines]
    rfl
  rcases getPrivateProfileString_receives junk appname keyname
    (some file) hRoom hSize hDefault with
    ⟨dest', n, hRun, hReceives, hLength⟩
  rw [hValue] at hReceives hLength
  rw [hLength rfl] at hRun
  exact ⟨dest', hReceives, hRun⟩

/-
  `dest` ends up with the value of the first line with the
  key in a section of the name, or with the default if there
  is none, cut to its size. The length of it is returned.
-/
theorem getPrivateProfileString_finds
    {junk : Fin iniBufSize → UInt8}
    {appname keyname : Bytes}
    {deflt : Option Bytes}
    {dest file : Bytes}
    {destsize : Nat}
    (hRoom : destsize ≤ dest.length)
    (hSize : 1 ≤ destsize)
    (hDefault : ∀ text, deflt = some text →
      CString.IsText text)
    (hLines : ∀ line ∈ physicalLines [] file,
      line.length ≤ iniBufSize - 1 ∧ CString.IsText line) :
    ∃ dest' text,
      getPrivateProfileString junk (some appname)
        (some keyname) deflt dest destsize (some file) =
          some (dest', text.length) ∧
      CString.read? dest' = some text ∧
      dest'.drop destsize = dest.drop destsize ∧
      (∀ value, FirstCandidate appname keyname
        (physicalLines [] file) value →
          text = value.take (destsize - 1)) ∧
      ((∀ i value, ¬ Candidate appname keyname
        (physicalLines [] file) i value) →
          text = (deflt.getD []).take (destsize - 1)) := by
  rcases @getPrivateProfileString_eq junk appname keyname
      _ _ _ _ hRoom hSize hDefault hLines
    with ⟨dest', hGets, hRun⟩
  refine ⟨dest', _, hRun, hGets.reads, hGets.rest, ?_, ?_⟩
  · intro value hFirst
    rw [lookup_of_first hFirst]
    rfl
  · intro hNone
    cases hLookup : lookup appname keyname false
        (physicalLines [] file) with
    | none => rfl
    | some value =>
        rcases lookup_eq_some hLookup with ⟨i, hFound, -⟩
        exact absurd (candidate_iff.mp hFound)
          (hNone i value)

/- A file with one section and one key. -/
theorem getPrivateProfileString_finds_value :
    ∃ dest' text,
      getPrivateProfileString (fun _ => 0)
        (some (bytes "main")) (some (bytes "key"))
        (some (bytes "none")) (List.replicate 4 0) 4
        (some (bytes "[main]\n key = value \n")) =
          some (dest', text.length) ∧
      CString.read? dest' = some text ∧
      text = bytes "val" := by
  have hLines : ∀ line ∈ physicalLines []
      (bytes "[main]\n key = value \n"),
      line.length ≤ iniBufSize - 1 ∧ CString.IsText line := by
    decide
  have hDefault : ∀ text, some (bytes "none") = some text →
      CString.IsText text := by
    rintro text ⟨⟩
    decide
  rcases @getPrivateProfileString_finds (fun _ => 0)
      (bytes "main") (bytes "key") _ (List.replicate 4 0) _ 4
      (by decide) (by decide) hDefault hLines with
    ⟨dest', text, hRun, hReads, -, hFirst, -⟩
  refine ⟨dest', text, hRun, hReads, ?_⟩
  rw [hFirst (bytes "value") ?_]
  · decide
  · refine ⟨1, ⟨⟨0, bytes "[main]\n", by decide, by decide,
      by decide, fun k other hLow hHigh => by omega⟩,
      bytes " key = value \n", by decide, by decide⟩, ?_⟩
    rintro j other hLess ⟨⟨k, -, hBefore, -⟩, -⟩
    omega

end Libsocket
