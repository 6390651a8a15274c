import Libsocket.Ini.Texts
import Libsocket.Library.Cursor

/-
  The indices of the line buffer that a look-up reads and
  overwrites. The parser is given once more with checked
  accesses, and stops where the other one leaves the buffer.

  Main declarations:
    * `Checked.iniLine`, `Checked.getPrivateProfileString`
    * `LineSafe`, `FileSafe`
    * `Checked.iniLine_eq`
    * `stays_inside_iff`
-/

namespace Libsocket

open Cursor

------------------------------------------------------------
-- The Parser With Checked Accesses
------------------------------------------------------------

namespace Checked

/- The split at the equals sign. -/
def iniKey
    (keyname : Bytes)
    (destsize : Nat)
    (buf : Bytes)
    (line : Int)
    (s : IniState) : Checked (Option IniState) := do
  let p ← forward (fun b => b == equals || b == 0) buf line
  let found ← peek buf p
  if found = 0 then
    return some { s with buf := buf }
  else do
    let buf ← poke buf p 0
    let p := p + 1
    let key ← stringAt buf line
    let buf ← backward isSpace buf (line + key.length - 1)
    let key ← stringAt buf line
    if keyname ≠ key then
      return some { s with buf := buf }
    else do
      let p ← forward (fun b => !isSpace b) buf p
      let value ← stringAt buf p
      match copyCut s.dest destsize value with
      | none => return none
      | some dest =>
          return some { s with
            buf := buf
            gotKey := true
            dest := dest }

/- Whether a line that begins with `first` is a header. -/
def isHeader
    (buf : Bytes)
    (line : Int)
    (first : UInt8) : Checked Bool :=
  if first = leftBracket then do
    let text ← stringAt buf line
    let last ← peek buf (line + text.length - 1)
    return last == rightBracket
  else
    return false

/- One turn of the loop. -/
def iniLine
    (appname keyname : Bytes)
    (destsize : Nat)
    (read : Bytes)
    (s : IniState) : Checked (Option IniState) := do
  let buf := overlay s.buf (CString.store read)
  let line ← forward (fun b => !isSpace b) buf 0
  let first ← peek buf line
  if first = semicolon ∨ first = hash then
    return some { s with buf := buf }
  else do
    let text ← stringAt buf line
    let buf ← backward isSpace buf (line + text.length - 1)
    let first ← peek buf line
    if first = 0 then
      return some { s with buf := buf }
    else do
      let header ← isHeader buf line first
      if header then do
        let line := line + 1
        let text ← stringAt buf line
        let buf ← poke buf (line + text.length - 1) 0
        let name ← stringAt buf line
        return some { s with
          buf := buf
          inSection := decide (name = appname) }
      else if s.inSection = false then
        return some { s with buf := buf }
      else
        iniKey keyname destsize buf line s

def iniLoop
    (appname keyname : Bytes)
    (destsize : Nat) :
    List Bytes → IniState → Checked (Option IniState)
| [], s => return some s
| read :: reads, s =>
    if s.gotKey then
      return some s
    else do
      let turn ← iniLine appname keyname destsize read s
      match turn with
      | none => return none
      | some s => iniLoop appname keyname destsize reads s

/- `GetPrivateProfileString` -/
def getPrivateProfileString
    (junk : Fin iniBufSize → UInt8)
    (appname keyname deflt : Option Bytes)
    (dest : Bytes)
    (destsize : Nat)
    (file : Option Bytes) : Checked (Option (Bytes × Nat)) :=
  match appname, keyname with
  | some appname, some keyname =>
      match iniDefault deflt dest destsize with
      | none => return none
      | some dest =>
          match file with
          | none => return some (dest, 0)
          | some file => do
              let s ← iniLoop appname keyname destsize
                (fgetsAll iniBufSize file)
                ⟨List.ofFn junk, false, false, dest⟩
              return s.bind fun s =>
                (CString.read? s.dest).map fun text =>
                  (s.dest, text.length)
  | _, _ => return some (dest, 0)

end Checked

------------------------------------------------------------
-- Lines That Are Safe
------------------------------------------------------------

/-
  A comment, or a line that is not blank and does not begin
  with the equals sign inside the section.
-/
def LineSafe (inSection : Bool) (text : Bytes) : Prop :=
  IsComment text ∨ trimmed text ≠ [] ∧
    ((trimmed text).head? = some equals → inSection = false)

instance (inSection : Bool) (text : Bytes) :
    Decidable (LineSafe inSection text) :=
  inferInstanceAs (Decidable (_ ∨ _ ∧ (_ → _)))

/- A line is blank if trimming leaves nothing of it. -/
theorem all_isSpace_iff (text : Bytes) :
    text.all isSpace = true ↔ trimmed text = [] := by
  rw [List.all_eq_true]
  constructor
  · exact Trim.trim_eq_nil_of_all
  · intro hNil b hB
    by_contra hNot
    have hMem : b ∈ trimmed text :=
      (Trim.mem_trim_iff (by simpa using hNot)).mpr hB
    rw [hNil] at hMem
    cases hMem

/- What a comment is can be seen in the buffer. -/
theorem isComment_iff_getD
    {buf text : Bytes}
    {line : Nat}
    (hLine : CString.HoldsAt buf line
      (text.dropWhile isSpace)) :
    (buf.getD line 0 = semicolon ∨ buf.getD line 0 = hash) ↔
      IsComment text := by
  rw [hLine.getD_eq, head_eq_iff (by decide),
    head_eq_iff (by decide), ← Trim.head_trim]
  rfl

/- Where a string of this length ends. -/
theorem last_index (line n : Nat) :
    (line : Int) + (n : Int) - 1 = ((line + n : Nat) : Int) - 1 :=
  rfl

/- Trimming leaves what lies in front of other characters. -/
theorem take_trimBack
    {p : UInt8 → Bool}
    {buf : Bytes}
    {j k : Nat}
    (hInside : j < k)
    (hStops : p (buf.getD j 0) = false) :
    (CString.trimBack p buf k).take (j + 1) =
      buf.take (j + 1) := by
  induction k generalizing buf with
  | zero => cases hInside
  | succ k ih =>
      rw [CString.trimBack]
      by_cases hClass : p (buf.getD k 0) = true
      · have hNe : j ≠ k := by
          rintro rfl
          rw [hStops] at hClass
          cases hClass
        have hSame : (buf.set k 0).getD j 0 = buf.getD j 0 := by
          simp [List.getD, List.getElem?_set_ne hNe.symm]
        rw [if_pos hClass, ih (by omega) (by rw [hSame]
                                             exact hStops),
          List.take_set_of_le (by omega)]
      · rw [if_neg hClass]

------------------------------------------------------------
-- One Line
------------------------------------------------------------

/- A string at the first character that is not blank. -/
structure AtText
    (buf : Bytes)
    (line : Nat)
    (text : Bytes) : Prop where
  holds : CString.HoldsAt buf line text
  front : (buf.take line).all isSpace = true
  first : ∀ b, text.head? = some b → isSpace b = false

/- The bytes up to somewhere in a string. -/
theorem take_of_holds
    {buf left right : Bytes}
    {i : Nat}
    (hHolds : CString.HoldsAt buf i (left ++ right)) :
    buf.take (i + left.length) = buf.take i ++ left := by
  rcases hHolds with ⟨-, front, rest, rfl, rfl⟩
  rw [List.append_assoc, List.append_assoc, List.take_left,
    List.take_append, List.take_of_length_le (by omega),
    Nat.add_sub_cancel_left, List.take_left]

/- A string ends with a NUL. -/
theorem getD_end
    {buf text : Bytes}
    {i : Nat}
    (hHolds : CString.HoldsAt buf i text) :
    buf.getD (i + text.length) 0 = 0 := by
  rw [← List.append_nil text] at hHolds
  rw [hHolds.behind.getD_eq]
  rfl

/- What is in front of a character in a string. -/
theorem takeWhile_eq_before
    {text : Bytes}
    (hText : CString.IsText text)
    (c : UInt8) :
    (text.takeWhile fun b => !(b == c || b == 0)) =
      Cut.before c text := by
  induction text with
  | nil => rfl
  | cons b bs ih =>
      have hRest : CString.IsText bs := fun x hX =>
        hText x (List.mem_cons_of_mem b hX)
      have hNonzero : (b == 0) = false := by
        simpa using hText b List.mem_cons_self
      rw [List.takeWhile_cons, ih hRest, Cut.before, hNonzero,
        Bool.or_false]
      by_cases hHere : b = c
      · rw [if_pos hHere, beq_iff_eq.mpr hHere]
        rfl
      · rw [if_neg hHere, beq_false_of_ne hHere]
        rfl

/- What the equals sign is the first character of. -/
theorem before_eq_nil_iff
    {text : Bytes}
    {c : UInt8}
    (hMem : c ∈ text) :
    Cut.before c text = [] ↔ text.head? = some c := by
  cases text with
  | nil => cases hMem
  | cons b bs =>
      rw [Cut.before]
      by_cases hHere : b = c
      · simp [hHere]
      · simp [hHere]

/-
  The part that looks for the key leaves the buffer only if
  there is nothing in front of the equals sign.
-/
theorem Checked.iniKey_eq
    (keyname : Bytes)
    (destsize : Nat)
    {buf text : Bytes}
    {line : Nat}
    {s : IniState}
    (hAt : AtText buf line text) :
    Checked.iniKey keyname destsize buf line s =
      if text.head? = some equals then
        .error (-1)
      else
        .ok (Libsocket.iniKey keyname destsize buf line s) := by
  rcases hAt with ⟨hHolds, hFront, hFirst⟩
  have hWalk := @forward_eq _ _ _
    (fun b => b == equals || b == 0) hHolds rfl
  rw [takeWhile_eq_before hHolds.1] at hWalk
  unfold Checked.iniKey Libsocket.iniKey
  rw [hWalk, ok_bind, hHolds.strchr_eq]
  by_cases hMem : equals ∈ text
  · have hShape := Cut.before_cons_after hMem
    have hBlank := before_eq_nil_iff hMem
    rw [if_pos hMem]
    generalize Cut.before equals text = key at hShape hBlank ⊢
    generalize Cut.after equals text = value at hShape ⊢
    subst hShape
    have hSign : buf.getD (line + key.length) 0 = equals := by
      rw [hHolds.behind.getD_eq]
      rfl
    have hInside := end_lt hHolds
    rw [List.length_append] at hInside
    have hHere : line + key.length < buf.length := by
      omega
    rcases hHolds.cut with ⟨hLeft, hRight⟩
    have hKey := hLeft.trimBack (p := isSpace)
    have hValue := hRight.trimBack_behind (p := isSpace)
      (k := line + key.length) (by omega)
    have hLength : line + key.length ≤
        (buf.set (line + key.length) 0).length := by
      rw [List.length_set]
      omega
    have hTake : (buf.set (line + key.length) 0).take
        (line + key.length) = buf.take line ++ key := by
      rw [List.take_set_of_le (Nat.le_refl _),
        take_of_holds hHolds]
    rw [peek_of_lt hHere, ok_bind, hSign, if_neg (by decide),
      poke_of_lt hHere, ok_bind]
    dsimp only
    rw [stringAt_eq hLeft, ok_bind, hLeft.textAt_eq,
      last_index, backward_eq hLength, hTake, List.all_append,
      hFront, Bool.true_and]
    by_cases hNone : key = []
    · rw [if_pos (hBlank.mp hNone), hNone]
      rfl
    · have hSome : ¬ key.all isSpace = true := by
        rcases List.exists_cons_of_ne_nil hNone with
          ⟨b, bs, rfl⟩
        have hB := hFirst b rfl
        simp [hB]
      rw [if_neg fun h => hNone (hBlank.mpr h), if_neg hSome,
        ok_bind, stringAt_eq hKey, ok_bind, hKey.textAt_eq]
      by_cases hSame : keyname = key.rdropWhile isSpace
      · have hNext : ((line + key.length : Nat) : Int) + 1 =
            ((line + key.length + 1 : Nat) : Int) := rfl
        have hSkipped := hValue.skip (p := isSpace) (by decide)
        rw [if_neg (not_not.mpr hSame),
          if_neg (not_not.mpr hSame), hNext,
          forward_skip hValue (by decide), ok_bind,
          stringAt_eq hSkipped, ok_bind, hSkipped.textAt_eq]
        cases copyCut s.dest destsize
            (value.dropWhile isSpace) with
        | none => rfl
        | some dest => rfl
      · rw [if_pos hSame, if_pos hSame]
        rfl
  · have hNot : text.head? ≠ some equals := by
      intro hHead
      exact hMem (List.mem_of_head? hHead)
    rw [Cut.before_of_not_mem hMem,
      peek_of_lt (end_lt hHolds), ok_bind, getD_end hHolds,
      if_pos rfl,
      if_neg hNot, if_neg hMem]
    rfl

/- A header is recognised without leaving the buffer. -/
theorem Checked.isHeader_eq
    {buf text : Bytes}
    {line : Nat}
    (hHolds : CString.HoldsAt buf line text)
    (hSome : text ≠ []) :
    Checked.isHeader buf line (buf.getD line 0) =
      .ok (decide (buf.getD line 0 = leftBracket ∧
        buf.getD (line + text.length - 1) 0 =
          rightBracket)) := by
  have hEnd := end_lt hHolds
  have hLength := List.length_pos_of_ne_nil hSome
  have hIndex : (line : Int) + (text.length : Int) - 1 =
      ((line + text.length - 1 : Nat) : Int) := by
    omega
  unfold Checked.isHeader
  by_cases hFirst : buf.getD line 0 = leftBracket
  · rw [if_pos hFirst, stringAt_eq hHolds, ok_bind,
      hHolds.textAt_eq, hIndex, peek_of_lt (by omega), ok_bind]
    simp only [hFirst, true_and]
    rfl
  · rw [if_neg hFirst]
    simp only [hFirst, false_and]
    rfl

/- What a header looks like. -/
theorem header_shape
    {buf text : Bytes}
    {line : Nat}
    (hHolds : CString.HoldsAt buf line text)
    (hHead : buf.getD line 0 = leftBracket)
    (hLast : buf.getD (line + text.length - 1) 0 =
      rightBracket) :
    ∃ name, text = [leftBracket] ++ (name ++ [rightBracket]) := by
  rw [hHolds.getD_eq, head_eq_iff (by decide)] at hHead
  rcases List.head?_eq_some_iff.mp hHead with ⟨rest, rfl⟩
  rcases List.eq_nil_or_concat rest with rfl | ⟨name, b, rfl⟩
  · rw [List.length_singleton, Nat.add_sub_cancel,
      hHolds.getD_eq] at hLast
    exact absurd hLast (by decide)
  · rw [List.concat_eq_append] at hHolds hLast ⊢
    rw [← List.cons_append] at hHolds hLast
    rw [hHolds.getD_last] at hLast
    rw [hLast]
    exact ⟨name, rfl⟩

/- What is left of a line when both its ends are trimmed. -/
theorem atText_trimBack
    {buf : Bytes}
    {line : Nat}
    {text : Bytes}
    (hWhole : CString.HoldsAt buf 0 text)
    (hLine : CString.HoldsAt buf line (text.dropWhile isSpace))
    (hIndex : line = (text.takeWhile isSpace).length)
    (hSome : trimmed text ≠ []) :
    AtText (CString.trimBack isSpace buf
      (line + (text.dropWhile isSpace).length)) line
      (trimmed text) := by
  have hStops : isSpace (buf.getD line 0) = false := by
    rw [hLine.getD_eq]
    cases hHead : (text.dropWhile isSpace).head? with
    | none => rfl
    | some b => exact Trim.head_dropWhile hHead
  have hBehind : line <
      line + (text.dropWhile isSpace).length := by
    have hRest : text.dropWhile isSpace ≠ [] := by
      intro hNil
      unfold trimmed Trim.trim at hSome
      rw [hNil] at hSome
      exact hSome rfl
    have hPos := List.length_pos_of_ne_nil hRest
    omega
  have hStays := congrArg (List.take line)
    (take_trimBack hBehind hStops)
  rw [List.take_take, List.take_take,
    Nat.min_eq_left (Nat.le_succ line)] at hStays
  have hBlanks : buf.take line = text.takeWhile isSpace := by
    rw [← List.takeWhile_append_dropWhile (p := isSpace)
      (l := text)] at hWhole
    have hFront := take_of_holds hWhole
    rw [Nat.zero_add, List.take_zero, List.nil_append] at hFront
    rw [hIndex, hFront]
  constructor
  · exact hLine.trimBack
  · rw [hStays, hBlanks]
    exact List.all_takeWhile
  · intro b hB
    rw [trimmed, Trim.head_trim] at hB
    exact Trim.head_dropWhile hB

/-
  A turn leaves the buffer if the line is not safe: it reads
  the byte in front of the buffer.
-/
theorem Checked.iniLine_eq
    (appname keyname : Bytes)
    (destsize : Nat)
    {read : Bytes}
    {s : IniState}
    (hRoom : read.length < s.buf.length) :
    Checked.iniLine appname keyname destsize read s =
      if LineSafe s.inSection (lineText read) then
        .ok (Libsocket.iniLine appname keyname destsize read s)
      else
        .error (-1) := by
  have hWhole := holdsAt_lineText hRoom
  generalize lineText read = text at hWhole ⊢
  have hLine := hWhole.skip (p := isSpace) (by decide)
  have hIndex := hWhole.skip_eq (p := isSpace) (by decide)
  unfold Checked.iniLine Libsocket.iniLine
  generalize overlay s.buf (CString.store read) = buf₀
    at hWhole hLine hIndex ⊢
  have hStart := forward_skip (p := isSpace) hWhole (by decide)
  dsimp only
  rw [Nat.zero_add] at hIndex
  have hZero : ((0 : Nat) : Int) = 0 := rfl
  rw [hZero] at hStart
  rw [hStart, ok_bind, peek_eq hLine, ok_bind]
  generalize CString.skip isSpace buf₀ 0 = line
    at hLine hIndex ⊢
  by_cases hComment : IsComment text
  · have hHere := (isComment_iff_getD hLine).mpr hComment
    rw [if_pos hHere, if_pos hHere, if_pos (.inl hComment)]
    rfl
  have hNot := fun h => hComment ((isComment_iff_getD hLine).mp h)
  rw [if_neg hNot, if_neg hNot, stringAt_eq hLine, ok_bind,
    hLine.textAt_eq, last_index]
  have hLength : line + (text.dropWhile isSpace).length =
      text.length := by
    have hAll := congrArg List.length
      (List.takeWhile_append_dropWhile (p := isSpace)
        (l := text))
    rw [List.length_append] at hAll
    omega
  have hTake : buf₀.take
      (line + (text.dropWhile isSpace).length) = text := by
    rw [← List.append_nil text] at hWhole
    have hFront := take_of_holds hWhole
    rw [Nat.zero_add, List.take_zero, List.nil_append]
      at hFront
    rw [hLength, hFront]
  have hInside := end_lt hWhole
  rw [backward_eq (by omega), hTake]
  by_cases hBlank : trimmed text = []
  · rw [if_pos ((all_isSpace_iff text).mpr hBlank), if_neg]
    · rfl
    · intro hSafe
      exact hSafe.elim hComment fun h => h.1 hBlank
  have hSome : ¬ text.all isSpace = true := fun h =>
    hBlank ((all_isSpace_iff text).mp h)
  rw [if_neg hSome, ok_bind]
  have hAt := atText_trimBack hWhole hLine hIndex hBlank
  generalize CString.trimBack isSpace buf₀
    (line + (text.dropWhile isSpace).length) = buf₁ at hAt ⊢
  have hTrimmed := hAt.holds
  rw [peek_eq hTrimmed, ok_bind, hTrimmed.textAt_eq]
  have hNonzero : buf₁.getD line 0 ≠ 0 := by
    rw [hTrimmed.getD_eq, Ne, head_eq_zero_iff hTrimmed.1]
    exact hBlank
  rw [if_neg hNonzero, if_neg hNonzero,
    isHeader_eq hTrimmed hBlank, ok_bind]
  by_cases hHeader : buf₁.getD line 0 = leftBracket ∧
      buf₁.getD (line + (trimmed text).length - 1) 0 =
        rightBracket
  · rcases header_shape hTrimmed hHeader.1 hHeader.2 with
      ⟨name, hShape⟩
    have hSafe : LineSafe s.inSection text := by
      refine .inr ⟨hBlank, fun h => ?_⟩
      rw [hShape] at h
      exact absurd (Option.some.inj h) (by decide)
    rw [if_pos (by simpa using hHeader), if_pos hHeader,
      if_pos hSafe]
    rw [hShape] at hTrimmed
    have hTail : CString.HoldsAt buf₁ (line + 1)
      (name ++ [rightBracket]) := hTrimmed.behind
    have hName := hTail.cut.1
    have hEnd := end_lt hTail
    have hNext : (line : Int) + 1 = ((line + 1 : Nat) : Int) :=
      rfl
    rw [List.length_append, List.length_singleton] at hEnd
    rw [hNext, stringAt_eq hTail, ok_bind, hTail.textAt_eq]
    have hNat : line + 1 + (name ++ [rightBracket]).length -
        1 = line + 1 + name.length := by
      rw [List.length_append, List.length_singleton]
      omega
    have hInt : ((line + 1 : Nat) : Int) +
        ((name ++ [rightBracket]).length : Int) - 1 =
          ((line + 1 + name.length : Nat) : Int) := by
      rw [List.length_append, List.length_singleton]
      omega
    rw [hNat, hInt, poke_of_lt (by omega), ok_bind,
      stringAt_eq hName, ok_bind]
    rfl
  · rw [if_neg (by simpa using hHeader), if_neg hHeader]
    by_cases hOut : s.inSection = false
    · rw [if_pos hOut, if_pos hOut, if_pos]
      · rfl
      · exact .inr ⟨hBlank, fun _ => hOut⟩
    · rw [if_neg hOut, if_neg hOut,
        Checked.iniKey_eq keyname destsize hAt]
      by_cases hHead : (trimmed text).head? = some equals
      · rw [if_pos hHead, if_neg]
        intro hSafe
        rcases hSafe with hIs | ⟨-, hFirst⟩
        · exact hComment hIs
        · exact hOut (hFirst hHead)
      · rw [if_neg hHead, if_pos]
        exact .inr ⟨hBlank, fun h => absurd h hHead⟩

------------------------------------------------------------
-- All Lines
------------------------------------------------------------

/-
  Every line that is looked at is safe: those up to the one
  with the key, or all of them.
-/
def TextsSafeFrom
    (appname keyname : Bytes)
    (inSection : Bool)
    (texts : List Bytes) : Prop :=
  ∀ i text, texts[i]? = some text →
    (∀ j value, j < i → ¬ CandidateFrom appname keyname
      inSection texts j value) →
    IsComment text ∨ trimmed text ≠ [] ∧
      ((trimmed text).head? = some equals →
        ¬ InsideFrom appname inSection texts i)

/- Lines behind the one with the key do not matter. -/
theorem textsSafeFrom_of_entry
    {appname keyname text value : Bytes}
    {inSection : Bool}
    {texts : List Bytes}
    (hInside : inSection = true)
    (hEntry : pairOf? text = some (keyname, value)) :
    TextsSafeFrom appname keyname inSection (text :: texts) ↔
      LineSafe inSection text := by
  constructor
  · intro hSafe
    have hFirst := hSafe 0 text rfl
      (fun j _ hJ => absurd hJ (Nat.not_lt_zero j))
    rw [insideFrom_zero, Bool.not_eq_true] at hFirst
    exact hFirst
  · intro hSafe i other hAt hNone
    cases i with
    | zero =>
        cases hAt
        rw [insideFrom_zero, Bool.not_eq_true]
        exact hSafe
    | succ i =>
        exact absurd (candidateFrom_zero.mpr
          ⟨hInside, hEntry⟩) (hNone 0 value (Nat.succ_pos i))

/- Otherwise the next lines are looked at. -/
theorem textsSafeFrom_of_other
    {appname keyname text : Bytes}
    {inSection : Bool}
    {texts : List Bytes}
    (hOther : ¬ (inSection = true ∧
      (pairOf? text).map Prod.fst = some keyname)) :
    TextsSafeFrom appname keyname inSection (text :: texts) ↔
      LineSafe inSection text ∧
        TextsSafeFrom appname keyname
          (sectionAfter appname inSection text) texts := by
  have hFirst : ∀ value, ¬ CandidateFrom appname keyname
      inSection (text :: texts) 0 value := by
    intro value hBad
    rcases candidateFrom_zero.mp hBad with ⟨hIn, hEntry⟩
    exact hOther ⟨hIn, by rw [hEntry]; rfl⟩
  constructor
  · intro hSafe
    constructor
    · have hHere := hSafe 0 text rfl
        (fun j _ hJ => absurd hJ (Nat.not_lt_zero j))
      rw [insideFrom_zero, Bool.not_eq_true] at hHere
      exact hHere
    · intro i other hAt hNone
      rw [← insideFrom_succ]
      apply hSafe (i + 1) other hAt
      intro j value hJ hBad
      cases j with
      | zero => exact hFirst value hBad
      | succ j =>
          exact hNone j value (Nat.lt_of_succ_lt_succ hJ)
            (candidateFrom_succ.mp hBad)
  · rintro ⟨hHere, hRest⟩ i other hAt hNone
    cases i with
    | zero =>
        cases hAt
        rw [insideFrom_zero, Bool.not_eq_true]
        exact hHere
    | succ i =>
        rw [insideFrom_succ]
        apply hRest i other hAt
        intro j value hJ hBad
        exact hNone (j + 1) value (Nat.succ_lt_succ hJ)
          (candidateFrom_succ.mpr hBad)

/- The loop stays inside if every line it reaches is safe. -/
theorem Checked.iniLoop_inside_iff
    {appname keyname : Bytes}
    {destsize : Nat}
    {reads : List Bytes}
    {s : IniState}
    (hRoom : ∀ read ∈ reads, read.length < s.buf.length)
    (hGoes : s.gotKey = false) :
    (∀ i, Checked.iniLoop appname keyname destsize reads s ≠
        .error i) ↔
      TextsSafeFrom appname keyname s.inSection
        (reads.map lineText) := by
  induction reads generalizing s with
  | nil =>
      apply iff_of_true
      · intro i hError
        cases hError
      · intro i text hNone
        cases hNone
  | cons read reads ih =>
      have hHere := hRoom read List.mem_cons_self
      have hGo : ¬ s.gotKey = true := by simp [hGoes]
      rcases iniLine_of_holds appname keyname destsize
          (holdsAt_lineText hHere) with ⟨buf, hLength, hTurn⟩
      rw [Checked.iniLoop, if_neg hGo,
        Checked.iniLine_eq appname keyname destsize hHere,
        List.map_cons]
      by_cases hFound : s.inSection = true ∧
          (pairOf? (lineText read)).map Prod.fst = some keyname
      · rcases hFound with ⟨hInside, hKey⟩
        rcases Option.map_eq_some_iff.mp hKey with
          ⟨⟨key, value⟩, hEntry, rfl⟩
        rw [textsSafeFrom_of_entry hInside hEntry]
        by_cases hSafe : LineSafe s.inSection (lineText read)
        · rw [if_pos hSafe, ok_bind, hTurn, iniTurn_of_entry
            (s := { s with buf := buf }) hInside hEntry]
          apply iff_of_true _ hSafe
          intro i hError
          cases hCopy : copyCut s.dest destsize value with
          | none =>
              rw [hCopy] at hError
              cases hError
          | some dest =>
              rw [hCopy] at hError
              cases reads with
              | nil => cases hError
              | cons other reads => cases hError
        · rw [if_neg hSafe]
          apply iff_of_false _ hSafe
          intro hNone
          exact hNone (-1) rfl
      · rw [textsSafeFrom_of_other hFound]
        by_cases hSafe : LineSafe s.inSection (lineText read)
        · rw [if_pos hSafe, ok_bind, hTurn, iniTurn_of_other
            (s := { s with buf := buf }) hFound]
          rw [and_iff_right hSafe]
          apply ih (s := { s with
            buf := buf
            inSection := sectionAfter appname s.inSection
              (lineText read) })
          · intro other hOther
            rw [hLength]
            exact hRoom other (List.mem_cons_of_mem _ hOther)
          · exact hGoes
        · rw [if_neg hSafe]
          apply iff_of_false
          · intro hNone
            exact hNone (-1) rfl
          · exact fun h => hSafe h.1

/- A turn leaves the buffer to the next one as it is. -/
theorem iniTurn_buf
    {appname keyname line : Bytes}
    {destsize : Nat}
    {s s' : IniState}
    (hTurn : iniTurn appname keyname destsize line s =
      some s') :
    s'.buf = s.buf := by
  by_cases hFound : s.inSection = true ∧
      (pairOf? line).map Prod.fst = some keyname
  · rcases Option.map_eq_some_iff.mp hFound.2 with
      ⟨⟨key, value⟩, hEntry, rfl⟩
    rw [iniTurn_of_entry hFound.1 hEntry] at hTurn
    rcases Option.map_eq_some_iff.mp hTurn with ⟨dest, -, rfl⟩
    rfl
  · rw [iniTurn_of_other hFound] at hTurn
    cases hTurn
    rfl

/- A look-up that stays inside is the one without checks. -/
theorem Checked.iniLoop_eq
    {appname keyname : Bytes}
    {destsize : Nat}
    {reads : List Bytes}
    {s : IniState}
    {r : Option IniState}
    (hRoom : ∀ read ∈ reads, read.length < s.buf.length)
    (hRun : Checked.iniLoop appname keyname destsize reads s =
      .ok r) :
    r = Libsocket.iniLoop appname keyname destsize reads s := by
  induction reads generalizing s with
  | nil =>
      cases hRun
      rfl
  | cons read reads ih =>
      have hHere := hRoom read List.mem_cons_self
      rcases iniLine_of_holds appname keyname destsize
          (holdsAt_lineText hHere) with ⟨buf, hLength, hTurn⟩
      rw [Checked.iniLoop] at hRun
      rw [Libsocket.iniLoop]
      by_cases hGot : s.gotKey = true
      · rw [if_pos hGot] at hRun ⊢
        cases hRun
        rfl
      rw [if_neg hGot, Checked.iniLine_eq appname keyname
        destsize hHere] at hRun
      rw [if_neg hGot]
      by_cases hSafe : LineSafe s.inSection (lineText read)
      · rw [if_pos hSafe, ok_bind] at hRun
        rw [hTurn] at hRun ⊢
        cases hNext : iniTurn appname keyname destsize
            (lineText read) { s with buf := buf } with
        | none =>
            rw [hNext] at hRun
            cases hRun
            rfl
        | some s' =>
            rw [hNext] at hRun
            apply ih _ hRun
            intro other hOther
            rw [iniTurn_buf hNext, hLength]
            exact hRoom other (List.mem_cons_of_mem _ hOther)
      · rw [if_neg hSafe] at hRun
        cases hRun

------------------------------------------------------------
-- The Look-Up
------------------------------------------------------------

/-
  Each text up to the one with the key is a comment, or it is
  not blank, and does not begin with the equals sign if it
  lies in the section.
-/
def FileSafe (appname keyname : Bytes) (file : Bytes) : Prop :=
  ∀ i text, (iniTexts file)[i]? = some text →
    (∀ j value, j < i → ¬ Candidate appname keyname
      (iniTexts file) j value) →
    IsComment text ∨ trimmed text ≠ [] ∧
      ((trimmed text).head? = some equals →
        ¬ Inside appname (iniTexts file) i)

theorem fileSafe_iff (appname keyname file : Bytes) :
    FileSafe appname keyname file ↔
      TextsSafeFrom appname keyname false (iniTexts file) := by
  unfold FileSafe TextsSafeFrom
  simp only [candidate_iff, InsideFrom, Bool.false_eq_true,
    false_and, or_false]

/- The loop as it is entered, with a buffer of its size. -/
theorem Checked.iniLoop_file
    (appname keyname : Bytes)
    (destsize : Nat)
    {buf dest : Bytes}
    (file : Bytes)
    (hBuf : buf.length = iniBufSize) :
    ((∀ i, Checked.iniLoop appname keyname destsize
        (fgetsAll iniBufSize file) ⟨buf, false, false, dest⟩ ≠
          .error i) ↔ FileSafe appname keyname file) ∧
    ∀ r, Checked.iniLoop appname keyname destsize
        (fgetsAll iniBufSize file) ⟨buf, false, false, dest⟩ =
          .ok r →
      r = Libsocket.iniLoop appname keyname destsize
        (fgetsAll iniBufSize file)
        ⟨buf, false, false, dest⟩ := by
  have hReads : ∀ read ∈ fgetsAll iniBufSize file,
      read.length < buf.length := by
    intro read hMem
    rw [hBuf]
    exact length_fgetsAll hMem
  rw [fileSafe_iff]
  constructor
  · exact Checked.iniLoop_inside_iff
      (s := ⟨buf, false, false, dest⟩) hReads rfl
  · intro r hRun
    exact Checked.iniLoop_eq
      (s := ⟨buf, false, false, dest⟩) hReads hRun

/- A default is stored in a buffer of its size. -/
theorem iniDefault_ne_none
    (deflt : Option Bytes)
    {dest : Bytes}
    {destsize : Nat}
    (hRoom : destsize ≤ dest.length)
    (hSize : 1 ≤ destsize) :
    iniDefault deflt dest destsize ≠ none := by
  cases deflt with
  | none =>
      unfold iniDefault
      rw [if_neg]
      · exact Option.some_ne_none _
      · rintro rfl
        rw [List.length_nil] at hRoom
        omega
  | some text =>
      unfold iniDefault copyCut
      dsimp only
      by_cases hCut : destsize < text.length + 1
      · rw [if_pos hCut, if_neg (by omega)]
        exact Option.some_ne_none _
      · rw [if_neg hCut, if_neg (by omega)]
        exact Option.some_ne_none _

/- Without names or a file the buffer is not used at all. -/
theorem Checked.getPrivateProfileString_unused
    {junk : Fin iniBufSize → UInt8}
    {appname keyname deflt : Option Bytes}
    {dest dest₀ : Bytes}
    {destsize : Nat}
    {file : Option Bytes}
    (hDefault : iniDefault deflt dest destsize = some dest₀)
    (hNone : appname = none ∨ keyname = none ∨ file = none) :
    Checked.getPrivateProfileString junk appname keyname deflt
        dest destsize file =
      .ok (Libsocket.getPrivateProfileString junk appname
        keyname deflt dest destsize file) := by
  cases appname with
  | none => rfl
  | some a =>
  cases keyname with
  | none => rfl
  | some k =>
      have hFile : file = none := by simpa using hNone
      subst hFile
      unfold Checked.getPrivateProfileString
        Libsocket.getPrivateProfileString
      simp only [hDefault]
      rfl

/- With a file, it is the loop that may leave the buffer. -/
theorem Checked.getPrivateProfileString_file
    {junk : Fin iniBufSize → UInt8}
    {appname keyname : Bytes}
    {deflt : Option Bytes}
    {dest dest₀ : Bytes}
    {destsize : Nat}
    {file : Bytes}
    (hDefault : iniDefault deflt dest destsize = some dest₀) :
    ((∀ i, Checked.getPrivateProfileString junk (some appname)
        (some keyname) deflt dest destsize (some file) ≠
          .error i) ↔
      FileSafe appname keyname file) ∧
    ∀ r, Checked.getPrivateProfileString junk (some appname)
        (some keyname) deflt dest destsize (some file) =
          .ok r →
      r = Libsocket.getPrivateProfileString junk (some appname)
        (some keyname) deflt dest destsize (some file) := by
  have hLooks := @Checked.iniLoop_file appname keyname
    destsize (List.ofFn junk) dest₀ file List.length_ofFn
  rw [← hLooks.1]
  unfold Checked.getPrivateProfileString
    Libsocket.getPrivateProfileString
  simp only [hDefault]
  cases hLoop : Checked.iniLoop appname keyname destsize
      (fgetsAll iniBufSize file)
      ⟨List.ofFn junk, false, false, dest₀⟩ with
  | error i =>
      rw [error_bind]
      constructor
      · apply iff_of_false
        · intro hNone
          exact hNone i (Eq.refl _)
        · intro hNone
          exact hNone i (Eq.refl _)
      · intro r hRun
        cases hRun
  | ok last =>
      have hEq := hLooks.2 last hLoop
      rw [ok_bind]
      constructor
      · apply iff_of_true
        · intro i hError
          cases hError
        · intro i hError
          cases hError
      · intro r hRun
        cases hRun
        rw [Option.bind_eq_bind, Option.bind_some, ← hEq]
        cases last with
        | none => rfl
        | some s =>
            rw [Option.bind_some, Option.bind_eq_bind,
              Option.bind_some]
            cases CString.read? s.dest with
            | none => rfl
            | some text => rfl

/-
  Every access to the line buffer lies in it exactly when the
  file is safe for the look-up. If so, the look-up with the
  checks comes to what the one without them comes to.
-/
theorem stays_inside_iff
    (junk : Fin iniBufSize → UInt8)
    (appname keyname deflt : Option Bytes)
    (dest : Bytes)
    (destsize : Nat)
    (file : Option Bytes)
    (hRoom : destsize ≤ dest.length)
    (hSize : 1 ≤ destsize) :
    ((∀ i, Checked.getPrivateProfileString junk appname keyname
        deflt dest destsize file ≠ .error i) ↔
      ∀ a k f, appname = some a → keyname = some k →
        file = some f → FileSafe a k f) ∧
    ∀ r, Checked.getPrivateProfileString junk appname keyname
        deflt dest destsize file = .ok r →
      r = getPrivateProfileString junk appname keyname deflt
        dest destsize file := by
  rcases Option.ne_none_iff_exists'.mp (iniDefault_ne_none deflt
    hRoom hSize) with ⟨dest₀, hDefault⟩
  by_cases hNone : appname = none ∨ keyname = none ∨ file = none
  · rw [Checked.getPrivateProfileString_unused hDefault hNone]
    constructor
    · apply iff_of_true
      · intro i hError
        cases hError
      · rintro a k f rfl rfl rfl
        simp at hNone
    · intro r hRun
      cases hRun
      rfl
  · simp only [not_or] at hNone
    rcases hNone with ⟨hApp, hKey, hFile⟩
    rcases Option.ne_none_iff_exists'.mp hApp with ⟨a, rfl⟩
    rcases Option.ne_none_iff_exists'.mp hKey with ⟨k, rfl⟩
    rcases Option.ne_none_iff_exists'.mp hFile with ⟨f, rfl⟩
    have hLooks := @Checked.getPrivateProfileString_file junk a
      k deflt dest dest₀ destsize f hDefault
    refine ⟨hLooks.1.trans ?_, hLooks.2⟩
    constructor
    · rintro hSafe _ _ _ ⟨⟩ ⟨⟩ ⟨⟩
      exact hSafe
    · intro hSafe
      exact hSafe a k f rfl rfl rfl

/- A file with a header and a key is looked up in. -/
theorem safe_lookup_stays_inside :
    FileSafe (bytes "main") (bytes "key")
        (bytes "[main]\nkey = x\n") ∧
      getPrivateProfileString (fun _ => 0)
        (some (bytes "main")) (some (bytes "key")) none
        (List.replicate 4 0) 4
        (some (bytes "[main]\nkey = x\n")) =
          some ([120, 0, 0, 0], 1) := by
  have hRun : Checked.getPrivateProfileString (fun _ => 0)
      (some (bytes "main")) (some (bytes "key")) none
      (List.replicate 4 0) 4
      (some (bytes "[main]\nkey = x\n")) =
        .ok (some ([120, 0, 0, 0], 1)) := by decide +kernel
  rcases stays_inside_iff (fun _ => 0) (some (bytes "main"))
    (some (bytes "key")) none (List.replicate 4 0) 4
    (some (bytes "[main]\nkey = x\n"))
    (by decide) (by decide) with ⟨hSafe, hSame⟩
  constructor
  · apply hSafe.mp
    · intro i hError
      rw [hRun] at hError
      cases hError
    · rfl
    · rfl
    · rfl
  · exact (hSame _ hRun).symm

/- An empty line is a line that leaves the buffer. -/
theorem empty_line_leaves :
    ¬ ∀ (junk : Fin iniBufSize → UInt8)
        (appname keyname deflt : Option Bytes) (dest : Bytes)
        (destsize : Nat) (file : Option Bytes) (i : Int),
      destsize ≤ dest.length → 1 ≤ destsize →
        Checked.getPrivateProfileString junk appname keyname
          deflt dest destsize file ≠ .error i := by
  intro hAlways
  apply hAlways (fun _ => 0) (some (bytes "main"))
    (some (bytes "key")) none (List.replicate 4 0) 4
    (some [newline]) (-1) (by decide) (by decide)
  decide +kernel

end Libsocket
