import Libsocket.Library.Editing
import Libsocket.Library.InPlace
import Libsocket.Library.Separated
import Libsocket.Inet

/-
  The line editors of `netsetup`: `getipaddr` ends only when
  an address is complete, and `getdnsname` also ends when its
  line is full, and does not look at the parts of the name.

  Main declarations:
    * `getipaddr`, `getdnsname`
    * `ipPlan`, `dnsPlan`
    * `getipaddr_eq`, `getdnsname_eq`
    * `getipaddr_right`, `getdnsname_iff`
-/

namespace Libsocket

open Editing

------------------------------------------------------------
-- Lines
------------------------------------------------------------

/- The buffer of an editor, and how much of it is used. -/
structure Line where
  buf : Bytes
  len : Nat

/- Store a character behind the last one. -/
def Line.put (s : Line) (c : UInt8) : Option Line :=
  if s.len < s.buf.length then
    some ⟨s.buf.set s.len c, s.len + 1⟩
  else
    none

/- `buf[len - 1]` -/
def Line.last (s : Line) : Option UInt8 :=
  if s.len = 0 then none else s.buf[s.len - 1]?

/- Store the NUL, and return the string. -/
def Line.close (s : Line) : Option Bytes :=
  if s.len < s.buf.length then
    CString.read? (s.buf.set s.len 0)
  else
    none

/- The line holds this text. -/
structure Line.Holds
    (size : Nat)
    (s : Line)
    (text : Bytes) : Prop where
  size : s.buf.length = size
  len : s.len = text.length
  used : s.buf.take s.len = text
  plain : CString.IsText text

theorem Line.holds_empty
    {size : Nat}
    {buf : Bytes}
    (hSize : buf.length = size) :
    Line.Holds size ⟨buf, 0⟩ [] :=
  ⟨hSize, rfl, List.take_zero,
    fun _ hB => absurd hB List.not_mem_nil⟩

namespace Line.Holds

variable {size : Nat} {s : Line} {text : Bytes}

theorem put
    (hHolds : s.Holds size text)
    (hRoom : text.length < size)
    {c : UInt8}
    (hPlain : c ≠ 0) :
    ∃ s', s.put c = some s' ∧
      s'.Holds size (text ++ [c]) := by
  rcases hHolds with ⟨hSize, hLen, hText, hIs⟩
  have hIn : s.len < s.buf.length := by omega
  refine ⟨⟨s.buf.set s.len c, s.len + 1⟩, ?_, ?_, ?_, ?_, ?_⟩
  · rw [Line.put, if_pos hIn]
  · rw [List.length_set, hSize]
  · rw [List.length_append, hLen]
    rfl
  · change (s.buf.set s.len c).take (s.len + 1) = text ++ [c]
    rw [List.take_add_one, List.take_set_of_le le_rfl, hText,
      List.getElem?_set_self hIn]
    rfl
  · apply hIs.append
    intro b hB
    rw [List.mem_singleton.mp hB]
    exact hPlain

theorem back
    (hHolds : s.Holds size text) :
    Line.Holds size { s with len := s.len - 1 }
      text.dropLast := by
  rcases hHolds with ⟨hSize, hLen, hText, hIs⟩
  refine ⟨hSize, ?_, ?_, ?_⟩
  · rw [List.length_dropLast, ← hLen]
  · change s.buf.take (s.len - 1) = text.dropLast
    rw [List.dropLast_eq_take, ← hLen, ← hText,
      List.take_take, Nat.min_eq_left (Nat.sub_le _ _)]
  · exact fun b hB => hIs b (List.mem_of_mem_dropLast hB)

theorem eq_nil
    (hHolds : s.Holds size text)
    (hZero : s.len = 0) :
    text = [] := by
  rw [← List.length_eq_zero_iff, ← hHolds.len, hZero]

theorem last_eq (hHolds : s.Holds size text) :
    s.last = text.getLast? := by
  have hEmpty := hHolds.eq_nil
  rcases hHolds with ⟨hSize, hLen, hText, hIs⟩
  unfold Line.last
  rw [List.getLast?_eq_getElem?, ← hLen]
  by_cases hZero : s.len = 0
  · rw [if_pos hZero, hEmpty hZero, hZero]
    rfl
  · rw [if_neg hZero, ← hText, List.getElem?_take_of_lt
      (by omega)]

theorem exists_last
    (hHolds : s.Holds size text)
    (hSome : s.len ≠ 0) :
    ∃ c, s.last = some c := by
  rw [hHolds.last_eq]
  apply Option.isSome_iff_exists.mp
  rw [List.getLast?_isSome]
  rintro rfl
  exact hSome hHolds.len

theorem close_eq
    (hHolds : s.Holds size text)
    (hRoom : text.length < size) :
    s.close = some text := by
  rcases hHolds with ⟨hSize, hLen, hText, hIs⟩
  have hIn : s.len < s.buf.length := by omega
  have hShape : s.buf.set s.len 0 =
      CString.store text ++ s.buf.drop (s.len + 1) := by
    rw [List.set_eq_take_append_cons_drop, if_pos hIn, hText]
    simp [CString.store]
  rw [Line.close, if_pos hIn, hShape,
    CString.read?_store hIs]

end Line.Holds

------------------------------------------------------------
-- Keys
------------------------------------------------------------

def escapeKey : UInt8 := 27

def backspaceKey : UInt8 := 8

/- `\r` or `\n` -/
def isEnter (key : UInt8) : Bool :=
  key == 13 || key == 10

/- `isalnum` -/
def isAlnum (c : UInt8) : Bool :=
  isDigit c || isLower c ||
    decide (65 ≤ c.toNat ∧ c.toNat ≤ 90)

/- The keys that end the input are no data. -/
theorem not_data_of_isEnter
    {key : UInt8}
    (hIs : isEnter key = true) :
    key ≠ escapeKey ∧ key ≠ backspaceKey ∧
      key ≠ fullStop ∧ key ≠ 45 ∧ isDigit key = false ∧
      isAlnum key = false := by
  unfold isEnter at hIs
  rw [Bool.or_eq_true, beq_iff_eq, beq_iff_eq] at hIs
  rcases hIs with rfl | rfl <;> decide

/-
  Whether a dot may follow: not at the start, and not behind
  a dot.
-/
def Line.dotReady (s : Line) : Option Bool :=
  if s.len = 0 then
    some false
  else
    s.last.map fun c => c != fullStop

/- The same for a text. -/
def dotFits (text : Bytes) : Bool :=
  text.getLast?.any fun c => c != fullStop

theorem Line.Holds.dotReady_eq
    {size : Nat}
    {s : Line}
    {text : Bytes}
    (hHolds : s.Holds size text) :
    s.dotReady = some (dotFits text) := by
  unfold Line.dotReady dotFits
  rw [hHolds.last_eq]
  by_cases hZero : s.len = 0
  · rw [if_pos hZero, hHolds.eq_nil hZero]
    rfl
  · rw [if_neg hZero]
    have hSome : text ≠ [] := by
      intro hNone
      have hLen := hHolds.len
      rw [hNone] at hLen
      exact hZero hLen
    obtain ⟨front, c, rfl⟩ :=
      List.eq_nil_or_concat text |>.resolve_left hSome
    simp

------------------------------------------------------------
-- Texts With Dots
------------------------------------------------------------

def isDot (c : UInt8) : Bool := c == fullStop

/-
  Characters of a class and dots, with no dot at the start
  and no two behind each other.
-/
structure DotText
    (plain : UInt8 → Bool)
    (text : Bytes) : Prop where
  chars : ∀ c, c ∈ text → plain c = true ∨ c = fullStop
  chain : List.IsChain (Separated.Apart isDot)
    (fullStop :: text)

namespace DotText

variable {plain : UInt8 → Bool} {text : Bytes}

theorem nil : DotText plain [] :=
  ⟨fun _ hC => absurd hC List.not_mem_nil,
    List.isChain_singleton _⟩

theorem dropLast
    (hText : DotText plain text) :
    DotText plain text.dropLast := by
  refine ⟨fun c hC =>
    hText.chars c (List.mem_of_mem_dropLast hC), ?_⟩
  exact hText.chain.prefix
    (List.prefix_cons_inj _ |>.mpr (List.dropLast_prefix text))

/- The last character, or the dot that is thought in front. -/
theorem getLast?_cons (text : Bytes) :
    (fullStop :: text).getLast? =
      some (text.getLast?.getD fullStop) := by
  rw [List.getLast?_cons]

theorem append
    (hText : DotText plain text)
    {c : UInt8}
    (hChar : plain c = true ∨ c = fullStop)
    (hApart : isDot c = true →
      isDot (text.getLast?.getD fullStop) = false) :
    DotText plain (text ++ [c]) := by
  constructor
  · intro b hB
    rcases List.mem_append.mp hB with hB | hB
    · exact hText.chars b hB
    · rw [List.mem_singleton.mp hB]
      exact hChar
  · rw [← List.cons_append, List.isChain_append]
    refine ⟨hText.chain, List.isChain_singleton c, ?_⟩
    intro a hA b hB
    rw [getLast?_cons, Option.mem_some_iff] at hA
    rw [List.head?_cons, Option.mem_some_iff] at hB
    subst hA hB
    cases hDot : isDot c with
    | true => exact .inl (hApart hDot)
    | false => exact .inr hDot

theorem plain_append
    (hText : DotText plain text)
    {c : UInt8}
    (hChar : plain c = true)
    (hNot : c ≠ fullStop) :
    DotText plain (text ++ [c]) :=
  hText.append (.inl hChar) fun hDot =>
    absurd (beq_iff_eq.mp hDot) hNot

theorem dot_append
    (hText : DotText plain text)
    (hFits : dotFits text = true) :
    DotText plain (text ++ [fullStop]) := by
  refine hText.append (.inr rfl) fun _ => ?_
  unfold dotFits at hFits
  cases hLast : text.getLast? with
  | none =>
      rw [hLast] at hFits
      cases hFits
  | some c =>
      rw [hLast] at hFits
      simpa [isDot] using hFits

/- With no dot at the end, every part has a character. -/
theorem parts_ne_nil
    (hText : DotText plain text)
    (hLast : dotFits text = true) :
    ∀ part, part ∈ text.splitOnP isDot → part ≠ [] := by
  have hDot : isDot fullStop = true := rfl
  exact (Separated.parts_ne_nil_iff hDot text).mpr
    (hText.dot_append hLast).chain

end DotText

------------------------------------------------------------
-- getipaddr
------------------------------------------------------------

/- The line, and the number of components so far. -/
structure IpLine where
  line : Line
  ncomps : Nat

/- `maxlen` of `getipaddr` -/
def ipMaxlen : Nat := 15

/- `IP_MAX_COMPS` -/
def ipMaxComps : Nat := 4

/- The data keys. -/
def ipData (key : UInt8) (s : IpLine) : Option IpLine :=
  if s.line.len = ipMaxlen then
    some s
  else if isDigit key && key != fullStop then do
    let line ← s.line.put key
    return { s with line := line }
  else if key = fullStop then do
    if ← s.line.dotReady then
      if s.ncomps = ipMaxComps then
        return s
      else do
        let line ← s.line.put fullStop
        return ⟨line, s.ncomps + 1⟩
    else
      return s
  else
    some s

/- One key of `getipaddr`. -/
def ipTurn (key : UInt8) (s : IpLine) :
    Option (Turn IpLine) :=
  if key = escapeKey then
    some (.stop false s)
  else if key = backspaceKey then
    if s.line.len = 0 then
      some (.next s)
    else do
      let c ← s.line.last
      let s ← ipData key
        ⟨{ s.line with len := s.line.len - 1 },
          if c = fullStop then s.ncomps - 1 else s.ncomps⟩
      return .next s
  else if isEnter key then
    if s.ncomps < 4 then
      some (.next s)
    else if s.ncomps = 4 then do
      let c ← s.line.last
      return if isDigit c then .stop true s else .next s
    else
      some (.stop true s)
  else do
    let s ← ipData key s
    return .next s

def ipEditor : Editor IpLine UInt8 Bytes where
  more := fun s => decide (s.line.len ≤ ipMaxlen)
  turn := ipTurn
  close := fun s => s.line.close

/-
  `getipaddr`. `buf` is what the static buffer holds, and
  `keys` are the keys to come.
-/
def getipaddr
    (buf : Fin 16 → UInt8)
    (keys : List UInt8) : Option (Edited UInt8 Bytes) :=
  ipEditor.run keys ⟨⟨List.ofFn buf, 0⟩, 1⟩

/- The keys that a text takes. -/
def ipAccepts (text : Bytes) (key : UInt8) : Bool :=
  decide (text.length < ipMaxlen) &&
    (isDigit key ||
      (key == fullStop && dotFits text &&
        decide (text.count fullStop + 1 < ipMaxComps)))

def ipEdit (text : Bytes) (key : UInt8) : Bytes :=
  if key = backspaceKey then
    text.dropLast
  else if ipAccepts text key then
    text ++ [key]
  else
    text

/- An address is complete with a digit behind three dots. -/
def ipComplete (text : Bytes) : Bool :=
  text.count fullStop + 1 == ipMaxComps &&
    text.getLast?.any isDigit

def ipPlan : Plan Bytes UInt8 Bytes where
  more := fun _ => true
  aborts := fun key => key == escapeKey
  enter := fun key text =>
    if isEnter key && ipComplete text then some text else none
  edit := ipEdit
  rest := id

/- The state is that of the text. -/
structure IpRel (s : IpLine) (text : Bytes) : Prop where
  holds : s.line.Holds 16 text
  ncomps : s.ncomps = text.count fullStop + 1
  short : text.length ≤ ipMaxlen
  few : text.count fullStop + 1 ≤ ipMaxComps
  shape : DotText isDigit text

theorem ne_of_isDigit
    {c : UInt8}
    (hDigit : isDigit c = true) :
    c ≠ 0 ∧ c ≠ fullStop ∧ c ≠ backspaceKey := by
  refine ⟨?_, ?_, ?_⟩ <;> rintro rfl <;> revert hDigit <;>
    decide

/- A data key. -/
theorem ipData_spec
    {s : IpLine}
    {text : Bytes}
    (hRel : IpRel s text)
    (key : UInt8) :
    ∃ s', ipData key s = some s' ∧
      IpRel s' (if ipAccepts text key then
        text ++ [key] else text) := by
  rcases hRel with ⟨hHolds, hComps, hShort, hFew, hShape⟩
  have hRel : IpRel s text :=
    ⟨hHolds, hComps, hShort, hFew, hShape⟩
  have hLen := hHolds.len
  unfold ipData
  by_cases hFull : s.line.len = ipMaxlen
  · have hNot : ipAccepts text key = false := by
      simp [ipAccepts, ← hLen, hFull]
    rw [if_pos hFull, hNot]
    exact ⟨s, rfl, hRel⟩
  have hRoom : text.length < ipMaxlen := by omega
  have hRoom' : text.length < 16 := by
    simp only [ipMaxlen] at hRoom
    omega
  rw [if_neg hFull]
  by_cases hDigit : isDigit key = true
  · rcases ne_of_isDigit hDigit with ⟨hZero, hDot, -⟩
    have hTakes : ipAccepts text key = true := by
      simp [ipAccepts, hRoom, hDigit]
    rcases hHolds.put hRoom' hZero with ⟨line, hPut, hLine⟩
    rw [if_pos (by simp [hDigit, hDot]), hPut, hTakes,
      if_pos rfl]
    refine ⟨_, rfl, hLine, ?_, ?_, ?_,
      hShape.plain_append hDigit hDot⟩
    · simp [List.count_append, hComps, hDot]
    · rw [List.length_append]
      exact hRoom
    · simpa [List.count_append, hDot] using hFew
  rw [if_neg (by simp [hDigit])]
  by_cases hDot : key = fullStop
  · subst hDot
    rw [if_pos rfl, hHolds.dotReady_eq]
    simp only [Option.bind_eq_bind, Option.bind_some]
    cases hFits : dotFits text with
    | false =>
        have hNot : ipAccepts text fullStop = false := by
          simp [ipAccepts, hDigit, hFits]
        rw [hNot]
        exact ⟨s, rfl, hRel⟩
    | true =>
        rw [if_pos rfl]
        by_cases hMany : s.ncomps = ipMaxComps
        · have hNot : ipAccepts text fullStop = false := by
            simp [ipAccepts, hDigit, ← hComps, hMany]
          rw [if_pos hMany, hNot]
          exact ⟨s, rfl, hRel⟩
        · have hLess :
              text.count fullStop + 1 < ipMaxComps := by
            omega
          have hTakes : ipAccepts text fullStop = true := by
            simp [ipAccepts, hRoom, hFits, hLess]
          have hNonzero : fullStop ≠ 0 := by decide
          rcases hHolds.put hRoom' hNonzero with
            ⟨line, hPut, hLine⟩
          rw [if_neg hMany, hPut, hTakes, if_pos rfl]
          refine ⟨_, rfl, hLine, ?_, ?_, ?_,
            hShape.dot_append hFits⟩
          · simp [List.count_append, hComps]
          · rw [List.length_append]
            exact hRoom
          · rw [List.count_append]
            exact hLess
  · have hNot : ipAccepts text key = false := by
      simp [ipAccepts, hDigit, hDot]
    rw [if_neg hDot, hNot]
    exact ⟨s, rfl, hRel⟩

theorem ipAccepts_eq_false
    {text : Bytes}
    {key : UInt8}
    (hDigit : isDigit key = false)
    (hDot : key ≠ fullStop) :
    ipAccepts text key = false := by
  simp [ipAccepts, hDigit, hDot]

/- A backspace takes the last character away. -/
theorem IpRel.back
    {s : IpLine}
    {text : Bytes}
    {c : UInt8}
    (hRel : IpRel s text)
    (hLast : s.line.last = some c) :
    IpRel
      ⟨{ s.line with len := s.line.len - 1 },
        if c = fullStop then s.ncomps - 1 else s.ncomps⟩
      text.dropLast := by
  have hLine := hRel.holds.back
  rw [hRel.holds.last_eq] at hLast
  have hText : text.dropLast ++ [c] = text :=
    List.dropLast_append_getLast? c hLast
  have hCount : text.count fullStop =
      text.dropLast.count fullStop +
        if c = fullStop then 1 else 0 := by
    conv_lhs => rw [← hText]
    rw [List.count_append, List.count_singleton]
    simp
  refine ⟨hLine, ?_, ?_, ?_, hRel.shape.dropLast⟩
  · have hComps := hRel.ncomps
    dsimp only
    split at hCount <;> simp_all
  · have hShort := hRel.short
    rw [List.length_dropLast]
    omega
  · have hFew := hRel.few
    omega

/- It is put in front of the data keys, which ignore it. -/
theorem ipTurn_back
    {s : IpLine}
    {text : Bytes}
    (hRel : IpRel s text) :
    ∃ s', ipTurn backspaceKey s = some (.next s') ∧
      IpRel s' (ipEdit text backspaceKey) := by
  have hEscape : backspaceKey ≠ escapeKey := by decide
  rw [ipEdit, if_pos rfl, ipTurn, if_neg hEscape, if_pos rfl]
  by_cases hZero : s.line.len = 0
  · have hNone := hRel.holds.eq_nil hZero
    subst hNone
    exact ⟨s, if_pos hZero, hRel⟩
  · rcases hRel.holds.exists_last hZero with ⟨c, hLast⟩
    have hNot : ipAccepts text.dropLast backspaceKey = false :=
      ipAccepts_eq_false (by decide) (by decide)
    rcases ipData_spec (hRel.back hLast) backspaceKey with
      ⟨s', hData, hRel'⟩
    rw [hNot] at hRel'
    refine ⟨s', ?_, hRel'⟩
    rw [if_neg hZero, hLast]
    simp only [Option.bind_eq_bind, Option.bind_some, hData]
    rfl

/- Enter ends the input if the address is complete. -/
theorem ipTurn_enter
    {s : IpLine}
    {text : Bytes}
    {key : UInt8}
    (hRel : IpRel s text)
    (hIs : isEnter key = true) :
    ipTurn key s = some
      (if ipComplete text then .stop true s else .next s) := by
  rcases not_data_of_isEnter hIs with ⟨hEscape, hBack, -⟩
  have hComps := hRel.ncomps
  have hMost : text.count fullStop + 1 ≤ 4 := hRel.few
  rw [ipTurn, if_neg hEscape, if_neg hBack, if_pos hIs]
  by_cases hFew : s.ncomps < 4
  · have hNot : ipComplete text = false := by
      simp only [ipComplete, Bool.and_eq_false_iff,
        beq_eq_false_iff_ne, ipMaxComps]
      exact .inl (by omega)
    rw [if_pos hFew, hNot]
    rfl
  have hFour : s.ncomps = 4 := by omega
  have hSome : s.line.len ≠ 0 := by
    intro hZero
    rw [hRel.holds.eq_nil hZero, List.count_nil] at hComps
    omega
  rcases hRel.holds.exists_last hSome with ⟨c, hLast⟩
  have hComplete : ipComplete text = isDigit c := by
    rw [hRel.holds.last_eq] at hLast
    have hAll : (text.count fullStop + 1 == ipMaxComps) =
        true := beq_iff_eq.mpr (hComps.symm.trans hFour)
    rw [ipComplete, hAll, hLast, Option.any_some, Bool.true_and]
  rw [if_neg hFew, if_pos hFour, hLast, hComplete]
  rfl

theorem ipRefines : Refines ipEditor ipPlan IpRel := by
  constructor
  · intro s text hRel
    have hLen := hRel.holds.len
    have hShort := hRel.short
    simp only [ipEditor, ipPlan, decide_eq_true_eq]
    omega
  · intro s text hRel hMore
    cases hMore
  · intro s text key hRel hAborts
    refine ⟨s, ?_⟩
    have hEscape : key = escapeKey := beq_iff_eq.mp hAborts
    change ipTurn key s = _
    rw [ipTurn, if_pos hEscape]
  · intro s text key r hRel _ _ hEnter
    change (if isEnter key && ipComplete text then some text
      else none) = some r at hEnter
    cases hBoth : isEnter key && ipComplete text with
    | false =>
        rw [hBoth] at hEnter
        cases hEnter
    | true =>
        rw [hBoth] at hEnter
        cases hEnter
        rw [Bool.and_eq_true] at hBoth
        rcases hBoth with ⟨hIs, hComplete⟩
        refine ⟨s, ?_, hRel.holds.close_eq ?_⟩
        · change ipTurn key s = _
          rw [ipTurn_enter hRel hIs, if_pos hComplete]
        · exact Nat.lt_succ_of_le hRel.short
  · intro s text key hRel _ hAborts hEnter
    have hEscape : key ≠ escapeKey := by
      rintro rfl
      cases hAborts
    change ∃ s', ipTurn key s = some (.next s') ∧
      IpRel s' (ipEdit text key)
    by_cases hBack : key = backspaceKey
    · subst hBack
      exact ipTurn_back hRel
    by_cases hIs : isEnter key = true
    · rcases not_data_of_isEnter hIs with
        ⟨-, -, hDot, -, hDigit, -⟩
      have hNot : ¬ ipComplete text = true := by
        intro hComplete
        change (if isEnter key && ipComplete text then
          some text else none) = none at hEnter
        rw [hIs, hComplete] at hEnter
        cases hEnter
      have hSame : ipEdit text key = text := by
        rw [ipEdit, if_neg hBack,
          ipAccepts_eq_false hDigit hDot]
        rfl
      rw [hSame, ipTurn_enter hRel hIs, if_neg hNot]
      exact ⟨s, rfl, hRel⟩
    · rcases ipData_spec hRel key with ⟨s', hData, hRel'⟩
      refine ⟨s', ?_, ?_⟩
      · rw [ipTurn, if_neg hEscape, if_neg hBack, if_neg hIs,
          hData]
        rfl
      · rw [ipEdit, if_neg hBack]
        exact hRel'

theorem getipaddr_eq
    (buf : Fin 16 → UInt8)
    (keys : List UInt8) :
    getipaddr buf keys = some (ipPlan.run keys []) := by
  refine ipRefines.run_eq ⟨Line.holds_empty ?_, rfl, ?_, ?_,
    .nil⟩ keys
  · exact List.length_ofFn
  · exact Nat.zero_le _
  · decide

/- Whatever key comes, the text is one that has a state. -/
theorem exists_ipRel
    {text : Bytes}
    (hRel : ∃ s, IpRel s text)
    (key : UInt8) :
    ∃ s, IpRel s (ipEdit text key) := by
  rcases hRel with ⟨s, hRel⟩
  by_cases hBack : key = backspaceKey
  · rw [ipEdit, if_pos hBack]
    by_cases hZero : s.line.len = 0
    · have hNone := hRel.holds.eq_nil hZero
      subst hNone
      exact ⟨s, hRel⟩
    · rcases hRel.holds.exists_last hZero with ⟨c, hLast⟩
      exact ⟨_, hRel.back hLast⟩
  · rcases ipData_spec hRel key with ⟨s', -, hRel'⟩
    rw [ipEdit, if_neg hBack]
    exact ⟨s', hRel'⟩

/- Four strings of digits between dots, of 15 characters. -/
structure IsQuad (text : Bytes) : Prop where
  short : text.length ≤ 15
  four : (text.splitOnP isDot).length = 4
  digits : ∀ part, part ∈ text.splitOnP isDot →
    part ≠ [] ∧ ∀ c, c ∈ part → isDigit c = true

theorem isQuad_of_complete
    {s : IpLine}
    {text : Bytes}
    (hRel : IpRel s text)
    (hComplete : ipComplete text = true) :
    IsQuad text := by
  simp only [ipComplete, Bool.and_eq_true, beq_iff_eq]
    at hComplete
  rcases hComplete with ⟨hFour, hLast⟩
  obtain ⟨c, hC, hDigit⟩ := (Option.any_eq_true _ _).mp hLast
  have hFits : dotFits text = true := by
    simp [dotFits, hC, (ne_of_isDigit hDigit).2.1]
  refine ⟨hRel.short, ?_, fun part hPart =>
    ⟨hRel.shape.parts_ne_nil hFits part hPart, ?_⟩⟩
  · rw [Separated.length_splitOnP]
    exact hFour
  · intro c hMem
    have hIn := Separated.mem_part text part hPart c hMem
    rcases hRel.shape.chars c hIn.1 with hIs | rfl
    · exact hIs
    · cases hIn.2

/-
  The input ends with Escape and without an address, or with
  Enter and the text that the keys before have made.
-/
def IpRight (keys : List UInt8) : Edited UInt8 Bytes → Prop
| .waiting => True
| .done result key unread =>
    ∃ before k, key = some k ∧
      keys = before ++ k :: unread ∧
      (k = escapeKey ∧ result = none ∨
        isEnter k = true ∧
          result = some (before.foldl ipEdit []) ∧
          IsQuad (before.foldl ipEdit []))

/- Whatever the keys, the buffer is used within its bounds. -/
theorem getipaddr_right
    (buf : Fin 16 → UInt8)
    (keys : List UInt8) :
    ∃ e, getipaddr buf keys = some e ∧ IpRight keys e := by
  refine ⟨_, getipaddr_eq buf keys, ?_⟩
  cases hRun : ipPlan.run keys [] with
  | waiting => trivial
  | done result key unread =>
      rcases ipPlan.run_spec hRun with ⟨before,
        ⟨k, hKey, hKeys, -, hEnd⟩ | ⟨-, -, hFull, -⟩⟩
      · refine ⟨before, k, hKey, hKeys, ?_⟩
        rcases hEnd with ⟨hAborts, hNone⟩ |
          ⟨r, -, hEnter, hSome⟩
        · exact .inl ⟨beq_iff_eq.mp hAborts, hNone⟩
        · change (if isEnter k &&
            ipComplete (before.foldl ipEdit []) then
              some (before.foldl ipEdit []) else none) =
            some r at hEnter
          cases hBoth : isEnter k &&
              ipComplete (before.foldl ipEdit []) with
          | false =>
              rw [hBoth] at hEnter
              cases hEnter
          | true =>
              rw [hBoth] at hEnter
              cases hEnter
              rw [Bool.and_eq_true] at hBoth
              have hStart : ∃ s, IpRel s [] :=
                ⟨⟨⟨List.replicate 16 0, 0⟩, 1⟩,
                  Line.holds_empty rfl, rfl, Nat.zero_le _,
                  by decide, .nil⟩
              have hInv := @Plan.foldl_edit _ _ _ ipPlan
                (fun text => ∃ s, IpRel s text)
                (fun _ k hRel => exists_ipRel hRel k) [] hStart
                before
              rcases hInv with ⟨s, hRel⟩
              exact .inr ⟨hBoth.1, hSome,
                isQuad_of_complete hRel hBoth.2⟩
      · cases hFull

------------------------------------------------------------
-- getdnsname
------------------------------------------------------------

/- The data keys. -/
def dnsData
    (maxlen : Nat)
    (key : UInt8)
    (s : Line) : Option Line :=
  if s.len = maxlen then
    some s
  else if (isAlnum key || key == 45) && key != fullStop then
    s.put key
  else if key = fullStop then do
    if ← s.dotReady then s.put fullStop else return s
  else
    some s

/- One key of `getdnsname`. -/
def dnsTurn
    (maxlen : Nat)
    (key : UInt8)
    (s : Line) : Option (Turn Line) :=
  if key = escapeKey then
    some (.stop false s)
  else if key = backspaceKey then
    if s.len = 0 then
      some (.next s)
    else do
      let s ← dnsData maxlen key { s with len := s.len - 1 }
      return .next s
  else if isEnter key then
    if s.len = 0 then
      some (.stop true s)
    else do
      let c ← s.last
      return .stop true
        (if c = fullStop then
          ⟨s.buf.set (s.len - 1) 0, s.len - 1⟩
        else
          s)
  else do
    let s ← dnsData maxlen key s
    return .next s

/-
  The room for characters: `maxlen` is cut down to the size
  of the buffer, and decremented as an unsigned number.
-/
def dnsRoom (maxlen : Nat) : Nat :=
  (min maxlen 256 + 4294967295) % 4294967296

theorem dnsRoom_eq
    {maxlen : Nat}
    (hSome : 0 < maxlen) :
    dnsRoom maxlen = min maxlen 256 - 1 := by
  unfold dnsRoom
  omega

def dnsEditor (maxlen : Nat) : Editor Line UInt8 Bytes where
  more := fun s => decide (s.len < dnsRoom maxlen)
  turn := dnsTurn (dnsRoom maxlen)
  close := fun s => s.close

/- `getdnsname` -/
def getdnsname
    (maxlen : Nat)
    (buf : Fin 256 → UInt8)
    (keys : List UInt8) : Option (Edited UInt8 Bytes) :=
  (dnsEditor maxlen).run keys ⟨List.ofFn buf, 0⟩

def isNameChar (c : UInt8) : Bool := isAlnum c || c == 45

def dnsEdit (text : Bytes) (key : UInt8) : Bytes :=
  if key = backspaceKey then
    text.dropLast
  else if isNameChar key || key == fullStop && dotFits text then
    text ++ [key]
  else
    text

/- A dot at the end is dropped. -/
def stripDot (text : Bytes) : Bytes :=
  if text.getLast? = some fullStop then
    text.dropLast
  else
    text

def dnsPlan (maxlen : Nat) : Plan Bytes UInt8 Bytes where
  more := fun text => decide (text.length < dnsRoom maxlen)
  aborts := fun key => key == escapeKey
  enter := fun key text =>
    if isEnter key then some (stripDot text) else none
  edit := dnsEdit
  rest := id

/- The line holds the text, which fits. -/
structure DnsRel
    (maxlen : Nat)
    (s : Line)
    (text : Bytes) : Prop where
  holds : s.Holds 256 text
  short : text.length ≤ dnsRoom maxlen
  shape : DotText isNameChar text

theorem ne_of_isNameChar
    {c : UInt8}
    (hName : isNameChar c = true) :
    c ≠ 0 ∧ c ≠ fullStop := by
  constructor <;> rintro rfl <;> revert hName <;> decide

theorem dnsData_spec
    {maxlen : Nat}
    {s : Line}
    {text : Bytes}
    (hSome : 0 < maxlen)
    (hRel : DnsRel maxlen s text)
    (hMore : text.length < dnsRoom maxlen)
    {key : UInt8}
    (hData : key ≠ backspaceKey) :
    ∃ s', dnsData (dnsRoom maxlen) key s = some s' ∧
      DnsRel maxlen s' (dnsEdit text key) := by
  have hRoom := dnsRoom_eq hSome
  have hSize : text.length < 256 := by omega
  have hLen := hRel.holds.len
  rw [dnsEdit, if_neg hData, dnsData, if_neg (by omega)]
  by_cases hName : isNameChar key = true
  · rcases ne_of_isNameChar hName with ⟨hZero, hDot⟩
    rcases hRel.holds.put hSize hZero with ⟨s', hPut, hLine⟩
    have hChar : ((isAlnum key || key == 45) &&
        key != fullStop) = true := by
      rw [Bool.and_eq_true]
      exact ⟨hName, by simpa using hDot⟩
    rw [if_pos hChar, if_pos (by simp [hName])]
    refine ⟨s', hPut, hLine, ?_,
      hRel.shape.plain_append hName hDot⟩
    rw [List.length_append]
    exact hMore
  have hChar : ¬ ((isAlnum key || key == 45) &&
      key != fullStop) = true := by
    rw [Bool.and_eq_true]
    exact fun hBoth => hName hBoth.1
  rw [if_neg hChar]
  by_cases hDot : key = fullStop
  · subst hDot
    rw [if_pos rfl, hRel.holds.dotReady_eq]
    simp only [Option.bind_eq_bind, Option.bind_some]
    cases hFits : dotFits text with
    | false =>
        rw [if_neg Bool.false_ne_true,
          if_neg (by simp [hName])]
        exact ⟨s, rfl, hRel⟩
    | true =>
        have hNonzero : fullStop ≠ 0 := by decide
        rcases hRel.holds.put hSize hNonzero with
          ⟨s', hPut, hLine⟩
        rw [if_pos rfl, if_pos (by simp)]
        refine ⟨s', hPut, hLine, ?_,
          hRel.shape.dot_append hFits⟩
        rw [List.length_append]
        exact hMore
  · rw [if_neg hDot, if_neg (by simp [hName, hDot])]
    exact ⟨s, rfl, hRel⟩

/- What Enter makes of the line. -/
theorem close_strip
    {maxlen : Nat}
    {s : Line}
    {text : Bytes}
    (hSome : 0 < maxlen)
    (hRel : DnsRel maxlen s text) :
    ∃ s', (if s.len = 0 then some (Turn.stop true s) else do
        let c ← s.last
        return .stop true
          (if c = fullStop then
            ⟨s.buf.set (s.len - 1) 0, s.len - 1⟩
          else
            s)) = some (.stop true s') ∧
      s'.close = some (stripDot text) := by
  have hRoom := dnsRoom_eq hSome
  have hShort := hRel.short
  have hSize : text.length < 256 := by omega
  by_cases hZero : s.len = 0
  · have hNone := hRel.holds.eq_nil hZero
    subst hNone
    exact ⟨s, if_pos hZero, hRel.holds.close_eq hSize⟩
  · rcases hRel.holds.exists_last hZero with ⟨c, hLast⟩
    rw [if_neg hZero, hLast]
    refine ⟨_, rfl, ?_⟩
    rw [hRel.holds.last_eq] at hLast
    unfold stripDot
    rw [hLast]
    by_cases hDot : c = fullStop
    · rw [if_pos hDot, if_pos (by rw [hDot])]
      have hBack := hRel.holds.back
      have hLess : text.dropLast.length < 256 := by
        rw [List.length_dropLast]
        omega
      have hClose := hBack.close_eq hLess
      unfold Line.close at hClose ⊢
      dsimp only at hClose ⊢
      rw [List.length_set, List.set_set]
      exact hClose
    · have hNot : ¬ some c = some fullStop := by
        intro hSame
        exact hDot (Option.some.inj hSame)
      rw [if_neg hDot, if_neg hNot]
      exact hRel.holds.close_eq hSize

theorem dnsRefines
    {maxlen : Nat}
    (hSome : 0 < maxlen) :
    Refines (dnsEditor maxlen) (dnsPlan maxlen)
      (DnsRel maxlen) := by
  have hRoom := dnsRoom_eq hSome
  constructor
  · intro s text hRel
    simp only [dnsEditor, dnsPlan, hRel.holds.len]
  · intro s text hRel _
    have hShort := hRel.short
    exact hRel.holds.close_eq (by omega)
  · intro s text key hRel hAborts
    refine ⟨s, ?_⟩
    have hEscape : key = escapeKey := beq_iff_eq.mp hAborts
    change dnsTurn _ key s = _
    rw [dnsTurn, if_pos hEscape]
  · intro s text key r hRel _ hAborts hEnter
    change (if isEnter key then some (stripDot text) else
      none) = some r at hEnter
    cases hIs : isEnter key with
    | false =>
        rw [hIs] at hEnter
        cases hEnter
    | true =>
        rw [hIs] at hEnter
        cases hEnter
        rcases not_data_of_isEnter hIs with ⟨hEscape, hBack, -⟩
        rcases close_strip hSome hRel with
          ⟨s', hTurn, hClose⟩
        refine ⟨s', ?_, hClose⟩
        change dnsTurn _ key s = _
        rw [dnsTurn, if_neg hEscape, if_neg hBack, if_pos hIs]
        exact hTurn
  · intro s text key hRel hMore hAborts hEnter
    have hEscape : key ≠ escapeKey := by
      rintro rfl
      cases hAborts
    have hIs : ¬ isEnter key = true := by
      intro hIs
      change (if isEnter key then some (stripDot text) else
        none) = none at hEnter
      rw [if_pos hIs] at hEnter
      cases hEnter
    have hLess : text.length < dnsRoom maxlen := by
      simpa [dnsPlan] using hMore
    change ∃ s', dnsTurn (dnsRoom maxlen) key s =
      some (.next s') ∧ DnsRel maxlen s' (dnsEdit text key)
    by_cases hBack : key = backspaceKey
    · rw [dnsEdit, if_pos hBack, dnsTurn, if_neg hEscape,
        if_pos hBack]
      by_cases hZero : s.len = 0
      · have hNone := hRel.holds.eq_nil hZero
        subst hNone
        exact ⟨s, if_pos hZero, hRel⟩
      · rw [if_neg hZero]
        have hRel' : DnsRel maxlen
            { s with len := s.len - 1 } text.dropLast := by
          refine ⟨hRel.holds.back, ?_, hRel.shape.dropLast⟩
          rw [List.length_dropLast]
          omega
        refine ⟨_, ?_, hRel'⟩
        have hStay : dnsData (dnsRoom maxlen) key
            { s with len := s.len - 1 } =
              some { s with len := s.len - 1 } := by
          subst hBack
          unfold dnsData
          split
          · rfl
          · rfl
        rw [hStay]
        rfl
    · rcases dnsData_spec hSome hRel hLess hBack with
        ⟨s', hData, hRel'⟩
      refine ⟨s', ?_, hRel'⟩
      rw [dnsTurn, if_neg hEscape, if_neg hBack, if_neg hIs,
        hData]
      rfl

theorem getdnsname_eq
    {maxlen : Nat}
    (hSome : 0 < maxlen)
    (buf : Fin 256 → UInt8)
    (keys : List UInt8) :
    getdnsname maxlen buf keys =
      some ((dnsPlan maxlen).run keys []) :=
  (dnsRefines hSome).run_eq
    ⟨Line.holds_empty List.length_ofFn, Nat.zero_le _, .nil⟩
    keys

/-
  A name of less than `maxlen` characters, with no dot at
  either end, no two dots behind each other, and components
  of at most 64 characters.
-/
structure IsDnsName
    (maxlen : Nat)
    (name : Bytes) : Prop where
  short : name.length < maxlen
  chars : ∀ c, c ∈ name →
    isNameChar c = true ∨ c = fullStop
  first : name.head? ≠ some fullStop
  last : name.getLast? ≠ some fullStop
  apart : name.IsChain (Separated.Apart isDot)
  parts : ∀ part, part ∈ name.splitOnP isDot →
    part.length ≤ 64

/-
  The input ends with Escape and without a name, or with
  Enter and the name that the keys before have made.
-/
def DnsRight
    (maxlen : Nat)
    (keys : List UInt8) : Edited UInt8 Bytes → Prop
| .waiting => True
| .done result key unread =>
    ∃ before k, key = some k ∧
      keys = before ++ k :: unread ∧
      (k = escapeKey ∧ result = none ∨
        isEnter k = true ∧
          result = some (stripDot (before.foldl dnsEdit [])) ∧
          IsDnsName maxlen
            (stripDot (before.foldl dnsEdit [])))

/- The keys in front of the first Enter or Escape. -/
def typedKeys (keys : List UInt8) : List UInt8 :=
  keys.takeWhile fun k => !(k == escapeKey || isEnter k)

/-
  What is typed never fills the line, and when Enter follows,
  no component is longer than 64 characters.
-/
structure DnsFine
    (maxlen : Nat)
    (keys : List UInt8) : Prop where
  room : ∀ n, n ≤ (typedKeys keys).length →
    (((typedKeys keys).take n).foldl dnsEdit []).length <
      dnsRoom maxlen
  parts : ∀ k unread,
    keys.drop (typedKeys keys).length = k :: unread →
    isEnter k = true →
      ∀ part, part ∈ (stripDot ((typedKeys keys).foldl
        dnsEdit [])).splitOnP isDot → part.length ≤ 64

/- The key behind what is typed is Escape or Enter. -/
theorem ends_of_drop_typed
    {keys unread : List UInt8}
    {k : UInt8}
    (hNext : keys.drop (typedKeys keys).length = k :: unread) :
    (k == escapeKey || isEnter k) = true := by
  have hDrop : keys.drop (typedKeys keys).length =
      keys.dropWhile fun k => !(k == escapeKey || isEnter k) :=
    List.append_cancel_left ((List.prefix_iff_eq_append.mp
      (List.takeWhile_prefix _)).trans
        List.takeWhile_append_dropWhile.symm)
  have hNot := List.head?_dropWhile_not
    (fun k => !(k == escapeKey || isEnter k)) keys
  rw [← hDrop, hNext] at hNot
  cases hEnd : k == escapeKey || isEnter k with
  | true => rfl
  | false => simp [hEnd] at hNot

/- The text stays one of name characters and dots. -/
theorem dotText_edit
    {text : Bytes}
    (hText : DotText isNameChar text)
    (key : UInt8) :
    DotText isNameChar (dnsEdit text key) := by
  unfold dnsEdit
  by_cases hBack : key = backspaceKey
  · rw [if_pos hBack]
    exact hText.dropLast
  rw [if_neg hBack]
  by_cases hName : isNameChar key = true
  · rw [if_pos (by simp [hName])]
    exact hText.plain_append hName (ne_of_isNameChar hName).2
  · by_cases hDot : key = fullStop ∧ dotFits text = true
    · rw [if_pos (by simp [hDot]), hDot.1]
      exact hText.dot_append hDot.2
    · rw [if_neg (by simpa [hName] using hDot)]
      exact hText

/- What Enter makes of such a text has no dot at an end. -/
theorem isDnsName_strip
    {maxlen : Nat}
    {text : Bytes}
    (hText : DotText isNameChar text)
    (hShort : text.length < maxlen) :
    IsDnsName maxlen (stripDot text) ↔
      ∀ part, part ∈ (stripDot text).splitOnP isDot →
        part.length ≤ 64 := by
  refine ⟨fun hName => hName.parts, fun hParts => ?_⟩
  have hLess : (stripDot text).length ≤ text.length := by
    unfold stripDot
    split
    · rw [List.length_dropLast]
      exact Nat.sub_le _ _
    · exact le_rfl
  have hStripped : DotText isNameChar (stripDot text) := by
    unfold stripDot
    split
    · exact hText.dropLast
    · exact hText
  refine ⟨by omega, hStripped.chars, ?_, ?_,
    hStripped.chain.tail, hParts⟩
  · cases hName : stripDot text with
    | nil => exact fun hNone => by cases hNone
    | cons c cs =>
        have hChain := hStripped.chain
        rw [hName, List.isChain_cons_cons] at hChain
        intro hDot
        cases hDot
        rcases hChain.1 with hNot | hNot <;> cases hNot
  · unfold stripDot
    split
    · rename_i hDot
      have hShape : text.dropLast ++ [fullStop] = text :=
        List.dropLast_append_getLast? fullStop hDot
      have hChain := hText.chain
      rw [← hShape, ← List.cons_append, List.isChain_append]
        at hChain
      intro hTwo
      have hBoth := hChain.2.2 fullStop (by
        rw [DotText.getLast?_cons, hTwo]
        rfl) fullStop rfl
      rcases hBoth with hNot | hNot <;> cases hNot
    · rename_i hNot
      exact hNot

/-
  The editor meets its description if and only if the line is
  never filled and the components of the name are short.
-/
theorem getdnsname_iff
    {maxlen : Nat}
    (hSome : 0 < maxlen)
    (buf : Fin 256 → UInt8)
    (keys : List UInt8) :
    (∃ e, getdnsname maxlen buf keys = some e ∧
        DnsRight maxlen keys e) ↔
      DnsFine maxlen keys := by
  have hRoom := dnsRoom_eq hSome
  have hRun := getdnsname_eq hSome buf keys
  have hEnds : ∀ k t, ((dnsPlan maxlen).enter k t).isSome =
      isEnter k := by
    intro k t
    cases hIs : isEnter k <;> simp [dnsPlan, hIs]
  have hTyped : (dnsPlan maxlen).typed isEnter keys =
      typedKeys keys := rfl
  have hSplit : typedKeys keys ++
      keys.drop (typedKeys keys).length = keys :=
    List.prefix_iff_eq_append.mp (List.takeWhile_prefix _)
  constructor
  · rintro ⟨e, hE, hRight⟩
    rw [hRun] at hE
    cases hE
    have hMore : ∀ n, n ≤ (typedKeys keys).length →
        (((typedKeys keys).take n).foldl dnsEdit []).length <
          dnsRoom maxlen := by
      intro n hn
      by_contra hNot
      have hFull : (dnsPlan maxlen).more
          (((typedKeys keys).take n).foldl dnsEdit []) =
            false := by
        simpa [dnsPlan] using hNot
      rcases (dnsPlan maxlen).run_full hEnds hn hFull with
        ⟨r, unread, hDone⟩
      rw [hDone] at hRight
      rcases hRight with ⟨before, k, hKey, -⟩
      cases hKey
    refine ⟨hMore, fun k unread hNext hIs => ?_⟩
    have hDone := @Plan.run_typed _ _ _ (dnsPlan maxlen)
      isEnter hEnds keys [] (fun n hn => by
        rw [hTyped] at hn ⊢
        simpa [dnsPlan] using hMore n hn)
    rw [hTyped, hNext] at hDone
    rw [hDone] at hRight
    rcases hRight with ⟨before, k', hKey, hKeys, hEnd⟩
    cases hKey
    rw [← hSplit, hNext] at hKeys
    have hBefore : typedKeys keys = before :=
      List.append_cancel_right hKeys
    rcases hEnd with ⟨hEscape, -⟩ | ⟨-, -, hName⟩
    · exact absurd hEscape (not_data_of_isEnter hIs).1
    · rw [hBefore]
      exact hName.parts
  · intro hFine
    have hDone := @Plan.run_typed _ _ _ (dnsPlan maxlen)
      isEnter hEnds keys [] (fun n hn => by
        rw [hTyped] at hn ⊢
        simpa [dnsPlan] using hFine.room n hn)
    rw [hTyped] at hDone
    refine ⟨_, hRun, ?_⟩
    rw [hDone]
    cases hNext : keys.drop (typedKeys keys).length with
    | nil => trivial
    | cons k unread =>
        refine ⟨typedKeys keys, k, rfl, ?_, ?_⟩
        · rw [← hNext, hSplit]
        cases hEscape : k == escapeKey with
        | true =>
            exact .inl ⟨beq_iff_eq.mp hEscape, if_pos hEscape⟩
        | false =>
            have hIs := ends_of_drop_typed hNext
            rw [hEscape, Bool.false_or] at hIs
            have hNot : ¬ (dnsPlan maxlen).aborts k = true :=
              ne_true_of_eq_false hEscape
            refine .inr ⟨hIs, ?_, ?_⟩
            · rw [if_neg hNot]
              exact if_pos hIs
            · have hShort := hFine.room _ le_rfl
              rw [List.take_length] at hShort
              refine (isDnsName_strip ?_ (by omega)).mpr
                (hFine.parts k unread hNext hIs)
              exact @Plan.foldl_edit _ _ _ (dnsPlan maxlen)
                (DotText isNameChar)
                (fun _ k hText => dotText_edit hText k) []
                .nil _

------------------------------------------------------------
-- Both Editors
------------------------------------------------------------

/-
  The editor for addresses always meets its description; the
  one for names if and only if what is typed never fills the
  line and the components of the name are short enough.
-/
theorem editors_iff
    {maxlen : Nat}
    (hSome : 0 < maxlen)
    (ipBuf : Fin 16 → UInt8)
    (dnsBuf : Fin 256 → UInt8)
    (keys : List UInt8) :
    (∃ e, getipaddr ipBuf keys = some e ∧ IpRight keys e) ∧
    ((∃ e, getdnsname maxlen dnsBuf keys = some e ∧
        DnsRight maxlen keys e) ↔
      DnsFine maxlen keys) :=
  ⟨getipaddr_right ipBuf keys,
    getdnsname_iff hSome dnsBuf keys⟩

theorem editors_enter :
    ∃ e, getdnsname 256 (fun _ => 0) [97, 13] = some e ∧
      DnsRight 256 [97, 13] e := by
  refine (editors_iff (by decide) (fun _ => 0) _ _).2.mpr
    ⟨?_, ?_⟩
  · decide
  · intro k unread hNext _
    cases hNext
    decide

/- A component of 65 characters is taken. -/
theorem long_component_taken :
    ¬ ∀ (maxlen : Nat) (ipBuf : Fin 16 → UInt8)
        (dnsBuf : Fin 256 → UInt8) (keys : List UInt8),
      0 < maxlen →
      (∃ e, getipaddr ipBuf keys = some e ∧
        IpRight keys e) ∧
      ∃ e, getdnsname maxlen dnsBuf keys = some e ∧
        DnsRight maxlen keys e := by
  intro hAlways
  have hFine := (getdnsname_iff (by decide) _ _).mp
    (hAlways 256 (fun _ => 0) (fun _ => 0)
      (List.replicate 65 97 ++ [13]) (by decide)).2
  have hLong := hFine.parts 13 [] (by decide +kernel) rfl
    (List.replicate 65 97) (by decide +kernel)
  exact absurd hLong (by decide)

end Libsocket
