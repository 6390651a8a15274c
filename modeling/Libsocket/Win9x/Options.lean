import Libsocket.Library.TagLength
import Libsocket.Win9x.Dhcp

/-
  Which option a look-up works on. The options are to be
  walked one by one; the look-ups search for a byte.

  Main declarations:
    * `LooksUp`
    * `FoundFirst`
    * `looks_up_iff`
-/

namespace Libsocket

open Cursor TagLength

------------------------------------------------------------
-- The Search
------------------------------------------------------------

/- A byte of the upper half is negative as a `char`. -/
theorem signedChar_eq_iff (b c : UInt8) :
    signedChar b = c.toNat ↔ b = c ∧ c.toNat < 128 := by
  have hB := b.toNat_lt
  have hC := c.toNat_lt
  rw [← UInt8.toNat_inj]
  unfold signedChar
  split
  · omega
  · omega

/- The search finds the first byte that is the code. -/
theorem dhcpFind_eq
    {c : UInt8}
    (hCode : c.toNat < 128)
    (i : Nat)
    (p : Bytes) :
    dhcpFind c.toNat i p =
      if c ∈ p then
        some (i + (Cut.before c p).length)
      else
        none := by
  induction p generalizing i with
  | nil => rfl
  | cons b bs ih =>
      rw [dhcpFind]
      by_cases hHere : b = c
      · rw [if_pos ((signedChar_eq_iff b c).mpr ⟨hHere, hCode⟩)]
        simp [hHere, Cut.before]
      · have hNot : ¬ signedChar b = c.toNat :=
          fun h => hHere ((signedChar_eq_iff b c).mp h).1
        rw [if_neg hNot, ih]
        simp only [List.mem_cons, Ne.symm hHere, false_or,
          Cut.before, if_neg hHere, List.length_cons]
        split
        · congr 1
          omega
        · rfl

/- A code of the upper half is never found. -/
theorem dhcpFind_high
    {c : UInt8}
    (hCode : ¬ c.toNat < 128)
    (i : Nat)
    (p : Bytes) :
    dhcpFind c.toNat i p = none := by
  induction p generalizing i with
  | nil => rfl
  | cons b bs ih =>
      rw [dhcpFind, if_neg fun h =>
        hCode ((signedChar_eq_iff b c).mp h).2, ih]

------------------------------------------------------------
-- The Option That Is Meant
------------------------------------------------------------

/- The name of an option, as far as the buffer takes it. -/
def optionName (buffer d : Bytes) : Bytes :=
  (d.takeWhile fun b => b != 0).take (buffer.length - 1)

/-
  The answer that the data of an option call for: its
  addresses, as many as there is room for, or its name. An
  option without data has no addresses.
-/
def DhcpLookup.Delivers
    (d : Bytes)
    (r : DhcpAnswer) : DhcpLookup → Prop
| addrs _ ipMax =>
    r.ret = (if d = [] then 0 else 1) ∧
      r.ip = (optionAddrs d).take ipMax.toNat
| hostname buffer =>
    r.ret = 1 ∧ CString.read? (r.buffer buffer) =
      some (optionName buffer d)
| domainname buffer =>
    r.ret = 1 ∧ CString.read? (r.buffer buffer) =
      some (optionName buffer d)

/-
  A look-up works on the first option with its code, and on
  none if there is none.
-/
def LooksUp
    (env : DhcpEnv)
    (os : List Element)
    (call : DhcpLookup) : Prop :=
  ∃ r, call.run env = .ok r ∧
    match first call.code os with
    | none =>
        dhcpFind call.code.toNat 0 (encode os) = none ∧
          r.ret = 0 ∧ r.ip = [] ∧ r.name = none
    | some e =>
        dhcpFind call.code.toNat 0 (encode os) =
            some (before call.code os).length ∧
          call.Delivers e.data r

/-
  The addresses of an option are delivered if it is shorter
  than 128 bytes and no address is cut off among those that
  there is room for.
-/
def AddrsPlain
    (env : DhcpEnv)
    (ipMax : Int)
    (d : Bytes) : Prop :=
  (env.memory = true ∨ d = []) ∧ d.length < 128 ∧
    (d.length % 4 = 0 ∨ ipMax ≤ (d.length / 4 : Nat))

/-
  The name of an option is delivered if a byte follows the
  option and a NUL the name: in the data that are copied, or
  right behind them in the caller's buffer. Of an option
  without data, or with 128 bytes or more, nothing is copied.
-/
def NamePlain
    (env : DhcpEnv)
    (buffer d rest : Bytes) : Prop :=
  env.memory = true ∧
    if 0 < d.length ∧ d.length < 128 then
      rest ≠ [] ∧ 0 < buffer.length ∧
        (0 ∈ d.take (min d.length buffer.length) ∨
          (buffer.drop d.length).head? = some 0)
    else
      CString.read? buffer = some (optionName buffer d)

def DhcpLookup.Plain
    (env : DhcpEnv)
    (d rest : Bytes) : DhcpLookup → Prop
| addrs _ ipMax => AddrsPlain env ipMax d
| hostname buffer => NamePlain env buffer d rest
| domainname buffer => NamePlain env buffer d rest

/-
  The condition: the string fits the buffer it is read into,
  no byte in front of the option equals its code, and the
  option is a plain one. Without the option no byte at all
  equals the code, and the absence of a name is seen only
  when there is no memory.
-/
def FoundFirst
    (env : DhcpEnv)
    (os : List Element)
    (call : DhcpLookup) : Prop :=
  (encode os).length ≤ dhcpBufferSize ∧
    match first call.code os with
    | none =>
        (call.code.toNat < 128 → call.code ∉ encode os) ∧
          (env.memory = true → call.notFound.ret = 0)
    | some e =>
        call.code.toNat < 128 ∧
          call.code ∉ before call.code os ∧
            call.Plain env e.data (behind call.code os)

------------------------------------------------------------
-- Looking Up
------------------------------------------------------------

/- The search stops at the option if nothing in front matches. -/
theorem dhcpFind_first_iff
    {c : UInt8}
    {os : List Element}
    {e : Element}
    (hFirst : first c os = some e) :
    dhcpFind c.toNat 0 (encode os) =
        some (before c os).length ↔
      c.toNat < 128 ∧ c ∉ before c os := by
  have hShape := encode_eq hFirst
  have hTag := first_tag hFirst
  by_cases hCode : c.toNat < 128
  · have hMem : c ∈ encode os := by
      rw [hShape]
      simp [Element.bytes, hTag]
    rw [dhcpFind_eq hCode, if_pos hMem, Nat.zero_add]
    simp only [hCode, true_and, Option.some.injEq]
    constructor
    · intro hLength hFront
      have hShorter := Cut.length_before_lt hFront
      rw [hShape, List.append_assoc,
        Cut.before_append_of_mem hFront] at hLength
      omega
    · intro hFront
      rw [hShape, List.append_assoc, Element.bytes, hTag,
        List.cons_append, Cut.before_append hFront]
  · rw [dhcpFind_high hCode]
    simp [hCode]

section Option

variable {c : UInt8} {os : List Element} {e : Element}

theorem length_encode_first
    (hFirst : first c os = some e) :
    (encode os).length = (before c os).length + 2 +
      e.data.length + (behind c os).length := by
  rw [encode_eq hFirst]
  simp only [List.length_append, TagLength.length_bytes]
  omega

theorem drop_encode_first
    (hFirst : first c os = some e) :
    (encode os).drop ((before c os).length + 2) =
      e.data ++ behind c os := by
  rw [encode_eq hFirst, List.append_assoc, ← List.drop_drop,
    List.drop_left]
  rfl

theorem optionLength_first
    (hFirst : first c os = some e) :
    optionLength (encode os) (before c os).length =
      if e.data.length < 128 then
        (e.data.length : Int)
      else
        (e.data.length : Int) - 256 := by
  have hByte : (encode os).getD ((before c os).length + 1) 0 =
      UInt8.ofNat e.data.length := by
    rw [encode_eq hFirst]
    simp [Element.bytes, List.getD]
  rw [optionLength, hByte, signedChar, e.toNat_length]

end Option

/- Bytes that are copied depend on the bytes that are. -/
theorem strncpy_append
    {n : Nat}
    {d : Bytes}
    (hLess : n ≤ d.length)
    (rest : Bytes) :
    strncpy n (d ++ rest) = strncpy n d := by
  unfold strncpy
  rw [List.take_append_of_le_length hLess]

/- Without a NUL among them they are copied as they are. -/
theorem strncpy_text
    {n : Nat}
    {d : Bytes}
    (hLess : n ≤ d.length)
    (hText : 0 ∉ d.take n) :
    strncpy n d = d.take n := by
  have hAll : ((d.take n).takeWhile fun b => b != 0) =
      d.take n := by
    rw [List.takeWhile_eq_self_iff]
    intro b hB
    rw [bne_iff_ne]
    exact fun hZero => hText (hZero ▸ hB)
  unfold strncpy
  dsimp only
  rw [hAll, List.length_take, Nat.min_eq_left hLess,
    Nat.sub_self, List.replicate_zero, List.append_nil]

/- With a NUL among them the string is copied. -/
theorem strncpy_ends
    {n : Nat}
    {d : Bytes}
    (hEnds : 0 ∈ d.take n) :
    (d.takeWhile fun b => b != 0).length < n ∧
      ∃ k, strncpy n d = (d.takeWhile fun b => b != 0) ++
        0 :: List.replicate k 0 := by
  have hText : ((d.take n).takeWhile fun b => b != 0) =
      d.takeWhile fun b => b != 0 := by
    conv_rhs => rw [← List.take_append_drop n d]
    rw [CString.takeWhile_append_of_mem hEnds]
  have hLess := CString.length_takeWhile_lt hEnds
  rw [hText, List.length_take] at hLess
  constructor
  · omega
  · refine ⟨n - (d.takeWhile fun b => b != 0).length - 1, ?_⟩
    unfold strncpy
    dsimp only
    rw [hText, ← List.replicate_succ]
    congr 2
    omega

/- The bytes that a look-up reads of a name. -/
theorem isText_takeWhile (d : Bytes) :
    CString.IsText (d.takeWhile fun b => b != 0) := by
  intro b hB
  have hNonzero := List.mem_takeWhile_imp hB
  exact bne_iff_ne.mp hNonzero

/-
  What the caller reads of a name that was copied to the
  buffer is the name exactly if a NUL follows it.
-/
theorem read?_buffer_iff
    {d buffer : Bytes}
    (hRoom : 0 < buffer.length) :
    CString.read? (overlay buffer
        (strncpy (min d.length buffer.length) d)) =
        some (optionName buffer d) ↔
      0 ∈ d.take (min d.length buffer.length) ∨
        (buffer.drop d.length).head? = some 0 := by
  have hOverlay : overlay buffer
      (strncpy (min d.length buffer.length) d) =
        strncpy (min d.length buffer.length) d ++
          buffer.drop (min d.length buffer.length) := by
    rw [overlay, length_strncpy, List.take_of_length_le]
    rw [length_strncpy]
    omega
  rw [hOverlay]
  by_cases hEnds : 0 ∈ d.take (min d.length buffer.length)
  · have hCopy := strncpy_ends hEnds
    obtain ⟨hLess, k, hStored⟩ := hCopy
    have hName : optionName buffer d =
        d.takeWhile fun b => b != 0 := by
      unfold optionName
      rw [List.take_of_length_le (by omega)]
    have hRead := CString.read?_text_append
      (isText_takeWhile d) (0 :: List.replicate k 0 ++
        buffer.drop (min d.length buffer.length))
    have hEmpty : CString.read? (0 :: List.replicate k 0 ++
        buffer.drop (min d.length buffer.length)) =
          some [] := by
      simp [CString.read?]
    rw [hEmpty, Option.map_some, List.append_nil] at hRead
    simp only [hEnds, true_or, iff_true]
    rw [hStored, List.append_assoc, hRead, hName]
  · have hText : CString.IsText
        (d.take (min d.length buffer.length)) :=
      fun b hB hZero => hEnds (hZero ▸ hB)
    rw [strncpy_text (by omega) hEnds,
      CString.read?_text_append hText]
    simp only [hEnds, false_or]
    by_cases hShort : d.length < buffer.length
    · have hAll : d.take (min d.length buffer.length) = d := by
        rw [Nat.min_eq_left (by omega), List.take_length]
      rw [hAll] at hEnds hText
      have hName : optionName buffer d = d := by
        have hWhole : (d.takeWhile fun b => b != 0) = d := by
          rw [List.takeWhile_eq_self_iff]
          intro b hB
          exact bne_iff_ne.mpr (hText b hB)
        unfold optionName
        rw [hWhole, List.take_of_length_le (by omega)]
      rw [hAll, hName, Nat.min_eq_left (by omega)]
      rw [← CString.read?_eq_nil_iff]
      cases CString.read? (buffer.drop d.length) with
      | none => simp
      | some rest => simp
    · have hNone : buffer.drop d.length = [] := by
        rw [List.drop_eq_nil_iff]
        omega
      have hBehind :
          buffer.drop (min d.length buffer.length) = [] := by
        rw [List.drop_eq_nil_iff]
        omega
      rw [hNone, hBehind]
      simp [CString.read?]

theorem length_optionAddrs (d : Bytes) :
    (optionAddrs d).length = d.length / 4 := by
  fun_induction optionAddrs d with
  | case1 b₀ b₁ b₂ b₃ bs ih =>
      simp only [List.length_cons, ih]
      omega
  | case2 d hShort =>
      match d, hShort with
      | [], _ => rfl
      | [_], _ => simp
      | [_, _], _ => simp
      | [_, _, _], _ => simp
      | b₀ :: b₁ :: b₂ :: b₃ :: bs, hShort =>
          exact absurd rfl (hShort b₀ b₁ b₂ b₃ bs)

/- Whole addresses do not depend on what follows. -/
theorem optionAddrs_append
    {k : Nat}
    {d : Bytes}
    (hWhole : 4 * k ≤ d.length)
    (rest : Bytes) :
    (optionAddrs (d ++ rest)).take k =
      (optionAddrs d).take k := by
  induction k generalizing d with
  | zero => rw [List.take_zero, List.take_zero]
  | succ k ih =>
      match d, hWhole with
      | b₀ :: b₁ :: b₂ :: b₃ :: bs, hWhole =>
          simp only [List.length_cons] at hWhole
          simp only [List.cons_append, optionAddrs,
            List.take_succ_cons]
          rw [ih (by omega)]

/- The addresses that the loop copies are those of the option. -/
theorem copied_addrs_iff
    {d rest : Bytes}
    {room : Nat}
    (hInside : 4 * addrRounds room d.length ≤
      (d ++ rest).length) :
    (optionAddrs (d ++ rest)).take (addrRounds room d.length) =
        (optionAddrs d).take room ↔
      d.length % 4 = 0 ∨ room ≤ d.length / 4 := by
  have hAll := length_optionAddrs (d ++ rest)
  have hOwn := length_optionAddrs d
  by_cases hPlain : d.length % 4 = 0 ∨ room ≤ d.length / 4
  · have hRounds : addrRounds room d.length =
        min room (d.length / 4) := by
      unfold addrRounds
      omega
    simp only [hPlain, iff_true]
    rw [hRounds, optionAddrs_append (by omega),
      List.take_eq_take_iff, hOwn]
    omega
  · simp only [hPlain, iff_false]
    intro hSame
    have hLength := congrArg List.length hSame
    rw [List.length_take, List.length_take, hAll, hOwn]
      at hLength
    unfold addrRounds at hLength hInside
    omega

------------------------------------------------------------
-- The Right Option
------------------------------------------------------------

section Found

variable {env : DhcpEnv} {os : List Element} {e : Element}
variable {c : UInt8}

/- The addresses of the first option with the code. -/
theorem addrs_delivered_iff
    {ipMax : Int}
    (hFirst : first c os = some e) :
    (∃ r, dhcpAddrsAt ipMax (encode os)
          (before c os).length = .ok r ∧
        (DhcpLookup.addrs c ipMax).Delivers e.data r) ↔
      e.data.length < 128 ∧
        (e.data.length % 4 = 0 ∨
          ipMax ≤ (e.data.length / 4 : Nat)) := by
  have hSize := length_encode_first hFirst
  have hLength := optionLength_first hFirst
  have hDrop := drop_encode_first hFirst
  have hFits := e.fits
  by_cases hCopies : 0 < e.data.length ∧ e.data.length < 128
  · rw [if_pos hCopies.2] at hLength
    have hData : e.data ≠ [] :=
      List.ne_nil_of_length_pos hCopies.1
    rw [dhcpAddrsAt_long (by omega) (by omega), hLength]
    have hRounds : (e.data.length : Int).toNat =
        e.data.length := Int.toNat_natCast _
    by_cases hInside : (before c os).length + 2 +
        4 * addrRounds ipMax.toNat e.data.length ≤
          (encode os).length
    · rw [dhcpCopyAddrs_eq (by rw [hRounds]; exact hInside),
        ok_bind, hRounds, hDrop]
      have hCopied := @copied_addrs_iff e.data (behind c os)
        ipMax.toNat (by rw [List.length_append]; omega)
      constructor
      · rintro ⟨r, hRun, -, hAddrs⟩
        cases hRun
        rcases hCopied.mp hAddrs with hQuad | hRoom
        · exact ⟨hCopies.2, .inl hQuad⟩
        · exact ⟨hCopies.2, .inr (by omega)⟩
      · rintro ⟨-, hPlain⟩
        refine ⟨_, rfl, (if_neg hData).symm, hCopied.mpr ?_⟩
        omega
    · constructor
      · rintro ⟨r, hRun, -⟩
        cases hCopy : dhcpCopyAddrs (encode os) ipMax.toNat
            (((before c os).length + 2 : Nat) : Int)
            e.data.length with
        | error err =>
            rw [hCopy] at hRun
            cases hRun
        | ok ip =>
            exact absurd hCopy (dhcpCopyAddrs_outside
              (by omega) (by rw [hRounds]; omega) ip)
      · rintro ⟨-, hPlain⟩
        unfold addrRounds at hInside
        omega
  · have hShort : optionLength (encode os)
        (before c os).length ≤ 0 := by
      rw [hLength]
      split
      · omega
      · omega
    rw [dhcpAddrsAt_short (by omega) hShort]
    constructor
    · rintro ⟨r, hRun, hRet, -⟩
      cases hRun
      by_cases hData : e.data = []
      · rw [hData]
        simp
      · rw [if_neg hData] at hRet
        cases hRet
    · rintro ⟨hSmall, -⟩
      have hNone : e.data.length = 0 := by omega
      have hData := List.eq_nil_of_length_eq_zero hNone
      refine ⟨_, rfl, (if_pos hData).symm, ?_⟩
      rw [hData]
      exact List.take_nil.symm

/- The name of the first option with the code. -/
theorem name_delivered_iff
    {buffer : Bytes}
    (hFirst : first c os = some e) :
    (∃ r, dhcpNameAt buffer.length (encode os)
          (before c os).length = .ok r ∧
        r.ret = 1 ∧ CString.read? (r.buffer buffer) =
          some (optionName buffer e.data)) ↔
      if 0 < e.data.length ∧ e.data.length < 128 then
        behind c os ≠ [] ∧ 0 < buffer.length ∧
          (0 ∈ e.data.take (min e.data.length buffer.length) ∨
            (buffer.drop e.data.length).head? = some 0)
      else
        CString.read? buffer =
          some (optionName buffer e.data) := by
  have hSize := length_encode_first hFirst
  have hLength := optionLength_first hFirst
  have hDrop := drop_encode_first hFirst
  have hFits := e.fits
  by_cases hCopies : 0 < e.data.length ∧ e.data.length < 128
  · rw [if_pos hCopies]
    rw [if_pos hCopies.2] at hLength
    by_cases hRuns : behind c os ≠ [] ∧ 0 < buffer.length
    · have hBehind := List.length_pos_of_ne_nil hRuns.1
      have hRun := @dhcpNameAt_long buffer.length (encode os)
        (before c os).length (by omega) (by omega) hRuns.2
      have hCount : nameLength buffer.length (encode os)
          (before c os).length =
            min e.data.length buffer.length := by
        rw [nameLength, hLength, Int.toNat_natCast]
      rw [hCount, hDrop, strncpy_append (by omega)] at hRun
      have hRead := @read?_buffer_iff e.data buffer hRuns.2
      rw [hRun]
      constructor
      · rintro ⟨r, hSame, -, hName⟩
        cases hSame
        exact ⟨hRuns.1, hRuns.2, hRead.mp hName⟩
      · rintro ⟨-, -, hEnds⟩
        exact ⟨_, rfl, rfl, hRead.mpr hEnds⟩
    · constructor
      · rintro ⟨r, hRun, -⟩
        have hOutside : ((encode os).length : Int) ≤
            (before c os).length + 2 + optionLength (encode os)
              (before c os).length ∨ buffer.length = 0 := by
          by_cases hLast : behind c os = []
          · rw [hLast, List.length_nil] at hSize
            omega
          · have hNone : ¬ 0 < buffer.length :=
              fun h => hRuns ⟨hLast, h⟩
            omega
        exact absurd hRun
          (dhcpNameAt_outside (by omega) hOutside r)
      · rintro ⟨hLast, hRoom, -⟩
        exact absurd ⟨hLast, hRoom⟩ hRuns
  · rw [if_neg hCopies]
    have hShort : optionLength (encode os)
        (before c os).length ≤ 0 := by
      rw [hLength]
      split
      · omega
      · omega
    have hSame : overlay buffer [] = buffer := by
      simp [overlay]
    rw [dhcpNameAt_short (by omega) hShort]
    constructor
    · rintro ⟨r, hRun, -, hName⟩
      cases hRun
      rw [DhcpAnswer.buffer, Option.getD_none, hSame] at hName
      exact hName
    · intro hName
      refine ⟨_, rfl, rfl, ?_⟩
      rw [DhcpAnswer.buffer, Option.getD_none, hSame]
      exact hName

/- What any of the look-ups does with the option. -/
theorem delivered_iff
    (call : DhcpLookup)
    (hMemory : env.memory = true)
    (hFirst : first call.code os = some e) :
    (∃ r, call.foundAt (encode os)
          (before call.code os).length = .ok r ∧
        call.Delivers e.data r) ↔
      call.Plain env e.data (behind call.code os) := by
  cases call with
  | addrs opt ipMax =>
      rw [DhcpLookup.Plain, AddrsPlain]
      simp only [hMemory, true_or, true_and]
      exact addrs_delivered_iff hFirst
  | hostname buffer =>
      rw [DhcpLookup.Plain, NamePlain]
      simp only [hMemory, true_and]
      exact name_delivered_iff hFirst
  | domainname buffer =>
      rw [DhcpLookup.Plain, NamePlain]
      simp only [hMemory, true_and]
      exact name_delivered_iff hFirst

/- Without memory only an option without addresses is right. -/
theorem unread_delivered_iff
    (call : DhcpLookup)
    (d rest : Bytes)
    (hMemory : env.memory = false) :
    call.Delivers d call.unread ↔ call.Plain env d rest := by
  cases call with
  | addrs opt ipMax =>
      rw [DhcpLookup.Plain, AddrsPlain, DhcpLookup.Delivers]
      by_cases hData : d = []
      · subst hData
        simp [DhcpLookup.unread, optionAddrs]
      · simp [hMemory, hData, DhcpLookup.unread]
  | hostname buffer =>
      simp [DhcpLookup.Plain, NamePlain, hMemory,
        DhcpLookup.Delivers, DhcpLookup.unread]
  | domainname buffer =>
      simp [DhcpLookup.Plain, NamePlain, hMemory,
        DhcpLookup.Delivers, DhcpLookup.unread]

end Found

/- No byte is found if none is the code. -/
theorem dhcpFind_none_iff (c : UInt8) (p : Bytes) :
    dhcpFind c.toNat 0 p = none ↔
      (c.toNat < 128 → c ∉ p) := by
  by_cases hCode : c.toNat < 128
  · rw [dhcpFind_eq hCode]
    simp [hCode]
  · rw [dhcpFind_high hCode]
    simp [hCode]

theorem unread_absent (call : DhcpLookup) :
    call.unread.ret = 0 ∧ call.unread.ip = [] ∧
      call.unread.name = none := by
  cases call with
  | addrs opt ipMax => exact ⟨rfl, rfl, rfl⟩
  | hostname buffer => exact ⟨rfl, rfl, rfl⟩
  | domainname buffer => exact ⟨rfl, rfl, rfl⟩

theorem notFound_absent (call : DhcpLookup) :
    call.notFound.ip = [] ∧ call.notFound.name = none := by
  cases call with
  | addrs opt ipMax => exact ⟨rfl, rfl⟩
  | hostname buffer => exact ⟨rfl, rfl⟩
  | domainname buffer => exact ⟨rfl, rfl⟩

/- A look-up of an option that is not there. -/
theorem looks_up_absent_iff
    {env : DhcpEnv}
    {os : List Element}
    {call : DhcpLookup}
    (hBlock : dhcpGetkeyvalue env =
      if env.memory then .ok (some (encode os)) else .ok none)
    (hFirst : first call.code os = none) :
    LooksUp env os call ↔
      (call.code.toNat < 128 → call.code ∉ encode os) ∧
        (env.memory = true → call.notFound.ret = 0) := by
  rw [← dhcpFind_none_iff]
  unfold LooksUp
  rw [hFirst]
  dsimp only
  by_cases hFind : dhcpFind call.code.toNat 0 (encode os) = none
  · simp only [hFind, true_and]
    cases hMemory : env.memory with
    | false =>
        rw [hMemory] at hBlock
        simp only [Bool.false_eq_true, false_implies, iff_true]
        exact ⟨_, call.run_unread hBlock, unread_absent call⟩
    | true =>
        rw [hMemory, if_pos rfl] at hBlock
        have hRun := call.run_notFound hBlock hFind
        simp only [forall_const]
        constructor
        · rintro ⟨r, hSame, hRet, -⟩
          rw [hRun] at hSame
          cases hSame
          exact hRet
        · intro hRet
          exact ⟨_, hRun, hRet, notFound_absent call⟩
  · simp only [hFind, false_and, and_false, exists_false]

/- A look-up of an option that is there. -/
theorem looks_up_present_iff
    {env : DhcpEnv}
    {os : List Element}
    {e : Element}
    {call : DhcpLookup}
    (hBlock : dhcpGetkeyvalue env =
      if env.memory then .ok (some (encode os)) else .ok none)
    (hFirst : first call.code os = some e) :
    LooksUp env os call ↔
      call.code.toNat < 128 ∧
        call.code ∉ before call.code os ∧
          call.Plain env e.data (behind call.code os) := by
  rw [← and_assoc, ← dhcpFind_first_iff hFirst]
  unfold LooksUp
  rw [hFirst]
  dsimp only
  by_cases hFind : dhcpFind call.code.toNat 0 (encode os) =
      some (before call.code os).length
  · cases hMemory : env.memory with
    | false =>
        rw [hMemory] at hBlock
        have hRun := call.run_unread hBlock
        rw [← unread_delivered_iff call e.data _ hMemory]
        constructor
        · rintro ⟨r, hSame, -, hDelivers⟩
          rw [hRun] at hSame
          cases hSame
          exact ⟨hFind, hDelivers⟩
        · rintro ⟨-, hDelivers⟩
          exact ⟨_, hRun, hFind, hDelivers⟩
    | true =>
        rw [hMemory, if_pos rfl] at hBlock
        rw [call.run_found hBlock hFind,
          ← delivered_iff call hMemory hFirst]
        constructor
        · rintro ⟨r, hRun, -, hDelivers⟩
          exact ⟨hFind, r, hRun, hDelivers⟩
        · rintro ⟨-, r, hRun, hDelivers⟩
          exact ⟨r, hRun, hFind, hDelivers⟩
  · simp only [hFind, false_and, and_false, exists_false]

/-
  A look-up works on the option that is meant, and on nothing
  else, exactly when the search finds it first.
-/
theorem looks_up_iff
    {env : DhcpEnv}
    {os : List Element}
    (hValid : env.isValid = true)
    (hInfo : env.optionInfo = some (encode os))
    (call : DhcpLookup) :
    LooksUp env os call ↔ FoundFirst env os call := by
  have hBlock := dhcpGetkeyvalue_block hValid hInfo
  unfold FoundFirst
  by_cases hLong : dhcpBufferSize < (encode os).length
  · rw [if_pos hLong] at hBlock
    constructor
    · rintro ⟨r, hRun, -⟩
      exact absurd hRun (run_too_long call hBlock r)
    · rintro ⟨hShort, -⟩
      omega
  · have hShort : (encode os).length ≤ dhcpBufferSize := by
      omega
    rw [if_neg hLong] at hBlock
    simp only [hShort, true_and]
    cases hFirst : first call.code os with
    | none => exact looks_up_absent_iff hBlock hFirst
    | some e => exact looks_up_present_iff hBlock hFirst

/-
  A DNS option behind an option that has the code of the
  first among its data.
-/
def maskedOptions : List Element :=
  [⟨3, [192, 168, 6, 4], by decide⟩,
    ⟨6, [10, 0, 0, 1], by decide⟩]

def maskedEnv : DhcpEnv where
  openInfo := 0
  openSubkey := 0
  indexAnswer := 0
  valid := 0
  optionInfo := some (encode maskedOptions)
  memory := true

/- The first option is found. -/
theorem router_found :
    LooksUp maskedEnv maskedOptions (.addrs 3 1) := by
  apply (looks_up_iff rfl rfl (.addrs 3 1)).mpr
  constructor
  · decide
  · exact ⟨by decide, by decide, .inl rfl, by decide, .inl rfl⟩

/- The address of the second is taken from the first. -/
theorem dns_masked :
    ¬ LooksUp maskedEnv maskedOptions (.addrs 6 1) := by
  rintro ⟨r, -, hFind, -⟩
  exact absurd hFind (by decide)

end Libsocket
