import Libsocket.Unix.Datagram

/-
  What the two receive loops make of one packet, and which
  bytes of the packet buffer they look at for it.

  Neither loop compares the header with the number of bytes
  that were read, so the bytes may lie behind those of the
  message.

  Main declarations:
    * `Verdict`, `streamVerdict`, `dgramVerdict`
    * `streamSpans`, `dgramSpans`
    * `StreamClean`, `DgramClean`
    * `in_bounds_iff`
-/

namespace Libsocket

open Command

------------------------------------------------------------
-- Verdicts
------------------------------------------------------------

/- What becomes of the packet in the buffer. -/
inductive Verdict
  | close
  | reject
  | copy (offset : Int) (n : Nat)
deriving DecidableEq, Repr

/- The checks of `__unix_recv_stream`. -/
def streamVerdict
    (accepted : Bool)
    (secret : UnixMsgSecret)
    (len : Nat)
    (header : UnixMsgHeader) : Verdict :=
  if isClosePacket accepted secret header then
    .close
  else if isDataPacket secret header = false then
    .reject
  else
    .copy header.offset (min len (recvlen header))

/- The check of `__unix_recv_dgram`. -/
def dgramVerdict
    (len : Nat)
    (header : UnixMsgHeader) : Verdict :=
  if isDgramPacket header = false then
    .reject
  else
    .copy header.offset (min len (recvlen header))

/- No more is copied than was asked for. -/
theorem streamVerdict_le
    {accepted : Bool}
    {secret : UnixMsgSecret}
    {len n : Nat}
    {offset : Int}
    {header : UnixMsgHeader}
    (hCopy : streamVerdict accepted secret len header =
      .copy offset n) :
    n ≤ len := by
  unfold streamVerdict at hCopy
  split at hCopy
  · cases hCopy
  split at hCopy
  · cases hCopy
  · cases hCopy
    exact Nat.min_le_left _ _

theorem dgramVerdict_le
    {len n : Nat}
    {offset : Int}
    {header : UnixMsgHeader}
    (hCopy : dgramVerdict len header = .copy offset n) :
    n ≤ len := by
  unfold dgramVerdict at hCopy
  split at hCopy
  · cases hCopy
  · cases hCopy
    exact Nat.min_le_left _ _

/-
  One round of the stream loop, once the message is in the
  buffer.
-/
def streamRound
    (env : RecvEnv)
    (p : Ptr)
    (len : Nat)
    (peeking : Bool)
    (rs : List ReadEnv)
    (lsd : LsckSocket)
    (usock : LsckSocketUnix)
    (ms : List Bytes) : Exec (Int × Bytes) := do
  let s ← get
  let header := UnixMsgHeader.decode s.recvBuf
  match streamVerdict lsd.accepted usock.secret len header with
  | .close => do
      let _ ← unixClose env.closeR env.closeW env.write p
      setErrno .ECONNRESET
      return (-1, [])
  | .reject =>
      if ms.flatten = [] then
        recvLoop env p len peeking rs true
      else
        return (ms.flatten.length, [])
  | .copy offset n => do
      when (header.type &&& unixMsgDgramBit = 0)
        (modifyUnix lsd.idata fun usock =>
          { usock with
            seqR := modMaxintUnsigned
              (usock.seqR + recvlen header) })
      if 2147483648 ≤ n then
        fault
      else if n = 0 then
        recvLoop env p len peeking rs false
      else
        return (n, copyOut s.recvBuf env.around offset n)

/- The loop reads, and then acts on the verdict. -/
theorem recvLoop_cons
    (env : RecvEnv)
    (p : Ptr)
    (len : Nat)
    (peeking : Bool)
    (r : ReadEnv)
    (rs : List ReadEnv)
    (bad : Bool) :
    recvLoop env p len peeking (r :: rs) bad = (do
      let lsd ← derefSocket p
      let usock ← deref Block.unix? lsd.idata
      let taken ← readPacket r (!bad && peeking) usock.fdR
      match taken with
      | none => do
          setErrno Errno.EIO
          return (-1, [])
      | some ms => do
          modify fun s =>
            { s with recvBuf := overlay s.recvBuf ms.flatten }
          streamRound env p len peeking rs lsd usock ms) := by
  unfold recvLoop streamRound streamVerdict
  congr 1
  funext lsd
  congr 1
  funext usock
  congr 1
  funext taken
  cases taken with
  | none => rfl
  | some ms =>
      dsimp only
      congr 1
      funext _
      congr 1
      funext s
      split
      · rfl
      split
      · rfl
      · rfl

------------------------------------------------------------
-- The Bytes That Are Used
------------------------------------------------------------

/- Bytes of the packet buffer, from an index on. -/
structure Span where
  start : Int
  width : Nat
deriving DecidableEq, Repr

/- They are among the first `r`. -/
def Span.Within (r : Nat) (x : Span) : Prop :=
  x.width = 0 ∨ 0 ≤ x.start ∧ x.start + x.width ≤ r

instance (r : Nat) (x : Span) : Decidable (x.Within r) :=
  inferInstanceAs (Decidable (_ ∨ _))

def typeSpan : Span := ⟨1, 1⟩
def secretSpan : Span := ⟨2, 8⟩
def seqStartSpan : Span := ⟨10, 4⟩
def seqEndSpan : Span := ⟨14, 4⟩
def offsetSpan : Span := ⟨18, 2⟩

/- The fields that are used of any packet. -/
def headerSpans : List Span :=
  [seqEndSpan, seqStartSpan, offsetSpan, typeSpan]

/- The data of a packet that is copied. -/
def Verdict.dataSpans : Verdict → List Span
| .copy offset n => [⟨offset, n⟩]
| _ => []

/- The secret is compared with the socket's. -/
def comparesSecret
    (accepted : Bool)
    (header : UnixMsgHeader) : Bool :=
  header.type == unixMsgServerClose && !accepted ||
    header.type == unixMsgClientClose && accepted ||
    header.type &&& unixMsgData != 0 &&
      header.type &&& unixMsgDgramBit == 0

/- What the stream loop uses of the packet buffer. -/
def streamSpans
    (accepted : Bool)
    (secret : UnixMsgSecret)
    (len : Nat)
    (header : UnixMsgHeader) : List Span :=
  headerSpans ++
    (if comparesSecret accepted header then [secretSpan]
     else []) ++
    (streamVerdict accepted secret len header).dataSpans

/- The path of a packet, with the byte that ends it. -/
def pathSpan (buffer : Bytes) : Span :=
  ⟨headerSize,
    ((buffer.drop headerSize).takeWhile (· != 0)).length + 1⟩

/- What the datagram loop uses of it. -/
def dgramSpans
    (len : Nat)
    (source : Option Nat)
    (buffer : Bytes) : List Span :=
  let verdict :=
    dgramVerdict len (UnixMsgHeader.decode buffer)
  headerSpans ++
    (if verdict ≠ .reject ∧ source.isSome
     then [pathSpan buffer] else []) ++
    verdict.dataSpans

/- The copy of a verdict lies among the first `r` bytes. -/
def Verdict.CopiesWithin (r : Nat) : Verdict → Prop
| .copy offset n => n = 0 ∨ 0 ≤ offset ∧ offset + n ≤ r
| _ => True

/- The copy of a verdict has at most the length asked for. -/
def Verdict.CopiesAtMost (len : Nat) : Verdict → Prop
| .copy _ n => n ≤ len
| _ => True

/-
  The stream loop keeps to the bytes of the message that has
  been read over what the buffer held before.
-/
def StreamInBounds
    (accepted : Bool)
    (secret : UnixMsgSecret)
    (len : Nat)
    (stale m : Bytes) : Prop :=
  let header := UnixMsgHeader.decode (overlay stale m)
  (∀ x ∈ streamSpans accepted secret len header,
    x.Within m.length) ∧
  (streamVerdict accepted secret len header).CopiesAtMost len

/- So does the datagram loop. -/
def DgramInBounds
    (len : Nat)
    (source : Option Nat)
    (stale m : Bytes) : Prop :=
  (∀ x ∈ dgramSpans len source (overlay stale m),
    x.Within m.length) ∧
  (dgramVerdict len (UnixMsgHeader.decode
    (overlay stale m))).CopiesAtMost len

------------------------------------------------------------
-- Clean Messages
------------------------------------------------------------

/-
  The message has a whole header, and holds the data that the
  header promises if that is to be copied.
-/
def StreamClean
    (accepted : Bool)
    (secret : UnixMsgSecret)
    (len : Nat)
    (m : Bytes) : Prop :=
  headerSize ≤ m.length ∧
    (streamVerdict accepted secret len
      (UnixMsgHeader.decode m)).CopiesWithin m.length

/- A datagram also ends its path if that is asked for. -/
def DgramClean
    (len : Nat)
    (source : Option Nat)
    (m : Bytes) : Prop :=
  headerSize ≤ m.length ∧
    (dgramVerdict len
      (UnixMsgHeader.decode m)).CopiesWithin m.length ∧
    (dgramVerdict len (UnixMsgHeader.decode m) ≠ .reject →
      source.isSome → 0 ∈ m.drop headerSize)

/- A message goes over the start of the buffer. -/
theorem overlay_message
    {stale m : Bytes}
    (hFits : m.length ≤ stale.length) :
    overlay stale m = m ++ stale.drop m.length := by
  unfold overlay
  rw [List.take_of_length_le hFits]

/- A whole header does not depend on what was there before. -/
theorem decode_overlay
    {stale m : Bytes}
    (hFits : m.length ≤ stale.length)
    (hHeader : headerSize ≤ m.length) :
    UnixMsgHeader.decode (overlay stale m) =
      UnixMsgHeader.decode m := by
  rw [overlay_message hFits]
  exact UnixMsgHeader.decode_append hHeader _

/- The fields are within the message if its header is whole. -/
theorem headerSpans_within (r : Nat) :
    (∀ x ∈ headerSpans, x.Within r) ↔ headerSize ≤ r := by
  unfold headerSpans headerSize
  constructor
  · intro hAll
    have hOffset : (2 : Nat) = 0 ∨
        (0 : Int) ≤ 18 ∧ (18 : Int) + (2 : Nat) ≤ r :=
      hAll offsetSpan (by decide)
    omega
  · intro hHeader x hX
    right
    simp only [List.mem_cons, List.not_mem_nil, or_false]
      at hX
    rcases hX with rfl | rfl | rfl | rfl
    · simp only [seqEndSpan]
      omega
    · simp only [seqStartSpan]
      omega
    · simp only [offsetSpan]
      omega
    · simp only [typeSpan]
      omega

theorem secretSpan_within
    {r : Nat}
    (hHeader : headerSize ≤ r) :
    secretSpan.Within r := by
  unfold headerSize at hHeader
  right
  simp only [secretSpan]
  omega

theorem Verdict.dataSpans_within
    (verdict : Verdict)
    (r : Nat) :
    (∀ x ∈ verdict.dataSpans, x.Within r) ↔
      verdict.CopiesWithin r := by
  cases verdict with
  | close => simp [dataSpans, CopiesWithin]
  | reject => simp [dataSpans, CopiesWithin]
  | copy offset n =>
      simp [dataSpans, CopiesWithin, Span.Within]

/- The path ends among the bytes of the message. -/
theorem pathSpan_within
    {stale m : Bytes}
    (hFits : m.length ≤ stale.length)
    (hHeader : headerSize ≤ m.length) :
    (pathSpan (overlay stale m)).Within m.length ↔
      0 ∈ m.drop headerSize := by
  have hShape : (overlay stale m).drop headerSize =
      m.drop headerSize ++ stale.drop m.length := by
    rw [overlay_message hFits,
      List.drop_append_of_le_length hHeader]
  have hLength : (m.drop headerSize).length =
      m.length - headerSize := List.length_drop
  unfold pathSpan Span.Within
  rw [hShape]
  dsimp only
  by_cases hEnds : 0 ∈ m.drop headerSize
  · have hShort : ((m.drop headerSize ++
        stale.drop m.length).takeWhile (· != 0)).length <
          (m.drop headerSize).length := by
      rcases List.mem_iff_append.mp hEnds with
        ⟨before, after, hSplit⟩
      rw [hSplit, List.append_assoc, List.takeWhile_append]
      split
      · simp
      · have hLe := (List.takeWhile_prefix
          (l := before) (p := (· != 0))).length_le
        simp only [List.length_append, List.length_cons]
        omega
    simp only [hEnds, iff_true]
    omega
  · have hAll : ∀ b ∈ m.drop headerSize, (b != 0) = true := by
      intro b hB
      rw [bne_iff_ne]
      rintro rfl
      exact hEnds hB
    have hLong : (m.drop headerSize).length ≤
        ((m.drop headerSize ++
          stale.drop m.length).takeWhile (· != 0)).length := by
      rw [List.takeWhile_append_of_pos hAll,
        List.length_append]
      omega
    simp only [hEnds, iff_false]
    omega

theorem stream_in_bounds
    {stale m : Bytes}
    (hFits : m.length ≤ stale.length)
    (accepted : Bool)
    (secret : UnixMsgSecret)
    (len : Nat) :
    StreamInBounds accepted secret len stale m ↔
      StreamClean accepted secret len m := by
  unfold StreamInBounds StreamClean streamSpans
  simp only [List.forall_mem_append, headerSpans_within,
    Verdict.dataSpans_within]
  constructor
  · rintro ⟨⟨⟨hHeader, -⟩, hData⟩, -⟩
    rw [decode_overlay hFits hHeader] at hData
    exact ⟨hHeader, hData⟩
  · rintro ⟨hHeader, hData⟩
    rw [decode_overlay hFits hHeader]
    refine ⟨⟨⟨hHeader, ?_⟩, hData⟩, ?_⟩
    · split
      · simpa using secretSpan_within hHeader
      · simp
    · cases hVerdict : streamVerdict accepted secret len
          (UnixMsgHeader.decode m) with
      | close => trivial
      | reject => trivial
      | copy offset n => exact streamVerdict_le hVerdict

theorem dgram_in_bounds
    {stale m : Bytes}
    (hFits : m.length ≤ stale.length)
    (len : Nat)
    (source : Option Nat) :
    DgramInBounds len source stale m ↔
      DgramClean len source m := by
  unfold DgramInBounds DgramClean dgramSpans
  simp only [List.forall_mem_append, headerSpans_within,
    Verdict.dataSpans_within]
  constructor
  · rintro ⟨⟨⟨hHeader, hPath⟩, hData⟩, -⟩
    rw [decode_overlay hFits hHeader] at hPath hData
    refine ⟨hHeader, hData, ?_⟩
    intro hCopies hAsked
    rw [if_pos ⟨hCopies, hAsked⟩] at hPath
    exact (pathSpan_within hFits hHeader).mp
      (hPath _ (List.mem_singleton_self _))
  · rintro ⟨hHeader, hData, hPath⟩
    rw [decode_overlay hFits hHeader]
    refine ⟨⟨⟨hHeader, ?_⟩, hData⟩, ?_⟩
    · split
      next hCopies =>
        simpa using (pathSpan_within hFits hHeader).mpr
          (hPath hCopies.1 hCopies.2)
      next => simp
    · cases hVerdict : dgramVerdict len
          (UnixMsgHeader.decode m) with
      | close => trivial
      | reject => trivial
      | copy offset n => exact dgramVerdict_le hVerdict

/-
  Whatever a message says, both loops keep to its bytes if
  and only if it has a whole header and the data (and path)
  that are taken from it.
-/
theorem in_bounds_iff
    {stale m : Bytes}
    (hFits : m.length ≤ stale.length)
    (accepted : Bool)
    (secret : UnixMsgSecret)
    (len : Nat)
    (source : Option Nat) :
    (StreamInBounds accepted secret len stale m ↔
      StreamClean accepted secret len m) ∧
    (DgramInBounds len source stale m ↔
      DgramClean len source m) :=
  ⟨stream_in_bounds hFits accepted secret len,
    dgram_in_bounds hFits len source⟩

/- A data packet that promises `n` bytes and holds `data`. -/
def packetOf
    (secret : UnixMsgSecret)
    (n : Nat)
    (data : Bytes) : Bytes :=
  (dataHeader { LsckSocketUnix.cleared with
    secret := secret } n).encode ++ data

/- A packet that holds what it promises. -/
theorem in_bounds_of_whole :
    StreamInBounds false ⟨7, 1⟩ 2 (List.replicate 64 0)
        (packetOf ⟨7, 1⟩ 2 [97, 98]) ∧
      DgramInBounds 2 none (List.replicate 64 0)
        (packetOf ⟨7, 1⟩ 2 [97, 98]) := by
  have hFits : (packetOf ⟨7, 1⟩ 2 [97, 98]).length ≤
      (List.replicate 64 (0 : UInt8)).length := by
    decide +kernel
  have hStream : streamVerdict false ⟨7, 1⟩ 2
      (UnixMsgHeader.decode (packetOf ⟨7, 1⟩ 2 [97, 98])) =
        .copy 20 2 := by decide +kernel
  have hDgram : dgramVerdict 2
      (UnixMsgHeader.decode (packetOf ⟨7, 1⟩ 2 [97, 98])) =
        .copy 20 2 := by decide +kernel
  have hIff := in_bounds_iff hFits false ⟨7, 1⟩ 2 none
  constructor
  · apply hIff.1.mpr
    refine ⟨by decide +kernel, ?_⟩
    rw [hStream]
    exact .inr ⟨by decide, by decide +kernel⟩
  · apply hIff.2.mpr
    refine ⟨by decide +kernel, ?_, ?_⟩
    · rw [hDgram]
      exact .inr ⟨by decide, by decide +kernel⟩
    · intro _ hAsked
      cases hAsked

/- A packet that promises a byte which it does not hold. -/
theorem out_of_bounds_of_short :
    ¬ ∀ (accepted : Bool) (secret : UnixMsgSecret) (len : Nat)
        (source : Option Nat) (stale m : Bytes),
      m.length ≤ stale.length →
        StreamInBounds accepted secret len stale m ∧
          DgramInBounds len source stale m := by
  intro hAlways
  have hFits : (packetOf ⟨7, 1⟩ 1 []).length ≤
      (List.replicate 64 (0 : UInt8)).length := by
    decide +kernel
  have hIn := (hAlways false ⟨7, 1⟩ 1 none _ _ hFits).1
  have hCopies := ((stream_in_bounds hFits false ⟨7, 1⟩ 1).mp
    hIn).2
  have hVerdict : streamVerdict false ⟨7, 1⟩ 1
      (UnixMsgHeader.decode (packetOf ⟨7, 1⟩ 1 [])) =
        .copy 20 1 := by decide +kernel
  rw [hVerdict] at hCopies
  rcases hCopies with hNone | ⟨-, hEnd⟩
  · cases hNone
  · revert hEnd
    decide +kernel

end Libsocket
