import Libsocket.Unix.Rendezvous
import Libsocket.Unix.Stream

/-
  Receiving datagrams on the Unix interface, and what a
  receive makes of the packets that a send has cut.

  Main declarations:
    * `unixRecvDgram`
    * `copyOut_eq`
    * `dgram_integrity_iff`
    * `cut_datagram_overruns`
-/

namespace Libsocket

open Command

------------------------------------------------------------
-- Receiving
------------------------------------------------------------

/-
  One outcome for each read, as far as the call gets, what
  the static packet buffer holds, and the memory around it.
-/
structure RecvDgramEnv where
  reads : List ReadEnv
  buffer : Fin mailslotSendsize → UInt8
  around : Int → UInt8

/- Neither a data packet nor a datagram. -/
def isDgramPacket (header : UnixMsgHeader) : Bool :=
  header.type &&& (unixMsgData ||| unixMsgDgramBit) != 0

/- The size of `sun_path`. -/
def sunPathSize : Nat := 108

/-
  The address that a packet names, as much of it as is asked
  for. The string is followed as far as the packet buffer
  goes, whatever the size of the path field.
-/
def packetSource
    (buffer : Bytes)
    (fromlen : Nat) : Exec Bytes := do
  let text ← readString (buffer.drop headerSize)
  let path ← copyInto (List.replicate sunPathSize 0) text
  return (Word.littleEndian 2 1 ++ path).take fromlen

/- Store the address of a packet if it is asked for. -/
def storeSource
    (source : Option Nat)
    (buffer : Bytes)
    (before : Option Bytes) : Exec (Option Bytes) :=
  match source with
  | none => return before
  | some fromlen => do
      let name ← packetSource buffer fromlen
      return some name

/-
  The receive loop: the return value, what is copied to the
  caller, and the address that is stored. A bad packet leads
  back to the loop's test with the byte count of the read in
  `ret`.
-/
def recvDgramLoop
    (around : Int → UInt8)
    (fdR : Fd)
    (len : Nat)
    (peeking : Bool)
    (source : Option Nat) :
    List ReadEnv → Bytes → Option Bytes → Bool →
      Exec (Int × Bytes × Option Bytes)
| [], _, _, _ => stop .blocked
| r :: rs, buffer, stored, badPacket => do
    let taken ← readPacket r (!badPacket && peeking) fdR
    match taken with
    | none => do
        setErrno Errno.EIO
        return (-1, [], stored)
    | some ms => do
        let buffer := overlay buffer ms.flatten
        let header := UnixMsgHeader.decode buffer
        if isDgramPacket header = false then
          if ms.flatten = [] then
            recvDgramLoop around fdR len peeking source rs
              buffer stored true
          else
            return (ms.flatten.length, [], stored)
        else do
          let stored ← storeSource source buffer stored
          let n := min len (recvlen header)
          if 2147483648 ≤ n then
            fault
          else if n = 0 then
            recvDgramLoop around fdR len peeking source rs
              buffer stored false
          else
            return (n, copyOut buffer around header.offset n,
              stored)

/-
  `__unix_recv_dgram`. `source` is the length that `fromlen`
  points to, if both pointers are given.
-/
def unixRecvDgram
    (env : RecvDgramEnv)
    (p : Ptr)
    (len : Nat)
    (flags : Nat)
    (source : Option Nat) :
    Exec (Int × Bytes × Option Bytes) := do
  let lsd ← derefSocket p
  if lsd.type ≠ sockDgram then do
    setErrno .EOPNOTSUPP
    return (-1, [], none)
  else do
    let usock ← deref Block.unix? lsd.idata
    recvDgramLoop env.around usock.fdR len
      (flags &&& msgPeek == msgPeek) source env.reads
      (List.ofFn env.buffer) none false

------------------------------------------------------------
-- The Bytes Of A Packet
------------------------------------------------------------

/- Bytes that lie in the buffer are copied from there. -/
theorem copyOut_eq
    {buffer : Bytes}
    {around : Int → UInt8}
    {offset n : Nat}
    (hRoom : offset + n ≤ buffer.length) :
    copyOut buffer around offset n =
      (buffer.drop offset).take n := by
  apply List.ext_getElem
  · simp only [copyOut, List.length_map, List.length_range,
      List.length_take, List.length_drop]
    omega
  · intro i hLeft hRight
    have hLess : i < n := by
      simpa [copyOut] using hLeft
    have hIn : 0 ≤ (offset : Int) + (i : Int) ∧
        (offset : Int) + (i : Int) < buffer.length := by
      omega
    have hIndex :
        ((offset : Int) + (i : Int)).toNat = offset + i := by
      omega
    simp only [copyOut, List.getElem_map, List.getElem_range,
      memoryAt, if_pos hIn, hIndex, List.getElem_take,
      List.getElem_drop]
    rw [List.getD_eq_getElem?_getD,
      List.getElem?_eq_getElem (by omega),
      Option.getD_some]

/- A packet stands at the start of the buffer. -/
theorem overlay_of_fits
    {buffer packet : Bytes}
    (hFits : packet.length ≤ buffer.length)
    (rest : Bytes) :
    ∃ tail, overlay buffer (packet ++ rest) =
      packet ++ tail := by
  refine ⟨rest.take (buffer.length - packet.length) ++
    buffer.drop (packet ++ rest).length, ?_⟩
  unfold overlay
  rw [List.take_append, List.take_of_length_le hFits,
    List.append_assoc]

/- The header of a datagram's packets fits its fields. -/
theorem wellFormed_dgramHeader (len : Nat) :
    (dgramHeader len).WellFormed := by
  have hRange := Word.signed_range ((len : Int) - 1)
  have hOffset : (dgramHeader len).offset = 148 := rfl
  have hStart : (dgramHeader len).seqStart = 0 := rfl
  constructor
  · rw [hStart]
    decide
  · rw [hStart]
    decide
  · exact hRange.1
  · exact hRange.2
  · rw [hOffset]
    decide
  · rw [hOffset]
    decide

/- The length that the receiver takes a packet to have. -/
theorem recvlen_dgramHeader
    {len : Nat}
    (hLen : len < 4294967296) :
    recvlen (dgramHeader len) = len := by
  have hStart : (dgramHeader len).seqStart = 0 := rfl
  have hEnd : (dgramHeader len).seqEnd =
      Word.signed ((len : Int) - 1) := rfl
  rw [recvlen, hStart, hEnd, Word.unsigned, Word.signed]
  omega

theorem isDgramPacket_dgramHeader (len : Nat) :
    isDgramPacket (dgramHeader len) = true := by
  have hType : (dgramHeader len).type =
      unixMsgData ||| unixMsgDgramBit := rfl
  rw [isDgramPacket, hType]
  decide

------------------------------------------------------------
-- The Address Of A Packet
------------------------------------------------------------

/- An address is not asked for, or the path fits into it. -/
def SourceFits
    (source : Option Nat)
    (published : Bytes) : Prop :=
  source = none ∨ published.length < sunPathSize

theorem storeSource_fits
    {source : Option Nat}
    {buffer published : Bytes}
    {stored : Option Bytes}
    (hPath : CString.read? (buffer.drop headerSize) =
      some published)
    (hFits : SourceFits source published)
    (s : Process) :
    ∃ stored', storeSource source buffer stored s =
      .ok (stored', s) := by
  cases source with
  | none => exact ⟨stored, rfl⟩
  | some fromlen =>
      rcases hFits with hNone | hShort
      · cases hNone
      have hRead : readString (buffer.drop headerSize) s =
          .ok (published, s) := by
        unfold readString
        rw [hPath]
        rfl
      have hCopy : copyInto (List.replicate sunPathSize 0)
          published s = .ok (CString.store published ++
            (List.replicate sunPathSize 0).drop
              (published.length + 1), s) := by
        unfold copyInto
        rw [List.length_replicate, if_pos hShort]
        rfl
      unfold storeSource packetSource
      dsimp only
      rw [run_bind, run_bind_ok hRead, run_bind_ok hCopy]
      exact ⟨_, rfl⟩

/- A path that is too long overruns the address. -/
theorem storeSource_overrun
    {source : Option Nat}
    {buffer published : Bytes}
    {stored stored' : Option Bytes}
    {s s' : Process}
    (hPath : CString.read? (buffer.drop headerSize) =
      some published)
    (hRun : storeSource source buffer stored s =
      .ok (stored', s')) :
    SourceFits source published ∧ s' = s := by
  cases source with
  | none =>
      cases hRun
      exact ⟨.inl rfl, rfl⟩
  | some fromlen =>
      rcases bind_eq_ok.mp hRun with ⟨name, t, hName, hPure⟩
      cases hPure
      rcases bind_eq_ok.mp hName with ⟨text, u, hRead, hTail⟩
      rcases readString_ok hRead with ⟨rfl, hText⟩
      rw [hPath] at hText
      cases hText
      rcases bind_eq_ok.mp hTail with ⟨path, v, hCopy, hPure⟩
      cases hPure
      rcases copyInto_ok hCopy with ⟨rfl, hShort, -⟩
      rw [List.length_replicate] at hShort
      exact ⟨.inr hShort, rfl⟩

------------------------------------------------------------
-- The Receive Loop
------------------------------------------------------------

/- A receive does not return without a byte. -/
theorem recvDgramLoop_ne_zero
    {around : Int → UInt8}
    {fdR : Fd}
    {len : Nat}
    {peeking : Bool}
    {source : Option Nat}
    {reads : List ReadEnv}
    {buffer : Bytes}
    {stored : Option Bytes}
    {badPacket : Bool}
    {s s' : Process}
    {r : Int × Bytes × Option Bytes}
    (hRun : recvDgramLoop around fdR len peeking source reads
      buffer stored badPacket s = .ok (r, s')) :
    r.1 ≠ 0 := by
  induction reads generalizing buffer stored badPacket s with
  | nil => cases hRun
  | cons read reads ih =>
      rcases bind_eq_ok.mp hRun with ⟨taken, t, _, hTail⟩
      cases taken with
      | none =>
          cases hTail
          dsimp only
          omega
      | some ms =>
          dsimp only at hTail
          split at hTail
          · split at hTail
            · exact ih hTail
            next hSome =>
                cases hTail
                have hLength : ms.flatten.length ≠ 0 :=
                  fun hNone =>
                    hSome (List.length_eq_zero_iff.mp hNone)
                dsimp only
                omega
          rcases bind_eq_ok.mp hTail with
            ⟨stored', u, _, hLast⟩
          split at hLast
          · cases hLast
          split at hLast
          · exact ih hLast
          next hSome =>
              cases hLast
              dsimp only
              omega

/-
  What the loop does with a read that begins with a packet
  of a datagram: it stores the address, and returns what the
  lengths of buffer and datagram allow unless that is none.
-/
theorem recvDgramLoop_packet
    {around : Int → UInt8}
    {fdR : Fd}
    {len size : Nat}
    {peeking : Bool}
    {source : Option Nat}
    {read : ReadEnv}
    {reads : List ReadEnv}
    {buffer path data : Bytes}
    {more : List Bytes}
    {stored : Option Bytes}
    {badPacket : Bool}
    {s t : Process}
    (hBuffer : buffer.length = mailslotSendsize)
    (hPath : path.length = openPathSize)
    (hData : data.length ≤ dgramData)
    (hSize : size < 4294967296)
    (hTaken : readPacket read (!badPacket && peeking) fdR s =
      .ok (some ((UnixMsgOpen.encode ⟨dgramHeader size, path⟩ ++
        data) :: more), t)) :
    ∃ tail, (data ++ tail).length = dgramData ∧
      recvDgramLoop around fdR len peeking source
        (read :: reads) buffer stored badPacket s =
        (do
          let packet :=
            UnixMsgOpen.encode ⟨dgramHeader size, path⟩ ++
              (data ++ tail)
          let stored ← storeSource source packet stored
          let n := min len size
          if 2147483648 ≤ n then
            fault
          else if n = 0 then
            recvDgramLoop around fdR len peeking source reads
              packet stored false
          else
            return (n, copyOut packet around openSize n,
              stored)) t := by
  have hLength : (UnixMsgOpen.encode
      ⟨dgramHeader size, path⟩).length = openSize := by
    rw [UnixMsgOpen.encode, List.length_append,
      UnixMsgHeader.length_encode, hPath]
    rfl
  have hFits : (UnixMsgOpen.encode
      ⟨dgramHeader size, path⟩ ++ data).length ≤
        buffer.length := by
    rw [List.length_append, hLength, hBuffer]
    have hWhole : openSize + dgramData = mailslotSendsize :=
      rfl
    omega
  rcases overlay_of_fits hFits more.flatten with
    ⟨tail, hOverlay⟩
  have hHeader : ∀ rest, UnixMsgHeader.decode
      (UnixMsgOpen.encode ⟨dgramHeader size, path⟩ ++ rest) =
        dgramHeader size := by
    intro rest
    rw [UnixMsgOpen.encode, List.append_assoc]
    exact UnixMsgHeader.decode_encode
      (wellFormed_dgramHeader size) _
  refine ⟨tail, ?_, ?_⟩
  · have hAll := length_overlay buffer
      ((UnixMsgOpen.encode ⟨dgramHeader size, path⟩ ++ data) ++
        more.flatten)
    rw [hOverlay, List.append_assoc, List.length_append,
      hLength, hBuffer] at hAll
    have hWhole : openSize + dgramData = mailslotSendsize :=
      rfl
    omega
  · have hOffset : (dgramHeader size).offset = openSize := rfl
    rw [recvDgramLoop, run_bind_ok hTaken]
    dsimp only
    rw [List.flatten_cons, hOverlay, List.append_assoc,
      hHeader, isDgramPacket_dgramHeader,
      recvlen_dgramHeader hSize, hOffset,
      if_neg (by decide)]

------------------------------------------------------------
-- Integrity
------------------------------------------------------------

/- The bytes that a packet carries. -/
def payload (packet : Bytes) : Bytes :=
  packet.drop openSize

/-
  The receive returns the first bytes of the packet, as many
  as the packet has and the caller's buffer takes.
-/
def Decodes
    (env : RecvDgramEnv)
    (p : Ptr)
    (len flags : Nat)
    (source : Option Nat)
    (s : Process)
    (packet : Bytes) : Prop :=
  ∃ stored s', unixRecvDgram env p len flags source s =
    .ok (((min len (payload packet).length : Nat),
      (payload packet).take (min len (payload packet).length),
      stored), s')

/- The packet's path as the receiver reads it. -/
def publishedPath (packet : Bytes) : Option Bytes :=
  CString.read? (UnixMsgOpen.decode packet).path

/- A receive is the loop on the socket's own mailslot. -/
theorem unixRecvDgram_run
    {env : RecvDgramEnv}
    {p : Ptr}
    {len flags : Nat}
    {source : Option Nat}
    {lsd : LsckSocket}
    {usock : LsckSocketUnix}
    {s : Process}
    (hUnix : s.HasUnix p lsd usock)
    (hType : lsd.type = sockDgram) :
    unixRecvDgram env p len flags source s =
      recvDgramLoop env.around usock.fdR len
        (flags &&& msgPeek == msgPeek) source env.reads
        (List.ofFn env.buffer) none false s := by
  rcases hUnix with ⟨hSocket, q, hQ, hB⟩
  have hData : deref Block.unix? lsd.idata s =
      .ok (usock, s) := by
    simp [deref, run_bind, hQ, hB, Block.unix?]
  unfold unixRecvDgram
  rw [run_bind_ok (derefSocket_run hSocket),
    if_neg (not_not_intro hType), run_bind_ok hData]

/-
  A packet that carries `data` of a datagram of `size` bytes
  decodes if and only if a byte is asked for, the datagram
  was not cut or no more is asked for than the packet has,
  and the address fits where it is stored.
-/
theorem decodes_packet_iff
    {env : RecvDgramEnv}
    {p : Ptr}
    {len flags size : Nat}
    {source : Option Nat}
    {lsd : LsckSocket}
    {usock : LsckSocketUnix}
    {read : ReadEnv}
    {reads : List ReadEnv}
    {path published data : Bytes}
    {more : List Bytes}
    {s t : Process}
    (hUnix : s.HasUnix p lsd usock)
    (hType : lsd.type = sockDgram)
    (hReads : env.reads = read :: reads)
    (hPath : path.length = openPathSize)
    (hPublished : CString.read? path = some published)
    (hSome : data ≠ [])
    (hShort : data.length ≤ dgramData)
    (hPart : data.length ≤ size)
    (hOne : size ≤ dgramData → data.length = size)
    (hSize : size < 4294967296)
    (hTaken : readPacket read (flags &&& msgPeek == msgPeek)
      usock.fdR s = .ok (some ((UnixMsgOpen.encode
        ⟨dgramHeader size, path⟩ ++ data) :: more), t)) :
    Decodes env p len flags source s
        (UnixMsgOpen.encode ⟨dgramHeader size, path⟩ ++
          data) ↔
      0 < len ∧ (size ≤ dgramData ∨ len ≤ data.length) ∧
        SourceFits source published := by
  have hLength : (UnixMsgOpen.encode
      ⟨dgramHeader size, path⟩).length = openSize := by
    rw [UnixMsgOpen.encode, List.length_append,
      UnixMsgHeader.length_encode, hPath]
    rfl
  have hPayload : payload (UnixMsgOpen.encode
      ⟨dgramHeader size, path⟩ ++ data) = data := by
    rw [payload, List.drop_left' hLength]
  have hPositive : 0 < data.length :=
    List.length_pos_iff.mpr hSome
  have hSmall : dgramData < 2147483648 := by decide
  have hFirst : readPacket read
      (!false && flags &&& msgPeek == msgPeek) usock.fdR s =
        .ok (some ((UnixMsgOpen.encode
          ⟨dgramHeader size, path⟩ ++ data) :: more), t) :=
    hTaken
  rcases recvDgramLoop_packet List.length_ofFn hPath hShort
    hSize hFirst with ⟨tail, hTail, hLoop⟩
  have hString : CString.read? ((UnixMsgOpen.encode
      ⟨dgramHeader size, path⟩ ++ (data ++ tail)).drop
        headerSize) = some published := by
    rw [UnixMsgOpen.encode, List.append_assoc,
      List.drop_left' (UnixMsgHeader.length_encode _)]
    exact CString.read?_append hPublished _
  unfold Decodes
  rw [unixRecvDgram_run hUnix hType, hPayload, hReads, hLoop]
  constructor
  · rintro ⟨stored, s', hRun⟩
    dsimp only at hRun
    rcases bind_eq_ok.mp hRun with ⟨stored', u, hStore, hRest⟩
    rcases storeSource_overrun hString hStore with
      ⟨hSource, rfl⟩
    have hAsked : 0 < len := by
      apply Nat.pos_of_ne_zero
      rintro rfl
      rw [Nat.zero_min, Nat.zero_min, if_neg (by omega),
        if_pos rfl] at hRest
      exact recvDgramLoop_ne_zero hRest rfl
    split at hRest
    · cases hRest
    rw [if_neg (by omega)] at hRest
    have hEqual : ((min len size : Nat) : Int) =
        (min len data.length : Nat) :=
      congrArg (fun y => y.1.1) (Except.ok.inj hRest)
    refine ⟨hAsked, ?_, hSource⟩
    omega
  · rintro ⟨hAsked, hFit, hSource⟩
    rcases storeSource_fits hString hSource t with
      ⟨stored, hStore⟩
    have hSame : min len size = min len data.length := by
      rcases hFit with hUncut | hLess
      · rw [hOne hUncut]
      · omega
    refine ⟨stored, t, ?_⟩
    dsimp only
    rw [run_bind_ok hStore, hSame, if_neg (by omega),
      if_neg (by omega), copyOut_eq, List.drop_left' hLength,
      List.take_append_of_le_length (by omega)]
    · rfl
    · rw [List.length_append, hLength, hTail]
      omega

------------------------------------------------------------
-- The Packets Of A Send
------------------------------------------------------------

/-
  What one packet carries of a datagram: something, not more
  than fits, and all of it when all of it fits.
-/
structure IsPart (msg data : Bytes) : Prop where
  some : data ≠ []
  short : data.length ≤ dgramData
  part : data.length ≤ msg.length
  one : msg.length ≤ dgramData → data.length = msg.length

/- The first part of a datagram. -/
theorem IsPart.first
    {msg : Bytes}
    (hSome : msg ≠ []) :
    IsPart msg (msg.take dgramData) := by
  have hPositive : 0 < msg.length :=
    List.length_pos_iff.mpr hSome
  have hRoom : 0 < dgramData := by decide
  have hLength := List.length_take (i := dgramData) (l := msg)
  constructor
  · apply List.ne_nil_of_length_pos
    omega
  · omega
  · omega
  · intro hFits
    omega

/- A part of what is left over is a part of a cut datagram. -/
theorem IsPart.later
    {msg data : Bytes}
    (hPart : IsPart (msg.drop dgramData) data) :
    IsPart msg data := by
  have hPositive : 0 < data.length :=
    List.length_pos_iff.mpr hPart.some
  have hLess := hPart.part
  rw [List.length_drop] at hLess
  constructor
  · exact hPart.some
  · exact hPart.short
  · omega
  · intro hFits
    omega

/- What the loop sends, whether or not it succeeds. -/
theorem sendDgramLoop_parts
    {fd : Fd}
    {req : UnixMsgOpen}
    {writes : List WriteEnv}
    {msg m : Bytes}
    {total : Nat}
    {s s' : Process}
    {r : Int}
    (hWrites : s.WritesTo fd m)
    (hRun : sendDgramLoop fd req writes msg total s =
      .ok (r, s')) :
    ∃ parts : List Bytes, (∀ data ∈ parts, IsPart msg data) ∧
      s'.sent = s.sent ++ parts.map (fun data =>
        (m, req.encode ++ data)) ∧
      s'.fds = s.fds ∧ s'.heap = s.heap := by
  induction writes generalizing msg total s with
  | nil =>
      cases msg with
      | nil =>
          cases hRun
          exact ⟨[], by simp, by simp, rfl, rfl⟩
      | cons b bs => cases hRun
  | cons w ws ih =>
      cases msg with
      | nil =>
          cases hRun
          exact ⟨[], by simp, by simp, rfl, rfl⟩
      | cons b bs =>
          rcases bind_eq_ok.mp hRun with
            ⟨ret, t, hWrite, hTail⟩
          rcases writeFd_cases hWrites hWrite with
            ⟨-, rfl⟩ | ⟨hFail, e, rfl⟩
          · have hFirst : ∀ data ∈
                [(b :: bs).take dgramData],
                IsPart (b :: bs) data := by
              intro data hData
              rw [List.mem_singleton.mp hData]
              exact IsPart.first (List.cons_ne_nil b bs)
            split at hTail
            · cases hTail
              exact ⟨_, hFirst, rfl, rfl, rfl⟩
            rcases ih (hWrites.deliverTo _ _) hTail with
              ⟨parts, hParts, hSent, hFds, hHeap⟩
            refine ⟨(b :: bs).take dgramData :: parts, ?_, ?_,
              hFds, hHeap⟩
            · intro data hData
              rcases List.mem_cons.mp hData with rfl | hData
              · exact hFirst _ List.mem_cons_self
              · exact (hParts data hData).later
            · rw [hSent, Process.sent_deliverTo,
                List.append_assoc, List.map_cons,
                List.singleton_append]
              rfl
          · rw [if_pos (.inl hFail)] at hTail
            cases hTail
            exact ⟨[], by simp, by simp, rfl, rfl⟩

/- A message that is one packet of a datagram. -/
def IsPacketOf (msg published packet : Bytes) : Prop :=
  ∃ path data,
    packet = UnixMsgOpen.encode
      ⟨dgramHeader msg.length, path⟩ ++ data ∧
    path.length = openPathSize ∧
    CString.read? path = some published ∧ IsPart msg data

/- A packet has the path that it publishes. -/
theorem IsPacketOf.publishedPath
    {msg published packet : Bytes}
    (hPacket : IsPacketOf msg published packet) :
    publishedPath packet = some published := by
  rcases hPacket with ⟨path, data, rfl, hPath, hRead, -⟩
  unfold Libsocket.publishedPath
  rw [UnixMsgOpen.path_decode hPath, hRead]

/- A packet is not empty. -/
theorem IsPacketOf.ne_nil
    {msg published packet : Bytes}
    (hPacket : IsPacketOf msg published packet) :
    packet ≠ [] := by
  rcases hPacket with ⟨path, data, rfl, -⟩
  exact List.cons_ne_nil _ _

/-
  Whatever has been sent is a packet of the datagram, and
  publishes the name that the socket has in the end.
-/
def SendsPackets
    (msg : Bytes)
    (p : Ptr)
    (s s' : Process) : Prop :=
  ∃ added : List (Bytes × Bytes),
    s'.sent = s.sent ++ added ∧
    ∀ y ∈ added, ∃ lsd source,
      s'.heap p = some (.socket lsd) ∧
      CString.read? (lsd.sockname.drop 2) = some source ∧
      IsPacketOf msg (unixLocalPath ++ source) y.2

theorem SendsPackets.of_steady
    {msg : Bytes}
    {p : Ptr}
    {s s' : Process}
    (hSteady : Steady s s') :
    SendsPackets msg p s s' :=
  ⟨[], by rw [hSteady.sent, List.append_nil], by simp⟩

theorem SendsPackets.after
    {msg : Bytes}
    {p : Ptr}
    {s t s' : Process}
    (hSteady : Steady s t)
    (hSends : SendsPackets msg p t s') :
    SendsPackets msg p s s' := by
  rcases hSends with ⟨added, hSent, hPackets⟩
  exact ⟨added, by rw [hSent, hSteady.sent], hPackets⟩

/- From the open of the receiver's mailslot to the close. -/
theorem sends_packets_opened
    {env : UnixSendDgramEnv}
    {p : Ptr}
    {lsd : LsckSocket}
    {msg path source target : Bytes}
    {s s' : Process}
    {r : Int}
    (hSocket : s.heap p = some (.socket lsd))
    (hSource : CString.read? (lsd.sockname.drop 2) =
      some source)
    (hPath : path.length = openPathSize)
    (hPublished : CString.read? path =
      some (unixLocalPath ++ source))
    (hRun : (do
      let fd ← openFile env.openW (unixLocalPath ++ target)
        .wronly
      if fd = -1 then
        return -1
      else do
        let total ← sendDgramLoop fd
          ⟨dgramHeader msg.length, path⟩ env.writes msg 0
        if total = -1 then
          return -1
        else do
          let _ ← closeFd env.close fd
          return total) s = .ok (r, s')) :
    SendsPackets msg p s s' := by
  rcases bind_eq_ok.mp hRun with ⟨fd, t, hOpen, hTail⟩
  have hSteady := steady_openFile _ _ _ _ _ _ hOpen
  by_cases hFd : fd = -1
  · rw [if_pos hFd] at hTail
    cases hTail
    exact SendsPackets.of_steady hSteady
  rw [if_neg hFd] at hTail
  rcases openFile_writesTo hOpen hFd with ⟨m, -, hWrites⟩
  rcases bind_eq_ok.mp hTail with ⟨total, u, hLoop, hLast⟩
  rcases sendDgramLoop_parts hWrites hLoop with
    ⟨parts, hParts, hSent, hFds, hHeap⟩
  have hSocket' : u.heap p = some (.socket lsd) := by
    rw [hHeap, (openFile_ok hOpen).heap, hSocket]
  have hLoopSends : SendsPackets msg p t u := by
    refine ⟨_, hSent, ?_⟩
    intro y hY
    rcases List.mem_map.mp hY with ⟨data, hData, rfl⟩
    exact ⟨lsd, source, hSocket', hSource, path, data, rfl,
      hPath, hPublished, hParts data hData⟩
  apply SendsPackets.after hSteady
  by_cases hTotal : total = -1
  · rw [if_pos hTotal] at hLast
    cases hLast
    exact hLoopSends
  · rw [if_neg hTotal] at hLast
    rcases bind_eq_ok.mp hLast with ⟨x, v, hClose, hPure⟩
    cases hPure
    rw [closeFd_writer (hWrites.of_fds hFds) hClose]
    exact hLoopSends

/- Every message of a send is a packet of its datagram. -/
theorem unixSendDgram_packets
    {env : UnixSendDgramEnv}
    {p : Ptr}
    {msg : Bytes}
    {dest : Option Bytes}
    {tolen : Nat}
    {s s' : Process}
    {r : Int}
    (hRun : unixSendDgram env p msg dest tolen s =
      .ok (r, s')) :
    SendsPackets msg p s s' := by
  have hFail : ∀ e, Within (SendsPackets msg p) (fail e) :=
    fun e s a s' hGo => .of_steady (SteadyCmd.fail e _ _ _ hGo)
  rcases bind_eq_ok.mp hRun with ⟨lsd₀, s₁, hRead, hTail⟩
  rcases derefSocket_ok hRead with ⟨rfl, -⟩
  split at hTail
  · exact hFail _ _ _ _ hTail
  split at hTail
  · exact hFail _ _ _ _ hTail
  rcases bind_eq_ok.mp hTail with ⟨ret, t₁, hBind, hBound⟩
  apply SendsPackets.after (steady_bindHere _ _ _ _ _ _ hBind)
  by_cases hRet : ret = -1
  · rw [if_pos hRet] at hBound
    cases hBound
    exact SendsPackets.of_steady (Steady.refl _)
  rw [if_neg hRet] at hBound
  rcases bind_eq_ok.mp hBound with ⟨lsd, s₂, hAgain, hNamed⟩
  rcases derefSocket_ok hAgain with ⟨rfl, hSocket⟩
  rcases bind_eq_ok.mp hNamed with ⟨source, s₃, hSun, hFrom⟩
  rcases readString_ok hSun with ⟨rfl, hSource⟩
  rcases bind_eq_ok.mp hFrom with ⟨path, s₄, hCopy, hCopied⟩
  rcases copyInto_ok hCopy with ⟨rfl, hFits, hPath⟩
  cases dest with
  | none => cases hCopied
  | some sun =>
      rcases bind_eq_ok.mp hCopied with
        ⟨target, s₅, hTo, hDest⟩
      rcases readString_ok hTo with ⟨rfl, -⟩
      rcases bind_eq_ok.mp hDest with ⟨dest, s₆, hFit, hOpen⟩
      rcases fits_ok hFit with ⟨rfl, rfl, -⟩
      apply sends_packets_opened hSocket hSource _ _ hOpen
      · rw [hPath, length_copy hFits, List.length_ofFn]
        rfl
      · rw [hPath]
        exact read?_published (CString.isText_of_read? hSource) _

/-
  For every call of a send, every message that it hands to
  the network, and every receive that reads this message:
  the receive returns as many of the packet's bytes as the
  buffer takes, and only these, if and only if a byte is
  asked for, the datagram fits into one packet or no more is
  asked for than the packet carries, and the address fits.
-/
theorem dgram_integrity_iff
    {sendEnv : UnixSendDgramEnv}
    {p q : Ptr}
    {msg : Bytes}
    {dest : Option Bytes}
    {tolen len flags : Nat}
    {s s' t t' : Process}
    {r : Int}
    {y : Bytes × Bytes}
    {recvEnv : RecvDgramEnv}
    {source : Option Nat}
    {lsd : LsckSocket}
    {usock : LsckSocketUnix}
    {read : ReadEnv}
    {reads : List ReadEnv}
    {more : List Bytes}
    (hSend : unixSendDgram sendEnv p msg dest tolen s =
      .ok (r, s'))
    (hSize : msg.length < 4294967296)
    (hNew : y ∈ newMessages s s')
    (hUnix : t.HasUnix q lsd usock)
    (hType : lsd.type = sockDgram)
    (hReads : recvEnv.reads = read :: reads)
    (hTaken : readPacket read (flags &&& msgPeek == msgPeek)
      usock.fdR t = .ok (some (y.2 :: more), t')) :
    Decodes recvEnv q len flags source t y.2 ↔
      0 < len ∧
        (msg.length ≤ dgramData ∨
          len ≤ (payload y.2).length) ∧
        ∀ published, publishedPath y.2 = some published →
          SourceFits source published := by
  rcases unixSendDgram_packets hSend with
    ⟨added, hSent, hPackets⟩
  rw [newMessages_of_append hSent] at hNew
  rcases hPackets y hNew with ⟨-, name, -, -, hPacket⟩
  have hRead := hPacket.publishedPath
  rcases hPacket with
    ⟨path, data, hShape, hPath, hPublished, hPart⟩
  have hLength : (UnixMsgOpen.encode
      ⟨dgramHeader msg.length, path⟩).length = openSize := by
    rw [UnixMsgOpen.encode, List.length_append,
      UnixMsgHeader.length_encode, hPath]
    rfl
  have hPayload : payload y.2 = data := by
    rw [payload, hShape, List.drop_left' hLength]
  rw [hPayload]
  have hFits : (∀ published', publishedPath y.2 =
      some published' → SourceFits source published') ↔
      SourceFits source (unixLocalPath ++ name) := by
    rw [hRead]
    constructor
    · intro hAll
      exact hAll _ rfl
    · intro hOne published' hSame
      cases hSame
      exact hOne
  rw [hFits]
  rw [hShape] at hTaken ⊢
  exact decodes_packet_iff hUnix hType hReads hPath hPublished
    hPart.some hPart.short hPart.part hPart.one hSize hTaken

------------------------------------------------------------
-- A Receiver
------------------------------------------------------------

/- A datagram socket that reads from a mailslot. -/
def receiverProcess : Process :=
  ((dgramProcess namedSocket).setBlock 11
    (some (.unix { LsckSocketUnix.cleared with
      fdW := -1
      fdR := 4 }))).setEntry 4
        ⟨true, some .mailslotHandler, some (.mailslot
          ⟨some (bytes "\\mailslot\\me"), none, true, false⟩)⟩

/- A receive that finds one message. -/
def RecvDgramEnv.finding (x : Bytes) : RecvDgramEnv where
  reads := [⟨[x], false, .zero⟩]
  buffer := fun _ => 0
  around := fun _ => 0

theorem receiver_takes
    {x : Bytes}
    (hSome : x ≠ []) :
    ∃ t', readPacket ⟨[x], false, .zero⟩ false 4
      receiverProcess = .ok (some [x], t') := by
  cases x with
  | nil => exact absurd rfl hSome
  | cons b bs => exact ⟨_, rfl⟩

theorem receiver_hasUnix :
    receiverProcess.HasUnix 10 namedSocket
      { LsckSocketUnix.cleared with fdW := -1, fdR := 4 } :=
  ⟨rfl, 11, rfl, rfl⟩

/- A send with data that succeeds has a first message. -/
theorem exists_newMessage
    {env : UnixSendDgramEnv}
    {p : Ptr}
    {msg sun target : Bytes}
    {tolen : Nat}
    {s s' : Process}
    {r : Int}
    (hRun : unixSendDgram env p msg (some sun) tolen s =
      .ok (r, s'))
    (hSuccess : r ≠ -1)
    (hTo : CString.read? (sun.drop 2) = some target)
    (hSome : msg ≠ []) :
    ∃ y ∈ newMessages s s', ∃ published,
      IsPacketOf msg published y.2 := by
  rcases unixSendDgram_sends hRun hSuccess hTo with
    ⟨m, req, parts, source, -, hSent, hParts, -⟩
  rcases unixSendDgram_packets hRun with
    ⟨added, hSent', hPackets⟩
  have hSame := newMessages_of_append hSent'
  rw [newMessages_of_append hSent] at hSame
  cases parts with
  | nil => exact absurd hParts.symm hSome
  | cons data parts =>
      refine ⟨(m, UnixMsgOpen.encode req ++ data), ?_, ?_⟩
      · rw [newMessages_of_append hSent]
        exact List.mem_cons_self
      · have hMem : (m, UnixMsgOpen.encode req ++ data) ∈
            added := by
          rw [← hSame]
          exact List.mem_cons_self
        rcases hPackets _ hMem with ⟨-, name, -, -, hPacket⟩
        exact ⟨unixLocalPath ++ name, hPacket⟩

/- One packet, received into a buffer that takes it. -/
theorem dgram_integrity_of_one_packet :
    ∃ s' y, unixSendDgram .granting 10 [1, 2]
        (some (sockaddrUn (bytes "/sock"))) sockaddrMaxSize
        (dgramProcess namedSocket) = .ok (2, s') ∧
      y ∈ newMessages (dgramProcess namedSocket) s' ∧
      Decodes (.finding y.2) 10 5 0 none receiverProcess
        y.2 := by
  have hRun : ∃ s', unixSendDgram .granting 10 [1, 2]
      (some (sockaddrUn (bytes "/sock"))) sockaddrMaxSize
      (dgramProcess namedSocket) = .ok (2, s') :=
    exists_run_of_answer (by decide +kernel)
  rcases hRun with ⟨s', hRun⟩
  have hTo : CString.read?
      ((sockaddrUn (bytes "/sock")).drop 2) =
        some (bytes "/sock") := by decide
  rcases exists_newMessage hRun (by decide) hTo (by decide)
    with ⟨y, hNew, published, hPacket⟩
  rcases receiver_takes hPacket.ne_nil with ⟨t', hTaken⟩
  refine ⟨s', y, hRun, hNew, ?_⟩
  rw [dgram_integrity_iff hRun (by decide) hNew
    receiver_hasUnix rfl rfl hTaken]
  exact ⟨by decide, .inl (by decide), fun _ _ => .inl rfl⟩

/- The network takes two packets. -/
def UnixSendDgramEnv.grantingTwo : UnixSendDgramEnv :=
  { UnixSendDgramEnv.granting with
    writes := [⟨true, .zero⟩, ⟨true, .zero⟩] }

/-
  A datagram of one byte more than fits into a packet, and a
  receive with room for all of it that does not return the
  bytes of the first packet.
-/
theorem cut_datagram_overruns :
    ∃ s' y, unixSendDgram .grantingTwo 10
        (List.replicate 3933 7)
        (some (sockaddrUn (bytes "/sock"))) sockaddrMaxSize
        (dgramProcess namedSocket) = .ok (3933, s') ∧
      y ∈ newMessages (dgramProcess namedSocket) s' ∧
      (∃ t', readPacket ⟨[y.2], false, .zero⟩ false 4
        receiverProcess = .ok (some [y.2], t')) ∧
      ¬ Decodes (.finding y.2) 10 3933 0 none
        receiverProcess y.2 := by
  have hRun : ∃ s', unixSendDgram .grantingTwo 10
      (List.replicate 3933 7)
      (some (sockaddrUn (bytes "/sock"))) sockaddrMaxSize
      (dgramProcess namedSocket) = .ok (3933, s') :=
    exists_run_of_answer (by decide +kernel)
  rcases hRun with ⟨s', hRun⟩
  have hTo : CString.read?
      ((sockaddrUn (bytes "/sock")).drop 2) =
        some (bytes "/sock") := by decide
  rcases exists_newMessage hRun (by decide) hTo (by decide)
    with ⟨y, hNew, published, hPacket⟩
  rcases receiver_takes hPacket.ne_nil with ⟨t', hTaken⟩
  refine ⟨s', y, hRun, hNew, ⟨t', hTaken⟩, ?_⟩
  rcases hPacket with
    ⟨path, data, hShape, hPath, hPublished, hPart⟩
  have hLong : dgramData < 3933 := by decide
  have hShort := hPart.short
  rw [hShape] at hTaken ⊢
  rw [decodes_packet_iff receiver_hasUnix rfl rfl hPath
    hPublished hPart.some hPart.short hPart.part hPart.one
    (by rw [List.length_replicate]; decide) hTaken,
    List.length_replicate]
  omega

end Libsocket
