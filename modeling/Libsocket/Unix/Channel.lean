import Libsocket.Unix.Peeking
import Libsocket.Unix.Segments

/-
  One direction of a pair of streams: an end that sends, the
  mailslot in between, and an end that receives.

  Every packet of a send is one message at the back of the
  queue. A receive takes the message in front and copies from
  it alone, so what its buffer has no room for is lost.

  Main declarations:
    * `Segment.From`, `TakesWhole`
    * `Channel`
    * `Channel.send`, `Channel.receive`
-/

namespace Libsocket

open Command

------------------------------------------------------------
-- Packets On The Way
------------------------------------------------------------

/- A data packet as a sender with this secret builds it. -/
structure Segment.From
    (secret : UnixMsgSecret)
    (x : Segment) : Prop where
  header : ∃ usock : LsckSocketUnix,
    usock.secret = secret ∧ InRange usock.seqW ∧
      x.header = dataHeader usock x.data.length
  least : 0 < x.data.length
  most : x.data.length ≤ packetData

/-
  The buffer has room for the data of the packet. If there is
  more room than that, the packet's numbers do not wrap.
-/
def TakesWhole (len : Nat) (packet : Bytes) : Prop :=
  let header := UnixMsgHeader.decode packet
  let size := packet.length - headerSize
  size ≤ len ∧ (len = size ∨ header.seqStart ≤ header.seqEnd)

instance (len : Nat) (packet : Bytes) :
    Decidable (TakesWhole len packet) :=
  inferInstanceAs (Decidable (_ ∧ _))

section Packets

variable {secret : UnixMsgSecret} {x : Segment}

theorem Segment.length_packet (x : Segment) :
    x.packet.length = headerSize + x.data.length := by
  unfold Segment.packet
  rw [List.length_append, UnixMsgHeader.length_encode]

theorem Segment.From.packet_ne_nil
    (hFrom : x.From secret) :
    x.packet ≠ [] := by
  intro hNone
  have hLength := x.length_packet
  have hLeast := hFrom.least
  rw [hNone, List.length_nil] at hLength
  omega

/- It fits the packet buffer. -/
theorem Segment.From.packet_fits
    (hFrom : x.From secret) :
    x.packet.length ≤ mailslotSendsize := by
  have hMost := hFrom.most
  rw [x.length_packet]
  unfold packetData at hMost
  unfold mailslotSendsize headerSize at *
  omega

/- The header is read back, whatever follows the packet. -/
theorem Segment.From.decode
    (hFrom : x.From secret)
    (rest : Bytes) :
    UnixMsgHeader.decode (x.packet ++ rest) = x.header := by
  rcases hFrom.header with ⟨usock, -, hRange, hHeader⟩
  unfold Segment.packet
  rw [List.append_assoc]
  apply UnixMsgHeader.decode_encode
  rw [hHeader]
  exact wellFormed_dataHeader hRange _

/- The checks of the receive loop let it pass. -/
theorem Segment.From.verdict
    (hFrom : x.From secret)
    (accepted : Bool)
    (len : Nat) :
    streamVerdict accepted secret len x.header =
      .copy headerSize (min len (recvlen x.header)) := by
  rcases hFrom.header with ⟨usock, hSecret, -, hHeader⟩
  have hClose : isClosePacket accepted secret x.header =
      false := by
    rw [hHeader]
    cases accepted with
    | true => rfl
    | false => rfl
  have hData : isDataPacket secret x.header = true := by
    rw [hHeader, ← hSecret]
    simp [isDataPacket, dataHeader, unixMsgData]
  unfold streamVerdict
  rw [hClose, hData, if_neg Bool.false_ne_true,
    if_neg (by decide), hHeader]
  rfl

/- A receive that takes it whole copies all of its data. -/
theorem Segment.From.whole
    {len : Nat}
    (hFrom : x.From secret)
    (hWhole : TakesWhole len x.packet) :
    min len (recvlen x.header) = x.data.length := by
  rcases hFrom.header with ⟨usock, -, hRange, hHeader⟩
  have hEnd := seqEnd_dataHeader hRange hFrom.least hFrom.most
  have hIff := recvlen_dataHeader hRange hFrom.least hFrom.most
  have hDecode := hFrom.decode []
  rw [List.append_nil] at hDecode
  unfold TakesWhole at hWhole
  rw [hDecode, x.length_packet, Nat.add_sub_cancel_left]
    at hWhole
  rcases hWhole with ⟨hRoom, hNumbers⟩
  by_cases hFits : usock.seqW + x.data.length ≤ maxInt
  · rw [hHeader, hIff.mpr hFits]
    exact Nat.min_eq_right hRoom
  · -- The numbers wrap, so the buffer is as long as the data.
    rw [if_neg hFits] at hEnd
    have hMost := hFrom.most
    unfold packetData mailslotSendsize headerSize at hMost
    have hExact : len = x.data.length := by
      rcases hNumbers with hExact | hOrder
      · exact hExact
      · rw [hHeader, hEnd] at hOrder
        change usock.seqW ≤ _ at hOrder
        unfold maxInt at hOrder
        omega
    rw [hExact]
    apply Nat.min_eq_left
    rcases hRange with ⟨hMin, hMax⟩
    unfold maxInt at hFits hMax hEnd
    rw [hHeader]
    change x.data.length ≤ Word.unsigned
      ((dataHeader usock x.data.length).seqEnd -
        usock.seqW + 1)
    rw [hEnd]
    unfold Word.unsigned
    omega

end Packets

------------------------------------------------------------
-- The Two Ends
------------------------------------------------------------

/-
  The end that sends. It writes to the mailslot, unless there
  is no file to write to.
-/
structure Process.SendsTo
    (s : Process)
    (p a : Ptr)
    (secret : UnixMsgSecret)
    (m : Bytes)
    (usock : LsckSocketUnix) : Prop where
  socket : ∃ d, s.heap p = some (.socket d) ∧ d.idata = some a
  data : s.heap a = some (.unix usock)
  secret : usock.secret = secret
  range : InRange usock.seqW
  writes : s.WritesTo usock.fdW m ∨
    s.fds usock.fdW = FdEntry.unused

/- The end that receives: its reads wait for a message. -/
structure Process.ReceivesFrom
    (s : Process)
    (q b : Ptr)
    (secret : UnixMsgSecret)
    (m : Bytes)
    (usock : LsckSocketUnix) : Prop where
  socket : ∃ d, s.heap q = some (.socket d) ∧ d.idata = some b
  data : s.heap b = some (.unix usock)
  secret : usock.secret = secret
  reads : ∃ me, s.ReadsMail usock.fdR me m ∧
    me.peeking = false ∧ me.blocking = true

section Ends

variable {p q a b : Ptr} {secret : UnixMsgSecret} {m : Bytes}
variable {usock : LsckSocketUnix} {s t : Process}

/- What counts are two blocks and the descriptors. -/
theorem Process.SendsTo.frame
    (hSends : s.SendsTo p a secret m usock)
    (hSocket : t.heap p = s.heap p)
    (hData : t.heap a = s.heap a)
    (hFds : t.fds = s.fds) :
    t.SendsTo p a secret m usock := by
  constructor
  · rw [hSocket]
    exact hSends.socket
  · rw [hData]
    exact hSends.data
  · exact hSends.secret
  · exact hSends.range
  · rcases hSends.writes with hWrites | hNone
    · exact .inl (hWrites.of_fds hFds)
    · rw [hFds]
      exact .inr hNone

theorem Process.ReceivesFrom.frame
    (hReceives : s.ReceivesFrom q b secret m usock)
    (hSocket : t.heap q = s.heap q)
    (hData : t.heap b = s.heap b)
    (hFds : t.fds = s.fds) :
    t.ReceivesFrom q b secret m usock := by
  constructor
  · rw [hSocket]
    exact hReceives.socket
  · rw [hData]
    exact hReceives.data
  · exact hReceives.secret
  · rcases hReceives.reads with ⟨me, hReads, hMode⟩
    exact ⟨me, hReads.of_fds (congrFun hFds _), hMode⟩

/- The block of one end's data is no socket, nor the other's. -/
theorem heap_setBlock_other
    {x : Ptr}
    {d : LsckSocket}
    {block : Option Block}
    (hSocket : s.heap x = some (.socket d))
    (hData : s.heap a = some (.unix usock)) :
    (s.setBlock a block).heap x = s.heap x :=
  Function.update_of_ne (socket_ne_unix hSocket hData) _ _

end Ends

------------------------------------------------------------
-- The Channel
------------------------------------------------------------

/-
  The packets that are on the way, the oldest first. A read
  takes one message.
-/
structure Channel
    (p q a b : Ptr)
    (secret : UnixMsgSecret)
    (m : Bytes)
    (segments : List Segment)
    (s : Process) : Prop where
  apart : a ≠ b
  sends : ∃ usock, s.SendsTo p a secret m usock
  receives : ∃ usock, s.ReceivesFrom q b secret m usock
  single : s.reportsNext = false
  room : s.recvBuf.length = mailslotSendsize
  queue : s.mail m = segments.map Segment.packet
  ours : ∀ x ∈ segments, x.From secret

section Channel

variable {p q a b : Ptr} {secret : UnixMsgSecret} {m : Bytes}
variable {segments : List Segment} {usock : LsckSocketUnix}
variable {s s' : Process}

/- The error number is none of it. -/
theorem Channel.errno
    (hChannel : Channel p q a b secret m segments s)
    (e : Errno) :
    Channel p q a b secret m segments
      { s with errno := e } := by
  rcases hChannel.sends with ⟨u, hSends⟩
  rcases hChannel.receives with ⟨v, hReceives⟩
  constructor
  · exact hChannel.apart
  · exact ⟨u, hSends.frame rfl rfl rfl⟩
  · exact ⟨v, hReceives.frame rfl rfl rfl⟩
  · exact hChannel.single
  · exact hChannel.room
  · exact hChannel.queue
  · exact hChannel.ours

/- A packet that is sent goes to the back of the queue. -/
theorem Channel.packetSent
    {msg : Bytes}
    (hChannel : Channel p q a b secret m segments s)
    (hSends : s.SendsTo p a secret m usock)
    (hWrites : s.WritesTo usock.fdW m)
    (hSome : msg ≠ []) :
    (s.packetSent a m usock (firstSegment usock msg)).SendsTo
      p a secret m (usock.sentPacket
        (firstSegment usock msg).data.length) ∧
    Channel p q a b secret m
      (segments ++ [firstSegment usock msg])
      (s.packetSent a m usock (firstSegment usock msg)) := by
  rcases hChannel.receives with ⟨v, hReceives⟩
  rcases hSends.socket with ⟨d, hSocket, hA⟩
  rcases hReceives.socket with ⟨e, hOther, hB⟩
  have hKept : ∀ x, (s.deliverTo m
      (firstSegment usock msg).packet).heap x = s.heap x :=
    fun _ => rfl
  have hEnd : (s.packetSent a m usock
      (firstSegment usock msg)).SendsTo p a secret m
      (usock.sentPacket
        (firstSegment usock msg).data.length) := by
    constructor
    · refine ⟨d, ?_, hA⟩
      exact (heap_setBlock_other
        (s := s.deliverTo m (firstSegment usock msg).packet)
        hSocket hSends.data).trans hSocket
    · exact Process.heap_packetSent _ _ _ _ _
    · exact hSends.secret
    · exact inRange_modMaxintUnsigned _
    · exact .inl (hWrites.packetSent a usock _)
  refine ⟨hEnd, ?_⟩
  constructor
  · exact hChannel.apart
  · exact ⟨_, hEnd⟩
  · refine ⟨v, hReceives.frame ?_ ?_ rfl⟩
    · exact heap_setBlock_other
        (s := s.deliverTo m (firstSegment usock msg).packet)
        hOther hSends.data
    · exact Function.update_of_ne hChannel.apart.symm _ _
  · exact hChannel.single
  · exact hChannel.room
  · rw [List.map_append, ← hChannel.queue]
    exact Function.update_self _ _ _
  · intro x hX
    rcases List.mem_append.mp hX with hX | hX
    · exact hChannel.ours x hX
    · rw [List.mem_singleton.mp hX]
      constructor
      · exact ⟨usock, hSends.secret, hSends.range, rfl⟩
      · have hLength := List.length_pos_iff.mpr hSome
        change 0 < (msg.take packetData).length
        rw [List.length_take]
        unfold packetData mailslotSendsize headerSize
        omega
      · exact List.length_take_le _ _

/-
  The loop over the packets of a message, by induction over
  the writes: each packet is one message of the queue.
-/
theorem Channel.sendLoop
    {writes : List WriteEnv}
    {msg : Bytes}
    {total : Nat}
    {r : Int}
    (hChannel : Channel p q a b secret m segments s)
    (hSends : s.SendsTo p a secret m usock)
    (hWrites : s.WritesTo usock.fdW m)
    (hTaken : ∀ w ∈ writes, w.delivered = true)
    (hRun : sendLoop (some a) writes msg total s =
      .ok (r, s')) :
    r = (total + msg.length : Nat) ∧
      ∃ more, more.flatMap Segment.data = msg ∧
        Channel p q a b secret m (segments ++ more) s' := by
  induction writes generalizing msg total segments usock s with
  | nil =>
      cases msg with
      | nil =>
          cases hRun
          refine ⟨rfl, [], rfl, ?_⟩
          rw [List.append_nil]
          exact hChannel
      | cons c cs => cases hRun
  | cons w ws ih =>
      cases msg with
      | nil =>
          cases hRun
          refine ⟨rfl, [], rfl, ?_⟩
          rw [List.append_nil]
          exact hChannel
      | cons c cs =>
          rw [sendLoop_taken hSends.data hWrites
            (hTaken w List.mem_cons_self)] at hRun
          have hSome : c :: cs ≠ [] := List.cons_ne_nil c cs
          rcases hChannel.packetSent hSends hWrites hSome with
            ⟨hEnd, hNext⟩
          rcases ih hNext hEnd (hWrites.packetSent a usock _)
            (fun x hX => hTaken x (List.mem_cons_of_mem _ hX))
            hRun with ⟨hCount, more, hData, hAfter⟩
          constructor
          · rw [hCount, Nat.add_assoc, ← List.length_append,
              List.take_append_drop]
          · refine ⟨firstSegment usock (c :: cs) :: more,
              ?_, ?_⟩
            · rw [List.flatMap_cons, hData]
              exact List.take_append_drop _ _
            · rw [List.append_cons]
              exact hAfter

/- Nothing is written where there is no file. -/
theorem writeFd_closed
    {env : WriteEnv}
    {fd : Fd}
    {message : Bytes}
    (hNone : s.fds fd = FdEntry.unused) :
    writeFd env fd message s =
      .ok (-1, { s with errno := .EBADF }) := by
  unfold writeFd
  rw [run_bind_ok (run_get s), hNone]
  rfl

/-
  A send puts what it accepts at the back of the queue, and
  nothing else.
-/
theorem Channel.send
    {writes : List WriteEnv}
    {msg : Bytes}
    {r : Int}
    (hChannel : Channel p q a b secret m segments s)
    (hTaken : ∀ w ∈ writes, w.delivered = true)
    (hRun : unixSendStream writes p msg s = .ok (r, s')) :
    ∃ more, more.flatMap Segment.data = msg.take r.toNat ∧
      Channel p q a b secret m (segments ++ more) s' := by
  rcases hChannel.sends with ⟨u, hSends⟩
  rcases hSends.socket with ⟨d, hSocket, hA⟩
  unfold unixSendStream at hRun
  rw [run_bind_ok (derefSocket_run hSocket), hA] at hRun
  rcases hSends.writes with hWrites | hNone
  · rcases hChannel.sendLoop hSends hWrites hTaken hRun with
      ⟨rfl, more, hData, hAfter⟩
    refine ⟨more, ?_, hAfter⟩
    rw [hData, Nat.zero_add, Int.toNat_natCast,
      List.take_length]
  · have hNothing : ∀ {t : Process},
        Channel p q a b secret m segments t →
        ∃ more, more.flatMap Segment.data = [] ∧
          Channel p q a b secret m (segments ++ more) t := by
      intro t hSame
      refine ⟨[], rfl, ?_⟩
      rw [List.append_nil]
      exact hSame
    cases msg with
    | nil =>
        rw [List.take_nil]
        cases writes with
        | nil =>
            cases hRun
            exact hNothing hChannel
        | cons w ws =>
            cases hRun
            exact hNothing hChannel
    | cons c cs =>
        cases writes with
        | nil => cases hRun
        | cons w ws =>
            have hHere : deref Block.unix? (some a) s =
                .ok (u, s) := by
              rw [← hA]
              exact derefUnix_run ⟨hSocket, a, hA, hSends.data⟩
            rw [sendLoop_cons] at hRun
            dsimp only at hRun
            rw [run_bind_ok hHere,
              run_bind_ok (writeFd_closed hNone),
              if_pos (.inl rfl)] at hRun
            cases hRun
            have hMarked := hChannel.errno .EBADF
            exact hNothing (hMarked.errno Errno.EIO)

------------------------------------------------------------
-- Receiving
------------------------------------------------------------

/- A read that waits takes the message in front. -/
theorem readFd_front
    {env : ReadEnv}
    {fd : Fd}
    {me : MailslotFsext}
    {handle : Bytes}
    {taken : Option (List Bytes)}
    (hReads : s.ReadsMail fd me handle)
    (hIdle : me.peeking = false)
    (hWaits : me.blocking = true)
    (hSingle : s.reportsNext = false)
    (hAlone : env.arrivals = [])
    (hSome : ∀ x ∈ s.mail handle, x ≠ [])
    (hRun : readFd env fd s = .ok (taken, s')) :
    ∃ x rest, s.mail handle = x :: rest ∧ taken = some [x] ∧
      s' = s.setMail handle rest := by
  have hQueue : s.mail handle ++ env.arrivals =
      s.mail handle := by
    rw [hAlone, List.append_nil]
  have hFull := readFd_full hReads hIdle
    (by rw [hQueue]; exact hSome) hRun
  rw [hQueue, hSingle] at hFull
  rcases hFull with ⟨hPolls, hEnd⟩
  cases hMail : s.mail handle with
  | nil =>
      rw [hPolls hMail] at hWaits
      cases hWaits
  | cons x rest =>
      rw [hMail] at hEnd
      rcases hEnd with ⟨-, hNone, -⟩ | ⟨hTaken, hLeft⟩
      · cases hNone
      · exact ⟨x, rest, rfl, hTaken, hLeft⟩

/- One message in the packet buffer, and what follows it. -/
theorem Process.recvBuf_received
    {x : Bytes}
    (hFits : x.length ≤ s.recvBuf.length) :
    ∃ tail, (s.received [x]).recvBuf = x ++ tail := by
  rcases overlay_of_fits hFits [] with ⟨tail, hOver⟩
  refine ⟨tail, ?_⟩
  change overlay s.recvBuf [x].flatten = _
  rw [List.flatten_singleton, ← hOver, List.append_nil]

/- The round of the loop that meets a packet ends it. -/
theorem Segment.From.round
    {env : RecvEnv}
    {len : Nat}
    {peeking : Bool}
    {rs : List ReadEnv}
    {ms : List Bytes}
    {d : LsckSocket}
    {x : Segment}
    {tail data : Bytes}
    {n : Int}
    (hFrom : x.From usock.secret)
    (hData : s.heap b = some (.unix usock))
    (hB : d.idata = some b)
    (hBuffer : s.recvBuf = x.packet ++ tail)
    (hWhole : TakesWhole len x.packet)
    (hRun : streamRound env q len peeking rs d usock ms s =
      .ok ((n, data), s')) :
    data = x.data ∧
      s' = s.setBlock b (some (.unix
        (usock.gotPacket x.header))) := by
  have hStream : x.header.type &&& unixMsgDgramBit = 0 := by
    rcases hFrom.header with ⟨u, -, -, hHeader⟩
    rw [hHeader]
    change unixMsgData &&& unixMsgDgramBit = 0
    decide
  have hLeast := hFrom.least
  have hMost := hFrom.most
  unfold packetData mailslotSendsize headerSize at hMost
  unfold streamRound at hRun
  rw [run_bind_ok (run_get s), hBuffer, hFrom.decode tail]
    at hRun
  rw [hFrom.verdict, hFrom.whole hWhole] at hRun
  dsimp only at hRun
  rw [when, if_pos hStream, hB,
    run_bind_ok (modifyUnix_run hData _),
    if_neg (by omega), if_neg (by omega)] at hRun
  cases hRun
  refine ⟨?_, rfl⟩
  have hRoom : headerSize + x.data.length ≤
      (x.packet ++ tail).length := by
    rw [List.length_append, x.length_packet]
    omega
  rw [copyOut_eq hRoom]
  unfold Segment.packet
  rw [List.append_assoc, List.drop_left'
    (UnixMsgHeader.length_encode x.header), List.take_left]

/- The state after the packet in front has been taken. -/
def Process.packetTaken
    (s : Process)
    (b : Ptr)
    (m : Bytes)
    (usock : LsckSocketUnix)
    (x : Segment)
    (left : List Bytes) : Process :=
  ((s.setMail m left).received [x.packet]).setBlock b
    (some (.unix (usock.gotPacket x.header)))

/- The packets behind it are still on the way. -/
theorem Channel.packetTaken
    {x : Segment}
    {rest : List Segment}
    (hChannel : Channel p q a b secret m (x :: rest) s)
    (hReceives : s.ReceivesFrom q b secret m usock) :
    Channel p q a b secret m rest
      (s.packetTaken b m usock x (rest.map Segment.packet)) := by
  rcases hChannel.sends with ⟨u, hSends⟩
  rcases hSends.socket with ⟨e, hOther, -⟩
  rcases hReceives.socket with ⟨d, hSocket, hB⟩
  have hKept : ∀ y c, s.heap y = some (.socket c) →
      (s.packetTaken b m usock x
        (rest.map Segment.packet)).heap y = s.heap y := by
    intro y c hY
    exact heap_setBlock_other (s := (s.setMail m
      (rest.map Segment.packet)).received _) hY hReceives.data
  constructor
  · exact hChannel.apart
  · refine ⟨u, hSends.frame (hKept p e hOther) ?_ rfl⟩
    exact Function.update_of_ne hChannel.apart _ _
  · refine ⟨usock.gotPacket x.header, ?_, ?_, ?_, ?_⟩
    · exact ⟨d, (hKept q d hSocket).trans hSocket, hB⟩
    · exact Function.update_self _ _ _
    · exact hReceives.secret
    · rcases hReceives.reads with ⟨me, hReads, hMode⟩
      exact ⟨me, hReads.of_fds rfl, hMode⟩
  · exact hChannel.single
  · change (overlay s.recvBuf _).length = _
    rw [length_overlay]
    exact hChannel.room
  · exact Function.update_self _ _ _
  · intro y hY
    exact hChannel.ours y (List.mem_cons_of_mem x hY)

/- A read that does not peek is that of the mailslot. -/
theorem readPacket_plain
    {r : ReadEnv}
    {fd : Fd}
    {t : Process}
    {taken : Option (List Bytes)}
    (hRead : readPacket r false fd s = .ok (taken, t)) :
    readFd r fd s = .ok (taken, t) := by
  rcases bind_eq_ok.mp hRead with ⟨_, u, hBefore, hRest⟩
  cases hBefore
  rcases bind_eq_ok.mp hRest with ⟨_, v, hFd, hBehind⟩
  rcases bind_eq_ok.mp hBehind with ⟨_, w, hAfter, hPure⟩
  cases hAfter
  cases hPure
  exact hFd

/-
  A receive that takes the packet in front whole returns its
  data, and leaves the rest of the queue.
-/
theorem Channel.receive
    {env : RecvEnv}
    {len : Nat}
    {n : Int}
    {data : Bytes}
    (hChannel : Channel p q a b secret m segments s)
    (hAlone : ∀ r ∈ env.reads, r.arrivals = [])
    (hWhole : ∀ x ∈ (s.mail m).head?, TakesWhole len x)
    (hRun : unixRecvStream env q len 0 s =
      .ok ((n, data), s')) :
    ∃ x rest, segments = x :: rest ∧ data = x.data ∧
      Channel p q a b secret m rest s' := by
  rcases hChannel.sends with ⟨u, hSends⟩
  rcases hChannel.receives with ⟨v, hReceives⟩
  rcases hReceives.socket with ⟨d, hSocket, hB⟩
  rcases hReceives.reads with ⟨me, hReads, hIdle, hWaits⟩
  have hUnix : s.HasUnix q d v :=
    ⟨hSocket, b, hB, hReceives.data⟩
  unfold unixRecvStream at hRun
  cases hEnv : env.reads with
  | nil =>
      rw [hEnv] at hRun
      cases hRun
  | cons r rs =>
      have hQuiet : r.arrivals = [] := by
        apply hAlone
        rw [hEnv]
        exact List.mem_cons_self
      rw [hEnv, recvLoop_cons, run_bind_ok
        (derefSocket_run hSocket), run_bind_ok
        (derefUnix_run hUnix)] at hRun
      rcases bind_eq_ok.mp hRun with ⟨taken, t, hRead, hActs⟩
      have hFull : ∀ y ∈ s.mail m, y ≠ [] := by
        intro y hY
        rw [hChannel.queue] at hY
        rcases List.mem_map.mp hY with ⟨x, hX, rfl⟩
        exact (hChannel.ours x hX).packet_ne_nil
      have hFd := readPacket_plain hRead
      rcases readFd_front hReads hIdle hWaits hChannel.single
        hQuiet hFull hFd with ⟨y, left, hMail, rfl, rfl⟩
      cases segments with
      | nil =>
          rw [hChannel.queue] at hMail
          cases hMail
      | cons x rest =>
          have hQueue := hChannel.queue
          rw [hMail] at hQueue
          cases hQueue
          have hFrom := hChannel.ours x List.mem_cons_self
          have hFits : x.packet.length ≤
              (s.setMail m
                (rest.map Segment.packet)).recvBuf.length := by
            change _ ≤ s.recvBuf.length
            rw [hChannel.room]
            exact hFrom.packet_fits
          rcases Process.recvBuf_received hFits with
            ⟨tail, hBuffer⟩
          have hFront : TakesWhole len x.packet := by
            apply hWhole
            rw [hMail]
            exact rfl
          rw [← hReceives.secret] at hFrom
          dsimp only at hActs
          rw [run_bind_ok (run_modify _ _)] at hActs
          have hData : ((s.setMail m
              (rest.map Segment.packet)).received
                [x.packet]).heap b = some (.unix v) :=
            hReceives.data
          rcases hFrom.round hData hB hBuffer hFront hActs
            with ⟨rfl, rfl⟩
          exact ⟨x, rest, rfl, rfl,
            hChannel.packetTaken hReceives⟩

end Channel

end Libsocket
