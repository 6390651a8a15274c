import Libsocket.MailslotTransfer
import Libsocket.Unix.Paths
import Libsocket.Unix.Sequence
import Mathlib.Data.List.Chain

/-
  How a stream cuts a message into packets, and what a send
  that fails has already handed over.

  Main declarations:
    * `Segment`, `IsOneMessage`
    * `Segmented`, `sendLoop_delivers`
    * `unixSendStream_segments`
    * `sendLoop_outcome`
    * `AccountsFor`, `send_accounts_iff`
-/

namespace Libsocket

open Command

------------------------------------------------------------
-- Segments
------------------------------------------------------------

/- The header and the data of a packet. -/
structure Segment where
  header : UnixMsgHeader
  data : Bytes
deriving DecidableEq, Repr

def Segment.packet (x : Segment) : Bytes :=
  x.header.encode ++ x.data

/- The mailslot library sends it with one call of DOS. -/
def IsOneMessage (packet : Bytes) : Prop :=
  writeLoop mailslotSendsize packet [.ok ()] 0
      ⟨0, none, []⟩ =
    some ⟨packet.length, none, [⟨0, packet⟩]⟩

theorem isOneMessage_of_le
    {packet : Bytes}
    (hSome : 0 < packet.length)
    (hLength : packet.length ≤ mailslotSendsize) :
    IsOneMessage packet := by
  have hWhole : chunkAt mailslotSendsize packet 0 =
      ⟨0, packet⟩ := by
    unfold chunkAt
    rw [List.drop_zero, List.take_of_length_le hLength]
  unfold IsOneMessage
  rw [writeLoop, if_pos hSome, if_pos (by decide), hWhole,
    writeLoop, if_neg (by omega)]
  simp [Written.answer]

/- The first packet of what is left of a message. -/
def firstSegment
    (usock : LsckSocketUnix)
    (msg : Bytes) : Segment :=
  ⟨dataHeader usock (msg.take packetData).length,
    msg.take packetData⟩

theorem length_packet_firstSegment
    (usock : LsckSocketUnix)
    (msg : Bytes) :
    0 < (firstSegment usock msg).packet.length ∧
      (firstSegment usock msg).packet.length ≤
        mailslotSendsize := by
  unfold firstSegment Segment.packet
  rw [List.length_append, UnixMsgHeader.length_encode,
    List.length_take]
  unfold packetData headerSize mailslotSendsize
  omega

/-
  The packets are the message: their data in order, each of
  them one mailslot message, and the numbers of each go on
  where those of the one before end. The sequence number
  behind the last one is `last`.
-/
structure Segmented
    (usock : LsckSocketUnix)
    (msg : Bytes)
    (segments : List Segment)
    (last : Int) : Prop where
  payload : segments.flatMap Segment.data = msg
  size : ∀ x ∈ segments,
    x.packet.length ≤ mailslotSendsize ∧
      IsOneMessage x.packet
  secret : ∀ x ∈ segments, x.header.secret = usock.secret
  first : ∀ x ∈ segments.head?,
    x.header.seqStart = usock.seqW
  chain : InRange usock.seqW →
    segments.IsChain fun x y =>
      y.header.seqStart = (x.header.seqEnd + 1) % maxInt
  last : InRange usock.seqW →
    msg ≠ [] ∨ usock.seqW < maxInt →
      last = (usock.seqW + msg.length) % maxInt

theorem segmented_nil (usock : LsckSocketUnix) :
    Segmented usock [] [] usock.seqW := by
  constructor
  · rfl
  · intro x hX
    cases hX
  · intro x hX
    cases hX
  · intro x hX
    cases hX
  · exact fun _ => List.IsChain.nil
  · rintro ⟨hLow, hHigh⟩ hSome
    rcases hSome with hNone | hSome
    · exact absurd rfl hNone
    · change usock.seqW = (usock.seqW + 0) % maxInt
      rw [Int.add_zero, Int.emod_eq_of_lt hLow hSome]

/- The number that a packet ends with, and the next one. -/
theorem seqStart_next
    {usock : LsckSocketUnix}
    {n : Nat}
    (hRange : InRange usock.seqW)
    (hLow : 0 < n)
    (hHigh : n ≤ packetData) :
    (usock.sentPacket n).seqW =
        ((dataHeader usock n).seqEnd + 1) % maxInt ∧
      (usock.sentPacket n).seqW =
        (usock.seqW + n) % maxInt := by
  rcases hRange with ⟨hMin, hMax⟩
  unfold packetData mailslotSendsize headerSize at hHigh
  unfold maxInt at hMax
  unfold LsckSocketUnix.sentPacket dataHeader
  dsimp only
  rw [modMaxintUnsigned_of_range (by omega) (by omega),
    modMaxintUnsigned_of_range (by omega) (by omega)]
  unfold maxInt
  omega

theorem Segmented.cons
    {usock : LsckSocketUnix}
    {msg : Bytes}
    {segments : List Segment}
    {last : Int}
    (hSome : msg ≠ [])
    (hRest : Segmented
      (usock.sentPacket (msg.take packetData).length)
      (msg.drop packetData) segments last) :
    Segmented usock msg (firstSegment usock msg :: segments)
      last := by
  have hLength : 0 < (msg.take packetData).length := by
    have hMsg := List.length_pos_iff.mpr hSome
    rw [List.length_take]
    unfold packetData mailslotSendsize headerSize
    omega
  have hMost : (msg.take packetData).length ≤ packetData :=
    List.length_take_le _ _
  constructor
  · rw [List.flatMap_cons, hRest.payload]
    exact List.take_append_drop _ _
  · intro x hX
    rcases List.mem_cons.mp hX with rfl | hX
    · have hPacket := length_packet_firstSegment usock msg
      exact ⟨hPacket.2, isOneMessage_of_le hPacket.1 hPacket.2⟩
    · exact hRest.size x hX
  · intro x hX
    rcases List.mem_cons.mp hX with rfl | hX
    · rfl
    · exact hRest.secret x hX
  · intro x hX
    cases hX
    rfl
  · intro hRange
    have hNext := seqStart_next hRange hLength hMost
    have hTail := hRest.chain (inRange_modMaxintUnsigned _)
    cases segments with
    | nil => exact List.IsChain.singleton _
    | cons y ys =>
        apply List.IsChain.cons_cons _ hTail
        rw [hRest.first y rfl]
        exact hNext.1
  · intro hRange _
    have hNext := seqStart_next hRange hLength hMost
    have hBelow : (usock.sentPacket
        (msg.take packetData).length).seqW < maxInt := by
      rw [hNext.2]
      unfold maxInt
      omega
    have hWhole := congrArg List.length
      (List.take_append_drop packetData msg)
    rw [List.length_append] at hWhole
    rw [hRest.last (inRange_modMaxintUnsigned _)
      (.inr hBelow), hNext.2, ← hWhole]
    unfold maxInt
    omega

------------------------------------------------------------
-- One Packet
------------------------------------------------------------

/- The state behind a packet that the network has taken. -/
def Process.packetSent
    (s : Process)
    (q : Ptr)
    (m : Bytes)
    (usock : LsckSocketUnix)
    (x : Segment) : Process :=
  (s.deliverTo m x.packet).setBlock q
    (some (.unix (usock.sentPacket x.data.length)))

theorem Process.heap_packetSent
    (s : Process)
    (q : Ptr)
    (m : Bytes)
    (usock : LsckSocketUnix)
    (x : Segment) :
    (s.packetSent q m usock x).heap q =
      some (.unix (usock.sentPacket x.data.length)) :=
  Function.update_self _ _ _

theorem Process.WritesTo.packetSent
    {s : Process}
    {fd : Fd}
    {m : Bytes}
    (hWrites : s.WritesTo fd m)
    (q : Ptr)
    (usock : LsckSocketUnix)
    (x : Segment) :
    (s.packetSent q m usock x).WritesTo fd m :=
  hWrites.of_fds rfl

/- A write that the network takes. -/
theorem writeFd_run
    {env : WriteEnv}
    {fd : Fd}
    {message m : Bytes}
    {s : Process}
    (hWrites : s.WritesTo fd m)
    (hSome : message ≠ [])
    (hTaken : env.delivered = true) :
    writeFd env fd message s =
      .ok ((message.length : Int), s.deliverTo m message) := by
  rcases hWrites with ⟨me, name, hMail, -, hName, rfl⟩
  unfold writeFd
  rw [run_bind_ok (run_get s), hMail]
  dsimp only
  simp only [hName]
  rw [if_neg hSome, if_pos hTaken]
  rfl

/- A write that it refuses, if the write returns. -/
theorem writeFd_refused
    {env : WriteEnv}
    {fd : Fd}
    {message m : Bytes}
    {s s' : Process}
    {r : Int}
    (hWrites : s.WritesTo fd m)
    (hRefused : env.delivered = false)
    (hRun : writeFd env fd message s = .ok (r, s')) :
    r = -1 ∧ ∃ e, s' = { s with errno := e } := by
  rcases hWrites with ⟨me, name, hMail, -, hName, rfl⟩
  unfold writeFd at hRun
  rw [run_bind_ok (run_get s), hMail] at hRun
  dsimp only at hRun
  simp only [hName, hRefused] at hRun
  split at hRun
  · cases hRun
    exact ⟨rfl, _, rfl⟩
  rw [if_neg Bool.false_ne_true] at hRun
  split at hRun
  · cases hRun
  · cases hRun
    exact ⟨rfl, _, rfl⟩

/- The loop goes on behind a packet that was taken. -/
theorem sendLoop_taken
    {q : Ptr}
    {w : WriteEnv}
    {ws : List WriteEnv}
    {b : UInt8}
    {bs m : Bytes}
    {total : Nat}
    {usock : LsckSocketUnix}
    {s : Process}
    (hData : s.heap q = some (.unix usock))
    (hWrites : s.WritesTo usock.fdW m)
    (hTaken : w.delivered = true) :
    sendLoop (some q) (w :: ws) (b :: bs) total s =
      sendLoop (some q) ws ((b :: bs).drop packetData)
        (total + ((b :: bs).take packetData).length)
        (s.packetSent q m usock
          (firstSegment usock (b :: bs))) := by
  have hSome : (firstSegment usock (b :: bs)).packet ≠ [] :=
    List.length_pos_iff.mp
      (length_packet_firstSegment usock _).1
  have hHere : deref Block.unix? (some q) s =
      .ok (usock, s) := by
    simp [deref, run_bind, hData, Block.unix?]
  rw [sendLoop_cons]
  dsimp only
  have hWrite : writeFd w usock.fdW
      ((dataHeader usock
        ((b :: bs).take packetData).length).encode ++
          (b :: bs).take packetData) s = _ :=
    writeFd_run hWrites hSome hTaken
  rw [run_bind_ok hHere, run_bind_ok hWrite]
  have hLength : ((dataHeader usock
      ((b :: bs).take packetData).length).encode ++
        (b :: bs).take packetData).length =
      headerSize + ((b :: bs).take packetData).length := by
    rw [List.length_append, UnixMsgHeader.length_encode]
  have hGoesOn : ¬ (((headerSize +
      ((b :: bs).take packetData).length : Nat) : Int) = -1 ∨
      ((headerSize + ((b :: bs).take packetData).length : Nat) :
        Int) - headerSize ≠
          ((b :: bs).take packetData).length) := by
    omega
  rw [hLength, if_neg hGoesOn]
  rw [run_bind_ok (modifyUnix_run (s := s.deliverTo m
    ((dataHeader usock
      ((b :: bs).take packetData).length).encode ++
        (b :: bs).take packetData)) hData _)]
  rfl

/- A packet that is refused ends the send. -/
theorem sendLoop_refused
    {q : Ptr}
    {w : WriteEnv}
    {ws : List WriteEnv}
    {b : UInt8}
    {bs m : Bytes}
    {total : Nat}
    {usock : LsckSocketUnix}
    {s s' : Process}
    {r : Int}
    (hData : s.heap q = some (.unix usock))
    (hWrites : s.WritesTo usock.fdW m)
    (hRefused : w.delivered = false)
    (hRun : sendLoop (some q) (w :: ws) (b :: bs) total s =
      .ok (r, s')) :
    r = -1 ∧ s'.sent = s.sent ∧ s'.heap = s.heap := by
  have hHere : deref Block.unix? (some q) s =
      .ok (usock, s) := by
    simp [deref, run_bind, hData, Block.unix?]
  rw [sendLoop_cons] at hRun
  dsimp only at hRun
  rw [run_bind_ok hHere] at hRun
  rcases bind_eq_ok.mp hRun with ⟨ret, t, hWrite, hTail⟩
  rcases writeFd_refused hWrites hRefused hWrite with
    ⟨rfl, e, rfl⟩
  rw [if_pos (.inl rfl)] at hTail
  cases hTail
  exact ⟨rfl, rfl, rfl⟩

------------------------------------------------------------
-- Every Write Succeeds
------------------------------------------------------------

/-
  With enough writes, all of which the network takes, the
  loop returns and has sent the message.
-/
theorem sendLoop_delivers
    {q : Ptr}
    {writes : List WriteEnv}
    {msg m : Bytes}
    {usock : LsckSocketUnix}
    {s : Process}
    (hData : s.heap q = some (.unix usock))
    (hWrites : s.WritesTo usock.fdW m)
    (hTaken : ∀ w ∈ writes, w.delivered = true)
    (hEnough : msg.length ≤ packetData * writes.length)
    (total : Nat) :
    ∃ s' segments last,
      sendLoop (some q) writes msg total s =
          .ok (((total + msg.length : Nat) : Int), s') ∧
        s'.sent = s.sent ++
          segments.map (fun x => (m, x.packet)) ∧
        s'.heap = Function.update s.heap q
          (some (.unix { usock with seqW := last })) ∧
        Segmented usock msg segments last := by
  induction writes generalizing msg total s usock with
  | nil =>
      have hNone : msg = [] :=
        List.eq_nil_of_length_eq_zero (by simpa using hEnough)
      subst hNone
      refine ⟨s, [], usock.seqW, rfl, by simp, ?_,
        segmented_nil usock⟩
      exact (Function.update_eq_self_iff.mpr hData.symm).symm
  | cons w ws ih =>
      cases msg with
      | nil =>
          refine ⟨s, [], usock.seqW, rfl, by simp, ?_,
            segmented_nil usock⟩
          exact (Function.update_eq_self_iff.mpr
            hData.symm).symm
      | cons b bs =>
          have hNext : (s.packetSent q m usock
              (firstSegment usock (b :: bs))).heap q =
              some (.unix (usock.sentPacket
                ((b :: bs).take packetData).length)) :=
            Process.heap_packetSent _ _ _ _ _
          have hFewer : ((b :: bs).drop packetData).length ≤
              packetData * ws.length := by
            have hOne : packetData * (w :: ws).length =
                packetData * ws.length + packetData :=
              Nat.mul_succ _ _
            rw [List.length_drop]
            omega
          rcases ih hNext (hWrites.packetSent q usock _)
            (fun x hX => hTaken x (List.mem_cons_of_mem _ hX))
            hFewer
            (total + ((b :: bs).take packetData).length) with
            ⟨s', segments, last, hRun, hSent, hHeap, hRest⟩
          refine ⟨s', firstSegment usock (b :: bs) :: segments,
            last, ?_, ?_, ?_,
            hRest.cons (List.cons_ne_nil b bs)⟩
          · rw [sendLoop_taken hData hWrites
              (hTaken w List.mem_cons_self), hRun,
              Nat.add_assoc, ← List.length_append,
              List.take_append_drop]
          · rw [hSent, List.map_cons]
            exact List.append_assoc _ _ _
          · rw [hHeap]
            exact Function.update_idem _ _ _

/-
  A stream cuts every message into packets as it should: it
  returns once there are enough writes, and the packets it
  has sent are the message.
-/
theorem unixSendStream_segments
    {writes : List WriteEnv}
    {p : Ptr}
    {msg m : Bytes}
    {d : LsckSocket}
    {usock : LsckSocketUnix}
    {s : Process}
    (hUnix : s.HasUnix p d usock)
    (hWrites : s.WritesTo usock.fdW m)
    (hTaken : ∀ w ∈ writes, w.delivered = true)
    (hEnough : msg.length ≤ packetData * writes.length) :
    ∃ s' segments last,
      unixSendStream writes p msg s =
          .ok ((msg.length : Int), s') ∧
        s'.sent = s.sent ++
          segments.map (fun x => (m, x.packet)) ∧
        s'.HasUnix p d { usock with seqW := last } ∧
        Segmented usock msg segments last := by
  rcases hUnix with ⟨hSocket, q, hQ, hData⟩
  rcases sendLoop_delivers hData hWrites hTaken hEnough 0 with
    ⟨s', segments, last, hRun, hSent, hHeap, hSegments⟩
  refine ⟨s', segments, last, ?_, hSent, ?_, hSegments⟩
  · unfold unixSendStream
    rw [run_bind_ok (derefSocket_run hSocket), hQ, hRun,
      Nat.zero_add]
  · constructor
    · rw [hHeap, Function.update_of_ne
        (socket_ne_unix hSocket hData)]
      exact hSocket
    · exact ⟨q, hQ, by rw [hHeap, Function.update_self]⟩

/- A connected stream that writes to a mailslot. -/
def senderData (seqW : Int) : LsckSocketUnix :=
  { LsckSocketUnix.cleared with
    secret := ⟨7, 1⟩
    fdW := 4
    fdR := -1
    seqW := seqW }

def streamSender (seqW : Int) : Process :=
  ((dgramProcess { namedSocket with
    type := sockStream }).setBlock 11
      (some (.unix (senderData seqW)))).setEntry 4
        ⟨true, some .mailslotHandler, some (.mailslot
          ⟨none, some (bytes "/mailslot/peer"), false,
            false⟩)⟩

theorem streamSender_hasUnix (seqW : Int) :
    (streamSender seqW).HasUnix 10
      { namedSocket with type := sockStream }
      (senderData seqW) :=
  ⟨rfl, 11, rfl, rfl⟩

theorem streamSender_writesTo (seqW : Int) :
    (streamSender seqW).WritesTo (senderData seqW).fdW
      (backslashify (bytes "/mailslot/peer")) :=
  ⟨_, _, rfl, rfl, rfl, rfl⟩

theorem segments_of_two_bytes :
    ∃ s' segments last,
      unixSendStream [⟨true, .zero⟩] 10 [1, 2]
          (streamSender 5) = .ok (2, s') ∧
        s'.sent = (streamSender 5).sent ++
          segments.map (fun x =>
            (backslashify (bytes "/mailslot/peer"),
              x.packet)) ∧
        s'.HasUnix 10 { namedSocket with type := sockStream }
          { senderData 5 with seqW := last } ∧
        Segmented (senderData 5) [1, 2] segments last :=
  unixSendStream_segments (streamSender_hasUnix 5)
    (streamSender_writesTo 5) (by decide) (by decide)

/- The final number is the sum, reduced modulo `MAXINT`. -/
def EndsAtSum (start : Int) (msg : Bytes) : Prop :=
  ∀ (writes : List WriteEnv) (p : Ptr) (m : Bytes)
    (d : LsckSocket) (usock : LsckSocketUnix)
    (s s' : Process),
    usock.seqW = start →
    s.HasUnix p d usock →
    s.WritesTo usock.fdW m →
    (∀ w ∈ writes, w.delivered = true) →
    unixSendStream writes p msg s =
      .ok ((msg.length : Int), s') →
    ∃ d' usock', s'.HasUnix p d' usock' ∧
      usock'.seqW = (start + msg.length) % maxInt

/-
  `MAXINT` itself is not reduced by an empty message, and
  a negative number is reduced as an unsigned one.
-/
theorem numbers_not_reduced :
    ¬ EndsAtSum maxInt [] ∧ ¬ EndsAtSum (-4) [0] := by
  constructor
  · intro hEnds
    rcases hEnds [] 10 _ _ _ (streamSender maxInt)
      (streamSender maxInt) rfl (streamSender_hasUnix maxInt)
      (streamSender_writesTo maxInt) (by decide) rfl with
      ⟨d', usock', hUnix, hSum⟩
    rcases hUnix.unique (streamSender_hasUnix maxInt) with
      ⟨-, rfl⟩
    revert hSum
    decide
  · intro hEnds
    have hRun : unixSendStream [⟨true, .zero⟩] 10 [0]
        (streamSender (-4)) =
      .ok (1, (streamSender (-4)).packetSent 11
        (backslashify (bytes "/mailslot/peer"))
        (senderData (-4))
        (firstSegment (senderData (-4)) [0])) := by
      have hStep : sendLoop (some 11) [⟨true, .zero⟩] [0] 0
          (streamSender (-4)) = _ :=
        sendLoop_taken rfl (streamSender_writesTo (-4)) rfl
      exact hStep
    rcases hEnds _ 10 _ _ _ _ _ rfl (streamSender_hasUnix _)
      (streamSender_writesTo (-4)) (by decide) hRun with
      ⟨d', usock', hUnix, hSum⟩
    have hAfter : ((streamSender (-4)).packetSent 11
        (backslashify (bytes "/mailslot/peer"))
        (senderData (-4))
        (firstSegment (senderData (-4)) [0])).HasUnix 10
          { namedSocket with type := sockStream }
          ((senderData (-4)).sentPacket 1) :=
      ⟨rfl, 11, rfl, rfl⟩
    rcases hUnix.unique hAfter with ⟨-, rfl⟩
    revert hSum
    decide

------------------------------------------------------------
-- Some Writes Fail
------------------------------------------------------------

/- All are taken, or the first one is refused. -/
def AllOrNone (writes : List WriteEnv) : Prop :=
  (∀ w ∈ writes, w.delivered = true) ∨
    ∃ w ∈ writes.head?, w.delivered = false

/-
  Whatever becomes of the writes: what a send that returns
  has sent, and what it returns.
-/
theorem sendLoop_outcome
    {q : Ptr}
    {writes : List WriteEnv}
    {msg m : Bytes}
    {total : Nat}
    {usock : LsckSocketUnix}
    {s s' : Process}
    {r : Int}
    (hData : s.heap q = some (.unix usock))
    (hWrites : s.WritesTo usock.fdW m)
    (hRun : sendLoop (some q) writes msg total s =
      .ok (r, s')) :
    ∃ segments last,
      s'.sent = s.sent ++
          segments.map (fun x => (m, x.packet)) ∧
        s'.heap = Function.update s.heap q
          (some (.unix { usock with seqW := last })) ∧
        (segments = [] → last = usock.seqW) ∧
        (r = (total + msg.length : Nat) ∧
            segments.flatMap Segment.data = msg ∧
            (∀ w ∈ callsMade packetData msg.length writes,
              w.delivered = true) ∨
          r = -1 ∧
            (∃ w ∈ callsMade packetData msg.length writes,
              w.delivered = false) ∧
            (segments = [] ↔
              ∃ w ∈ (callsMade packetData msg.length
                writes).head?, w.delivered = false)) := by
  have hSelf : s.heap = Function.update s.heap q
      (some (.unix usock)) :=
    (Function.update_eq_self_iff.mpr hData.symm).symm
  induction writes generalizing msg total s usock with
  | nil =>
      cases msg with
      | nil =>
          cases hRun
          exact ⟨[], usock.seqW, by simp, hSelf, fun _ => rfl,
            .inl ⟨rfl, rfl, by simp [callsMade]⟩⟩
      | cons b bs => cases hRun
  | cons w ws ih =>
      cases msg with
      | nil =>
          cases hRun
          refine ⟨[], usock.seqW, by simp, hSelf, fun _ => rfl,
            .inl ⟨rfl, rfl, ?_⟩⟩
          rw [List.length_nil, callsMade_zero]
          simp
      | cons b bs =>
          rw [callsMade_cons (by decide) (by simp)]
          cases hTaken : w.delivered with
          | false =>
              rcases sendLoop_refused hData hWrites hTaken hRun
                with ⟨rfl, hSent, hHeap⟩
              refine ⟨[], usock.seqW, by simp [hSent],
                hHeap.trans hSelf, fun _ => rfl, .inr ⟨rfl,
                  ⟨w, List.mem_cons_self, hTaken⟩, ?_⟩⟩
              simp [hTaken]
          | true =>
              rw [sendLoop_taken hData hWrites hTaken] at hRun
              have hNext : (s.packetSent q m usock
                  (firstSegment usock (b :: bs))).heap q =
                  some (.unix (usock.sentPacket
                    ((b :: bs).take packetData).length)) :=
                Process.heap_packetSent _ _ _ _ _
              rcases ih hNext (hWrites.packetSent q usock _)
                hRun (Function.update_eq_self_iff.mpr
                  hNext.symm).symm with
                ⟨segments, last, hSent, hHeap, -, hEnd⟩
              rw [List.length_drop] at hEnd
              refine ⟨firstSegment usock (b :: bs) :: segments,
                last, ?_, ?_, by simp, ?_⟩
              · rw [hSent, List.map_cons]
                exact List.append_assoc _ _ _
              · rw [hHeap]
                exact Function.update_idem _ _ _
              rcases hEnd with ⟨rfl, hPayload, hAll⟩ |
                ⟨rfl, hFailed, -⟩
              · left
                refine ⟨?_, ?_, ?_⟩
                · have hSum : total +
                      ((b :: bs).take packetData).length +
                        ((b :: bs).length - packetData) =
                      total + (b :: bs).length := by
                    rw [List.length_take]
                    omega
                  rw [hSum]
                · rw [List.flatMap_cons, hPayload]
                  exact List.take_append_drop _ _
                · intro x hX
                  rcases List.mem_cons.mp hX with rfl | hX
                  · exact hTaken
                  · exact hAll x hX
              · right
                rcases hFailed with ⟨x, hX, hRefused⟩
                refine ⟨rfl, ⟨x, List.mem_cons_of_mem _ hX,
                  hRefused⟩, ?_⟩
                simp [hTaken]

/-
  A send that fails has sent nothing and has kept the
  sequence number; one that returns `t` has sent the first
  `t` bytes.
-/
structure AccountsFor
    (s s' : Process)
    (p : Ptr)
    (m msg : Bytes)
    (seqW r : Int) : Prop where
  failed : r = -1 → s'.sent = s.sent ∧
    ∀ d usock, s'.HasUnix p d usock → usock.seqW = seqW
  counted : ∀ t : Nat, r = t → ∃ segments : List Segment,
    s'.sent = s.sent ++ segments.map (fun x => (m, x.packet)) ∧
      segments.flatMap Segment.data = msg.take t

/- A send that accounts has met with no refusal in between. -/
theorem allOrNone_of_accountsFor
    {writes : List WriteEnv}
    {p : Ptr}
    {msg m : Bytes}
    {d : LsckSocket}
    {usock : LsckSocketUnix}
    {s s' : Process}
    {r : Int}
    (hUnix : s.HasUnix p d usock)
    (hWrites : s.WritesTo usock.fdW m)
    (hRun : unixSendStream writes p msg s = .ok (r, s'))
    (hAccounts : AccountsFor s s' p m msg usock.seqW r) :
    AllOrNone (callsMade packetData msg.length writes) := by
  rcases hUnix with ⟨hSocket, q, hQ, hData⟩
  unfold unixSendStream at hRun
  rw [run_bind_ok (derefSocket_run hSocket), hQ] at hRun
  rcases sendLoop_outcome hData hWrites hRun with
    ⟨segments, last, hSent, -, -,
      ⟨-, -, hAll⟩ | ⟨rfl, -, hFirst⟩⟩
  · exact .inl hAll
  · have hNone := (hAccounts.failed rfl).1
    rw [hSent] at hNone
    right
    apply hFirst.mp
    exact List.map_eq_nil_iff.mp
      (List.append_right_eq_self.mp hNone)

/-
  The return value accounts for what was sent if and only if
  the network takes every packet of the message, or refuses
  the first one.
-/
theorem send_accounts_iff
    {writes : List WriteEnv}
    {p : Ptr}
    {msg m : Bytes}
    {d : LsckSocket}
    {usock : LsckSocketUnix}
    {s s' : Process}
    {r : Int}
    (hUnix : s.HasUnix p d usock)
    (hWrites : s.WritesTo usock.fdW m)
    (hRun : unixSendStream writes p msg s = .ok (r, s')) :
    AccountsFor s s' p m msg usock.seqW r ↔
      AllOrNone (callsMade packetData msg.length writes) := by
  constructor
  · exact allOrNone_of_accountsFor hUnix hWrites hRun
  intro hPattern
  rcases hUnix with ⟨hSocket, q, hQ, hData⟩
  unfold unixSendStream at hRun
  rw [run_bind_ok (derefSocket_run hSocket), hQ] at hRun
  rcases sendLoop_outcome hData hWrites hRun with
    ⟨segments, last, hSent, hHeap, hKept,
      ⟨rfl, hPayload, -⟩ | ⟨rfl, hFailed, hFirst⟩⟩
  · constructor
    · intro hRet
      omega
    · intro t hRet
      refine ⟨segments, hSent, ?_⟩
      rw [hPayload, List.take_of_length_le]
      omega
  have hNone : segments = [] := by
    rcases hPattern with hAll | hRefused
    · rcases hFailed with ⟨w, hW, hRefused⟩
      rw [hAll w hW] at hRefused
      cases hRefused
    · exact hFirst.mpr hRefused
  constructor
  · intro _
    constructor
    · rw [hSent, hNone, List.map_nil, List.append_nil]
    · intro d' usock' hAfter
      have hSame : s'.HasUnix p d
          { usock with seqW := last } := by
        constructor
        · rw [hHeap, Function.update_of_ne
            (socket_ne_unix hSocket hData)]
          exact hSocket
        · exact ⟨q, hQ, by rw [hHeap, Function.update_self]⟩
      rcases hAfter.unique hSame with ⟨-, hData'⟩
      have hSeq := congrArg LsckSocketUnix.seqW hData'
      exact hSeq.symm.trans (hKept hNone)
  · intro t hRet
    omega

theorem send_accounts_two_bytes :
    AccountsFor (streamSender 5)
        ((streamSender 5).packetSent 11
          (backslashify (bytes "/mailslot/peer"))
          (senderData 5) (firstSegment (senderData 5) [1, 2]))
        10 (backslashify (bytes "/mailslot/peer")) [1, 2] 5
        2 := by
  have hRun : unixSendStream [⟨true, .zero⟩] 10 [1, 2]
      (streamSender 5) =
    .ok (2, (streamSender 5).packetSent 11
      (backslashify (bytes "/mailslot/peer")) (senderData 5)
      (firstSegment (senderData 5) [1, 2])) := by
    have hStep : sendLoop (some 11) [⟨true, .zero⟩] [1, 2] 0
        (streamSender 5) = _ :=
      sendLoop_taken rfl (streamSender_writesTo 5) rfl
    exact hStep
  exact (send_accounts_iff (streamSender_hasUnix 5)
    (streamSender_writesTo 5) hRun).mpr
      (.inl (by decide))

/- A descriptor that does not block reports the refusal. -/
theorem sendLoop_refuses
    {q : Ptr}
    {w : WriteEnv}
    {ws : List WriteEnv}
    {b : UInt8}
    {bs name : Bytes}
    {usock : LsckSocketUnix}
    {s : Process}
    (hData : s.heap q = some (.unix usock))
    (hMail : s.HasMailslot usock.fdW
      ⟨none, some name, false, false⟩)
    (hRefused : w.delivered = false)
    (total : Nat) :
    ∃ s', sendLoop (some q) (w :: ws) (b :: bs) total s =
      .ok (-1, s') := by
  have hHere : deref Block.unix? (some q) s =
      .ok (usock, s) := by
    simp [deref, run_bind, hData, Block.unix?]
  have hSome : (dataHeader usock
      ((b :: bs).take packetData).length).encode ++
        (b :: bs).take packetData ≠ [] :=
    List.length_pos_iff.mp
      (length_packet_firstSegment usock _).1
  have hWrite : ∃ t, writeFd w usock.fdW
      ((dataHeader usock
        ((b :: bs).take packetData).length).encode ++
          (b :: bs).take packetData) s = .ok (-1, t) := by
    unfold writeFd
    rw [run_bind_ok (run_get s), hMail]
    dsimp only
    rw [if_neg hSome, hRefused]
    exact ⟨_, rfl⟩
  rcases hWrite with ⟨t, hWrite⟩
  rw [sendLoop_cons]
  dsimp only
  rw [run_bind_ok hHere, run_bind_ok hWrite,
    if_pos (.inl rfl)]
  exact ⟨_, rfl⟩

/- The second of two packets is refused. -/
theorem second_packet_refused :
    ¬ ∀ (writes : List WriteEnv) (p : Ptr) (msg m : Bytes)
        (d : LsckSocket) (usock : LsckSocketUnix)
        (s s' : Process) (r : Int),
      s.HasUnix p d usock →
      s.WritesTo usock.fdW m →
      unixSendStream writes p msg s = .ok (r, s') →
      AccountsFor s s' p m msg usock.seqW r := by
  intro hAlways
  let tail : Bytes := List.replicate packetData 0
  have hTail : tail.length = packetData :=
    List.length_replicate
  have hRest : ((0 : UInt8) :: tail).drop packetData =
      [0] := by
    change (List.replicate (packetData + 1) (0 : UInt8)).drop
      packetData = [0]
    rw [List.drop_replicate, Nat.add_sub_cancel_left]
    rfl
  have hStep : sendLoop (some 11)
      [⟨true, .zero⟩, ⟨false, .zero⟩] (0 :: tail) 0
      (streamSender 5) = _ :=
    sendLoop_taken rfl (streamSender_writesTo 5) rfl
  rw [hRest] at hStep
  have hRun : ∃ s', unixSendStream
      [⟨true, .zero⟩, ⟨false, .zero⟩] 10 (0 :: tail)
      (streamSender 5) = .ok (-1, s') := by
    unfold unixSendStream
    rw [run_bind_ok (derefSocket_run
      (streamSender_hasUnix 5).socket)]
    change ∃ s', sendLoop (some 11)
      [⟨true, .zero⟩, ⟨false, .zero⟩] (0 :: tail) 0
      (streamSender 5) = .ok (-1, s')
    rw [hStep]
    have hMail : ((streamSender 5).packetSent 11
        (backslashify (bytes "/mailslot/peer"))
        (senderData 5)
        (firstSegment (senderData 5)
          (0 :: tail))).HasMailslot 4
        ⟨none, some (bytes "/mailslot/peer"), false, false⟩ :=
      rfl
    exact sendLoop_refuses (Process.heap_packetSent _ _ _ _ _)
      hMail rfl _
  rcases hRun with ⟨s', hRun⟩
  have hAccounts := hAlways _ 10 _ _ _ _ _ s' (-1)
    (streamSender_hasUnix 5) (streamSender_writesTo 5) hRun
  have hCalls : callsMade packetData
      ((0 : UInt8) :: tail).length
      [(⟨true, .zero⟩ : WriteEnv), ⟨false, .zero⟩] =
        [⟨true, .zero⟩, ⟨false, .zero⟩] := by
    rw [List.length_cons, hTail]
    rfl
  have hPattern := allOrNone_of_accountsFor
    (streamSender_hasUnix 5) (streamSender_writesTo 5) hRun
    hAccounts
  rw [hCalls] at hPattern
  revert hPattern
  unfold AllOrNone
  decide

end Libsocket
