import Libsocket.Unix.Queue

/-
  Which message of a queue a receive on a stream reports.

  The loop rejects a packet by going back to its test, and
  the test looks at the byte count of the read. So a rejected
  packet that has any bytes ends the loop, and its length is
  returned as a count of received data.

  Main declarations:
    * `Round`, `recvLoop_round`
    * `IsOurs`, `Filtered`
    * `CountsOurs`
    * `filtered_of_countsOurs`, `countsOurs_of_filtered`
-/

namespace Libsocket

open Command

------------------------------------------------------------
-- Rounds
------------------------------------------------------------

/- The packet buffer after a read of these messages. -/
def Process.received
    (s : Process)
    (ms : List Bytes) : Process :=
  { s with recvBuf := overlay s.recvBuf ms.flatten }

/- The verdict on what the packet buffer holds. -/
def bufferVerdict
    (accepted : Bool)
    (secret : UnixMsgSecret)
    (len : Nat)
    (buffer : Bytes) : Verdict :=
  streamVerdict accepted secret len
    (UnixMsgHeader.decode buffer)

/- The update of `seq_r` for a data packet of a stream. -/
def notePacket
    (data : Option Ptr)
    (header : UnixMsgHeader) : Exec Unit :=
  when (header.type &&& unixMsgDgramBit = 0)
    (modifyUnix data fun usock =>
      { usock with
        seqR := modMaxintUnsigned
          (usock.seqR + recvlen header) })

/-
  What one round of the receive loop comes to, from the state
  after the read on: the loop goes on after a rejected packet
  of no bytes and after one that has no data to copy.
-/
inductive Round
    (env : RecvEnv)
    (p : Ptr)
    (len : Nat)
    (peeking : Bool)
    (rs : List ReadEnv)
    (lsd : LsckSocket)
    (usock : LsckSocketUnix)
    (ms : List Bytes)
    (s : Process) :
    Int × Bytes → Process → Prop
  | closed
      {x : Int}
      {s₁ s' : Process}
      (verdict : bufferVerdict lsd.accepted usock.secret len
        s.recvBuf = .close)
      (close : unixClose env.closeR env.closeW env.write p s =
        .ok (x, s₁))
      (state : s' = { s₁ with errno := .ECONNRESET }) :
      Round env p len peeking rs lsd usock ms s (-1, []) s'
  | reread
      {x : Int × Bytes}
      {s' : Process}
      (verdict : bufferVerdict lsd.accepted usock.secret len
        s.recvBuf = .reject)
      (empty : ms.flatten = [])
      (next : recvLoop env p len peeking rs true s =
        .ok (x, s')) :
      Round env p len peeking rs lsd usock ms s x s'
  | rejected
      (verdict : bufferVerdict lsd.accepted usock.secret len
        s.recvBuf = .reject)
      (some : ms.flatten ≠ []) :
      Round env p len peeking rs lsd usock ms s
        (ms.flatten.length, []) s
  | passed
      {offset : Int}
      {seqR : Int}
      {x : Int × Bytes}
      {s₁ s' : Process}
      (verdict : bufferVerdict lsd.accepted usock.secret len
        s.recvBuf = .copy offset 0)
      (unix : s₁.HasUnix p lsd { usock with seqR := seqR })
      (same : SameQueue usock.fdR s s₁)
      (mail : s₁.mail = s.mail)
      (buffer : s₁.recvBuf = s.recvBuf)
      (next : recvLoop env p len peeking rs false s₁ =
        .ok (x, s')) :
      Round env p len peeking rs lsd usock ms s x s'
  | copied
      {offset : Int}
      {n : Nat}
      {s' : Process}
      (verdict : bufferVerdict lsd.accepted usock.secret len
        s.recvBuf = .copy offset n)
      (some : n ≠ 0)
      (mail : s'.mail = s.mail) :
      Round env p len peeking rs lsd usock ms s
        (n, copyOut s.recvBuf env.around offset n) s'

section Rounds

variable {env : RecvEnv} {p : Ptr} {len : Nat}
variable {peeking bad : Bool} {r : ReadEnv}
variable {rs : List ReadEnv} {lsd : LsckSocket}
variable {usock : LsckSocketUnix} {ms : List Bytes}
variable {s t s' : Process} {x : Int × Bytes}

/- The update of `seq_r`, if there is one. -/
theorem gotPacket_frame
    {header : UnixMsgHeader}
    {u : Unit}
    (hUnix : s.HasUnix p lsd usock)
    (hRun : notePacket lsd.idata header s = .ok (u, s')) :
    ∃ seqR, s'.HasUnix p lsd { usock with seqR := seqR } ∧
      SameQueue usock.fdR s s' ∧ s'.mail = s.mail ∧
      s'.recvBuf = s.recvBuf := by
  unfold notePacket when at hRun
  split at hRun
  · rcases modifyUnix_hasUnix hUnix hRun with
      ⟨hAfter, hFds, hMail, hNext, hBuffer⟩
    refine ⟨_, hAfter, ?_, hMail, hBuffer⟩
    constructor
    · rw [hFds]
    · intro _ _ _ _
      rw [hMail]
    · exact hNext.symm
  · cases hRun
    exact ⟨usock.seqR, hUnix, ⟨rfl, fun _ _ _ _ => rfl, rfl⟩,
      rfl, rfl⟩

/- A close packet makes the loop close the socket. -/
theorem streamRound_close
    (hVerdict : bufferVerdict lsd.accepted usock.secret len
      s.recvBuf = .close) :
    streamRound env p len peeking rs lsd usock ms s = (do
      let _ ← unixClose env.closeR env.closeW env.write p
      setErrno .ECONNRESET
      return (-1, [])) s := by
  unfold bufferVerdict at hVerdict
  unfold streamRound
  rw [run_bind_ok (run_get s), hVerdict]

/- After a rejected packet of no bytes it reads again. -/
theorem streamRound_reread
    (hVerdict : bufferVerdict lsd.accepted usock.secret len
      s.recvBuf = .reject)
    (hEmpty : ms.flatten = []) :
    streamRound env p len peeking rs lsd usock ms s =
      recvLoop env p len peeking rs true s := by
  unfold bufferVerdict at hVerdict
  unfold streamRound
  rw [run_bind_ok (run_get s), hVerdict]
  exact congrFun (if_pos hEmpty) s

/- The bytes of another one are counted. -/
theorem streamRound_rejected
    (hVerdict : bufferVerdict lsd.accepted usock.secret len
      s.recvBuf = .reject)
    (hSome : ms.flatten ≠ []) :
    streamRound env p len peeking rs lsd usock ms s =
      .ok ((ms.flatten.length, []), s) := by
  unfold bufferVerdict at hVerdict
  unfold streamRound
  rw [run_bind_ok (run_get s), hVerdict]
  exact congrFun (if_neg hSome) s

/- Any other packet is noted before its data is copied. -/
theorem streamRound_copy
    {offset : Int}
    {n : Nat}
    (hVerdict : bufferVerdict lsd.accepted usock.secret len
      s.recvBuf = .copy offset n) :
    streamRound env p len peeking rs lsd usock ms s = (do
      notePacket lsd.idata (UnixMsgHeader.decode s.recvBuf)
      if 2147483648 ≤ n then
        fault
      else if n = 0 then
        recvLoop env p len peeking rs false
      else
        return (n, copyOut s.recvBuf env.around offset n))
        s := by
  unfold bufferVerdict at hVerdict
  unfold streamRound
  rw [run_bind_ok (run_get s), hVerdict]
  rfl

/- The verdict decides on the round. -/
theorem streamRound_round
    (hUnix : s.HasUnix p lsd usock)
    (hRun : streamRound env p len peeking rs lsd usock ms s =
      .ok (x, s')) :
    Round env p len peeking rs lsd usock ms s x s' := by
  cases hVerdict : bufferVerdict lsd.accepted usock.secret len
      s.recvBuf with
  | close =>
      rw [streamRound_close hVerdict] at hRun
      rcases bind_eq_ok.mp hRun with ⟨_, s₁, hClose, hRest⟩
      cases hRest
      exact .closed hVerdict hClose rfl
  | reject =>
      by_cases hEmpty : ms.flatten = []
      · rw [streamRound_reread hVerdict hEmpty] at hRun
        exact .reread hVerdict hEmpty hRun
      · rw [streamRound_rejected hVerdict hEmpty] at hRun
        cases hRun
        exact .rejected hVerdict hEmpty
  | copy offset n =>
      rw [streamRound_copy hVerdict] at hRun
      rcases bind_eq_ok.mp hRun with ⟨_, s₁, hGot, hRest⟩
      rcases gotPacket_frame hUnix hGot with
        ⟨seqR, hAfter, hSame, hMail, hBuffer⟩
      split at hRest
      · cases hRest
      split at hRest
      next hNone =>
          subst hNone
          exact .passed hVerdict hAfter hSame hMail hBuffer
            hRest
      next hSome =>
          cases hRest
          exact .copied hVerdict hSome hMail

/- After a read the socket and its data are there. -/
theorem hasUnix_received
    {fd : Fd}
    {peek : Bool}
    (hUnix : s.HasUnix p lsd usock)
    (hRead : readPacket r peek fd s = .ok (some ms, t)) :
    (t.received ms).HasUnix p lsd usock :=
  hUnix.of_heap (memory_readPacket _ _ _ _ _ _ hRead).heap

/- A round of the loop starts after its read. -/
theorem recvLoop_of_read
    (hUnix : s.HasUnix p lsd usock)
    (hRead : readPacket r (!bad && peeking) usock.fdR s =
      .ok (some ms, t)) :
    recvLoop env p len peeking (r :: rs) bad s =
      streamRound env p len peeking rs lsd usock ms
        (t.received ms) := by
  rw [recvLoop_cons,
    run_bind_ok (derefSocket_run hUnix.socket),
    run_bind_ok (derefUnix_run hUnix), run_bind_ok hRead]
  rfl

/-
  The state `t` in which a round starts, if it was `s` before
  the read.
-/
structure RoundStart
    (p : Ptr)
    (lsd : LsckSocket)
    (usock : LsckSocketUnix)
    (me : MailslotFsext)
    (handle : Bytes)
    (ms left : List Bytes)
    (s t : Process) : Prop where
  unix : t.HasUnix p lsd usock
  files : t.ReadsMail usock.fdR me handle
  mail : t.mail handle = left
  buffer : t.recvBuf = overlay s.recvBuf ms.flatten

theorem RoundStart.room
    {me : MailslotFsext}
    {handle : Bytes}
    {left : List Bytes}
    (hStart : RoundStart p lsd usock me handle ms left s t) :
    t.recvBuf.length = s.recvBuf.length := by
  rw [hStart.buffer, length_overlay]

section Reads

variable {me : MailslotFsext} {handle : Bytes}

/-
  A read fails, or it takes some messages from the queue and
  a round starts.
-/
theorem recvLoop_read
    (hUnix : s.HasUnix p lsd usock)
    (hReads : s.ReadsMail usock.fdR me handle)
    (hIdle : me.peeking = false)
    (hRun : recvLoop env p len peeking (r :: rs) bad s =
      .ok (x, s')) :
    x = (-1, []) ∨ ∃ ms left t,
      Takes (s.mail handle ++ r.arrivals) (!bad && peeking)
        ms left ∧
      readPacket r (!bad && peeking) usock.fdR s =
        .ok (some ms, t) ∧
      RoundStart p lsd usock me handle ms left s
        (t.received ms) ∧
      streamRound env p len peeking rs lsd usock ms
        (t.received ms) = .ok (x, s') := by
  have hTail := hRun
  rw [recvLoop_cons, run_bind_ok (derefSocket_run hUnix.socket),
    run_bind_ok (derefUnix_run hUnix)] at hTail
  rcases bind_eq_ok.mp hTail with ⟨taken, t, hRead, hActs⟩
  cases taken with
  | none =>
      cases hActs
      exact .inl rfl
  | some ms =>
      rw [recvLoop_of_read hUnix hRead] at hRun
      have hHere := hasUnix_received hUnix hRead
      rcases readPacket_takes hReads hIdle hRead with
        ⟨left, hTakes, rfl⟩
      refine .inr ⟨ms, left, _, hTakes, hRead, ?_, hRun⟩
      constructor
      · exact hHere
      · exact hReads.of_fds rfl
      · exact Function.update_self ..
      · rfl

/- The round then ends as it may. -/
theorem recvLoop_round
    (hUnix : s.HasUnix p lsd usock)
    (hReads : s.ReadsMail usock.fdR me handle)
    (hIdle : me.peeking = false)
    (hRun : recvLoop env p len peeking (r :: rs) bad s =
      .ok (x, s')) :
    x = (-1, []) ∨ ∃ ms left t,
      Takes (s.mail handle ++ r.arrivals) (!bad && peeking)
        ms left ∧
      readPacket r (!bad && peeking) usock.fdR s =
        .ok (some ms, t) ∧
      RoundStart p lsd usock me handle ms left s
        (t.received ms) ∧
      Round env p len peeking rs lsd usock ms
        (t.received ms) x s' := by
  rcases recvLoop_read hUnix hReads hIdle hRun with
    hFailed | ⟨ms, left, t, hTakes, hRead, hStart, hActs⟩
  · exact .inl hFailed
  · exact .inr ⟨ms, left, t, hTakes, hRead, hStart,
      streamRound_round hStart.unix hActs⟩

end Reads

end Rounds

------------------------------------------------------------
-- Filtering
------------------------------------------------------------

/-
  A data packet of the connection: it has a whole header that
  passes both checks.
-/
def IsOurs
    (secret : UnixMsgSecret)
    (m : Bytes) : Prop :=
  headerSize ≤ m.length ∧
    isDataPacket secret (UnixMsgHeader.decode m) = true

instance (secret : UnixMsgSecret) (m : Bytes) :
    Decidable (IsOurs secret m) :=
  inferInstanceAs (Decidable (_ ∧ _))

/- The data of a packet, as its header describes it. -/
def streamPayload (m : Bytes) : Bytes :=
  let header := UnixMsgHeader.decode m
  (m.drop header.offset.toNat).take (recvlen header)

/-
  The `n` bytes come from the earliest data packet of the
  connection. All before it have been consumed, and so has
  the packet itself unless the call peeks.
-/
structure FilteredFrom
    (secret : UnixMsgSecret)
    (peeking : Bool)
    (left : List Bytes)
    (n : Int)
    (data : Bytes)
    (earlier : List Bytes)
    (m : Bytes)
    (later : List Bytes) : Prop where
  rejected : ∀ e ∈ earlier, ¬ IsOurs secret e
  ours : IsOurs secret m
  consumed : left <:+ later ∨
    peeking = true ∧ left = m :: later
  offset : 0 ≤ (UnixMsgHeader.decode m).offset
  count : n ≤ (streamPayload m).length
  data : data = (streamPayload m).take n.toNat

def Filtered
    (secret : UnixMsgSecret)
    (peeking : Bool)
    (arrived left : List Bytes)
    (n : Int)
    (data : Bytes) : Prop :=
  ∃ earlier m later, arrived = earlier ++ m :: later ∧
    FilteredFrom secret peeking left n data earlier m later

/- A queue, and the messages that arrive before the reads. -/
def Process.arrived
    (s : Process)
    (handle : Bytes)
    (reads : List ReadEnv) : List Bytes :=
  s.mail handle ++ reads.flatMap ReadEnv.arrivals

/-
  What the loop may meet in one read. A rejected packet has
  no bytes. A packet that has nothing to copy is taken for a
  data packet of no length, so no packet of the connection is
  among those taken with it. The packet that is copied is the
  first that was read, and holds what is copied.
-/
def RoundOurs
    (secret : UnixMsgSecret)
    (peek : Bool)
    (ms : List Bytes)
    (next : Bool → Prop) : Verdict → Prop
| .close => True
| .reject => ms.flatten = [] ∧ next true
| .copy offset n =>
    if n = 0 then
      (∀ m ∈ ms, IsOurs secret m → peek = true) ∧ next false
    else
      ∃ m more, ms = m :: more ∧ IsOurs secret m ∧
        m.length ≤ mailslotSendsize ∧
        (Verdict.copy offset n).CopiesWithin m.length

/- Every read up to the one that decides is like that. -/
def CountsOurs
    (accepted : Bool)
    (secret : UnixMsgSecret)
    (len : Nat)
    (fd : Fd)
    (peeking : Bool) :
    List ReadEnv → Bool → Process → Prop
| [], _, _ => True
| r :: rs, bad, s => ∀ ms t,
    readPacket r (!bad && peeking) fd s = .ok (some ms, t) →
    RoundOurs secret (!bad && peeking) ms
      (fun bad => CountsOurs accepted secret len fd peeking rs
        bad (t.received ms))
      (bufferVerdict accepted secret len
        (t.received ms).recvBuf)

theorem RoundOurs.mono
    {secret : UnixMsgSecret}
    {peek : Bool}
    {ms : List Bytes}
    {next next' : Bool → Prop}
    {verdict : Verdict}
    (hNext : ∀ bad, next bad → next' bad)
    (hOurs : RoundOurs secret peek ms next verdict) :
    RoundOurs secret peek ms next' verdict := by
  cases verdict with
  | close => trivial
  | reject => exact ⟨hOurs.1, hNext true hOurs.2⟩
  | copy offset n =>
      by_cases hNone : n = 0
      · simp only [RoundOurs, if_pos hNone] at hOurs ⊢
        exact ⟨hOurs.1, hNext false hOurs.2⟩
      · simp only [RoundOurs, if_neg hNone] at hOurs ⊢
        exact hOurs

/- Only the queue and the packet buffer matter. -/
theorem CountsOurs.congr
    {accepted : Bool}
    {secret : UnixMsgSecret}
    {len : Nat}
    {fd : Fd}
    {peeking bad : Bool}
    {reads : List ReadEnv}
    {s t : Process}
    (hSame : SameQueue fd s t)
    (hBuffer : t.recvBuf = s.recvBuf)
    (hOurs : CountsOurs accepted secret len fd peeking reads bad
      s) :
    CountsOurs accepted secret len fd peeking reads bad t := by
  induction reads generalizing bad s t with
  | nil => trivial
  | cons r rs ih =>
      intro ms t' hRead
      rcases (alike_readPacket r (!bad && peeking)
        fd).exists_left hSame hRead with ⟨s', hRun, hSame'⟩
      have hBuffer' : (t'.received ms).recvBuf =
          (s'.received ms).recvBuf := by
        change overlay t'.recvBuf _ = overlay s'.recvBuf _
        rw [(memory_readPacket _ _ _ _ _ _ hRead).recvBuf,
          (memory_readPacket _ _ _ _ _ _ hRun).recvBuf,
          hBuffer]
      have hRound := hOurs ms s' hRun
      rw [← hBuffer'] at hRound
      apply hRound.mono
      intro bad'
      exact ih (hSame'.congr rfl rfl rfl rfl rfl rfl) hBuffer'

------------------------------------------------------------
-- Packets That Count
------------------------------------------------------------

/- What the checks of a copied packet say. -/
theorem streamVerdict_copy
    {accepted : Bool}
    {secret : UnixMsgSecret}
    {len n : Nat}
    {offset : Int}
    {header : UnixMsgHeader}
    (hCopy : streamVerdict accepted secret len header =
      .copy offset n) :
    isDataPacket secret header = true ∧
      offset = header.offset ∧ n = min len (recvlen header) := by
  unfold streamVerdict at hCopy
  split at hCopy
  · cases hCopy
  split at hCopy
  · cases hCopy
  next hData =>
      cases hCopy
      exact ⟨by simpa using hData, rfl, rfl⟩

theorem not_isOurs_nil (secret : UnixMsgSecret) :
    ¬ IsOurs secret [] := by
  rintro ⟨hHeader, -⟩
  exact absurd hHeader (by decide)

/- The bytes of a packet that stands first in the buffer. -/
theorem copyOut_first
    {stale m : Bytes}
    {around : Int → UInt8}
    {offset : Int}
    {n : Nat}
    (hFits : m.length ≤ stale.length)
    (hCopies : (Verdict.copy offset n).CopiesWithin m.length)
    (hSome : n ≠ 0)
    (rest : Bytes) :
    copyOut (overlay stale (m ++ rest)) around offset n =
      (m.drop offset.toNat).take n := by
  rcases hCopies with hNone | ⟨hLow, hHigh⟩
  · exact absurd hNone hSome
  rcases overlay_of_fits hFits rest with ⟨tail, hOver⟩
  have hOffset : offset = (offset.toNat : Int) := by omega
  have hRoom : offset.toNat + n ≤ (m ++ tail).length := by
    rw [List.length_append]
    omega
  rw [hOver, hOffset, copyOut_eq hRoom,
    List.drop_append_of_le_length (by omega),
    List.take_append_of_le_length
      (by rw [List.length_drop]; omega)]
  rfl

/- A copy within the packet is a part of its payload. -/
theorem streamPayload_take
    {m : Bytes}
    {n : Nat}
    (hShort : n ≤ recvlen (UnixMsgHeader.decode m))
    (hLow : 0 ≤ (UnixMsgHeader.decode m).offset)
    (hHigh : (UnixMsgHeader.decode m).offset + n ≤ m.length) :
    n ≤ (streamPayload m).length ∧
      (streamPayload m).take n =
        (m.drop (UnixMsgHeader.decode m).offset.toNat).take
          n := by
  unfold streamPayload
  constructor
  · rw [List.length_take, List.length_drop]
    omega
  · rw [List.take_take, Nat.min_eq_left hShort]

/- Messages that are passed over come before the packet. -/
theorem Filtered.prepend
    {secret : UnixMsgSecret}
    {peeking : Bool}
    {front arrived left : List Bytes}
    {n : Int}
    {data : Bytes}
    (hFront : ∀ e ∈ front, ¬ IsOurs secret e)
    (hFiltered : Filtered secret peeking arrived left n data) :
    Filtered secret peeking (front ++ arrived) left n data := by
  rcases hFiltered with ⟨earlier, m, later, hSplit, hFrom⟩
  refine ⟨front ++ earlier, m, later, ?_, ?_⟩
  · rw [hSplit, List.append_assoc]
  · constructor
    · intro e hE
      rcases List.mem_append.mp hE with hE | hE
      · exact hFront e hE
      · exact hFrom.rejected e hE
    · exact hFrom.ours
    · exact hFrom.consumed
    · exact hFrom.offset
    · exact hFrom.count
    · exact hFrom.data

theorem Takes.filtered
    {secret : UnixMsgSecret}
    {peek peeking : Bool}
    {queue ms left rest final : List Bytes}
    {n : Int}
    {data : Bytes}
    (hTakes : Takes queue peek ms left)
    (hOthers : ∀ m ∈ ms, IsOurs secret m → peek = true)
    (hFiltered : Filtered secret peeking (left ++ rest) final n
      data) :
    Filtered secret peeking (queue ++ rest) final n data := by
  cases hTakes with
  | looks => exact hFiltered
  | @takes dropped _ _ hEmpty hFull hSplit =>
      have hAll : queue ++ rest =
          (dropped ++ ms) ++ (left ++ rest) := by
        rw [hSplit]
        simp only [List.append_assoc]
      rw [hAll]
      apply hFiltered.prepend
      intro e hE hOurs
      rcases List.mem_append.mp hE with hE | hE
      · rw [hEmpty e hE] at hOurs
        exact not_isOurs_nil secret hOurs
      · exact absurd (hOthers e hE hOurs) Bool.false_ne_true

/- The first message of a read, and where it was queued. -/
theorem Takes.first
    {peek : Bool}
    {queue left more : List Bytes}
    {m : Bytes}
    (hTakes : Takes queue peek (m :: more) left)
    (secret : UnixMsgSecret) :
    ∃ earlier later, queue = earlier ++ m :: later ∧
      (∀ e ∈ earlier, ¬ IsOurs secret e) ∧
      (left <:+ later ∨ peek = true ∧ left = m :: later) := by
  generalize hMs : m :: more = ms at hTakes
  cases hTakes with
  | looks =>
      cases hQueue : queue with
      | nil =>
          rw [hQueue] at hMs
          cases hMs
      | cons m' later =>
          rw [hQueue] at hMs
          cases hMs
          exact ⟨[], later, rfl, by simp, .inr ⟨rfl, rfl⟩⟩
  | @takes dropped _ _ hEmpty hFull hSplit =>
      subst hMs
      refine ⟨dropped, more ++ left, ?_, ?_, ?_⟩
      · rw [hSplit, List.cons_append]
      · intro e hE hOurs
        rw [hEmpty e hE] at hOurs
        exact not_isOurs_nil secret hOurs
      · exact .inl (List.suffix_append more left)

/- A packet of the connection that is copied as it should. -/
theorem filtered_copy
    {accepted : Bool}
    {secret : UnixMsgSecret}
    {peek peeking : Bool}
    {len n : Nat}
    {offset : Int}
    {queue left more : List Bytes}
    {m stale : Bytes}
    {around : Int → UInt8}
    (hPeek : peek = true → peeking = true)
    (hTakes : Takes queue peek (m :: more) left)
    (hVerdict : bufferVerdict accepted secret len
      (overlay stale (m :: more).flatten) = .copy offset n)
    (hOurs : IsOurs secret m)
    (hFits : m.length ≤ stale.length)
    (hCopies : (Verdict.copy offset n).CopiesWithin m.length)
    (hSome : n ≠ 0) :
    Filtered secret peeking queue left n
      (copyOut (overlay stale (m :: more).flatten) around offset
        n) := by
  rcases hTakes.first secret with
    ⟨earlier, later, hSplit, hEarlier, hLeft⟩
  rcases overlay_of_fits hFits more.flatten with ⟨tail, hOver⟩
  unfold bufferVerdict at hVerdict
  rw [List.flatten_cons, hOver,
    UnixMsgHeader.decode_append hOurs.1] at hVerdict
  rcases streamVerdict_copy hVerdict with
    ⟨-, hOffset, hLength⟩
  rw [hOffset] at hCopies ⊢
  rcases hCopies with hNone | ⟨hLow, hHigh⟩
  · exact absurd hNone hSome
  have hShort : n ≤ recvlen (UnixMsgHeader.decode m) := by
    rw [hLength]
    exact Nat.min_le_right len _
  have hPayload := streamPayload_take hShort hLow hHigh
  refine ⟨earlier, m, later, hSplit, hEarlier, hOurs, ?_, hLow,
    ?_, ?_⟩
  · rcases hLeft with hLeft | ⟨hIs, hLeft⟩
    · exact .inl hLeft
    · exact .inr ⟨hPeek hIs, hLeft⟩
  · exact_mod_cast hPayload.1
  · rw [Int.toNat_natCast, hPayload.2, List.flatten_cons]
    exact copyOut_first hFits (.inr ⟨hLow, hHigh⟩) hSome _

------------------------------------------------------------
-- Whole Messages
------------------------------------------------------------

/- A message of no bytes, or one that the library sends. -/
def IsWhole (m : Bytes) : Prop :=
  m = [] ∨ headerSize ≤ m.length ∧ m.length ≤ mailslotSendsize

/- There is one earliest packet of the connection. -/
theorem earliest_unique
    {secret : UnixMsgSecret}
    {before before' after after' : List Bytes}
    {m m' : Bytes}
    (hSplit : before ++ m :: after = before' ++ m' :: after')
    (hBefore : ∀ e ∈ before, ¬ IsOurs secret e)
    (hBefore' : ∀ e ∈ before', ¬ IsOurs secret e)
    (hOurs : IsOurs secret m)
    (hOurs' : IsOurs secret m') :
    m = m' := by
  rcases List.append_eq_append_iff.mp hSplit with
    ⟨more, hMore, hRest⟩ | ⟨more, hMore, hRest⟩
  · cases more with
    | nil =>
        cases hRest
        rfl
    | cons e more =>
        cases hRest
        exact absurd hOurs (hBefore' m (by simp [hMore]))
  · cases more with
    | nil =>
        cases hRest
        rfl
    | cons e more =>
        cases hRest
        exact absurd hOurs' (hBefore m' (by simp [hMore]))

/- The packet is behind what was passed over. -/
theorem Filtered.behind
    {secret : UnixMsgSecret}
    {peeking : Bool}
    {front arrived left : List Bytes}
    {n : Int}
    {data : Bytes}
    (hFront : ∀ e ∈ front, ¬ IsOurs secret e)
    (hFiltered : Filtered secret peeking (front ++ arrived) left
      n data) :
    Filtered secret peeking arrived left n data := by
  rcases hFiltered with ⟨earlier, m, later, hSplit, hFrom⟩
  rcases List.append_eq_append_iff.mp hSplit with
    ⟨more, hMore, hRest⟩ | ⟨more, hMore, hRest⟩
  · refine ⟨more, m, later, hRest, ?_⟩
    constructor
    · intro e hE
      apply hFrom.rejected e
      rw [hMore]
      exact List.mem_append_right front hE
    · exact hFrom.ours
    · exact hFrom.consumed
    · exact hFrom.offset
    · exact hFrom.count
    · exact hFrom.data
  · cases more with
    | nil => exact ⟨[], m, later, hRest.symm, by simp,
        hFrom.ours, hFrom.consumed, hFrom.offset, hFrom.count,
        hFrom.data⟩
    | cons e more =>
        cases hRest
        exact absurd hFrom.ours (hFront m (by simp [hMore]))

theorem Takes.behind
    {secret : UnixMsgSecret}
    {peek peeking : Bool}
    {queue ms left final : List Bytes}
    {n : Int}
    {data : Bytes}
    (hTakes : Takes queue peek ms left)
    (hOthers : ∀ m ∈ ms, IsOurs secret m → peek = true)
    (hFiltered : Filtered secret peeking queue final n data) :
    Filtered secret peeking left final n data := by
  cases hTakes with
  | looks => exact hFiltered
  | @takes dropped _ _ hEmpty hFull hSplit =>
      rw [hSplit, ← List.append_assoc] at hFiltered
      apply hFiltered.behind
      intro e hE hOurs
      rcases List.mem_append.mp hE with hE | hE
      · rw [hEmpty e hE] at hOurs
        exact not_isOurs_nil secret hOurs
      · exact absurd (hOthers e hE hOurs) Bool.false_ne_true

/- A read of some bytes has them from its first message. -/
theorem Takes.head
    {peek : Bool}
    {queue ms left : List Bytes}
    (hTakes : Takes queue peek ms left)
    (hSome : ms.flatten ≠ []) :
    ∃ m more, ms = m :: more ∧ m ≠ [] ∧ m ∈ queue := by
  cases hTakes with
  | looks =>
      cases hQueue : queue with
      | nil =>
          rw [hQueue] at hSome
          exact absurd rfl hSome
      | cons m rest =>
          rw [hQueue] at hSome
          refine ⟨m, [], rfl, ?_, List.mem_cons_self⟩
          rintro rfl
          exact hSome rfl
  | @takes dropped _ _ hEmpty hFull hSplit =>
      cases ms with
      | nil => exact absurd rfl hSome
      | cons m more =>
          refine ⟨m, more, rfl,
            hFull m List.mem_cons_self, ?_⟩
          rw [hSplit]
          simp

/- What is left was queued. -/
theorem Takes.mem_of_left
    {peek : Bool}
    {queue ms left : List Bytes}
    {m : Bytes}
    (hTakes : Takes queue peek ms left)
    (hMem : m ∈ left) :
    m ∈ queue := by
  cases hTakes with
  | looks => exact hMem
  | takes _ _ hSplit =>
      rw [hSplit]
      simp [hMem]

/- Empty messages are of no connection. -/
theorem not_isOurs_of_flatten
    {secret : UnixMsgSecret}
    {ms : List Bytes}
    (hEmpty : ms.flatten = [])
    {m : Bytes}
    (hMem : m ∈ ms) :
    ¬ IsOurs secret m := by
  rw [List.flatten_eq_nil_iff.mp hEmpty m hMem]
  exact not_isOurs_nil secret

/- A peek at a packet reads its bytes. -/
theorem Takes.flatten_ne_nil
    {queue ms left later : List Bytes}
    {m : Bytes}
    (hTakes : Takes queue true ms left)
    (hLeft : left = m :: later)
    (hSome : m ≠ []) :
    ms.flatten ≠ [] := by
  cases hTakes with
  | looks =>
      rw [hLeft]
      simpa using hSome

theorem streamPayload_length_le (m : Bytes) :
    (streamPayload m).length ≤
      recvlen (UnixMsgHeader.decode m) ∧
    (streamPayload m).length ≤ m.length -
      (UnixMsgHeader.decode m).offset.toNat := by
  unfold streamPayload
  rw [List.length_take, List.length_drop]
  omega

/- What the payload holds lies within the message. -/
theorem copiesWithin_of_count
    {offset : Int}
    {n length total : Nat}
    (hLow : 0 ≤ offset)
    (hCount : (n : Int) ≤ length)
    (hLong : length ≤ total - offset.toNat) :
    (Verdict.copy offset n).CopiesWithin total := by
  have hEnd : n = 0 ∨ offset + n ≤ total := by omega
  rcases hEnd with hNone | hEnd
  · exact .inl hNone
  · exact .inr ⟨hLow, hEnd⟩

/- A whole message that is copied is of the connection. -/
theorem isOurs_of_copy
    {accepted : Bool}
    {secret : UnixMsgSecret}
    {len n : Nat}
    {offset : Int}
    {m stale : Bytes}
    (hWhole : IsWhole m)
    (hSome : m ≠ [])
    (hRoom : stale.length = mailslotSendsize)
    (rest : Bytes)
    (hVerdict : bufferVerdict accepted secret len
      (overlay stale (m ++ rest)) = .copy offset n) :
    IsOurs secret m ∧
      offset = (UnixMsgHeader.decode m).offset ∧
      n = min len (recvlen (UnixMsgHeader.decode m)) := by
  rcases hWhole with hNone | ⟨hHeader, hFits⟩
  · exact absurd hNone hSome
  rw [← hRoom] at hFits
  rcases overlay_of_fits hFits rest with ⟨tail, hOver⟩
  unfold bufferVerdict at hVerdict
  rw [hOver, UnixMsgHeader.decode_append hHeader] at hVerdict
  rcases streamVerdict_copy hVerdict with
    ⟨hData, hOffset, hLength⟩
  exact ⟨⟨hHeader, hData⟩, hOffset, hLength⟩

/- Then the count that it gives is of that packet. -/
theorem Takes.filtered_head
    {secret : UnixMsgSecret}
    {peek peeking : Bool}
    {queue left more final : List Bytes}
    {m : Bytes}
    {n : Int}
    {data : Bytes}
    (hTakes : Takes queue peek (m :: more) left)
    (hOurs : IsOurs secret m)
    (hFiltered : Filtered secret peeking queue final n data) :
    0 ≤ (UnixMsgHeader.decode m).offset ∧
      n ≤ (streamPayload m).length := by
  rcases hFiltered with ⟨earlier, m', later, hSplit, hFrom⟩
  rcases hTakes.first secret with
    ⟨earlier', later', hSplit', hEarlier, -⟩
  have hSame := earliest_unique (hSplit.symm.trans hSplit')
    hFrom.rejected hEarlier hFrom.ours hOurs
  rw [← hSame]
  exact ⟨hFrom.offset, hFrom.count⟩

/- If nothing was taken, the call peeked at the packet. -/
theorem Filtered.untouched
    {secret : UnixMsgSecret}
    {peeking : Bool}
    {queue : List Bytes}
    {n : Int}
    {data : Bytes}
    (hFiltered : Filtered secret peeking queue queue n data) :
    peeking = true ∧ ∃ m later, queue = m :: later ∧
      IsOurs secret m := by
  rcases hFiltered with ⟨earlier, m, later, hSplit, hFrom⟩
  rcases hFrom.consumed with hLeft | ⟨hPeek, hLeft⟩
  · have hShort := hLeft.length_le
    have hLong := congrArg List.length hSplit
    simp only [List.length_append, List.length_cons] at hLong
    omega
  · exact ⟨hPeek, m, later, hLeft, hFrom.ours⟩

/- A count comes with that many bytes. -/
theorem Filtered.length
    {secret : UnixMsgSecret}
    {peeking : Bool}
    {arrived left : List Bytes}
    {n : Int}
    {data : Bytes}
    (hFiltered : Filtered secret peeking arrived left n data) :
    data.length = n.toNat := by
  rcases hFiltered with ⟨_, m, _, -, hFrom⟩
  have hCount := hFrom.count
  rw [hFrom.data, List.length_take]
  omega

------------------------------------------------------------
-- The Loop
------------------------------------------------------------

section Loop

variable {env : RecvEnv} {p : Ptr} {len : Nat}
variable {peeking bad : Bool} {reads : List ReadEnv}
variable {lsd : LsckSocket} {usock : LsckSocketUnix}
variable {me : MailslotFsext} {handle : Bytes}
variable {s s' : Process} {n : Int} {data : Bytes}

/-
  A count comes from the right packet if the reads meet the
  condition, by induction over the reads.
-/
theorem recvLoop_filtered
    (hUnix : s.HasUnix p lsd usock)
    (hReads : s.ReadsMail usock.fdR me handle)
    (hIdle : me.peeking = false)
    (hRoom : s.recvBuf.length = mailslotSendsize)
    (hOurs : CountsOurs lsd.accepted usock.secret len usock.fdR
      peeking reads bad s)
    (hRun : recvLoop env p len peeking reads bad s =
      .ok ((n, data), s'))
    (hCount : 0 < n) :
    ∃ k, Filtered usock.secret peeking
      (s.arrived handle (reads.take k)) (s'.mail handle)
      n data := by
  induction reads generalizing bad usock s with
  | nil => cases hRun
  | cons r rs ih =>
      rcases recvLoop_round hUnix hReads hIdle hRun with
        hFailed | ⟨ms, left, t, hTakes, hRead, hStart, hRound⟩
      · cases hFailed
        cases hCount
      have hHere := hOurs ms _ hRead
      have hLonger : ∀ k,
          s.arrived handle ((r :: rs).take (k + 1)) =
            (s.mail handle ++ r.arrivals) ++
              (rs.take k).flatMap ReadEnv.arrivals := by
        intro k
        simp [Process.arrived]
      have hRoom' := hStart.room.trans hRoom
      cases hRound with
      | closed => cases hCount
      | reread hVerdict hEmpty hNext =>
          rw [hVerdict] at hHere
          rcases ih hStart.unix hStart.files hRoom' hHere.2
            hNext with ⟨k, hFiltered⟩
          refine ⟨k + 1, ?_⟩
          rw [hLonger]
          unfold Process.arrived at hFiltered
          rw [hStart.mail] at hFiltered
          apply hTakes.filtered _ hFiltered
          intro m hM hIs
          have hNil := List.flatten_eq_nil_iff.mp hEmpty m hM
          rw [hNil] at hIs
          exact absurd hIs (not_isOurs_nil _)
      | rejected hVerdict hSome =>
          rw [hVerdict] at hHere
          exact absurd hHere.1 hSome
      | passed hVerdict hAfter hSame hMail₁ hBuffer hNext =>
          rw [hVerdict] at hHere
          simp only [RoundOurs, if_true] at hHere
          have hOurs' := hHere.2.congr hSame hBuffer
          have hFiles' := hStart.files.of_fds hSame.entry.symm
          rw [← hBuffer] at hRoom'
          rcases ih hAfter hFiles' hRoom' hOurs' hNext with
            ⟨k, hFiltered⟩
          refine ⟨k + 1, ?_⟩
          rw [hLonger]
          unfold Process.arrived at hFiltered
          rw [hMail₁, hStart.mail] at hFiltered
          exact hTakes.filtered hHere.1 hFiltered
      | @copied offset n' _ hVerdict hSome hMail' =>
          rw [hVerdict] at hHere
          simp only [RoundOurs, if_neg hSome] at hHere
          rcases hHere with
            ⟨m, more, rfl, hIs, hFits, hCopies⟩
          refine ⟨1, ?_⟩
          rw [hLonger, List.take_zero, List.flatMap_nil,
            List.append_nil, hMail', hStart.mail]
          have hPeek : (!bad && peeking) = true →
              peeking = true := by
            simp
          rw [← hRoom] at hFits
          rw [hStart.buffer] at hVerdict ⊢
          exact filtered_copy hPeek hTakes hVerdict hIs hFits
            hCopies hSome

/- No more bytes are stored than were asked for. -/
theorem recvLoop_length_le
    (hUnix : s.HasUnix p lsd usock)
    (hReads : s.ReadsMail usock.fdR me handle)
    (hIdle : me.peeking = false)
    (hRun : recvLoop env p len peeking reads bad s =
      .ok ((n, data), s')) :
    data.length ≤ len := by
  induction reads generalizing bad usock s with
  | nil => cases hRun
  | cons r rs ih =>
      rcases recvLoop_round hUnix hReads hIdle hRun with
        hFailed | ⟨ms, left, t, -, -, hStart, hRound⟩
      · cases hFailed
        exact Nat.zero_le len
      cases hRound with
      | closed => exact Nat.zero_le len
      | reread _ _ hNext =>
          exact ih hStart.unix hStart.files hNext
      | rejected => exact Nat.zero_le len
      | passed _ hAfter hSame _ _ hNext =>
          exact ih hAfter (hStart.files.of_fds hSame.entry.symm)
            hNext
      | copied hVerdict =>
          rw [copyOut, List.length_map, List.length_range]
          exact streamVerdict_le hVerdict

/-
  If no message is cut short and none arrives during the
  call, then the condition is also necessary.
-/
theorem recvLoop_countsOurs
    (hUnix : s.HasUnix p lsd usock)
    (hReads : s.ReadsMail usock.fdR me handle)
    (hIdle : me.peeking = false)
    (hRoom : s.recvBuf.length = mailslotSendsize)
    (hStill : ∀ r ∈ reads, r.arrivals = [])
    (hWhole : ∀ m ∈ s.mail handle, IsWhole m)
    (hBad : bad = true → bufferVerdict lsd.accepted usock.secret
      len s.recvBuf = .reject)
    (hRun : recvLoop env p len peeking reads bad s =
      .ok ((n, data), s'))
    (hCount : 0 < n)
    (hFiltered : Filtered usock.secret peeking (s.mail handle)
      (s'.mail handle) n data) :
    CountsOurs lsd.accepted usock.secret len usock.fdR peeking
      reads bad s := by
  induction reads generalizing bad usock s with
  | nil => trivial
  | cons r rs ih =>
      intro ms t hGiven
      rcases recvLoop_round hUnix hReads hIdle hRun with
        hFailed | ⟨ms', left, t', hTakes, hRead, hStart, hRound⟩
      · cases hFailed
        cases hCount
      cases hRead.symm.trans hGiven
      have hRoom' := hStart.room.trans hRoom
      have hStill' : ∀ r ∈ rs, r.arrivals = [] := by
        intro r' hR
        exact hStill r' (List.mem_cons_of_mem r hR)
      have hLength := hFiltered.length
      have hLe := recvLoop_length_le hUnix hReads hIdle hRun
      rw [hStill r List.mem_cons_self, List.append_nil]
        at hTakes
      have hWhole' : ∀ m ∈ (t.received ms).mail handle,
          IsWhole m := by
        rw [hStart.mail]
        intro m hM
        exact hWhole m (hTakes.mem_of_left hM)
      cases hRound with
      | closed => cases hCount
      | reread hVerdict hEmpty hNext =>
          have hBehind := hTakes.behind
            (fun m hM hIs => absurd hIs
              (not_isOurs_of_flatten hEmpty hM)) hFiltered
          rw [hVerdict]
          rw [← hStart.mail] at hBehind
          exact ⟨hEmpty, ih hStart.unix hStart.files hRoom'
            hStill' hWhole' (fun _ => hVerdict) hNext hBehind⟩
      | rejected hVerdict hSome =>
          rw [List.length_nil] at hLength
          omega
      | passed hVerdict hAfter hSame hMail₁ hBuffer hNext =>
          have hCopy := hVerdict
          rw [hStart.buffer] at hCopy
          -- A packet of no length would be the earliest one.
          have hOthers : ∀ m ∈ ms, IsOurs usock.secret m →
              (!bad && peeking) = true := by
            intro m' hM hIs
            exfalso
            have hSome : ms.flatten ≠ [] := by
              intro hEmpty
              exact not_isOurs_of_flatten hEmpty hM hIs
            rcases hTakes.head hSome with
              ⟨m, more, rfl, hBytes, hMem⟩
            rcases isOurs_of_copy (hWhole m hMem) hBytes hRoom
              more.flatten hCopy with ⟨hOurs, -, hZero⟩
            have hHead := (hTakes.filtered_head hOurs
              hFiltered).2
            have hShort := (streamPayload_length_le m).1
            omega
          have hBehind := hTakes.behind hOthers hFiltered
          rw [← hStart.mail, ← hMail₁] at hBehind
          rw [← hBuffer] at hRoom'
          rw [← hMail₁] at hWhole'
          have hMore := ih hAfter
            (hStart.files.of_fds hSame.entry.symm) hRoom' hStill'
            hWhole' (fun hFalse => absurd hFalse
              Bool.false_ne_true) hNext hBehind
          rw [hVerdict]
          simp only [RoundOurs, if_true]
          exact ⟨hOthers, hMore.congr hSame.symm hBuffer.symm⟩
      | @copied offset n' _ hVerdict hSome hMail' =>
          rw [hMail', hStart.mail] at hFiltered
          have hCopy := hVerdict
          rw [hStart.buffer] at hCopy
          by_cases hEmpty : ms.flatten = []
          · exfalso
            have hBehind := hTakes.behind
              (fun m hM hIs => absurd hIs
                (not_isOurs_of_flatten hEmpty hM)) hFiltered
            rcases hBehind.untouched with
              ⟨hPeek, m, later, hLeft, hOurs⟩
            cases bad with
            | true =>
                have hReject := hBad rfl
                have hKeep : overlay s.recvBuf [] =
                    s.recvBuf := by
                  simp [overlay]
                rw [hEmpty, hKeep, hReject] at hCopy
                cases hCopy
            | false =>
                rw [hPeek] at hTakes
                apply hTakes.flatten_ne_nil hLeft _ hEmpty
                rintro rfl
                exact not_isOurs_nil _ hOurs
          · rcases hTakes.head hEmpty with
              ⟨m, more, rfl, hBytes, hMem⟩
            rcases isOurs_of_copy (hWhole m hMem) hBytes hRoom
              more.flatten hCopy with
              ⟨hOurs, hOffset, hShort⟩
            have hHead := hTakes.filtered_head hOurs hFiltered
            rw [← hOffset] at hHead
            have hLong := (streamPayload_length_le m).2
            rw [← hOffset] at hLong
            have hCopies := copiesWithin_of_count hHead.1 hHead.2
              hLong
            rw [hVerdict]
            simp only [RoundOurs, if_neg hSome]
            refine ⟨m, more, rfl, hOurs, ?_, hCopies⟩
            rcases hWhole m hMem with hNone | hWhole
            · exact absurd hNone hBytes
            · exact hWhole.2

end Loop

/-
  A count that a receive on a stream returns is of the
  earliest packet of the connection if all that the call
  reads meets the condition. On a queue of whole messages
  that nothing is added to, it is of that packet only then.
-/
theorem filtered_iff
    {env : RecvEnv}
    {p : Ptr}
    {len flags : Nat}
    {lsd : LsckSocket}
    {usock : LsckSocketUnix}
    {me : MailslotFsext}
    {handle : Bytes}
    {s s' : Process}
    {n : Int}
    {data : Bytes}
    (hUnix : s.HasUnix p lsd usock)
    (hReads : s.ReadsMail usock.fdR me handle)
    (hIdle : me.peeking = false)
    (hRoom : s.recvBuf.length = mailslotSendsize)
    (hRun : unixRecvStream env p len flags s =
      .ok ((n, data), s'))
    (hCount : 0 < n) :
    (CountsOurs lsd.accepted usock.secret len usock.fdR
        (flags &&& msgPeek == msgPeek) env.reads false s →
      ∃ k, Filtered usock.secret (flags &&& msgPeek == msgPeek)
        (s.arrived handle (env.reads.take k)) (s'.mail handle)
        n data) ∧
    ((∀ r ∈ env.reads, r.arrivals = []) →
      (∀ m ∈ s.mail handle, IsWhole m) →
      (Filtered usock.secret (flags &&& msgPeek == msgPeek)
          (s.mail handle) (s'.mail handle) n data ↔
        CountsOurs lsd.accepted usock.secret len usock.fdR
          (flags &&& msgPeek == msgPeek) env.reads false s)) := by
  have hIf := fun hOurs => recvLoop_filtered hUnix hReads hIdle
    hRoom hOurs hRun hCount
  refine ⟨hIf, ?_⟩
  intro hStill hWhole
  constructor
  · exact recvLoop_countsOurs hUnix hReads hIdle hRoom hStill
      hWhole (fun hFalse => absurd hFalse Bool.false_ne_true)
      hRun hCount
  · intro hOurs
    rcases hIf hOurs with ⟨k, hFiltered⟩
    have hNone : (env.reads.take k).flatMap ReadEnv.arrivals =
        [] := by
      rw [List.flatMap_eq_nil_iff]
      exact fun r hR => hStill r (List.mem_of_mem_take hR)
    rw [Process.arrived, hNone, List.append_nil] at hFiltered
    exact hFiltered

------------------------------------------------------------
-- Two Queues
------------------------------------------------------------

/- A receiving stream, with one packet in its mailslot. -/
def streamHolding (packet : Bytes) : Process :=
  streamReceiver.setMail (bytes "\\mailslot\\me") [packet]

theorem streamHolding_readsMail (packet : Bytes) :
    (streamHolding packet).ReadsMail 4
      ⟨some (bytes "\\mailslot\\me"), none, false, false⟩
      (bytes "\\mailslot\\me") :=
  ⟨rfl, rfl, rfl⟩

theorem streamHolding_hasUnix (packet : Bytes) :
    (streamHolding packet).HasUnix 10
      { namedSocket with type := sockStream }
      { LsckSocketUnix.cleared with
        secret := ⟨7, 1⟩
        fdW := -1
        fdR := 4 } :=
  streamReceiver_hasUnix.of_heap rfl

theorem streamHolding_recvBuf (packet : Bytes) :
    (streamHolding packet).recvBuf =
      List.replicate mailslotSendsize 0 := rfl

/- A read that nothing arrives for. -/
def RecvEnv.quiet : RecvEnv :=
  ⟨[⟨[], false, .zero⟩], fun _ => 0, ⟨true, .zero⟩,
    fun _ => return 0, fun _ => return 0⟩

/- A packet of the connection is received as it should be. -/
theorem filtered_of_packet :
    ∃ s', unixRecvStream .quiet 10 2 0
        (streamHolding (packetOf ⟨7, 1⟩ 2 [97, 98])) =
          .ok ((2, [97, 98]), s') ∧
      ∃ k, Filtered ⟨7, 1⟩ false
        ((streamHolding (packetOf ⟨7, 1⟩ 2 [97, 98])).arrived
          (bytes "\\mailslot\\me") (RecvEnv.quiet.reads.take k))
        (s'.mail (bytes "\\mailslot\\me")) 2 [97, 98] := by
  have hRun : ∃ s', unixRecvStream .quiet 10 2 0
      (streamHolding (packetOf ⟨7, 1⟩ 2 [97, 98])) =
        .ok ((2, [97, 98]), s') :=
    exists_run_of_answer (by decide +kernel)
  rcases hRun with ⟨s', hRun⟩
  refine ⟨s', hRun, ?_⟩
  apply (filtered_iff (streamHolding_hasUnix _)
    (streamHolding_readsMail _) rfl List.length_replicate hRun
    (by decide)).1
  intro ms t hRead
  have hTaken : ∃ u, readPacket ⟨[], false, .zero⟩ false 4
      (streamHolding (packetOf ⟨7, 1⟩ 2 [97, 98])) =
        .ok (some [packetOf ⟨7, 1⟩ 2 [97, 98]], u) :=
    exists_run_of_answer (by decide +kernel)
  rcases hTaken with ⟨u, hTaken⟩
  have hBuffer :=
    (memory_readPacket _ _ _ _ _ _ hRead).recvBuf
  cases hTaken.symm.trans hRead
  have hVerdict : bufferVerdict false ⟨7, 1⟩ 2
      (overlay (List.replicate mailslotSendsize 0)
        [packetOf ⟨7, 1⟩ 2 [97, 98]].flatten) =
          .copy 20 2 := by decide +kernel
  rw [Process.received, hBuffer, streamHolding_recvBuf]
  change RoundOurs _ _ _ _ (bufferVerdict false ⟨7, 1⟩ 2 _)
  rw [hVerdict]
  refine ⟨_, [], rfl, ?_, ?_, ?_⟩
  · decide +kernel
  · decide +kernel
  · exact .inr ⟨by decide, by decide +kernel⟩

/- A packet of another connection is reported as 22 bytes. -/
theorem foreign_packet_counted :
    ¬ ∀ (env : RecvEnv) (p : Ptr) (len flags : Nat)
        (lsd : LsckSocket) (usock : LsckSocketUnix)
        (me : MailslotFsext) (handle : Bytes) (s s' : Process)
        (n : Int) (data : Bytes),
      s.HasUnix p lsd usock →
      s.ReadsMail usock.fdR me handle →
      me.peeking = false →
      s.recvBuf.length = mailslotSendsize →
      unixRecvStream env p len flags s = .ok ((n, data), s') →
      0 < n →
      ∃ k, Filtered usock.secret (flags &&& msgPeek == msgPeek)
        (s.arrived handle (env.reads.take k)) (s'.mail handle)
        n data := by
  intro hAlways
  have hRun : ∃ s', unixRecvStream .quiet 10 2 0
      (streamHolding (packetOf ⟨8, 1⟩ 2 [97, 98])) =
        .ok ((22, []), s') :=
    exists_run_of_answer (by decide +kernel)
  rcases hRun with ⟨s', hRun⟩
  rcases hAlways .quiet 10 2 0 _ _ _ _ _ s' 22 []
    (streamHolding_hasUnix _)
    (streamHolding_readsMail _) rfl List.length_replicate hRun
    (by decide) with ⟨k, hFiltered⟩
  have hLength := hFiltered.length
  exact absurd hLength (by decide)

end Libsocket
