import Libsocket.Unix.Filtering

/-
  What a peek on a stream leaves behind.

  The loop peeks at every message but the one behind a
  rejected packet of no bytes, and it counts the bytes of a
  data packet in `seq_r` whether it has peeked or not.

  Main declarations:
    * `seqAfter`
    * `Answer`, `AtAnswer`
    * `PeekKeeps`, `PeekHarmless`
    * `peek_keeps_iff`
-/

namespace Libsocket

open Command

------------------------------------------------------------
-- Sequence Numbers
------------------------------------------------------------

/- What a data packet makes of `seq_r`. -/
def seqAfter (seqR : Int) (header : UnixMsgHeader) : Int :=
  if header.type &&& unixMsgDgramBit = 0 then
    modMaxintUnsigned (seqR + recvlen header)
  else
    seqR

/- A packet with the datagram bit counts for nothing. -/
theorem seqAfter_dgram
    {seqR : Int}
    {header : UnixMsgHeader}
    (hDgram : header.type &&& unixMsgDgramBit ≠ 0) :
    seqAfter seqR header = seqR :=
  if_neg hDgram

/-
  Any other packet counts, unless its length is a multiple of
  the modulus.
-/
theorem seqAfter_eq_iff
    {seqR : Int}
    {header : UnixMsgHeader}
    (hStream : header.type &&& unixMsgDgramBit = 0)
    (hLow : 0 ≤ seqR)
    (hHigh : seqR < maxInt)
    (hFits : seqR + recvlen header < 4294967296) :
    seqAfter seqR header = seqR ↔
      (maxInt : Int) ∣ recvlen header := by
  unfold seqAfter modMaxintUnsigned
  rw [if_pos hStream, Word.unsigned_of_range (by omega) hFits]
  unfold maxInt at hHigh ⊢
  omega

/- One packet's part of the loop. -/
theorem gotPacket_ok
    {p : Ptr}
    {lsd : LsckSocket}
    {usock : LsckSocketUnix}
    {header : UnixMsgHeader}
    {s s' : Process}
    {u : Unit}
    (hUnix : s.HasUnix p lsd usock)
    (hRun : notePacket lsd.idata header s = .ok (u, s')) :
    s'.HasUnix p lsd { usock with
        seqR := seqAfter usock.seqR header } ∧
      s'.fds = s.fds ∧ s'.mail = s.mail ∧
      s'.recvBuf = s.recvBuf := by
  unfold notePacket when at hRun
  split at hRun
  next hStream =>
      rcases modifyUnix_hasUnix hUnix hRun with
        ⟨hAfter, hFds, hMail, -, hBuffer⟩
      refine ⟨?_, hFds, hMail, hBuffer⟩
      unfold seqAfter
      rw [if_pos hStream]
      exact hAfter
  next hDgram =>
      cases hRun
      rw [seqAfter_dgram hDgram]
      exact ⟨hUnix, rfl, rfl, rfl⟩

/- It does not fail on a Unix socket. -/
theorem gotPacket_run
    {p : Ptr}
    {lsd : LsckSocket}
    {usock : LsckSocketUnix}
    {header : UnixMsgHeader}
    {s : Process}
    (hUnix : s.HasUnix p lsd usock) :
    ∃ s', notePacket lsd.idata header s = .ok ((), s') := by
  rcases hUnix with ⟨hSocket, q, hQ, hData⟩
  unfold notePacket when
  split
  · rw [hQ]
    exact ⟨_, modifyUnix_run hData _⟩
  · exact ⟨s, rfl⟩

------------------------------------------------------------
-- Answers
------------------------------------------------------------

/-
  The read that an answer comes from: whether it was a peek,
  the headers of the data packets that were passed over
  before, the one of the data packet that is reported, the
  queue before the read, and what it has taken.
-/
structure Answer where
  peeked : Bool
  passed : List UnixMsgHeader
  reported : Option UnixMsgHeader
  queue : List Bytes
  taken : List Bytes

/- All data packets that the call has met. -/
def Answer.met (a : Answer) : List UnixMsgHeader :=
  a.passed ++ a.reported.toList

/-
  What the loop does next with what is in the packet buffer:
  it ends without an answer, reads again, or answers.
-/
def AfterRead
    (lsd : LsckSocket)
    (ms : List Bytes)
    (s : Process)
    (next : Bool → List UnixMsgHeader → Process → Prop)
    (answers : Option UnixMsgHeader → Prop) :
    Verdict → Prop
| .close => True
| .reject =>
    if ms.flatten = [] then next true [] s else answers none
| .copy _ n =>
    let header := UnixMsgHeader.decode s.recvBuf
    if n = 0 then
      ∀ u, when (header.type &&& unixMsgDgramBit = 0)
        (modifyUnix lsd.idata fun usock =>
          { usock with
            seqR := modMaxintUnsigned
              (usock.seqR + recvlen header) }) s =
          .ok ((), u) →
        next false [header] u
    else
      answers (some header)

/-
  What holds of the read that the answer of a peek comes
  from, if it has an answer.
-/
def AtAnswer
    (p : Ptr)
    (len : Nat)
    (handle : Bytes)
    (holds : Answer → Prop) :
    List ReadEnv → Bool → List UnixMsgHeader → Process → Prop
| [], _, _, _ => True
| r :: rs, bad, passed, s => ∀ lsd usock ms t,
    s.HasUnix p lsd usock →
    readPacket r (!bad) usock.fdR s = .ok (some ms, t) →
    AfterRead lsd ms (t.received ms)
      (fun bad more u => AtAnswer p len handle holds rs bad
        (passed ++ more) u)
      (fun reported => holds ⟨!bad, passed, reported,
        s.mail handle ++ r.arrivals, ms⟩)
      (bufferVerdict lsd.accepted usock.secret len
        (t.received ms).recvBuf)

/- How an answer and the state behind the call belong. -/
structure AnswersWith
    (env : RecvEnv)
    (p : Ptr)
    (len : Nat)
    (lsd : LsckSocket)
    (usock : LsckSocketUnix)
    (me : MailslotFsext)
    (handle : Bytes)
    (before : List UnixMsgHeader)
    (s' : Process)
    (n : Int)
    (data : Bytes)
    (a : Answer) : Prop where
  unix : ∃ more, a.met = before ++ more ∧
    s'.HasUnix p lsd { usock with
      seqR := more.foldl seqAfter usock.seqR }
  mode : s'.ReadsMail usock.fdR me handle
  takes : Takes a.queue a.peeked a.taken (s'.mail handle)
  buffer : ∃ b, s'.recvBuf = overlay b a.taken.flatten
  dumped : a.peeked = false → a.reported.isSome = true →
    a.taken.flatten ≠ []
  result :
    (a.reported = none ∧ a.taken.flatten ≠ [] ∧
      bufferVerdict lsd.accepted usock.secret len
        s'.recvBuf = .reject ∧
      n = a.taken.flatten.length ∧ data = []) ∨
    (a.reported = some (UnixMsgHeader.decode s'.recvBuf) ∧
      ∃ offset m, bufferVerdict lsd.accepted usock.secret len
        s'.recvBuf = .copy offset m ∧
      m ≠ 0 ∧ m < 2147483648 ∧ n = m ∧
      data = copyOut s'.recvBuf env.around offset m)

section Loop

variable {env : RecvEnv} {p : Ptr} {len : Nat} {bad : Bool}
variable {r : ReadEnv} {rs reads : List ReadEnv}
variable {lsd : LsckSocket} {usock : LsckSocketUnix}
variable {me : MailslotFsext} {handle : Bytes}
variable {passed : List UnixMsgHeader} {ms : List Bytes}
variable {s t s' : Process} {n : Int} {data : Bytes}
variable {holds : Answer → Prop}

/- One read of it, once it is known what the read takes. -/
theorem atAnswer_cons
    (hUnix : s.HasUnix p lsd usock)
    (hRead : readPacket r (!bad) usock.fdR s =
      .ok (some ms, t)) :
    AtAnswer p len handle holds (r :: rs) bad passed s ↔
      AfterRead lsd ms (t.received ms)
        (fun bad more u => AtAnswer p len handle holds rs bad
          (passed ++ more) u)
        (fun reported => holds ⟨!bad, passed, reported,
          s.mail handle ++ r.arrivals, ms⟩)
        (bufferVerdict lsd.accepted usock.secret len
          (t.received ms).recvBuf) := by
  constructor
  · intro hAt
    exact hAt lsd usock ms t hUnix hRead
  · intro hHere lsd' usock' ms' t' hUnix' hRead'
    rcases hUnix.unique hUnix' with ⟨rfl, rfl⟩
    cases hRead.symm.trans hRead'
    exact hHere

/-
  A peek that returns has an answer, by induction over the
  reads. Behind a rejected packet of no bytes the buffer is
  one that is rejected.
-/
theorem recvLoop_answers
    (hUnix : s.HasUnix p lsd usock)
    (hReads : s.ReadsMail usock.fdR me handle)
    (hIdle : me.peeking = false)
    (hBad : bad = true → bufferVerdict lsd.accepted usock.secret
      len s.recvBuf = .reject)
    (hRun : recvLoop env p len true reads bad s =
      .ok ((n, data), s'))
    (hSuccess : n ≠ -1) :
    ∃ a, AnswersWith env p len lsd usock me handle passed s' n
        data a ∧
      ∀ holds, AtAnswer p len handle holds reads bad passed s ↔
        holds a := by
  induction reads generalizing bad passed usock s with
  | nil => cases hRun
  | cons r rs ih =>
      rcases recvLoop_read hUnix hReads hIdle hRun with
        hFailed | ⟨ms, left, t, hTakes, hRead, hStart, hActs⟩
      · cases hFailed
        exact absurd rfl hSuccess
      rw [Bool.and_true] at hTakes hRead
      have hCons : ∀ holds, _ ↔ _ := fun holds =>
        @atAnswer_cons p len bad r rs lsd usock handle passed ms
          s _ holds hUnix hRead
      cases hVerdict : bufferVerdict lsd.accepted usock.secret
          len (t.received ms).recvBuf with
      | close =>
          rw [streamRound_close hVerdict] at hActs
          rcases bind_eq_ok.mp hActs with ⟨_, u, -, hReset⟩
          cases hReset
          exact absurd rfl hSuccess
      | reject =>
          by_cases hEmpty : ms.flatten = []
          · rw [streamRound_reread hVerdict hEmpty] at hActs
            rcases ih hStart.unix hStart.files
              (fun _ => hVerdict) hActs with ⟨a, hWith, hIff⟩
            refine ⟨a, hWith, fun holds => ?_⟩
            rw [hCons, hVerdict, AfterRead, if_pos hEmpty,
              List.append_nil]
            exact hIff holds
          · rw [streamRound_rejected hVerdict hEmpty] at hActs
            cases hActs
            refine ⟨⟨!bad, passed, none,
              s.mail handle ++ r.arrivals, ms⟩, ?_,
              fun holds => ?_⟩
            · constructor
              · exact ⟨[], rfl, hStart.unix⟩
              · exact hStart.files
              · rw [hStart.mail]
                exact hTakes
              · exact ⟨s.recvBuf, hStart.buffer⟩
              · intro _ hSome
                cases hSome
              · exact .inl ⟨rfl, hEmpty, hVerdict, rfl, rfl⟩
            · rw [hCons, hVerdict, AfterRead, if_neg hEmpty]
      | copy offset m =>
          rw [streamRound_copy hVerdict] at hActs
          rcases bind_eq_ok.mp hActs with ⟨_, u, hGot, hLast⟩
          rcases gotPacket_ok hStart.unix hGot with
            ⟨hAfter, hFds, hMailU, hBufferU⟩
          have hReadsU := hStart.files.of_fds (congrFun hFds _)
          by_cases hLong : 2147483648 ≤ m
          · rw [if_pos hLong] at hLast
            cases hLast
          rw [if_neg hLong] at hLast
          by_cases hNone : m = 0
          · rw [if_pos hNone] at hLast
            rcases @ih false _
              (passed ++ [UnixMsgHeader.decode
                (t.received ms).recvBuf]) u hAfter hReadsU
              (fun hIs => absurd hIs Bool.false_ne_true) hLast
              with ⟨a, hWith, hIff⟩
            refine ⟨a, ?_, fun holds => ?_⟩
            · rcases hWith.unix with ⟨more, hMet, hUnix'⟩
              have hMet' : a.met = passed ++
                  UnixMsgHeader.decode
                    (t.received ms).recvBuf :: more := by
                rw [hMet, List.append_assoc]
                rfl
              exact ⟨⟨_, hMet', hUnix'⟩, hWith.mode,
                hWith.takes, hWith.buffer, hWith.dumped,
                hWith.result⟩
            · rw [hCons, hVerdict, AfterRead,
                if_pos hNone]
              constructor
              · intro hNext
                exact (hIff holds).mp (hNext u hGot)
              · intro hHolds u' hGot'
                cases hGot.symm.trans hGot'
                exact (hIff holds).mpr hHolds
          · rw [if_neg hNone] at hLast
            cases hLast
            refine ⟨⟨!bad, passed,
              some (UnixMsgHeader.decode
                (t.received ms).recvBuf),
              s.mail handle ++ r.arrivals, ms⟩, ?_,
              fun holds => ?_⟩
            · constructor
              · exact ⟨[_], rfl, hAfter⟩
              · exact hReadsU
              · rw [hMailU, hStart.mail]
                exact hTakes
              · exact ⟨s.recvBuf, hBufferU.trans hStart.buffer⟩
              · intro hDumps _ hEmpty
                have hReject := hBad (by simpa using hDumps)
                have hSame : (t.received ms).recvBuf =
                    s.recvBuf := by
                  rw [hStart.buffer, hEmpty]
                  simp [overlay]
                rw [hSame, hReject] at hVerdict
                cases hVerdict
              · refine .inr ⟨by rw [hBufferU], offset, m, ?_,
                  hNone, by omega, rfl, by rw [hBufferU]⟩
                rw [hBufferU]
                exact hVerdict
            · rw [hCons, hVerdict, AfterRead,
                if_neg hNone]

end Loop

------------------------------------------------------------
-- Peeks
------------------------------------------------------------

/-
  A later receive that reads the message of an answer returns
  the same, and counts its data once.
-/
def ReceivedAgain
    (env : RecvEnv)
    (p : Ptr)
    (len : Nat)
    (lsd : LsckSocket)
    (usock : LsckSocketUnix)
    (s' : Process)
    (n : Int)
    (data : Bytes)
    (a : Answer) : Prop :=
  ∀ env' r rs ms t, env'.reads = r :: rs →
    env'.around = env.around →
    readPacket r false usock.fdR s' = .ok (some ms, t) →
    ms.flatten = a.taken.flatten →
    ∃ s'', unixRecvStream env' p len 0 s' =
        .ok ((n, data), s'') ∧
      s''.HasUnix p lsd { usock with
        seqR := a.reported.toList.foldl seqAfter usock.seqR }

/-
  A peek does not consume: the data of the socket and the
  mode of its mailslot are as they were, the data packet that
  is reported is still there, and a receive gets it again.
-/
structure PeekKeeps
    (env : RecvEnv)
    (p : Ptr)
    (len : Nat)
    (lsd : LsckSocket)
    (usock : LsckSocketUnix)
    (me : MailslotFsext)
    (handle : Bytes)
    (s s' : Process)
    (n : Int)
    (data : Bytes) : Prop where
  unix : s'.HasUnix p lsd usock
  mode : s'.ReadsMail usock.fdR me handle
  packet : AtAnswer p len handle
    (fun a => a.reported.isSome = true →
      s'.mail handle = a.queue) env.reads false [] s
  again : AtAnswer p len handle
    (ReceivedAgain env p len lsd usock s' n data)
    env.reads false [] s

/-
  The reported data packet was only looked at, and all data
  packets that the call has met leave `seq_r` as it was.
-/
def PeekHarmless
    (p : Ptr)
    (len : Nat)
    (handle : Bytes)
    (seqR : Int)
    (reads : List ReadEnv)
    (s : Process) : Prop :=
  AtAnswer p len handle
    (fun a => (a.reported.isSome = true → a.peeked = true) ∧
      a.met.foldl seqAfter seqR = seqR) reads false [] s

/- A peek takes nothing out of the queue. -/
theorem Takes.same_of_peek
    {queue ms left : List Bytes}
    (hTakes : Takes queue true ms left) :
    left = queue := by
  cases hTakes with
  | looks => rfl

/- A read that leaves all has taken nothing. -/
theorem Takes.eq_nil_of_same
    {queue ms : List Bytes}
    (hTakes : Takes queue false ms queue) :
    ms = [] := by
  cases hTakes with
  | @takes dropped _ _ _ _ hSplit =>
      have hLength := congrArg List.length hSplit
      rw [List.length_append, List.length_append] at hLength
      apply List.eq_nil_of_length_eq_zero
      omega

/- Storing the same bytes again changes nothing. -/
theorem overlay_overlay (buffer b : Bytes) :
    overlay (overlay buffer b) b = overlay buffer b := by
  have hTail : (overlay buffer b).drop b.length =
      buffer.drop b.length := by
    rcases Nat.le_total b.length buffer.length with
      hFits | hLong
    · unfold overlay
      rw [List.take_of_length_le hFits,
        List.drop_left]
    · rw [List.drop_eq_nil_of_le hLong,
        List.drop_eq_nil_of_le]
      rw [length_overlay]
      exact hLong
  change b.take (overlay buffer b).length ++
    (overlay buffer b).drop b.length = _
  rw [hTail, length_overlay]
  rfl

section Peeks

variable {env : RecvEnv} {p : Ptr} {len : Nat}
variable {lsd : LsckSocket} {usock : LsckSocketUnix}
variable {me : MailslotFsext} {handle : Bytes}
variable {s s' : Process} {n : Int} {data : Bytes}

/-
  The answer is given again if the socket's data is as it
  was: the buffer gets the bytes that it has.
-/
theorem AnswersWith.again
    {before : List UnixMsgHeader}
    {a : Answer}
    (hWith : AnswersWith env p len lsd usock me handle before s'
      n data a)
    (hUnix : s'.HasUnix p lsd usock)
    (hIdle : me.peeking = false) :
    ReceivedAgain env p len lsd usock s' n data a := by
  intro env' r rs ms t hEnv hAround hRead hBytes
  rcases readPacket_takes hWith.mode hIdle hRead with
    ⟨left, -, rfl⟩
  rcases hWith.buffer with ⟨b, hBuffer⟩
  have hSame : ((s'.setMail handle left).received ms).recvBuf =
      s'.recvBuf := by
    change overlay s'.recvBuf ms.flatten = s'.recvBuf
    rw [hBytes, hBuffer, overlay_overlay]
  have hUnixT := hasUnix_received hUnix hRead
  have hStart : unixRecvStream env' p len 0 s' =
      streamRound env' p len false rs lsd usock ms
        ((s'.setMail handle left).received ms) := by
    unfold unixRecvStream
    have hFlag : ((0 : Nat) &&& msgPeek == msgPeek) =
        false := by decide
    rw [hEnv, hFlag]
    exact recvLoop_of_read hUnix hRead
  rw [hStart]
  rcases hWith.result with
    ⟨hNone, hSome, hVerdict, rfl, rfl⟩ |
      ⟨hReported, offset, m, hVerdict, hSome, hShort, rfl, rfl⟩
  · rw [← hSame] at hVerdict
    rw [← hBytes] at hSome ⊢
    rw [streamRound_rejected hVerdict hSome, hNone]
    exact ⟨_, rfl, hUnixT⟩
  · rw [← hSame] at hVerdict
    rw [streamRound_copy hVerdict, hReported]
    rcases gotPacket_run hUnixT with ⟨u, hGot⟩
    rw [run_bind_ok hGot, if_neg (by omega), if_neg hSome,
      hSame, hAround]
    rw [← hSame]
    exact ⟨u, rfl, (gotPacket_ok hUnixT hGot).1⟩

/-
  A peek in a mailslot that is in no peek mode: an answer is
  what the two predicates are about.
-/
theorem peekKeeps_iff_of_idle
    (hUnix : s.HasUnix p lsd usock)
    (hReads : s.ReadsMail usock.fdR me handle)
    (hIdle : me.peeking = false)
    (hRun : recvLoop env p len true env.reads false s =
      .ok ((n, data), s'))
    (hSuccess : n ≠ -1) :
    s'.ReadsMail usock.fdR me handle ∧
    (PeekKeeps env p len lsd usock me handle s s' n data ↔
      PeekHarmless p len handle usock.seqR env.reads s) := by
  have hAnswers : ∃ a, AnswersWith env p len lsd usock me
      handle [] s' n data a ∧ ∀ holds,
        AtAnswer p len handle holds env.reads false [] s ↔
          holds a :=
    recvLoop_answers hUnix hReads hIdle
      (fun hIs => absurd hIs Bool.false_ne_true) hRun hSuccess
  rcases hAnswers with ⟨a, hWith, hIff⟩
  refine ⟨hWith.mode, ?_⟩
  rcases hWith.unix with ⟨more, hMet, hAfter⟩
  rw [List.nil_append] at hMet
  unfold PeekHarmless
  rw [hIff, hMet]
  constructor
  · intro hKeeps
    have hPacket := (hIff _).mp hKeeps.packet
    constructor
    · intro hSome
      have hQueue := hPacket hSome
      by_contra hDumps
      have hPeeked : a.peeked = false := by simpa using hDumps
      have hTakes := hWith.takes
      rw [hPeeked, hQueue] at hTakes
      apply hWith.dumped hPeeked hSome
      rw [hTakes.eq_nil_of_same]
      rfl
    · have hSame := (hKeeps.unix.unique hAfter).2
      exact congrArg LsckSocketUnix.seqR hSame
  · rintro ⟨hPeeks, hSeq⟩
    rw [hSeq] at hAfter
    constructor
    · exact hAfter
    · exact hWith.mode
    · rw [hIff]
      intro hSome
      have hTakes := hWith.takes
      rw [hPeeks hSome] at hTakes
      exact hTakes.same_of_peek
    · rw [hIff]
      exact hWith.again hAfter hIdle

/- The first peek sets the mode whatever it was. -/
theorem recvLoop_of_mode
    (hUnix : s.HasUnix p lsd usock)
    (hReads : s.ReadsMail usock.fdR me handle)
    (pflag : Bool)
    (reads : List ReadEnv) :
    recvLoop env p len true reads false
        (s.setEntry usock.fdR { s.fds usock.fdR with
          data := some (.mailslot { me with
            peeking := pflag }) }) =
      recvLoop env p len true reads false s := by
  cases reads with
  | nil => rfl
  | cons r rs =>
      have hUnix' := hUnix.of_heap (rfl :
        (s.setEntry usock.fdR { s.fds usock.fdR with
          data := some (.mailslot { me with
            peeking := pflag }) }).heap = s.heap)
      rw [recvLoop_cons,
        run_bind_ok (derefSocket_run hUnix.socket),
        run_bind_ok (derefUnix_run hUnix),
        run_bind_ok (derefSocket_run hUnix'.socket),
        run_bind_ok (derefUnix_run hUnix')]
      have hSwitch := ioctlPeek_run (hReads.switched pflag) true
      rw [Process.fds_setEntry, Function.update_self,
        Process.setEntry_setEntry] at hSwitch
      have hFirst : readPacket r (!false && true) usock.fdR
          (s.setEntry usock.fdR { s.fds usock.fdR with
            data := some (.mailslot { me with
              peeking := pflag }) }) =
            readPacket r (!false && true) usock.fdR s := by
        unfold readPacket
        simp only [when, Bool.not_false, Bool.and_self,
          if_true]
        rw [run_bind_ok hSwitch,
          run_bind_ok (ioctlPeek_run hReads true)]
      simp only [run_bind, hFirst]

end Peeks

/- A datagram that came to the mailslot of a stream. -/
def strayDatagram : Bytes :=
  ({ dataHeader { LsckSocketUnix.cleared with
      secret := ⟨8, 1⟩ } 2 with
    type := unixMsgData ||| unixMsgDgramBit } :
      UnixMsgHeader).encode ++ [97, 98]

end Libsocket
