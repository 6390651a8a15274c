import Libsocket.Core.Shutdown
import Libsocket.Unix.Filtering
import Libsocket.Unix.Ends

/-
  The close packet of a stream, and what the other end makes
  of it.

  Its type depends on the role of the closing end, and
  whether it is recognised on that of the receiving end. An
  `accept` gives its end another role; the two ends of a
  `socketpair` have the same.

  Main declarations:
    * `closePacket`, `closeVerdict`
    * `Reaching`, `Reaching.round`
    * `End.Closes`
    * `close_notifies_iff`
-/

namespace Libsocket

open Command

------------------------------------------------------------
-- Verdicts
------------------------------------------------------------

/- The packet that an end queues when it is closed. -/
def closePacket
    (lsd : LsckSocket)
    (usock : LsckSocketUnix) : Bytes :=
  (closeHeader lsd usock).encode

theorem length_closePacket
    (lsd : LsckSocket)
    (usock : LsckSocketUnix) :
    (closePacket lsd usock).length = headerSize :=
  UnixMsgHeader.length_encode _

/-
  The packet is recognised if the ends have different roles.
  An end with the role of the sender rejects it.
-/
theorem closeVerdict
    {lsd : LsckSocket}
    {usock : LsckSocketUnix}
    {secret : UnixMsgSecret}
    (hSecret : usock.secret = secret)
    (accepted : Bool)
    (len : Nat)
    (rest : Bytes) :
    bufferVerdict accepted secret len
        (closePacket lsd usock ++ rest) =
      if lsd.accepted = accepted then .reject else .close := by
  subst hSecret
  unfold bufferVerdict closePacket
  rw [UnixMsgHeader.decode_clip]
  have hType : (closeHeader lsd usock).clip.type =
      if lsd.accepted then unixMsgServerClose
        else unixMsgClientClose := rfl
  have hSame : (closeHeader lsd usock).clip.secret =
      usock.secret := rfl
  have hOther : unixMsgServerClose ≠ unixMsgClientClose := by
    decide
  have hServer : unixMsgServerClose &&& unixMsgData = 0 := by
    decide
  have hClient : unixMsgClientClose &&& unixMsgData = 0 := by
    decide
  unfold streamVerdict isClosePacket isDataPacket
  rw [hType, hSame]
  cases lsd.accepted with
  | true =>
      cases accepted with
      | true => simp [hOther, hServer]
      | false => simp
  | false =>
      cases accepted with
      | true => simp
      | false => simp [hOther.symm, hClient]

------------------------------------------------------------
-- Reading Up To A Packet
------------------------------------------------------------

/-
  The receive loop gets to a read that returns the messages
  `ms`, with the last state that in which they are in the
  packet buffer. It goes on after a rejected packet of no
  bytes and after one that has no data to copy.
-/
inductive Reaching
    (env : RecvEnv)
    (p : Ptr)
    (len : Nat)
    (peeking : Bool) :
    List ReadEnv → Bool → Process → List Bytes → Process →
      Prop
  | here
      {r : ReadEnv}
      {rs : List ReadEnv}
      {bad : Bool}
      {s t : Process}
      {lsd : LsckSocket}
      {usock : LsckSocketUnix}
      {ms : List Bytes}
      (unix : s.HasUnix p lsd usock)
      (read : readPacket r (!bad && peeking) usock.fdR s =
        .ok (some ms, t)) :
      Reaching env p len peeking (r :: rs) bad s ms
        (t.received ms)
  | reread
      {r : ReadEnv}
      {rs : List ReadEnv}
      {bad : Bool}
      {s t u : Process}
      {lsd : LsckSocket}
      {usock : LsckSocketUnix}
      {ms ms' : List Bytes}
      (unix : s.HasUnix p lsd usock)
      (read : readPacket r (!bad && peeking) usock.fdR s =
        .ok (some ms', t))
      (verdict : bufferVerdict lsd.accepted usock.secret len
        (t.received ms').recvBuf = .reject)
      (empty : ms'.flatten = [])
      (next : Reaching env p len peeking rs true
        (t.received ms') ms u) :
      Reaching env p len peeking (r :: rs) bad s ms u
  | passed
      {r : ReadEnv}
      {rs : List ReadEnv}
      {bad : Bool}
      {s t v u : Process}
      {lsd : LsckSocket}
      {usock : LsckSocketUnix}
      {ms ms' : List Bytes}
      {offset : Int}
      (unix : s.HasUnix p lsd usock)
      (read : readPacket r (!bad && peeking) usock.fdR s =
        .ok (some ms', t))
      (verdict : bufferVerdict lsd.accepted usock.secret len
        (t.received ms').recvBuf = .copy offset 0)
      (noted : notePacket lsd.idata
        (UnixMsgHeader.decode (t.received ms').recvBuf)
        (t.received ms') = .ok ((), v))
      (next : Reaching env p len peeking rs false v ms u) :
      Reaching env p len peeking (r :: rs) bad s ms u

section Reaching

variable {env : RecvEnv} {p : Ptr} {len : Nat}
variable {peeking bad : Bool} {reads rs : List ReadEnv}
variable {s t s' : Process} {ms : List Bytes}
variable {lsd : LsckSocket} {usock : LsckSocketUnix}
variable {r : ReadEnv} {x : Int × Bytes}

/- What the receive comes to is the outcome of that round. -/
theorem Reaching.round
    (hReaching : Reaching env p len peeking reads bad s ms t)
    (hRun : recvLoop env p len peeking reads bad s =
      .ok (x, s')) :
    ∃ rs lsd usock, t.HasUnix p lsd usock ∧
      Round env p len peeking rs lsd usock ms t x s' := by
  induction hReaching with
  | @here r rs bad s t lsd usock ms hUnix hRead =>
      have hThere := hasUnix_received hUnix hRead
      rw [recvLoop_of_read hUnix hRead] at hRun
      exact ⟨rs, lsd, usock, hThere,
        streamRound_round hThere hRun⟩
  | reread hUnix hRead hVerdict hEmpty _ ih =>
      apply ih
      rw [recvLoop_of_read hUnix hRead,
        streamRound_reread hVerdict hEmpty] at hRun
      exact hRun
  | passed hUnix hRead hVerdict hNoted _ ih =>
      apply ih
      rw [recvLoop_of_read hUnix hRead,
        streamRound_copy hVerdict, run_bind_ok hNoted] at hRun
      exact hRun

/- The size of the packet buffer, and the end. -/
theorem Reaching.frame
    {accepted : Bool}
    {secret : UnixMsgSecret}
    (hReaching : Reaching env p len peeking reads bad s ms t)
    (hEnd : s.IsEnd p accepted secret) :
    t.IsEnd p accepted secret ∧
      ∃ buffer, buffer.length = s.recvBuf.length ∧
        t.recvBuf = overlay buffer ms.flatten := by
  induction hReaching with
  | here hUnix hRead =>
      have hMemory := memory_readPacket _ _ _ _ _ _ hRead
      rcases hEnd with ⟨lsd, usock, hHas, hMore⟩
      constructor
      · exact ⟨lsd, usock, hHas.of_heap hMemory.heap, hMore⟩
      · exact ⟨_, congrArg List.length hMemory.recvBuf, rfl⟩
  | @reread r rs bad s t u lsd usock ms ms' hUnix hRead _ _ _
      ih =>
      have hMemory := memory_readPacket _ _ _ _ _ _ hRead
      rcases hEnd with ⟨lsd, usock, hHas, hMore⟩
      rcases ih ⟨lsd, usock, hHas.of_heap hMemory.heap, hMore⟩
        with ⟨hThere, buffer, hLength, hBuffer⟩
      refine ⟨hThere, buffer, hLength.trans ?_, hBuffer⟩
      unfold Process.received
      rw [length_overlay, hMemory.recvBuf]
  | @passed r rs bad s t v u lsd usock ms ms' offset hUnix
      hRead _ hNoted _ ih =>
      have hMemory := memory_readPacket _ _ _ _ _ _ hRead
      rcases hEnd with ⟨lsd', usock', hHas, hMore⟩
      rcases hHas.unique hUnix with ⟨rfl, rfl⟩
      rcases gotPacket_frame (hasUnix_received hUnix hRead)
        hNoted with ⟨seqR, hAfter, -, -, hSame⟩
      rcases ih ⟨_, _, hAfter, hMore⟩ with
        ⟨hThere, buffer, hLength, hBuffer⟩
      refine ⟨hThere, buffer, hLength.trans ?_, hBuffer⟩
      rw [hSame]
      unfold Process.received
      rw [length_overlay, hMemory.recvBuf]

end Reaching

------------------------------------------------------------
-- Closing
------------------------------------------------------------

/- An end in a call: before it, or in a receive. -/
def End.At (e : End) (p : Ptr) (t : Process) : Prop :=
  ∃ s, e.Lives p s ∧
    (t = s ∨ ∃ env len peeking reads ms,
      Reaching env p len peeking reads false s ms t)

theorem End.At.isEnd
    {e : End}
    {p q : Ptr}
    {accepted : Bool}
    {secret : UnixMsgSecret}
    {t : Process}
    (hAt : e.At p t)
    (hHolds : e.Holds q accepted secret) :
    t.IsEnd p accepted secret := by
  rcases hAt with
    ⟨s, hLives, rfl | ⟨env, len, peeking, reads, ms, hReach⟩⟩
  · exact hLives.isEnd hHolds
  · exact (hReach.frame (hLives.isEnd hHolds)).1

/- The end runs `__unix_close`, which queues the packet. -/
def End.Closes (e : End) (packet : Bytes) : Prop :=
  ∃ p t t' lsd usock closeR closeW write r m, e.At p t ∧
    t.HasUnix p lsd usock ∧
    unixClose closeR closeW write p t = .ok (r, t') ∧
    (m, packet) ∈ newMessages t t' ∧
    packet = closePacket lsd usock

/- The verdict on a buffer that starts with the packet. -/
theorem closeVerdict_received
    {e : End}
    {q : Ptr}
    {role : Bool}
    {secret : UnixMsgSecret}
    {packet buffer : Bytes}
    (hHolds : e.Holds q role secret)
    (hClosed : e.Closes packet)
    (hRoom : buffer.length = mailslotSendsize)
    (accepted : Bool)
    (len : Nat)
    (more : List Bytes) :
    packet ≠ [] ∧
      bufferVerdict accepted secret len
        (overlay buffer (packet :: more).flatten) =
        if role = accepted then .reject else .close := by
  rcases hClosed with
    ⟨p, t, t', lsd, usock, closeR, closeW, write, r, m, hAt,
      hUnix, -, -, rfl⟩
  rcases hAt.isEnd hHolds with
    ⟨lsd', usock', hUnix', -, -, -, hRole, hSecret⟩
  rcases hUnix.unique hUnix' with ⟨rfl, rfl⟩
  have hLength := length_closePacket lsd' usock'
  have hFits : (closePacket lsd' usock').length ≤
      buffer.length := by
    rw [hLength, hRoom]
    decide
  have hStart : overlay buffer
      (closePacket lsd' usock' :: more).flatten =
        closePacket lsd' usock' ++
          (more.flatten.take (buffer.length -
              (closePacket lsd' usock').length) ++
            buffer.drop (closePacket lsd' usock' ++
              more.flatten).length) := by
    unfold overlay
    rw [List.flatten_cons, List.take_append,
      List.take_of_length_le hFits, List.append_assoc]
  constructor
  · intro hNil
    rw [hNil] at hLength
    cases hLength
  · rw [hStart, closeVerdict hSecret, hRole]

/- A receive that gets to the packet of the other end. -/
theorem unixRecvStream_closed
    {e e' : End}
    {q q' p : Ptr}
    {role role' : Bool}
    {secret : UnixMsgSecret}
    {packet : Bytes}
    {more : List Bytes}
    {env : RecvEnv}
    {len flags : Nat}
    {s t s' : Process}
    {x : Int × Bytes}
    (hHolds : e.Holds q role secret)
    (hHolds' : e'.Holds q' role' secret)
    (hClosed : e.Closes packet)
    (hLives : e'.Lives p s)
    (hRoom : s.recvBuf.length = mailslotSendsize)
    (hReaching : Reaching env p len
      (flags &&& msgPeek == msgPeek) env.reads false s
      (packet :: more) t)
    (hRun : unixRecvStream env p len flags s = .ok (x, s')) :
    (x.1 = -1 ∧ s'.errno = .ECONNRESET) ↔ role ≠ role' := by
  rcases hReaching.frame (hLives.isEnd hHolds') with
    ⟨⟨lsd, usock, hUnix, -, -, -, hRole, hSecret⟩, buffer,
      hLength, hBuffer⟩
  rcases hReaching.round hRun with
    ⟨rs, lsd', usock', hUnix', hRound⟩
  rcases hUnix.unique hUnix' with ⟨rfl, rfl⟩
  rcases closeVerdict_received hHolds hClosed
    (hLength.trans hRoom) role' len more with
    ⟨hSome, hVerdict⟩
  rw [← hBuffer, ← hRole, ← hSecret] at hVerdict
  rw [← hRole]
  have hBytes : (packet :: more).flatten ≠ [] := by
    intro hNil
    rw [List.flatten_cons, List.append_eq_nil_iff] at hNil
    exact hSome hNil.1
  by_cases hSame : role = lsd'.accepted
  · rw [if_pos hSame] at hVerdict
    constructor
    · rintro ⟨hFail, -⟩
      cases hRound with
      | closed verdict => cases hVerdict.symm.trans verdict
      | reread _ empty => exact absurd empty hBytes
      | rejected =>
          exfalso
          dsimp only at hFail
          omega
      | passed verdict => cases hVerdict.symm.trans verdict
      | copied verdict => cases hVerdict.symm.trans verdict
    · intro hNe
      exact absurd hSame hNe
  · rw [if_neg hSame] at hVerdict
    constructor
    · intro _
      exact hSame
    · intro _
      cases hRound with
      | closed _ _ state =>
          subst state
          exact ⟨rfl, rfl⟩
      | reread verdict => cases hVerdict.symm.trans verdict
      | rejected verdict => cases hVerdict.symm.trans verdict
      | passed verdict => cases hVerdict.symm.trans verdict
      | copied verdict => cases hVerdict.symm.trans verdict

/-
  A receive that gets to the close packet of the other end
  fails with ECONNRESET if and only if the connection was
  made by `connect` and `accept`, whichever end has closed.
-/
theorem close_notifies_iff
    {made : Making}
    {e e' : End}
    {p : Ptr}
    {packet : Bytes}
    {more : List Bytes}
    {env : RecvEnv}
    {len flags : Nat}
    {s t s' : Process}
    {x : Int × Bytes}
    (hJoined : Joined made e e' ∨ Joined made e' e)
    (hClosed : e.Closes packet)
    (hLives : e'.Lives p s)
    (hRoom : s.recvBuf.length = mailslotSendsize)
    (hReaching : Reaching env p len
      (flags &&& msgPeek == msgPeek) env.reads false s
      (packet :: more) t)
    (hRun : unixRecvStream env p len flags s = .ok (x, s')) :
    (x.1 = -1 ∧ s'.errno = .ECONNRESET) ↔
      ∃ serv, made = .handshake serv := by
  have hMade : made.accepted = true ↔
      ∃ serv, made = .handshake serv := by
    cases made with
    | handshake serv => simp [Making.accepted]
    | socketpair => simp [Making.accepted]
  rw [← hMade]
  rcases hJoined with hJoined | hJoined
  · rcases hJoined.ends with
      ⟨q, q', secret, hHolds, hHolds'⟩
    rw [unixRecvStream_closed hHolds hHolds' hClosed hLives
      hRoom hReaching hRun]
    cases made.accepted <;> simp
  · rcases hJoined.ends with
      ⟨q, q', secret, hHolds, hHolds'⟩
    rw [unixRecvStream_closed hHolds' hHolds hClosed hLives
      hRoom hReaching hRun]
    cases made.accepted <;> simp

------------------------------------------------------------
-- A Handshake And A Pair
------------------------------------------------------------

/- A descriptor with its Unix data. -/
def Process.unixAt
    (s : Process)
    (p : Ptr) : Option (LsckSocket × LsckSocketUnix) :=
  (s.socket? p).bind fun lsd =>
    lsd.idata.bind fun q =>
      ((s.heap q).bind Block.unix?).map fun usock =>
        (lsd, usock)

theorem Process.hasUnix_of_any
    {s : Process}
    {p : Ptr}
    {check : LsckSocket × LsckSocketUnix → Bool}
    (hCheck : (s.unixAt p).any check = true) :
    ∃ lsd usock, s.HasUnix p lsd usock ∧
      check (lsd, usock) = true := by
  cases hAt : s.unixAt p with
  | none =>
      rw [hAt] at hCheck
      cases hCheck
  | some x =>
      rw [hAt] at hCheck
      rcases Option.bind_eq_some_iff.mp hAt with
        ⟨lsd, hSocket, hRest⟩
      rcases Option.bind_eq_some_iff.mp hRest with
        ⟨q, hQ, hData⟩
      rcases Option.map_eq_some_iff.mp hData with
        ⟨usock, hUsock, rfl⟩
      rcases Option.bind_eq_some_iff.mp hUsock with
        ⟨b, hB, hKind⟩
      refine ⟨lsd, usock, ?_, hCheck⟩
      cases b with
      | unix x =>
          cases hKind
          exact ⟨Process.socket?_eq_some.mp hSocket, q, hQ, hB⟩
      | socket d => cases hKind
      | csock x => cases hKind
      | wsock x => cases hKind

/- A close of a socket that is granted. -/
def grantedClose (p : Ptr) : Exec Int :=
  unixClose (closeFd grantingClose) (closeFd grantingClose)
    ⟨true, .zero⟩ p

/- The message that it queues. -/
def queuedBy (p : Ptr) (s : Process) : Bytes × Bytes :=
  ((newMessages s (after (grantedClose p) s)).head?).getD
    ([], [])

/- An end that runs such a close. -/
theorem closes_of_checks
    {s : Process}
    {fd : Fd}
    {p : Ptr}
    (hLeads : s.LeadsTo fd p)
    (hChecks : answer (grantedClose p) s = some 0 ∧
      queuedBy p s ∈
        newMessages s (after (grantedClose p) s) ∧
      (s.unixAt p).any (fun x =>
        (queuedBy p s).2 == closePacket x.1 x.2) = true) :
    End.Closes ⟨s, fd⟩ (queuedBy p s).2 := by
  rcases hChecks with ⟨hRun, hNew, hPacket⟩
  rcases Process.hasUnix_of_any hPacket with
    ⟨lsd, usock, hUnix, hSame⟩
  exact ⟨p, s, _, lsd, usock, _, _, _, _, _,
    ⟨s, ⟨hLeads, .refl⟩, .inl rfl⟩, hUnix, run_after hRun,
    hNew, beq_iff_eq.mp hSame⟩

/- The state when a message has reached a mailslot. -/
def Process.reached
    (s : Process)
    (x : Bytes × Bytes) : Process :=
  s.setMail x.1 (s.mail x.1 ++ [x.2])

/- An end that a message reaches lives on. -/
theorem lives_reached
    {s : Process}
    {fd : Fd}
    {p : Ptr}
    (hLeads : s.LeadsTo fd p)
    (hSocket : (s.socket? p).isSome = true)
    (x : Bytes × Bytes) :
    End.Lives ⟨s, fd⟩ p (s.reached x) := by
  rcases Option.isSome_iff_exists.mp hSocket with ⟨d, hD⟩
  refine ⟨hLeads, .step (a := .call (.arrive x.1 x.2)) .refl
    ⟨0, rfl⟩ ⟨d, ?_⟩⟩
  exact Process.socket?_eq_some.mp hD

/- The receive of the other end reads the packet. -/
theorem reaching_reached
    {env : RecvEnv}
    {p : Ptr}
    {len flags : Nat}
    {r : ReadEnv}
    {rs : List ReadEnv}
    {s : Process}
    {packet : Bytes}
    (fd : Fd)
    (hRead : answer
      (readPacket r (flags &&& msgPeek == msgPeek) fd) s =
        some (some [packet]))
    (hUnix : (s.unixAt p).any (fun x => x.2.fdR == fd) =
      true) :
    ∃ t, Reaching env p len (flags &&& msgPeek == msgPeek)
      (r :: rs) false s [packet] t := by
  rcases Process.hasUnix_of_any hUnix with
    ⟨lsd, usock, hHas, hFd⟩
  cases beq_iff_eq.mp hFd
  exact ⟨_, .here hHas (run_after hRead)⟩

/- The client's one call is a plain one. -/
theorem client_plain :
    lsckSystem.ReachableUnder (fun _ call => call.plain = true)
      clientProcess := by
  have hRun : ∃ t, exec unixStreamCall bareProcess =
      .ok (3, t) :=
    exists_run_of_answer (by decide +kernel)
  rcases hRun with ⟨t, hRun⟩
  have hClient : clientProcess = t := by
    unfold clientProcess afterCalls runCalls
    simp [TransitionSystem.runUnder, hRun]
  rw [hClient]
  exact .step (.init booted_bareProcess) rfl ⟨3, hRun⟩

/- A server is told that its client has closed. -/
theorem server_is_told :
    ∃ x s', unixRecvStream .quiet 20 8 0
        (acceptedServer.reached (queuedBy 10 connectedClient)) =
          .ok (x, s') ∧
      x.1 = -1 ∧ s'.errno = .ECONNRESET := by
  have hJoined : Joined (.handshake serverAddress)
      ⟨connectedClient, 3⟩ ⟨acceptedServer, 5⟩ :=
    .handshake client_plain client_connects server_accepts
      client_asked server_answered
  have hClosed : End.Closes ⟨connectedClient, 3⟩
      (queuedBy 10 connectedClient).2 := by
    apply closes_of_checks
    · exact ⟨by decide +kernel, by decide +kernel⟩
    · decide +kernel
  have hLives : End.Lives ⟨acceptedServer, 5⟩ 20
      (acceptedServer.reached (queuedBy 10 connectedClient)) := by
    apply lives_reached
    · exact ⟨by decide +kernel, by decide +kernel⟩
    · decide +kernel
  have hRun : unixRecvStream .quiet 20 8 0
      (acceptedServer.reached (queuedBy 10 connectedClient)) =
        .ok ((-1, []), _) :=
    run_after (by decide +kernel)
  have hReaching : ∃ t, Reaching .quiet 20 8
      (0 &&& msgPeek == msgPeek) RecvEnv.quiet.reads false
      (acceptedServer.reached (queuedBy 10 connectedClient))
      [(queuedBy 10 connectedClient).2] t := by
    apply reaching_reached 6
    · decide +kernel
    · decide +kernel
  rcases hReaching with ⟨t, hReaching⟩
  have hTold := close_notifies_iff (.inl hJoined) hClosed
    hLives (by decide +kernel) hReaching hRun
  exact ⟨_, _, hRun, hTold.mpr ⟨_, rfl⟩⟩

/- One end of a pair counts the close packet of the other. -/
theorem pair_counts_close :
    ¬ ∀ (made : Making) (e e' : End) (p : Ptr) (packet : Bytes)
        (more : List Bytes) (env : RecvEnv) (len flags : Nat)
        (s t s' : Process) (x : Int × Bytes),
      Joined made e e' ∨ Joined made e' e →
      e.Closes packet →
      e'.Lives p s →
      s.recvBuf.length = mailslotSendsize →
      Reaching env p len (flags &&& msgPeek == msgPeek)
        env.reads false s (packet :: more) t →
      unixRecvStream env p len flags s = .ok (x, s') →
      x.1 = -1 ∧ s'.errno = .ECONNRESET := by
  intro hAlways
  have hJoined : Joined .socketpair ⟨pairedProcess, 3⟩
      ⟨pairedProcess, 4⟩ :=
    .socketpair rfl pair_made
  have hClosed : End.Closes ⟨pairedProcess, 3⟩
      (queuedBy 10 pairedProcess).2 := by
    apply closes_of_checks
    · exact ⟨by decide +kernel, by decide +kernel⟩
    · decide +kernel
  have hLives : End.Lives ⟨pairedProcess, 4⟩ 20
      (pairedProcess.reached (queuedBy 10 pairedProcess)) := by
    apply lives_reached
    · exact ⟨by decide +kernel, by decide +kernel⟩
    · decide +kernel
  have hRun : unixRecvStream .quiet 20 8 0
      (pairedProcess.reached (queuedBy 10 pairedProcess)) =
        .ok ((20, []), _) :=
    run_after (by decide +kernel)
  have hReaching : ∃ t, Reaching .quiet 20 8
      (0 &&& msgPeek == msgPeek) RecvEnv.quiet.reads false
      (pairedProcess.reached (queuedBy 10 pairedProcess))
      [(queuedBy 10 pairedProcess).2] t := by
    apply reaching_reached 6
    · decide +kernel
    · decide +kernel
  rcases hReaching with ⟨t, hReaching⟩
  have hTold := hAlways _ _ _ _ _ _ _ _ _ _ _ _ _
    (.inl hJoined) hClosed hLives (by decide +kernel) hReaching
    hRun
  exact absurd hTold.1 (by decide)

end Libsocket
