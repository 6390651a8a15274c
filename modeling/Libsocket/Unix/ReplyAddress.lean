import Libsocket.Unix.Datagram
import Libsocket.Unix.Names

/-
  Whether a reply to the source address of a datagram
  reaches the mailslot that the sender reads from.

  Main declarations:
    * `unixSendDgram_bound`
    * `recvDgramLoop_source`
    * `reply_address_never`
-/

namespace Libsocket

open Command

------------------------------------------------------------
-- Names Of Clients
------------------------------------------------------------

theorem isText_hexDigits (k n : Nat) :
    CString.IsText (hexDigits k n) := by
  induction k generalizing n with
  | zero =>
      intro b hb
      cases hb
  | succ k ih =>
      apply (ih (n / 16)).append
      intro b hb
      rw [List.mem_singleton.mp hb]
      have hDigit : n % 16 < 16 := Nat.mod_lt n (by decide)
      generalize n % 16 = digit at hDigit
      revert hDigit
      revert digit
      decide

/- A client's address names the client's path. -/
theorem read?_clientPath (n : Fin 2147483648) :
    CString.read? ((sockaddrUn (clientPath n)).drop 2) =
      some (clientPath n) := by
  have hText : CString.IsText (clientPath n) := by
    apply CString.IsText.append
    · decide
    · exact isText_hexDigits 8 n
  have hDrop : (sockaddrUn (clientPath n)).drop 2 =
      CString.store (clientPath n) ++ [] := by
    rw [List.append_nil]
    rfl
  rw [hDrop]
  exact CString.read?_store hText []

theorem isAbsolute_clientPath (n : Fin 2147483648) :
    IsAbsolute (clientPath n) := rfl

------------------------------------------------------------
-- The Sender
------------------------------------------------------------

/- What a send does behind the bind leaves the socket bound. -/
theorem boundAbsolutely_of_opened
    {env : UnixSendDgramEnv}
    {p : Ptr}
    {req : UnixMsgOpen}
    {name m target msg : Bytes}
    {fd : Fd}
    {s t u s' : Process}
    {r x : Int}
    (hBound : s.BoundAbsolutely p name m)
    (hOpen : openFile env.openW (unixLocalPath ++ target)
      .wronly s = .ok (fd, t))
    (hFd : fd ≠ -1)
    (hLoop : sendDgramLoop fd req env.writes msg 0 t =
      .ok (r, u))
    (hClose : closeFd env.close fd u = .ok (x, s')) :
    s'.BoundAbsolutely p name m := by
  rcases hBound with
    ⟨hIs, hRead, lsd, usock, hUnix, hB, hName, hPath, hReads⟩
  have hOpens := openFile_ok hOpen
  rcases openFile_writesTo hOpen hFd with ⟨m', -, hWrites⟩
  rcases sendDgramLoop_parts hWrites hLoop with
    ⟨-, -, -, hFds, hHeap⟩
  have hClosed := closeFd_writer (hWrites.of_fds hFds) hClose
  have hReadsT := (steady_openFile _ _ _ _ _ _ hOpen).readsFrom
    hReads
  have hNe : usock.fdR ≠ fd := by
    rcases hReads with ⟨me, hMail, -⟩
    rcases hOpens.fds with ⟨hNone, -⟩ | ⟨-, hFree, -, -⟩
    · exact absurd hNone hFd
    · rintro rfl
      unfold Process.HasMailslot at hMail
      rw [hMail] at hFree
      cases hFree
  refine ⟨hIs, hRead, lsd, usock, ⟨?_, ?_⟩, hB, hName, hPath,
    ?_⟩
  · rw [hClosed, Process.heap_setEntry, hHeap, hOpens.heap]
    exact hUnix.socket
  · rw [hClosed, Process.heap_setEntry, hHeap, hOpens.heap]
    exact hUnix.data
  · rcases hReadsT.of_fds hFds with ⟨me, hMail, hHandle⟩
    refine ⟨me, ?_, hHandle⟩
    unfold Process.HasMailslot at hMail ⊢
    rw [hClosed, Process.fds_setEntry,
      Function.update_of_ne hNe, hMail]

/- A socket that is bound stays bound when it sends. -/
theorem unixSendDgram_stays_bound
    {env : UnixSendDgramEnv}
    {p : Ptr}
    {msg sun name m : Bytes}
    {tolen : Nat}
    {s s' : Process}
    {r : Int}
    (hBound : s.BoundAbsolutely p name m)
    (hRun : unixSendDgram env p msg (some sun) tolen s =
      .ok (r, s'))
    (hSuccess : r ≠ -1) :
    s'.BoundAbsolutely p name m := by
  rcases unixSendDgram_ok hRun hSuccess with
    ⟨lsd₀, lsd, ret, source, target, path, fd, t₁, t₂, t₃,
      hLsd₀, hBind, hRet, hLsd, hSource, hFits, hPath,
      hTarget, hOpen, hFd, hLoop, x, hClose⟩
  have hIs : lsd₀.bound = true := by
    rcases hBound with ⟨-, -, d, usock, hUnix, hB, -⟩
    have hSocket := hUnix.socket
    rw [hLsd₀] at hSocket
    cases hSocket
    exact hB
  unfold bindHere at hBind
  rw [if_pos hIs] at hBind
  cases hBind
  exact boundAbsolutely_of_opened hBound hOpen hFd hLoop
    hClose

/- A socket that is not bound is bound by its first send. -/
theorem unixSendDgram_bound
    {env : UnixSendDgramEnv}
    {p : Ptr}
    {msg sun : Bytes}
    {tolen : Nat}
    {d : LsckSocket}
    {s s' : Process}
    {r : Int}
    (hForm : WellFormed none s)
    (hSocket : s.heap p = some (.socket d))
    (hInterface : d.interface = some .unix)
    (hUnbound : d.bound = false)
    (hRun : unixSendDgram env p msg (some sun) tolen s =
      .ok (r, s'))
    (hSuccess : r ≠ -1) :
    ∃ m, s'.BoundAbsolutely p (clientPath env.nameRandom)
      m := by
  rcases unixSendDgram_ok hRun hSuccess with
    ⟨lsd₀, lsd, ret, source, target, path, fd, t₁, t₂, t₃,
      hLsd₀, hBind, hRet, hLsd, hSource, hFits, hPath,
      hTarget, hOpen, hFd, hLoop, x, hClose⟩
  rw [hSocket] at hLsd₀
  cases hLsd₀
  unfold bindHere at hBind
  rw [if_neg (by simp [hUnbound])] at hBind
  rcases bind_unix_ok hForm (hForm.entry hSocket) hSocket
    hInterface rfl (read?_clientPath env.nameRandom) hBind
    hRet with
    ⟨m, usock, fdR, b, -, hUnix, hName, hReads, hRead, hAddr,
      -⟩
  have hSame := hUnix.socket
  rw [hLsd] at hSame
  cases hSame
  -- What the packets publish can only be the new name.
  have hNew : source = clientPath env.nameRandom := by
    exact read?_overlay hAddr hSource
  subst hNew
  refine ⟨m, boundAbsolutely_of_opened ?_ hOpen hFd hLoop
    hClose⟩
  exact ⟨isAbsolute_clientPath _,
    hRead (isAbsolute_clientPath _), _, _, hUnix, rfl, hSource,
    hName, hReads⟩

------------------------------------------------------------
-- The Receiver
------------------------------------------------------------

/-
  Whatever rounds came before, the last round of the receive
  reads the message.
-/
def LastReads
    (env : RecvDgramEnv)
    (q : Ptr)
    (len flags : Nat)
    (source : Option Nat)
    (s : Process)
    (x : Bytes) : Prop :=
  ∃ lsd usock read buffer stored badPacket more t t',
    s.HasUnix q lsd usock ∧ lsd.type = sockDgram ∧
    buffer.length = mailslotSendsize ∧
    readPacket read
      (!badPacket && flags &&& msgPeek == msgPeek)
      usock.fdR t = .ok (some (x :: more), t') ∧
    unixRecvDgram env q len flags source s =
      recvDgramLoop env.around usock.fdR len
        (flags &&& msgPeek == msgPeek) source [read]
        buffer stored badPacket t

/- A receive whose one read takes the message. -/
theorem lastReads_of_first
    {env : RecvDgramEnv}
    {q : Ptr}
    {len flags : Nat}
    {source : Option Nat}
    {lsd : LsckSocket}
    {usock : LsckSocketUnix}
    {read : ReadEnv}
    {more : List Bytes}
    {x : Bytes}
    {s t : Process}
    (hUnix : s.HasUnix q lsd usock)
    (hType : lsd.type = sockDgram)
    (hReads : env.reads = [read])
    (hTaken : readPacket read (flags &&& msgPeek == msgPeek)
      usock.fdR s = .ok (some (x :: more), t)) :
    LastReads env q len flags source s x := by
  refine ⟨lsd, usock, read, List.ofFn env.buffer, none, false,
    more, s, t, hUnix, hType, List.length_ofFn, hTaken, ?_⟩
  rw [unixRecvDgram_run hUnix hType, hReads]

/- The address that is stored for a packet. -/
theorem storeSource_names
    {fromlen : Nat}
    {buffer published target : Bytes}
    {stored : Option Bytes}
    {addr : Bytes}
    {s s' : Process}
    (hPath : CString.read? (buffer.drop headerSize) =
      some published)
    (hRun : storeSource (some fromlen) buffer stored s =
      .ok (some addr, s'))
    (hTarget : CString.read? (addr.drop 2) = some target) :
    target = published := by
  rcases bind_eq_ok.mp hRun with ⟨name, t, hName, hPure⟩
  cases hPure
  rcases bind_eq_ok.mp hName with ⟨text, u, hRead, hTail⟩
  rcases readString_ok hRead with ⟨rfl, hText⟩
  rw [hPath] at hText
  cases hText
  rcases bind_eq_ok.mp hTail with ⟨path, v, hCopy, hPure⟩
  cases hPure
  rcases copyInto_ok hCopy with ⟨-, -, rfl⟩
  have hWhole : CString.read? (CString.store published ++
      (List.replicate sunPathSize 0).drop
        (published.length + 1)) = some published :=
    CString.read?_store (CString.isText_of_read? hPath) _
  apply CString.read?_of_prefix _ hWhole hTarget
  rw [List.drop_take]
  exact List.take_prefix _ _

/- The address that a receive returns with a packet. -/
theorem unixRecvDgram_source
    {env : RecvDgramEnv}
    {q : Ptr}
    {len flags fromlen : Nat}
    {msg published packet target b addr : Bytes}
    {s s' : Process}
    {n : Int}
    (hSize : msg.length < 4294967296)
    (hPacket : IsPacketOf msg published packet)
    (hLast : LastReads env q len flags (some fromlen) s
      packet)
    (hRun : unixRecvDgram env q len flags (some fromlen) s =
      .ok ((n, b, some addr), s'))
    (hTarget : CString.read? (addr.drop 2) = some target) :
    target = published := by
  rcases hLast with
    ⟨lsd, usock, read, buffer, stored, badPacket, more, t, t',
      -, -, hBuffer, hTaken, hSame⟩
  rcases hPacket with
    ⟨path, data, rfl, hPath, hPublished, hPart⟩
  rcases recvDgramLoop_packet hBuffer hPath hPart.short hSize
    hTaken with ⟨tail, -, hLoop⟩
  rw [hSame, hLoop] at hRun
  dsimp only at hRun
  rcases bind_eq_ok.mp hRun with ⟨stored', u, hStore, hRest⟩
  split at hRest
  · cases hRest
  split at hRest
  · cases hRest
  cases hRest
  apply storeSource_names _ hStore hTarget
  rw [UnixMsgOpen.encode, List.append_assoc,
    List.drop_left' (UnixMsgHeader.length_encode _)]
  exact CString.read?_append hPublished _

------------------------------------------------------------
-- The Reply
------------------------------------------------------------

/-
  The address that a receiver obtains from a sender bound to
  a name is the name behind the prefix for local paths.
-/
theorem source_of_bound
    {sendEnv : UnixSendDgramEnv}
    {recvEnv : RecvDgramEnv}
    {p q : Ptr}
    {msg name m b addr target : Bytes}
    {dest : Option Bytes}
    {tolen len flags fromlen : Nat}
    {s s' t t' : Process}
    {r n : Int}
    {y : Bytes × Bytes}
    (hSend : unixSendDgram sendEnv p msg dest tolen s =
      .ok (r, s'))
    (hSize : msg.length < 4294967296)
    (hBound : s'.BoundAbsolutely p name m)
    (hNew : y ∈ newMessages s s')
    (hLast : LastReads recvEnv q len flags (some fromlen) t
      y.2)
    (hRecv : unixRecvDgram recvEnv q len flags (some fromlen)
      t = .ok ((n, b, some addr), t'))
    (hTarget : CString.read? (addr.drop 2) = some target) :
    target = unixLocalPath ++ name := by
  rcases hBound with
    ⟨-, -, lsd, usock, hUnix, -, hName, -, -⟩
  rcases unixSendDgram_packets hSend with
    ⟨added, hSent, hPackets⟩
  rw [newMessages_of_append hSent] at hNew
  rcases hPackets y hNew with
    ⟨lsd', source, hSocket, hSource, hPacket⟩
  rw [hUnix.socket] at hSocket
  cases hSocket
  rw [hName] at hSource
  cases hSource
  exact unixRecvDgram_source hSize hPacket hLast hRecv hTarget

/- The prefix in front of a path leads somewhere else. -/
theorem sendName_prefixed
    {name m : Bytes}
    (hRead : readName (unixLocalPath ++ name) = some m) :
    sendName (unixLocalPath ++ (unixLocalPath ++ name)) ≠
      some m := by
  intro hMeet
  have hLength := length_eq_of_meet hRead hMeet
  rw [List.length_append] at hLength
  have hPrefix : unixLocalPath.length = 19 := rfl
  omega

/-
  For every socket that is bound to an absolute name after a
  send, by an earlier bind or by the send itself, every
  message of the send, every receive that returns with this
  message and its address, and every datagram that is sent
  to this address: it does not go to the mailslot that the
  first sender reads from.
-/
theorem reply_address_never
    {sendEnv replyEnv : UnixSendDgramEnv}
    {recvEnv : RecvDgramEnv}
    {p q o : Ptr}
    {msg reply name m b addr : Bytes}
    {dest : Option Bytes}
    {tolen tolen' len flags fromlen : Nat}
    {s s' t t' u u' : Process}
    {r r' n : Int}
    {y : Bytes × Bytes}
    (hSend : unixSendDgram sendEnv p msg dest tolen s =
      .ok (r, s'))
    (hSize : msg.length < 4294967296)
    (hBound : s'.BoundAbsolutely p name m)
    (hNew : y ∈ newMessages s s')
    (hLast : LastReads recvEnv q len flags (some fromlen) t
      y.2)
    (hRecv : unixRecvDgram recvEnv q len flags (some fromlen)
      t = .ok ((n, b, some addr), t'))
    (hSome : reply ≠ [])
    (hReply : unixSendDgram replyEnv o reply (some addr)
      tolen' u = .ok (r', u'))
    (hSuccess : r' ≠ -1) :
    ¬ SendsTo m u u' := by
  rcases unixSendDgram_ok hReply hSuccess with
    ⟨_, _, _, _, target, _, _, _, _, _, -, -, -, -, -, -, -,
      hTarget, -⟩
  have hPath :=
    source_of_bound hSend hSize hBound hNew hLast hRecv hTarget
  subst hPath
  rw [sendDgram_sendsTo_iff hReply hSuccess hSome hTarget]
  exact sendName_prefixed hBound.2.1

------------------------------------------------------------
-- A Sender And A Reply
------------------------------------------------------------

/- A datagram socket bound to `/tmp/me`. -/
def senderProcess : Process :=
  ((dgramProcess namedSocket).setBlock 11
    (some (.unix { LsckSocketUnix.cleared with
      sockpath := overlay LsckSocketUnix.cleared.sockpath
        (bytes "/tmp/me")
      fdW := -1
      fdR := 4 }))).setEntry 4
        ⟨true, some .mailslotHandler, some (.mailslot
          ⟨some (bytes "\\mailslot\\tmp\\me"), none, true,
            false⟩)⟩

theorem sender_boundAbsolutely :
    senderProcess.BoundAbsolutely 10 (bytes "/tmp/me")
      (bytes "\\mailslot\\tmp\\me") := by
  refine ⟨by decide, by decide, namedSocket, _,
    ⟨rfl, 11, rfl, rfl⟩, rfl, by decide, by decide, _, rfl,
    rfl⟩

/- A datagram of the sender, its receipt, and an answer. -/
theorem exists_reply :
    ∃ s' y n b addr t' u',
      unixSendDgram .granting 10 [1]
        (some (sockaddrUn (bytes "/sock"))) sockaddrMaxSize
        senderProcess = .ok (1, s') ∧
      y ∈ newMessages senderProcess s' ∧
      unixRecvDgram (.finding y.2) 10 5 0
        (some sockaddrMaxSize) receiverProcess =
          .ok ((n, b, some addr), t') ∧
      unixSendDgram .granting 10 [2] (some addr)
        sockaddrMaxSize (dgramProcess namedSocket) =
          .ok (1, u') := by
  have hCheck : (unixSendDgram .granting 10 [1]
      (some (sockaddrUn (bytes "/sock"))) sockaddrMaxSize
      senderProcess).toOption.any (fun x =>
        x.1 == 1 && (newMessages senderProcess x.2).any (fun y =>
          (unixRecvDgram (.finding y.2) 10 5 0
            (some sockaddrMaxSize) receiverProcess).toOption.any
              (fun z => z.1.2.2.any (fun addr =>
                answer (unixSendDgram .granting 10 [2]
                  (some addr) sockaddrMaxSize)
                  (dgramProcess namedSocket) == some 1)))) =
      true := by decide +kernel
  rcases exists_run_of_any hCheck with ⟨r, s', hSend, hMore⟩
  rw [Bool.and_eq_true, beq_iff_eq] at hMore
  rcases hMore with ⟨rfl, hMore⟩
  rcases List.any_eq_true.mp hMore with ⟨y, hNew, hReads⟩
  rcases exists_run_of_any hReads with
    ⟨⟨n, b, stored⟩, t', hRecv, hStored⟩
  cases stored with
  | none => cases hStored
  | some addr =>
      rcases exists_run_of_answer (beq_iff_eq.mp hStored) with
        ⟨u', hReply⟩
      exact ⟨s', y, n, b, addr, t', u', hSend, hNew, hRecv,
        hReply⟩

/- The receiver's one read takes the sender's datagram. -/
theorem receiver_lastReads
    {x : Bytes}
    (hSome : x ≠ []) :
    LastReads (.finding x) 10 5 0 (some sockaddrMaxSize)
      receiverProcess x := by
  rcases receiver_takes hSome with ⟨t', hTaken⟩
  exact lastReads_of_first receiver_hasUnix rfl rfl hTaken

/- Messages of a send are not empty. -/
theorem newMessage_ne_nil
    {env : UnixSendDgramEnv}
    {p : Ptr}
    {msg : Bytes}
    {dest : Option Bytes}
    {tolen : Nat}
    {s s' : Process}
    {r : Int}
    {y : Bytes × Bytes}
    (hRun : unixSendDgram env p msg dest tolen s = .ok (r, s'))
    (hNew : y ∈ newMessages s s') :
    y.2 ≠ [] := by
  rcases unixSendDgram_packets hRun with
    ⟨added, hSent, hPackets⟩
  rw [newMessages_of_append hSent] at hNew
  rcases hPackets y hNew with ⟨_, _, -, -, hPacket⟩
  exact hPacket.ne_nil

theorem reply_address_never_to_me :
    ∃ s' y n b addr t' u',
      unixSendDgram .granting 10 [1]
        (some (sockaddrUn (bytes "/sock"))) sockaddrMaxSize
        senderProcess = .ok (1, s') ∧
      y ∈ newMessages senderProcess s' ∧
      unixRecvDgram (.finding y.2) 10 5 0
        (some sockaddrMaxSize) receiverProcess =
          .ok ((n, b, some addr), t') ∧
      ¬ SendsTo (bytes "\\mailslot\\tmp\\me")
        (dgramProcess namedSocket) u' := by
  rcases exists_reply with
    ⟨s', y, n, b, addr, t', u', hSend, hNew, hRecv, hReply⟩
  refine ⟨s', y, n, b, addr, t', u', hSend, hNew, hRecv, ?_⟩
  exact reply_address_never hSend (by decide)
    (unixSendDgram_stays_bound sender_boundAbsolutely hSend
      (by decide))
    hNew (receiver_lastReads (newMessage_ne_nil hSend hNew))
    hRecv (by decide) hReply (by decide)

/-
  A socket that is bound to `/tmp/me` before and after it
  sends, and an answer to the address of its datagram that
  it does not get.
-/
theorem reply_missed :
    ∃ s' y n b addr t' u',
      unixSendDgram .granting 10 [1]
        (some (sockaddrUn (bytes "/sock"))) sockaddrMaxSize
        senderProcess = .ok (1, s') ∧
      s'.BoundAbsolutely 10 (bytes "/tmp/me")
        (bytes "\\mailslot\\tmp\\me") ∧
      y ∈ newMessages senderProcess s' ∧
      unixRecvDgram (.finding y.2) 10 5 0
        (some sockaddrMaxSize) receiverProcess =
          .ok ((n, b, some addr), t') ∧
      unixSendDgram .granting 10 [2] (some addr)
        sockaddrMaxSize (dgramProcess namedSocket) =
          .ok (1, u') ∧
      ¬ SendsTo (bytes "\\mailslot\\tmp\\me")
        (dgramProcess namedSocket) u' := by
  rcases exists_reply with
    ⟨s', y, n, b, addr, t', u', hSend, hNew, hRecv, hReply⟩
  have hBound := unixSendDgram_stays_bound
    sender_boundAbsolutely hSend (by decide)
  refine ⟨s', y, n, b, addr, t', u', hSend, hBound, hNew,
    hRecv, hReply, ?_⟩
  rcases unixSendDgram_ok hReply (by decide) with
    ⟨_, _, _, _, target, _, _, _, _, _, -, -, -, -, -, -, -,
      hTarget, -⟩
  have hPath := source_of_bound hSend (by decide) hBound hNew
    (receiver_lastReads (newMessage_ne_nil hSend hNew)) hRecv
    hTarget
  subst hPath
  rw [sendDgram_sendsTo_iff hReply (by decide) (by decide)
    hTarget]
  exact sendName_prefixed hBound.2.1

end Libsocket
