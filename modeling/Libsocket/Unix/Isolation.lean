import Libsocket.Unix.Names
import Libsocket.Unix.Packets

/-
  What a receive delivers depends on the socket and on its
  mailslot, and not on what the packet buffer held before,
  as long as the messages that it reads are clean.

  Main declarations:
    * `SameQueue`, `alike_readPacket`
    * `CleanReads`
    * `Receive`, `Isolated`
    * `isolated_of_run`, `stale_packet_delivered`
-/

namespace Libsocket

open Command

------------------------------------------------------------
-- Reading From A Mailslot
------------------------------------------------------------

/-
  The states agree on a descriptor, and on the queue of the
  mailslot that it reads.
-/
structure SameQueue (fd : Fd) (s t : Process) : Prop where
  entry : s.fds fd = t.fds fd
  mail : ∀ me handle,
    (s.fds fd).data = some (.mailslot me) →
    me.handle = some handle → s.mail handle = t.mail handle
  next : s.reportsNext = t.reportsNext

namespace SameQueue

variable {fd : Fd} {s t : Process}

theorem symm (hSame : SameQueue fd s t) :
    SameQueue fd t s := by
  refine ⟨hSame.entry.symm, ?_, hSame.next.symm⟩
  intro me handle hData hHandle
  rw [← hSame.entry] at hData
  exact (hSame.mail me handle hData hHandle).symm

theorem setErrno
    (hSame : SameQueue fd s t)
    (e e' : Errno) :
    SameQueue fd { s with errno := e }
      { t with errno := e' } :=
  ⟨hSame.entry, hSame.mail, hSame.next⟩

theorem setMail
    (hSame : SameQueue fd s t)
    (name : Bytes)
    (queue : List Bytes) :
    SameQueue fd (s.setMail name queue)
      (t.setMail name queue) := by
  refine ⟨hSame.entry, ?_, hSame.next⟩
  intro me handle hData hHandle
  have hQueue := hSame.mail me handle hData hHandle
  change Function.update s.mail name queue handle =
    Function.update t.mail name queue handle
  by_cases hName : handle = name
  · rw [hName, Function.update_self, Function.update_self]
  · rw [Function.update_of_ne hName,
      Function.update_of_ne hName]
    exact hQueue

/- The mailslot of a descriptor may change its modes. -/
theorem setMailslot
    (hSame : SameQueue fd s t)
    {me me' : MailslotFsext}
    (hData : (s.fds fd).data = some (.mailslot me))
    (hHandle : me'.handle = me.handle) :
    SameQueue fd
      (s.setEntry fd { s.fds fd with
        data := some (.mailslot me') })
      (t.setEntry fd { t.fds fd with
        data := some (.mailslot me') }) := by
  refine ⟨?_, ?_, hSame.next⟩
  · rw [Process.fds_setEntry, Process.fds_setEntry,
      Function.update_self, Function.update_self,
      hSame.entry]
  · intro me'' handle hNew hIs
    rw [Process.fds_setEntry, Function.update_self] at hNew
    cases hNew
    rw [hHandle] at hIs
    exact hSame.mail me handle hData hIs

/- Only descriptors and queues count. -/
theorem congr
    {s' t' : Process}
    (hSame : SameQueue fd s t)
    (hFds : s'.fds = s.fds)
    (hMail : s'.mail = s.mail)
    (hNext : s'.reportsNext = s.reportsNext)
    (hFds' : t'.fds = t.fds)
    (hMail' : t'.mail = t.mail)
    (hNext' : t'.reportsNext = t.reportsNext) :
    SameQueue fd s' t' := by
  constructor
  · rw [hFds, hFds']
    exact hSame.entry
  · rw [hFds, hMail, hMail']
    exact hSame.mail
  · rw [hNext, hNext']
    exact hSame.next

end SameQueue

/- A failing read sets an error and no more. -/
theorem alike_readError (fd : Fd) (e : Errno) :
    Alike (SameQueue fd) (do
      setErrno e
      return none : Exec (Option (List Bytes))) :=
  (Alike.modify fun _ _ hSame => hSame.setErrno e e).bind
    fun _ => Alike.pure _

theorem alike_setMail
    (fd : Fd)
    (name : Bytes)
    (queue : List Bytes) :
    Alike (SameQueue fd)
      (modify fun s => s.setMail name queue : Exec Unit) :=
  Alike.modify fun _ _ hSame => hSame.setMail name queue

/- What is read is what the queue holds. -/
theorem alike_readQueue (env : ReadEnv) (fd : Fd) :
    Alike (SameQueue fd) (readFd env fd) := by
  unfold readFd
  apply Alike.get_bind
  · intro s t hSame
    rw [← hSame.entry, ← hSame.next]
    cases (s.fds fd).function with
    | none => rfl
    | some handler =>
        cases handler with
        | lsckSocketFsext => rfl
        | mailslotHandler =>
            cases hData : (s.fds fd).data with
            | none => rfl
            | some data =>
                cases data with
                | lsd p => rfl
                | mailslot me =>
                    cases hHandle : me.handle with
                    | none => simp only [hHandle]
                    | some handle =>
                        simp only [hHandle,
                          hSame.mail me handle hData hHandle]
  · intro s
    split
    · exact Alike.ite (Alike.stop _) (alike_readError fd _)
    · exact Alike.stop _
    split
    · exact alike_readError fd _
    · exact Alike.stop _
    split
    · exact alike_readError fd _
    apply Alike.bind (alike_setMail fd _ _)
    intro _
    split
    · exact Alike.ite (Alike.stop _)
        (Alike.ite (alike_readError fd _) (Alike.pure _))
    apply Alike.ite
    · exact Alike.ite (Alike.stop _) (Alike.pure _)
    apply Alike.ite
    · exact (alike_setMail fd _ _).bind fun _ => Alike.pure _
    split
    · exact Alike.stop _
    · exact (alike_setMail fd _ _).bind fun _ => Alike.pure _

theorem alike_ioctlPeek (fd : Fd) (pflag : Bool) :
    Alike (SameQueue fd) (ioctlPeek fd pflag) := by
  intro s t hSame
  unfold ioctlPeek modifyMailslot
  rw [run_bind_ok (run_get s), run_bind_ok (run_get t),
    ← hSame.entry]
  cases hFunction : (s.fds fd).function with
  | none => exact ⟨rfl, hSame.setErrno _ _⟩
  | some handler =>
      cases handler with
      | lsckSocketFsext => rfl
      | mailslotHandler =>
          cases hData : (s.fds fd).data with
          | none => exact ⟨rfl, hSame.setErrno _ _⟩
          | some data =>
              cases data with
              | lsd p => rfl
              | mailslot me =>
                  refine ⟨rfl, ?_⟩
                  apply hSame.setMailslot hData
                  dsimp only
                  split
                  · rfl
                  · rfl

theorem alike_readPacket
    (env : ReadEnv)
    (peek : Bool)
    (fd : Fd) :
    Alike (SameQueue fd) (readPacket env peek fd) := by
  have hPeek : ∀ pflag, Alike (SameQueue fd)
      (when peek (ioctlPeek fd pflag)) :=
    fun pflag => Alike.ite (alike_ioctlPeek fd pflag)
      (Alike.pure _)
  apply Alike.bind (hPeek true)
  intro _
  apply Alike.bind (alike_readQueue env fd)
  intro taken
  exact (hPeek false).bind fun _ => Alike.pure _

------------------------------------------------------------
-- Clean Reads
------------------------------------------------------------

/-
  Every message that the loop reads fits the buffer and is
  clean. The loop goes on after a packet of no bytes.
-/
def CleanReads
    (verdict : UnixMsgHeader → Verdict)
    (clean : Bytes → Prop)
    (fd : Fd)
    (peeking : Bool) :
    List ReadEnv → Bool → Process → Prop
| [], _, _ => True
| r :: rs, bad, s => ∀ ms t,
    readPacket r (!bad && peeking) fd s = .ok (some ms, t) →
    ms.flatten.length ≤ mailslotSendsize ∧
    clean ms.flatten ∧
    ∀ offset, verdict (UnixMsgHeader.decode ms.flatten) =
        .copy offset 0 →
      CleanReads verdict clean fd peeking rs false t

/- It does not matter what else the state holds. -/
theorem CleanReads.congr
    {verdict : UnixMsgHeader → Verdict}
    {clean : Bytes → Prop}
    {fd : Fd}
    {peeking bad : Bool}
    {reads : List ReadEnv}
    {s t : Process}
    (hSame : SameQueue fd s t)
    (hClean : CleanReads verdict clean fd peeking reads bad s) :
    CleanReads verdict clean fd peeking reads bad t := by
  induction reads generalizing bad s t with
  | nil => trivial
  | cons r rs ih =>
      intro ms t' hRead
      rcases (alike_readPacket r (!bad && peeking)
        fd).exists_left hSame hRead with ⟨s', hRun, hSame'⟩
      rcases hClean ms s' hRun with ⟨hFits, hIs, hMore⟩
      refine ⟨hFits, hIs, ?_⟩
      intro offset hNone
      exact ih hSame' (hMore offset hNone)

/- Blocks and the packet buffer are as they were. -/
structure SameMemory (s s' : Process) : Prop where
  heap : s'.heap = s.heap
  recvBuf : s'.recvBuf = s.recvBuf

theorem SameMemory.refl (s : Process) : SameMemory s s :=
  ⟨rfl, rfl⟩

theorem SameMemory.trans
    {s t u : Process}
    (hLeft : SameMemory s t)
    (hRight : SameMemory t u) :
    SameMemory s u :=
  ⟨hRight.heap.trans hLeft.heap,
    hRight.recvBuf.trans hLeft.recvBuf⟩

abbrev MemoryCmd {α : Type} (m : Exec α) : Prop :=
  Within SameMemory m

theorem MemoryCmd.bind
    {α β : Type}
    {m : Exec α}
    {f : α → Exec β}
    (hFirst : MemoryCmd m)
    (hRest : ∀ a, MemoryCmd (f a)) :
    MemoryCmd (m >>= f) :=
  Within.bind (fun _ _ _ h₁ h₂ => h₁.trans h₂) hFirst hRest

theorem MemoryCmd.pure {α : Type} (a : α) :
    MemoryCmd (pure a : Exec α) :=
  Within.pure SameMemory.refl a

theorem memory_setErrno (e : Errno) :
    MemoryCmd (setErrno e) :=
  Within.modify fun _ => ⟨rfl, rfl⟩

theorem memory_setMail
    (name : Bytes)
    (queue : List Bytes) :
    MemoryCmd (modify fun s => s.setMail name queue :
      Exec Unit) :=
  Within.modify fun _ => ⟨rfl, rfl⟩

/- Reading touches neither. -/
theorem memory_readFd (env : ReadEnv) (fd : Fd) :
    MemoryCmd (readFd env fd) := by
  have hErr : ∀ e, MemoryCmd (do
      setErrno e
      return none : Exec (Option (List Bytes))) :=
    fun e => (memory_setErrno e).bind fun _ => MemoryCmd.pure _
  unfold readFd
  apply MemoryCmd.bind (Within.get SameMemory.refl)
  intro s
  split
  · exact Within.ite (Within.stop _) (hErr _)
  · exact Within.stop _
  split
  · exact hErr _
  · exact Within.stop _
  split
  · exact hErr _
  apply MemoryCmd.bind (memory_setMail _ _)
  intro _
  split
  · exact Within.ite (Within.stop _)
      (Within.ite (hErr _) (MemoryCmd.pure _))
  apply Within.ite
  · exact Within.ite (Within.stop _) (MemoryCmd.pure _)
  apply Within.ite
  · exact (memory_setMail _ _).bind fun _ => MemoryCmd.pure _
  split
  · exact Within.stop _
  · exact (memory_setMail _ _).bind fun _ => MemoryCmd.pure _

theorem memory_ioctlPeek (fd : Fd) (pflag : Bool) :
    MemoryCmd (ioctlPeek fd pflag) := by
  unfold ioctlPeek modifyMailslot
  apply MemoryCmd.bind (Within.get SameMemory.refl)
  intro s
  split
  · exact memory_setErrno _
  · exact Within.stop _
  split
  · exact memory_setErrno _
  · exact Within.stop _
  · exact Within.modify fun _ => ⟨rfl, rfl⟩

theorem memory_readPacket
    (env : ReadEnv)
    (peek : Bool)
    (fd : Fd) :
    MemoryCmd (readPacket env peek fd) := by
  have hPeek : ∀ pflag,
      MemoryCmd (when peek (ioctlPeek fd pflag)) :=
    fun pflag => Within.when SameMemory.refl
      (memory_ioctlPeek fd pflag)
  apply MemoryCmd.bind (hPeek true)
  intro _
  apply MemoryCmd.bind (memory_readFd env fd)
  intro taken
  exact (hPeek false).bind fun _ => MemoryCmd.pure _

/- The bytes that a clean message gives to the caller. -/
theorem copyOut_message
    {stale m : Bytes}
    {around : Int → UInt8}
    {offset : Int}
    {n : Nat}
    (hFits : m.length ≤ stale.length)
    (hCopies : (Verdict.copy offset n).CopiesWithin m.length)
    (hSome : n ≠ 0) :
    copyOut (overlay stale m) around offset n =
      (m.drop offset.toNat).take n := by
  rcases hCopies with hNone | ⟨hLow, hHigh⟩
  · exact absurd hNone hSome
  have hOffset : offset = (offset.toNat : Int) := by omega
  have hRoom : offset.toNat + n ≤
      (overlay stale m).length := by
    rw [length_overlay]
    omega
  rw [hOffset, copyOut_eq hRoom, overlay_message hFits,
    List.drop_append_of_le_length (by omega),
    List.take_append_of_le_length
      (by rw [List.length_drop]; omega)]
  rfl

------------------------------------------------------------
-- Streams
------------------------------------------------------------

/-
  Two states that agree on a socket, its data and the queue
  that it reads. They may differ in all the rest.
-/
structure Twins
    (p : Ptr)
    (lsd : LsckSocket)
    (usock : LsckSocketUnix)
    (s t : Process) : Prop where
  left : s.HasUnix p lsd usock
  right : t.HasUnix p lsd usock
  queue : SameQueue usock.fdR s t
  room : s.recvBuf.length = mailslotSendsize
  room' : t.recvBuf.length = mailslotSendsize

/- Both runs read the same, if both return. -/
theorem readPacket_alike
    {env : ReadEnv}
    {peek : Bool}
    {fd : Fd}
    {taken taken' : Option (List Bytes)}
    {s s' t t' : Process}
    (hSame : SameQueue fd s t)
    (hLeft : readPacket env peek fd s = .ok (taken, s'))
    (hRight : readPacket env peek fd t = .ok (taken', t')) :
    taken' = taken ∧ SameQueue fd s' t' := by
  have hAlike := alike_readPacket env peek fd s t hSame
  rw [hLeft, hRight] at hAlike
  exact ⟨hAlike.1.symm, hAlike.2⟩

/- The update of `seq_r`, if there is one, keeps the twins. -/
theorem Twins.gotPacket
    {p : Ptr}
    {lsd : LsckSocket}
    {usock : LsckSocketUnix}
    {header : UnixMsgHeader}
    {s s' t t' : Process}
    {u v : Unit}
    (hTwins : Twins p lsd usock s t)
    (hLeft : when (header.type &&& unixMsgDgramBit = 0)
      (modifyUnix lsd.idata fun usock =>
        { usock with
          seqR := modMaxintUnsigned
            (usock.seqR + recvlen header) }) s = .ok (u, s'))
    (hRight : when (header.type &&& unixMsgDgramBit = 0)
      (modifyUnix lsd.idata fun usock =>
        { usock with
          seqR := modMaxintUnsigned
            (usock.seqR + recvlen header) }) t = .ok (v, t')) :
    ∃ seqR, Twins p lsd { usock with seqR := seqR } s' t' ∧
      SameQueue usock.fdR s s' := by
  unfold when at hLeft hRight
  split at hLeft
  next hStream =>
      rw [if_pos hStream] at hRight
      rcases modifyUnix_hasUnix hTwins.left hLeft with
        ⟨hUnix, hFds, hMail, hNext, hBuffer⟩
      rcases modifyUnix_hasUnix hTwins.right hRight with
        ⟨hUnix', hFds', hMail', hNext', hBuffer'⟩
      refine ⟨_, ⟨hUnix, hUnix', ?_, ?_, ?_⟩, ?_⟩
      · exact hTwins.queue.congr hFds hMail hNext hFds' hMail'
          hNext'
      · rw [hBuffer]
        exact hTwins.room
      · rw [hBuffer']
        exact hTwins.room'
      · exact ⟨(congrFun hFds _).symm,
          fun _ _ _ _ => (congrFun hMail _).symm, hNext.symm⟩
  next hDgram =>
      rw [if_neg hDgram] at hRight
      cases hLeft
      cases hRight
      exact ⟨usock.seqR, hTwins,
        ⟨rfl, fun _ _ _ _ => rfl, rfl⟩⟩

/- Clean reads make the stream loop blind to the rest. -/
theorem recvLoop_twins
    {env env' : RecvEnv}
    {p : Ptr}
    {len : Nat}
    {peeking bad : Bool}
    {reads : List ReadEnv}
    {lsd : LsckSocket}
    {usock : LsckSocketUnix}
    {s s' t t' : Process}
    {x y : Int × Bytes}
    (hTwins : Twins p lsd usock s t)
    (hClean : CleanReads
      (streamVerdict lsd.accepted usock.secret len)
      (StreamClean lsd.accepted usock.secret len)
      usock.fdR peeking reads bad s)
    (hLeft : recvLoop env p len peeking reads bad s =
      .ok (x, s'))
    (hRight : recvLoop env' p len peeking reads bad t =
      .ok (y, t')) :
    y = x := by
  induction reads generalizing bad usock s t with
  | nil => cases hLeft
  | cons r rs ih =>
      rw [recvLoop_cons,
        run_bind_ok (derefSocket_run hTwins.left.socket),
        run_bind_ok (derefUnix_run hTwins.left)] at hLeft
      rw [recvLoop_cons,
        run_bind_ok (derefSocket_run hTwins.right.socket),
        run_bind_ok (derefUnix_run hTwins.right)] at hRight
      rcases bind_eq_ok.mp hLeft with
        ⟨taken, s₁, hRead, hActs⟩
      rcases bind_eq_ok.mp hRight with
        ⟨taken', t₁, hRead', hActs'⟩
      rcases readPacket_alike hTwins.queue hRead hRead' with
        ⟨rfl, hQueue⟩
      have hMemory := memory_readPacket _ _ _ _ _ _ hRead
      have hMemory' := memory_readPacket _ _ _ _ _ _ hRead'
      cases taken' with
      | none =>
          cases hActs
          cases hActs'
          rfl
      | some ms =>
          rcases hClean ms s₁ hRead with
            ⟨hFits, hIs, hMore⟩
          have hRoom : ms.flatten.length ≤
              s₁.recvBuf.length := by
            rw [hMemory.recvBuf, hTwins.room]
            exact hFits
          have hRoom' : ms.flatten.length ≤
              t₁.recvBuf.length := by
            rw [hMemory'.recvBuf, hTwins.room']
            exact hFits
          dsimp only at hActs hActs'
          rw [run_bind_ok (run_modify _ _)] at hActs hActs'
          unfold streamRound at hActs hActs'
          rw [run_bind_ok (run_get _)] at hActs hActs'
          dsimp only at hActs hActs'
          rw [decode_overlay hRoom hIs.1] at hActs
          rw [decode_overlay hRoom' hIs.1] at hActs'
          cases hVerdict : streamVerdict lsd.accepted
              usock.secret len
              (UnixMsgHeader.decode ms.flatten) with
          | close =>
              rw [hVerdict] at hActs hActs'
              rcases bind_eq_ok.mp hActs with
                ⟨_, s₂, -, hReset⟩
              rcases bind_eq_ok.mp hActs' with
                ⟨_, t₂, -, hReset'⟩
              cases hReset
              cases hReset'
              rfl
          | reject =>
              rw [hVerdict] at hActs hActs'
              have hSome : ms.flatten ≠ [] := by
                intro hNone
                have hHeader := hIs.1
                rw [hNone] at hHeader
                exact absurd hHeader (by decide)
              dsimp only at hActs hActs'
              rw [if_neg hSome] at hActs hActs'
              cases hActs
              cases hActs'
              rfl
          | copy offset n =>
              have hCopies := hIs.2
              rw [hVerdict] at hActs hActs' hCopies
              rcases bind_eq_ok.mp hActs with
                ⟨_, s₂, hMoves, hRest⟩
              rcases bind_eq_ok.mp hActs' with
                ⟨_, t₂, hMoves', hRest'⟩
              have hTwins₁ : Twins p lsd usock
                  { s₁ with
                    recvBuf := overlay s₁.recvBuf ms.flatten }
                  { t₁ with
                    recvBuf := overlay t₁.recvBuf
                      ms.flatten } := by
                refine ⟨?_, ?_, ?_, ?_, ?_⟩
                · exact hTwins.left.of_heap hMemory.heap
                · exact hTwins.right.of_heap hMemory'.heap
                · exact hQueue.congr rfl rfl rfl rfl rfl rfl
                · rw [length_overlay, hMemory.recvBuf]
                  exact hTwins.room
                · rw [length_overlay, hMemory'.recvBuf]
                  exact hTwins.room'
              rcases hTwins₁.gotPacket hMoves hMoves' with
                ⟨seqR, hTwins₂, hSame⟩
              split at hRest
              · cases hRest
              next hShort =>
                  rw [if_neg hShort] at hRest'
                  by_cases hNone : n = 0
                  · rw [if_pos hNone] at hRest hRest'
                    have hNext := hMore offset
                      (hNone ▸ hVerdict)
                    have hHere : SameQueue usock.fdR s₁ s₂ :=
                      ⟨hSame.entry, hSame.mail, hSame.next⟩
                    exact ih hTwins₂ (hNext.congr hHere) hRest
                      hRest'
                  · rw [if_neg hNone] at hRest hRest'
                    cases hRest
                    cases hRest'
                    rw [copyOut_message hRoom hCopies hNone,
                      copyOut_message hRoom' hCopies hNone]

------------------------------------------------------------
-- Datagrams
------------------------------------------------------------

/- The path of a clean datagram ends in the message. -/
theorem read?_message
    {stale m : Bytes}
    (hFits : m.length ≤ stale.length)
    (hHeader : headerSize ≤ m.length)
    (hEnds : 0 ∈ m.drop headerSize) :
    CString.read? ((overlay stale m).drop headerSize) =
      CString.read? (m.drop headerSize) := by
  have hRead : CString.read? (m.drop headerSize) = some
      ((m.drop headerSize).takeWhile fun b => b != 0) :=
    if_pos hEnds
  rw [overlay_message hFits,
    List.drop_append_of_le_length hHeader,
    CString.read?_append hRead, hRead]

/- The address that is stored comes from the message. -/
theorem storeSource_message
    {source : Option Nat}
    {stale stale' m : Bytes}
    (hFits : m.length ≤ stale.length)
    (hFits' : m.length ≤ stale'.length)
    (hHeader : headerSize ≤ m.length)
    (hEnds : source.isSome → 0 ∈ m.drop headerSize)
    (stored : Option Bytes) :
    storeSource source (overlay stale m) stored =
      storeSource source (overlay stale' m) stored := by
  cases source with
  | none => rfl
  | some fromlen =>
      have hPath := hEnds rfl
      unfold storeSource packetSource readString
      rw [read?_message hFits hHeader hPath,
        read?_message hFits' hHeader hPath]

/- Storing an address is up to the buffer alone. -/
theorem alike_storeSource
    (fd : Fd)
    (source : Option Nat)
    (buffer : Bytes)
    (stored : Option Bytes) :
    Alike (SameQueue fd) (storeSource source buffer stored) := by
  cases source with
  | none => exact Alike.pure _
  | some fromlen =>
      apply Alike.bind _ fun _ => Alike.pure _
      apply Alike.bind
      · unfold readString
        split
        · exact Alike.pure _
        · exact Alike.stop _
      intro text
      exact (Alike.ite (Alike.pure _) (Alike.stop _)).bind
        fun _ => Alike.pure _

/- Storing an address changes nothing else. -/
theorem storeSource_same
    {source : Option Nat}
    {buffer : Bytes}
    {stored stored' : Option Bytes}
    {s s' : Process}
    (hRun : storeSource source buffer stored s =
      .ok (stored', s')) :
    s' = s := by
  cases source with
  | none =>
      cases hRun
      rfl
  | some fromlen =>
      rcases bind_eq_ok.mp hRun with ⟨name, t, hName, hPure⟩
      cases hPure
      rcases bind_eq_ok.mp hName with ⟨text, u, hText, hRest⟩
      rcases readString_ok hText with ⟨rfl, -⟩
      rcases bind_eq_ok.mp hRest with ⟨path, v, hPath, hPure⟩
      cases hPure
      exact (copyInto_ok hPath).1

/- Clean reads make the datagram loop blind to the rest. -/
theorem recvDgramLoop_twins
    {around around' : Int → UInt8}
    {fdR : Fd}
    {len : Nat}
    {peeking bad : Bool}
    {source : Option Nat}
    {reads : List ReadEnv}
    {buffer buffer' : Bytes}
    {stored : Option Bytes}
    {s s' t t' : Process}
    {x y : Int × Bytes × Option Bytes}
    (hSame : SameQueue fdR s t)
    (hRoom : buffer.length = mailslotSendsize)
    (hRoom' : buffer'.length = mailslotSendsize)
    (hClean : CleanReads (dgramVerdict len)
      (DgramClean len source) fdR peeking reads bad s)
    (hLeft : recvDgramLoop around fdR len peeking source reads
      buffer stored bad s = .ok (x, s'))
    (hRight : recvDgramLoop around' fdR len peeking source reads
      buffer' stored bad t = .ok (y, t')) :
    y = x := by
  induction reads generalizing buffer buffer' stored bad s t with
  | nil => cases hLeft
  | cons r rs ih =>
      rcases bind_eq_ok.mp hLeft with
        ⟨taken, s₁, hRead, hActs⟩
      rcases bind_eq_ok.mp hRight with
        ⟨taken', t₁, hRead', hActs'⟩
      rcases readPacket_alike hSame hRead hRead' with
        ⟨rfl, hQueue⟩
      cases taken' with
      | none =>
          cases hActs
          cases hActs'
          rfl
      | some ms =>
          rcases hClean ms s₁ hRead with
            ⟨hFits, ⟨hHeader, hCopies, hEnds⟩, hMore⟩
          have hFit : ms.flatten.length ≤ buffer.length := by
            rw [hRoom]
            exact hFits
          have hFit' : ms.flatten.length ≤ buffer'.length := by
            rw [hRoom']
            exact hFits
          dsimp only at hActs hActs'
          rw [decode_overlay hFit hHeader] at hActs
          rw [decode_overlay hFit' hHeader] at hActs'
          by_cases hPacket : isDgramPacket
              (UnixMsgHeader.decode ms.flatten) = false
          · have hSome : ms.flatten ≠ [] := by
              intro hNone
              rw [hNone] at hHeader
              exact absurd hHeader (by decide)
            rw [if_pos hPacket, if_neg hSome] at hActs hActs'
            cases hActs
            cases hActs'
            rfl
          · rw [if_neg hPacket] at hActs hActs'
            have hVerdict : dgramVerdict len
                (UnixMsgHeader.decode ms.flatten) = .copy
                  (UnixMsgHeader.decode ms.flatten).offset
                  (min len (recvlen
                    (UnixMsgHeader.decode ms.flatten))) :=
              if_neg hPacket
            rw [hVerdict] at hCopies hEnds
            rw [storeSource_message hFit hFit' hHeader
              (hEnds (by simp))] at hActs
            rcases bind_eq_ok.mp hActs with
              ⟨stored₁, s₂, hStore, hRest⟩
            rcases bind_eq_ok.mp hActs' with
              ⟨stored₂, t₂, hStore', hRest'⟩
            have hAlike := alike_storeSource fdR source
              (overlay buffer' ms.flatten) stored s₁ t₁ hQueue
            rw [hStore, hStore'] at hAlike
            rcases hAlike with ⟨rfl, hQueue'⟩
            split at hRest
            · cases hRest
            next hShort =>
                rw [if_neg hShort] at hRest'
                by_cases hNone : min len (recvlen
                    (UnixMsgHeader.decode ms.flatten)) = 0
                · rw [if_pos hNone] at hRest hRest'
                  rw [hNone] at hVerdict
                  have hNext := hMore _ hVerdict
                  have hSteady := storeSource_same hStore
                  rw [← hSteady] at hNext
                  exact ih hQueue' (by rw [length_overlay, hRoom])
                    (by rw [length_overlay, hRoom']) hNext
                    hRest hRest'
                · rw [if_neg hNone] at hRest hRest'
                  cases hRest
                  cases hRest'
                  rw [copyOut_message hFit hCopies hNone,
                    copyOut_message hFit' hCopies hNone]

------------------------------------------------------------
-- Runs
------------------------------------------------------------

/- A receive on one of the sockets of a process. -/
inductive Receive
  | stream (env : RecvEnv) (p : Ptr) (len flags : Nat)
  | dgram
      (env : RecvDgramEnv)
      (p : Ptr)
      (len flags : Nat)
      (source : Option Nat)

namespace Receive

def socket : Receive → Ptr
| .stream _ p _ _ => p
| .dgram _ p _ _ _ => p

/- The return value, the bytes, and the address if any. -/
def exec : Receive → Exec (Int × Bytes × Option Bytes)
| .stream env p len flags => do
    let x ← unixRecvStream env p len flags
    return (x.1, x.2, none)
| .dgram env p len flags source =>
    unixRecvDgram env p len flags source

/-
  The same call, with the same arrivals, in another place:
  other memory around the buffer, and other bytes left in
  it.
-/
inductive Like : Receive → Receive → Prop
  | stream
      {env env' : RecvEnv}
      {p : Ptr}
      {len flags : Nat}
      (reads : env'.reads = env.reads) :
      Like (.stream env p len flags) (.stream env' p len flags)
  | dgram
      {env env' : RecvDgramEnv}
      {p : Ptr}
      {len flags : Nat}
      {source : Option Nat}
      (reads : env'.reads = env.reads) :
      Like (.dgram env p len flags source)
        (.dgram env' p len flags source)

/- Every message that the call reads is clean. -/
def Clean : Receive → Process → Prop
| .stream env p len flags, s => ∀ lsd usock,
    s.HasUnix p lsd usock →
    CleanReads (streamVerdict lsd.accepted usock.secret len)
      (StreamClean lsd.accepted usock.secret len) usock.fdR
      (flags &&& msgPeek == msgPeek) env.reads false s
| .dgram env p len flags source, s => ∀ lsd usock,
    s.HasUnix p lsd usock →
    CleanReads (dgramVerdict len) (DgramClean len source)
      usock.fdR (flags &&& msgPeek == msgPeek) env.reads false s

/- A clean call delivers the same among all twins. -/
theorem exec_twins
    {c c' : Receive}
    {lsd : LsckSocket}
    {usock : LsckSocketUnix}
    {s s' t t' : Process}
    {x y : Int × Bytes × Option Bytes}
    (hLike : c.Like c')
    (hTwins : Twins c.socket lsd usock s t)
    (hClean : c.Clean s)
    (hLeft : c.exec s = .ok (x, s'))
    (hRight : c'.exec t = .ok (y, t')) :
    y = x := by
  cases hLike with
  | @stream env env' p len flags hReads =>
      rcases bind_eq_ok.mp hLeft with ⟨x', u, hRecv, hPure⟩
      rcases bind_eq_ok.mp hRight with
        ⟨y', u', hRecv', hPure'⟩
      cases hPure
      cases hPure'
      unfold unixRecvStream at hRecv hRecv'
      rw [hReads] at hRecv'
      have hSame := recvLoop_twins hTwins
        (hClean lsd usock hTwins.left) hRecv hRecv'
      rw [hSame]
  | @dgram env env' p len flags source hReads =>
      change unixRecvDgram env p len flags source s = _ at hLeft
      change unixRecvDgram env' p len flags source t = _
        at hRight
      change Twins p lsd usock s t at hTwins
      unfold unixRecvDgram at hLeft hRight
      rw [run_bind_ok (derefSocket_run hTwins.left.socket)]
        at hLeft
      rw [run_bind_ok (derefSocket_run hTwins.right.socket)]
        at hRight
      by_cases hType : lsd.type ≠ sockDgram
      · rw [if_pos hType] at hLeft hRight
        cases hLeft
        cases hRight
        rfl
      · rw [if_neg hType] at hLeft hRight
        rw [run_bind_ok (derefUnix_run hTwins.left)] at hLeft
        rw [run_bind_ok (derefUnix_run hTwins.right), hReads]
          at hRight
        exact recvDgramLoop_twins hTwins.queue
          List.length_ofFn List.length_ofFn
          (hClean lsd usock hTwins.left) hLeft hRight

end Receive

/- One receive of a run: its state, its call, its result. -/
structure Delivery where
  before : Process
  call : Receive
  result : Int × Bytes × Option Bytes

/- Receives in any order, on any sockets. -/
inductive ReceiveRun (s : Process) :
    List Delivery → Process → Prop
  | start : ReceiveRun s [] s
  | receive
      {deliveries : List Delivery}
      {t u : Process}
      {c : Receive}
      {x : Int × Bytes × Option Bytes}
      (earlier : ReceiveRun s deliveries t)
      (run : c.exec t = .ok (x, u)) :
      ReceiveRun s (deliveries ++ [⟨t, c, x⟩]) u

/-
  What was delivered is what the same call delivers in every
  state that agrees on the socket and its mailslot.
-/
def Isolated (d : Delivery) : Prop :=
  ∀ c' lsd usock t t' y, d.call.Like c' →
    Twins d.call.socket lsd usock d.before t →
    c'.exec t = .ok (y, t') → y = d.result

/-
  In every run whose receives all read clean messages, every
  receive is isolated from what was received before.
-/
theorem isolated_of_run
    {s t : Process}
    {deliveries : List Delivery}
    (hRun : ReceiveRun s deliveries t)
    (hClean : ∀ d ∈ deliveries, d.call.Clean d.before) :
    ∀ d ∈ deliveries, Isolated d := by
  induction hRun with
  | start =>
      intro d hD
      cases hD
  | receive _ hExec ih =>
      intro d hD
      rcases List.mem_append.mp hD with hEarlier | hLast
      · exact ih (fun e hE => hClean e
          (List.mem_append_left _ hE)) d hEarlier
      · have hHere := hClean d hD
        cases List.mem_singleton.mp hLast
        intro c' lsd usock u u' y hLike hTwins hOther
        exact Receive.exec_twins hLike hTwins hHere hExec hOther

------------------------------------------------------------
-- Stale Packets
------------------------------------------------------------

/- A receiving stream whose mailslot does not wait. -/
def streamReceiver : Process :=
  { (receiverProcess.setBlock 10 (some (.socket
      { namedSocket with type := sockStream }))).setBlock 11
        (some (.unix { LsckSocketUnix.cleared with
          secret := ⟨7, 1⟩
          fdW := -1
          fdR := 4 })) with
    fds := Function.update receiverProcess.fds 4
      ⟨true, some .mailslotHandler, some (.mailslot
        ⟨some (bytes "\\mailslot\\me"), none, false, false⟩)⟩
    recvBuf := List.replicate mailslotSendsize 0 }

/- A receive of two bytes with these reads. -/
def Receive.reading (reads : List ReadEnv) : Receive :=
  .stream ⟨reads, fun _ => 0, ⟨true, .zero⟩,
    fun _ => return 0, fun _ => return 0⟩ 10 2 0

/- The packet has not arrived yet. -/
def Receive.first : Receive :=
  .reading [⟨[packetOf ⟨7, 1⟩ 2 [97, 98]], false, .zero⟩]

/- The mailslot is empty: one read answers 0, one fails. -/
def Receive.second : Receive :=
  .reading [⟨[], false, .zero⟩, ⟨[], true, Errno.EIO⟩]

theorem streamReceiver_hasUnix :
    streamReceiver.HasUnix 10
      { namedSocket with type := sockStream }
      { LsckSocketUnix.cleared with
        secret := ⟨7, 1⟩
        fdW := -1
        fdR := 4 } :=
  ⟨rfl, 11, rfl, rfl⟩

/- A packet as long as it says is clean. -/
theorem Receive.first_clean :
    Receive.first.Clean streamReceiver := by
  intro lsd usock hUnix
  rcases hUnix with ⟨hSocket, q, hQ, hData⟩
  cases hSocket
  cases hQ
  cases hData
  intro ms u hRead
  have hTaken : ∃ u', readPacket
      ⟨[packetOf ⟨7, 1⟩ 2 [97, 98]], false, .zero⟩ false 4
      streamReceiver =
        .ok (some [packetOf ⟨7, 1⟩ 2 [97, 98]], u') :=
    exists_run_of_answer (by decide +kernel)
  rcases hTaken with ⟨u', hTaken⟩
  cases hTaken.symm.trans hRead
  have hVerdict : streamVerdict false ⟨7, 1⟩ 2
      (UnixMsgHeader.decode
        [packetOf ⟨7, 1⟩ 2 [97, 98]].flatten) =
          .copy 20 2 := by decide +kernel
  constructor
  · decide +kernel
  constructor
  · constructor
    · decide +kernel
    · change (streamVerdict false ⟨7, 1⟩ 2 _).CopiesWithin _
      rw [hVerdict]
      exact .inr ⟨by decide, by decide +kernel⟩
  · intro offset hNone
    change streamVerdict false ⟨7, 1⟩ 2 _ = _ at hNone
    rw [hVerdict] at hNone
    cases hNone

/- A receive of a packet that is there. -/
theorem isolated_of_packet :
    ∃ x t, ReceiveRun streamReceiver
        [⟨streamReceiver, .first, x⟩] t ∧
      Isolated ⟨streamReceiver, .first, x⟩ := by
  have hFirst : ∃ t, Receive.first.exec streamReceiver =
      .ok ((2, [97, 98], none), t) :=
    exists_run_of_answer (by decide +kernel)
  rcases hFirst with ⟨t, hFirst⟩
  have hRun : ReceiveRun streamReceiver
      [⟨streamReceiver, .first, (2, [97, 98], none)⟩] t :=
    .receive .start hFirst
  refine ⟨_, t, hRun, isolated_of_run hRun ?_ _
    (List.mem_singleton_self _)⟩
  intro d hD
  cases List.mem_singleton.mp hD
  exact Receive.first_clean

/-
  The second receive finds nothing, and delivers the bytes
  of the first once more. It would not have done so without
  what the first left in the packet buffer.
-/
theorem stale_packet_delivered :
    ¬ ∀ (s t : Process) (deliveries : List Delivery),
      ReceiveRun s deliveries t →
        ∀ d ∈ deliveries, Isolated d := by
  intro hAlways
  have hTwice : answer (do
      let _ ← Receive.first.exec
      let lsd ← derefSocket 10
      let _ ← deref Block.unix? lsd.idata
      let s ← get
      let y ← Receive.second.exec
      return (s.recvBuf.length, y)) streamReceiver =
        some (mailslotSendsize, 2, [97, 98], none) := by
    decide +kernel
  have hBlank : answer (do
      let _ ← Receive.first.exec
      modify fun s => { s with
        recvBuf := List.replicate mailslotSendsize 0 }
      Receive.second.exec) streamReceiver =
        some (-1, [], none) := by
    decide +kernel
  rcases exists_run_of_answer hTwice with ⟨u, hRun⟩
  rcases bind_eq_ok.mp hRun with ⟨x, t, hFirst, hLooks⟩
  rcases bind_eq_ok.mp hLooks with ⟨lsd, t₁, hLsd, hRest⟩
  rcases derefSocket_ok hLsd with ⟨hSame₁, hSocket⟩
  subst hSame₁
  rcases bind_eq_ok.mp hRest with ⟨usock, t₂, hData, hLast⟩
  rcases derefUnix_ok hData with ⟨hSame₂, hUnix⟩
  subst hSame₂
  rw [run_bind_ok (run_get _)] at hLast
  rcases bind_eq_ok.mp hLast with ⟨y, u', hSecond, hPure⟩
  have hAll := Except.ok.inj hPure
  rcases exists_run_of_answer hBlank with ⟨v, hBlank⟩
  rw [run_bind_ok hFirst, run_bind_ok (run_modify _ _)]
    at hBlank
  have hIsolated := hAlways _ _ _
    (.receive (.receive .start hFirst) hSecond) ⟨t₂, .second, y⟩
    (by simp)
  have hTwins : Twins 10 lsd usock t₂
      { t₂ with
        recvBuf := List.replicate mailslotSendsize 0 } := by
    constructor
    · exact ⟨hSocket, hUnix⟩
    · exact ⟨hSocket, hUnix⟩
    · exact ⟨rfl, fun _ _ _ _ => rfl, rfl⟩
    · exact congrArg (·.1.1) hAll
    · exact List.length_replicate
  have hSame := hIsolated _ _ _ _ _ _ (.stream rfl) hTwins
    hBlank
  have hTwo : y = (2, [97, 98], none) :=
    congrArg (·.1.2) hAll
  rw [hTwo] at hSame
  cases hSame

end Libsocket
