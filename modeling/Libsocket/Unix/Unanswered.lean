import Libsocket.MailslotBlocking
import Libsocket.Unix.Stages

/-
  Calls on mailslots that fail for ever, and who waits for
  them: the loops of a blocking descriptor, and the connect
  that writes its request to a mailslot that is not there.

  Main declarations:
    * `KeepsOpen`
    * `ConnectAsks`, `ConnectReports`
    * `writeFd_blocked_iff`, `connect_blocked`
    * `failures_reported_iff`
-/

namespace Libsocket

open Command

------------------------------------------------------------
-- Open Numbers
------------------------------------------------------------

/- The entries of open descriptor numbers stay the same. -/
def KeepsOpen (s t : Process) : Prop :=
  ∀ fd, (s.fds fd).dosOpen = true → t.fds fd = s.fds fd

theorem fileFrame_keepsOpen : FileFrame KeepsOpen := by
  constructor
  · exact fun _ _ _ => rfl
  · intro s t u hLeft hRight fd hOpen
    have hSame := hLeft fd hOpen
    rw [hRight fd (by rw [hSame]; exact hOpen), hSame]
  · intro s t _ hFds fd _
    rw [hFds]
  · intro s n e hFree fd hOpen
    have hNe : fd ≠ n := by
      rintro rfl
      rw [hOpen] at hFree
      cases hFree
    rw [Process.fds_setEntry, Function.update_of_ne hNe]

theorem KeepsOpen.hasMailslot
    {s t : Process}
    {fd : Fd}
    {me : MailslotFsext}
    (hKeeps : KeepsOpen s t)
    (hMail : s.HasMailslot fd me) :
    t.HasMailslot fd me := by
  unfold Process.HasMailslot at hMail ⊢
  rw [hKeeps fd (by rw [hMail]), hMail]

------------------------------------------------------------
-- Writes Of A Process
------------------------------------------------------------

/- The answers of DOS behind a write of the process. -/
def WriteEnv.Sees
    (env : WriteEnv)
    (answers : Nat → DosWrite) : Prop :=
  env.delivered = true ↔ ∃ j, (answers j).isOk = true

/- A blocking descriptor waits for a call that succeeds. -/
theorem writeFd_blocked
    (env : WriteEnv)
    {fd : Fd}
    {message : Bytes}
    {me : MailslotFsext}
    {name : Bytes}
    {s : Process}
    (hMail : s.HasMailslot fd me)
    (hName : me.name = some name)
    (hBlocking : me.blocking = true)
    (hSome : message ≠ [])
    (hFails : env.delivered = false) :
    writeFd env fd message s = .error .blocked := by
  unfold writeFd
  rw [run_bind_ok (run_get s), hMail]
  dsimp only
  rw [hName]
  dsimp only
  rw [if_neg hSome, hFails, if_neg (by decide),
    if_pos hBlocking]
  rfl

theorem writeFd_delivered
    {env : WriteEnv}
    {fd : Fd}
    {message : Bytes}
    {me : MailslotFsext}
    {name : Bytes}
    {s : Process}
    (hMail : s.HasMailslot fd me)
    (hName : me.name = some name)
    (hSome : message ≠ [])
    (hSent : env.delivered = true) :
    writeFd env fd message s =
      .ok (message.length,
        s.deliverTo (backslashify name) message) := by
  unfold writeFd
  rw [run_bind_ok (run_get s), hMail]
  dsimp only
  rw [hName]
  dsimp only
  rw [if_neg hSome, if_pos hSent]
  rfl

/-
  The write of a process waits for ever if and only if the
  write case of the extension does not report, given the
  same answers.
-/
theorem writeFd_blocked_iff
    {init : InitEnv}
    {env : WriteEnv}
    {answers : Nat → DosWrite}
    {fd : Fd}
    {args : TransferArgs}
    {message name : Bytes}
    {me : MailslotFsext}
    {entry : FsextEntry}
    {s : Process}
    {tables : MailTables}
    (hSees : env.Sees answers)
    (hMail : s.HasMailslot fd me)
    (hName : me.name = some name)
    (hBlocking : me.blocking = true)
    (hOpened : OpenedFsext tables fd entry)
    (hEntry : entry.name = some name)
    (hLoops : entry.blocking = true)
    (hBuf : args.buf = some message)
    (hLen : args.len = message.length)
    (hSome : message ≠ [])
    (hIndex : IndexFits args.len) :
    writeFd env fd message s = .error .blocked ↔
      ¬ Reported (writeHandler init answers fd args)
        tables := by
  have hPos := List.length_pos_iff.mpr hSome
  unfold WriteEnv.Sees at hSees
  have hGoes : ¬ WriteRefused entry args := by
    unfold WriteRefused
    rw [hEntry, hBuf]
    rintro (hNone | hNone | hNo)
    · cases hNone
    · cases hNone
    · omega
  rw [writeHandler_reported_iff hOpened hLoops,
    or_iff_right hGoes, and_iff_right hIndex, ← hSees]
  cases hSent : env.delivered with
  | true =>
      rw [writeFd_delivered hMail hName hSome hSent]
      simp
  | false =>
      rw [writeFd_blocked env hMail hName hBlocking hSome hSent]
      simp

------------------------------------------------------------
-- Connecting
------------------------------------------------------------

/-
  A connect up to the write of its request: the control
  mailslot is open at `fd` and the socket has a name.
-/
def ConnectAsks
    (env : UnixConnectEnv)
    (p : Ptr)
    (serv : Bytes)
    (s : Process) : Prop :=
  ∃ lsd server fd ret req t₀ t₁ t₂ t,
    s.heap p = some (.socket lsd) ∧
    CString.read? (serv.drop 2) = some server ∧
    (unixLocalPath ++ server).length < maxPath ∧
    modifyUnix lsd.idata (fun usock =>
      { usock with
        peerpath := List.replicate sockaddrMaxSize 0 }) s =
      .ok ((), t₀) ∧
    openFile env.openCtl (unixLocalPath ++ server)
      .wronly t₀ = .ok (fd, t₁) ∧ fd ≠ -1 ∧
    bindHere env.bind env.nameRandom lsd t₁ =
      .ok (ret, t₂) ∧ ret ≠ -1 ∧
    unixConnectRequest env lsd.idata t₂ = .ok (req, t)

/-
  The connect fails with `ENETUNREACH`, and the socket is
  bound if it was before.
-/
def ConnectReports
    (env : UnixConnectEnv)
    (p : Ptr)
    (serv : Bytes)
    (s : Process) : Prop :=
  ∃ s', unixConnect env p serv s = .ok (-1, s') ∧
    s'.errno = .ENETUNREACH ∧
    (s'.socket? p).map LsckSocket.bound =
      (s.socket? p).map LsckSocket.bound

/- A request that nobody takes is written for ever. -/
theorem connect_blocked
    {env : UnixConnectEnv}
    {p : Ptr}
    {serv : Bytes}
    {s : Process}
    (hAsks : ConnectAsks env p serv s)
    (hFails : env.write.delivered = false) :
    unixConnect env p serv s = .error .blocked := by
  rcases hAsks with
    ⟨lsd, server, fd, ret, req, t₀, t₁, t₂, t, hLsd, hServer,
      hFits, hClear, hOpen, hFd, hBind, hRet, hReq⟩
  have hWriter := openFile_writer hOpen hFd
  have hBound := (fileFrame_keepsOpen.bindHere _ _ _ _ _ _
    hBind).hasMailslot hWriter
  rcases unixConnectRequest_ok hReq with
    ⟨q, usock, sockpath, -, -, -, -, -, -, rfl⟩
  have hSome : UnixMsgOpen.encode req ≠ [] := by
    intro hNone
    have hLength := congrArg List.length hNone
    rw [UnixMsgOpen.encode, List.length_append,
      UnixMsgHeader.length_encode, List.length_nil] at hLength
    unfold headerSize at hLength
    omega
  let asked := t₂.setBlock q (some (.unix
    { usock with
      secret := req.header.secret
      seqW := modMaxint (req.header.seqEnd + 1) }))
  have hFds : asked.fds = t₂.fds := rfl
  have hWrite := writeFd_blocked env.write (hBound.of_fds hFds)
    rfl rfl hSome hFails
  have hSun : sunPath serv t₀ = .ok (server, t₀) :=
    readString_run hServer t₀
  unfold unixConnect
  rw [run_bind_ok (derefSocket_run hLsd), run_bind_ok hClear,
    run_bind_ok hSun, run_bind_ok (fits_run hFits t₀),
    run_bind_ok hOpen, if_neg hFd, run_bind_ok hBind,
    if_neg hRet, run_bind_ok hReq]
  apply run_bind_error
  unfold unixConnectExchange
  exact run_bind_error hWrite

------------------------------------------------------------
-- Failing Calls
------------------------------------------------------------

/-
  The calls of a blocking descriptor report what becomes of
  them if and only if they are refused or a call of DOS
  succeeds: a write with any of its chunks, a read with an
  answer that completes it. A connect whose request nobody
  takes is never answered.
-/
theorem failures_reported_iff
    (init : InitEnv)
    {tables : MailTables}
    {fd : Fd}
    {me : FsextEntry}
    (hOpened : OpenedFsext tables fd me)
    (hBlocking : me.blocking = true) :
    (∀ answers args,
      Reported (writeHandler init answers fd args) tables ↔
        WriteRefused me args ∨
          IndexFits args.len ∧
            ∃ j, (answers j).isOk = true) ∧
    (∀ answers args,
      Reported (readHandler init answers fd args) tables ↔
        ReadRefused me args ∨
          ∃ j, ReadEnds answers me.peeking j) ∧
    ∀ (env : UnixConnectEnv) answers p serv s,
      env.write.Sees answers →
      (∀ j, (answers j).isOk = false) →
      ConnectAsks env p serv s →
      ¬ ConnectReports env p serv s := by
  refine ⟨fun answers args => ?_, fun answers args => ?_, ?_⟩
  · exact writeHandler_reported_iff hOpened hBlocking
  · exact readHandler_reported_iff hOpened hBlocking
  · rintro env answers p serv s hSees hFail hAsks
      ⟨s', hRun, -⟩
    have hNone : env.write.delivered = false := by
      by_contra hSent
      rcases hSees.mp (Bool.eq_true_of_not_eq_false hSent) with
        ⟨j, hOk⟩
      rw [hFail j] at hOk
      cases hOk
    rw [connect_blocked hAsks hNone] at hRun
    cases hRun

/- A mailslot of a remote host, open for writing. -/
def writerEntry : FsextEntry where
  fd := 5
  handle := none
  name := some (bytes "//peer/mailslot/log")
  blocking := true
  peeking := false

/- A mailslot of this host, open for reading. -/
def readerEntry : FsextEntry where
  fd := 6
  handle := some 9
  name := none
  blocking := true
  peeking := false

/- The library with both. -/
def twoDescriptors : MailTables :=
  { MailTables.ready with
    descriptors := fun fd =>
      if fd = 5 then some (some writerEntry)
      else if fd = 6 then some (some readerEntry)
      else none }

theorem opened_writer :
    OpenedFsext twoDescriptors 5 writerEntry := by
  refine ⟨rfl, rfl, ?_⟩
  intro name hName
  cases hName
  decide

theorem opened_reader :
    OpenedFsext twoDescriptors 6 readerEntry := by
  refine ⟨rfl, rfl, ?_⟩
  intro name hName
  cases hName

/- One byte to be written, or room for one. -/
def oneByteArgs : TransferArgs where
  buf := some [0]
  len := 1
  room := by
    intro b hB
    cases hB
    decide

theorem write_reported :
    Reported (writeHandler ⟨true, none⟩
      (fun j => if j = 3 then .ok () else .error .EAGAIN) 5
      oneByteArgs) twoDescriptors :=
  ((failures_reported_iff ⟨true, none⟩ opened_writer rfl).1 _
    _).mpr (.inr ⟨by decide, 3, rfl⟩)

/- With nothing but errors both loops go on for ever. -/
theorem failures_unreported :
    ¬ Reported (writeHandler ⟨true, none⟩
        (fun _ => .error .EAGAIN) 5 oneByteArgs)
        twoDescriptors ∧
      ¬ Reported (readHandler ⟨true, none⟩
        (fun _ => .error .EAGAIN) 6 oneByteArgs)
        twoDescriptors := by
  constructor
  · rw [writeHandler_reported_iff opened_writer rfl]
    rintro ((hNone | hNone | hNo) | ⟨-, j, hOk⟩)
    · cases hNone
    · cases hNone
    · exact absurd hNo (by decide)
    · cases hOk
  · rw [readHandler_reported_iff opened_reader rfl]
    rintro ((hNone | hNone | hNo) | ⟨j, m, hM, -⟩)
    · cases hNone
    · cases hNone
    · exact absurd hNo (by decide)
    · cases hM

end Libsocket
