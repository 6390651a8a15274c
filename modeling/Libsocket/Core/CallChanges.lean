import Libsocket.Core.Changes

/-
  What connecting, sending, receiving and creating sockets
  make of the descriptors that exist.

  Main declarations:
    * `changes_unixConnect`, `changes_interfaceConnect`
    * `changes_sendto`
    * `changes_recv`, `changes_recvfrom`
    * `changes_socketx`, `changes_accept`
    * `changes_socketpair`
    * `OwnsCall`, `changes_socketExec`
-/

namespace Libsocket

open Command

section Calls

variable {own : Ptr → Prop}
variable {A : Block → Block → Prop} [Tolerates A]

------------------------------------------------------------
-- Connecting
------------------------------------------------------------

/- The descriptor is bound on the way only if it was not. -/
theorem changes_bindHere
    {env : BindEnv}
    {n : Fin 2147483648}
    {p : Ptr}
    {lsd : LsckSocket}
    {s s' : Process}
    {r : Int}
    (hData : (s.fds lsd.fd).data = some (.lsd p))
    (hName : lsd.bound = false → MayName own A p)
    (hRun : bindHere env n lsd s = .ok (r, s')) :
    Changes own A s s' := by
  unfold bindHere at hRun
  by_cases hBound : lsd.bound
  · rw [if_pos hBound] at hRun
    cases hRun
    exact .refl _
  · rw [if_neg hBound] at hRun
    apply changes_bind _ hRun
    intro q d hLeads _ _
    cases hData.symm.trans hLeads.2
    exact hName (by simpa using hBound)

theorem changes_unbindHere
    {here : Bool}
    {p : Ptr}
    (hName : here = true → MayName own A p)
    (env : CloseEnv) :
    ChangesCmd own A (unbindHere env here p) := by
  cases here with
  | false => exact ChangesCmd.pure ()
  | true =>
      have hUnbind : ChangesCmd own A (modifySocket p
          fun lsd => { lsd with bound := false }) :=
        ChangesCmd.nameSocket (hName rfl)
          fun _ => ⟨_, _, _, rfl⟩
      apply hUnbind.bind
      intro _
      apply (ChangesCmd.derefSocket p).bind
      intro lsd
      apply (ChangesCmd.deref _ _).bind
      intro usock
      exact (changes_closeFd _ _).bind
        fun _ => ChangesCmd.pure _

/- The request has a new secret, which is stored. -/
theorem changes_unixConnectRequest
    {data : Option Ptr}
    (hOwn : ∀ q, data = some q → own q)
    (env : UnixConnectEnv) :
    ChangesCmd own A (unixConnectRequest env data) := by
  apply ChangesCmd.get.bind
  intro s
  apply (ChangesCmd.deref _ _).bind
  intro usock
  apply (ChangesCmd.read (reads_readString _)).bind
  intro sockpath
  apply (ChangesCmd.read (reads_copyInto _ _)).bind
  intro path
  exact (ChangesCmd.modifyOwnUnix hOwn _).bind
    fun _ => ChangesCmd.pure _

theorem changes_unixConnectExchange
    (env : UnixConnectEnv)
    (data : Option Ptr)
    (fd : Fd)
    (req : UnixMsgOpen) :
    ChangesCmd own A
      (unixConnectExchange env data fd req) := by
  apply (changes_writeFd _ _ _).bind
  intro ret
  apply ChangesCmd.ite (ChangesCmd.pure _)
  exact (ChangesCmd.deref _ _).bind
    fun _ => changes_readFd _ _

theorem changes_setPeerpath
    (data : Option Ptr)
    (path : Bytes) :
    ChangesCmd own A (setPeerpath data path) := by
  apply (ChangesCmd.deref _ _).bind
  intro usock
  apply (ChangesCmd.read (reads_copyInto _ _)).bind
  intro peerpath
  exact ChangesCmd.modifyUnix (by simp)

theorem changes_unixConnectReply
    {here : Bool}
    {p : Ptr}
    (hName : here = true → MayName own A p)
    (env : UnixConnectEnv)
    (data : Option Ptr)
    (fd : Fd)
    (rep : UnixMsgOpen) :
    ChangesCmd own A
      (unixConnectReply env p data here fd rep) := by
  have hUndo : ∀ e, ChangesCmd own A (do
      unbindHere env.close here p
      fail e) := fun e =>
    (changes_unbindHere hName _).bind
      fun _ => ChangesCmd.fail e
  apply (ChangesCmd.deref _ _).bind
  intro usock
  apply ChangesCmd.ite (hUndo _)
  apply (ChangesCmd.read (reads_readString _)).bind
  intro repPath
  apply (changes_openFile _ _ _).bind
  intro fdW
  apply (ChangesCmd.modifyUnix (by simp)).bind
  intro _
  apply ChangesCmd.ite
  · exact (changes_unbindHere hName _).bind
      fun _ => ChangesCmd.pure _
  · cases afterPrefix unixLocalPath repPath with
    | none => exact hUndo _
    | some peer =>
        exact (changes_setPeerpath _ _).bind
          fun _ => ChangesCmd.pure _

/-
  The data of a client has to be owned, and the client itself
  if it is not bound.
-/
theorem changes_unixConnect
    {env : UnixConnectEnv}
    {p : Ptr}
    {serv : Bytes}
    {s s' : Process}
    {r : Int}
    (hForm : WellFormed none s)
    (hName : ∀ d, s.heap p = some (.socket d) →
      d.bound = false → MayName own A p)
    (hOwnData : ∀ d q, s.heap p = some (.socket d) →
      d.idata = some q → own q)
    (hRun : unixConnect env p serv s = .ok (r, s')) :
    Changes own A s s' := by
  rcases bind_eq_ok.mp hRun with ⟨lsd, t, hRead, hTail⟩
  rcases derefSocket_ok hRead with ⟨hSame, hSocket⟩
  subst hSame
  have hMay : lsd.bound = false → MayName own A p :=
    hName lsd hSocket
  rcases bind_eq_ok.mp hTail with ⟨_, t₁, hClear, hTail⟩
  rcases bind_eq_ok.mp hTail with ⟨server, t₂, hSun, hTail⟩
  rcases bind_eq_ok.mp hTail with ⟨path, t₃, hFits, hTail⟩
  rcases bind_eq_ok.mp hTail with ⟨fd, t₄, hOpen, hTail⟩
  have hStill : Still t t₄ :=
    (StillCmd.modifyUnix _ _ _ _ _ hClear).trans <|
      (still_sunPath _ _ _ _ hSun).trans <|
        (still_fits _ _ _ _ _ hFits).trans <|
          still_openFile _ _ _ _ _ _ hOpen
  have hBefore : Changes own A t t₄ :=
    (ChangesCmd.modifyOwnUnix (hOwnData lsd · hSocket) _ _ _ _
      hClear).trans <|
      (changes_sunPath _ _ _ _ hSun).trans <|
        (ChangesCmd.read (reads_fits _ _) _ _ _
          hFits).trans <|
          changes_openFile _ _ _ _ _ _ hOpen
  by_cases hFailed : fd = -1
  · rw [if_pos hFailed] at hTail
    cases hTail
    exact hBefore
  rw [if_neg hFailed] at hTail
  rcases bind_eq_ok.mp hTail with ⟨ret, t₅, hBind, hTail⟩
  apply hBefore.trans
  apply (changes_bindHere
    (hForm.data_of_still hSocket hStill) hMay hBind).trans
  by_cases hRet : ret = -1
  · rw [if_pos hRet] at hTail
    cases hTail
    exact .refl _
  rw [if_neg hRet] at hTail
  have hHere : (!lsd.bound) = true → MayName own A p := by
    intro hNot
    exact hMay (by simpa using hNot)
  rcases bind_eq_ok.mp hTail with ⟨req, t₆, hReq, hTail⟩
  apply (changes_unixConnectRequest (hOwnData lsd · hSocket)
    env t₅ req t₆ hReq).trans
  rcases bind_eq_ok.mp hTail with ⟨taken, t₇, hTaken, hLast⟩
  apply (changes_unixConnectExchange _ _ _ _ _ _ _
    hTaken).trans
  cases taken with
  | none =>
      exact ((changes_unbindHere hHere _).bind
        fun _ => ChangesCmd.fail _) t₇ r s' hLast
  | some ms =>
      exact changes_unixConnectReply hHere _ _ _ _ t₇ r s'
        hLast

theorem changes_interfaceConnect
    {env : ConnectEnv}
    {i : Interface}
    {p : Ptr}
    {serv : Bytes}
    {s s' : Process}
    {r : Int}
    (hForm : WellFormed none s)
    (hName : ∀ d, s.heap p = some (.socket d) →
      d.bound = false → MayName own A p)
    (hOwnData : ∀ d q, s.heap p = some (.socket d) →
      d.idata = some q → own q)
    (hRun : interfaceConnect env i p serv s = .ok (r, s')) :
    Changes own A s s' := by
  cases i with
  | wsock => exact changes_wsockConnect _ _ _ _ _ hRun
  | csock => exact changes_csockConnect _ _ _ _ _ hRun
  | unix => exact changes_unixConnect hForm hName hOwnData hRun

------------------------------------------------------------
-- Sending
------------------------------------------------------------

theorem changes_sendLoop
    (usock : Option Ptr)
    (writes : List WriteEnv)
    (msg : Bytes)
    (total : Nat) :
    ChangesCmd own A (sendLoop usock writes msg total) := by
  induction writes generalizing msg total with
  | nil =>
      cases msg with
      | nil => exact ChangesCmd.pure _
      | cons b bs => exact ChangesCmd.stop _
  | cons w ws ih =>
      cases msg with
      | nil => exact ChangesCmd.pure _
      | cons b bs =>
          apply (ChangesCmd.deref _ _).bind
          intro here
          apply (changes_writeFd _ _ _).bind
          intro ret
          apply ChangesCmd.ite (ChangesCmd.fail _)
          exact (ChangesCmd.modifyUnix (by simp)).bind
            fun _ => ih _ _

theorem changes_sendDgramLoop
    (fd : Fd)
    (req : UnixMsgOpen)
    (writes : List WriteEnv)
    (msg : Bytes)
    (total : Nat) :
    ChangesCmd own A
      (sendDgramLoop fd req writes msg total) := by
  induction writes generalizing msg total with
  | nil =>
      cases msg with
      | nil => exact ChangesCmd.pure _
      | cons b bs => exact ChangesCmd.stop _
  | cons w ws ih =>
      cases msg with
      | nil => exact ChangesCmd.pure _
      | cons b bs =>
          apply (changes_writeFd _ _ _).bind
          intro ret
          exact ChangesCmd.ite (ChangesCmd.fail _) (ih _ _)

theorem changes_sendDgramBound
    (env : UnixSendDgramEnv)
    (p : Ptr)
    (msg : Bytes)
    (dest : Option Bytes) :
    ChangesCmd own A (do
      let lsd ← derefSocket p
      let source ← sunPath lsd.sockname
      let path ← copyInto (List.ofFn env.pathJunk)
        (unixLocalPath ++ source)
      match dest with
      | none => fault
      | some sun => do
          let target ← sunPath sun
          let dest ← fits maxPath (unixLocalPath ++ target)
          let fd ← openFile env.openW dest .wronly
          if fd = -1 then
            return -1
          else do
            let total ← sendDgramLoop fd
              ⟨dgramHeader msg.length, path⟩
              env.writes msg 0
            if total = -1 then
              return -1
            else do
              let _ ← closeFd env.close fd
              return total) := by
  apply (ChangesCmd.derefSocket p).bind
  intro lsd
  apply (changes_sunPath _).bind
  intro source
  apply (ChangesCmd.read (reads_copyInto _ _)).bind
  intro path
  split
  · exact ChangesCmd.stop _
  apply (changes_sunPath _).bind
  intro target
  apply (ChangesCmd.read (reads_fits _ _)).bind
  intro dest
  apply (changes_openFile _ _ _).bind
  intro fd
  apply ChangesCmd.ite (ChangesCmd.pure _)
  apply (changes_sendDgramLoop _ _ _ _ _).bind
  intro total
  apply ChangesCmd.ite (ChangesCmd.pure _)
  exact (changes_closeFd _ _).bind fun _ => ChangesCmd.pure _

theorem changes_unixSendDgram
    {env : UnixSendDgramEnv}
    {p : Ptr}
    {msg : Bytes}
    {dest : Option Bytes}
    {tolen : Nat}
    {s s' : Process}
    {r : Int}
    (hForm : WellFormed none s)
    (hName : ∀ d, s.heap p = some (.socket d) →
      d.bound = false → MayName own A p)
    (hRun : unixSendDgram env p msg dest tolen s =
      .ok (r, s')) :
    Changes own A s s' := by
  rcases bind_eq_ok.mp hRun with ⟨lsd, t, hRead, hTail⟩
  rcases derefSocket_ok hRead with ⟨hSame, hSocket⟩
  subst hSame
  by_cases hShort : tolen < sockaddrMaxSize ∧ dest.isSome
  · rw [if_pos hShort] at hTail
    exact ChangesCmd.fail _ t r s' hTail
  by_cases hType : lsd.type ≠ sockDgram
  · rw [if_neg hShort, if_pos hType] at hTail
    exact ChangesCmd.fail _ t r s' hTail
  rw [if_neg hShort, if_neg hType] at hTail
  rcases bind_eq_ok.mp hTail with ⟨ret, u, hBind, hTail⟩
  apply (changes_bindHere (hForm.entry hSocket).2
    (hName lsd hSocket) hBind).trans
  by_cases hRet : ret = -1
  · rw [if_pos hRet] at hTail
    cases hTail
    exact .refl _
  · rw [if_neg hRet] at hTail
    exact changes_sendDgramBound env p msg dest _ _ _ hTail

theorem changes_unixSendto
    {env : SendEnv}
    {p : Ptr}
    {msg : Bytes}
    {dest : Option Bytes}
    {tolen : Nat}
    {s s' : Process}
    {r : Int}
    (hForm : WellFormed none s)
    (hName : ∀ d, s.heap p = some (.socket d) →
      d.bound = false → MayName own A p)
    (hRun : unixSendto env p msg dest tolen s = .ok (r, s')) :
    Changes own A s s' := by
  rcases bind_eq_ok.mp hRun with ⟨d, t, hRead, hTail⟩
  rcases derefSocket_ok hRead with ⟨rfl, -⟩
  by_cases hStream : d.type = sockStream
  · rw [if_pos hStream] at hTail
    exact ((ChangesCmd.derefSocket p).bind fun lsd =>
      changes_sendLoop _ _ _ _) _ r s' hTail
  rw [if_neg hStream] at hTail
  by_cases hDgram : d.type = sockDgram
  · rw [if_pos hDgram] at hTail
    exact changes_unixSendDgram hForm hName hTail
  · rw [if_neg hDgram] at hTail
    exact ChangesCmd.fail _ _ r s' hTail

theorem changes_sendByDriver (env : SendEnv) :
    ChangesCmd own A (sendByDriver env) :=
  ChangesCmd.ite (ChangesCmd.fail _) (ChangesCmd.pure _)

theorem changes_csockSendto
    {env : SendEnv}
    {p : Ptr}
    {flags : Nat}
    {s s' : Process}
    {r : Int}
    (hName : ∀ d, s.heap p = some (.socket d) →
      d.bound = false → MayName own A p)
    (hRun : csockSendto env p flags s = .ok (r, s')) :
    Changes own A s s' := by
  have hSend : ChangesCmd own A (if flags ≠ 0 then
      fail .EINVAL else sendByDriver env) :=
    ChangesCmd.ite (ChangesCmd.fail _)
      (changes_sendByDriver env)
  rcases bind_eq_ok.mp hRun with ⟨d, t, hRead, hTail⟩
  rcases derefSocket_ok hRead with ⟨hSame, hSocket⟩
  subst hSame
  rcases bind_eq_ok.mp hTail with ⟨c, u, hData, hRest⟩
  have hSame := (deref_ok hData).1
  subst hSame
  by_cases hBind : d.type = sockDgram ∧ d.bound = false
  · rw [if_pos hBind] at hRest
    have hMay := hName d hSocket hBind.2
    rcases bind_eq_ok.mp hRest with ⟨ret, v, hCall, hRest⟩
    apply (changes_csockSimple _ _ _ _ _ hCall).trans
    by_cases hRet : ret = 0
    · rw [if_pos hRet] at hRest
      rcases bind_eq_ok.mp hRest with ⟨_, w, hAsk, hRest⟩
      rcases bind_eq_ok.mp hRest with ⟨_, x, hSet, hRest⟩
      apply (changes_csockName _ _ _ _ _ _ hAsk).trans
      apply (ChangesCmd.nameSocket hMay
        (fun _ => ⟨_, _, _, rfl⟩) _ _ _ hSet).trans
      exact hSend _ r s' hRest
    · rw [if_neg hRet] at hRest
      exact ((changes_forgetName hMay).bind
        fun _ => ChangesCmd.pure _) v r s' hRest
  · rw [if_neg hBind] at hRest
    exact hSend _ r s' hRest

/- Every descriptor that is not bound may get a name. -/
def NamesUnbound
    (own : Ptr → Prop)
    (A : Block → Block → Prop)
    (s : Process) : Prop :=
  ∀ p d, s.heap p = some (.socket d) → d.bound = false →
    MayName own A p

omit [Tolerates A] in
/- The check on entry does not change what is bound. -/
theorem NamesUnbound.check
    {p : Ptr}
    {d : LsckSocket}
    {s : Process}
    (hNames : NamesUnbound own A s)
    (hSocket : s.heap p = some (.socket d))
    (writable : Bool) :
    NamesUnbound own A (s.check p d writable) := by
  intro q e hE hUnbound
  by_cases hSame : q = p
  · subst hSame
    rw [s.socket_check] at hE
    cases hE
    apply hNames q d hSocket
    rcases d.checked_cases writable with h | h
    · rw [h] at hUnbound
      exact hUnbound
    · rw [h.2.2] at hUnbound
      exact hUnbound
  · apply hNames q e _ hUnbound
    simpa [Process.check, hSame] using hE

theorem changes_refuseOr
    {refusal : Option Errno}
    {m : Exec Int}
    {s s' : Process}
    {r : Int}
    (hRest : m s = .ok (r, s') → Changes own A s s')
    (hRun : refuseOr refusal m s = .ok (r, s')) :
    Changes own A s s' := by
  cases refusal with
  | none => exact hRest hRun
  | some e => exact ChangesCmd.fail e _ _ _ hRun

theorem changes_sendto
    {env : SendEnv}
    {fd : Fd}
    {msg dest : Option Bytes}
    {flags tolen : Nat}
    {s s' : Process}
    {r : Int}
    (hForm : WellFormed none s)
    (hNames : NamesUnbound own A s)
    (hRun : sendto env fd msg flags dest tolen s =
      .ok (r, s')) :
    Changes own A s s' := by
  apply changes_entered hRun
  intro p d i _ hSocket hTail
  have hFormC := (drift_check hSocket env.writable).form hForm
  have hNamesC := hNames.check hSocket env.writable
  have hTo : ∀ dest len t,
      interfaceSendto env i p (msg.getD []) flags dest len
        (s.check p d env.writable) = .ok (r, t) →
      Changes own A (s.check p d env.writable) t := by
    intro dest len t hCall
    cases i with
    | wsock => exact changes_sendByDriver _ _ _ _ hCall
    | csock => exact changes_csockSendto (hNamesC p) hCall
    | unix => exact changes_unixSendto hFormC (hNamesC p) hCall
  have hPlain : ∀ t,
      interfaceSend env i p (msg.getD []) flags
        (s.check p d env.writable) = .ok (r, t) →
      Changes own A (s.check p d env.writable) t := by
    intro t hCall
    cases i with
    | wsock => exact changes_sendByDriver _ _ _ _ hCall
    | csock =>
        exact ChangesCmd.ite (ChangesCmd.fail _)
          (changes_sendByDriver env) _ _ _ hCall
    | unix => exact changes_unixSendto hFormC (hNamesC p) hCall
  apply changes_refuseOr _ hTail
  intro hTail
  by_cases hStream :
      (d.checked env.writable).type = sockStream
  · rw [if_pos hStream] at hTail
    exact changes_refuseOr (hPlain _) hTail
  · rw [if_neg hStream] at hTail
    apply changes_refuseOr _ hTail
    intro hTail
    cases dest with
    | none => exact hTo _ _ _ hTail
    | some dest => exact hTo _ _ _ hTail

theorem changes_writeFsext
    {env : SendEnv}
    {fd : Fd}
    {msg : Option Bytes}
    {s s' : Process}
    {r : Int}
    (hForm : WellFormed none s)
    (hNames : NamesUnbound own A s)
    (hRun : writeFsext env fd msg s = .ok (r, s')) :
    Changes own A s s' := by
  rcases bind_eq_ok.mp (whenSocket_ok hRun) with
    ⟨rv, t, hSend, hTail⟩
  apply (changes_sendto hForm hNames hSend).trans
  have hResult : ChangesCmd own A (writeResult rv) := by
    apply ChangesCmd.ite _ (ChangesCmd.pure _)
    exact (ChangesCmd.setErrno _).bind
      fun _ => ChangesCmd.pure _
  exact hResult _ r s' hTail

------------------------------------------------------------
-- Receiving
------------------------------------------------------------

theorem changes_failReceive (e : Errno) :
    ChangesCmd own A (failReceive e) :=
  (ChangesCmd.fail e).bind fun _ => ChangesCmd.pure _

theorem changes_wsockReceive
    (env : WsockRecvEnv)
    (p : Ptr)
    (source : Bool) :
    ChangesCmd own A (wsockReceive env p source) := by
  apply (ChangesCmd.derefSocket p).bind
  intro lsd
  apply (ChangesCmd.deref _ _).bind
  intro _
  apply (changes_callVxd _).bind
  intro _
  apply ChangesCmd.ite _ (ChangesCmd.pure _)
  apply ChangesCmd.ite _ (ChangesCmd.pure _)
  apply (changes_wsockSelectWait _).bind
  intro wait
  apply ChangesCmd.ite (ChangesCmd.pure _)
  exact (changes_callVxd _).bind fun _ => ChangesCmd.pure _

theorem changes_csockReceived
    (env : CsockRecvEnv)
    (name : Option Bytes) :
    ChangesCmd own A (csockReceived env name) := by
  apply ChangesCmd.ite _ (ChangesCmd.pure _)
  exact (changes_failCsock _).bind fun _ => ChangesCmd.pure _

theorem changes_csockRecv
    (env : CsockRecvEnv)
    (p : Ptr)
    (flags : Nat) :
    ChangesCmd own A (csockRecv env p flags) := by
  apply (ChangesCmd.derefSocket p).bind
  intro lsd
  apply (ChangesCmd.deref _ _).bind
  intro _
  exact ChangesCmd.ite (changes_failReceive _)
    (changes_csockReceived _ _)

theorem changes_csockRecvfrom
    (env : CsockRecvEnv)
    (p : Ptr)
    (flags : Nat)
    (source : Bool)
    (fromlen : Option Nat) :
    ChangesCmd own A
      (csockRecvfrom env p flags source fromlen) := by
  have hFlip : ∀ answer param, ChangesCmd own A
      (when (env.version < 1) (do
        let _ ← csockIoctl answer p param)) := by
    intro answer param
    apply ChangesCmd.when
    exact (changes_csockIoctl _ _ _).bind
      fun _ => ChangesCmd.pure _
  apply (ChangesCmd.derefSocket p).bind
  intro lsd
  apply (ChangesCmd.deref _ _).bind
  intro _
  apply ChangesCmd.ite (changes_failReceive _)
  apply ChangesCmd.ite (changes_failReceive _)
  apply (hFlip _ _).bind
  intro _
  apply (hFlip _ _).bind
  intro _
  exact changes_csockReceived _ _

/- A close packet makes the receive close two files. -/
theorem changes_recvLoop
    (env : UnixRecvEnv)
    (p : Ptr)
    (len : Nat)
    (peeking : Bool)
    (reads : List ReadEnv)
    (badPacket : Bool) :
    ChangesCmd own A (recvLoop env.stream p len peeking reads
      badPacket) := by
  induction reads generalizing badPacket with
  | nil => exact ChangesCmd.stop _
  | cons r rs ih =>
      apply (ChangesCmd.derefSocket p).bind
      intro lsd
      apply (ChangesCmd.deref _ _).bind
      intro usock
      apply (changes_readPacket _ _ _).bind
      intro taken
      cases taken with
      | none =>
          exact (ChangesCmd.setErrno _).bind
            fun _ => ChangesCmd.pure _
      | some ms =>
          have hStore : ChangesCmd own A (modify fun s =>
              { s with
                recvBuf := overlay s.recvBuf ms.flatten } :
              Exec Unit) :=
            ChangesCmd.modify fun _ => rfl
          apply hStore.bind
          intro _
          apply ChangesCmd.get.bind
          intro s
          apply ChangesCmd.ite
          · apply (changes_unixClose
              (fun _ => changes_closeFd _ _)
              (fun _ => changes_closeFd _ _) _ _).bind
            intro _
            exact (ChangesCmd.setErrno _).bind
              fun _ => ChangesCmd.pure _
          apply ChangesCmd.ite
          · exact ChangesCmd.ite (ih true)
              (ChangesCmd.pure _)
          · apply (ChangesCmd.when
              (ChangesCmd.modifyUnix (by simp))).bind
            intro _
            apply ChangesCmd.ite (ChangesCmd.stop _)
            exact ChangesCmd.ite (ih false)
              (ChangesCmd.pure _)

theorem changes_recvDgramLoop
    (around : Int → UInt8)
    (fdR : Fd)
    (len : Nat)
    (peeking : Bool)
    (source : Option Nat)
    (reads : List ReadEnv)
    (buffer : Bytes)
    (stored : Option Bytes)
    (badPacket : Bool) :
    ChangesCmd own A (recvDgramLoop around fdR len peeking
      source reads buffer stored badPacket) := by
  induction reads generalizing buffer stored badPacket with
  | nil => exact ChangesCmd.stop _
  | cons r rs ih =>
      apply (changes_readPacket _ _ _).bind
      intro taken
      cases taken with
      | none =>
          exact (ChangesCmd.setErrno _).bind
            fun _ => ChangesCmd.pure _
      | some ms =>
          apply ChangesCmd.ite
          · exact ChangesCmd.ite (ih _ _ _)
              (ChangesCmd.pure _)
          · have hStore : ChangesCmd own A (storeSource source
                (overlay buffer ms.flatten) stored) := by
              cases source with
              | none => exact ChangesCmd.pure _
              | some n =>
                  apply ChangesCmd.bind _
                    fun _ => ChangesCmd.pure _
                  apply (ChangesCmd.read
                    (reads_readString _)).bind
                  intro text
                  exact (ChangesCmd.read
                    (reads_copyInto _ _)).bind
                    fun _ => ChangesCmd.pure _
            apply hStore.bind
            intro name
            apply ChangesCmd.ite (ChangesCmd.stop _)
            exact ChangesCmd.ite (ih _ _ _)
              (ChangesCmd.pure _)

theorem changes_unixRecvDgram
    (env : RecvDgramEnv)
    (p : Ptr)
    (len flags : Nat)
    (source : Option Nat) :
    ChangesCmd own A
      (unixRecvDgram env p len flags source) := by
  apply (ChangesCmd.derefSocket p).bind
  intro lsd
  apply ChangesCmd.ite
  · exact (ChangesCmd.setErrno _).bind
      fun _ => ChangesCmd.pure _
  · apply (ChangesCmd.deref _ _).bind
    intro usock
    exact changes_recvDgramLoop _ _ _ _ _ _ _ _ _

theorem changes_interfaceRecv
    (env : RecvEnvs)
    (len flags : Nat)
    (i : Interface)
    (p : Ptr) :
    ChangesCmd own A (interfaceRecv env len flags i p) := by
  cases i with
  | wsock => exact changes_wsockReceive _ _ _
  | csock => exact changes_csockRecv _ _ _
  | unix =>
      apply (ChangesCmd.derefSocket p).bind
      intro lsd
      apply ChangesCmd.ite
      · exact (changes_recvLoop _ _ _ _ _ _).bind
          fun _ => ChangesCmd.pure _
      apply ChangesCmd.ite _ (changes_failReceive _)
      exact changes_unixRecvDgram _ _ _ _ _

theorem changes_interfaceRecvfrom
    (env : RecvEnvs)
    (len flags : Nat)
    (source : Bool)
    (fromlen : Option Nat)
    (i : Interface)
    (p : Ptr) :
    ChangesCmd own A (interfaceRecvfrom env len flags source
      fromlen i p) := by
  cases i with
  | wsock =>
      cases fromlen with
      | none => exact ChangesCmd.stop _
      | some n => exact changes_wsockReceive _ _ _
  | csock => exact changes_csockRecvfrom _ _ _ _ _
  | unix =>
      apply (ChangesCmd.derefSocket p).bind
      intro lsd
      apply ChangesCmd.ite
      · apply (changes_recvLoop _ _ _ _ _ _).bind
        rintro ⟨r, data⟩
        cases sourceLength source fromlen with
        | none => exact ChangesCmd.pure _
        | some n =>
            apply ChangesCmd.ite _ (ChangesCmd.pure _)
            exact (changes_unixGetpeername _ _ _).bind
              fun _ => ChangesCmd.pure _
      apply ChangesCmd.ite _ (changes_failReceive _)
      exact changes_unixRecvDgram _ _ _ _ _

theorem changes_receive
    {refusal : Option Errno}
    {allowed provided : Bool}
    {callback : Exec Received}
    (hCallback : ChangesCmd own A callback) :
    ChangesCmd own A
      (receive refusal allowed provided callback) := by
  cases refusal with
  | some e => exact changes_failReceive e
  | none =>
      apply ChangesCmd.ite (ChangesCmd.pure _)
      exact ChangesCmd.ite hCallback (changes_failReceive _)

theorem changes_recv
    (env : RecvEnvs)
    (fd : Fd)
    (buf : Bool)
    (len flags : Nat) :
    ChangesCmd own A (recv env fd buf len flags) := by
  apply changes_prologue
  intro p lsd i
  exact changes_receive (changes_interfaceRecv _ _ _ _ _)

theorem changes_recvfrom
    (env : RecvEnvs)
    (fd : Fd)
    (buf : Bool)
    (len flags : Nat)
    (source : Bool)
    (fromlen : Option Nat) :
    ChangesCmd own A
      (recvfrom env fd buf len flags source fromlen) := by
  apply changes_prologue
  intro p lsd i
  exact changes_receive
    (changes_interfaceRecvfrom _ _ _ _ _ _ _)

theorem changes_readFsext
    (env : RecvEnvs)
    (fd : Fd)
    (buf : Bool)
    (count : Nat) :
    ChangesCmd own A (readFsext env fd buf count) := by
  intro s r s' hRun
  have hResult : ∀ rv, ChangesCmd own A (readResult rv) := by
    intro rv
    apply ChangesCmd.get.bind
    intro t
    apply ChangesCmd.ite _ (ChangesCmd.pure _)
    exact (ChangesCmd.setErrno _).bind
      fun _ => ChangesCmd.pure _
  exact ((changes_recv _ _ _ _ _).bind
    fun _ => hResult _) s r s' (whenSocket_ok hRun)

------------------------------------------------------------
-- Modes
------------------------------------------------------------

theorem changes_interfaceFionbio
    (env : ModeEnv)
    (i : Interface)
    (p : Ptr)
    (param : Int) :
    ChangesCmd own A (interfaceFionbio env i p param) := by
  cases i with
  | wsock =>
      exact (changes_wsockIoctl _ _ _).bind
        fun _ => ChangesCmd.pure _
  | csock => exact changes_csockIoctl _ _ _
  | unix =>
      apply (ChangesCmd.derefSocket p).bind
      intro lsd
      apply (ChangesCmd.deref _ _).bind
      intro usock
      apply ChangesCmd.ite _ (ChangesCmd.fail _)
      apply (changes_fcntlNonblock _).bind
      intro ret
      apply (ChangesCmd.when _).bind fun _ =>
        ChangesCmd.pure _
      exact (changes_fcntlNonblock _).bind
        fun _ => ChangesCmd.pure _

theorem changes_ioctlFionbio
    (env : ModeEnv)
    (fd : Fd)
    (param : Option Int) :
    ChangesCmd own A (ioctlFionbio env fd param) := by
  apply changes_prologue
  intro p lsd i
  cases param with
  | none => exact ChangesCmd.fail _
  | some v => exact changes_interfaceFionbio _ _ _ _

theorem changes_fcntlSetfl
    (env : ModeEnv)
    (fd : Fd)
    (nonblock : Bool) :
    ChangesCmd own A (fcntlSetfl env fd nonblock) := by
  apply changes_prologue
  intro p lsd i
  exact changes_interfaceFionbio _ _ _ _

------------------------------------------------------------
-- Creating
------------------------------------------------------------

/- What follows an allocation of data for a socket. -/
theorem changes_allocated
    {α : Type}
    {address : Option Ptr}
    {content : Block}
    {rest : Option Ptr → Exec α}
    {s s' : Process}
    {a : α}
    (hOwn : ∀ q, s.heap q = none → own q)
    (hRest : ∀ q, (∀ r, q = some r → own r) →
      ChangesCmd own A (rest q))
    (hRun : (malloc address content >>= rest) s =
      .ok (a, s')) :
    Changes own A s s' := by
  rcases bind_eq_ok.mp hRun with ⟨q, t, hMalloc, hTail⟩
  rcases Changes.malloc (A := A) hOwn hMalloc with
    ⟨hFirst, hOwned⟩
  exact hFirst.trans (hRest q hOwned t a s' hTail)

theorem changes_interfaceSocket
    {env : SocketEnv}
    {i : Interface}
    {p : Ptr}
    {s s' : Process}
    {r : Int}
    (hOwn : ∀ q, s.heap q = none → own q)
    (hRun : interfaceSocket env i p s = .ok (r, s')) :
    Changes own A s s' := by
  have hData : ∀ q, ChangesCmd own A (modifySocket p
      fun lsd => { lsd with idata := q }) :=
    fun q => ChangesCmd.modifySocket
      fun _ d => Tolerates.data d q
  cases i with
  | wsock =>
      apply changes_allocated hOwn _ hRun
      intro q _
      apply (hData q).bind
      intro _
      apply ChangesCmd.ite (ChangesCmd.fail _)
      apply (changes_callVxd _).bind
      intro _
      apply ChangesCmd.ite (ChangesCmd.pure _)
      exact (ChangesCmd.modifyWsock _ _).bind
        fun _ => ChangesCmd.pure _
  | csock =>
      apply changes_allocated hOwn _ hRun
      intro q _
      apply (hData q).bind
      intro _
      apply ChangesCmd.ite (ChangesCmd.fail _)
      split
      · exact (ChangesCmd.modifyCsock _ _).bind
          fun _ => ChangesCmd.fail _
      · apply (ChangesCmd.modifyCsock _ _).bind
        intro _
        exact (changes_csockIoctl _ _ _).bind
          fun _ => ChangesCmd.pure _
  | unix =>
      apply changes_allocated hOwn _ hRun
      intro q _
      apply (hData q).bind
      intro _
      apply ChangesCmd.ite (ChangesCmd.fail _)
      exact (ChangesCmd.modifyUnix (by simp)).bind
        fun _ => ChangesCmd.pure _

theorem changes_socketOn
    {env : SocketEnv}
    {chosen : Option Interface}
    {fd : Fd}
    {slot : Nat}
    {p : Ptr}
    {s s' : Process}
    {r : Int}
    (hOwn : ∀ q, s.heap q = none → own q)
    (hRun : socketOn env chosen fd slot p s = .ok (r, s')) :
    Changes own A s s' := by
  have hCleanup :
      ChangesCmd own A (socketCleanup fd slot p) := by
    apply (changes_releaseFd fd).bind
    intro _
    exact (ChangesCmd.free _).bind
      fun _ => changes_setSlot _ _
  have hGiveUp : ∀ e, ChangesCmd own A (do
      socketCleanup fd slot p
      fail e) :=
    fun e => hCleanup.bind fun _ => ChangesCmd.fail e
  cases chosen with
  | none => exact hGiveUp _ s r s' hRun
  | some i =>
      rcases bind_eq_ok.mp hRun with ⟨ret, t, hCall, hTail⟩
      apply (changes_interfaceSocket hOwn hCall).trans
      by_cases hRet : ret = -1
      · rw [if_pos hRet, run_bind_ok (run_get t)] at hTail
        exact hGiveUp _ t r s' hTail
      · rw [if_neg hRet] at hTail
        cases hTail
        exact .refl _

omit [Tolerates A] in
/- A block that is free beside a new socket was free. -/
theorem owns_withSocket
    {s : Process}
    {slot : Nat}
    {p q : Ptr}
    {d : LsckSocket}
    (hOwn : ∀ q, s.heap q = none → own q)
    (hFree : (s.withSocket slot p d).heap q = none) :
    own q := by
  apply hOwn
  rw [Reserved.heap_withSocket] at hFree
  by_cases hSame : q = p
  · subst hSame
    rw [Function.update_self] at hFree
    cases hFree
  · rw [Function.update_of_ne hSame] at hFree
    exact hFree

/- A new descriptor lies in a block that was free. -/
theorem changes_socketx
    {env : SocketEnv}
    {domain type protocol : Int}
    {interface : Option Interface}
    {s s' : Process}
    {r : Int}
    (hFds : FdsOk s.fds)
    (hOwn : ∀ p, s.heap p = none → own p)
    (hRun : socketx env domain type protocol interface s =
      .ok (r, s')) :
    Changes own A s s' := by
  rcases socketx_ok hFds hRun with ⟨-, e, rfl⟩ |
    ⟨-, fd, slot, p, hReserved, hOn⟩
  · exact .of_heap rfl
  · apply (Changes.create (hOwn p hReserved.heap)).trans
    exact changes_socketOn
      (fun q hFree => owns_withSocket hOwn hFree) hOn

theorem changes_unixAcceptReply
    {nusock : Option Ptr}
    (hOwn : ∀ q, nusock = some q → own q)
    (env : UnixAcceptEnv)
    (np : Ptr)
    (req : UnixMsgOpen)
    (path client : Bytes)
    (fdW : Fd) :
    ChangesCmd own A
      (unixAcceptReply env np nusock req path client fdW) := by
  apply (ChangesCmd.read (reads_copyInto _ _)).bind
  intro sun
  apply (ChangesCmd.modifyOwnUnix hOwn _).bind
  intro _
  apply (ChangesCmd.read (reads_readString _)).bind
  intro measured
  apply (ChangesCmd.read (reads_copyInto _ _)).bind
  intro repPath
  apply (changes_writeFd _ _ _).bind
  intro ret
  apply ChangesCmd.ite (ChangesCmd.pure _)
  apply (ChangesCmd.deref _ _).bind
  intro usock
  apply (ChangesCmd.read (reads_copyInto _ _)).bind
  intro peerpath
  apply (ChangesCmd.modifyOwnUnix hOwn _).bind
  intro _
  exact (ChangesCmd.setPeername _ _ _).bind
    fun _ => ChangesCmd.pure _

theorem changes_unixAcceptRequest
    {nusock : Option Ptr}
    (hOwn : ∀ q, nusock = some q → own q)
    (env : UnixAcceptEnv)
    (lsd : LsckSocket)
    (np : Ptr)
    (req : UnixMsgOpen) :
    ChangesCmd own A
      (unixAcceptRequest env lsd np nusock req) := by
  apply ChangesCmd.ite (ChangesCmd.pure _)
  apply (changes_sunPath _).bind
  intro server
  apply (ChangesCmd.read (reads_fits _ _)).bind
  intro path
  apply (changes_openFile _ _ _).bind
  intro fdR
  apply (ChangesCmd.modifyOwnUnix hOwn _).bind
  intro _
  apply ChangesCmd.ite (ChangesCmd.pure _)
  apply (ChangesCmd.read (reads_readString _)).bind
  intro reqPath
  apply (changes_openFile _ _ _).bind
  intro fdW
  apply (ChangesCmd.modifyOwnUnix hOwn _).bind
  intro _
  apply ChangesCmd.ite (ChangesCmd.pure _)
  split
  · exact ChangesCmd.pure _
  · exact changes_unixAcceptReply hOwn _ _ _ _ _ _

theorem changes_csockServe
    (env : CsockAcceptEnv)
    (lsd : LsckSocket)
    (p np : Ptr)
    (ncsock : Option Ptr) :
    ChangesCmd own A (csockServe env lsd p np ncsock) := by
  have hFlip : ∀ answer param, ChangesCmd own A
      (if lsd.blocking then csockIoctl answer p param
       else Pure.pure 0) :=
    fun _ _ => ChangesCmd.ite (changes_csockIoctl _ _ _)
      (ChangesCmd.pure _)
  apply (hFlip _ _).bind
  intro _
  apply (ChangesCmd.modifyCsock _ _).bind
  intro _
  apply (ChangesCmd.deref _ _).bind
  intro _
  apply (ChangesCmd.when (ChangesCmd.stop _)).bind
  intro _
  apply ChangesCmd.bind
  · split
    · exact ChangesCmd.pure _
    · exact ChangesCmd.modifyCsock _ _
  intro _
  apply (hFlip _ _).bind
  intro _
  apply ChangesCmd.ite (changes_failCsock _)
  exact (ChangesCmd.setPeername _ _ _).bind
    fun _ => ChangesCmd.pure _

theorem changes_interfaceAccept
    {env : AcceptEnv}
    {i : Interface}
    {p np : Ptr}
    {s s' : Process}
    {r : Int}
    (hOwn : ∀ q, s.heap q = none → own q)
    (hRun : interfaceAccept env i p np s = .ok (r, s')) :
    Changes own A s s' := by
  have hData : ∀ q, ChangesCmd own A (modifySocket np
      fun nsd => { nsd with idata := q }) :=
    fun q => ChangesCmd.modifySocket
      fun _ d => Tolerates.data d q
  cases i with
  | wsock =>
      rcases bind_eq_ok.mp hRun with ⟨lsd, t, hRead, hTail⟩
      rcases derefSocket_ok hRead with ⟨rfl, -⟩
      apply changes_allocated hOwn _ hTail
      intro q _
      apply (hData q).bind
      intro _
      apply ChangesCmd.ite (ChangesCmd.fail _)
      apply (ChangesCmd.deref _ _).bind
      intro _
      apply (ChangesCmd.ite (changes_wsockSelectWait _)
        (ChangesCmd.pure _)).bind
      intro wait
      apply ChangesCmd.ite (ChangesCmd.pure _)
      apply (changes_callVxd _).bind
      intro _
      apply ChangesCmd.ite (ChangesCmd.pure _)
      apply ChangesCmd.ite (ChangesCmd.pure _)
      apply (ChangesCmd.setPeername _ _ _).bind
      intro _
      exact (ChangesCmd.modifyWsock _ _).bind
        fun _ => ChangesCmd.pure _
  | csock =>
      rcases bind_eq_ok.mp hRun with ⟨lsd, t, hRead, hTail⟩
      rcases derefSocket_ok hRead with ⟨rfl, -⟩
      rcases bind_eq_ok.mp hTail with ⟨nsd, u, hNew, hLast⟩
      rcases derefSocket_ok hNew with ⟨rfl, -⟩
      by_cases hShort : nsd.peernamelen < sockaddrInSize
      · rw [if_pos hShort] at hLast
        exact ChangesCmd.fail _ _ r s' hLast
      rw [if_neg hShort] at hLast
      apply changes_allocated hOwn _ hLast
      intro q _
      apply (hData q).bind
      intro _
      exact ChangesCmd.ite (ChangesCmd.fail _)
        (changes_csockServe _ _ _ _ _)
  | unix =>
      rcases bind_eq_ok.mp hRun with ⟨lsd, t, hRead, hTail⟩
      rcases derefSocket_ok hRead with ⟨rfl, -⟩
      apply changes_allocated hOwn _ hTail
      intro q hOwned
      apply (hData q).bind
      intro _
      apply ChangesCmd.ite (ChangesCmd.fail _)
      apply (ChangesCmd.modifyOwnUnix hOwned _).bind
      intro _
      apply (ChangesCmd.derefSocket np).bind
      intro nsd
      apply ChangesCmd.ite (ChangesCmd.fail _)
      apply (ChangesCmd.deref _ _).bind
      intro usock
      apply (changes_readFd _ _).bind
      intro taken
      split
      · exact ChangesCmd.pure _
      · exact changes_unixAcceptRequest hOwned _ _ _ _

theorem changes_acceptOn
    {env : AcceptEnv}
    {i : Interface}
    {p np : Ptr}
    {fd : Fd}
    {slot : Nat}
    {s s' : Process}
    {r : Int}
    (hOwn : ∀ q, s.heap q = none → own q)
    (hOwnNew : own np)
    (hRun : acceptOn env i p np fd slot s = .ok (r, s')) :
    Changes own A s s' := by
  have hMark : ∀ f, ChangesCmd own A (modifySocket np f) :=
    fun f => ChangesCmd.modifySocket
      fun hNot => absurd hOwnNew hNot
  rcases bind_eq_ok.mp hRun with ⟨ret, t, hCall, hTail⟩
  apply (changes_interfaceAccept hOwn hCall).trans
  apply ChangesCmd.ite _ _ t r s' hTail
  · apply (hMark _).bind
    intro _
    exact (ChangesCmd.derefSocket np).bind
      fun _ => ChangesCmd.pure _
  · apply ChangesCmd.bind _ fun _ => ChangesCmd.pure _
    apply (changes_setData _ _).bind
    intro _
    apply (changes_setFunction _ _).bind
    intro _
    apply (changes_dosClose _).bind
    intro _
    apply (ChangesCmd.derefSocket np).bind
    intro nsd
    apply (ChangesCmd.free _).bind
    intro _
    apply (hMark _).bind
    intro _
    exact (ChangesCmd.free _).bind
      fun _ => changes_setSlot _ _

theorem changes_accept
    {env : AcceptEnv}
    {fd : Fd}
    {addr addrlen : Bool}
    {s s' : Process}
    {r : Int}
    (hFds : FdsOk s.fds)
    (hOwn : ∀ p, s.heap p = none → own p)
    (hRun : accept env fd addr addrlen s = .ok (r, s')) :
    Changes own A s s' := by
  apply changes_entered hRun
  intro p d i hLeads hSocket _
  rcases accept_leads hFds hLeads hSocket hRun with ⟨-, e, rfl⟩ |
    ⟨-, i, nfd, slot, np, -, hReserved, hOn⟩
  · exact .of_heap rfl
  have hOwnC : ∀ q,
      (s.check p d env.writable).heap q = none → own q := by
    intro q hNone
    apply hOwn
    by_cases hSame : q = p
    · subst hSame
      rw [s.socket_check] at hNone
      cases hNone
    · simpa [Process.check, hSame] using hNone
  have hOwnNew := hOwnC np hReserved.heap
  apply (Changes.create hOwnNew).trans
  exact changes_acceptOn
    (fun q hFree => owns_withSocket hOwnC hFree) hOwnNew hOn

------------------------------------------------------------
-- Pairs
------------------------------------------------------------

theorem changes_openPairEnd
    (env : OpenEnv)
    (usock : Option Ptr)
    (dest : Bytes) :
    ChangesCmd own A (openPairEnd env usock dest) := by
  apply (ChangesCmd.read (reads_fits _ _)).bind
  intro path
  apply (changes_openFile _ _ _).bind
  intro fd
  exact (ChangesCmd.when
    (ChangesCmd.modifyUnix (by simp))).bind
    fun _ => ChangesCmd.pure _

/- The ends of a stream pair get one secret. -/
theorem changes_pairStream
    {data₀ data₁ : Option Ptr}
    (hOwn₀ : ∀ q, data₀ = some q → own q)
    (hOwn₁ : ∀ q, data₁ = some q → own q)
    (env : UnixSocketpairEnv)
    (path₀ path₁ : Bytes) :
    ChangesCmd own A
      (pairStream env data₀ data₁ path₀ path₁) := by
  apply ChangesCmd.get.bind
  intro s
  apply (ChangesCmd.modifyOwnUnix hOwn₀ _).bind
  intro _
  apply (ChangesCmd.modifyOwnUnix hOwn₁ _).bind
  intro _
  apply (changes_setPeerpath _ _).bind
  intro _
  apply (changes_setPeerpath _ _).bind
  intro _
  apply (changes_openPairEnd _ _ _).bind
  intro fdW
  apply ChangesCmd.when
  exact (changes_openPairEnd _ _ _).bind
    fun _ => ChangesCmd.pure _

/- An end is owned together with its data. -/
def OwnsEnd
    (own : Ptr → Prop)
    (s : Process)
    (p : Ptr) : Prop :=
  own p ∧ ∀ d q, s.heap p = some (.socket d) →
    d.idata = some q → own q

theorem changes_interfaceSocketpair
    {env : UnixSocketpairEnv}
    {i : Interface}
    {p₀ p₁ : Ptr}
    {s s' : Process}
    {r : Int}
    (hOwn₀ : OwnsEnd own s p₀)
    (hOwn₁ : OwnsEnd own s p₁)
    (hRun : interfaceSocketpair env i p₀ p₁ s = .ok (r, s')) :
    Changes own A s s' := by
  have hMark : ∀ f, ChangesCmd own A (do
      modifySocket p₀ f
      modifySocket p₁ f
      return 0 : Exec Int) := by
    intro f
    apply (ChangesCmd.modifySocket
      fun hNot => absurd hOwn₀.1 hNot).bind
    intro _
    apply (ChangesCmd.modifySocket
      fun hNot => absurd hOwn₁.1 hNot).bind
    exact fun _ => ChangesCmd.pure _
  cases i with
  | wsock => exact ChangesCmd.fail _ _ _ _ hRun
  | csock => exact ChangesCmd.fail _ _ _ _ hRun
  | unix =>
      rcases bind_eq_ok.mp hRun with ⟨lsd₀, t, hRead₀, hTail⟩
      rcases derefSocket_ok hRead₀ with ⟨rfl, hSocket₀⟩
      rcases bind_eq_ok.mp hTail with ⟨lsd₁, u, hRead₁, hRest⟩
      rcases derefSocket_ok hRead₁ with ⟨rfl, hSocket₁⟩
      rcases bind_eq_ok.mp hRest with ⟨ret₀, v, hBind₀, hRest⟩
      apply (changes_unixBind _ _ _ _ _ _ _ hBind₀).trans
      apply ChangesCmd.ite (ChangesCmd.pure _) _ _ _ _ hRest
      apply (changes_unixBind _ _ _ _).bind
      intro ret₁
      apply ChangesCmd.ite (ChangesCmd.pure _)
      apply ChangesCmd.ite
      · exact (changes_pairStream (hOwn₀.2 lsd₀ · hSocket₀)
          (hOwn₁.2 lsd₁ · hSocket₁) _ _ _).bind
          fun _ => hMark _
      apply ChangesCmd.ite _ (ChangesCmd.fail _)
      apply (changes_setPeerpath _ _).bind
      intro _
      exact (changes_setPeerpath _ _).bind fun _ => hMark _

theorem changes_storeNames
    {p : Ptr}
    (hOwn : own p)
    (sockname peername : NameEnv) :
    ChangesCmd own A (storeNames sockname peername p) := by
  have hSet : ∀ f, ChangesCmd own A (modifySocket p f) :=
    fun f => ChangesCmd.modifySocket
      fun hNot => absurd hOwn hNot
  apply (hSet _).bind
  intro _
  apply ChangesCmd.bind
  · apply (ChangesCmd.derefSocket p).bind
    intro lsd
    apply (changes_getsockname _ _ _).bind
    intro r
    split
    · exact ChangesCmd.pure _
    · exact ChangesCmd.ite (hSet _) (ChangesCmd.stop _)
  intro _
  apply (ChangesCmd.derefSocket p).bind
  intro lsd
  apply (changes_getpeername _ _ _).bind
  intro r
  split
  · exact ChangesCmd.pure _
  · exact ChangesCmd.setPeername _ _ _

theorem changes_closeEnds
    (env : SocketpairEnv)
    (fd₀ fd₁ : Fd) :
    ChangesCmd own A (closeEnds env fd₀ fd₁) := by
  have hClose : ∀ e fd, ChangesCmd own A (do
      let _ ← closeFd e fd) :=
    fun e fd => (changes_closeFd e fd).bind
      fun _ => ChangesCmd.pure _
  exact (ChangesCmd.when (hClose _ _)).bind
    fun _ => ChangesCmd.when (hClose _ _)

/-
  A number that was free leads to a block that was no socket:
  the older sockets are still under their own numbers.
-/
theorem not_isSocket_of_fresh
    {s t : Process}
    {fd : Fd}
    {p : Ptr}
    (hForm : WellFormed none s)
    (hFormT : WellFormed none t)
    (hKept : Kept s t)
    (hClosed : (s.fds fd).dosOpen = false)
    (hLeads : t.LeadsTo fd p) :
    ¬ s.IsSocket p := by
  rintro ⟨d, hSocket⟩
  rcases hKept p d hSocket with ⟨d', hSocket', hNarrows⟩
  rcases hFormT.socket_of_leadsTo hLeads with ⟨e, hE, hFd⟩
  cases hSocket'.symm.trans hE
  have hOld := (hForm.entry hSocket).1
  rw [← hNarrows.fd, hFd, hForm.fds.closed fd hClosed] at hOld
  cases hOld

/-
  Whatever is new in a state that keeps the older sockets is
  owned: its free blocks, and each end of a pair.
-/
def OwnsNew (own : Ptr → Prop) (s : Process) : Prop :=
  ∀ t, WellFormed none t → Kept s t →
    (∀ p, t.heap p = none → own p) ∧
    ∀ p, ¬ s.IsSocket p → t.IsSocket p → OwnsEnd own t p

omit [Tolerates A] in
theorem OwnsNew.of_kept
    {s t : Process}
    (hOwn : OwnsNew own s)
    (hKept : Kept s t) :
    OwnsNew own t := by
  intro u hForm hKeptU
  rcases hOwn u hForm (hKept.trans hKeptU) with
    ⟨hFree, hEnds⟩
  constructor
  · exact hFree
  · intro p hNot hThere
    apply hEnds p _ hThere
    rintro ⟨d, hSocket⟩
    rcases hKept p d hSocket with ⟨d', hSocket', -⟩
    exact hNot ⟨d', hSocket'⟩

theorem changes_socketpair
    {env : SocketpairEnv}
    {domain type protocol : Int}
    {s s' : Process}
    {r : Int}
    (hForm : WellFormed none s)
    (hOwn : OwnsNew own s)
    (hRun : socketpair env domain type protocol s =
      .ok (r, s')) :
    Changes own A s s' := by
  unfold socketpair at hRun
  rw [run_bind_ok (run_get s)] at hRun
  cases hPair : pairInterface s domain type protocol with
  | none =>
      simp only [hPair] at hRun
      exact ChangesCmd.fail _ _ _ _ hRun
  | some i =>
      simp only [hPair] at hRun
      rcases bind_eq_ok.mp hRun with ⟨fd₀, t, hOne, hTail⟩
      rcases bind_eq_ok.mp hTail with ⟨fd₁, u, hTwo, hRest⟩
      rcases socketx_evolves hForm.fds hOne with
        ⟨hEvolves₀, hFresh₀⟩
      have hFormT := hEvolves₀.form hForm
      rcases socketx_evolves hFormT.fds hTwo with
        ⟨hEvolves₁, hFresh₁⟩
      have hFormU := hEvolves₁.form hFormT
      have hKept₀ := kept_socketx hForm.fds hOne
      have hKept₁ := kept_socketx hFormT.fds hTwo
      have hOwnT := hOwn.of_kept hKept₀
      have hFreeS := (hOwn s hForm (.of_still (.refl s))).1
      have hFreeT := (hOwn t hFormT hKept₀).1
      apply (changes_socketx hForm.fds hFreeS hOne).trans
      apply (changes_socketx hFormT.fds hFreeT hTwo).trans
      by_cases hFailed : fd₀ = -1 ∨ fd₁ = -1
      · rw [if_pos hFailed] at hRest
        exact ((changes_closeEnds _ _ _).bind
          fun _ => ChangesCmd.pure _) u r s' hRest
      rw [if_neg hFailed] at hRest
      rcases not_or.mp hFailed with ⟨hNe₀, hNe₁⟩
      rcases bind_eq_ok.mp hRest with ⟨l₀, v, hL₀, hAfter⟩
      rcases fdToLsd_ok hL₀ with ⟨rfl, hEntry₀⟩
      rcases bind_eq_ok.mp hAfter with ⟨l₁, w, hL₁, hLast⟩
      rcases fdToLsd_ok hL₁ with ⟨rfl, hEntry₁⟩
      have hClose : ∀ e, ChangesCmd own A (do
          closeEnds env fd₀ fd₁
          fail e) := fun e =>
        (changes_closeEnds _ _ _).bind
          fun _ => ChangesCmd.fail e
      cases l₀ with
      | none => exact hClose _ _ _ _ hLast
      | some p₀ =>
          cases l₁ with
          | none => exact hClose _ _ _ _ hLast
          | some p₁ =>
              have hLeads₀ := (hEntry₀ p₀).mp rfl
              have hLeads₁ := (hEntry₁ p₁).mp rfl
              rcases hFormU.socket_of_leadsTo hLeads₀ with
                ⟨d₀, hSocket₀, -⟩
              rcases hFormU.socket_of_leadsTo hLeads₁ with
                ⟨d₁, hSocket₁, -⟩
              have hOwn₀ := (hOwn _ hFormU
                (hKept₀.trans hKept₁)).2 p₀
                (not_isSocket_of_fresh hForm hFormU
                  (hKept₀.trans hKept₁) (hFresh₀ hNe₀).2
                  hLeads₀) ⟨d₀, hSocket₀⟩
              have hOwn₁ := (hOwnT _ hFormU hKept₁).2 p₁
                (not_isSocket_of_fresh hFormT hFormU hKept₁
                  (hFresh₁ hNe₁).2 hLeads₁) ⟨d₁, hSocket₁⟩
              rcases bind_eq_ok.mp hLast with
                ⟨ret, x, hConnect, hEnd⟩
              apply (changes_interfaceSocketpair hOwn₀ hOwn₁
                hConnect).trans
              apply ChangesCmd.ite _ _ _ _ _ hEnd
              · apply ChangesCmd.get.bind
                intro x
                exact hClose _
              · apply (changes_storeNames hOwn₀.1 _ _).bind
                intro _
                exact (changes_storeNames hOwn₁.1 _ _).bind
                  fun _ => ChangesCmd.pure _

------------------------------------------------------------
-- Marks
------------------------------------------------------------

theorem changes_listen
    (env : ListenEnv)
    (fd : Fd)
    (backlog : Int) :
    ChangesCmd own A (listen env fd backlog) := by
  apply changes_prologue
  intro p lsd i
  apply ChangesCmd.refuseOr
  have hCall : ChangesCmd own A (interfaceListen env i p) := by
    cases i with
    | wsock => exact changes_wsockSimple _ _
    | csock => exact changes_csockSimple _ _
    | unix => exact ChangesCmd.pure _
  apply hCall.bind
  intro ret
  apply (ChangesCmd.when (ChangesCmd.modifySocket _)).bind
  · exact fun _ => ChangesCmd.pure _
  · exact fun _ d => Tolerates.listen d backlog

theorem changes_shutdown
    (env : ShutdownEnv)
    (fd : Fd)
    (how : Int) :
    ChangesCmd own A (shutdown env fd how) := by
  apply changes_prologue
  intro p lsd i
  apply ChangesCmd.refuseOr
  have hCall : ChangesCmd own A
      (interfaceShutdown env i p) := by
    cases i with
    | wsock => exact changes_wsockSimple _ _
    | csock => exact ChangesCmd.pure _
    | unix => exact ChangesCmd.pure _
  apply hCall.bind
  intro ret
  apply (ChangesCmd.when (ChangesCmd.modifySocket _)).bind
  · exact fun _ => ChangesCmd.pure _
  · exact fun _ d => Tolerates.shut d how

/-
  A connect that is not refused may change the descriptor
  that it is given, and the data of it.
-/
theorem changes_connect
    {env : ConnectEnv}
    {fd : Fd}
    {serv : Option Bytes}
    {addrlen : Nat}
    {s s' : Process}
    {r : Int}
    (hForm : WellFormed none s)
    (hOwn : ∀ p d, s.LeadsTo fd p →
      s.heap p = some (.socket d) →
      connectRefusal (d.checked env.writable) serv addrlen =
        none →
      OwnsEnd own s p)
    (hRun : connect env fd serv addrlen s = .ok (r, s')) :
    Changes own A s s' := by
  apply changes_entered hRun
  intro p d i hLeads hSocket hTail
  cases hRefusal : connectRefusal (d.checked env.writable)
      serv addrlen with
  | some e =>
      rw [hRefusal] at hTail
      exact ChangesCmd.fail e _ r s' hTail
  | none =>
      rw [hRefusal] at hTail
      rcases hOwn p d hLeads hSocket hRefusal with
        ⟨hOwned, hOwnData⟩
      have hSet : ∀ f, ChangesCmd own A (modifySocket p f) :=
        fun f => ChangesCmd.modifySocket
          fun hNot => absurd hOwned hNot
      by_cases hDgram :
          (d.checked env.writable).type = sockDgram
      · rw [refuseOr, if_pos hDgram] at hTail
        have hCmd : ChangesCmd own A (connectDgram
            (d.checked env.writable) p serv addrlen) := by
          cases serv with
          | none =>
              exact (hSet _).bind fun _ => ChangesCmd.pure _
          | some a =>
              apply ChangesCmd.ite (ChangesCmd.fail _)
              exact (ChangesCmd.setPeername _ _ _).bind
                fun _ => ChangesCmd.pure _
        exact hCmd _ r s' hTail
      rw [refuseOr, if_neg hDgram] at hTail
      apply changes_refuseOr _ hTail
      intro hTail
      rcases bind_eq_ok.mp hTail with ⟨ret, t, hCall, hRest⟩
      have hData : ∀ e q,
          (s.check p d env.writable).heap p =
            some (.socket e) →
          e.idata = some q → own q := by
        intro e q hE hQ
        rw [s.socket_check] at hE
        cases hE
        apply hOwnData d q hSocket
        rcases d.checked_cases env.writable with h | h
        · rw [h] at hQ
          exact hQ
        · rw [h.2.2] at hQ
          exact hQ
      apply (changes_interfaceConnect
        ((drift_check hSocket env.writable).form hForm)
        (fun _ _ _ => .inl hOwned) hData hCall).trans
      have hName : ChangesCmd own A
          (connectedName env i p) := by
        apply (changes_interfaceGetsockname _ _ _ _).bind
        intro name
        split
        · exact hSet _
        · exact ChangesCmd.ite (hSet _) (ChangesCmd.stop _)
      have hCmd : ChangesCmd own A (do
          let s ← get
          let lsd ← derefSocket p
          if ret = 0 then
            connectDone env i p (serv.getD []) addrlen
          else if lsd.blocking = false ∧
              s.errno = .EWOULDBLOCK then
            connectPending p (serv.getD []) addrlen
          else
            connectFailed p) := by
        apply ChangesCmd.get.bind
        intro u
        apply (ChangesCmd.derefSocket p).bind
        intro lsd
        apply ChangesCmd.ite
        · apply (ChangesCmd.setPeername _ _ _).bind
          intro _
          apply (ChangesCmd.when hName).bind
          intro _
          exact (hSet _).bind fun _ => ChangesCmd.pure _
        apply ChangesCmd.ite
        · apply (ChangesCmd.setPeername _ _ _).bind
          intro _
          exact (hSet _).bind fun _ => ChangesCmd.fail _
        · exact (hSet _).bind fun _ => ChangesCmd.pure _
      exact hCmd _ r s' hRest

------------------------------------------------------------
-- Every Call
------------------------------------------------------------

/- What one call needs for its changes to be tolerated. -/
structure OwnsCall
    (own : Ptr → Prop)
    (A : Block → Block → Prop)
    (call : SocketCall)
    (s : Process) : Prop where
  names : NamesUnbound own A s
  new : OwnsNew own s
  connect : ∀ env fd serv addrlen p d,
    call = .call (.connect env fd serv addrlen) →
    s.LeadsTo fd p → s.heap p = some (.socket d) →
    connectRefusal (d.checked env.writable) serv addrlen =
      none →
    OwnsEnd own s p

theorem changes_exec
    {call : Call}
    {s s' : Process}
    {r : Int}
    (hForm : WellFormed none s)
    (hOwns : OwnsCall own A (.call call) s)
    (hRun : exec call s = .ok (r, s')) :
    Changes own A s s' := by
  have hFree := (hOwns.new s hForm (.of_still (.refl s))).1
  cases call with
  | socketx env domain type protocol interface =>
      exact changes_socketx hForm.fds hFree hRun
  | accept env fd addr addrlen =>
      exact changes_accept hForm.fds hFree hRun
  | socketpair env domain type protocol =>
      exact changes_socketpair hForm hOwns.new hRun
  | close env fd => exact changes_closeFd _ _ _ _ _ hRun
  | bind env fd addr addrlen =>
      apply changes_bind _ hRun
      intro p d _ hSocket hBound
      exact hOwns.names p d hSocket hBound
  | listen env fd backlog =>
      exact changes_listen _ _ _ _ _ _ hRun
  | connect env fd serv addrlen =>
      apply changes_connect hForm _ hRun
      intro p d hLeads hSocket hRefusal
      exact hOwns.connect env fd serv addrlen p d rfl hLeads
        hSocket hRefusal
  | sendto env fd msg flags dest tolen =>
      exact changes_sendto hForm hOwns.names hRun
  | shutdown env fd how =>
      exact changes_shutdown _ _ _ _ _ _ hRun
  | ioctl env fd param =>
      exact changes_ioctlFionbio _ _ _ _ _ _ hRun
  | fcntl env fd nonblock =>
      exact changes_fcntlSetfl _ _ _ _ _ _ hRun
  | arrive name message =>
      cases hRun
      exact .of_heap rfl

theorem changes_socketExec
    {call : SocketCall}
    {s s' : Process}
    {r : Int}
    (hForm : WellFormed none s)
    (hOwns : OwnsCall own A call s)
    (hRun : socketExec call s = .ok (r, s')) :
    Changes own A s s' := by
  cases call with
  | call c => exact changes_exec hForm hOwns hRun
  | send env fd msg flags =>
      exact changes_sendto hForm hOwns.names hRun
  | write env fd msg =>
      exact changes_writeFsext hForm hOwns.names hRun
  | recv env fd buf len flags =>
      exact ((changes_recv _ _ _ _ _).bind
        fun _ => ChangesCmd.pure _) _ _ _ hRun
  | recvfrom env fd buf len flags source fromlen =>
      exact ((changes_recvfrom _ _ _ _ _ _ _).bind
        fun _ => ChangesCmd.pure _) _ _ _ hRun
  | read env fd buf count =>
      exact changes_readFsext _ _ _ _ _ _ _ hRun
  | getsockname env fd namelen =>
      exact ((changes_getsockname _ _ _).bind
        fun _ => ChangesCmd.pure _) _ _ _ hRun
  | getpeername env fd namelen =>
      exact ((changes_getpeername _ _ _).bind
        fun _ => ChangesCmd.pure _) _ _ _ hRun

end Calls

end Libsocket
