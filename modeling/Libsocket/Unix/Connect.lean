import Libsocket.Core.Bind

/-
  The callbacks of the Unix interface that bind a socket on
  the way: connecting, and sending a datagram.

  Main declarations:
    * `unixConnect`
    * `unixSendDgram`
-/

namespace Libsocket

open Command

------------------------------------------------------------
-- Connecting
------------------------------------------------------------

/- The address of a client that has none. -/
def clientPath (n : Fin 2147483648) : Bytes :=
  bytes "/tmp/lsck/client/" ++ hex8 n

structure UnixConnectEnv where
  openCtl : OpenEnv
  secretRandom : Fin 2147483648
  seqRandom : Fin 2147483648
  nameRandom : Fin 2147483648
  bind : BindEnv
  write : WriteEnv
  read : ReadEnv
  repJunk : Fin 148 → UInt8
  openW : OpenEnv
  close : CloseEnv

/- Bind a socket without a local address to a random one. -/
def bindHere
    (env : BindEnv)
    (n : Fin 2147483648)
    (lsd : LsckSocket) : Exec Int :=
  if lsd.bound then
    return 0
  else
    bind env lsd.fd (some (sockaddrUn (clientPath n)))
      sockaddrMaxSize

/- `__UNIX_UNBINDME`, if the call has bound the socket. -/
def unbindHere
    (env : CloseEnv)
    (here : Bool)
    (p : Ptr) : Exec Unit :=
  when here (do
    modifySocket p fun lsd => { lsd with bound := false }
    let lsd ← derefSocket p
    let usock ← deref Block.unix? lsd.idata
    let _ ← closeFd env usock.fdR)

/- The header of an open request for a path. -/
def requestHeader
    (secret : UnixMsgSecret)
    (seqStart : Int)
    (path : Bytes) : UnixMsgHeader where
  version := unixMsgVersion
  type := unixMsgClientOpen
  secret := secret
  seqStart := seqStart
  seqEnd := modMaxintUnsigned (seqStart + path.length)
  offset := headerSize

/-
  Build the open request and store what it says in the
  socket's data.
-/
def unixConnectRequest
    (env : UnixConnectEnv)
    (data : Option Ptr) : Exec UnixMsgOpen := do
  let s ← get
  let usock ← deref Block.unix? data
  let sockpath ← readString usock.sockpath
  let reqPath := unixLocalPath ++ sockpath
  let path ←
    copyInto (List.replicate openPathSize 0) reqPath
  let header := requestHeader
    ⟨UInt32.ofNat env.secretRandom, s.pid⟩ env.seqRandom
    reqPath
  modifyUnix data fun usock =>
    { usock with
      secret := header.secret
      seqW := modMaxint (header.seqEnd + 1) }
  return ⟨header, path⟩

/- Send the request and wait for the reply. -/
def unixConnectExchange
    (env : UnixConnectEnv)
    (data : Option Ptr)
    (fd : Fd)
    (req : UnixMsgOpen) : Exec (Option (List Bytes)) := do
  let ret ← writeFd env.write fd req.encode
  if ret = -1 then
    return none
  else do
    let usock ← deref Block.unix? data
    readFd env.read usock.fdR

/- Check the reply and open the mailslot it names. -/
def unixConnectReply
    (env : UnixConnectEnv)
    (p : Ptr)
    (data : Option Ptr)
    (here : Bool)
    (fd : Fd)
    (rep : UnixMsgOpen) : Exec Int := do
  let usock ← deref Block.unix? data
  if rep.header.secret ≠ usock.secret ∨
      rep.header.type ≠ unixMsgServerOpen then do
    unbindHere env.close here p
    fail .ECONNREFUSED
  else do
    let repPath ← readString rep.path
    let fdW ← openFile env.openW repPath .wronly
    modifyUnix data fun usock => { usock with fdW := fdW }
    -- The test is on the control descriptor, not on `fd_w`.
    if fd = -1 then do
      unbindHere env.close here p
      return -1
    else
      match afterPrefix unixLocalPath repPath with
      | none => do
          unbindHere env.close here p
          fail .ECONNREFUSED
      | some peer => do
          setPeerpath data peer
          return 0

/- `__unix_connect` -/
def unixConnect
    (env : UnixConnectEnv)
    (p : Ptr)
    (serv : Bytes) : Exec Int := do
  let lsd ← derefSocket p
  modifyUnix lsd.idata fun usock =>
    { usock with
      peerpath := List.replicate sockaddrMaxSize 0 }
  let server ← sunPath serv
  let path ← fits maxPath (unixLocalPath ++ server)
  let fd ← openFile env.openCtl path .wronly
  if fd = -1 then
    return -1
  else do
    let ret ← bindHere env.bind env.nameRandom lsd
    if ret = -1 then
      return -1
    else do
      let req ← unixConnectRequest env lsd.idata
      let taken ← unixConnectExchange env lsd.idata fd req
      match taken with
      | none => do
          unbindHere env.close (!lsd.bound) p
          fail .ENETUNREACH
      | some ms =>
          unixConnectReply env p lsd.idata (!lsd.bound) fd
            (receivedRequest env.repJunk ms)

------------------------------------------------------------
-- Datagrams
------------------------------------------------------------

structure UnixSendDgramEnv where
  nameRandom : Fin 2147483648
  bind : BindEnv
  pathJunk : Fin 128 → UInt8
  openW : OpenEnv
  writes : List WriteEnv
  close : CloseEnv

/- The header of each packet of a datagram. -/
def dgramHeader (len : Nat) : UnixMsgHeader where
  version := unixMsgVersion
  type := unixMsgData ||| unixMsgDgramBit
  secret := ⟨0, 0⟩
  seqStart := 0
  seqEnd := Word.signed ((len : Int) - 1)
  offset := openSize

/- The loop over the packets of a datagram. -/
def sendDgramLoop
    (fd : Fd)
    (req : UnixMsgOpen) :
    List WriteEnv → Bytes → Nat → Exec Int
| _, [], total => return total
| [], _ :: _, _ => stop .blocked
| w :: ws, b :: bs, total => do
    let data := (b :: bs).take (mailslotSendsize - openSize)
    let ret ← writeFd w fd (req.encode ++ data)
    if ret = -1 ∨ ret - openSize ≠ data.length then
      fail Errno.EIO
    else
      sendDgramLoop fd req ws
        ((b :: bs).drop (mailslotSendsize - openSize))
        (total + data.length)

/- `__unix_send_dgram` -/
def unixSendDgram
    (env : UnixSendDgramEnv)
    (p : Ptr)
    (msg : Bytes)
    (dest : Option Bytes)
    (tolen : Nat) : Exec Int := do
  let lsd ← derefSocket p
  if tolen < sockaddrMaxSize ∧ dest.isSome then
    fail .EINVAL
  else if lsd.type ≠ sockDgram then
    fail .EOPNOTSUPP
  else do
    let ret ← bindHere env.bind env.nameRandom lsd
    if ret = -1 then
      return -1
    else do
      let lsd ← derefSocket p
      let source ← sunPath lsd.sockname
      let path ← copyInto (List.ofFn env.pathJunk)
        (unixLocalPath ++ source)
      match dest with
      | none => fault
      | some sun => do
          let target ← sunPath sun
          let dest ← fits maxPath (unixLocalPath ++ target)
          let fd ← openFile env.openW dest .wronly
          if fd = -1 then
            return -1
          else do
            let total ← sendDgramLoop fd
              ⟨dgramHeader msg.length, path⟩
              env.writes msg 0
            if total = -1 then
              return -1
            else do
              let _ ← closeFd env.close fd
              return total

------------------------------------------------------------
-- Frame
------------------------------------------------------------

/-
  Binding on the way, for the descriptor that is its own
  number's: loose only when the socket was not bound.
-/
theorem drift_bindHere
    {env : BindEnv}
    {n : Fin 2147483648}
    {lsd : LsckSocket}
    {p : Ptr}
    {s s' : Process}
    {r : Int}
    (hData : (s.fds lsd.fd).data = some (.lsd p))
    (hRun : bindHere env n lsd s = .ok (r, s')) :
    Drift (if lsd.bound then none else some p) s s' := by
  unfold bindHere at hRun
  by_cases hBound : lsd.bound
  · rw [if_pos hBound] at hRun ⊢
    exact DriftCmd.pure _ s r s' hRun
  · rw [if_neg hBound] at hRun ⊢
    rcases bind_ok hRun with hDrift |
      ⟨q, d, hData', -, -, hDrift⟩
    · exact hDrift.weaken
    · rw [hData] at hData'
      cases hData'
      exact hDrift

/- Undoing a bind moves the descriptor loosely. -/
theorem drift_unbindHere
    (env : CloseEnv)
    (bound : Bool)
    (p : Ptr) :
    DriftCmd (if bound then none else some p)
      (unbindHere env (!bound) p) := by
  cases bound with
  | true => exact DriftCmd.pure ()
  | false =>
      have hUnbind : DriftCmd (some p) (modifySocket p
          fun lsd => { lsd with bound := false }) :=
        DriftCmd.modifySocket fun _ => moves_bound rfl rfl
      refine hUnbind.bind fun _ => ?_
      · refine (DriftCmd.derefSocket p).bind fun lsd => ?_
        refine (DriftCmd.of_still
          (StillCmd.deref _ _)).bind fun usock => ?_
        exact (drift_closeFd _ _).weaken.bind
          fun _ => DriftCmd.pure _

theorem still_unixConnectRequest
    (env : UnixConnectEnv)
    (data : Option Ptr) :
    StillCmd (unixConnectRequest env data) := by
  refine StillCmd.get.bind fun s => ?_
  refine (StillCmd.deref _ _).bind fun usock => ?_
  refine (still_readString _).bind fun sockpath => ?_
  refine (still_copyInto _ _).bind fun path => ?_
  exact (StillCmd.modifyUnix _ _).bind
    fun _ => StillCmd.pure _

theorem still_unixConnectExchange
    (env : UnixConnectEnv)
    (data : Option Ptr)
    (fd : Fd)
    (req : UnixMsgOpen) :
    StillCmd (unixConnectExchange env data fd req) := by
  refine (still_writeFd _ _ _).bind fun ret => ?_
  refine StillCmd.ite (StillCmd.pure _) ?_
  exact (StillCmd.deref _ _).bind fun _ => still_readFd _ _

theorem drift_unixConnectReply
    (env : UnixConnectEnv)
    (p : Ptr)
    (data : Option Ptr)
    (bound : Bool)
    (fd : Fd)
    (rep : UnixMsgOpen) :
    DriftCmd (if bound then none else some p)
      (unixConnectReply env p data (!bound) fd rep) := by
  refine (DriftCmd.of_still
    (StillCmd.deref _ _)).bind fun usock => ?_
  refine DriftCmd.ite ?_ ?_
  · exact (drift_unbindHere _ _ _).bind
      fun _ => DriftCmd.fail _
  · refine (DriftCmd.of_still
      (still_readString _)).bind fun repPath => ?_
    refine (DriftCmd.of_still
      (still_openFile _ _ _)).bind fun fdW => ?_
    refine (DriftCmd.of_still
      (StillCmd.modifyUnix _ _)).bind fun _ => ?_
    refine DriftCmd.ite ?_ ?_
    · exact (drift_unbindHere _ _ _).bind
        fun _ => DriftCmd.pure _
    · cases afterPrefix unixLocalPath repPath with
      | none =>
          exact (drift_unbindHere _ _ _).bind
            fun _ => DriftCmd.fail _
      | some peer =>
          exact (DriftCmd.of_still
            (still_setPeerpath _ _)).bind
            fun _ => DriftCmd.pure _

/- The descriptor number of a live socket leads to it. -/
theorem WellFormed.data_of_still
    {s t : Process}
    {p : Ptr}
    {lsd : LsckSocket}
    (hForm : WellFormed none s)
    (hSocket : s.heap p = some (.socket lsd))
    (hStill : Still s t) :
    (t.fds lsd.fd).data = some (.lsd p) := by
  rcases hForm.entry hSocket with ⟨hFunction, hData⟩
  rw [hStill.entry hForm.fds lsd.fd (.inl hFunction)]
  exact hData

/- What follows once the socket is bound. -/
theorem drift_unixConnectBound
    (env : UnixConnectEnv)
    (p : Ptr)
    (lsd : LsckSocket)
    (fd : Fd) :
    DriftCmd (if lsd.bound then none else some p) (do
      let req ← unixConnectRequest env lsd.idata
      let taken ← unixConnectExchange env lsd.idata fd req
      match taken with
      | none => do
          unbindHere env.close (!lsd.bound) p
          fail .ENETUNREACH
      | some ms =>
          unixConnectReply env p lsd.idata (!lsd.bound) fd
            (receivedRequest env.repJunk ms)) := by
  refine (DriftCmd.of_still
    (still_unixConnectRequest _ _)).bind fun req => ?_
  refine (DriftCmd.of_still
    (still_unixConnectExchange _ _ _ _)).bind fun taken => ?_
  cases taken with
  | none =>
      exact (drift_unbindHere _ _ _).bind
        fun _ => DriftCmd.fail _
  | some ms => exact drift_unixConnectReply _ _ _ _ _ _

theorem quiet_unixConnect
    {env : UnixConnectEnv}
    {p : Ptr}
    {serv : Bytes}
    {s s' : Process}
    {r : Int}
    (hRun : unixConnect env p serv s = .ok (r, s')) :
    Quiet s s' := by
  refine Quiet.of_form fun hForm => ?_
  rcases bind_eq_ok.mp hRun with ⟨lsd, t, hRead, hTail⟩
  rcases derefSocket_ok hRead with ⟨hSame, hSocket⟩
  subst hSame
  suffices hDrift :
      Drift (if lsd.bound then none else some p) t s' by
    refine .of_drift hDrift fun q d hQ hD => ?_
    by_cases hBound : lsd.bound
    · simp [hBound] at hQ
    · rw [if_neg hBound] at hQ
      cases hQ
      rw [hSocket] at hD
      cases hD
      simpa using hBound
  rcases bind_eq_ok.mp hTail with ⟨_, t₁, hClear, hTail⟩
  rcases bind_eq_ok.mp hTail with ⟨server, t₂, hSun, hTail⟩
  rcases bind_eq_ok.mp hTail with ⟨path, t₃, hFits, hTail⟩
  rcases bind_eq_ok.mp hTail with ⟨fd, t₄, hOpen, hTail⟩
  have hStill : Still t t₄ :=
    (StillCmd.modifyUnix _ _ _ _ _ hClear).trans <|
      (still_sunPath _ _ _ _ hSun).trans <|
        (still_fits _ _ _ _ _ hFits).trans <|
          still_openFile _ _ _ _ _ _ hOpen
  by_cases hFailed : fd = -1
  · rw [if_pos hFailed] at hTail
    cases hTail
    exact Drift.of_still hStill
  · rw [if_neg hFailed] at hTail
    rcases bind_eq_ok.mp hTail with ⟨ret, t₅, hBind, hTail⟩
    have hBindDrift := drift_bindHere
      (hForm.data_of_still hSocket hStill) hBind
    refine (Drift.of_still hStill).trans
      (hBindDrift.trans ?_)
    by_cases hRet : ret = -1
    · rw [if_pos hRet] at hTail
      cases hTail
      exact Drift.refl _
    · rw [if_neg hRet] at hTail
      exact drift_unixConnectBound env p lsd fd _ _ _ hTail

theorem still_sendDgramLoop
    (fd : Fd)
    (req : UnixMsgOpen)
    (writes : List WriteEnv)
    (msg : Bytes)
    (total : Nat) :
    StillCmd (sendDgramLoop fd req writes msg total) := by
  induction writes generalizing msg total with
  | nil =>
      cases msg with
      | nil => exact StillCmd.pure _
      | cons b bs => exact StillCmd.stop _
  | cons w ws ih =>
      cases msg with
      | nil => exact StillCmd.pure _
      | cons b bs =>
          refine (still_writeFd _ _ _).bind fun ret => ?_
          exact StillCmd.ite (StillCmd.fail _) (ih _ _)

/- Sending the packets of a datagram, once it is bound. -/
theorem drift_unixSendDgramBound
    (env : UnixSendDgramEnv)
    (p : Ptr)
    (msg : Bytes)
    (dest : Option Bytes) :
    DriftCmd none (do
      let lsd ← derefSocket p
      let source ← sunPath lsd.sockname
      let path ← copyInto (List.ofFn env.pathJunk)
        (unixLocalPath ++ source)
      match dest with
      | none => fault
      | some sun => do
          let target ← sunPath sun
          let dest ← fits maxPath (unixLocalPath ++ target)
          let fd ← openFile env.openW dest .wronly
          if fd = -1 then
            return -1
          else do
            let total ← sendDgramLoop fd
              ⟨dgramHeader msg.length, path⟩
              env.writes msg 0
            if total = -1 then
              return -1
            else do
              let _ ← closeFd env.close fd
              return total) := by
  refine (DriftCmd.derefSocket p).bind fun lsd => ?_
  refine (DriftCmd.of_still
    (still_sunPath _)).bind fun source => ?_
  refine (DriftCmd.of_still
    (still_copyInto _ _)).bind fun path => ?_
  split
  · exact DriftCmd.stop _
  · refine (DriftCmd.of_still
      (still_sunPath _)).bind fun target => ?_
    refine (DriftCmd.of_still
      (still_fits _ _)).bind fun dest => ?_
    refine (DriftCmd.of_still
      (still_openFile _ _ _)).bind fun fd => ?_
    refine DriftCmd.ite (DriftCmd.pure _) ?_
    refine (DriftCmd.of_still
      (still_sendDgramLoop _ _ _ _ _)).bind fun total => ?_
    refine DriftCmd.ite (DriftCmd.pure _) ?_
    exact (drift_closeFd _ _).bind fun _ => DriftCmd.pure _

theorem quiet_unixSendDgram
    {env : UnixSendDgramEnv}
    {p : Ptr}
    {msg : Bytes}
    {dest : Option Bytes}
    {tolen : Nat}
    {s s' : Process}
    {r : Int}
    (hRun :
      unixSendDgram env p msg dest tolen s = .ok (r, s')) :
    Quiet s s' := by
  refine Quiet.of_form fun hForm => ?_
  rcases bind_eq_ok.mp hRun with ⟨lsd, t, hRead, hTail⟩
  rcases derefSocket_ok hRead with ⟨hSame, hSocket⟩
  subst hSame
  suffices hDrift :
      Drift (if lsd.bound then none else some p) t s' by
    refine .of_drift hDrift fun q d hQ hD => ?_
    by_cases hBound : lsd.bound
    · simp [hBound] at hQ
    · rw [if_neg hBound] at hQ
      cases hQ
      rw [hSocket] at hD
      cases hD
      simpa using hBound
  by_cases hShort : tolen < sockaddrMaxSize ∧ dest.isSome
  · rw [if_pos hShort] at hTail
    exact DriftCmd.fail _ t r s' hTail
  by_cases hType : lsd.type ≠ sockDgram
  · rw [if_neg hShort, if_pos hType] at hTail
    exact DriftCmd.fail _ t r s' hTail
  rw [if_neg hShort, if_neg hType] at hTail
  rcases bind_eq_ok.mp hTail with ⟨ret, u, hBind, hTail⟩
  refine (drift_bindHere (hForm.entry hSocket).2
    hBind).trans ?_
  by_cases hRet : ret = -1
  · rw [if_pos hRet] at hTail
    cases hTail
    exact Drift.refl _
  · rw [if_neg hRet] at hTail
    exact (drift_unixSendDgramBound env p msg dest _ _ _
      hTail).weaken

end Libsocket
