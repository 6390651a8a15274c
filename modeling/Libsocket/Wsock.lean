import Libsocket.Vxd

/-
  The callbacks of the WSOCK.VXD interface. What the driver
  answers is the environment's choice.

  Main declarations:
    * `wsockSocket`, `wsockAccept`, `wsockConnect`
    * `wsockIoctl`
-/

namespace Libsocket

open Command

------------------------------------------------------------
-- Modes And Waiting
------------------------------------------------------------

/- The driver's answer and the parameter it hands back. -/
structure WsockIoctlEnv where
  code : UInt16
  param : Int
deriving DecidableEq, Repr

/-
  `__wsock_ioctl` for `FIONBIO`: the result and the value of
  the parameter afterwards.
-/
def wsockIoctl
    (env : WsockIoctlEnv)
    (p : Ptr)
    (param : Int) : Exec (Int × Int) := do
  let lsd ← derefSocket p
  let _ ← deref Block.wsock? lsd.idata
  callVxd env.code
  if vxdFails env.code then
    return (-1, param)
  else do
    modifySocket p fun lsd =>
      { lsd with blocking := env.param == 0 }
    return (0, env.param)

/- `__wsock_select_wait` -/
def wsockSelectWait (code : UInt16) : Exec Int := do
  callVxd code
  if vxdFails code then
    return -1
  else
    return 0

/- A call whose only effect is the driver's answer. -/
def wsockSimple (p : Ptr) (code : UInt16) : Exec Int := do
  let lsd ← derefSocket p
  let _ ← deref Block.wsock? lsd.idata
  callVxd code
  if vxdFails code then
    return -1
  else
    return 0

/- `__wsock_bind` -/
def wsockBind (p : Ptr) (code : UInt16) : Exec Int :=
  wsockSimple p code

/- `__wsock_listen` -/
def wsockListen (p : Ptr) (code : UInt16) : Exec Int :=
  wsockSimple p code

/- `__wsock_shutdown` -/
def wsockShutdown (p : Ptr) (code : UInt16) : Exec Int :=
  wsockSimple p code

------------------------------------------------------------
-- Creating And Closing
------------------------------------------------------------

structure WsockSocketEnv where
  memory : Option Ptr
  content : LsckSocketWsock
  code : UInt16
  newSocket : Int
  newSocketHandle : Int
deriving DecidableEq, Repr

/-
  `__wsock_socket`. The default options it sets on a
  datagram socket stay inside the driver.
-/
def wsockSocket
    (env : WsockSocketEnv)
    (p : Ptr) : Exec Int := do
  let wsock ← malloc env.memory (.wsock env.content)
  modifySocket p fun lsd => { lsd with idata := wsock }
  if wsock = none then
    fail .ENOMEM
  else do
    callVxd env.code
    if vxdFails env.code then
      return -1
    else do
      modifyWsock wsock fun _ =>
        ⟨env.newSocket, env.newSocketHandle⟩
      return 0

/- `__wsock_close` -/
def wsockClose (p : Ptr) (code : UInt16) : Exec Int := do
  let lsd ← derefSocket p
  let _ ← deref Block.wsock? lsd.idata
  callVxd code
  if vxdFails code then
    return -1
  else do
    modifyWsock lsd.idata fun _ => ⟨0, 0⟩
    return 0

/- `__wsock_socketpair` -/
def wsockSocketpair : Exec Int := fail .EAFNOSUPPORT

------------------------------------------------------------
-- Connecting
------------------------------------------------------------

structure WsockAcceptEnv where
  memory : Option Ptr
  content : LsckSocketWsock
  waitCode : UInt16
  code : UInt16
  connectedSocket : Int
  connectedSocketHandle : Int
  address : Bytes
deriving DecidableEq, Repr

/- `__wsock_accept` on the listener `p`, for `np`. -/
def wsockAccept
    (env : WsockAcceptEnv)
    (p np : Ptr) : Exec Int := do
  let lsd ← derefSocket p
  let nwsock ← malloc env.memory (.wsock env.content)
  modifySocket np fun nsd => { nsd with idata := nwsock }
  if nwsock = none then
    fail .ENOMEM
  else do
    let _ ← deref Block.wsock? lsd.idata
    let wait ←
      (if lsd.blocking then wsockSelectWait env.waitCode
       else pure 0)
    if wait = -1 then
      return -1
    else do
      callVxd env.code
      if vxdFails env.code then
        return -1
      else if env.connectedSocket = 0 then
        return -1
      else do
        setPeername np env.address env.address.length
        modifyWsock nwsock fun _ =>
          ⟨env.connectedSocket, env.connectedSocketHandle⟩
        return 0

structure WsockConnectEnv where
  flip : WsockIoctlEnv
  code : UInt16
  waitCode : UInt16
  flipBack : WsockIoctlEnv
deriving DecidableEq, Repr

/-
  The driver accepts a blocking connect: no error, or one
  that says that it is under way.
-/
def wsockConnects (code : UInt16) : Bool :=
  code == 0 || code == 0xffff ||
    wsockErrno code == .EWOULDBLOCK ||
    wsockErrno code == .EINPROGRESS

/- `__wsock_connect` -/
def wsockConnect
    (env : WsockConnectEnv)
    (p : Ptr) : Exec Int := do
  let lsd ← derefSocket p
  let _ ← deref Block.wsock? lsd.idata
  if lsd.blocking then do
    let (_, flag) ← wsockIoctl env.flip p 1
    callVxd env.code
    let s ← get
    if env.code ≠ 0 ∧ s.errno ≠ .EWOULDBLOCK ∧
        s.errno ≠ .EINPROGRESS then do
      let _ ← wsockIoctl env.flipBack p
        (if flag = 0 then 1 else 0)
      return -1
    else do
      let _ ← wsockSelectWait env.waitCode
      let _ ← wsockIoctl env.flipBack p
        (if flag = 0 then 1 else 0)
      return 0
  else do
    callVxd env.code
    if vxdFails env.code then
      return -1
    else
      return 0

------------------------------------------------------------
-- Frame
------------------------------------------------------------

theorem still_wsockIoctl
    (env : WsockIoctlEnv)
    (p : Ptr)
    (param : Int) :
    StillCmd (wsockIoctl env p param) := by
  refine (StillCmd.derefSocket p).bind fun lsd => ?_
  refine (StillCmd.deref _ _).bind fun _ => ?_
  refine (still_callVxd _).bind fun _ => ?_
  refine StillCmd.ite (StillCmd.pure _) ?_
  refine (StillCmd.modifySocket ?_).bind fun _ => ?_
  · exact fun _ => rfl
  · exact StillCmd.pure _

theorem still_wsockSelectWait (code : UInt16) :
    StillCmd (wsockSelectWait code) :=
  (still_callVxd code).bind fun _ =>
    StillCmd.ite (StillCmd.pure _) (StillCmd.pure _)

theorem still_wsockSimple (p : Ptr) (code : UInt16) :
    StillCmd (wsockSimple p code) := by
  refine (StillCmd.derefSocket p).bind fun lsd => ?_
  refine (StillCmd.deref _ _).bind fun _ => ?_
  refine (still_callVxd _).bind fun _ => ?_
  exact StillCmd.ite (StillCmd.pure _) (StillCmd.pure _)

theorem still_wsockClose (p : Ptr) (code : UInt16) :
    StillCmd (wsockClose p code) := by
  refine (StillCmd.derefSocket p).bind fun lsd => ?_
  refine (StillCmd.deref _ _).bind fun _ => ?_
  refine (still_callVxd _).bind fun _ => ?_
  refine StillCmd.ite (StillCmd.pure _) ?_
  exact (StillCmd.modifyWsock _ _).bind
    fun _ => StillCmd.pure _

/- The part of a creation that comes after the allocation. -/
theorem still_wsockCreate
    (env : WsockSocketEnv)
    (q : Option Ptr) :
    StillCmd (do
      callVxd env.code
      if vxdFails env.code then
        return -1
      else do
        modifyWsock q fun _ =>
          ⟨env.newSocket, env.newSocketHandle⟩
        return 0 : Exec Int) := by
  refine (still_callVxd _).bind fun _ => ?_
  refine StillCmd.ite (StillCmd.pure _) ?_
  exact (StillCmd.modifyWsock _ _).bind
    fun _ => StillCmd.pure _

theorem attaches_wsockSocket
    (env : WsockSocketEnv)
    (p : Ptr) :
    Attaches .wsock p (wsockSocket env p) :=
  Attaches.of_malloc rfl (still_wsockCreate env)

theorem attaches_wsockAccept
    (env : WsockAcceptEnv)
    (p np : Ptr) :
    Attaches .wsock np (wsockAccept env p np) := by
  refine Attaches.after_read
    (fun _ _ _ h => (derefSocket_ok h).1) fun lsd => ?_
  refine Attaches.of_malloc rfl fun q => ?_
  refine (StillCmd.deref _ _).bind fun _ => ?_
  refine (StillCmd.ite (still_wsockSelectWait _)
    (StillCmd.pure _)).bind fun wait => ?_
  refine StillCmd.ite (StillCmd.pure _) ?_
  refine (still_callVxd _).bind fun _ => ?_
  refine StillCmd.ite (StillCmd.pure _) ?_
  refine StillCmd.ite (StillCmd.pure _) ?_
  refine (StillCmd.setPeername _ _ _).bind fun _ => ?_
  exact (StillCmd.modifyWsock _ _).bind
    fun _ => StillCmd.pure _

theorem still_wsockConnect
    (env : WsockConnectEnv)
    (p : Ptr) :
    StillCmd (wsockConnect env p) := by
  refine (StillCmd.derefSocket p).bind fun lsd => ?_
  refine (StillCmd.deref _ _).bind fun _ => ?_
  refine StillCmd.ite ?_ ?_
  · refine (still_wsockIoctl _ _ _).bind fun flip => ?_
    refine (still_callVxd _).bind fun _ => ?_
    refine StillCmd.get.bind fun s => ?_
    refine StillCmd.ite ?_ ?_
    · exact (still_wsockIoctl _ _ _).bind
        fun _ => StillCmd.pure _
    · refine (still_wsockSelectWait _).bind fun _ => ?_
      exact (still_wsockIoctl _ _ _).bind
        fun _ => StillCmd.pure _
  · refine (still_callVxd _).bind fun _ => ?_
    exact StillCmd.ite (StillCmd.pure _) (StillCmd.pure _)

end Libsocket
