import Libsocket.Core.Invariant
import Libsocket.Unix.Datagram

/-
  Receiving, and the calls that send and receive through
  another one: `send`, `read` and `write`. Sending and
  receiving take the interface's callback as a parameter, so
  that it can be said that they do not use it.

  Main declarations:
    * `recv`, `recvfrom`
    * `sendtoWith`, `sendto_eq`
    * `readFsext`, `writeFsext`
    * `readWith`, `writeWith`
    * `drift_recv`, `drift_recvfrom`
-/

namespace Libsocket

open Command

/-
  What a receive returns, copies to the caller's buffer, and
  stores as the address of the sender.
-/
abbrev Received := Int × Bytes × Option Bytes

/- A receive that only reports an error. -/
def failReceive (e : Errno) : Exec Received := do
  let r ← fail e
  return (r, [], none)

------------------------------------------------------------
-- Receiving Through WSOCK.VXD
------------------------------------------------------------

/-
  The driver's answers to the receive, to the wait for data
  and to the receive after it, and what it then hands over.
-/
structure WsockRecvEnv where
  code : UInt16
  waitCode : UInt16
  againCode : UInt16
  data : Bytes
  address : Bytes
deriving DecidableEq, Repr

/- `WSAEWOULDBLOCK` -/
def wsaewouldblock : UInt16 := 10035

/- What is taken over after the last answer of the driver. -/
def wsockReceived
    (env : WsockRecvEnv)
    (code : UInt16)
    (source : Bool) : Received :=
  if code ≠ 0 then
    (-1, [], none)
  else
    (env.data.length, env.data,
      if source then some env.address else none)

/- The common part of both ways to receive. -/
def wsockReceive
    (env : WsockRecvEnv)
    (p : Ptr)
    (source : Bool) : Exec Received := do
  let lsd ← derefSocket p
  let _ ← deref Block.wsock? lsd.idata
  callVxd env.code
  if env.code = wsaewouldblock ∨ env.code = 0xffff then
    if lsd.blocking then do
      let wait ← wsockSelectWait env.waitCode
      if wait = -1 then
        return (-1, [], none)
      else do
        callVxd env.againCode
        return wsockReceived env env.againCode source
    else
      return (-1, [], none)
  else
    return wsockReceived env env.code source

/- `__wsock_recv` -/
def wsockRecv (env : WsockRecvEnv) (p : Ptr) : Exec Received :=
  wsockReceive env p false

/- `__wsock_recvfrom`, which always reads `*fromlen`. -/
def wsockRecvfrom
    (env : WsockRecvEnv)
    (p : Ptr)
    (source : Bool)
    (fromlen : Option Nat) : Exec Received :=
  match fromlen with
  | none => fault
  | some _ => wsockReceive env p source

------------------------------------------------------------
-- Receiving Through SOCK.VXD
------------------------------------------------------------

/-
  The driver's version, its answers to the receive and to
  the two changes of the mode around it, and what it hands
  over.
-/
structure CsockRecvEnv where
  version : Nat
  answer : Int
  flipAnswer : Int
  flipBackAnswer : Int
  data : Bytes
  port : Nat
  address : Nat
  junk : Fin 8 → UInt8

/- What is taken over after the driver's answer. -/
def csockReceived
    (env : CsockRecvEnv)
    (name : Option Bytes) : Exec Received :=
  if env.answer < 0 then do
    let r ← failCsock env.answer
    return (r, env.data, name)
  else
    return (env.data.length, env.data, name)

/- `__csock_recv` -/
def csockRecv
    (env : CsockRecvEnv)
    (p : Ptr)
    (flags : Nat) : Exec Received := do
  let lsd ← derefSocket p
  let _ ← deref Block.csock? lsd.idata
  if flags ≠ 0 then
    failReceive .EINVAL
  else
    csockReceived env none

/-
  `__csock_recvfrom`. Before version 1 the driver has the
  modes the wrong way round, so the mode is inverted for the
  time of the call.
-/
def csockRecvfrom
    (env : CsockRecvEnv)
    (p : Ptr)
    (flags : Nat)
    (source : Bool)
    (fromlen : Option Nat) : Exec Received := do
  let lsd ← derefSocket p
  let _ ← deref Block.csock? lsd.idata
  if source ∧ fromlen.getD 0 < sockaddrInSize then
    failReceive .EINVAL
  else if flags ≠ 0 ∧ flags ≠ msgPeek then
    failReceive .EINVAL
  else do
    when (env.version < 1) (do
      let _ ← csockIoctl env.flipAnswer p
        (if lsd.blocking then 1 else 0))
    when (env.version < 1) (do
      let _ ← csockIoctl env.flipBackAnswer p
        (if lsd.blocking then 0 else 1))
    csockReceived env (if source then
      some (sockaddrIn env.port env.address ++
        List.ofFn env.junk)
    else
      none)

------------------------------------------------------------
-- Receiving Through Mailslots
------------------------------------------------------------

/-
  The reads, what the packet buffer holds for a datagram,
  the memory around it, the write of a close packet, how the
  two closes after it go, and the memory of a name.
-/
structure UnixRecvEnv where
  reads : List ReadEnv
  buffer : Fin mailslotSendsize → UInt8
  around : Int → UInt8
  write : WriteEnv
  closeR : CloseEnv
  closeW : CloseEnv
  junk : SunJunk

namespace UnixRecvEnv

def stream (env : UnixRecvEnv) : RecvEnv :=
  ⟨env.reads, env.around, env.write, closeFd env.closeR,
    closeFd env.closeW⟩

def dgram (env : UnixRecvEnv) : RecvDgramEnv :=
  ⟨env.reads, env.buffer, env.around⟩

end UnixRecvEnv

/- `__unix_recv` -/
def unixRecv
    (env : UnixRecvEnv)
    (p : Ptr)
    (len : Nat)
    (flags : Nat) : Exec Received := do
  let lsd ← derefSocket p
  if lsd.type = sockStream then do
    let (r, data) ← unixRecvStream env.stream p len flags
    return (r, data, none)
  else if lsd.type = sockDgram then
    unixRecvDgram env.dgram p len flags none
  else
    failReceive .EOPNOTSUPP

/- `__unix_recvfrom` -/
def unixRecvfrom
    (env : UnixRecvEnv)
    (p : Ptr)
    (len : Nat)
    (flags : Nat)
    (source : Option Nat) : Exec Received := do
  let lsd ← derefSocket p
  if lsd.type = sockStream then do
    let (r, data) ← unixRecvStream env.stream p len flags
    match source with
    | none => return (r, data, none)
    | some fromlen =>
        if r ≠ -1 then do
          let name ← unixGetpeername env.junk p fromlen
          return (r, data, some name)
        else
          return (r, data, none)
  else if lsd.type = sockDgram then
    unixRecvDgram env.dgram p len flags source
  else
    failReceive .EOPNOTSUPP

------------------------------------------------------------
-- Receiving
------------------------------------------------------------

/- What the interfaces answer to a receive. -/
structure RecvEnvs where
  writable : Bool
  wsock : WsockRecvEnv
  csock : CsockRecvEnv
  unixEnv : UnixRecvEnv

/- The length that both pointers to an address give. -/
def sourceLength
    (source : Bool)
    (fromlen : Option Nat) : Option Nat :=
  if source then fromlen else none

/- The callback `recv` -/
def interfaceRecv
    (env : RecvEnvs)
    (len : Nat)
    (flags : Nat)
    (i : Interface)
    (p : Ptr) : Exec Received :=
  match i with
  | .wsock => wsockRecv env.wsock p
  | .csock => csockRecv env.csock p flags
  | .unix => unixRecv env.unixEnv p len flags

/- The callback `recvfrom` -/
def interfaceRecvfrom
    (env : RecvEnvs)
    (len : Nat)
    (flags : Nat)
    (source : Bool)
    (fromlen : Option Nat)
    (i : Interface)
    (p : Ptr) : Exec Received :=
  match i with
  | .wsock => wsockRecvfrom env.wsock p source fromlen
  | .csock =>
      csockRecvfrom env.csock p flags source fromlen
  | .unix =>
      unixRecvfrom env.unixEnv p len flags
        (sourceLength source fromlen)

/- The checks of `recv` that come before the direction. -/
def recvRefusal
    (lsd : LsckSocket)
    (buf : Bool) : Option Errno :=
  if lsd.type = sockStream ∧ lsd.connected = false then
    some .ENOTCONN
  else if buf = false then
    some .EFAULT
  else
    none

/- The checks of `recvfrom` that come before it. -/
def recvfromRefusal
    (buf : Bool)
    (source : Bool)
    (fromlen : Option Nat) : Option Errno :=
  if buf = false then
    some .EFAULT
  else if source ∧ fromlen = none then
    some .EFAULT
  else
    none

/- What both calls do once they have a socket. -/
def receive
    (refusal : Option Errno)
    (allowed : Bool)
    (provided : Bool)
    (callback : Exec Received) : Exec Received :=
  match refusal with
  | some e => failReceive e
  | none =>
      if allowed = false then
        return (0, [], none)
      else if provided then
        callback
      else
        failReceive .EOPNOTSUPP

/- `recv`, with the callback that it uses. -/
def recvWith
    (callback : Interface → Ptr → Exec Received)
    (writable : Bool)
    (s : Fd)
    (buf : Bool) : Exec Received := do
  let found ← enter writable s
  match found with
  | none => return (-1, [], none)
  | some p => do
      let lsd ← derefSocket p
      let i ← interfaceOf lsd
      receive (recvRefusal lsd buf) lsd.inbound
        (i.provides .recv) (callback i p)

/- `recvfrom`, with the callback that it uses. -/
def recvfromWith
    (callback : Interface → Ptr → Exec Received)
    (writable : Bool)
    (s : Fd)
    (buf : Bool)
    (source : Bool)
    (fromlen : Option Nat) : Exec Received := do
  let found ← enter writable s
  match found with
  | none => return (-1, [], none)
  | some p => do
      let lsd ← derefSocket p
      let i ← interfaceOf lsd
      receive (recvfromRefusal buf source fromlen)
        lsd.inbound (i.provides .recvfrom) (callback i p)

/- `recv` -/
def recv
    (env : RecvEnvs)
    (s : Fd)
    (buf : Bool)
    (len : Nat)
    (flags : Nat) : Exec Received :=
  recvWith (interfaceRecv env len flags) env.writable s buf

/- `recvfrom` -/
def recvfrom
    (env : RecvEnvs)
    (s : Fd)
    (buf : Bool)
    (len : Nat)
    (flags : Nat)
    (source : Bool)
    (fromlen : Option Nat) : Exec Received :=
  recvfromWith
    (interfaceRecvfrom env len flags source fromlen)
    env.writable s buf source fromlen

------------------------------------------------------------
-- Sending
------------------------------------------------------------

/- `sendto`, with the callbacks that it uses. -/
def sendtoWith
    (send : Interface → Ptr → Exec Int)
    (sendto : Interface → Ptr → Bytes → Nat → Exec Int)
    (writable : Bool)
    (s : Fd)
    (msg : Option Bytes)
    (dest : Option Bytes)
    (tolen : Nat) : Exec Int := do
  let found ← enter writable s
  match found with
  | none => return -1
  | some p => do
      let lsd ← derefSocket p
      let i ← interfaceOf lsd
      refuseOr (sendRefusal lsd msg dest tolen) (
        if lsd.type = sockStream then
          refuseOr (sendStreamRefusal lsd dest tolen)
            (send i p)
        else
          refuseOr (sendOtherRefusal lsd dest) (
            match dest with
            | some dest => sendto i p dest tolen
            | none =>
                sendto i p lsd.peername lsd.peernamelen))

/- `sendto` uses the callbacks of the interface. -/
theorem sendto_eq
    (env : SendEnv)
    (s : Fd)
    (msg : Option Bytes)
    (flags : Nat)
    (dest : Option Bytes)
    (tolen : Nat) :
    sendto env s msg flags dest tolen =
      sendtoWith
        (fun i p => interfaceSend env i p (msg.getD []) flags)
        (fun i p dest n => interfaceSendto env i p
          (msg.getD []) flags dest n)
        env.writable s msg dest tolen :=
  rfl

/- `send` -/
def send
    (env : SendEnv)
    (s : Fd)
    (msg : Option Bytes)
    (flags : Nat) : Exec Int :=
  sendto env s msg flags none 0

------------------------------------------------------------
-- Reading And Writing
------------------------------------------------------------

/- The handler is called for the numbers of sockets. -/
def whenSocket (fd : Fd) (m : Exec Int) : Exec Int := do
  let s ← get
  if fdIsSocket s fd then m else stop .foreign

/- The read case of `__lsck_socket_fsext`, after `recv`. -/
def readResult (rv : Int) : Exec Int := do
  let s ← get
  if rv = -1 ∧ s.errno = .EWOULDBLOCK then do
    setErrno .EAGAIN
    return 0
  else
    return rv

/-
  The write case, after `send`. The condition assigns to
  `errno` instead of comparing, so every failure counts.
-/
def writeResult (rv : Int) : Exec Int := do
  if rv = -1 then do
    setErrno .EAGAIN
    return 0
  else
    return rv

/- `read` on a socket, with the callback that it uses. -/
def readWith
    (callback : Interface → Ptr → Exec Received)
    (writable : Bool)
    (s : Fd)
    (buf : Bool) : Exec Int :=
  whenSocket s (do
    let (rv, _) ← recvWith callback writable s buf
    readResult rv)

/- `write` on a socket, with the callbacks that it uses. -/
def writeWith
    (send : Interface → Ptr → Exec Int)
    (sendto : Interface → Ptr → Bytes → Nat → Exec Int)
    (writable : Bool)
    (s : Fd)
    (msg : Option Bytes) : Exec Int :=
  whenSocket s (do
    let rv ← sendtoWith send sendto writable s msg none 0
    writeResult rv)

/- `read` on a socket -/
def readFsext
    (env : RecvEnvs)
    (s : Fd)
    (buf : Bool)
    (count : Nat) : Exec Int :=
  whenSocket s (do
    let (rv, _) ← recv env s buf count 0
    readResult rv)

/- `write` on a socket -/
def writeFsext
    (env : SendEnv)
    (s : Fd)
    (msg : Option Bytes) : Exec Int :=
  whenSocket s (do
    let rv ← send env s msg 0
    writeResult rv)

------------------------------------------------------------
-- Frame
------------------------------------------------------------

theorem still_failReceive (e : Errno) :
    StillCmd (failReceive e) :=
  (StillCmd.fail e).bind fun _ => StillCmd.pure _

theorem still_wsockReceive
    (env : WsockRecvEnv)
    (p : Ptr)
    (source : Bool) :
    StillCmd (wsockReceive env p source) := by
  apply (StillCmd.derefSocket p).bind
  intro lsd
  apply (StillCmd.deref _ _).bind
  intro _
  apply (still_callVxd _).bind
  intro _
  apply StillCmd.ite
  · apply StillCmd.ite _ (StillCmd.pure _)
    apply (still_wsockSelectWait _).bind
    intro wait
    apply StillCmd.ite (StillCmd.pure _)
    exact (still_callVxd _).bind fun _ => StillCmd.pure _
  · exact StillCmd.pure _

theorem still_wsockRecvfrom
    (env : WsockRecvEnv)
    (p : Ptr)
    (source : Bool)
    (fromlen : Option Nat) :
    StillCmd (wsockRecvfrom env p source fromlen) := by
  cases fromlen with
  | none => exact StillCmd.fault
  | some n => exact still_wsockReceive _ _ _

theorem still_csockReceived
    (env : CsockRecvEnv)
    (name : Option Bytes) :
    StillCmd (csockReceived env name) := by
  apply StillCmd.ite _ (StillCmd.pure _)
  exact (still_failCsock _).bind fun _ => StillCmd.pure _

theorem still_csockRecv
    (env : CsockRecvEnv)
    (p : Ptr)
    (flags : Nat) :
    StillCmd (csockRecv env p flags) := by
  apply (StillCmd.derefSocket p).bind
  intro lsd
  apply (StillCmd.deref _ _).bind
  intro _
  exact StillCmd.ite (still_failReceive _)
    (still_csockReceived _ _)

theorem still_csockRecvfrom
    (env : CsockRecvEnv)
    (p : Ptr)
    (flags : Nat)
    (source : Bool)
    (fromlen : Option Nat) :
    StillCmd (csockRecvfrom env p flags source fromlen) := by
  have hFlip : ∀ answer param, StillCmd
      (when (env.version < 1) (do
        let _ ← csockIoctl answer p param)) := by
    intro answer param
    apply StillCmd.when
    exact (still_csockIoctl _ _ _).bind
      fun _ => StillCmd.pure _
  apply (StillCmd.derefSocket p).bind
  intro lsd
  apply (StillCmd.deref _ _).bind
  intro _
  apply StillCmd.ite (still_failReceive _)
  apply StillCmd.ite (still_failReceive _)
  apply (hFlip _ _).bind
  intro _
  apply (hFlip _ _).bind
  intro _
  exact still_csockReceived _ _

theorem still_readPacket
    (env : ReadEnv)
    (peek : Bool)
    (fdR : Fd) :
    StillCmd (readPacket env peek fdR) := by
  apply (StillCmd.when (still_ioctlPeek _ _)).bind
  intro _
  apply (still_readFd _ _).bind
  intro taken
  apply (StillCmd.when (still_ioctlPeek _ _)).bind
  intro _
  exact StillCmd.pure _

/- A close packet makes the receive close the socket. -/
theorem drift_recvLoop
    (env : UnixRecvEnv)
    (p : Ptr)
    (len : Nat)
    (peeking : Bool)
    (reads : List ReadEnv)
    (badPacket : Bool) :
    DriftCmd none (recvLoop env.stream p len peeking reads
      badPacket) := by
  induction reads generalizing badPacket with
  | nil => exact DriftCmd.stop _
  | cons r rs ih =>
      apply (DriftCmd.derefSocket p).bind
      intro lsd
      apply (DriftCmd.of_still (StillCmd.deref _ _)).bind
      intro usock
      apply (DriftCmd.of_still (still_readPacket _ _ _)).bind
      intro taken
      cases taken with
      | none =>
          apply DriftCmd.of_still
          exact (StillCmd.setErrno _).bind
            fun _ => StillCmd.pure _
      | some ms =>
          apply (DriftCmd.of_still
            (StillCmd.modify fun _ => ?_)).bind
          · intro _
            apply DriftCmd.get.bind
            intro s
            apply DriftCmd.ite
            · apply (drift_unixClose
                (fun _ => drift_closeFd _ _)
                (fun _ => drift_closeFd _ _) _ _).bind
              intro _
              apply DriftCmd.of_still
              exact (StillCmd.setErrno _).bind
                fun _ => StillCmd.pure _
            apply DriftCmd.ite
            · exact DriftCmd.ite (ih true) (DriftCmd.pure _)
            · apply (DriftCmd.of_still (StillCmd.when
                (StillCmd.modifyUnix _ _))).bind
              intro _
              apply DriftCmd.ite (DriftCmd.stop _)
              exact DriftCmd.ite (ih false) (DriftCmd.pure _)
          · exact ⟨rfl, id, fun _ _ _ => rfl, fun _ => rfl⟩

theorem still_packetSource
    (buffer : Bytes)
    (fromlen : Nat) :
    StillCmd (packetSource buffer fromlen) := by
  apply (still_readString _).bind
  intro text
  exact (still_copyInto _ _).bind fun _ => StillCmd.pure _

theorem still_recvDgramLoop
    (around : Int → UInt8)
    (fdR : Fd)
    (len : Nat)
    (peeking : Bool)
    (source : Option Nat)
    (reads : List ReadEnv)
    (buffer : Bytes)
    (stored : Option Bytes)
    (badPacket : Bool) :
    StillCmd (recvDgramLoop around fdR len peeking source
      reads buffer stored badPacket) := by
  induction reads generalizing buffer stored badPacket with
  | nil => exact StillCmd.stop _
  | cons r rs ih =>
      apply (still_readPacket _ _ _).bind
      intro taken
      cases taken with
      | none =>
          exact (StillCmd.setErrno _).bind
            fun _ => StillCmd.pure _
      | some ms =>
          apply StillCmd.ite
          · exact StillCmd.ite (ih _ _ _) (StillCmd.pure _)
          · have hStore : StillCmd (storeSource source
                (overlay buffer ms.flatten) stored) := by
              cases source with
              | none => exact StillCmd.pure _
              | some n =>
                  exact (still_packetSource _ _).bind
                    fun _ => StillCmd.pure _
            apply hStore.bind
            intro name
            apply StillCmd.ite StillCmd.fault
            exact StillCmd.ite (ih _ _ _) (StillCmd.pure _)

theorem still_unixRecvDgram
    (env : RecvDgramEnv)
    (p : Ptr)
    (len flags : Nat)
    (source : Option Nat) :
    StillCmd (unixRecvDgram env p len flags source) := by
  apply (StillCmd.derefSocket p).bind
  intro lsd
  apply StillCmd.ite
  · exact (StillCmd.setErrno _).bind fun _ => StillCmd.pure _
  · apply (StillCmd.deref _ _).bind
    intro usock
    exact still_recvDgramLoop _ _ _ _ _ _ _ _ _

theorem drift_unixRecv
    (env : UnixRecvEnv)
    (p : Ptr)
    (len flags : Nat) :
    DriftCmd none (unixRecv env p len flags) := by
  apply (DriftCmd.derefSocket p).bind
  intro lsd
  apply DriftCmd.ite
  · exact (drift_recvLoop _ _ _ _ _ _).bind
      fun _ => DriftCmd.pure _
  · apply DriftCmd.ite
    · exact DriftCmd.of_still (still_unixRecvDgram _ _ _ _ _)
    · exact DriftCmd.of_still (still_failReceive _)

theorem drift_unixRecvfrom
    (env : UnixRecvEnv)
    (p : Ptr)
    (len flags : Nat)
    (source : Option Nat) :
    DriftCmd none (unixRecvfrom env p len flags source) := by
  apply (DriftCmd.derefSocket p).bind
  intro lsd
  apply DriftCmd.ite
  · apply (drift_recvLoop _ _ _ _ _ _).bind
    rintro ⟨r, data⟩
    cases source with
    | none => exact DriftCmd.pure _
    | some fromlen =>
        apply DriftCmd.ite _ (DriftCmd.pure _)
        exact (DriftCmd.of_still
          (still_unixGetpeername _ _ _)).bind
            fun _ => DriftCmd.pure _
  · apply DriftCmd.ite
    · exact DriftCmd.of_still (still_unixRecvDgram _ _ _ _ _)
    · exact DriftCmd.of_still (still_failReceive _)

theorem drift_receive
    {refusal : Option Errno}
    {allowed provided : Bool}
    {callback : Exec Received}
    (hCallback : DriftCmd none callback) :
    DriftCmd none (receive refusal allowed provided
      callback) := by
  cases refusal with
  | some e => exact DriftCmd.of_still (still_failReceive e)
  | none =>
      apply DriftCmd.ite (DriftCmd.pure _)
      exact DriftCmd.ite hCallback
        (DriftCmd.of_still (still_failReceive _))

/- Receiving moves no socket, however the callback does. -/
theorem drift_recv
    (env : RecvEnvs)
    (s : Fd)
    (buf : Bool)
    (len flags : Nat) :
    DriftCmd none (recv env s buf len flags) := by
  apply (drift_enter _ _).bind
  intro found
  cases found with
  | none => exact DriftCmd.pure _
  | some p =>
      apply (DriftCmd.derefSocket p).bind
      intro lsd
      apply (DriftCmd.of_still (still_interfaceOf _)).bind
      intro i
      apply drift_receive
      cases i with
      | wsock =>
          exact DriftCmd.of_still (still_wsockReceive _ _ _)
      | csock =>
          exact DriftCmd.of_still (still_csockRecv _ _ _)
      | unix => exact drift_unixRecv _ _ _ _

theorem drift_recvfrom
    (env : RecvEnvs)
    (s : Fd)
    (buf : Bool)
    (len flags : Nat)
    (source : Bool)
    (fromlen : Option Nat) :
    DriftCmd none
      (recvfrom env s buf len flags source fromlen) := by
  apply (drift_enter _ _).bind
  intro found
  cases found with
  | none => exact DriftCmd.pure _
  | some p =>
      apply (DriftCmd.derefSocket p).bind
      intro lsd
      apply (DriftCmd.of_still (still_interfaceOf _)).bind
      intro i
      apply drift_receive
      cases i with
      | wsock =>
          exact DriftCmd.of_still
            (still_wsockRecvfrom _ _ _ _)
      | csock =>
          exact DriftCmd.of_still
            (still_csockRecvfrom _ _ _ _ _)
      | unix => exact drift_unixRecvfrom _ _ _ _ _

theorem still_readResult (rv : Int) :
    StillCmd (readResult rv) := by
  apply StillCmd.get.bind
  intro s
  apply StillCmd.ite _ (StillCmd.pure _)
  exact (StillCmd.setErrno _).bind fun _ => StillCmd.pure _

theorem still_writeResult (rv : Int) :
    StillCmd (writeResult rv) := by
  apply StillCmd.ite _ (StillCmd.pure _)
  exact (StillCmd.setErrno _).bind fun _ => StillCmd.pure _

/- The handler runs in the state in which it is called. -/
theorem whenSocket_ok
    {fd : Fd}
    {m : Exec Int}
    {s s' : Process}
    {r : Int}
    (hRun : whenSocket fd m s = .ok (r, s')) :
    m s = .ok (r, s') := by
  unfold whenSocket at hRun
  rw [run_bind_ok (run_get s)] at hRun
  by_cases hSocket : fdIsSocket s fd
  · rw [if_pos hSocket] at hRun
    exact hRun
  · rw [if_neg hSocket] at hRun
    cases hRun

theorem drift_readFsext
    (env : RecvEnvs)
    (fd : Fd)
    (buf : Bool)
    (count : Nat) :
    DriftCmd none (readFsext env fd buf count) := by
  intro s r s' hRun
  have hTail := whenSocket_ok hRun
  exact ((drift_recv _ _ _ _ _).bind fun _ =>
    DriftCmd.of_still (still_readResult _)) s r s' hTail

theorem quiet_writeFsext
    {env : SendEnv}
    {fd : Fd}
    {msg : Option Bytes}
    {s s' : Process}
    {r : Int}
    (hRun : writeFsext env fd msg s = .ok (r, s')) :
    Quiet s s' := by
  rcases bind_eq_ok.mp (whenSocket_ok hRun) with
    ⟨rv, t, hSend, hTail⟩
  exact (quiet_sendto hSend).then_still
    (still_writeResult rv _ _ _ hTail)

end Libsocket
