import Libsocket.Core.Connection
import Libsocket.Core.Create
import Libsocket.Unix.Stream
import Libsocket.Library.Transition

/-
  Sending, mode changes, and the system of all calls.

  Main declarations:
    * `sendto`, `ioctlFionbio`, `fcntlSetfl`
    * `Call`, `exec`
    * `Booted`, `lsckSystem`
-/

namespace Libsocket

open Command

------------------------------------------------------------
-- Sending
------------------------------------------------------------

/- What the interfaces answer to a send. -/
structure SendEnv where
  writable : Bool
  writes : List WriteEnv
  dgram : UnixSendDgramEnv
  csockBindAnswer : Int
  result : Int
  errno : Errno

/- A send whose outcome is the driver's alone. -/
def sendByDriver (env : SendEnv) : Exec Int :=
  if env.result < 0 then
    fail env.errno
  else
    return env.result

/- `__unix_send` and `__unix_sendto` -/
def unixSendto
    (env : SendEnv)
    (p : Ptr)
    (msg : Bytes)
    (dest : Option Bytes)
    (tolen : Nat) : Exec Int := do
  let lsd ← derefSocket p
  if lsd.type = sockStream then
    unixSendStream env.writes p msg
  else if lsd.type = sockDgram then
    unixSendDgram env.dgram p msg dest tolen
  else
    fail .EOPNOTSUPP

/- A `sockaddr_in` for any address and any port. -/
def wildcard : Bytes :=
  sockaddrIn 0 0 ++ List.replicate 8 0

/- `__csock_sendto`, which binds a datagram socket. -/
def csockSendto
    (env : SendEnv)
    (p : Ptr)
    (flags : Nat) : Exec Int := do
  let lsd ← derefSocket p
  let _ ← deref Block.csock? lsd.idata
  if lsd.type = sockDgram ∧ lsd.bound = false then do
    let ret ← csockBind p env.csockBindAnswer
    if ret = 0 then do
      let r ← csockName env.dgram.bind.name p sockaddrInSize
      let name :=
        match r with
        | none => wildcard
        | some (b, _) => overlay wildcard b
      modifySocket p fun lsd =>
        { lsd with
          sockname := overlay lsd.sockname name
          socknamelen := sockaddrInSize
          bound := true }
      if flags ≠ 0 then fail .EINVAL else sendByDriver env
    else do
      forgetName p
      return -1
  else if flags ≠ 0 then
    fail .EINVAL
  else
    sendByDriver env

/- The callback `send` -/
def interfaceSend
    (env : SendEnv)
    (i : Interface)
    (p : Ptr)
    (msg : Bytes)
    (flags : Nat) : Exec Int :=
  match i with
  | .wsock => sendByDriver env
  | .csock =>
      if flags ≠ 0 then fail .EINVAL else sendByDriver env
  | .unix => unixSendto env p msg none 0

/- The callback `sendto` -/
def interfaceSendto
    (env : SendEnv)
    (i : Interface)
    (p : Ptr)
    (msg : Bytes)
    (flags : Nat)
    (dest : Bytes)
    (tolen : Nat) : Exec Int :=
  match i with
  | .wsock => sendByDriver env
  | .csock => csockSendto env p flags
  | .unix => unixSendto env p msg (some dest) tolen

/- The checks of `sendto` that come before the type. -/
def sendRefusal
    (lsd : LsckSocket)
    (msg : Option Bytes)
    (dest : Option Bytes)
    (tolen : Nat) : Option Errno :=
  if msg = none then
    some .EFAULT
  else if dest ≠ none ∧ tolen = 0 then
    some .EINVAL
  else if lsd.outbound = false then
    some .EPIPE
  else
    none

/- The checks of `sendto` for a stream socket. -/
def sendStreamRefusal
    (lsd : LsckSocket)
    (dest : Option Bytes)
    (tolen : Nat) : Option Errno :=
  if lsd.connected = false then
    some .ENOTCONN
  else if dest ≠ none ∧ (tolen ≠ lsd.peernamelen ∨
      (dest.getD []).take tolen ≠ lsd.peername.take tolen) then
    some .EISCONN
  else if lsd.interface.any (·.provides .send) then
    none
  else
    some .EOPNOTSUPP

/- The checks of `sendto` for other sockets. -/
def sendOtherRefusal
    (lsd : LsckSocket)
    (dest : Option Bytes) : Option Errno :=
  if lsd.type = sockDgram ∧ dest = none ∧
      saFamily lsd.peername = 0 then
    some .EDESTADDRREQ
  else if lsd.interface.any (·.provides .sendto) then
    none
  else
    some .EOPNOTSUPP

/- `sendto`, and `send` without a destination. -/
def sendto
    (env : SendEnv)
    (s : Fd)
    (msg : Option Bytes)
    (flags : Nat)
    (dest : Option Bytes)
    (tolen : Nat) : Exec Int := do
  let found ← enter env.writable s
  match found with
  | none => return -1
  | some p => do
      let lsd ← derefSocket p
      let i ← interfaceOf lsd
      refuseOr (sendRefusal lsd msg dest tolen) (
        if lsd.type = sockStream then
          refuseOr (sendStreamRefusal lsd dest tolen)
            (interfaceSend env i p (msg.getD []) flags)
        else
          refuseOr (sendOtherRefusal lsd dest) (
            match dest with
            | some dest =>
                interfaceSendto env i p (msg.getD []) flags
                  dest tolen
            | none =>
                interfaceSendto env i p (msg.getD []) flags
                  lsd.peername lsd.peernamelen))

------------------------------------------------------------
-- Modes
------------------------------------------------------------

structure ModeEnv where
  writable : Bool
  csockAnswer : Int
  wsock : WsockIoctlEnv
deriving DecidableEq, Repr

/- The callback `ioctl` for `FIONBIO` -/
def interfaceFionbio
    (env : ModeEnv)
    (i : Interface)
    (p : Ptr)
    (param : Int) : Exec Int :=
  match i with
  | .wsock => do
      let (rv, _) ← wsockIoctl env.wsock p param
      return rv
  | .csock => csockIoctl env.csockAnswer p param
  | .unix => unixIoctl p param

/- `ioctlsocket` with request `FIONBIO` -/
def ioctlFionbio
    (env : ModeEnv)
    (s : Fd)
    (param : Option Int) : Exec Int := do
  let found ← enter env.writable s
  match found with
  | none => return -1
  | some p => do
      let lsd ← derefSocket p
      let i ← interfaceOf lsd
      match param with
      | none => fail .EFAULT
      | some v => interfaceFionbio env i p v

/-
  `fcntlsocket` with command `F_SETFL`: each interface turns
  the flag into a `FIONBIO` request.
-/
def fcntlSetfl
    (env : ModeEnv)
    (s : Fd)
    (nonblock : Bool) : Exec Int := do
  let found ← enter env.writable s
  match found with
  | none => return -1
  | some p => do
      let lsd ← derefSocket p
      let i ← interfaceOf lsd
      interfaceFionbio env i p (if nonblock then 1 else 0)

------------------------------------------------------------
-- The System Of All Calls
------------------------------------------------------------

/- A call of the library, with what the environment does. -/
inductive Call
  | socketx (env : SocketEnv)
      (domain type protocol : Int)
      (interface : Option Interface)
  | accept (env : AcceptEnv) (s : Fd) (addr addrlen : Bool)
  | socketpair (env : SocketpairEnv)
      (domain type protocol : Int)
  | close (env : CloseEnv) (s : Fd)
  | bind (env : BindEnv) (s : Fd)
      (addr : Option Bytes) (addrlen : Nat)
  | listen (env : ListenEnv) (s : Fd) (backlog : Int)
  | connect (env : ConnectEnv) (s : Fd)
      (serv : Option Bytes) (addrlen : Nat)
  | sendto (env : SendEnv) (s : Fd) (msg : Option Bytes)
      (flags : Nat) (dest : Option Bytes) (tolen : Nat)
  | shutdown (env : ShutdownEnv) (s : Fd) (how : Int)
  | ioctl (env : ModeEnv) (s : Fd) (param : Option Int)
  | fcntl (env : ModeEnv) (s : Fd) (nonblock : Bool)
  | arrive (name message : Bytes)

/-
  A call's effect. The last label is not a call: a message
  from another process reaches a mailslot.
-/
def exec : Call → Exec Int
| .socketx env domain type protocol interface =>
    socketx env domain type protocol interface
| .accept env s addr addrlen => accept env s addr addrlen
| .socketpair env domain type protocol =>
    socketpair env domain type protocol
| .close env s => closeFd env s
| .bind env s addr addrlen => bind env s addr addrlen
| .listen env s backlog => listen env s backlog
| .connect env s serv addrlen =>
    connect env s serv addrlen
| .sendto env s msg flags dest tolen =>
    sendto env s msg flags dest tolen
| .shutdown env s how => shutdown env s how
| .ioctl env s param => ioctlFionbio env s param
| .fcntl env s nonblock => fcntlSetfl env s nonblock
| .arrive name message => do
    modify fun s =>
      s.setMail name (s.mail name ++ [message])
    return 0

/-
  The state after a successful `__lsck_init`: no socket
  exists yet. Files of other kinds may be open.
-/
structure Booted (s : Process) : Prop where
  inited : s.inited = true
  heap : ∀ p, s.heap p = none
  table : ∀ i, i < lsckNumSocket → s.table i = none
  sockets : ∀ fd,
    (s.fds fd).function ≠ some .lsckSocketFsext
  fds : FdsOk s.fds

/- All runs of the library after it is initialised. -/
def lsckSystem : TransitionSystem Process Call :=
  TransitionSystem.ofExec Booted exec

end Libsocket
