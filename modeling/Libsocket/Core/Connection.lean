import Libsocket.Unix.Connect

/-
  The calls that move a socket between its phases.

  Main declarations:
    * `listen`
    * `connect`
    * `shutdown`
-/

namespace Libsocket

open Command

------------------------------------------------------------
-- listen
------------------------------------------------------------

structure ListenEnv where
  writable : Bool
  csockAnswer : Int
  wsockCode : UInt16
deriving DecidableEq, Repr

/- The callback `listen` -/
def interfaceListen
    (env : ListenEnv)
    (i : Interface)
    (p : Ptr) : Exec Int :=
  match i with
  | .wsock => wsockListen p env.wsockCode
  | .csock => csockListen p env.csockAnswer
  | .unix => unixListen

/- The callback `listen` succeeds. -/
def ListenEnv.succeeds
    (env : ListenEnv)
    (i : Interface) : Bool :=
  match i with
  | .wsock => !vxdFails env.wsockCode
  | .csock => env.csockAnswer == 0
  | .unix => true

/- The first check of `listen` that fails. -/
def listenRefusal (lsd : LsckSocket) : Option Errno :=
  if lsd.type ≠ sockStream then
    some .EOPNOTSUPP
  else if lsd.bound = false then
    some .EINVAL
  else if lsd.interface.any (·.provides .listen) then
    none
  else
    some .EOPNOTSUPP

/- `listen` -/
def listen
    (env : ListenEnv)
    (s : Fd)
    (backlog : Int) : Exec Int := do
  let found ← enter env.writable s
  match found with
  | none => return -1
  | some p => do
      let lsd ← derefSocket p
      let i ← interfaceOf lsd
      refuseOr (listenRefusal lsd) (do
        let ret ← interfaceListen env i p
        when (ret ≠ -1) (modifySocket p fun lsd =>
          { lsd with listening := true, backlog := backlog })
        return ret)

------------------------------------------------------------
-- connect
------------------------------------------------------------

structure ConnectEnv where
  writable : Bool
  unixEnv : UnixConnectEnv
  csockAnswer : Int
  wsock : WsockConnectEnv
  name : NameEnv

/- The callback `connect` -/
def interfaceConnect
    (env : ConnectEnv)
    (i : Interface)
    (p : Ptr)
    (serv : Bytes) : Exec Int :=
  match i with
  | .wsock => wsockConnect env.wsock p
  | .csock => csockConnect p env.csockAnswer
  | .unix => unixConnect env.unixEnv p serv

/- The address length passes the interface's check. -/
def connectLengthOk
    (lsd : LsckSocket)
    (addrlen : Nat) : Bool :=
  lsd.interface.any fun i =>
    i.provides .addrlenCheck && i.addrlenCheck lsd addrlen

/-
  The checks of `connect` that do not depend on the kind of
  socket.
-/
def connectRefusal
    (lsd : LsckSocket)
    (serv : Option Bytes)
    (addrlen : Nat) : Option Errno :=
  if lsd.blocking = false ∧ lsd.connecting = true then
    some .EALREADY
  else if lsd.connected = true ∧ lsd.type = sockStream then
    some .EISCONN
  else if lsd.listening then
    some .EOPNOTSUPP
  else if (lsd.type = sockStream ∨
      lsd.type = sockDgram ∧ serv.isSome) ∧
      connectLengthOk lsd addrlen = false then
    some .EINVAL
  else
    none

/- The checks of `connect` on the address of a stream. -/
def connectAddressRefusal
    (lsd : LsckSocket)
    (serv : Option Bytes) : Option Errno :=
  match serv with
  | none => some .EFAULT
  | some a =>
      if saFamily a ≠ lsd.family then
        some .EAFNOSUPPORT
      else if lsd.interface.any (·.provides .connect) then
        none
      else
        some .EOPNOTSUPP

/- Store or clear the peer of a datagram socket. -/
def connectDgram
    (lsd : LsckSocket)
    (p : Ptr)
    (serv : Option Bytes)
    (addrlen : Nat) : Exec Int :=
  match serv with
  | none => do
      modifySocket p fun lsd =>
        { lsd with
          peername := List.replicate sockaddrMaxSize 0
          peernamelen := 0 }
      return 0
  | some a =>
      if saFamily a ≠ lsd.family then
        fail .EAFNOSUPPORT
      else do
        setPeername p (a.take addrlen) addrlen
        return 0

/-
  The name of a socket that has just connected. A failure to
  get it is not an error of the call.
-/
def connectedName
    (env : ConnectEnv)
    (i : Interface)
    (p : Ptr) : Exec Unit := do
  let r ← interfaceGetsockname i env.name p sockaddrMaxSize
  match r with
  | none =>
      modifySocket p fun lsd =>
        { lsd with
          sockname := bzeroName lsd.sockname
          socknamelen := sockaddrMaxSize }
  | some (b, n) =>
      if b.length ≤ sockaddrMaxSize then
        modifySocket p fun lsd =>
          { lsd with
            sockname := overlay lsd.sockname b
            socknamelen := n }
      else
        fault

/- A connect that has succeeded. -/
def connectDone
    (env : ConnectEnv)
    (i : Interface)
    (p : Ptr)
    (serv : Bytes)
    (addrlen : Nat) : Exec Int := do
  setPeername p (serv.take addrlen) addrlen
  when (i.provides .getsockname) (connectedName env i p)
  modifySocket p fun lsd =>
    { lsd with connecting := false, connected := true }
  return 0

/- A non-blocking connect that is under way. -/
def connectPending
    (p : Ptr)
    (serv : Bytes)
    (addrlen : Nat) : Exec Int := do
  setPeername p (serv.take addrlen) addrlen
  modifySocket p fun lsd =>
    { lsd with connecting := true, connected := false }
  fail .EINPROGRESS

/-
  A connect that has failed. The details are cleared, but
  `connecting` is not one of them.
-/
def connectFailed (p : Ptr) : Exec Int := do
  modifySocket p fun lsd =>
    { lsd with
      sockname := bzeroName lsd.sockname
      peername := bzeroName lsd.peername
      socknamelen := 0
      peernamelen := 0
      connected := false }
  return -1

/- Connect a stream socket through its interface. -/
def connectStream
    (env : ConnectEnv)
    (i : Interface)
    (p : Ptr)
    (serv : Bytes)
    (addrlen : Nat) : Exec Int := do
  let ret ← interfaceConnect env i p serv
  let s ← get
  let lsd ← derefSocket p
  if ret = 0 then
    connectDone env i p serv addrlen
  else if lsd.blocking = false ∧ s.errno = .EWOULDBLOCK then
    connectPending p serv addrlen
  else
    connectFailed p

/- `connect` -/
def connect
    (env : ConnectEnv)
    (s : Fd)
    (serv : Option Bytes)
    (addrlen : Nat) : Exec Int := do
  let found ← enter env.writable s
  match found with
  | none => return -1
  | some p => do
      let lsd ← derefSocket p
      let i ← interfaceOf lsd
      refuseOr (connectRefusal lsd serv addrlen) (
        if lsd.type = sockDgram then
          connectDgram lsd p serv addrlen
        else
          refuseOr (connectAddressRefusal lsd serv)
            (connectStream env i p (serv.getD []) addrlen))

------------------------------------------------------------
-- shutdown
------------------------------------------------------------

structure ShutdownEnv where
  writable : Bool
  wsockCode : UInt16
deriving DecidableEq, Repr

/- The callback `shutdown` -/
def interfaceShutdown
    (env : ShutdownEnv)
    (i : Interface)
    (p : Ptr) : Exec Int :=
  match i with
  | .wsock => wsockShutdown p env.wsockCode
  | .csock => csockShutdown
  | .unix => unixShutdown

/- The first check of `shutdown` that fails. -/
def shutdownRefusal
    (lsd : LsckSocket)
    (how : Int) : Option Errno :=
  if lsd.connected = false then
    some .ENOTCONN
  else if how ≠ shutRd ∧ how ≠ shutWr ∧ how ≠ shutRdwr then
    some .EINVAL
  else if lsd.interface.any (·.provides .shutdown) then
    none
  else
    some .EOPNOTSUPP

/- The directions that are left after a shutdown. -/
def LsckSocket.shut
    (how : Int)
    (lsd : LsckSocket) : LsckSocket :=
  if how = shutRd then
    { lsd with inbound := false }
  else if how = shutWr then
    { lsd with outbound := false }
  else
    { lsd with inbound := false, outbound := false }

/- `shutdown` -/
def shutdown
    (env : ShutdownEnv)
    (s : Fd)
    (how : Int) : Exec Int := do
  let found ← enter env.writable s
  match found with
  | none => return -1
  | some p => do
      let lsd ← derefSocket p
      let i ← interfaceOf lsd
      refuseOr (shutdownRefusal lsd how) (do
        let ret ← interfaceShutdown env i p
        when (ret = 0) (modifySocket p (LsckSocket.shut how))
        return ret)

end Libsocket
