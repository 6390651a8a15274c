import Libsocket.Core.Bind

/-
  The calls that create sockets.

  Main declarations:
    * `socketx`
    * `accept`
    * `socketpair`
-/

namespace Libsocket

open Command

------------------------------------------------------------
-- Defaults
------------------------------------------------------------

/- `__lsck_socket_default` -/
def lsckSocketDefault : List (Int × Int × Int) :=
  [(afInet, sockStream, ipprotoTcp),
    (afInet, sockDgram, ipprotoUdp)]

/- The protocol a request for protocol 0 stands for. -/
def defaultProtocol (domain type protocol : Int) : Int :=
  if protocol = 0 ∧ type ≠ sockRaw then
    match lsckSocketDefault.find? fun d =>
        d.1 == domain && d.2.1 == type with
    | some d => d.2.2
    | none => protocol
  else
    protocol

------------------------------------------------------------
-- __socketx
------------------------------------------------------------

structure SocketEnv where
  number : Option Fd
  memory : Option Ptr
  unixMemory : Option Ptr
  csock : CsockSocketEnv
  wsock : WsockSocketEnv

/- The callback `socket` -/
def interfaceSocket
    (env : SocketEnv)
    (i : Interface)
    (p : Ptr) : Exec Int :=
  match i with
  | .wsock => wsockSocket env.wsock p
  | .csock => csockSocket env.csock p
  | .unix => unixSocket env.unixMemory p

/- The interface that the caller names or that matches. -/
def chooseInterface
    (s : Process)
    (domain type protocol : Int)
    (interface : Option Interface) : Option Interface :=
  match interface with
  | some i => some i
  | none =>
      s.interfaces.find? fun i =>
        i.provides .protoCheck &&
          i.protoCheck domain type protocol

/- Give back a descriptor that has no socket. -/
def abandonFd (fd : Fd) (e : Errno) : Exec Int := do
  setFunction fd none
  dosClose fd
  fail e

/- `__SOCKET_CLEANUP` -/
def socketCleanup
    (fd : Fd)
    (slot : Nat)
    (p : Ptr) : Exec Unit := do
  releaseFd fd
  free (some p)
  modify fun s => s.setSlot slot none

/- A new descriptor before an interface is chosen. -/
def newSocket
    (s : Process)
    (fd : Fd)
    (domain type protocol : Int) : LsckSocket :=
  { LsckSocket.cleared with
    family := domain
    type := type
    protocol := protocol
    blocking := true
    fd := fd
    urgentPid := s.pid.toNat
    inbound := true
    outbound := true }

/- Let the chosen interface create the socket. -/
def socketOn
    (env : SocketEnv)
    (chosen : Option Interface)
    (fd : Fd)
    (slot : Nat)
    (p : Ptr) : Exec Int :=
  match chosen with
  | none => do
      socketCleanup fd slot p
      fail .EPROTONOSUPPORT
  | some i => do
      let ret ← interfaceSocket env i p
      if ret = -1 then do
        let s ← get
        socketCleanup fd slot p
        fail s.errno
      else
        return fd

/- `__socketx` -/
def socketx
    (env : SocketEnv)
    (domain type protocol : Int)
    (interface : Option Interface) : Exec Int := do
  let s ← get
  if s.inited = false then
    fail .ENODEV
  else do
    let protocol := defaultProtocol domain type protocol
    let fd ← allocFd env.number .lsckSocketFsext
    if fd < 0 then
      fail .EMFILE
    else
      match freeSlot s.table with
      | none => abandonFd fd .EMFILE
      | some slot => do
          let lsd ← malloc env.memory (.socket .cleared)
          modify fun s => s.setSlot slot lsd
          match lsd with
          | none => abandonFd fd .ENOBUFS
          | some p => do
              setData fd (some (.lsd p))
              let chosen :=
                (chooseInterface s domain type protocol
                  interface).filter (·.provides .socket)
              modifySocket p fun _ =>
                { newSocket s fd domain type protocol with
                  interface := chosen }
              socketOn env chosen fd slot p

------------------------------------------------------------
-- accept
------------------------------------------------------------

structure AcceptEnv where
  writable : Bool
  number : Option Fd
  memory : Option Ptr
  unixEnv : UnixAcceptEnv
  csock : CsockAcceptEnv
  wsock : WsockAcceptEnv

/- The callback `accept` -/
def interfaceAccept
    (env : AcceptEnv)
    (i : Interface)
    (p np : Ptr) : Exec Int :=
  match i with
  | .wsock => wsockAccept env.wsock p np
  | .csock => csockAccept env.csock p np
  | .unix => unixAccept env.unixEnv p np

/- The first check of `accept` that fails. -/
def acceptRefusal
    (lsd : LsckSocket)
    (addr addrlen : Bool) : Option Errno :=
  if lsd.type ≠ sockStream ∨
      lsd.interface.any (·.provides .accept) = false then
    some .EOPNOTSUPP
  else if lsd.accepted = true ∨ lsd.bound = false ∨
      lsd.listening = false then
    some .EINVAL
  else if addr = false ∨ addrlen = false then
    some .EFAULT
  else
    none

/- Undo a failed `accept`. -/
def acceptCleanup
    (fd : Fd)
    (slot : Nat)
    (np : Ptr) : Exec Unit := do
  setData fd none
  setFunction fd none
  dosClose fd
  let nsd ← derefSocket np
  free nsd.idata
  modifySocket np fun nsd => { nsd with idata := none }
  free (some np)
  modify fun s => s.setSlot slot none

/- The new descriptor as a copy of the listener. -/
def acceptedCopy (lsd : LsckSocket) (fd : Fd) : LsckSocket :=
  { lsd with
    fd := fd
    listening := false
    peernamelen := sockaddrMaxSize }

/- Ask the interface to accept, and finish or undo. -/
def acceptOn
    (env : AcceptEnv)
    (i : Interface)
    (p np : Ptr)
    (fd : Fd)
    (slot : Nat) : Exec Int := do
  let ret ← interfaceAccept env i p np
  if ret = 0 then do
    modifySocket np fun nsd =>
      { nsd with accepted := true, connected := true }
    let nsd ← derefSocket np
    return nsd.fd
  else do
    acceptCleanup fd slot np
    return -1

/-
  `accept`; `addr` and `addrlen` say whether the caller has
  given these pointers. The peer's name that is copied to
  the caller is the one stored in the new descriptor.
-/
def accept
    (env : AcceptEnv)
    (s : Fd)
    (addr addrlen : Bool) : Exec Int := do
  let found ← enter env.writable s
  match found with
  | none => return -1
  | some p => do
      let lsd ← derefSocket p
      let i ← interfaceOf lsd
      refuseOr (acceptRefusal lsd addr addrlen) (do
        let fd ← allocFd env.number .lsckSocketFsext
        if fd < 0 then
          fail .ENFILE
        else do
          let s ← get
          match freeSlot s.table with
          | none => abandonFd fd .ENFILE
          | some slot => do
              let nsd ← malloc env.memory (.socket .cleared)
              modify fun s => s.setSlot slot nsd
              match nsd with
              | none => abandonFd fd .ENOBUFS
              | some np => do
                  setData fd (some (.lsd np))
                  modifySocket np fun _ =>
                    acceptedCopy lsd fd
                  acceptOn env i p np fd slot)

------------------------------------------------------------
-- socketpair
------------------------------------------------------------

structure SocketpairEnv where
  socket₀ : SocketEnv
  socket₁ : SocketEnv
  unixEnv : UnixSocketpairEnv
  close₀ : CloseEnv
  close₁ : CloseEnv
  sockname₀ : NameEnv
  peername₀ : NameEnv
  sockname₁ : NameEnv
  peername₁ : NameEnv

/- The callback `socketpair` -/
def interfaceSocketpair
    (env : UnixSocketpairEnv)
    (i : Interface)
    (p₀ p₁ : Ptr) : Exec Int :=
  match i with
  | .wsock => wsockSocketpair
  | .csock => csockSocketpair
  | .unix => unixSocketpair env p₀ p₁

/- The first interface that supports pairs of this kind. -/
def pairInterface
    (s : Process)
    (domain type protocol : Int) : Option Interface :=
  s.interfaces.find? fun i =>
    i.provides .protoCheck &&
      i.protoCheck domain type protocol &&
      i.provides .socketpair

/- A descriptor's local name, at its full length. -/
def storeSockname (env : NameEnv) (p : Ptr) : Exec Unit := do
  let lsd ← derefSocket p
  let r ← getsockname env lsd.fd sockaddrMaxSize
  match r with
  | none => return ()
  | some (b, n) =>
      if b.length ≤ sockaddrMaxSize then
        modifySocket p fun lsd =>
          { lsd with
            sockname := overlay lsd.sockname b
            socknamelen := n }
      else
        fault

/- A descriptor's peer name, at its full length. -/
def storePeername (env : NameEnv) (p : Ptr) : Exec Unit := do
  let lsd ← derefSocket p
  let r ← getpeername env lsd.fd sockaddrMaxSize
  match r with
  | none => return ()
  | some (b, n) => setPeername p b n

/- Set the lengths of both names, then ask for the names. -/
def storeNames
    (sockname peername : NameEnv)
    (p : Ptr) : Exec Unit := do
  modifySocket p fun lsd =>
    { lsd with
      socknamelen := sockaddrMaxSize
      peernamelen := sockaddrMaxSize }
  storeSockname sockname p
  storePeername peername p

/- Close the ends that were created. -/
def closeEnds
    (env : SocketpairEnv)
    (fd₀ fd₁ : Fd) : Exec Unit := do
  when (0 ≤ fd₀) (do let _ ← closeFd env.close₀ fd₀)
  when (0 ≤ fd₁) (do let _ ← closeFd env.close₁ fd₁)

/- Connect two new sockets, or close both. -/
def connectEnds
    (env : SocketpairEnv)
    (i : Interface)
    (fd₀ fd₁ : Fd)
    (p₀ p₁ : Ptr) : Exec Int := do
  let ret ← interfaceSocketpair env.unixEnv i p₀ p₁
  if ret = -1 then do
    let s ← get
    closeEnds env fd₀ fd₁
    fail s.errno
  else do
    storeNames env.sockname₀ env.peername₀ p₀
    storeNames env.sockname₁ env.peername₁ p₁
    return ret

/- `socketpair`; the two descriptors are not returned. -/
def socketpair
    (env : SocketpairEnv)
    (domain type protocol : Int) : Exec Int := do
  let s ← get
  match pairInterface s domain type protocol with
  | none => fail .EOPNOTSUPP
  | some i => do
      let fd₀ ←
        socketx env.socket₀ domain type protocol (some i)
      let fd₁ ←
        socketx env.socket₁ domain type protocol (some i)
      if fd₀ = -1 ∨ fd₁ = -1 then do
        closeEnds env fd₀ fd₁
        return -1
      else do
        let lsd₀ ← fdToLsd fd₀
        let lsd₁ ← fdToLsd fd₁
        match lsd₀, lsd₁ with
        | some p₀, some p₁ =>
            connectEnds env i fd₀ fd₁ p₀ p₁
        | _, _ => do
            closeEnds env fd₀ fd₁
            fail .ENOMEM

end Libsocket
