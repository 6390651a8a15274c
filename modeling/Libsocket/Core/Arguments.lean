import Libsocket.Core.DirectClose

/-
  Pointer arguments: which of them the calls that move data,
  options and names follow, in the core and in the three
  interfaces. The definitions here keep of each function all
  that it does with the pointers that its caller gives it;
  what the drivers and the mailslots answer is given.

  Main declarations:
    * `Arg`, `Checked`, `follow`
    * `ArgCall`, `ArgCall.run`
    * `ArgCall.Trips`
    * `follows_no_null_iff`
-/

namespace Libsocket

------------------------------------------------------------
-- Pointers
------------------------------------------------------------

/- The pointer arguments of the calls. -/
inductive Arg
  | buf | source | fromlen
  | msg | dest
  | optval | optlen
  | name | namelen
deriving DecidableEq, Repr

/-
  A call that ends, or the argument through which it follows
  a NULL pointer.
-/
abbrev Checked (α : Type) : Type := Except Arg α

/- Follow a pointer argument. -/
def follow
    {α : Type}
    (arg : Arg)
    (p : Option α) : Checked α :=
  match p with
  | some a => .ok a
  | none => .error arg

/- Some memory that a pointer is to. -/
abbrev Memory : Type := Unit

/-
  The outcome of everything else in one call: what the
  callback returns in the end, and whether a socket that has
  to be bound on the way can be.
-/
structure ArgEnv where
  answer : Int
  binds : Bool
deriving DecidableEq, Repr

------------------------------------------------------------
-- Options
------------------------------------------------------------

def solSocket : Int := 0xffff

def soAcceptconn : Int := 0x0002
def soReuseaddr : Int := 0x0004
def soSndbuf : Int := 0x1001
def soRcvbuf : Int := 0x1002
def soSndlowat : Int := 0x1003
def soRcvlowat : Int := 0x1004
def soSndtimeo : Int := 0x1005
def soRcvtimeo : Int := 0x1006
def soType : Int := 0x1008

/- `sizeof (WSOCK_GETSOCKOPT_PARAMS)` -/
def sockoptParamsSize : Nat := 24

/- `sizeof (struct timeval)` -/
def timevalSize : Nat := 8

------------------------------------------------------------
-- WSOCK.VXD
------------------------------------------------------------

/- `__wsock_recv` -/
def wsockRecvArgs
    (env : ArgEnv)
    (buf : Option Memory) : Checked Int := do
  if env.answer < 0 then
    return -1
  else
    let _ ← follow .buf buf
    return env.answer

/- `__wsock_recvfrom` -/
def wsockRecvfromArgs
    (env : ArgEnv)
    (buf source : Option Memory)
    (fromlen : Option Nat) : Checked Int := do
  let _ ← follow .fromlen fromlen
  if env.answer < 0 then
    return -1
  else
    let _ ← follow .buf buf
    if source.isSome ∧ fromlen.isSome then
      let _ ← follow .fromlen fromlen
      let _ ← follow .source source
      return env.answer
    else
      return env.answer

/- `__wsock_send` -/
def wsockSendArgs
    (env : ArgEnv)
    (msg : Option Memory) : Checked Int := do
  let _ ← follow .msg msg
  return env.answer

/- `__wsock_sendto`, which copies `tolen` bytes of `to`. -/
def wsockSendtoArgs
    (env : ArgEnv)
    (msg dest : Option Memory)
    (tolen : Nat) : Checked Int := do
  if 0 < tolen then
    let _ ← follow .dest dest
    let _ ← follow .msg msg
    return env.answer
  else
    let _ ← follow .msg msg
    return env.answer

/- `__wsock_getsockname` and `__wsock_getpeername` -/
def wsockNameArgs
    (env : ArgEnv)
    (name : Option Memory)
    (namelen : Option Nat) : Checked Int := do
  let n ← follow .namelen namelen
  if n + 12 > socketPSize then
    return -1
  else
    let _ ← follow .name name
    if env.answer < 0 then
      return -1
    else
      let _ ← follow .namelen namelen
      let _ ← follow .name name
      return 0

/- `__wsock_getsockopt`, which handles every option. -/
def wsockGetsockoptArgs
    (env : ArgEnv)
    (optname : Int)
    (optval : Option Memory)
    (optlen : Option Nat) : Checked Int := do
  if optname = soRcvlowat ∨ optname = soRcvtimeo ∨
      optname = soSndlowat ∨ optname = soSndtimeo then
    return -1
  else
    let n ← follow .optlen optlen
    if n + sockoptParamsSize > socketPSize then
      return -1
    else
      let _ ← follow .optval optval
      if env.answer < 0 then
        return -1
      else
        let _ ← follow .optlen optlen
        let _ ← follow .optval optval
        return 0

/- `__wsock_setsockopt` -/
def wsockSetsockoptArgs
    (env : ArgEnv)
    (optname : Int)
    (optval : Option Memory)
    (optlen : Nat) : Checked Int := do
  if optname = soAcceptconn ∨ optname = soRcvlowat ∨
      optname = soRcvtimeo ∨ optname = soSndlowat ∨
      optname = soSndtimeo ∨ optname = soType then
    return -1
  else if optlen + sockoptParamsSize > socketPSize then
    return -1
  else
    let _ ← follow .optval optval
    return if env.answer < 0 then -1 else 0

------------------------------------------------------------
-- SOCK.VXD
------------------------------------------------------------

/- `__csock_recv`; the driver stores through the pointer. -/
def csockRecvArgs
    (env : ArgEnv)
    (buf : Option Memory)
    (flags : Nat) : Checked Int := do
  if flags ≠ 0 then
    return -1
  else
    let _ ← follow .buf buf
    return env.answer

/- `__csock_recvfrom` from the check of the flags on. -/
def csockRecvfromRest
    (env : ArgEnv)
    (buf source : Option Memory)
    (flags : Nat)
    (fromlen : Option Nat) : Checked Int := do
  if flags ≠ 0 ∧ flags ≠ msgPeek then
    return -1
  else
    let _ ← follow .buf buf
    if source.isSome then
      let _ ← follow .fromlen fromlen
      let _ ← follow .source source
      return env.answer
    else
      return env.answer

/- `__csock_recvfrom` -/
def csockRecvfromArgs
    (env : ArgEnv)
    (buf source : Option Memory)
    (flags : Nat)
    (fromlen : Option Nat) : Checked Int := do
  if source.isSome then
    let n ← follow .fromlen fromlen
    if n < sockaddrInSize then
      return -1
    else
      csockRecvfromRest env buf source flags fromlen
  else
    csockRecvfromRest env buf source flags fromlen

/- `__csock_send` -/
def csockSendArgs
    (env : ArgEnv)
    (msg : Option Memory)
    (flags : Nat) : Checked Int := do
  if flags ≠ 0 then
    return -1
  else
    let _ ← follow .msg msg
    return env.answer

/- `__csock_sendto`, which looks at the address first. -/
def csockSendtoArgs
    (env : ArgEnv)
    (lsd : LsckSocket)
    (msg dest : Option Memory)
    (flags : Nat) : Checked Int := do
  let _ ← follow .dest dest
  if lsd.type = sockDgram ∧ lsd.bound = false ∧
      env.binds = false then
    return -1
  else if flags ≠ 0 then
    return -1
  else
    let _ ← follow .msg msg
    return env.answer

/- `__csock_getsockname` and `__csock_getpeername` -/
def csockNameArgs
    (env : ArgEnv)
    (name : Option Memory)
    (namelen : Option Nat) : Checked Int := do
  let n ← follow .namelen namelen
  if n < sockaddrInSize then
    return -1
  else if env.answer < 0 then
    return -1
  else
    let _ ← follow .namelen namelen
    let _ ← follow .name name
    return 0

/- The size that `__csock_getsockopt` asks for, if any. -/
def csockOptionSize (optname : Int) : Option Nat :=
  if optname = soReuseaddr ∨ optname = soRcvbuf ∨
      optname = soRcvlowat ∨ optname = soSndbuf ∨
      optname = soSndlowat then
    some 4
  else if optname = soRcvtimeo ∨ optname = soSndtimeo then
    some timevalSize
  else
    none

/-
  `__csock_getsockopt`; there is no answer when the option
  is left to the emulation. A `struct timeval` is stored
  without its length.
-/
def csockGetsockoptArgs
    (level optname : Int)
    (optval : Option Memory)
    (optlen : Option Nat) : Checked (Option Int) := do
  if level ≠ solSocket then
    return some (-1)
  else
    match csockOptionSize optname with
    | none => return none
    | some size =>
        let n ← follow .optlen optlen
        if n < size then
          return some (-1)
        else
          let _ ← follow .optval optval
          if size = timevalSize then
            return some 0
          else
            let _ ← follow .optlen optlen
            return some 0

------------------------------------------------------------
-- Mailslots
------------------------------------------------------------

/- `__unix_recv_stream` -/
def unixRecvStreamArgs
    (env : ArgEnv)
    (buf : Option Memory) : Checked Int := do
  if env.answer < 0 then
    return -1
  else
    let _ ← follow .buf buf
    return env.answer

/- `__unix_recv_dgram` -/
def unixRecvDgramArgs
    (env : ArgEnv)
    (buf source : Option Memory)
    (fromlen : Option Nat) : Checked Int := do
  if env.answer < 0 then
    return -1
  else if source.isSome ∧ fromlen.isSome then
    let _ ← follow .fromlen fromlen
    let _ ← follow .source source
    let _ ← follow .buf buf
    return env.answer
  else
    let _ ← follow .buf buf
    return env.answer

/- `__unix_getsockname` and `__unix_getpeername` -/
def unixNameArgs
    (name : Option Memory)
    (namelen : Option Nat) : Checked Int := do
  let _ ← follow .namelen namelen
  let _ ← follow .name name
  return 0

/- `__unix_recv` -/
def unixRecvArgs
    (env : ArgEnv)
    (lsd : LsckSocket)
    (buf : Option Memory) : Checked Int :=
  if lsd.type = sockStream then
    unixRecvStreamArgs env buf
  else if lsd.type = sockDgram then
    unixRecvDgramArgs env buf none none
  else
    return -1

/- `__unix_recvfrom` -/
def unixRecvfromArgs
    (env : ArgEnv)
    (lsd : LsckSocket)
    (buf source : Option Memory)
    (fromlen : Option Nat) : Checked Int := do
  if lsd.type = sockStream then
    let ret ← unixRecvStreamArgs env buf
    if ret ≠ -1 ∧ source.isSome ∧ fromlen.isSome then
      let _ ← unixNameArgs source fromlen
      return ret
    else
      return ret
  else if lsd.type = sockDgram then
    unixRecvDgramArgs env buf source fromlen
  else
    return -1

/- `__unix_send_dgram` -/
def unixSendDgramArgs
    (env : ArgEnv)
    (lsd : LsckSocket)
    (msg dest : Option Memory)
    (tolen : Nat) : Checked Int := do
  if tolen < sockaddrMaxSize ∧ dest.isSome then
    return -1
  else if lsd.bound = false ∧ env.binds = false then
    return -1
  else
    let _ ← follow .dest dest
    if env.answer < 0 then
      return -1
    else
      let _ ← follow .msg msg
      return env.answer

/- `__unix_send` and `__unix_sendto` -/
def unixSendtoArgs
    (env : ArgEnv)
    (lsd : LsckSocket)
    (msg dest : Option Memory)
    (tolen : Nat) : Checked Int := do
  if lsd.type = sockStream then
    let _ ← follow .msg msg
    return env.answer
  else if lsd.type = sockDgram then
    unixSendDgramArgs env lsd msg dest tolen
  else
    return -1

------------------------------------------------------------
-- The Core
------------------------------------------------------------

/- The callback `recv` -/
def interfaceRecvArgs
    (env : ArgEnv)
    (lsd : LsckSocket)
    (i : Interface)
    (buf : Option Memory)
    (flags : Nat) : Checked Int :=
  match i with
  | .wsock => wsockRecvArgs env buf
  | .csock => csockRecvArgs env buf flags
  | .unix => unixRecvArgs env lsd buf

/- The callback `recvfrom` -/
def interfaceRecvfromArgs
    (env : ArgEnv)
    (lsd : LsckSocket)
    (i : Interface)
    (buf source : Option Memory)
    (flags : Nat)
    (fromlen : Option Nat) : Checked Int :=
  match i with
  | .wsock => wsockRecvfromArgs env buf source fromlen
  | .csock => csockRecvfromArgs env buf source flags fromlen
  | .unix => unixRecvfromArgs env lsd buf source fromlen

/- The callback `send` -/
def interfaceSendArgs
    (env : ArgEnv)
    (lsd : LsckSocket)
    (i : Interface)
    (msg : Option Memory)
    (flags : Nat) : Checked Int :=
  match i with
  | .wsock => wsockSendArgs env msg
  | .csock => csockSendArgs env msg flags
  | .unix => unixSendtoArgs env lsd msg none 0

/- The callback `sendto` -/
def interfaceSendtoArgs
    (env : ArgEnv)
    (lsd : LsckSocket)
    (i : Interface)
    (msg dest : Option Memory)
    (flags : Nat)
    (tolen : Nat) : Checked Int :=
  match i with
  | .wsock => wsockSendtoArgs env msg dest tolen
  | .csock => csockSendtoArgs env lsd msg dest flags
  | .unix => unixSendtoArgs env lsd msg dest tolen

/- The callbacks `getsockname` and `getpeername` -/
def interfaceNameArgs
    (env : ArgEnv)
    (i : Interface)
    (name : Option Memory)
    (namelen : Option Nat) : Checked Int :=
  match i with
  | .wsock => wsockNameArgs env name namelen
  | .csock => csockNameArgs env name namelen
  | .unix => unixNameArgs name namelen

/- The callback `getsockopt`; none when it handles nothing. -/
def interfaceGetsockoptArgs
    (env : ArgEnv)
    (i : Interface)
    (level optname : Int)
    (optval : Option Memory)
    (optlen : Option Nat) : Checked (Option Int) :=
  match i with
  | .wsock => do
      let rv ← wsockGetsockoptArgs env optname optval optlen
      return some rv
  | .csock => csockGetsockoptArgs level optname optval optlen
  | .unix => return none

/- The callback `setsockopt`, which only one of them has. -/
def interfaceSetsockoptArgs
    (env : ArgEnv)
    (i : Interface)
    (optname : Int)
    (optval : Option Memory)
    (optlen : Nat) : Checked (Option Int) :=
  match i with
  | .wsock => do
      let rv ← wsockSetsockoptArgs env optname optval optlen
      return some rv
  | _ => return none

/- `getsockopt_emulated` -/
def getsockoptEmulatedArgs
    (level optname : Int)
    (optval : Option Memory)
    (optlen : Option Nat) : Checked Int := do
  if level ≠ solSocket then
    return -1
  else if optname = soAcceptconn ∨ optname = soType then
    let n ← follow .optlen optlen
    if n < 4 then
      return -1
    else
      let _ ← follow .optval optval
      let _ ← follow .optlen optlen
      return 0
  else
    return -1

/- `setsockopt_emulated` -/
def setsockoptEmulatedArgs : Checked Int :=
  return -1

/- `recv` on a socket. -/
def recvArgs
    (env : ArgEnv)
    (lsd : LsckSocket)
    (i : Interface)
    (buf : Option Memory)
    (flags : Nat) : Checked Int :=
  if lsd.type = sockStream ∧ lsd.connected = false then
    return -1
  else if buf.isNone then
    return -1
  else if lsd.inbound = false then
    return 0
  else
    interfaceRecvArgs env lsd i buf flags

/- `recvfrom` on a socket. -/
def recvfromArgs
    (env : ArgEnv)
    (lsd : LsckSocket)
    (i : Interface)
    (buf source : Option Memory)
    (flags : Nat)
    (fromlen : Option Nat) : Checked Int :=
  if buf.isNone then
    return -1
  else if source.isSome ∧ fromlen.isNone then
    return -1
  else if lsd.inbound = false then
    return 0
  else
    interfaceRecvfromArgs env lsd i buf source flags fromlen

/-
  `sendto` on a socket. A stream or a datagram without a
  destination is sent to the peer that the descriptor names;
  `differs` says whether a destination of a stream is
  another one.
-/
def sendtoArgs
    (env : ArgEnv)
    (lsd : LsckSocket)
    (i : Interface)
    (msg dest : Option Memory)
    (flags : Nat)
    (tolen : Nat)
    (differs : Bool) : Checked Int :=
  if msg.isNone then
    return -1
  else if dest.isSome ∧ tolen = 0 then
    return -1
  else if lsd.outbound = false then
    return -1
  else if lsd.type = sockStream then
    if lsd.connected = false then
      return -1
    else if dest.isSome ∧ differs = true then
      return -1
    else
      interfaceSendArgs env lsd i msg flags
  else if lsd.type = sockDgram ∧ dest.isNone then
    if saFamily lsd.peername = 0 then
      return -1
    else
      interfaceSendtoArgs env lsd i msg (some ()) flags
        lsd.peernamelen
  else
    interfaceSendtoArgs env lsd i msg dest flags tolen

/- `getsockname` on a socket. -/
def getsocknameArgs
    (env : ArgEnv)
    (i : Interface)
    (name : Option Memory)
    (namelen : Option Nat) : Checked Int :=
  if name.isNone ∨ namelen.isNone then
    return -1
  else
    interfaceNameArgs env i name namelen

/- `getpeername` on a socket. -/
def getpeernameArgs
    (env : ArgEnv)
    (lsd : LsckSocket)
    (i : Interface)
    (name : Option Memory)
    (namelen : Option Nat) : Checked Int :=
  if lsd.type = sockStream ∧ lsd.connected = false then
    return -1
  else if name.isNone ∨ namelen.isNone then
    return -1
  else
    interfaceNameArgs env i name namelen

/- What `getsockopt` does with the pointers it passes on. -/
def getsockoptPassed
    (env : ArgEnv)
    (i : Interface)
    (level optname : Int)
    (optval : Option Memory)
    (optlen : Option Nat) : Checked Int := do
  let handled ←
    interfaceGetsockoptArgs env i level optname optval optlen
  match handled with
  | some rv => return rv
  | none =>
      getsockoptEmulatedArgs level optname optval optlen

/-
  `getsockopt` on a socket. Without `optval` the interface
  gets a buffer of the core's own and the size of it.
-/
def getsockoptArgs
    (env : ArgEnv)
    (i : Interface)
    (level optname : Int)
    (optval : Option Memory)
    (optlen : Option Nat) : Checked Int :=
  if optval.isSome ∧ optlen.isNone then
    return -1
  else if optval.isNone then
    getsockoptPassed env i level optname (some ()) (some 16)
  else
    getsockoptPassed env i level optname optval optlen

/- `setsockopt` on a socket. -/
def setsockoptArgs
    (env : ArgEnv)
    (i : Interface)
    (optname : Int)
    (optval : Option Memory)
    (optlen : Nat) : Checked Int := do
  if optval.isNone then
    return -1
  else
    let handled ←
      interfaceSetsockoptArgs env i optname optval optlen
    match handled with
    | some rv => return rv
    | none => setsockoptEmulatedArgs

------------------------------------------------------------
-- What Should Hold
------------------------------------------------------------

/- A call with all its arguments. -/
inductive ArgCall
  | recv (buf : Option Memory) (flags : Nat)
  | recvfrom (buf source : Option Memory) (flags : Nat)
      (fromlen : Option Nat)
  | send (msg : Option Memory) (flags : Nat)
  | sendto (msg dest : Option Memory) (flags : Nat)
      (tolen : Nat) (differs : Bool)
  | getsockopt (level optname : Int)
      (optval : Option Memory) (optlen : Option Nat)
  | setsockopt (optname : Int)
      (optval : Option Memory) (optlen : Nat)
  | getpeername (name : Option Memory)
      (namelen : Option Nat)
  | getsockname (name : Option Memory)
      (namelen : Option Nat)
deriving DecidableEq, Repr

/- The call on a socket of an interface. -/
def ArgCall.run
    (env : ArgEnv)
    (lsd : LsckSocket)
    (i : Interface) : ArgCall → Checked Int
| .recv buf flags => recvArgs env lsd i buf flags
| .recvfrom buf source flags fromlen =>
    recvfromArgs env lsd i buf source flags fromlen
| .send msg flags =>
    sendtoArgs env lsd i msg none flags 0 false
| .sendto msg dest flags tolen differs =>
    sendtoArgs env lsd i msg dest flags tolen differs
| .getsockopt level optname optval optlen =>
    getsockoptArgs env i level optname optval optlen
| .setsockopt optname optval optlen =>
    setsockoptArgs env i optname optval optlen
| .getpeername name namelen =>
    getpeernameArgs env lsd i name namelen
| .getsockname name namelen =>
    getsocknameArgs env i name namelen

/- It ends without following a NULL pointer. -/
def FollowsNoNull (run : Checked Int) : Prop :=
  ∃ r, run = .ok r

/-
  A receive from WSOCK.VXD without any of the two pointers
  to an address; and a send without a destination on a
  socket that is no stream and no datagram, which only
  `__socketx` creates, and only for an interface that it is
  told.
-/
def ArgCall.Trips
    (lsd : LsckSocket)
    (i : Interface) : ArgCall → Prop
| .recvfrom buf source _ fromlen =>
    i = .wsock ∧ buf.isSome ∧ source.isNone ∧
      fromlen.isNone ∧ lsd.inbound = true
| .send msg _ =>
    i = .csock ∧ msg.isSome ∧ lsd.outbound = true ∧
      lsd.type ≠ sockStream ∧ lsd.type ≠ sockDgram
| .sendto msg dest _ tolen _ =>
    (i = .csock ∨ i = .wsock ∧ 0 < tolen) ∧ msg.isSome ∧
      dest.isNone ∧ lsd.outbound = true ∧
      lsd.type ≠ sockStream ∧ lsd.type ≠ sockDgram
| _ => False

------------------------------------------------------------
-- Rules
------------------------------------------------------------

@[simp] theorem followsNoNull_return (r : Int) :
    FollowsNoNull (pure r) :=
  ⟨r, rfl⟩

@[simp] theorem not_followsNoNull_error (arg : Arg) :
    ¬ FollowsNoNull (.error arg) := by
  rintro ⟨r, hRun⟩
  cases hRun

@[simp] theorem followsNoNull_ite
    {c : Prop}
    [Decidable c]
    {x y : Checked Int} :
    FollowsNoNull (if c then x else y) ↔
      (c → FollowsNoNull x) ∧ (¬ c → FollowsNoNull y) := by
  by_cases hCond : c <;> simp [hCond]

/- A pointer that is given is followed. -/
@[simp] theorem follow_some
    {α : Type}
    (arg : Arg)
    (a : α) :
    follow arg (some a) = pure a :=
  rfl

/- One that is not ends the call. -/
@[simp] theorem follow_none
    {α : Type}
    (arg : Arg)
    (rest : α → Checked Int) :
    (follow arg none >>= rest) = .error arg :=
  rfl

@[simp] theorem follow_none_map
    {α : Type}
    (arg : Arg)
    (f : α → Int) :
    (f <$> follow arg none) = .error arg :=
  rfl

------------------------------------------------------------
-- The Interfaces
------------------------------------------------------------

section Interfaces

variable {env : ArgEnv} {lsd : LsckSocket} {i : Interface}
variable {flags : Nat}

/- A receive is told where to put the data. -/
theorem recv_follows (b : Memory) :
    FollowsNoNull
      (interfaceRecvArgs env lsd i (some b) flags) := by
  cases i with
  | wsock => simp [interfaceRecvArgs, wsockRecvArgs]
  | csock => simp [interfaceRecvArgs, csockRecvArgs]
  | unix =>
      simp [interfaceRecvArgs, unixRecvArgs,
        unixRecvStreamArgs, unixRecvDgramArgs]

/- WSOCK.VXD always needs the length of the address. -/
theorem recvfrom_follows_iff
    {source : Option Memory}
    {fromlen : Option Nat}
    (b : Memory)
    (hGiven : source.isSome → fromlen.isSome) :
    FollowsNoNull (interfaceRecvfromArgs env lsd i (some b)
        source flags fromlen) ↔
      ¬ (i = .wsock ∧ fromlen.isNone) := by
  cases fromlen with
  | some n =>
      have hFollows : FollowsNoNull (interfaceRecvfromArgs env
          lsd i (some b) source flags (some n)) := by
        cases source with
        | none =>
            cases i with
            | wsock =>
                simp [interfaceRecvfromArgs,
                  wsockRecvfromArgs]
            | csock =>
                simp [interfaceRecvfromArgs,
                  csockRecvfromArgs, csockRecvfromRest]
            | unix =>
                simp only [interfaceRecvfromArgs,
                  unixRecvfromArgs, unixRecvStreamArgs,
                  unixRecvDgramArgs]
                by_cases hFails : env.answer < 0 <;>
                  simp [hFails]
        | some a =>
            cases i with
            | wsock =>
                simp [interfaceRecvfromArgs,
                  wsockRecvfromArgs]
            | csock =>
                simp [interfaceRecvfromArgs,
                  csockRecvfromArgs, csockRecvfromRest]
            | unix =>
                simp only [interfaceRecvfromArgs,
                  unixRecvfromArgs, unixRecvStreamArgs,
                  unixRecvDgramArgs, unixNameArgs]
                by_cases hFails : env.answer < 0 <;>
                  simp [hFails]
      simp [hFollows]
  | none =>
      cases source with
      | some a => simp at hGiven
      | none =>
          cases i with
          | wsock =>
              simp [interfaceRecvfromArgs, wsockRecvfromArgs]
          | csock =>
              simp [interfaceRecvfromArgs, csockRecvfromArgs,
                csockRecvfromRest]
          | unix =>
              simp only [interfaceRecvfromArgs,
                unixRecvfromArgs, unixRecvStreamArgs,
                unixRecvDgramArgs]
              by_cases hFails : env.answer < 0 <;>
                simp [hFails]

/- A stream is sent to without an address. -/
theorem send_follows
    (b : Memory)
    (hStream : lsd.type = sockStream) :
    FollowsNoNull
      (interfaceSendArgs env lsd i (some b) flags) := by
  cases i with
  | wsock => simp [interfaceSendArgs, wsockSendArgs]
  | csock => simp [interfaceSendArgs, csockSendArgs]
  | unix =>
      simp [interfaceSendArgs, unixSendtoArgs, hStream]

/- Other sockets need the address, unless they refuse. -/
theorem sendto_follows_iff
    {dest : Option Memory}
    {tolen : Nat}
    (b : Memory)
    (hGiven : lsd.type = sockDgram → dest.isSome) :
    FollowsNoNull (interfaceSendtoArgs env lsd i (some b) dest
        flags tolen) ↔
      ¬ ((i = .csock ∨ i = .wsock ∧ 0 < tolen) ∧
        dest.isNone) := by
  cases dest with
  | some a =>
      cases i with
      | wsock =>
          simp [interfaceSendtoArgs, wsockSendtoArgs]
      | csock =>
          simp [interfaceSendtoArgs, csockSendtoArgs]
      | unix =>
          simp [interfaceSendtoArgs, unixSendtoArgs,
            unixSendDgramArgs]
  | none =>
      have hOther : lsd.type ≠ sockDgram := by
        simpa using hGiven
      cases i with
      | wsock =>
          simp [interfaceSendtoArgs, wsockSendtoArgs]
      | csock =>
          simp [interfaceSendtoArgs, csockSendtoArgs]
      | unix =>
          simp [interfaceSendtoArgs, unixSendtoArgs, hOther]

theorem name_follows
    (b : Memory)
    (n : Nat) :
    FollowsNoNull
      (interfaceNameArgs env i (some b) (some n)) := by
  cases i with
  | wsock => simp [interfaceNameArgs, wsockNameArgs]
  | csock => simp [interfaceNameArgs, csockNameArgs]
  | unix => simp [interfaceNameArgs, unixNameArgs]

theorem getsockopt_follows
    (level optname : Int)
    (b : Memory)
    (n : Nat) :
    FollowsNoNull (getsockoptPassed env i level optname
      (some b) (some n)) := by
  have hEmulated : FollowsNoNull (getsockoptEmulatedArgs level
      optname (some b) (some n)) := by
    simp [getsockoptEmulatedArgs]
  cases i with
  | unix =>
      simpa [getsockoptPassed, interfaceGetsockoptArgs] using
        hEmulated
  | wsock =>
      simp only [getsockoptPassed, interfaceGetsockoptArgs,
        wsockGetsockoptArgs, follow_some, pure_bind]
      split
      · exact followsNoNull_return _
      · split
        · exact followsNoNull_return _
        · split
          · exact followsNoNull_return _
          · exact followsNoNull_return _
  | csock =>
      simp only [getsockoptPassed, interfaceGetsockoptArgs,
        csockGetsockoptArgs, follow_some, pure_bind]
      split
      · exact followsNoNull_return _
      · cases csockOptionSize optname with
        | none => exact hEmulated
        | some size =>
            dsimp only
            split
            · exact followsNoNull_return _
            · split
              · exact followsNoNull_return _
              · exact followsNoNull_return _

theorem setsockopt_follows
    (optname : Int)
    (b : Memory)
    (n : Nat) :
    FollowsNoNull
      (setsockoptArgs env i optname (some b) n) := by
  cases i with
  | wsock =>
      simp only [setsockoptArgs, interfaceSetsockoptArgs,
        wsockSetsockoptArgs, follow_some, pure_bind]
      split
      · exact followsNoNull_return _
      · split
        · exact followsNoNull_return _
        · split
          · exact followsNoNull_return _
          · exact followsNoNull_return _
  | csock => exact followsNoNull_return _
  | unix => exact followsNoNull_return _

end Interfaces

------------------------------------------------------------
-- The Calls
------------------------------------------------------------

theorem recvArgs_follows
    (env : ArgEnv)
    (lsd : LsckSocket)
    (i : Interface)
    (buf : Option Memory)
    (flags : Nat) :
    FollowsNoNull (recvArgs env lsd i buf flags) := by
  unfold recvArgs
  cases buf with
  | none => simp
  | some b => simp [recv_follows b]

theorem recvfromArgs_follows_iff
    (env : ArgEnv)
    (lsd : LsckSocket)
    (i : Interface)
    (buf source : Option Memory)
    (flags : Nat)
    (fromlen : Option Nat) :
    FollowsNoNull
        (recvfromArgs env lsd i buf source flags fromlen) ↔
      ¬ (ArgCall.recvfrom buf source flags fromlen).Trips
        lsd i := by
  unfold recvfromArgs ArgCall.Trips
  cases buf with
  | none => simp
  | some b =>
      by_cases hRefused : source.isSome ∧ fromlen.isNone
      · rcases Option.isSome_iff_exists.mp hRefused.1 with
          ⟨a, rfl⟩
        simp [hRefused]
      · have hGiven : source.isSome → fromlen.isSome := by
          intro hSource
          by_contra hNone
          exact hRefused ⟨hSource, by simpa using hNone⟩
        by_cases hShut : lsd.inbound = false
        · simp [hShut]
        · have hOpen : lsd.inbound = true := by
            simpa using hShut
          rw [if_neg (by simp), if_neg hRefused, if_neg hShut,
            recvfrom_follows_iff b hGiven]
          cases fromlen with
          | some n => simp
          | none =>
              have hNone : source = none := by
                simpa using hGiven
              simp [hNone, hOpen]

theorem sendtoArgs_follows_iff
    (env : ArgEnv)
    (lsd : LsckSocket)
    (i : Interface)
    (msg dest : Option Memory)
    (flags tolen : Nat)
    (differs : Bool) :
    FollowsNoNull
        (sendtoArgs env lsd i msg dest flags tolen
          differs) ↔
      ¬ (ArgCall.sendto msg dest flags tolen differs).Trips
        lsd i := by
  unfold sendtoArgs ArgCall.Trips
  cases msg with
  | none => simp
  | some b =>
      by_cases hShut : lsd.outbound = false
      · simp [hShut]
      have hOpen : lsd.outbound = true := by
        simpa using hShut
      have hGiven : ∀ a n, FollowsNoNull (interfaceSendtoArgs
          env lsd i (some b) (some a) flags n) := by
        intro a n
        apply (sendto_follows_iff b (fun _ => rfl)).mpr
        simp
      by_cases hStream : lsd.type = sockStream
      · simp [hStream, send_follows b hStream]
      cases dest with
      | some a => simp [hStream, hGiven]
      | none =>
          by_cases hDgram : lsd.type = sockDgram
          · have hNe : sockDgram ≠ sockStream := by decide
            simp [hDgram, hNe, hGiven]
          · have hOther : lsd.type = sockDgram →
                (none : Option Memory).isSome :=
              fun h => absurd h hDgram
            simp [sendto_follows_iff b hOther, hOpen, hStream,
              hDgram]

theorem getsockoptArgs_follows
    (env : ArgEnv)
    (i : Interface)
    (level optname : Int)
    (optval : Option Memory)
    (optlen : Option Nat) :
    FollowsNoNull
      (getsockoptArgs env i level optname optval optlen) := by
  unfold getsockoptArgs
  cases optval with
  | none => simp [getsockopt_follows]
  | some b =>
      cases optlen with
      | none => simp
      | some n => simp [getsockopt_follows]

/-
  Of all that the core lets through to the interfaces, a
  NULL pointer is followed in these calls and in no others.
-/
theorem follows_no_null_iff
    (env : ArgEnv)
    (lsd : LsckSocket)
    (i : Interface)
    (call : ArgCall) :
    FollowsNoNull (call.run env lsd i) ↔
      ¬ call.Trips lsd i := by
  cases call with
  | recv buf flags =>
      have hFollows := recvArgs_follows env lsd i buf flags
      simpa [ArgCall.run, ArgCall.Trips] using hFollows
  | recvfrom buf source flags fromlen =>
      exact recvfromArgs_follows_iff env lsd i buf source
        flags fromlen
  | send msg flags =>
      have hSame := sendtoArgs_follows_iff env lsd i msg none
        flags 0 false
      simpa [ArgCall.run, ArgCall.Trips] using hSame
  | sendto msg dest flags tolen differs =>
      exact sendtoArgs_follows_iff env lsd i msg dest flags
        tolen differs
  | getsockopt level optname optval optlen =>
      have hFollows := getsockoptArgs_follows env i level
        optname optval optlen
      simpa [ArgCall.run, ArgCall.Trips] using hFollows
  | setsockopt optname optval optlen =>
      cases optval with
      | none => simp [ArgCall.run, ArgCall.Trips,
          setsockoptArgs]
      | some b =>
          have hFollows : FollowsNoNull (setsockoptArgs env i
              optname (some b) optlen) :=
            setsockopt_follows optname b optlen
          simpa [ArgCall.run, ArgCall.Trips] using hFollows
  | getpeername name namelen =>
      cases name with
      | none => simp [ArgCall.run, ArgCall.Trips,
          getpeernameArgs]
      | some b =>
          cases namelen with
          | none => simp [ArgCall.run, ArgCall.Trips,
              getpeernameArgs]
          | some n => simp [ArgCall.run, ArgCall.Trips,
              getpeernameArgs, name_follows]
  | getsockname name namelen =>
      cases name with
      | none => simp [ArgCall.run, ArgCall.Trips,
          getsocknameArgs]
      | some b =>
          cases namelen with
          | none => simp [ArgCall.run, ArgCall.Trips,
              getsocknameArgs]
          | some n => simp [ArgCall.run, ArgCall.Trips,
              getsocknameArgs, name_follows]

/- Drivers that have one byte to hand over. -/
def RecvEnvs.oneByte : RecvEnvs where
  writable := false
  wsock := ⟨0, 0, 0, [1], []⟩
  csock := ⟨1, 0, 0, 0, [1], 0, 0, fun _ => 0⟩
  unixEnv := ⟨[], fun _ => 0, fun _ => 0, ⟨true, .zero⟩, .leaf,
    .leaf, fun _ => 0⟩

/- The receive that the core takes to be in order. -/
def namelessCall : ArgCall :=
  .recvfrom (some ()) none 0 none

/-
  A datagram or stream of WSOCK.VXD, asked for data without
  the address of the sender.
-/
theorem nameless_receive_faults :
    ∃ s d, lsckSystem.Reachable s ∧ s.LeadsTo 3 10 ∧
      s.heap 10 = some (.socket d) ∧
      d.interface = some .wsock ∧
      recvfrom .oneByte 3 true 10 0 false none s =
        .error .fault ∧
      namelessCall.run ⟨1, true⟩ d .wsock =
        .error .fromlen := by
  have hCheck : (runCalls [streamCall] bareProcess).any
      (fun s => (s.fds 3).function == some .lsckSocketFsext &&
        ((s.fds 3).data == some (.lsd 10) &&
          ((s.socket? 10).any (fun d =>
              d.interface == some .wsock && d.inbound) &&
            faults (recvfrom .oneByte 3 true 10 0 false none)
              s))) = true := by
    decide +kernel
  rcases (Option.any_eq_true _ _).mp hCheck with
    ⟨s, hRun, hS⟩
  simp only [Bool.and_eq_true, beq_iff_eq] at hS
  rcases hS with ⟨hFunction, hData, hSocket, hFaults⟩
  rcases (Option.any_eq_true _ _).mp hSocket with
    ⟨d, hD, hKind⟩
  simp only [Bool.and_eq_true, beq_iff_eq] at hKind
  refine ⟨s, d, reachable_of_calls hRun,
    ⟨hFunction, hData⟩, Process.socket?_eq_some.mp hD, hKind.1,
    eq_fault_of_faults hFaults, ?_⟩
  simp [namelessCall, ArgCall.run, recvfromArgs, hKind.2,
    interfaceRecvfromArgs, wsockRecvfromArgs]

end Libsocket
