import Libsocket.Csock
import Libsocket.Library.BitTable

/-
  The descriptors of SOCK.VXD and the table in which the
  library keeps track of them, `__csock_fd_table`.

  Other processes share the driver. What they hold when the
  driver is called is an input of each call.

  Main declarations:
    * `CsockFds`
    * `takeFd`, `returnFd`, `usageMask`
    * `csockFdGetUsage`, `csockSearch`
    * `csockSocketFds`, `csockAcceptFds`, `csockCloseFds`
-/

namespace Libsocket

------------------------------------------------------------
-- The Driver
------------------------------------------------------------

/-
  A call of the driver for one descriptor: whether the
  descriptor was in use and what the driver answered.
-/
structure VxdCall where
  command : Nat
  fd : Nat
  inUse : Bool
  answer : Int
deriving DecidableEq, Repr

/- The commands for a descriptor. -/
def vxdCreate : Nat := 1
def vxdClose : Nat := 2
def vxdAccept : Nat := 12

/-
  `__csock_fd_table`, the descriptors that the driver has
  given to this process, and the calls for descriptors so
  far, the latest one first.
-/
structure CsockFds where
  table : BitVec 32
  ours : Nat → Bool
  calls : List VxdCall

namespace CsockFds

def start : CsockFds := ⟨0, fun _ => false, []⟩

/- The driver reports the descriptor in use. -/
def inUse (s : CsockFds) (others : Nat → Bool) (fd : Nat) :
    Bool :=
  s.ours fd || others fd

/- `__csock_fd_set_used` -/
def setUsed (s : CsockFds) (fd : Nat) : CsockFds :=
  { s with table := BitTable.set s.table fd }

/- `__csock_fd_set_clear` -/
def setClear (s : CsockFds) (fd : Nat) : CsockFds :=
  { s with table := BitTable.toggle s.table fd }

end CsockFds

/-
  What the other processes hold when the driver is asked for
  a descriptor, and its answer if nobody holds that one.
-/
structure TakeEnv where
  others : Nat → Bool
  answer : Int

/-
  A call that asks for a descriptor, to create a socket or to
  accept one. The driver refuses a descriptor in use.
-/
def takeFd
    (command : Nat)
    (env : TakeEnv)
    (fd : Nat)
    (s : CsockFds) : Int × CsockFds :=
  let used := s.inUse env.others fd
  let ret := if used then -csockErrFdInuse else env.answer
  (ret,
    { s with
      ours := if ret = 0 then
        Function.update s.ours fd true else s.ours
      calls := ⟨command, fd, used, ret⟩ :: s.calls })

/- A call that gives a descriptor back. -/
def returnFd
    (answer : Int)
    (fd : Nat)
    (s : CsockFds) : Int × CsockFds :=
  (answer,
    { s with
      ours := if answer = 0 then
        Function.update s.ours fd false else s.ours
      calls := ⟨vxdClose, fd, s.ours fd, answer⟩ ::
        s.calls })

/-
  What the other processes hold when the driver is asked for
  the usage mask, and whether a driver with nothing in use
  answers -1.
-/
structure MaskEnv where
  others : Nat → Bool
  noneIsMinusOne : Bool

/- The usage mask, which versions from 1 on return. -/
def usageMask (env : MaskEnv) (s : CsockFds) : BitVec 32 :=
  let mask := BitTable.ofFlags (s.inUse env.others) 32
  if mask = 0 ∧ env.noneIsMinusOne then
    BitVec.allOnes 32
  else
    mask

------------------------------------------------------------
-- Asking Whether A Descriptor Is Used
------------------------------------------------------------

structure UsageEnv where
  mask : MaskEnv
  create : TakeEnv
  closeAnswer : Int

/-
  The part of `__csock_fd_get_usage` after the usage mask: a
  descriptor that the table does not have is probed by a
  socket that is created and closed.
-/
def csockFdProbe
    (env : UsageEnv)
    (fd : Nat)
    (s : CsockFds) : Bool × CsockFds :=
  if s.table.getLsbD fd then
    (true, s)
  else
    let (ret, s₁) := takeFd vxdCreate env.create fd s
    if ret = 0 then
      let (ret, s₂) := returnFd env.closeAnswer fd s₁
      if ret = 0 then
        (false, s₂)
      else
        (true, s₂.setUsed fd)
    else
      (true, s₁.setUsed fd)

/- `__csock_fd_get_usage` -/
def csockFdGetUsage
    (version : Nat)
    (env : UsageEnv)
    (fd : Nat)
    (s : CsockFds) : Bool × CsockFds :=
  if 0 < version then
    let ret := usageMask env.mask s
    if ret = BitVec.allOnes 32 then
      (false, s)
    else if 0 < ret.toInt then
      csockFdProbe env fd { s with table := ret }
    else
      csockFdProbe env fd s
  else
    csockFdProbe env fd s

------------------------------------------------------------
-- The Loop Over The Descriptors
------------------------------------------------------------

/- A call that tries to use a descriptor. -/
abbrev TryFd : Type := Nat → CsockFds → Int × CsockFds

/-
  The loop of `__csock_socket` and `__csock_accept`: the
  descriptor that was taken and the last answer.
-/
def csockSearch
    (version : Nat)
    (usage : Nat → UsageEnv)
    (tries : TryFd) :
    Nat → Nat → Int → CsockFds →
      (Option Nat × Int) × CsockFds
| 0, _, ret, s => ((none, ret), s)
| remaining + 1, i, ret, s =>
    let (used, s₁) := csockFdGetUsage version (usage i) i s
    if used then
      csockSearch version usage tries remaining (i + 1) ret s₁
    else
      let (ret, s₂) := tries i s₁
      if ret = 0 then
        ((some i, 0), s₂)
      else if ret ≠ -csockErrFdInuse then
        ((none, ret), s₂)
      else
        csockSearch version usage tries remaining (i + 1) ret
          (s₂.setUsed i)

/-
  The loop, and the descriptor noted in the table once it is
  taken.
-/
def csockAdopt
    (version : Nat)
    (usage : Nat → UsageEnv)
    (tries : TryFd)
    (s : CsockFds) : Option Nat × CsockFds :=
  match csockSearch version usage tries 31 1 (-1) s with
  | ((none, _), s₁) => (none, s₁)
  | ((some i, _), s₁) => (some i, s₁.setUsed i)

------------------------------------------------------------
-- The Calls
------------------------------------------------------------

/- Whether there is memory, and the driver's answers. -/
structure SocketFdsEnv where
  memory : Bool
  usage : Nat → UsageEnv
  create : Nat → TakeEnv

/- `__csock_socket`: the descriptor of the new socket. -/
def csockSocketFds
    (version : Nat)
    (env : SocketFdsEnv)
    (s : CsockFds) : Option Nat × CsockFds :=
  if env.memory then
    csockAdopt version env.usage
      (fun i => takeFd vxdCreate (env.create i) i) s
  else
    (none, s)

/-
  The attempts to accept with one descriptor: those before
  the last, which count as long as the answer is that the
  call would block, and the last one, which is not refused
  for that reason.
-/
structure AcceptTries where
  early : List TakeEnv
  last : TakeEnv
  settled : last.answer ≠ -csockErrWouldBlock

/- The loop around `tryitagain`. -/
def csockTryAccept
    (blocking : Bool)
    (last : TakeEnv)
    (fd : Nat) :
    List TakeEnv → CsockFds → Int × CsockFds
| [], s => takeFd vxdAccept last fd s
| env :: early, s =>
    let (ret, s₁) := takeFd vxdAccept env fd s
    if blocking ∧ ret = -csockErrWouldBlock then
      csockTryAccept blocking last fd early s₁
    else
      (ret, s₁)

/-
  Whether the address has room and the listener blocks, and
  the driver's answers. Without memory for the new socket's
  data the call does not return.
-/
structure AcceptFdsEnv where
  room : Bool
  blocking : Bool
  usage : Nat → UsageEnv
  tries : Nat → AcceptTries

/- `__csock_accept`: the descriptor of the new socket. -/
def csockAcceptFds
    (version : Nat)
    (env : AcceptFdsEnv)
    (s : CsockFds) : Option Nat × CsockFds :=
  if env.room then
    csockAdopt version env.usage
      (fun i => csockTryAccept env.blocking
        (env.tries i).last i (env.tries i).early) s
  else
    (none, s)

/- `__csock_close`: whether the descriptor is closed. -/
def csockCloseFds
    (answer : Int)
    (fd : Nat)
    (s : CsockFds) : Bool × CsockFds :=
  let (ret, s₁) := returnFd answer fd s
  if ret = 0 then
    (true, s₁.setClear fd)
  else
    (false, s₁)

end Libsocket
