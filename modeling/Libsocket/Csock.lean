import Libsocket.Wsock
import Libsocket.Library.Word

/-
  The callbacks of the SOCK.VXD interface. What the driver
  answers is the environment's choice, and so is whether it
  reports one of its descriptors as in use.

  Main declarations:
    * `csockScan`
    * `csockSocket`, `csockAccept`
    * `csockIoctl`
-/

namespace Libsocket

open Command

------------------------------------------------------------
-- Descriptors Of The Driver
------------------------------------------------------------

/-
  For each SOCK.VXD descriptor, the answer of
  `__csock_fd_get_usage` and that of the call that tries to
  use it.
-/
structure CsockScan where
  usage : Nat → Bool
  answer : Nat → Int

/-
  The loop over the descriptors: the one that was taken and
  the last answer.
-/
def csockScan
    (env : CsockScan) : Nat → Nat → Int → Option Nat × Int
| 0, _, ret => (none, ret)
| remaining + 1, i, ret =>
    if env.usage i then
      csockScan env remaining (i + 1) ret
    else if env.answer i = 0 then
      (some i, 0)
    else if env.answer i ≠ -csockErrFdInuse then
      (none, env.answer i)
    else
      csockScan env remaining (i + 1) (env.answer i)

/- The loop as both callers start it, over 1 to 31. -/
def csockTake (env : CsockScan) : Option Nat × Int :=
  csockScan env 31 1 (-1)

------------------------------------------------------------
-- Modes
------------------------------------------------------------

/- `__csock_ioctl` for `FIONBIO` -/
def csockIoctl
    (answer : Int)
    (p : Ptr)
    (param : Int) : Exec Int := do
  let lsd ← derefSocket p
  let _ ← deref Block.csock? lsd.idata
  if answer ≠ 0 then
    failCsock answer
  else do
    modifySocket p fun lsd =>
      { lsd with blocking := param != 1 }
    return 0

/- A call whose only effect is the driver's answer. -/
def csockSimple (p : Ptr) (answer : Int) : Exec Int := do
  let lsd ← derefSocket p
  let _ ← deref Block.csock? lsd.idata
  if answer ≠ 0 then
    failCsock answer
  else
    return 0

/- `__csock_bind` -/
def csockBind (p : Ptr) (answer : Int) : Exec Int :=
  csockSimple p answer

/- `__csock_listen` -/
def csockListen (p : Ptr) (answer : Int) : Exec Int :=
  csockSimple p answer

/- `__csock_close` -/
def csockClose (p : Ptr) (answer : Int) : Exec Int :=
  csockSimple p answer

/- `__csock_shutdown` -/
def csockShutdown : Exec Int := return 0

/- `__csock_connect` -/
def csockConnect (p : Ptr) (answer : Int) : Exec Int := do
  let lsd ← derefSocket p
  if lsd.blocking = false then
    fail .EOPNOTSUPP
  else
    csockSimple p answer

/- `__csock_socketpair` -/
def csockSocketpair : Exec Int := fail .EAFNOSUPPORT

------------------------------------------------------------
-- Creating
------------------------------------------------------------

structure CsockSocketEnv where
  memory : Option Ptr
  content : LsckSocketCsock
  scan : CsockScan
  ioctlAnswer : Int

/- `__csock_socket` -/
def csockSocket
    (env : CsockSocketEnv)
    (p : Ptr) : Exec Int := do
  let csock ← malloc env.memory (.csock env.content)
  modifySocket p fun lsd => { lsd with idata := csock }
  if csock = none then
    fail .ENOMEM
  else
    match csockTake env.scan with
    | (none, _) => do
        modifyCsock csock fun _ => ⟨-1⟩
        fail .EMFILE
    | (some i, _) => do
        modifyCsock csock fun _ => ⟨i⟩
        let _ ← csockIoctl env.ioctlAnswer p 0
        return 0

------------------------------------------------------------
-- Accepting
------------------------------------------------------------

/- The fields of a `sockaddr_in` that the library sets. -/
def sockaddrIn (port address : Nat) : Bytes :=
  Word.littleEndian 2 2 ++ Word.littleEndian 2 port ++
    Word.littleEndian 4 address

structure CsockAcceptEnv where
  memory : Option Ptr
  content : LsckSocketCsock
  flipAnswer : Int
  scan : CsockScan
  flipBackAnswer : Int
  destPort : Nat
  destAddr : Nat

/-
  The search for a pending connection. The listener is
  switched to non-blocking mode for it, and back afterwards.
-/
def csockServe
    (env : CsockAcceptEnv)
    (lsd : LsckSocket)
    (p np : Ptr)
    (ncsock : Option Ptr) : Exec Int := do
  let _ ←
    (if lsd.blocking then csockIoctl env.flipAnswer p 1
     else pure 0)
  modifyCsock ncsock fun _ => ⟨-1⟩
  let _ ← deref Block.csock? lsd.idata
  let (fd, ret) := csockTake env.scan
  -- A blocking accept asks again until it is served.
  when (lsd.blocking ∧ ret = -csockErrWouldBlock)
    (stop .blocked)
  let _ ←
    (match fd with
     | none => pure ()
     | some i => modifyCsock ncsock fun _ => ⟨i⟩)
  let _ ←
    (if lsd.blocking then csockIoctl env.flipBackAnswer p 0
     else pure 0)
  if ret ≠ 0 then
    failCsock ret
  else do
    setPeername np (sockaddrIn env.destPort env.destAddr)
      sockaddrInSize
    return 0

/-
  `__csock_accept` on the listener `p`, for `np`. The check
  for memory looks at the listener's data, not at the new
  block.
-/
def csockAccept
    (env : CsockAcceptEnv)
    (p np : Ptr) : Exec Int := do
  let lsd ← derefSocket p
  let nsd ← derefSocket np
  if nsd.peernamelen < sockaddrInSize then
    fail .EINVAL
  else do
    let ncsock ← malloc env.memory (.csock env.content)
    modifySocket np fun nsd => { nsd with idata := ncsock }
    if lsd.idata = none then
      fail .ENOMEM
    else
      csockServe env lsd p np ncsock

------------------------------------------------------------
-- Frame
------------------------------------------------------------

theorem still_csockIoctl
    (answer : Int)
    (p : Ptr)
    (param : Int) :
    StillCmd (csockIoctl answer p param) := by
  refine (StillCmd.derefSocket p).bind fun lsd => ?_
  refine (StillCmd.deref _ _).bind fun _ => ?_
  refine StillCmd.ite (still_failCsock _) ?_
  refine (StillCmd.modifySocket ?_).bind fun _ => ?_
  · exact fun _ => rfl
  · exact StillCmd.pure _

theorem still_csockSimple (p : Ptr) (answer : Int) :
    StillCmd (csockSimple p answer) := by
  refine (StillCmd.derefSocket p).bind fun lsd => ?_
  refine (StillCmd.deref _ _).bind fun _ => ?_
  exact StillCmd.ite (still_failCsock _) (StillCmd.pure _)

theorem still_csockConnect (p : Ptr) (answer : Int) :
    StillCmd (csockConnect p answer) := by
  refine (StillCmd.derefSocket p).bind fun lsd => ?_
  exact StillCmd.ite (StillCmd.fail _)
    (still_csockSimple p answer)

/- The part of a creation that comes after the allocation. -/
theorem still_csockCreate
    (env : CsockSocketEnv)
    (p : Ptr)
    (q : Option Ptr) :
    StillCmd (match csockTake env.scan with
      | (none, _) => do
          modifyCsock q fun _ => ⟨-1⟩
          fail .EMFILE
      | (some i, _) => do
          modifyCsock q fun _ => ⟨i⟩
          let _ ← csockIoctl env.ioctlAnswer p 0
          return 0) := by
  split
  · exact (StillCmd.modifyCsock _ _).bind
      fun _ => StillCmd.fail _
  · refine (StillCmd.modifyCsock _ _).bind fun _ => ?_
    exact (still_csockIoctl _ _ _).bind
      fun _ => StillCmd.pure _

theorem attaches_csockSocket
    (env : CsockSocketEnv)
    (p : Ptr) :
    Attaches .csock p (csockSocket env p) :=
  Attaches.of_malloc rfl (still_csockCreate env p)

/- The part of an accept that comes after the allocation. -/
theorem still_csockServe
    (env : CsockAcceptEnv)
    (lsd : LsckSocket)
    (p np : Ptr)
    (ncsock : Option Ptr) :
    StillCmd (csockServe env lsd p np ncsock) := by
  refine (StillCmd.ite (still_csockIoctl _ _ _)
    (StillCmd.pure _)).bind fun _ => ?_
  refine (StillCmd.modifyCsock _ _).bind fun _ => ?_
  refine (StillCmd.deref _ _).bind fun _ => ?_
  refine (StillCmd.when (StillCmd.stop _)).bind fun _ => ?_
  refine StillCmd.bind ?_ fun _ => ?_
  · split
    · exact StillCmd.pure _
    · exact StillCmd.modifyCsock _ _
  · refine (StillCmd.ite (still_csockIoctl _ _ _)
      (StillCmd.pure _)).bind fun _ => ?_
    refine StillCmd.ite (still_failCsock _) ?_
    exact (StillCmd.setPeername _ _ _).bind
      fun _ => StillCmd.pure _

/- Without memory the search faults at once. -/
theorem csockServe_none
    (env : CsockAcceptEnv)
    (lsd : LsckSocket)
    (p np : Ptr)
    (s : Process)
    (r : Int)
    (s' : Process) :
    csockServe env lsd p np none s ≠ .ok (r, s') := by
  intro hRun
  rcases bind_eq_ok.mp hRun with ⟨_, t, -, hTail⟩
  rcases bind_eq_ok.mp hTail with ⟨_, u, hReset, -⟩
  rcases bind_eq_ok.mp hReset with ⟨_, v, hRead, -⟩
  rcases deref_ok hRead with ⟨-, q, -, hNone, -⟩
  cases hNone

/-
  An accept on a listener with data, for a descriptor with
  room for a name.
-/
theorem attaches_csockAccept
    {env : CsockAcceptEnv}
    {p np : Ptr}
    {s : Process}
    {d nd : LsckSocket}
    (hListener : s.heap p = some (.socket d))
    (hData : d.idata ≠ none)
    (hNew : s.heap np = some (.socket nd))
    (hRoom : sockaddrInSize ≤ nd.peernamelen) :
    AttachesFrom .csock np (csockAccept env p np) s := by
  intro r s' hRun
  unfold csockAccept at hRun
  rw [run_bind_ok (derefSocket_run hListener),
    run_bind_ok (derefSocket_run hNew),
    if_neg (by omega)] at hRun
  simp only [if_neg hData] at hRun
  have hAttaches : Attaches .csock np (do
      let q ← malloc env.memory (.csock env.content)
      modifySocket np fun nd => { nd with idata := q }
      csockServe env d p np q) := by
    refine Attaches.of_malloc_rest rfl ?_ ?_
    · exact still_csockServe env d p np
    · intro t r t' hServe
      exact absurd hServe (csockServe_none env d p np t r t')
  exact hAttaches s r s' hRun

end Libsocket
