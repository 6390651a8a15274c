import Libsocket.Core.Transfer
import Libsocket.Wsock
import Libsocket.Library.Beside

/-
  The calls that emulate a mode by switching the socket to
  the other one and back: `__csock_accept`,
  `__csock_recvfrom` and `__wsock_connect`, with the mode
  that the driver itself keeps for the socket and with all
  answers of a driver that is asked again.

  Main declarations:
    * `csockIoctlDriven`, `wsockIoctlDriven`
    * `csockAcceptDriven`, `csockRecvfromDriven`,
      `wsockConnectDriven`
    * `outcome_csockAccept`, `erases_csockRecvfrom`,
      `erases_wsockConnect`
-/

namespace Libsocket

open Command

------------------------------------------------------------
-- The Mode Of The Driver
------------------------------------------------------------

/- With the driver's mode for one socket: whether it blocks. -/
abbrev DriverExec (α : Type) : Type :=
  Command Stop (Process × Bool) α

/- `__csock_ioctl` for `FIONBIO` -/
def csockIoctlDriven
    (answer : Int)
    (p : Ptr)
    (param : Int) : DriverExec Int := do
  let r ← beside (csockIoctl answer p param)
  when (answer = 0) (aside fun _ => param != 1)
  return r

/-
  `__wsock_ioctl` for `FIONBIO`. The driver goes by the
  parameter that it is given, the library by the one that it
  gets back.
-/
def wsockIoctlDriven
    (env : WsockIoctlEnv)
    (p : Ptr)
    (param : Int) : DriverExec (Int × Int) := do
  let r ← beside (wsockIoctl env p param)
  when (vxdFails env.code = false)
    (aside fun _ => param == 0)
  return r

theorem erases_csockIoctl
    (answer : Int)
    (p : Ptr)
    (param : Int) :
    Erases (csockIoctlDriven answer p param)
      (csockIoctl answer p param) := by
  exact erases_beside_aside _ _ _

theorem erases_wsockIoctl
    (env : WsockIoctlEnv)
    (p : Ptr)
    (param : Int) :
    Erases (wsockIoctlDriven env p param)
      (wsockIoctl env p param) := by
  exact erases_beside_aside _ _ _

------------------------------------------------------------
-- Accepting
------------------------------------------------------------

/-
  What SOCK.VXD answers to the attempts to accept with one
  descriptor: that the call would block, a number of times,
  and then something else.
-/
structure CsockTries where
  retries : Nat
  answer : Int
  settled : answer ≠ -csockErrWouldBlock

/- The loop around `tryitagain` -/
def csockTryAgain
    (blocking : Bool) : Nat → Int → Int
| 0, answer => answer
| retries + 1, answer =>
    if blocking then
      csockTryAgain blocking retries answer
    else
      -csockErrWouldBlock

structure CsockTriesEnv where
  memory : Option Ptr
  content : LsckSocketCsock
  flipAnswer : Int
  usage : Nat → Bool
  tries : Nat → CsockTries
  flipBackAnswer : Int
  destPort : Nat
  destAddr : Nat

namespace CsockTriesEnv

/- The answers that the search for a descriptor goes by. -/
def scan (env : CsockTriesEnv) (blocking : Bool) :
    CsockScan where
  usage := env.usage
  answer := fun i => csockTryAgain blocking
    (env.tries i).retries (env.tries i).answer

def settle (env : CsockTriesEnv) (blocking : Bool) :
    CsockAcceptEnv where
  memory := env.memory
  content := env.content
  flipAnswer := env.flipAnswer
  scan := env.scan blocking
  flipBackAnswer := env.flipBackAnswer
  destPort := env.destPort
  destAddr := env.destAddr

end CsockTriesEnv

/- `__csock_accept` from the switch of the mode on -/
def csockServeDriven
    (env : CsockTriesEnv)
    (lsd : LsckSocket)
    (p np : Ptr)
    (ncsock : Option Ptr) : DriverExec Int := do
  let _ ←
    (if lsd.blocking then
      csockIoctlDriven env.flipAnswer p 1
     else pure 0)
  beside (modifyCsock ncsock fun _ => ⟨-1⟩)
  let _ ← beside (deref Block.csock? lsd.idata)
  let (fd, ret) := csockTake (env.scan lsd.blocking)
  let _ ←
    (match fd with
     | none => pure ()
     | some i => beside (modifyCsock ncsock fun _ => ⟨i⟩))
  let _ ←
    (if lsd.blocking then
      csockIoctlDriven env.flipBackAnswer p 0
     else pure 0)
  if ret ≠ 0 then
    beside (failCsock ret)
  else do
    beside (setPeername np
      (sockaddrIn env.destPort env.destAddr) sockaddrInSize)
    return 0

/- `__csock_accept` -/
def csockAcceptDriven
    (env : CsockTriesEnv)
    (p np : Ptr) : DriverExec Int := do
  let lsd ← beside (derefSocket p)
  let nsd ← beside (derefSocket np)
  if nsd.peernamelen < sockaddrInSize then
    beside (fail .EINVAL)
  else do
    let ncsock ← beside (malloc env.memory
      (.csock env.content))
    beside (modifySocket np fun nsd =>
      { nsd with idata := ncsock })
    if lsd.idata = none then
      beside (fail .ENOMEM)
    else
      csockServeDriven env lsd p np ncsock

------------------------------------------------------------
-- Receiving And Connecting
------------------------------------------------------------

/- `__csock_recvfrom` -/
def csockRecvfromDriven
    (env : CsockRecvEnv)
    (p : Ptr)
    (flags : Nat)
    (source : Bool)
    (fromlen : Option Nat) : DriverExec Received := do
  let lsd ← beside (derefSocket p)
  let _ ← beside (deref Block.csock? lsd.idata)
  if source ∧ fromlen.getD 0 < sockaddrInSize then
    beside (failReceive .EINVAL)
  else if flags ≠ 0 ∧ flags ≠ msgPeek then
    beside (failReceive .EINVAL)
  else do
    when (env.version < 1) (do
      let _ ← csockIoctlDriven env.flipAnswer p
        (if lsd.blocking then 1 else 0))
    when (env.version < 1) (do
      let _ ← csockIoctlDriven env.flipBackAnswer p
        (if lsd.blocking then 0 else 1))
    beside (csockReceived env (if source then
      some (sockaddrIn env.port env.address ++
        List.ofFn env.junk)
    else
      none))

/- The driver's answers to the two calls of a wait. -/
structure WsockWaitEnv where
  setup : UInt16
  cleanup : UInt16
deriving DecidableEq, Repr

/-
  `__wsock_select_wait` with both of its calls; the loop in
  between looks at the status block until the wait is over.
-/
def wsockSelectWaits (env : WsockWaitEnv) : Exec Int := do
  callVxd env.setup
  if vxdFails env.setup then
    return -1
  else do
    callVxd env.cleanup
    if vxdFails env.cleanup then
      return -1
    else
      return 1

structure WsockWaitsEnv where
  flip : WsockIoctlEnv
  code : UInt16
  wait : WsockWaitEnv
  flipBack : WsockIoctlEnv
deriving DecidableEq, Repr

/- `__wsock_connect` -/
def wsockConnectDriven
    (env : WsockWaitsEnv)
    (p : Ptr) : DriverExec Int := do
  let lsd ← beside (derefSocket p)
  let _ ← beside (deref Block.wsock? lsd.idata)
  if lsd.blocking then do
    let (_, flag) ← wsockIoctlDriven env.flip p 1
    beside (callVxd env.code)
    let s ← beside get
    if env.code ≠ 0 ∧ s.errno ≠ .EWOULDBLOCK ∧
        s.errno ≠ .EINPROGRESS then do
      let _ ← wsockIoctlDriven env.flipBack p
        (if flag = 0 then 1 else 0)
      return -1
    else do
      let _ ← beside (wsockSelectWaits env.wait)
      let _ ← wsockIoctlDriven env.flipBack p
        (if flag = 0 then 1 else 0)
      return 0
  else do
    beside (callVxd env.code)
    if vxdFails env.code then
      return -1
    else
      return 0

------------------------------------------------------------
-- Without The Mode Of The Driver
------------------------------------------------------------

theorem csockTryAgain_settled
    {retries : Nat}
    {answer : Int} :
    csockTryAgain true retries answer = answer := by
  induction retries with
  | zero => rfl
  | succ retries ih => exact ih

/- A blocking search does not end with that answer. -/
theorem csockScan_settled
    {scan : CsockScan}
    (hSettled : ∀ i, scan.answer i ≠ -csockErrWouldBlock)
    {remaining i : Nat}
    {ret : Int}
    (hRet : ret ≠ -csockErrWouldBlock) :
    (csockScan scan remaining i ret).2 ≠
      -csockErrWouldBlock := by
  induction remaining generalizing i ret with
  | zero => exact hRet
  | succ remaining ih =>
      unfold csockScan
      split
      · exact ih hRet
      · split
        · exact (by decide : (0 : Int) ≠ -csockErrWouldBlock)
        · split
          · exact hSettled i
          · exact ih (hSettled i)

theorem csockTake_settled
    (env : CsockTriesEnv)
    {blocking : Bool} :
    ¬ (blocking ∧
      (csockTake (env.scan blocking)).2 =
        -csockErrWouldBlock) := by
  rintro ⟨hBlocking, hRet⟩
  cases hBlocking
  apply csockScan_settled ?_ ?_ hRet
  · intro i
    change csockTryAgain true _ _ ≠ _
    rw [csockTryAgain_settled]
    exact (env.tries i).settled
  · decide

theorem erases_csockServe
    (env : CsockTriesEnv)
    (lsd : LsckSocket)
    (p np : Ptr)
    (ncsock : Option Ptr) :
    Erases (csockServeDriven env lsd p np ncsock)
      (csockServe (env.settle lsd.blocking) lsd p np
        ncsock) := by
  have hWaits := @csockTake_settled env lsd.blocking
  unfold csockServeDriven csockServe
  simp only [CsockTriesEnv.settle]
  apply Erases.bind ((erases_csockIoctl _ _ _).ite
    (erases_pure 0))
  intro _
  apply Erases.bind (erases_beside _)
  intro _
  apply Erases.bind (erases_beside _)
  intro _
  apply Erases.skip hWaits
  apply Erases.bind
  · generalize (csockTake (env.scan lsd.blocking)).1 = fd
    cases fd with
    | none => exact erases_pure ()
    | some i => exact erases_beside _
  · intro _
    apply Erases.bind ((erases_csockIoctl _ _ _).ite
      (erases_pure 0))
    intro _
    apply (erases_beside _).ite
    apply Erases.bind (erases_beside _)
    intro _
    exact erases_pure 0

/-
  The retries are over when the earlier model's search sees
  its answers.
-/
theorem outcome_csockAccept
    (env : CsockTriesEnv)
    {p : Ptr}
    (np : Ptr)
    {t : Process × Bool}
    {d : LsckSocket}
    (hSocket : t.1.heap p = some (.socket d)) :
    outcome (csockAcceptDriven env p np t) =
      csockAccept (env.settle d.blocking) p np t.1 := by
  unfold csockAcceptDriven csockAccept
  rw [run_bind_ok (run_beside (derefSocket_run hSocket) _),
    run_bind_ok (derefSocket_run hSocket)]
  refine Erases.run ?_ t
  apply Erases.bind (erases_beside _)
  intro nsd
  apply (erases_beside _).ite
  apply Erases.bind (erases_beside _)
  intro ncsock
  apply Erases.bind (erases_beside _)
  intro _
  apply (erases_beside _).ite
  exact erases_csockServe env d p np ncsock

theorem erases_csockRecvfrom
    (env : CsockRecvEnv)
    (p : Ptr)
    (flags : Nat)
    (source : Bool)
    (fromlen : Option Nat) :
    Erases (csockRecvfromDriven env p flags source fromlen)
      (csockRecvfrom env p flags source fromlen) := by
  unfold csockRecvfromDriven csockRecvfrom
  apply Erases.bind (erases_beside _)
  intro lsd
  apply Erases.bind (erases_beside _)
  intro _
  apply (erases_beside _).ite
  apply (erases_beside _).ite
  apply Erases.bind
  · apply erases_when
    apply Erases.bind (erases_csockIoctl _ _ _)
    intro _
    exact erases_pure ()
  · intro _
    apply Erases.bind
    · apply erases_when
      apply Erases.bind (erases_csockIoctl _ _ _)
      intro _
      exact erases_pure ()
    · intro _
      exact erases_beside _

/- The last error that the two calls of a wait report. -/
def WsockWaitEnv.code (env : WsockWaitEnv) : UInt16 :=
  if vxdFails env.setup ∨ env.cleanup = 0 then
    env.setup
  else
    env.cleanup

def WsockWaitsEnv.settle (env : WsockWaitsEnv) :
    WsockConnectEnv where
  flip := env.flip
  code := env.code
  waitCode := env.wait.code
  flipBack := env.flipBack

/- The error number after a call of the driver. -/
def vxdErrno (code : UInt16) (e : Errno) : Errno :=
  if code = 0xffff then .EAGAIN
  else if code ≠ 0 then wsockErrno code
  else e

theorem callVxd_run (code : UInt16) (s : Process) :
    callVxd code s =
      .ok ((), { s with errno := vxdErrno code s.errno }) := by
  unfold callVxd vxdErrno
  split
  · rfl
  · split
    · rfl
    · rfl

theorem vxdErrno_of_ne
    {code : UInt16}
    (hCode : code ≠ 0)
    (e e' : Errno) :
    vxdErrno code e = vxdErrno code e' := by
  simp only [vxdErrno, if_pos hCode]

/- A wait leaves what its last error leaves. -/
theorem wsockSelectWaits_bind
    {α : Type}
    (env : WsockWaitEnv)
    (rest : Exec α) :
    (wsockSelectWaits env >>= fun _ => rest) =
      (wsockSelectWait env.code >>= fun _ => rest) := by
  have hWait : ∀ code s, ∃ r, wsockSelectWait code s =
      .ok (r, { s with errno := vxdErrno code s.errno }) := by
    intro code s
    unfold wsockSelectWait
    rw [run_bind_ok (callVxd_run code s)]
    split
    · exact ⟨_, rfl⟩
    · exact ⟨_, rfl⟩
  funext s
  obtain ⟨r, hRun⟩ := hWait env.code s
  rw [run_bind_ok hRun]
  by_cases hSetup : vxdFails env.setup = true
  · have hFull : wsockSelectWaits env s = .ok (-1,
        { s with errno := vxdErrno env.setup s.errno }) := by
      unfold wsockSelectWaits
      rw [run_bind_ok (callVxd_run _ _), if_pos hSetup]
      rfl
    rw [run_bind_ok hFull, WsockWaitEnv.code,
      if_pos (.inl hSetup)]
  · have hFull : ∃ r', wsockSelectWaits env s = .ok (r',
        { s with
          errno := vxdErrno env.cleanup
            (vxdErrno env.setup s.errno) }) := by
      unfold wsockSelectWaits
      rw [run_bind_ok (callVxd_run _ _), if_neg hSetup,
        run_bind_ok (callVxd_run _ _)]
      split
      · exact ⟨_, rfl⟩
      · exact ⟨_, rfl⟩
    obtain ⟨r', hFull⟩ := hFull
    rw [run_bind_ok hFull, WsockWaitEnv.code]
    by_cases hClean : env.cleanup = 0
    · rw [if_pos (.inr hClean), hClean]
      rfl
    · rw [if_neg (not_or.mpr ⟨hSetup, hClean⟩),
        vxdErrno_of_ne hClean (vxdErrno env.setup s.errno)]

theorem erases_wsockConnect
    (env : WsockWaitsEnv)
    (p : Ptr) :
    Erases (wsockConnectDriven env p)
      (wsockConnect env.settle p) := by
  unfold wsockConnectDriven wsockConnect
  simp only [WsockWaitsEnv.settle, ← wsockSelectWaits_bind]
  apply Erases.bind (erases_beside _)
  intro lsd
  apply Erases.bind (erases_beside _)
  intro _
  apply Erases.ite
  · apply Erases.bind (erases_wsockIoctl _ _ _)
    intro flag
    apply Erases.bind (erases_beside _)
    intro _
    apply Erases.bind (erases_beside _)
    intro s
    apply Erases.ite
    · apply Erases.bind (erases_wsockIoctl _ _ _)
      intro _
      exact erases_pure _
    · apply Erases.bind (erases_beside _)
      intro _
      apply Erases.bind (erases_wsockIoctl _ _ _)
      intro _
      exact erases_pure _
  · apply Erases.bind (erases_beside _)
    intro _
    exact (erases_pure _).ite (erases_pure _)

end Libsocket
