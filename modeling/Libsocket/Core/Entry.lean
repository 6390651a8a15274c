import Libsocket.Csock
import Libsocket.Unix.Callbacks

/-
  What every call does first, and the two calls that report
  names.

  Main declarations:
    * `fdToLsd`, `enter`
    * `LsckSocket.checked`
    * `Interface.protoCheck`, `Interface.addrlenCheck`
    * `getsockname`, `getpeername`
-/

namespace Libsocket

open Command

------------------------------------------------------------
-- From Descriptors To Sockets
------------------------------------------------------------

/- `__fd_is_socket` -/
def fdIsSocket (s : Process) (fd : Fd) : Bool :=
  (s.fds fd).function == some .lsckSocketFsext

/- `__fd_is_valid` -/
def fdIsValid (s : Process) (fd : Fd) : Bool :=
  (s.fds fd).function.isSome || (s.fds fd).dosOpen

/- `__fd_to_lsd` -/
def fdToLsd (fd : Fd) : Exec (Option Ptr) := do
  let s ← get
  if fdIsSocket s fd then
    match (s.fds fd).data with
    | none => return none
    | some (.lsd p) => return some p
    | some (.mailslot _) => fault
  else
    return none

/- `isfdtype (fd, S_IFSOCK)`, for the error number. -/
def isfdtype (fd : Fd) : Exec Unit := do
  let s ← get
  if fdIsValid s fd then
    return ()
  else
    setErrno .EBADF

/-
  `nonblocking_check`: a pending connect that has become
  writable is complete. An interface without this callback
  leaves the descriptor alone.
-/
def LsckSocket.checked
    (writable : Bool)
    (lsd : LsckSocket) : LsckSocket :=
  if lsd.interface.any (·.provides .nonblockingCheck) &&
      lsd.connecting && !lsd.connected && writable then
    { lsd with connecting := false, connected := true }
  else
    lsd

/- The check changes nothing, or completes a connect. -/
theorem LsckSocket.checked_cases
    (writable : Bool)
    (lsd : LsckSocket) :
    lsd.checked writable = lsd ∨
      lsd.connecting = true ∧ lsd.connected = false ∧
        lsd.checked writable =
          { lsd with connecting := false, connected := true }
    := by
  unfold checked
  split
  next hPending =>
      simp only [Bool.and_eq_true,
        Bool.not_eq_true'] at hPending
      exact .inr ⟨hPending.1.1.2, hPending.1.2, rfl⟩
  next => exact .inl rfl

/- `lsd->interface` -/
def interfaceOf (lsd : LsckSocket) : Exec Interface :=
  match lsd.interface with
  | some i => return i
  | none => fault

/-
  The prologue of a call: find the descriptor, and check for
  the completion of a pending connect.
-/
def enter
    (writable : Bool)
    (fd : Fd) : Exec (Option Ptr) := do
  let found ← fdToLsd fd
  match found with
  | none => do
      isfdtype fd
      return none
  | some p => do
      let lsd ← derefSocket p
      let _ ← interfaceOf lsd
      modifySocket p (LsckSocket.checked writable)
      return some p

/- Go on unless the parameter checks find an error. -/
def refuseOr
    (refusal : Option Errno)
    (m : Exec Int) : Exec Int :=
  match refusal with
  | some e => fail e
  | none => m

------------------------------------------------------------
-- Checks Of The Interfaces
------------------------------------------------------------

/- `proto_check` of an initialised interface. -/
def Interface.protoCheck
    (i : Interface)
    (domain type protocol : Int) : Bool :=
  match i with
  | .wsock | .csock =>
      domain == afInet &&
        (type == sockStream && protocol == ipprotoTcp ||
          type == sockDgram && protocol == ipprotoUdp)
  | .unix =>
      domain == afUnix &&
        (type == sockDgram || type == sockStream) &&
        protocol == 0

/- `addrlen_check` -/
def Interface.addrlenCheck
    (i : Interface)
    (lsd : LsckSocket)
    (addrlen : Nat) : Bool :=
  match i with
  | .wsock | .csock =>
      lsd.family == afInet &&
        (lsd.type == sockStream || lsd.type == sockDgram) &&
        sockaddrInSize ≤ addrlen
  | .unix =>
      lsd.family == afUnix &&
        (lsd.type == sockStream || lsd.type == sockDgram) &&
        sockaddrMaxSize ≤ addrlen

/- The field `sa_family` of an address. -/
def saFamily (addr : Bytes) : Int :=
  Word.ofLittleEndian (addr.take 2)

------------------------------------------------------------
-- Names
------------------------------------------------------------

/- What the interfaces report about one name. -/
structure NameEnv where
  writable : Bool
  junk : SunJunk
  csockAnswer : Int
  port : Nat
  address : Nat
  wsockCode : UInt16
  wsockName : Bytes

/- The size of the buffer shared with WSOCK.VXD. -/
def socketPSize : Nat := 4096

/- `__csock_getsockname` and `__csock_getpeername` -/
def csockName
    (env : NameEnv)
    (p : Ptr)
    (namelen : Nat) : Exec (Option (Bytes × Nat)) := do
  let lsd ← derefSocket p
  let _ ← deref Block.csock? lsd.idata
  if namelen < sockaddrInSize then do
    setErrno .ENOBUFS
    return none
  else if env.csockAnswer ≠ 0 then do
    let _ ← failCsock env.csockAnswer
    return none
  else
    return some
      (sockaddrIn env.port env.address, sockaddrInSize)

/- `__wsock_getsockname` and `__wsock_getpeername` -/
def wsockName
    (env : NameEnv)
    (p : Ptr)
    (namelen : Nat) : Exec (Option (Bytes × Nat)) := do
  let lsd ← derefSocket p
  let _ ← deref Block.wsock? lsd.idata
  if namelen + 12 > socketPSize then do
    setErrno .ENOBUFS
    return none
  else do
    callVxd env.wsockCode
    if vxdFails env.wsockCode then
      return none
    else
      return some (env.wsockName, env.wsockName.length)

/- The callback `getsockname` -/
def interfaceGetsockname
    (i : Interface)
    (env : NameEnv)
    (p : Ptr)
    (namelen : Nat) : Exec (Option (Bytes × Nat)) :=
  match i with
  | .wsock => wsockName env p namelen
  | .csock => csockName env p namelen
  | .unix => do
      let name ← unixGetsockname env.junk p namelen
      return some (name, name.length)

/- The callback `getpeername` -/
def interfaceGetpeername
    (i : Interface)
    (env : NameEnv)
    (p : Ptr)
    (namelen : Nat) : Exec (Option (Bytes × Nat)) :=
  match i with
  | .wsock => wsockName env p namelen
  | .csock => csockName env p namelen
  | .unix => do
      let name ← unixGetpeername env.junk p namelen
      return some (name, name.length)

/-
  `getsockname` with both pointers given: the bytes stored
  and the length reported, or none for `-1`.
-/
def getsockname
    (env : NameEnv)
    (fd : Fd)
    (namelen : Nat) : Exec (Option (Bytes × Nat)) := do
  let found ← enter env.writable fd
  match found with
  | none => return none
  | some p => do
      let lsd ← derefSocket p
      let i ← interfaceOf lsd
      if i.provides .getsockname then
        interfaceGetsockname i env p namelen
      else do
        setErrno .EOPNOTSUPP
        return none

/- `getpeername` with both pointers given. -/
def getpeername
    (env : NameEnv)
    (fd : Fd)
    (namelen : Nat) : Exec (Option (Bytes × Nat)) := do
  let found ← enter env.writable fd
  match found with
  | none => return none
  | some p => do
      let lsd ← derefSocket p
      let i ← interfaceOf lsd
      if lsd.type = sockStream ∧ lsd.connected = false then do
        setErrno .ENOTCONN
        return none
      else if i.provides .getpeername then
        interfaceGetpeername i env p namelen
      else do
        setErrno .EOPNOTSUPP
        return none

------------------------------------------------------------
-- Frame
------------------------------------------------------------

theorem still_fdToLsd (fd : Fd) : StillCmd (fdToLsd fd) := by
  refine StillCmd.get.bind fun s => ?_
  refine StillCmd.ite ?_ (StillCmd.pure _)
  split
  · exact StillCmd.pure _
  · exact StillCmd.pure _
  · exact StillCmd.fault

theorem still_isfdtype (fd : Fd) :
    StillCmd (isfdtype fd) := by
  refine StillCmd.get.bind fun s => ?_
  exact StillCmd.ite (StillCmd.pure _) (StillCmd.setErrno _)

theorem still_interfaceOf (lsd : LsckSocket) :
    StillCmd (interfaceOf lsd) := by
  unfold interfaceOf
  split
  · exact StillCmd.pure _
  · exact StillCmd.fault

theorem still_csockName
    (env : NameEnv)
    (p : Ptr)
    (namelen : Nat) :
    StillCmd (csockName env p namelen) := by
  refine (StillCmd.derefSocket p).bind fun lsd => ?_
  refine (StillCmd.deref _ _).bind fun _ => ?_
  refine StillCmd.ite ?_ (StillCmd.ite ?_ (StillCmd.pure _))
  · exact (StillCmd.setErrno _).bind fun _ => StillCmd.pure _
  · exact (still_failCsock _).bind fun _ => StillCmd.pure _

theorem still_wsockName
    (env : NameEnv)
    (p : Ptr)
    (namelen : Nat) :
    StillCmd (wsockName env p namelen) := by
  refine (StillCmd.derefSocket p).bind fun lsd => ?_
  refine (StillCmd.deref _ _).bind fun _ => ?_
  refine StillCmd.ite ?_ ?_
  · exact (StillCmd.setErrno _).bind fun _ => StillCmd.pure _
  · refine (still_callVxd _).bind fun _ => ?_
    exact StillCmd.ite (StillCmd.pure _) (StillCmd.pure _)

theorem still_interfaceGetsockname
    (i : Interface)
    (env : NameEnv)
    (p : Ptr)
    (namelen : Nat) :
    StillCmd (interfaceGetsockname i env p namelen) := by
  cases i with
  | wsock => exact still_wsockName env p namelen
  | csock => exact still_csockName env p namelen
  | unix =>
      exact (still_unixGetsockname _ _ _).bind
        fun _ => StillCmd.pure _

theorem still_interfaceGetpeername
    (i : Interface)
    (env : NameEnv)
    (p : Ptr)
    (namelen : Nat) :
    StillCmd (interfaceGetpeername i env p namelen) := by
  cases i with
  | wsock => exact still_wsockName env p namelen
  | csock => exact still_csockName env p namelen
  | unix =>
      exact (still_unixGetpeername _ _ _).bind
        fun _ => StillCmd.pure _

------------------------------------------------------------
-- What The Prologue Does
------------------------------------------------------------

/- The descriptor that a number leads to. -/
def Process.LeadsTo
    (s : Process)
    (fd : Fd)
    (p : Ptr) : Prop :=
  (s.fds fd).function = some .lsckSocketFsext ∧
    (s.fds fd).data = some (.lsd p)

/- A descriptor is found where its extension data says. -/
theorem fdToLsd_ok
    {fd : Fd}
    {s s' : Process}
    {found : Option Ptr}
    (hRun : fdToLsd fd s = .ok (found, s')) :
    s' = s ∧ ∀ p, found = some p ↔ s.LeadsTo fd p := by
  unfold fdToLsd at hRun
  rw [run_bind_ok (run_get s)] at hRun
  by_cases hSocket : fdIsSocket s fd
  · simp only [if_pos hSocket] at hRun
    have hFunction :
        (s.fds fd).function = some .lsckSocketFsext := by
      simpa [fdIsSocket] using hSocket
    cases hData : (s.fds fd).data with
    | none =>
        rw [hData] at hRun
        cases hRun
        exact ⟨rfl, by simp [Process.LeadsTo, hData]⟩
    | some data =>
        rw [hData] at hRun
        cases data with
        | lsd q =>
            cases hRun
            exact ⟨rfl, by
              simp [Process.LeadsTo, hData, hFunction]⟩
        | mailslot _ => cases hRun
  · simp only [if_neg hSocket] at hRun
    cases hRun
    have hFunction :
        (s.fds fd).function ≠ some .lsckSocketFsext := by
      simpa [fdIsSocket] using hSocket
    exact ⟨rfl, by simp [Process.LeadsTo, hFunction]⟩

/- The interface that a descriptor must have. -/
theorem interfaceOf_ok
    {lsd : LsckSocket}
    {s s' : Process}
    {i : Interface}
    (hRun : interfaceOf lsd s = .ok (i, s')) :
    s' = s ∧ lsd.interface = some i := by
  unfold interfaceOf at hRun
  cases hInterface : lsd.interface with
  | none =>
      rw [hInterface] at hRun
      cases hRun
  | some j =>
      rw [hInterface] at hRun
      cases hRun
      exact ⟨rfl, rfl⟩

/- The state after the check on entry. -/
def Process.check
    (s : Process)
    (p : Ptr)
    (d : LsckSocket)
    (writable : Bool) : Process :=
  s.setBlock p (some (.socket (d.checked writable)))

theorem Process.socket_check
    (s : Process)
    (p : Ptr)
    (d : LsckSocket)
    (writable : Bool) :
    (s.check p d writable).heap p =
      some (.socket (d.checked writable)) := by
  simp [check]

theorem LsckSocket.checked_interface
    (writable : Bool)
    (d : LsckSocket) :
    (d.checked writable).interface = d.interface := by
  rcases d.checked_cases writable with h | h
  · rw [h]
  · rw [h.2.2]

/-
  A call enters with a descriptor that has just been
  checked, or does not enter.
-/
theorem enter_ok
    {writable : Bool}
    {fd : Fd}
    {s s' : Process}
    {found : Option Ptr}
    (hRun : enter writable fd s = .ok (found, s')) :
    (found = none ∧ (∀ p, ¬ s.LeadsTo fd p) ∧ Still s s') ∨
      ∃ p d, found = some p ∧ s.LeadsTo fd p ∧
        s.heap p = some (.socket d) ∧
        s' = s.check p d writable := by
  rcases bind_eq_ok.mp hRun with ⟨target, t, hFd, hRest⟩
  rcases fdToLsd_ok hFd with ⟨rfl, hTarget⟩
  cases target with
  | none =>
      rcases bind_eq_ok.mp hRest with ⟨_, u, hType, hPure⟩
      cases hPure
      refine .inl ⟨rfl, fun p hLeads => ?_,
        still_isfdtype fd _ _ _ hType⟩
      cases (hTarget p).mpr hLeads
  | some p =>
      rcases bind_eq_ok.mp hRest with ⟨d, u, hRead, hTail⟩
      rcases derefSocket_ok hRead with ⟨rfl, hSocket⟩
      rcases bind_eq_ok.mp hTail with ⟨i, v, hI, hLast⟩
      rcases interfaceOf_ok hI with ⟨rfl, hInterface⟩
      rcases bind_eq_ok.mp hLast with ⟨_, w, hCheck, hPure⟩
      cases hPure
      rcases modifySocket_ok hCheck with ⟨e, hSocket', rfl⟩
      rw [hSocket] at hSocket'
      cases hSocket'
      exact .inr ⟨p, d, rfl, (hTarget p).mp rfl, hSocket,
        rfl⟩

/-
  The prologue that the calls share: they give up without a
  socket, or go on with the checked descriptor and its
  interface.
-/
theorem prologue_ok
    {α : Type}
    {writable : Bool}
    {fd : Fd}
    {x r : α}
    {rest : Ptr → LsckSocket → Interface → Exec α}
    {s s' : Process}
    (hRun : (do
      let found ← enter writable fd
      match found with
      | none => return x
      | some p => do
          let lsd ← derefSocket p
          let i ← interfaceOf lsd
          rest p lsd i) s = .ok (r, s')) :
    (r = x ∧ (∀ p, ¬ s.LeadsTo fd p) ∧ Still s s') ∨
      ∃ p d i, s.LeadsTo fd p ∧
        s.heap p = some (.socket d) ∧
        d.interface = some i ∧
        rest p (d.checked writable) i
          (s.check p d writable) = .ok (r, s') := by
  rcases bind_eq_ok.mp hRun with ⟨found, t, hEnter, hTail⟩
  rcases enter_ok hEnter with ⟨rfl, hNone, hStill⟩ |
    ⟨p, d, rfl, hLeads, hSocket, rfl⟩
  · cases hTail
    exact .inl ⟨rfl, hNone, hStill⟩
  simp only [run_bind_ok (derefSocket_run
    (s.socket_check p d writable))] at hTail
  rcases bind_eq_ok.mp hTail with ⟨i, u, hI, hRest⟩
  rcases interfaceOf_ok hI with ⟨rfl, hInterface⟩
  rw [d.checked_interface] at hInterface
  exact .inr ⟨p, d, i, hLeads, hSocket, hInterface, hRest⟩

/- On a socket that is known, the call gets to its rest. -/
theorem prologue_leads
    {α : Type}
    {writable : Bool}
    {fd : Fd}
    {p : Ptr}
    {d : LsckSocket}
    {i : Interface}
    {x r : α}
    {rest : Ptr → LsckSocket → Interface → Exec α}
    {s s' : Process}
    (hLeads : s.LeadsTo fd p)
    (hSocket : s.heap p = some (.socket d))
    (hInterface : d.interface = some i)
    (hRun : (do
      let found ← enter writable fd
      match found with
      | none => return x
      | some p => do
          let lsd ← derefSocket p
          let i ← interfaceOf lsd
          rest p lsd i) s = .ok (r, s')) :
    rest p (d.checked writable) i (s.check p d writable) =
      .ok (r, s') := by
  rcases prologue_ok hRun with ⟨-, hNone, -⟩ |
    ⟨q, e, j, hLeads', hSocket', hInterface', hTail⟩
  · exact absurd hLeads (hNone p)
  cases hLeads.2.symm.trans hLeads'.2
  cases hSocket.symm.trans hSocket'
  cases hInterface.symm.trans hInterface'
  exact hTail

end Libsocket
