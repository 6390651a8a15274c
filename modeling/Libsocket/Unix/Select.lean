import Libsocket.Unix.Peers

/-
  Readiness: `selectsocket` and the request `FIONREAD` on a
  Unix socket, through the ready case of the mailslot
  extension.

  Main declarations:
    * `mailslotReady`, `select`
    * `selectsocket`, `ioctlFionread`
    * `ReadinessAgrees`, `Unready`
    * `readiness_iff`
-/

namespace Libsocket

open Command

------------------------------------------------------------
-- Mailslots
------------------------------------------------------------

/-
  What is behind the numbers: whether LAN Manager answers a
  query, and what `select` and `ioctl` find of descriptors
  that are no mailslots. `driver` is the answer of the other
  two interfaces.
-/
structure SelectEnv where
  writable : Bool
  infoErrno : Option Errno
  other : Fd → Int → Bool
  otherIoctl : Fd → Int → Int × Int
  driver : Int

/- `nextlen` and `queued` of a `MAILSLOT_INFO`. -/
structure MailslotInfo where
  nextlen : Nat
  queued : Nat
deriving DecidableEq, Repr

/- `__mailslot_info`, or none for `-1`. -/
def mailslotInfo
    (env : SelectEnv)
    (handle : Option Bytes) : Exec (Option MailslotInfo) := do
  match handle with
  | none => do
      setErrno .EINVAL
      return none
  | some name =>
      match env.infoErrno with
      | some e => do
          setErrno e
          return none
      | none => do
          let s ← get
          let queue := s.mail name
          return some ⟨nextLength queue, queue.length⟩

/- `__FSEXT_get_data`; no number below 0 has any. -/
def getData (s : Process) (fd : Fd) : Option FsextData :=
  if fd < 0 then none else (s.fds fd).data

/- `FD_READ` and `FD_WRITE` -/
def fdRead : Int := 1
def fdWrite : Int := 2

/-
  The bits `__FSEXT_ready_read` and `__FSEXT_ready_write` of
  the answer, asked for by event.
-/
structure Ready where
  read : Bool
  write : Bool
deriving DecidableEq, Repr

def Ready.tells (ready : Ready) (event : Int) : Bool :=
  if event = fdRead then ready.read
  else if event = fdWrite then ready.write
  else false

/- What the ready case answers about a descriptor. -/
def mailslotReady
    (env : SelectEnv)
    (fd : Fd) : Exec Ready := do
  let s ← get
  match getData s fd with
  | none => do
      setErrno .EBADF
      return ⟨false, false⟩
  | some (.lsd _) => fault
  | some (.mailslot me) =>
      match me.handle with
      | none => return ⟨false, me.name.isSome⟩
      | some handle => do
          let mi ← mailslotInfo env (some handle)
          return ⟨mi.any (0 < ·.queued), me.name.isSome⟩

/-
  The ready case of `__mailslot_handler`. Unlike the other
  cases it does not take the descriptor from its arguments:
  `fd` keeps its first value.
-/
def mailslotReadyCase
    (env : SelectEnv)
    (_args : Fd) : Exec Ready :=
  mailslotReady env (-1)

------------------------------------------------------------
-- Selecting
------------------------------------------------------------

/- Whether a member of a set answers ready. -/
def readyFd
    (env : SelectEnv)
    (event : Int)
    (fd : Fd) : Exec Bool := do
  let s ← get
  match (s.fds fd).function with
  | some .mailslotHandler => do
      let ready ← mailslotReadyCase env fd
      return ready.tells event
  | _ => return env.other fd event

/- `select`: the number of members that answer ready. -/
def select
    (env : SelectEnv)
    (event : Int) : List Fd → Exec Int
| [] => return 0
| fd :: fds => do
    let ready ← readyFd env event fd
    let n ← select env event fds
    return if ready then n + 1 else n

/- The members of the set that an event is asked with. -/
def selectSet
    (usock : LsckSocketUnix)
    (event : Int) : List Fd :=
  if event = fdRead then [usock.fdR]
  else if event = fdWrite then [usock.fdW]
  else [usock.fdW, usock.fdR]

/-
  `__unix_select`. `FD_SET` of a number below 0 writes in
  front of the set.
-/
def unixSelect
    (env : SelectEnv)
    (p : Ptr)
    (event : Int) : Exec Int := do
  let lsd ← derefSocket p
  let usock ← deref Block.unix? lsd.idata
  let fds := selectSet usock event
  if fds.all (0 ≤ ·) then do
    let ret ← select env event fds
    return if ret > 0 then 1 else ret
  else
    fault

/- The callback `select` -/
def interfaceSelect
    (env : SelectEnv)
    (i : Interface)
    (p : Ptr)
    (event : Int) : Exec Int :=
  match i with
  | .unix => unixSelect env p event
  | _ => return env.driver

/- `selectsocket` -/
def selectsocket
    (env : SelectEnv)
    (s : Fd)
    (event : Int) : Exec Int := do
  let found ← enter env.writable s
  match found with
  | none => return -1
  | some p => do
      let lsd ← derefSocket p
      let i ← interfaceOf lsd
      interfaceSelect env i p event

------------------------------------------------------------
-- How Much There Is To Read
------------------------------------------------------------

/-
  `ioctl` with request `FIONREAD`: what it returns, and what
  it leaves in its parameter.
-/
def fionreadFd
    (env : SelectEnv)
    (fd : Fd)
    (param : Int) : Exec (Int × Int) := do
  let s ← get
  match (s.fds fd).function with
  | some .mailslotHandler =>
      match getData s fd with
      | none => do
          setErrno .EBADF
          return (-1, param)
      | some (.lsd _) => fault
      | some (.mailslot me) => do
          let mi ← mailslotInfo env me.handle
          match mi with
          | none => return (-1, param)
          | some info => return (0, info.nextlen)
  | _ => return env.otherIoctl fd param

/- `__unix_ioctl` for `FIONREAD` -/
def unixFionread
    (env : SelectEnv)
    (p : Ptr)
    (param : Int) : Exec (Int × Int) := do
  let lsd ← derefSocket p
  let usock ← deref Block.unix? lsd.idata
  fionreadFd env usock.fdW param

/- The callback `ioctl` for `FIONREAD` -/
def interfaceFionread
    (env : SelectEnv)
    (i : Interface)
    (p : Ptr)
    (param : Int) : Exec (Int × Int) :=
  match i with
  | .unix => unixFionread env p param
  | _ => return (env.driver, param)

/- `ioctlsocket` with request `FIONREAD` -/
def ioctlFionread
    (env : SelectEnv)
    (s : Fd)
    (param : Int) : Exec (Int × Int) := do
  let found ← enter env.writable s
  match found with
  | none => return (-1, param)
  | some p => do
      let lsd ← derefSocket p
      let i ← interfaceOf lsd
      interfaceFionread env i p param

------------------------------------------------------------
-- What Should Hold
------------------------------------------------------------

/-
  Only descriptors are asked, the answers are those of the
  two mailslots, and the length is there when they say so.
-/
structure ReadinessAgrees
    (env : SelectEnv)
    (s : Process)
    (fd : Fd)
    (usock : LsckSocketUnix) : Prop where
  sets : ∀ event n, n ∈ selectSet usock event → 0 ≤ n
  read : answer (selectsocket env fd fdRead) s = some 1 ↔
    ∃ m, s.ReadsFrom usock.fdR m ∧ s.mail m ≠ []
  write : answer (selectsocket env fd fdWrite) s = some 1 ↔
    ∃ m, s.WritesTo usock.fdW m
  count : ∀ m param, s.ReadsFrom usock.fdR m →
    ∃ n, answer (ioctlFionread env fd param) s =
        some (0, n) ∧
      (0 < n ↔
        answer (selectsocket env fd fdRead) s = some 1)

/- What `select` finds of a number that is no mailslot. -/
def SelectEnv.finds
    (env : SelectEnv)
    (s : Process)
    (event : Int)
    (fd : Fd) : Bool :=
  (s.fds fd).function != some .mailslotHandler &&
    env.other fd event

/-
  The socket has two descriptors, but no mailslot to write
  to. Nothing is queued where it reads, and whatever else is
  behind the numbers has nothing to report.
-/
structure Unready
    (env : SelectEnv)
    (s : Process)
    (usock : LsckSocketUnix) : Prop where
  fdR : 0 ≤ usock.fdR
  fdW : 0 ≤ usock.fdW
  noWrite : ∀ m, ¬ s.WritesTo usock.fdW m
  empty : ∀ m, s.ReadsFrom usock.fdR m → s.mail m = []
  otherR : env.finds s fdRead usock.fdR = false
  otherW : env.finds s fdWrite usock.fdW = false
  count : ∀ m param, s.ReadsFrom usock.fdR m →
    ∃ n, answer (fionreadFd env usock.fdW param) s =
      some (0, n) ∧ n ≤ 0

------------------------------------------------------------
-- The Ready Case
------------------------------------------------------------

/- Whatever the arguments are, nothing is ready. -/
theorem mailslotReadyCase_run
    (env : SelectEnv)
    (fd : Fd)
    (s : Process) :
    mailslotReadyCase env fd s = .ok (⟨false, false⟩,
      { s with errno := Errno.EBADF }) := by
  unfold mailslotReadyCase mailslotReady
  rw [run_bind_ok (run_get s)]
  rfl

theorem readyFd_run
    (env : SelectEnv)
    (event : Int)
    (fd : Fd)
    (s : Process) :
    ∃ e, readyFd env event fd s =
      .ok (env.finds s event fd, { s with errno := e }) := by
  unfold readyFd
  rw [run_bind_ok (run_get s)]
  unfold SelectEnv.finds
  cases hFunction : (s.fds fd).function with
  | none => exact ⟨s.errno, rfl⟩
  | some handler =>
      cases handler with
      | lsckSocketFsext => exact ⟨s.errno, rfl⟩
      | mailslotHandler =>
          have hSays : Ready.tells ⟨false, false⟩ event =
              false := by
            simp [Ready.tells]
          refine ⟨Errno.EBADF, ?_⟩
          dsimp only
          rw [run_bind_ok (mailslotReadyCase_run env fd s),
            hSays]
          rfl

/- An answer for a set with one member. -/
theorem select_one
    (env : SelectEnv)
    (event : Int)
    (fd : Fd)
    (s : Process) :
    ∃ e, select env event [fd] s =
      .ok (if env.finds s event fd then 1 else 0,
        { s with errno := e }) := by
  rcases readyFd_run env event fd s with ⟨e, hReady⟩
  refine ⟨e, ?_⟩
  unfold select
  rw [run_bind_ok hReady]
  cases env.finds s event fd <;> rfl

/- How a call enters a Unix socket. -/
theorem enter_unix
    {s : Process}
    {fd : Fd}
    {p : Ptr}
    {lsd : LsckSocket}
    (hLeads : s.LeadsTo fd p)
    (hSocket : s.heap p = some (.socket lsd))
    (hUnix : lsd.interface = some .unix)
    (writable : Bool) :
    enter writable fd s = .ok (some p, s) := by
  have hFound : fdToLsd fd s = .ok (some p, s) := by
    unfold fdToLsd
    rw [run_bind_ok (run_get s),
      if_pos (by simp [fdIsSocket, hLeads.1]), hLeads.2]
    rfl
  have hInterface : interfaceOf lsd s =
      .ok (Interface.unix, s) := by
    unfold interfaceOf
    rw [hUnix]
    rfl
  unfold enter
  rw [run_bind_ok hFound]
  dsimp only
  rw [run_bind_ok (derefSocket_run hSocket),
    run_bind_ok hInterface,
    run_bind_ok (modifySocket_run hSocket)]
  have hSame := Process.check_unix hSocket hUnix writable
  unfold Process.check at hSame
  rw [hSame]
  rfl

section Socket

variable {s : Process} {fd : Fd} {p : Ptr}
variable {lsd : LsckSocket} {usock : LsckSocketUnix}

/- What a call on a Unix socket hands to the interface. -/
theorem prologue_unix
    {α : Type}
    (hLeads : s.LeadsTo fd p)
    (hSocket : s.heap p = some (.socket lsd))
    (hUnix : lsd.interface = some .unix)
    (writable : Bool)
    (x : α)
    (rest : Ptr → Interface → Exec α) :
    (do
      let found ← enter writable fd
      match found with
      | none => return x
      | some p => do
          let lsd ← derefSocket p
          let i ← interfaceOf lsd
          rest p i) s = rest p .unix s := by
  have hInterface : interfaceOf lsd s =
      .ok (Interface.unix, s) := by
    unfold interfaceOf
    rw [hUnix]
    rfl
  rw [run_bind_ok (enter_unix hLeads hSocket hUnix writable)]
  dsimp only
  rw [run_bind_ok (derefSocket_run hSocket),
    run_bind_ok hInterface]

/- Asking for one event, when there is a descriptor. -/
theorem unixSelect_one
    {env : SelectEnv}
    {event : Int}
    {n : Fd}
    (hData : s.HasUnix p lsd usock)
    (hSet : selectSet usock event = [n]) :
    answer (unixSelect env p event) s = some 1 ↔
      0 ≤ n ∧ env.finds s event n = true := by
  rcases hData with ⟨hSocket, q, hQ, hB⟩
  have hDeref : deref Block.unix? lsd.idata s =
      .ok (usock, s) := by
    simp [deref, run_bind, hQ, hB, Block.unix?]
  have hRun : unixSelect env p event s =
      (if 0 ≤ n then (do
        let ret ← select env event [n]
        return if ret > 0 then 1 else ret)
      else fault : Exec Int) s := by
    unfold unixSelect
    rw [run_bind_ok (derefSocket_run hSocket),
      run_bind_ok hDeref, hSet]
    simp
  unfold answer
  rw [hRun]
  by_cases hNumber : 0 ≤ n
  · rcases select_one env event n s with ⟨e, hSelect⟩
    rw [if_pos hNumber, run_bind_ok hSelect]
    cases hFinds : env.finds s event n with
    | true => simp [hNumber]
    | false => simp
  · rw [if_neg hNumber]
    simp [fault, hNumber]

/- A mailslot is never found ready. -/
theorem finds_mailslot
    {env : SelectEnv}
    {event : Int}
    {n : Fd}
    {me : MailslotFsext}
    (hMail : s.HasMailslot n me) :
    env.finds s event n = false := by
  unfold SelectEnv.finds
  rw [hMail]
  rfl

/- Neither a mailslot that is read nor one written to. -/
theorem finds_readsFrom
    {env : SelectEnv}
    {event : Int}
    {n : Fd}
    {m : Bytes}
    (hReads : s.ReadsFrom n m) :
    env.finds s event n = false := by
  rcases hReads with ⟨me, hMail, -⟩
  exact finds_mailslot hMail

theorem finds_writesTo
    {env : SelectEnv}
    {event : Int}
    {n : Fd}
    {m : Bytes}
    (hWrites : s.WritesTo n m) :
    env.finds s event n = false := by
  rcases hWrites with ⟨me, name, hMail, -⟩
  exact finds_mailslot hMail

/- A select of one set finds its number, or does not. -/
theorem selectsocket_one
    {event : Int}
    {n : Fd}
    (hLeads : s.LeadsTo fd p)
    (hData : s.HasUnix p lsd usock)
    (hUnix : lsd.interface = some .unix)
    (env : SelectEnv)
    (hSet : selectSet usock event = [n]) :
    answer (selectsocket env fd event) s = some 1 ↔
      0 ≤ n ∧ env.finds s event n = true := by
  have hSame : selectsocket env fd event s =
      unixSelect env p event s :=
    prologue_unix hLeads hData.socket hUnix _ _ _
  unfold answer
  rw [hSame]
  exact unixSelect_one hData hSet

/- The count is taken where the socket writes. -/
theorem ioctlFionread_unix
    {param : Int}
    (hLeads : s.LeadsTo fd p)
    (hData : s.HasUnix p lsd usock)
    (hUnix : lsd.interface = some .unix)
    {env : SelectEnv} :
    answer (ioctlFionread env fd param) s =
      answer (fionreadFd env usock.fdW param) s := by
  have hSame : ioctlFionread env fd param s =
      unixFionread env p param s :=
    prologue_unix hLeads hData.socket hUnix _ _ _
  unfold answer
  rw [hSame]
  unfold unixFionread
  rw [run_bind_ok (derefSocket_run hData.socket),
    run_bind_ok (derefUnix_run hData)]

/- A set has the two numbers of the socket and no others. -/
theorem mem_selectSet
    {event : Int}
    {n : Fd}
    (hMem : n ∈ selectSet usock event) :
    n = usock.fdR ∨ n = usock.fdW := by
  unfold selectSet at hMem
  split at hMem
  · exact .inl (List.mem_singleton.mp hMem)
  · split at hMem
    · exact .inr (List.mem_singleton.mp hMem)
    · rcases List.mem_cons.mp hMem with hW | hR
      · exact .inr hW
      · exact .inl (List.mem_singleton.mp hR)

/-
  The readiness of a Unix socket is what it should be if and
  only if the socket has no mailslot to write to, nothing is
  queued for it, and there is nothing else to report.
-/
theorem readiness_iff
    (hLeads : s.LeadsTo fd p)
    (hData : s.HasUnix p lsd usock)
    (hUnix : lsd.interface = some .unix)
    (env : SelectEnv) :
    ReadinessAgrees env s fd usock ↔
      Unready env s usock := by
  have hRead : answer (selectsocket env fd fdRead) s = some 1 ↔
      0 ≤ usock.fdR ∧ env.finds s fdRead usock.fdR = true :=
    selectsocket_one hLeads hData hUnix env rfl
  have hWrite : answer (selectsocket env fd fdWrite) s =
      some 1 ↔
        0 ≤ usock.fdW ∧ env.finds s fdWrite usock.fdW = true :=
    selectsocket_one hLeads hData hUnix env rfl
  constructor
  · intro hAgrees
    have hNumberR : 0 ≤ usock.fdR :=
      hAgrees.sets fdRead usock.fdR List.mem_cons_self
    have hNumberW : 0 ≤ usock.fdW :=
      hAgrees.sets fdWrite usock.fdW List.mem_cons_self
    have hQuiet : ∀ m, s.ReadsFrom usock.fdR m →
        ¬ answer (selectsocket env fd fdRead) s =
          some 1 := by
      intro m hReads hReady
      have hFinds := (hRead.mp hReady).2
      rw [finds_readsFrom hReads] at hFinds
      cases hFinds
    constructor
    · exact hNumberR
    · exact hNumberW
    · intro m hWrites
      have hReady := hAgrees.write.mpr ⟨m, hWrites⟩
      have hFinds := (hWrite.mp hReady).2
      rw [finds_writesTo hWrites] at hFinds
      cases hFinds
    · intro m hReads
      by_contra hQueued
      exact hQuiet m hReads
        (hAgrees.read.mpr ⟨m, hReads, hQueued⟩)
    · by_contra hFinds
      have hReady := hRead.mpr
        ⟨hNumberR, by simpa using hFinds⟩
      rcases hAgrees.read.mp hReady with ⟨m, hReads, -⟩
      exact hQuiet m hReads hReady
    · by_contra hFinds
      have hReady := hWrite.mpr
        ⟨hNumberW, by simpa using hFinds⟩
      rcases hAgrees.write.mp hReady with ⟨m, hWrites⟩
      exact hFinds (finds_writesTo hWrites)
    · intro m param hReads
      rcases hAgrees.count m param hReads with
        ⟨n, hAnswer, hPositive⟩
      rw [ioctlFionread_unix hLeads hData hUnix] at hAnswer
      refine ⟨n, hAnswer, ?_⟩
      by_contra hMore
      exact hQuiet m hReads (hPositive.mp (by omega))
  · intro hUnready
    have hNotRead :
        ¬ answer (selectsocket env fd fdRead) s =
          some 1 := by
      intro hReady
      have hFinds := (hRead.mp hReady).2
      rw [hUnready.otherR] at hFinds
      cases hFinds
    constructor
    · intro event n hMem
      rcases mem_selectSet hMem with rfl | rfl
      · exact hUnready.fdR
      · exact hUnready.fdW
    · constructor
      · intro hReady
        exact absurd hReady hNotRead
      · rintro ⟨m, hReads, hQueued⟩
        exact absurd (hUnready.empty m hReads) hQueued
    · constructor
      · intro hReady
        have hFinds := (hWrite.mp hReady).2
        rw [hUnready.otherW] at hFinds
        cases hFinds
      · rintro ⟨m, hWrites⟩
        exact absurd hWrites (hUnready.noWrite m)
    · intro m param hReads
      rcases hUnready.count m param hReads with
        ⟨n, hAnswer, hNone⟩
      refine ⟨n, ?_, ?_⟩
      · rw [ioctlFionread_unix hLeads hData hUnix]
        exact hAnswer
      · constructor
        · intro hSome
          omega
        · intro hReady
          exact absurd hReady hNotRead

end Socket

/- Nothing but mailslots, and LAN Manager answers. -/
def SelectEnv.quiet : SelectEnv where
  writable := false
  infoErrno := none
  other := fun _ _ => false
  otherIoctl := fun _ param => (-1, param)
  driver := 0

/- A listener that has no mailslot to write to. -/
theorem listener_readiness :
    ¬ ReadinessAgrees .quiet serverProcess 3
      listenerData := by
  have hData : serverProcess.HasUnix 10 listenerSocket
      listenerData := by
    constructor
    · exact Process.socket?_eq_some.mp (by decide +kernel)
    · exact ⟨11, by decide +kernel, by decide +kernel⟩
  intro hAgrees
  have hUnready := (readiness_iff
    ⟨by decide +kernel, by decide +kernel⟩ hData
    (by decide +kernel) .quiet).mp hAgrees
  exact absurd hUnready.fdW (by decide +kernel)

/- A message is waiting for the listener. -/
def askedProcess : Process :=
  afterCalls [unixStreamCall, .bind (.opening 4) 3
    (some serverAddress) sockaddrMaxSize,
    .listen .granting 3 5,
    .arrive (bytes "\\mailslot\\srv") clientRequest.encode]

/-
  It is queued in the mailslot that `fd_r` names. `FD_READ`
  is not ready, `FD_WRITE` puts the number -1 into a set, and
  `FIONREAD` fails.
-/
theorem queued_not_ready :
    lsckSystem.Reachable askedProcess ∧
      askedProcess.HasUnix 10 listenerSocket listenerData ∧
      askedProcess.ReadsFrom listenerData.fdR
        (bytes "\\mailslot\\srv") ∧
      askedProcess.mail (bytes "\\mailslot\\srv") =
        [clientRequest.encode] ∧
      answer (selectsocket .quiet 3 fdRead) askedProcess =
        some 0 ∧
      (∃ n ∈ selectSet listenerData fdWrite, n < 0) ∧
      answer (ioctlFionread .quiet 3 0) askedProcess =
        some (-1, 0) := by
  refine ⟨?_, ?_, ?_, ?_, ?_, ?_, ?_⟩
  · exact reachable_afterCalls (by decide +kernel)
  · constructor
    · exact Process.socket?_eq_some.mp (by decide +kernel)
    · exact ⟨11, by decide +kernel, by decide +kernel⟩
  · refine ⟨⟨some (bytes "\\mailslot\\srv"), none, true,
      false⟩, ?_, rfl⟩
    unfold Process.HasMailslot
    decide +kernel
  · decide +kernel
  · decide +kernel
  · refine ⟨-1, ?_, by decide⟩
    decide +kernel
  · decide +kernel

end Libsocket
