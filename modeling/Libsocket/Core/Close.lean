import Libsocket.Core.Drift

/-
  Closing: `closesocket`, and `close` of any descriptor.

  Closing a Unix socket closes the two descriptors that its
  data names. Either may by then belong to another socket,
  so closing is recursive; the environment says how each
  close in the tree goes.

  Main declarations:
    * `CloseEnv`
    * `closesocket`
    * `closeFd`
-/

namespace Libsocket

open Command

/- What the interfaces answer in one close. -/
structure CloseAnswer where
  writable : Bool
  write : WriteEnv
  csockAnswer : Int
  wsockCode : UInt16
deriving DecidableEq, Repr

/-
  The answers of a close and of the two closes inside it, as
  far as the call gets.
-/
inductive CloseEnv
  | leaf
  | node (answer : CloseAnswer) (r w : CloseEnv)

/- The callback `close` -/
def interfaceClose
    (closeR closeW : Fd → Exec Int)
    (answer : CloseAnswer)
    (i : Interface)
    (p : Ptr) : Exec Int :=
  match i with
  | .wsock => wsockClose p answer.wsockCode
  | .csock => csockClose p answer.csockAnswer
  | .unix => unixClose closeR closeW answer.write p

/- The first slot that holds the descriptor. -/
def slotOf (table : Nat → Option Ptr) (p : Ptr) : Option Nat :=
  (List.range lsckNumSocket).find? fun i =>
    table i == some p

/- Free a closed descriptor and its interface data. -/
def releaseSocket (p : Ptr) : Exec Unit := do
  let lsd ← derefSocket p
  free lsd.idata
  modifySocket p fun lsd => { lsd with idata := none }
  let s ← get
  match slotOf s.table p with
  | none => return ()
  | some i => do
      modify fun s => s.setSlot i none
      free (some p)

/- `closesocket` -/
def closesocket
    (closeR closeW : Fd → Exec Int)
    (answer : CloseAnswer)
    (fd : Fd) : Exec Int := do
  let found ← enter answer.writable fd
  match found with
  | none => return -1
  | some p => do
      let lsd ← derefSocket p
      let i ← interfaceOf lsd
      if i.provides .close then do
        let ret ← interfaceClose closeR closeW answer i p
        when (ret = 0) (releaseSocket p)
        return ret
      else
        fail .EOPNOTSUPP

/- `__FSEXT_set_function`, `__FSEXT_set_data`, `_close` -/
def releaseFd (fd : Fd) : Exec Unit := do
  setFunction fd none
  setData fd none
  dosClose fd

theorem releaseFd_run (fd : Fd) (s : Process) :
    releaseFd fd s =
      .ok ((), s.setEntry fd FdEntry.unused) := by
  simp [releaseFd, setFunction, setData, dosClose, run_bind,
    FdEntry.unused]

/-
  `close`: sockets and mailslots go through the close case
  of their extension, other files to DOS.
-/
def closeFd : CloseEnv → Fd → Exec Int
| .leaf, _ => stop .blocked
| .node answer r w, fd => do
    let s ← get
    match (s.fds fd).function with
    | none =>
        if (s.fds fd).dosOpen then do
          dosClose fd
          return 0
        else
          fail .EBADF
    | some .mailslotHandler => closeMailslot fd
    | some .lsckSocketFsext => do
        let rv ← closesocket (closeFd r) (closeFd w) answer fd
        when (rv = 0) (releaseFd fd)
        return rv

------------------------------------------------------------
-- Frame
------------------------------------------------------------

/- A mailslot closes without any socket noticing. -/
theorem closeMailslot_still
    {fd : Fd}
    {s s' : Process}
    {r : Int}
    (hHandler :
      (s.fds fd).function = some .mailslotHandler)
    (hRun : closeMailslot fd s = .ok (r, s')) :
    Still s s' := by
  unfold closeMailslot at hRun
  rw [run_bind_ok (run_get s)] at hRun
  cases hData : (s.fds fd).data with
  | none =>
      rw [hData] at hRun
      exact StillCmd.fail _ s r s' hRun
  | some data =>
      cases data with
      | lsd p =>
          rw [hData] at hRun
          cases hRun
      | mailslot me =>
          rw [hData] at hRun
          have hClose :
              Still s (s.setEntry fd FdEntry.unused) := by
            refine Still.setEntry ?_ ?_ ?_ ?_
            · simp [hHandler]
            · simp [FdEntry.unused]
            · simp [FdEntry.unused]
            · simp [FdEntry.unused]
          cases hHandle : me.handle with
          | none =>
              simp only [hHandle] at hRun
              cases hRun
              simpa [FdEntry.unused] using hClose
          | some handle =>
              simp only [hHandle] at hRun
              cases hRun
              have hMail := hClose.trans
                (Still.setMail _ handle [])
              simpa [FdEntry.unused] using hMail

/- The slot that is found holds the descriptor. -/
theorem slotOf_eq_some
    {table : Nat → Option Ptr}
    {p : Ptr}
    {i : Nat}
    (hFound : slotOf table p = some i) :
    InTable i ∧ table i = some p := by
  unfold slotOf at hFound
  have hMem := List.mem_of_find?_eq_some hFound
  have hSlot := List.find?_some hFound
  exact ⟨by simpa using hMem, by simpa using hSlot⟩

/- A descriptor in the table is found. -/
theorem slotOf_isSome
    {table : Nat → Option Ptr}
    {p : Ptr}
    {i : Nat}
    (hIn : InTable i)
    (hSlot : table i = some p) :
    (slotOf table p).isSome := by
  unfold slotOf
  rw [List.find?_isSome]
  exact ⟨i, by simpa using hIn, by simpa using hSlot⟩

/- Releasing a socket and its descriptor number. -/
theorem release_ok
    {p : Ptr}
    {d : LsckSocket}
    {s t s' : Process}
    (hForm : WellFormed none s)
    (hSocket : s.heap p = some (.socket d))
    (hRelease : releaseSocket p s = .ok ((), t))
    (hFd : releaseFd d.fd t = .ok ((), s')) :
    ∃ i, InTable i ∧ s.table i = some p ∧
      Removed p d i s s' := by
  rcases hForm.data p d hSocket (by simp) with
    ⟨j, q, b, hInterface, hData, hBlock, hKind⟩
  have hNe : q ≠ p := by
    rintro rfl
    rw [hSocket] at hBlock
    cases hBlock
    cases hKind
  unfold releaseSocket at hRelease
  rw [run_bind_ok (derefSocket_run hSocket)] at hRelease
  rcases bind_eq_ok.mp hRelease with ⟨_, t₁, hFree, hRest⟩
  rw [hData] at hFree
  rcases free_ok hFree with ⟨hNone, -⟩ | ⟨q', hQ, rfl⟩
  · cases hNone
  cases hQ
  rcases bind_eq_ok.mp hRest with ⟨_, t₂, hClear, hLast⟩
  rcases modifySocket_ok hClear with ⟨e, -, rfl⟩
  rw [run_bind_ok (run_get _)] at hLast
  rcases hForm.table.owner_slot p d.fd
    (Process.owner_eq_some.mpr ⟨d, hSocket, rfl⟩) with
    ⟨k, hIn, hSlot⟩
  have hSome : (slotOf s.table p).isSome :=
    slotOf_isSome hIn hSlot
  cases hFound : slotOf s.table p with
  | none => simp [hFound] at hSome
  | some i =>
      simp only [Process.table_setBlock, hFound] at hLast
      rcases bind_eq_ok.mp hLast with ⟨_, t₃, hClear, hEnd⟩
      cases hClear
      rcases free_ok hEnd with ⟨hNone, -⟩ | ⟨p', hP, rfl⟩
      · cases hNone
      cases hP
      rw [releaseFd_run] at hFd
      cases hFd
      rcases slotOf_eq_some hFound with ⟨hIn', hSlot'⟩
      refine ⟨i, hIn', hSlot', rfl, ?_, by simp, ?_⟩
      · simp
      · intro r hNeR
        by_cases hSame : r = q
        · subst hSame
          exact .inr ⟨hData, by simp [hNeR]⟩
        · exact .inl (by simp [hSame, hNeR])

/- A released socket is gone and the others are the same. -/
theorem drift_release
    {p : Ptr}
    {d : LsckSocket}
    {s t s' : Process}
    (hForm : WellFormed none s)
    (hSocket : s.heap p = some (.socket d))
    (hRelease : releaseSocket p s = .ok ((), t))
    (hFd : releaseFd d.fd t = .ok ((), s')) :
    Drift none s s' := by
  rcases release_ok hForm hSocket hRelease hFd with
    ⟨i, hIn, hSlot, hRemoved⟩
  refine ⟨fun _ => ?_, ?_⟩
  · refine hForm.remove (.inl rfl) hSocket hIn hSlot
      hRemoved ?_ ?_
    · intro q b hQ hB
      rcases hForm.data p d hSocket (by simp) with
        ⟨j, q', b', -, hQ', hB', hKind⟩
      rw [hQ] at hQ'
      cases hQ'
      rw [hB] at hB'
      cases hB'
      simp [hKind]
    · intro r e hNe hE hSame
      exact hNe (hForm.own r p e d hE hSocket (by simp)
        (by simp) hSame)
  · intro _ r e hE
    exact ⟨e, (hRemoved.socket_back hE).2, .refl⟩

theorem drift_unixClose
    {closeR closeW : Fd → Exec Int}
    (hCloseR : ∀ fd, DriftCmd none (closeR fd))
    (hCloseW : ∀ fd, DriftCmd none (closeW fd))
    (write : WriteEnv)
    (p : Ptr) :
    DriftCmd none (unixClose closeR closeW write p) := by
  have hDeref : ∀ q, DriftCmd none (deref Block.unix? q) :=
    fun q => DriftCmd.of_still (StillCmd.deref _ q)
  have hModify : ∀ q f, DriftCmd none (modifyUnix q f) :=
    fun q f => DriftCmd.of_still (StillCmd.modifyUnix q f)
  refine (DriftCmd.derefSocket p).bind fun lsd => ?_
  refine (hDeref _).bind fun usock => ?_
  refine (DriftCmd.of_still (still_fcntlNonblock _)).bind
    fun _ => ?_
  refine (DriftCmd.of_still (still_writeFd _ _ _)).bind
    fun _ => ?_
  refine (hModify _ _).bind fun _ => ?_
  refine (hDeref _).bind fun usock => ?_
  refine (hCloseR _).bind fun _ => ?_
  refine (hDeref _).bind fun usock => ?_
  refine (hCloseW _).bind fun _ => ?_
  exact (hModify _ _).bind fun _ => DriftCmd.pure _

theorem drift_interfaceClose
    {closeR closeW : Fd → Exec Int}
    (hCloseR : ∀ fd, DriftCmd none (closeR fd))
    (hCloseW : ∀ fd, DriftCmd none (closeW fd))
    (answer : CloseAnswer)
    (i : Interface)
    (p : Ptr) :
    DriftCmd none
      (interfaceClose closeR closeW answer i p) := by
  cases i with
  | wsock =>
      exact DriftCmd.of_still (still_wsockClose _ _)
  | csock =>
      exact DriftCmd.of_still (still_csockSimple _ _)
  | unix => exact drift_unixClose hCloseR hCloseW _ p

/-
  Closing a socket: either it stays, or it is released in
  full.
-/
theorem drift_closeSocket
    {closeR closeW : Fd → Exec Int}
    (hCloseR : ∀ fd, DriftCmd none (closeR fd))
    (hCloseW : ∀ fd, DriftCmd none (closeW fd))
    (answer : CloseAnswer)
    (fd : Fd) :
    DriftCmd none (do
      let rv ← closesocket closeR closeW answer fd
      when (rv = 0) (releaseFd fd)
      return rv) := by
  intro s r s' hRun
  refine Drift.of_form fun hForm => ?_
  rcases bind_eq_ok.mp hRun with ⟨rv, t, hClose, hRest⟩
  rcases bind_eq_ok.mp hRest with ⟨_, t', hWhen, hPure⟩
  cases hPure
  -- Only an answer of 0 releases anything.
  have hStay : Drift none s t → r ≠ 0 →
      Drift none s s' := by
    intro hDrift hNonzero
    rw [when, if_neg hNonzero] at hWhen
    cases hWhen
    exact hDrift
  rcases prologue_ok hClose with ⟨rfl, -, hStill⟩ |
    ⟨p, d, i, ⟨hHandler, hData⟩, hSocket, -, hTail⟩
  · exact hStay (.of_still hStill) (by decide)
  have hProvides : i.provides .close = true := by
    cases i <;> rfl
  simp only [if_pos hProvides] at hTail
  rcases bind_eq_ok.mp hTail with ⟨rv, w, hCall, hTail⟩
  have hDriftW := (drift_check hSocket answer.writable).trans
    (drift_interfaceClose hCloseR hCloseW answer i p _ rv w
      hCall)
  rcases bind_eq_ok.mp hTail with ⟨_, w', hFree, hPure⟩
  cases hPure
  by_cases hZero : r = 0
  · simp only [when, if_pos hZero] at hFree hWhen
    have hFormW := hDriftW.form hForm
    rcases bind_eq_ok.mp hFree with ⟨g, x, hRead, -⟩
    rcases derefSocket_ok hRead with ⟨rfl, hG⟩
    rcases hDriftW.back hForm p g hG with ⟨d', hD', hMoves⟩
    have hFd : g.fd = fd := by
      rcases hForm.target hHandler with
        ⟨p', d'', hData', hD'', hFd''⟩
      rw [hData] at hData'
      cases hData'
      rw [hD'] at hD''
      cases hD''
      exact hMoves.same.1.trans hFd''
    subst hFd
    exact hDriftW.trans
      (drift_release hFormW hG hFree hWhen)
  · rw [when, if_neg hZero] at hFree
    cases hFree
    exact hStay hDriftW hZero

/- No close creates a socket or changes another one. -/
theorem drift_closeFd
    (env : CloseEnv)
    (fd : Fd) :
    DriftCmd none (closeFd env fd) := by
  induction env generalizing fd with
  | leaf => exact DriftCmd.stop _
  | node answer r w ihR ihW =>
      intro s rv s' hRun
      unfold closeFd at hRun
      rw [run_bind_ok (run_get s)] at hRun
      cases hFunction : (s.fds fd).function with
      | none =>
          simp only [hFunction] at hRun
          by_cases hOpen : (s.fds fd).dosOpen
          · simp only [if_pos hOpen] at hRun
            cases hRun
            refine Drift.of_still (Still.setEntry ?_ ?_ ?_ ?_)
            · simp [hFunction]
            · simp [hFunction]
            · simp [hFunction]
            · exact fun hFds _ => hFds.plain fd hFunction
          · simp only [if_neg hOpen] at hRun
            exact DriftCmd.fail _ s rv s' hRun
      | some handler =>
          cases handler with
          | mailslotHandler =>
              simp only [hFunction] at hRun
              exact Drift.of_still
                (closeMailslot_still hFunction hRun)
          | lsckSocketFsext =>
              simp only [hFunction] at hRun
              exact drift_closeSocket ihR ihW answer fd s rv
                s' hRun

end Libsocket
