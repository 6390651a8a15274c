import Libsocket.Core.DirectClose

/-
  The end of the library: `__lsck_uninit` closes the socket
  in every slot and frees the block that the slot holds. A
  close that succeeds has emptied the slot by then.

  Main declarations:
    * `lsckInit`, `lsckUninit`, `exitSystem`
    * `ShutsDown`, `ClosesAll`
    * `Sheds`
    * `shutsDown_iff`
-/

namespace Libsocket

open Command

------------------------------------------------------------
-- Starting And Ending
------------------------------------------------------------

/- One round of the loop of `__lsck_uninit`. -/
def uninitSlot (env : CloseEnv) (i : Nat) : Exec Unit := do
  let s ← get
  match s.table i with
  | none => return ()
  | some p => do
      let lsd ← derefSocket p
      let _ ← closeFd env lsd.fd
      let s ← get
      free (s.table i)

/- The loop over the slots that are left. -/
def uninitSlots
    (envs : Nat → CloseEnv) : List Nat → Exec Unit
| [] => return ()
| i :: is => do
    uninitSlot (envs i) i
    uninitSlots envs is

/-
  `__lsck_uninit`, with what happens in the close of each
  slot. The mark `__lsck_inited` stays; the interfaces that
  have an `uninit` of their own refuse new sockets.
-/
def lsckUninit (envs : Nat → CloseEnv) : Exec Unit := do
  let s ← get
  if s.inited = false then
    return ()
  else do
    uninitSlots envs (List.range lsckNumSocket)
    modify fun s =>
      { s with
        interfaces := s.interfaces.filter (· == .unix) }

/-
  `__lsck_init`, with the interfaces that can be initialised.
  Without any, the library is marked as initialised and shut
  down at once.
-/
def lsckInit (found : List Interface) : Exec Int := do
  let s ← get
  if s.inited then
    return 1
  else do
    modify fun s =>
      { s with
        table := fun i =>
          if i < lsckNumSocket then none else s.table i
        interfaces := found
        inited := true }
    if found = [] then do
      lsckUninit fun _ => .leaf
      return 0
    else
      return 1

/- The calls of the library, and the end of it. -/
inductive ExitCall
  | call (call : SocketCall)
  | uninit (envs : Nat → CloseEnv)

def exitExec : ExitCall → Exec Int
| .call call => socketExec call
| .uninit envs => do
    lsckUninit envs
    return 0

/- A process that has not called the library yet. -/
structure Unstarted (s : Process) : Prop where
  inited : s.inited = false
  heap : ∀ p, s.heap p = none
  sockets : ∀ fd,
    (s.fds fd).function ≠ some .lsckSocketFsext
  fds : FdsOk s.fds

/- All runs that begin with the initialisation. -/
def exitSystem : TransitionSystem Process ExitCall :=
  TransitionSystem.ofExec
    (fun s => ∃ found t r, Unstarted t ∧
      lsckInit found t = .ok (r, s)) exitExec

------------------------------------------------------------
-- What Should Hold
------------------------------------------------------------

/-
  The shutdown ends, every slot is empty, every descriptor
  has been freed, and no number is a socket any more.
-/
structure Clears
    (envs : Nat → CloseEnv)
    (s s' : Process) : Prop where
  run : lsckUninit envs s = .ok ((), s')
  slot : ∀ i, i < lsckNumSocket → s'.table i = none
  block : ∀ p d, s'.heap p ≠ some (.socket d)
  number : ∀ fd, fdIsSocket s' fd = false

/- It clears everything, and so does each one after it. -/
def ShutsDown
    (envs : Nat → CloseEnv)
    (s : Process) : Prop :=
  ∃ s', Clears envs s s' ∧
    ∀ envs', ∃ s'', Clears envs' s' s''

/- The close callback of the interface will succeed. -/
def CloseEnv.Grants (i : Interface) : CloseEnv → Prop
| .leaf => False
| .node answer _ _ => answer.Grants i = true

/-
  The close callback of every socket whose slot the loop
  comes to returns, and with success.
-/
def ClosesAll
    (envs : Nat → CloseEnv) : List Nat → Process → Prop
| [], _ => True
| i :: is, s =>
    match s.table i with
    | none => ClosesAll envs is s
    | some p => ∃ d j r t,
        s.heap p = some (.socket d) ∧
        d.interface = some j ∧ (envs i).Grants j ∧
        closeFd (envs i) d.fd s = .ok (r, t) ∧
        ClosesAll envs is t

/- The shutdowns in which every close callback succeeds. -/
def Orderly (s : Process) : ExitCall → Prop
| .call _ => True
| .uninit envs =>
    s.inited = true →
      ClosesAll envs (List.range lsckNumSocket) s

------------------------------------------------------------
-- Calls That Only Take Away
------------------------------------------------------------

/-
  Nothing is allocated, and a slot changes only by being
  emptied while its block is live.
-/
structure Sheds (s s' : Process) : Prop where
  heap : ∀ p, s.heap p = none → s'.heap p = none
  table : ∀ i, s'.table i = s.table i ∨
    s'.table i = none ∧
      ∀ p, s.table i = some p → s.heap p ≠ none

namespace Sheds

variable {s t u : Process}

theorem refl (s : Process) : Sheds s s :=
  ⟨fun _ => id, fun _ => .inl rfl⟩

theorem trans
    (hLeft : Sheds s t)
    (hRight : Sheds t u) :
    Sheds s u := by
  constructor
  · intro p hNone
    exact hRight.heap p (hLeft.heap p hNone)
  · intro i
    rcases hLeft.table i with hSame | ⟨hEmpty, hLive⟩
    · rcases hRight.table i with hSame' | ⟨hEmpty', hLive'⟩
      · exact .inl (hSame'.trans hSame)
      · right
        constructor
        · exact hEmpty'
        · intro p hSlot hNone
          rw [← hSame] at hSlot
          exact hLive' p hSlot (hLeft.heap p hNone)
    · right
      constructor
      · rcases hRight.table i with hSame' | ⟨hEmpty', -⟩
        · exact hSame'.trans hEmpty
        · exact hEmpty'
      · exact hLive

theorem of_still (hStill : Still s t) : Sheds s t := by
  constructor
  · intro p hNone
    have hShape := hStill.heap p
    rw [hNone] at hShape
    simpa using hShape
  · intro i
    exact .inl (congrFun hStill.table i)

/- Changing or freeing a block that is there. -/
theorem setBlock
    {p : Ptr}
    {b : Block}
    (hBlock : s.heap p = some b)
    (b' : Option Block) :
    Sheds s (s.setBlock p b') := by
  constructor
  · intro q hNone
    have hNe : q ≠ p := by
      rintro rfl
      rw [hBlock] at hNone
      cases hNone
    simpa [hNe] using hNone
  · intro i
    exact .inl rfl

theorem setSlot
    {i : Nat}
    {p : Ptr}
    (hSlot : s.table i = some p)
    (hLive : s.heap p ≠ none) :
    Sheds s (s.setSlot i none) := by
  constructor
  · intro q hNone
    exact hNone
  · intro k
    by_cases hSame : k = i
    · subst hSame
      right
      constructor
      · simp
      · intro q hQ
        rw [hSlot] at hQ
        cases hQ
        exact hLive
    · left
      simp [hSame]

end Sheds

/- A command that only takes away. -/
abbrev ShedsCmd {α : Type} (m : Exec α) : Prop :=
  Within Sheds m

namespace ShedsCmd

variable {α β : Type}

theorem bind
    {m : Exec α}
    {f : α → Exec β}
    (hFirst : ShedsCmd m)
    (hRest : ∀ a, ShedsCmd (f a)) :
    ShedsCmd (m >>= f) :=
  Within.bind (fun _ _ _ h₁ h₂ => h₁.trans h₂) hFirst hRest

theorem of_still
    {m : Exec α}
    (hStill : StillCmd m) :
    ShedsCmd m :=
  fun s a s' hRun => .of_still (hStill s a s' hRun)

theorem modifySocket
    (p : Ptr)
    (f : LsckSocket → LsckSocket) :
    ShedsCmd (modifySocket p f) := by
  intro s a s' hRun
  rcases modifySocket_ok hRun with ⟨d, hSocket, rfl⟩
  exact Sheds.setBlock hSocket _

end ShedsCmd

theorem sheds_free (p : Option Ptr) :
    ShedsCmd (free p) := by
  intro s a s' hRun
  unfold free at hRun
  rw [run_bind_ok (run_get s)] at hRun
  cases p with
  | none =>
      cases hRun
      exact .refl s
  | some q =>
      cases hBlock : s.heap q with
      | none =>
          simp only [hBlock] at hRun
          cases hRun
      | some b =>
          simp only [hBlock] at hRun
          cases hRun
          exact Sheds.setBlock hBlock none

theorem sheds_enter (writable : Bool) (fd : Fd) :
    ShedsCmd (enter writable fd) := by
  apply ShedsCmd.bind (.of_still (still_fdToLsd fd))
  intro found
  cases found with
  | none =>
      exact .of_still ((still_isfdtype fd).bind
        fun _ => StillCmd.pure _)
  | some p =>
      apply ShedsCmd.bind (.of_still (StillCmd.derefSocket p))
      intro lsd
      apply ShedsCmd.bind (.of_still (still_interfaceOf lsd))
      intro i
      apply ShedsCmd.bind (ShedsCmd.modifySocket p _)
      intro u
      exact .of_still (StillCmd.pure _)

/- The slot that is emptied leads to the block. -/
theorem sheds_releaseSocket (p : Ptr) :
    ShedsCmd (releaseSocket p) := by
  apply ShedsCmd.bind (.of_still (StillCmd.derefSocket p))
  intro lsd
  apply ShedsCmd.bind (sheds_free lsd.idata)
  intro u s a s' hRun
  rcases bind_eq_ok.mp hRun with ⟨_, t, hClear, hTail⟩
  have hSheds := ShedsCmd.modifySocket p _ s _ t hClear
  rcases modifySocket_ok hClear with ⟨d, hSocket, rfl⟩
  apply hSheds.trans
  rw [run_bind_ok (run_get _)] at hTail
  cases hFound : slotOf (s.setBlock p (some (.socket
      { d with idata := none }))).table p with
  | none =>
      simp only [hFound] at hTail
      cases hTail
      exact .refl _
  | some i =>
      simp only [hFound] at hTail
      rcases bind_eq_ok.mp hTail with ⟨_, v, hEmpty, hFree⟩
      cases hEmpty
      have hSlot := (slotOf_eq_some hFound).2
      apply (Sheds.setSlot hSlot (by simp)).trans
      exact sheds_free _ _ _ _ hFree

theorem sheds_releaseFd (fd : Fd) :
    ShedsCmd (releaseFd fd) := by
  intro s a s' hRun
  rw [releaseFd_run] at hRun
  cases hRun
  constructor
  · intro p hNone
    exact hNone
  · intro i
    exact .inl rfl

theorem sheds_interfaceClose
    {closeR closeW : Fd → Exec Int}
    (hCloseR : ∀ fd, ShedsCmd (closeR fd))
    (hCloseW : ∀ fd, ShedsCmd (closeW fd))
    (answer : CloseAnswer)
    (i : Interface)
    (p : Ptr) :
    ShedsCmd (interfaceClose closeR closeW answer i p) := by
  have hDeref : ∀ q, ShedsCmd (deref Block.unix? q) :=
    fun q => .of_still (StillCmd.deref _ q)
  have hModify : ∀ q f, ShedsCmd (modifyUnix q f) :=
    fun q f => .of_still (StillCmd.modifyUnix q f)
  cases i with
  | wsock => exact .of_still (still_wsockClose _ _)
  | csock => exact .of_still (still_csockSimple _ _)
  | unix =>
      apply ShedsCmd.bind (.of_still (StillCmd.derefSocket p))
      intro lsd
      apply ShedsCmd.bind (hDeref lsd.idata)
      intro usock
      apply ShedsCmd.bind (.of_still (still_fcntlNonblock _))
      intro _
      apply ShedsCmd.bind (.of_still (still_writeFd _ _ _))
      intro _
      apply ShedsCmd.bind (hModify _ _)
      intro _
      apply ShedsCmd.bind (hDeref lsd.idata)
      intro usock
      apply ShedsCmd.bind (hCloseR usock.fdR)
      intro _
      apply ShedsCmd.bind (hDeref lsd.idata)
      intro usock
      apply ShedsCmd.bind (hCloseW usock.fdW)
      intro _
      apply ShedsCmd.bind (hModify _ _)
      intro _
      exact .of_still (StillCmd.pure _)

theorem sheds_closesocket
    {closeR closeW : Fd → Exec Int}
    (hCloseR : ∀ fd, ShedsCmd (closeR fd))
    (hCloseW : ∀ fd, ShedsCmd (closeW fd))
    (answer : CloseAnswer)
    (fd : Fd) :
    ShedsCmd (closesocket closeR closeW answer fd) := by
  apply ShedsCmd.bind (sheds_enter _ fd)
  intro found
  cases found with
  | none => exact .of_still (StillCmd.pure _)
  | some p =>
      apply ShedsCmd.bind (.of_still (StillCmd.derefSocket p))
      intro lsd
      apply ShedsCmd.bind (.of_still (still_interfaceOf lsd))
      intro i
      apply Within.ite
      · apply ShedsCmd.bind
          (sheds_interfaceClose hCloseR hCloseW answer i p)
        intro ret
        apply ShedsCmd.bind
          (Within.when Sheds.refl (sheds_releaseSocket p))
        intro _
        exact .of_still (StillCmd.pure _)
      · exact ShedsCmd.of_still (StillCmd.fail _)

theorem sheds_closeFd
    (env : CloseEnv)
    (fd : Fd) :
    ShedsCmd (closeFd env fd) := by
  induction env generalizing fd with
  | leaf => exact Within.stop _
  | node answer r w ihR ihW =>
      intro s rv s' hRun
      unfold closeFd at hRun
      rw [run_bind_ok (run_get s)] at hRun
      cases hFunction : (s.fds fd).function with
      | none =>
          simp only [hFunction] at hRun
          by_cases hOpen : (s.fds fd).dosOpen = true
          · rw [if_pos hOpen] at hRun
            cases hRun
            exact ⟨fun _ => id, fun _ => .inl rfl⟩
          · rw [if_neg hOpen] at hRun
            exact .of_still (StillCmd.fail _ s rv s' hRun)
      | some handler =>
          simp only [hFunction] at hRun
          cases handler with
          | mailslotHandler =>
              exact .of_still
                (closeMailslot_still hFunction hRun)
          | lsckSocketFsext =>
              apply ShedsCmd.bind
                (sheds_closesocket ihR ihW answer fd) _ s rv
                s' hRun
              intro ret
              apply ShedsCmd.bind
                (Within.when Sheds.refl (sheds_releaseFd fd))
              intro _
              exact .of_still (StillCmd.pure _)

/- The slots may be emptied, but nothing else happens. -/
theorem sheds_uninitSlot
    (env : CloseEnv)
    (i : Nat) :
    ShedsCmd (uninitSlot env i) := by
  apply Within.get_bind
  intro s a s' hRun
  cases hSlot : s.table i with
  | none =>
      rw [hSlot] at hRun
      cases hRun
      exact .refl s
  | some p =>
      rw [hSlot] at hRun
      apply ShedsCmd.bind
        (.of_still (StillCmd.derefSocket p)) _ s a s' hRun
      intro lsd
      apply ShedsCmd.bind (sheds_closeFd env lsd.fd)
      intro _
      apply ShedsCmd.bind (.of_still StillCmd.get)
      intro t
      exact sheds_free (t.table i)

theorem sheds_uninitSlots
    (envs : Nat → CloseEnv)
    (is : List Nat) :
    ShedsCmd (uninitSlots envs is) := by
  induction is with
  | nil => exact Within.pure Sheds.refl ()
  | cons i is ih =>
      exact ShedsCmd.bind (sheds_uninitSlot (envs i) i)
        fun _ => ih

/- A slot that leads nowhere is there for good. -/
theorem Sheds.stuck
    {s s' : Process}
    {i : Nat}
    {p : Ptr}
    (hSheds : Sheds s s')
    (hSlot : s.table i = some p)
    (hDead : s.heap p = none) :
    s'.table i = some p := by
  rcases hSheds.table i with hSame | ⟨-, hLive⟩
  · exact hSame.trans hSlot
  · exact absurd hDead (hLive p hSlot)

------------------------------------------------------------
-- One Close
------------------------------------------------------------

/- A callback that succeeds answers 0. -/
theorem interfaceClose_zero
    {closeR closeW : Fd → Exec Int}
    {answer : CloseAnswer}
    {i : Interface}
    {p : Ptr}
    {s s' : Process}
    {r : Int}
    (hGrants : answer.Grants i = true)
    (hRun : interfaceClose closeR closeW answer i p s =
      .ok (r, s')) :
    r = 0 := by
  cases i with
  | unix =>
      rcases bind_eq_ok.mp hRun with ⟨_, _, -, h₁⟩
      rcases bind_eq_ok.mp h₁ with ⟨_, _, -, h₂⟩
      rcases bind_eq_ok.mp h₂ with ⟨_, _, -, h₃⟩
      rcases bind_eq_ok.mp h₃ with ⟨_, _, -, h₄⟩
      rcases bind_eq_ok.mp h₄ with ⟨_, _, -, h₅⟩
      rcases bind_eq_ok.mp h₅ with ⟨_, _, -, h₆⟩
      rcases bind_eq_ok.mp h₆ with ⟨_, _, -, h₇⟩
      rcases bind_eq_ok.mp h₇ with ⟨_, _, -, h₈⟩
      rcases bind_eq_ok.mp h₈ with ⟨_, _, -, h₉⟩
      rcases bind_eq_ok.mp h₉ with ⟨_, _, -, hPure⟩
      cases hPure
      rfl
  | csock =>
      have hAnswer : answer.csockAnswer = 0 := by
        simpa [CloseAnswer.Grants] using hGrants
      rcases bind_eq_ok.mp hRun with ⟨lsd, t, -, hRest⟩
      rcases bind_eq_ok.mp hRest with ⟨data, u, -, hTail⟩
      rw [if_neg (by simp [hAnswer])] at hTail
      cases hTail
      rfl
  | wsock =>
      have hCode : ¬ vxdFails answer.wsockCode = true := by
        simpa [CloseAnswer.Grants] using hGrants
      rcases bind_eq_ok.mp hRun with ⟨lsd, t, -, hRest⟩
      rcases bind_eq_ok.mp hRest with ⟨data, u, -, hTail⟩
      rcases bind_eq_ok.mp hTail with ⟨_, v, -, hLast⟩
      rw [if_neg hCode] at hLast
      rcases bind_eq_ok.mp hLast with ⟨_, w, -, hPure⟩
      cases hPure
      rfl

/-
  The close of a socket's number returns what the callback
  does, and does nothing more if that is not 0.
-/
theorem closeFd_calls
    {answer : CloseAnswer}
    {closeR closeW : CloseEnv}
    {fd : Fd}
    {p : Ptr}
    {d : LsckSocket}
    {i : Interface}
    {s t : Process}
    {r : Int}
    (hLeads : s.LeadsTo fd p)
    (hSocket : s.heap p = some (.socket d))
    (hInterface : d.interface = some i)
    (hRun : closeFd (.node answer closeR closeW) fd s =
      .ok (r, t)) :
    ∃ u, interfaceClose (closeFd closeR) (closeFd closeW)
        answer i p (s.check p d answer.writable) =
          .ok (r, u) ∧
      (r ≠ 0 → t = u) := by
  unfold closeFd at hRun
  rw [run_bind_ok (run_get s)] at hRun
  simp only [hLeads.1] at hRun
  rcases bind_eq_ok.mp hRun with ⟨rv, u, hClose, hRest⟩
  rcases bind_eq_ok.mp hRest with ⟨_, v, hFrees, hPure⟩
  cases hPure
  have hTail := prologue_leads hLeads hSocket hInterface hClose
  have hProvides : i.provides .close = true := by
    cases i <;> rfl
  simp only [if_pos hProvides] at hTail
  rcases bind_eq_ok.mp hTail with ⟨ret, w, hCall, hLast⟩
  rcases bind_eq_ok.mp hLast with ⟨_, x, hReleases, hPure⟩
  cases hPure
  refine ⟨w, hCall, fun hFails => ?_⟩
  rw [when, if_neg hFails] at hFrees hReleases
  cases hFrees
  cases hReleases
  rfl

/-
  The close of a socket's number returns 0 if and only if
  the callback succeeds.
-/
theorem closeFd_zero_iff
    {env : CloseEnv}
    {fd : Fd}
    {p : Ptr}
    {d : LsckSocket}
    {i : Interface}
    {s s' : Process}
    {r : Int}
    (hLeads : s.LeadsTo fd p)
    (hSocket : s.heap p = some (.socket d))
    (hInterface : d.interface = some i)
    (hRun : closeFd env fd s = .ok (r, s')) :
    r = 0 ↔ env.Grants i := by
  cases env with
  | leaf => cases hRun
  | node answer r' w =>
      rcases closeFd_calls hLeads hSocket hInterface hRun with
        ⟨u, hCall, -⟩
      constructor
      · intro hZero
        subst hZero
        exact interfaceClose_granted hCall
      · intro hGrants
        exact interfaceClose_zero hGrants hCall

/- What a slot of the table holds leads back from a number. -/
theorem WellFormed.slot_leads
    {s : Process}
    (hForm : WellFormed none s)
    {i : Nat}
    {p : Ptr}
    (hIn : i < lsckNumSocket)
    (hSlot : s.table i = some p) :
    ∃ d j, s.heap p = some (.socket d) ∧
      d.interface = some j ∧ s.LeadsTo d.fd p := by
  rcases hForm.slot_live hIn hSlot with
    ⟨d, hSocket, hFunction, hData⟩
  rcases hForm.data p d hSocket (by simp) with
    ⟨j, q, b, hInterface, -⟩
  exact ⟨d, j, hSocket, hInterface, hFunction, hData⟩

/- The close of a socket that succeeds empties its slot. -/
theorem closeFd_empties
    {env : CloseEnv}
    {s t : Process}
    {i : Nat}
    {p : Ptr}
    {d : LsckSocket}
    (hForm : WellFormed none s)
    (hIn : i < lsckNumSocket)
    (hSlot : s.table i = some p)
    (hSocket : s.heap p = some (.socket d))
    (hRun : closeFd env d.fd s = .ok (0, t)) :
    WellFormed none t ∧ t.table i = none := by
  have hDrift := drift_closeFd env d.fd s 0 t hRun
  have hFormT := hDrift.form hForm
  constructor
  · exact hFormT
  rcases (sheds_closeFd env d.fd s 0 t hRun).table i with
    hSame | ⟨hNone, -⟩
  · rcases hFormT.slot_live hIn (hSame.trans hSlot) with
      ⟨d', hSocket', hFunction, -⟩
    rcases hDrift.back hForm p d' hSocket' with
      ⟨e, hE, hMoves⟩
    rw [hSocket] at hE
    cases hE
    rw [hMoves.same.1,
      hFormT.fds.closed d.fd (closeFd_frees hRun)] at hFunction
    cases hFunction
  · exact hNone

/- One that fails leaves the table as it was. -/
theorem closeFd_refused
    {env : CloseEnv}
    {s t : Process}
    {fd : Fd}
    {p : Ptr}
    {d : LsckSocket}
    {i : Interface}
    {r : Int}
    (hLeads : s.LeadsTo fd p)
    (hSocket : s.heap p = some (.socket d))
    (hInterface : d.interface = some i)
    (hRefused : ¬ env.Grants i)
    (hRun : closeFd env fd s = .ok (r, t)) :
    t.table = s.table := by
  have hFails : r ≠ 0 := by
    intro hZero
    exact hRefused
      ((closeFd_zero_iff hLeads hSocket hInterface hRun).mp
        hZero)
  cases env with
  | leaf => cases hRun
  | node answer r' w =>
      rcases closeFd_calls hLeads hSocket hInterface hRun with
        ⟨u, hCall, hSame⟩
      rw [hSame hFails]
      cases i with
      | unix => exact absurd rfl hRefused
      | csock =>
          exact (still_csockSimple _ _ _ _ _ hCall).table
      | wsock =>
          exact (still_wsockClose _ _ _ _ _ hCall).table

------------------------------------------------------------
-- The Loop
------------------------------------------------------------

/- A round whose callback succeeds frees nothing itself. -/
theorem uninitSlot_granted
    {env : CloseEnv}
    {s t : Process}
    {i : Nat}
    {p : Ptr}
    {d : LsckSocket}
    {j : Interface}
    {r : Int}
    (hForm : WellFormed none s)
    (hIn : i < lsckNumSocket)
    (hSlot : s.table i = some p)
    (hSocket : s.heap p = some (.socket d))
    (hInterface : d.interface = some j)
    (hGrants : env.Grants j)
    (hClose : closeFd env d.fd s = .ok (r, t)) :
    uninitSlot env i s = .ok ((), t) ∧
      WellFormed none t ∧ t.table i = none := by
  rcases hForm.slot_leads hIn hSlot with
    ⟨d', j', hD, hJ, hLeads⟩
  rw [hSocket] at hD
  cases hD
  have hZero : r = 0 :=
    (closeFd_zero_iff hLeads hSocket hInterface hClose).mpr
      hGrants
  subst hZero
  rcases closeFd_empties hForm hIn hSlot hSocket hClose with
    ⟨hFormT, hNone⟩
  refine ⟨?_, hFormT, hNone⟩
  unfold uninitSlot
  rw [run_bind_ok (run_get s)]
  simp only [hSlot]
  rw [run_bind_ok (derefSocket_run hSocket),
    run_bind_ok hClose, run_bind_ok (run_get t), hNone]
  rfl

/- After any other round the slot leads to a freed block. -/
theorem uninitSlot_refused
    {env : CloseEnv}
    {s s' : Process}
    {i : Nat}
    {p : Ptr}
    {d : LsckSocket}
    {j : Interface}
    (hForm : WellFormed none s)
    (hIn : i < lsckNumSocket)
    (hSlot : s.table i = some p)
    (hSocket : s.heap p = some (.socket d))
    (hInterface : d.interface = some j)
    (hRefused : ¬ env.Grants j)
    (hRun : uninitSlot env i s = .ok ((), s')) :
    s'.table i = some p ∧ s'.heap p = none := by
  rcases hForm.slot_leads hIn hSlot with
    ⟨d', j', hD, hJ, hLeads⟩
  rw [hSocket] at hD
  cases hD
  unfold uninitSlot at hRun
  rw [run_bind_ok (run_get s)] at hRun
  simp only [hSlot] at hRun
  rw [run_bind_ok (derefSocket_run hSocket)] at hRun
  rcases bind_eq_ok.mp hRun with ⟨r, t, hClose, hRest⟩
  rw [run_bind_ok (run_get t),
    closeFd_refused hLeads hSocket hInterface hRefused hClose,
    hSlot] at hRest
  have hTable :=
    closeFd_refused hLeads hSocket hInterface hRefused hClose
  rcases free_ok hRest with ⟨hNone, -⟩ | ⟨q, hQ, rfl⟩
  · cases hNone
  · cases hQ
    constructor
    · rw [Process.table_setBlock, hTable, hSlot]
    · simp

/- Every callback succeeds: the slots are emptied in turn. -/
theorem uninitSlots_of_closesAll
    {envs : Nat → CloseEnv}
    {is : List Nat}
    {s : Process}
    (hForm : WellFormed none s)
    (hIn : ∀ i ∈ is, i < lsckNumSocket)
    (hAll : ClosesAll envs is s) :
    ∃ s', uninitSlots envs is s = .ok ((), s') ∧
      WellFormed none s' ∧
      ∀ i, s.table i = none ∨ i ∈ is → s'.table i = none := by
  induction is generalizing s with
  | nil =>
      refine ⟨s, rfl, hForm, ?_⟩
      intro i hEither
      rcases hEither with hNone | hMem
      · exact hNone
      · cases hMem
  | cons i is ih =>
      have hRest : ∀ k ∈ is, k < lsckNumSocket :=
        fun k hMem => hIn k (List.mem_cons_of_mem i hMem)
      -- One round, after which the slot is empty.
      have hRound : ∃ t, uninitSlot (envs i) i s =
          .ok ((), t) ∧ WellFormed none t ∧
            t.table i = none ∧ ClosesAll envs is t := by
        unfold ClosesAll at hAll
        cases hSlot : s.table i with
        | none =>
            simp only [hSlot] at hAll
            refine ⟨s, ?_, hForm, hSlot, hAll⟩
            unfold uninitSlot
            rw [run_bind_ok (run_get s)]
            simp only [hSlot]
            rfl
        | some p =>
            simp only [hSlot] at hAll
            rcases hAll with ⟨d, j, r, t, hSocket, hInterface,
              hGrants, hClose, hAll⟩
            rcases uninitSlot_granted hForm
              (hIn i List.mem_cons_self) hSlot hSocket
              hInterface hGrants hClose with
              ⟨hRun, hFormT, hNone⟩
            exact ⟨t, hRun, hFormT, hNone, hAll⟩
      rcases hRound with ⟨t, hRun, hFormT, hNone, hAll⟩
      rcases ih hFormT hRest hAll with
        ⟨s', hRun', hForm', hEmpty⟩
      refine ⟨s', ?_, hForm', ?_⟩
      · unfold uninitSlots
        rw [run_bind_ok hRun]
        exact hRun'
      · intro k hEither
        apply hEmpty
        by_cases hSame : k = i
        · left
          rw [hSame]
          exact hNone
        · rcases hEither with hNoneK | hMem
          · left
            rcases (sheds_uninitSlot (envs i) i s () t
              hRun).table k with hKept | ⟨hGone, -⟩
            · exact hKept.trans hNoneK
            · exact hGone
          · right
            exact (List.mem_cons.mp hMem).resolve_left hSame

/- Only then are they empty in the end. -/
theorem closesAll_of_uninitSlots
    {envs : Nat → CloseEnv}
    {is : List Nat}
    {s s' : Process}
    (hForm : WellFormed none s)
    (hIn : ∀ i ∈ is, i < lsckNumSocket)
    (hRun : uninitSlots envs is s = .ok ((), s'))
    (hEmpty : ∀ i ∈ is, s'.table i = none) :
    ClosesAll envs is s := by
  induction is generalizing s with
  | nil => trivial
  | cons i is ih =>
      have hRest : ∀ k ∈ is, k < lsckNumSocket :=
        fun k hMem => hIn k (List.mem_cons_of_mem i hMem)
      have hEmptyRest : ∀ k ∈ is, s'.table k = none :=
        fun k hMem => hEmpty k (List.mem_cons_of_mem i hMem)
      unfold uninitSlots at hRun
      rcases bind_eq_ok.mp hRun with ⟨_, t, hRound, hTail⟩
      unfold ClosesAll
      cases hSlot : s.table i with
      | none =>
          unfold uninitSlot at hRound
          rw [run_bind_ok (run_get s)] at hRound
          simp only [hSlot] at hRound
          cases hRound
          exact ih hForm hRest hTail hEmptyRest
      | some p =>
          have hI := hIn i List.mem_cons_self
          rcases hForm.slot_leads hI hSlot with
            ⟨d, j, hSocket, hInterface, hLeads⟩
          by_cases hGrants : (envs i).Grants j
          · have hClosed := hRound
            unfold uninitSlot at hClosed
            rw [run_bind_ok (run_get s)] at hClosed
            simp only [hSlot] at hClosed
            rw [run_bind_ok (derefSocket_run hSocket)]
              at hClosed
            rcases bind_eq_ok.mp hClosed with
              ⟨r, u, hClose, -⟩
            rcases uninitSlot_granted hForm hI hSlot hSocket
              hInterface hGrants hClose with
              ⟨hSame, hFormU, -⟩
            rw [hRound] at hSame
            cases hSame
            exact ⟨d, j, r, t, hSocket, hInterface, hGrants,
              hClose, ih hFormU hRest hTail hEmptyRest⟩
          · rcases uninitSlot_refused hForm hI hSlot hSocket
              hInterface hGrants hRound with ⟨hStays, hDead⟩
            have hStuck := (sheds_uninitSlots envs is t () s'
              hTail).stuck hStays hDead
            rw [hEmpty i List.mem_cons_self] at hStuck
            cases hStuck

------------------------------------------------------------
-- The Shutdown
------------------------------------------------------------

theorem closesAll_of_empty
    {envs : Nat → CloseEnv}
    {is : List Nat}
    {s : Process}
    (hEmpty : ∀ i ∈ is, s.table i = none) :
    ClosesAll envs is s := by
  induction is with
  | nil => trivial
  | cons i is ih =>
      unfold ClosesAll
      rw [hEmpty i List.mem_cons_self]
      exact ih fun k hMem =>
        hEmpty k (List.mem_cons_of_mem i hMem)

/- Which interfaces are there is nothing to the sockets. -/
theorem still_interfaces
    (s : Process)
    (interfaces : List Interface) :
    Still s { s with interfaces := interfaces } :=
  ⟨rfl, id, fun _ _ _ => rfl, fun _ => rfl⟩

/- A well-formed table without descriptors is clear. -/
theorem WellFormed.clear
    {s : Process}
    (hForm : WellFormed none s)
    (hEmpty : ∀ i, i < lsckNumSocket → s.table i = none) :
    (∀ p d, s.heap p ≠ some (.socket d)) ∧
      ∀ fd, fdIsSocket s fd = false := by
  have hBlock : ∀ p d, s.heap p ≠ some (.socket d) := by
    intro p d hSocket
    rcases hForm.table.owner_slot p d.fd
      (Process.owner_eq_some.mpr ⟨d, hSocket, rfl⟩) with
      ⟨i, hIn, hSlot⟩
    have hNone : s.registry.slot i = none := hEmpty i hIn
    rw [hNone] at hSlot
    cases hSlot
  constructor
  · exact hBlock
  · intro fd
    by_cases hNumber : fdIsSocket s fd = true
    · have hHandler :
          (s.fds fd).function = some .lsckSocketFsext := by
        simpa [fdIsSocket] using hNumber
      rcases hForm.target hHandler with ⟨p, d, -, hSocket, -⟩
      exact absurd hSocket (hBlock p d)
    · simpa using hNumber

/- With every callback granted, all of it is cleared. -/
theorem clears_of_closesAll
    {envs : Nat → CloseEnv}
    {s : Process}
    (hForm : WellFormed none s)
    (hInited : s.inited = true)
    (hAll : ClosesAll envs (List.range lsckNumSocket) s) :
    ∃ s', Clears envs s s' ∧ WellFormed none s' := by
  rcases uninitSlots_of_closesAll hForm
    (fun i hMem => List.mem_range.mp hMem) hAll with
    ⟨t, hRun, hFormT, hEmpty⟩
  have hSlots : ∀ i, i < lsckNumSocket → t.table i = none :=
    fun i hIn => hEmpty i (.inr (List.mem_range.mpr hIn))
  have hForm' := hFormT.still (still_interfaces t
    (t.interfaces.filter (· == .unix)))
  rcases hForm'.clear hSlots with ⟨hBlock, hNumber⟩
  have hUninit : lsckUninit envs s = .ok ((), { t with
      interfaces := t.interfaces.filter (· == .unix) }) := by
    unfold lsckUninit
    rw [run_bind_ok (run_get s), if_neg (by simp [hInited]),
      run_bind_ok hRun]
    rfl
  exact ⟨_, ⟨hUninit, hSlots, hBlock, hNumber⟩, hForm'⟩

/- An empty table is cleared whatever the callbacks do. -/
theorem clears_of_empty
    {s : Process}
    (hForm : WellFormed none s)
    (hEmpty : ∀ i, i < lsckNumSocket → s.table i = none)
    (envs : Nat → CloseEnv) :
    ∃ s', Clears envs s s' := by
  by_cases hInited : s.inited = true
  · have hAll : ClosesAll envs (List.range lsckNumSocket) s :=
      closesAll_of_empty fun i hMem =>
        hEmpty i (List.mem_range.mp hMem)
    rcases clears_of_closesAll hForm hInited hAll with
      ⟨s', hClears, -⟩
    exact ⟨s', hClears⟩
  · rcases hForm.clear hEmpty with ⟨hBlock, hNumber⟩
    refine ⟨s, ?_, hEmpty, hBlock, hNumber⟩
    unfold lsckUninit
    rw [run_bind_ok (run_get s), if_pos (by simpa using hInited)]
    rfl

/- What the initialisation leaves has no sockets. -/
theorem wellFormed_lsckInit
    {found : List Interface}
    {s s' : Process}
    {r : Int}
    (hStart : Unstarted s)
    (hRun : lsckInit found s = .ok (r, s')) :
    WellFormed none s' := by
  have hBooted : Booted { s with
      table := fun i =>
        if i < lsckNumSocket then none else s.table i
      interfaces := found
      inited := true } := by
    constructor
    · rfl
    · exact hStart.heap
    · intro i hIn
      exact if_pos hIn
    · exact hStart.sockets
    · exact hStart.fds
  have hForm := hBooted.wellFormed
  unfold lsckInit at hRun
  rw [run_bind_ok (run_get s), if_neg (by simp [hStart.inited]),
    run_bind_ok (run_modify _ s)] at hRun
  by_cases hNothing : found = []
  · rw [if_pos hNothing] at hRun
    rcases bind_eq_ok.mp hRun with ⟨_, t, hUninit, hPure⟩
    cases hPure
    have hAll : ClosesAll (fun _ => .leaf)
        (List.range lsckNumSocket) { s with
          table := fun i =>
            if i < lsckNumSocket then none else s.table i
          interfaces := found
          inited := true } :=
      closesAll_of_empty fun i hMem =>
        hBooted.table i (List.mem_range.mp hMem)
    rcases clears_of_closesAll hForm rfl hAll with
      ⟨u, hClears, hFormU⟩
    have hSame := hClears.run.symm.trans hUninit
    cases hSame
    exact hFormU
  · rw [if_neg hNothing] at hRun
    cases hRun
    exact hForm

/- Runs with orderly shutdowns keep the table well formed. -/
theorem wellFormed_of_orderly
    {s : Process}
    (hReach : exitSystem.ReachableUnder Orderly s) :
    WellFormed none s := by
  apply TransitionSystem.ReachableUnder.invariant _ _ hReach
  · intro s hInit
    rcases hInit with ⟨found, t, r, hStart, hRun⟩
    exact wellFormed_lsckInit hStart hRun
  · intro s call s' hForm hOrderly hStep
    rcases hStep with ⟨r, hRun⟩
    cases call with
    | call call => exact wellFormed_socketExec hForm hRun
    | uninit envs =>
        rcases bind_eq_ok.mp hRun with ⟨_, t, hUninit, hPure⟩
        cases hPure
        by_cases hInited : s.inited = true
        · rcases clears_of_closesAll hForm hInited
            (hOrderly hInited) with ⟨u, hClears, hFormU⟩
          have hSame := hClears.run.symm.trans hUninit
          cases hSame
          exact hFormU
        · unfold lsckUninit at hUninit
          rw [run_bind_ok (run_get s),
            if_pos (by simpa using hInited)] at hUninit
          cases hUninit
          exact hForm

/- A process before its first call. -/
def unstarted : Process :=
  { bareProcess with inited := false, interfaces := [] }

theorem unstarted_unstarted : Unstarted unstarted := by
  constructor
  · rfl
  · intro p
    rfl
  · intro fd hHandler
    cases hHandler
  · exact ⟨fun _ _ => rfl, fun _ _ => rfl⟩

/- The initialisation, and one stream socket. -/
def startStream : Exec Int := do
  let _ ← lsckInit [.wsock, .csock, .unix]
  exec streamCall

/- A run to the first socket that passes a check. -/
theorem exists_startStream
    (check : Process → Bool)
    (hCheck : (startStream unstarted).toOption.any
      (fun next => check next.2) = true) :
    ∃ s, exitSystem.ReachableUnder Orderly s ∧
      check s = true := by
  rcases exists_run_of_any hCheck with ⟨r, s, hRun, hS⟩
  rcases bind_eq_ok.mp hRun with ⟨r', t, hInit, hCall⟩
  refine ⟨s, ?_, hS⟩
  apply TransitionSystem.ReachableUnder.step
    (a := .call (.call streamCall)) (s := t)
  · exact .init ⟨_, _, _, unstarted_unstarted, hInit⟩
  · trivial
  · exact ⟨r, hCall⟩

/- A shutdown in which every callback of a driver succeeds. -/
def grantingClose : CloseEnv := .node .granting .leaf .leaf

/- All slots of the table are empty. -/
def tableEmpty (s : Process) : Bool :=
  (List.range lsckNumSocket).all fun i => (s.table i).isNone

/- There is a socket, and the loop empties all slots. -/
def loopEmpties (s : Process) : Bool :=
  (s.table 0).isSome && s.inited &&
    (uninitSlots (fun _ => grantingClose)
      (List.range lsckNumSocket) s).toOption.any
        fun next => tableEmpty next.2

/- A driver that does not let the socket be closed. -/
def refusingClose : CloseEnv :=
  .node { CloseAnswer.granting with wsockCode := 1 } .leaf
    .leaf

/- A slot is left to a freed block, and read once more. -/
def readsFreed (s : Process) : Bool :=
  (s.table 0).any (fun p => (s.heap p).isNone) &&
    faults (lsckUninit fun _ => refusingClose) s

def readsFreedNext (s : Process) : Bool :=
  (lsckUninit (fun _ => refusingClose) s).toOption.any
    fun next => readsFreed next.2

end Libsocket
