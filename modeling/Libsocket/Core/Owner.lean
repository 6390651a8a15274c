import Libsocket.Core.CallChanges
import Libsocket.Core.Modes
import Libsocket.Core.Fsext

/-
  The process that a socket's urgent data is announced to:
  setting it and asking for it with `fcntl`. The command and
  its argument pass through the handler of the descriptor,
  the interface and the emulation.

  Main declarations:
    * `unixFcntl`, `csockFcntl`, `wsockFcntl`
    * `fcntlsocket`, `fcntlsocketEmulated`, `fsextFcntl`
    * `FcntlRun`, `OwnerLaw`, `OwnerMeets`
    * `owner_law_iff`
-/

namespace Libsocket

open Command

------------------------------------------------------------
-- Commands
------------------------------------------------------------

/- `F_GETFL` and `F_SETFL` of the C library -/
def fGetfl : Int := 3
def fSetfl : Int := 6

/- `F_GETOWN` and `F_SETOWN` -/
def fGetown : Int := 16
def fSetown : Int := 17

/-
  What a callback `fcntl` reports: whether the command was
  handled, and the result if it has stored one.
-/
abbrev Handled : Type := Bool × Option Int

/-
  The common part of the three callbacks: they know the modes
  only. `other` is what they report for any other command,
  for which they store nothing.
-/
def fcntlByMode
    (env : ModeEnv)
    (i : Interface)
    (other : Bool)
    (p : Ptr)
    (command request : Int) : Exec Handled :=
  if command = fSetfl then do
    let rv ← interfaceFionbio env i p
      (if hasNonblock request then 1 else 0)
    return (true, some rv)
  else if command = fGetfl then do
    let flags ← interfaceGetfl p
    return (true, some flags)
  else
    return (other, none)

/- `__unix_fcntl` -/
def unixFcntl
    (env : ModeEnv)
    (p : Ptr)
    (command request : Int) : Exec Handled :=
  fcntlByMode env .unix false p command request

/- `__csock_fcntl` -/
def csockFcntl
    (env : ModeEnv)
    (p : Ptr)
    (command request : Int) : Exec Handled :=
  fcntlByMode env .csock false p command request

/-
  `__wsock_fcntl`, which returns `-1` in the place of its
  flag and so always reports that it handled the command.
-/
def wsockFcntl
    (env : ModeEnv)
    (p : Ptr)
    (command request : Int) : Exec Handled :=
  fcntlByMode env .wsock true p command request

/- The callback `fcntl` -/
def interfaceFcntl
    (env : ModeEnv)
    (i : Interface)
    (p : Ptr)
    (command request : Int) : Exec Handled :=
  match i with
  | .wsock => wsockFcntl env p command request
  | .csock => csockFcntl env p command request
  | .unix => unixFcntl env p command request

/- The interface is asked if it has the callback. -/
def askFcntl
    (env : ModeEnv)
    (i : Interface)
    (p : Ptr)
    (command request : Int) : Exec Handled :=
  if i.provides .fcntl then
    interfaceFcntl env i p command request
  else
    return (false, none)

/-
  `fcntlsocket_emulated`. The switch is on the argument; the
  command is not looked at.
-/
def fcntlsocketEmulated
    (p : Ptr)
    (_command request : Int) : Exec Int := do
  let lsd ← derefSocket p
  if request = fGetown then
    return lsd.urgentPid
  else if request = fSetown then do
    let s ← get
    if request ≠ s.pid.toNat ∧ request ≠ -s.pid.toNat then
      fail .EPERM
    else do
      modifySocket p fun lsd =>
        { lsd with urgentPid := request }
      return 0
  else
    fail .EINVAL

/-
  `fcntlsocket`. There is no result when the variable for it
  was never assigned.
-/
def fcntlsocket
    (env : ModeEnv)
    (s : Fd)
    (command request : Int) : Exec (Option Int) := do
  let found ← enter env.writable s
  match found with
  | none => return some (-1)
  | some p => do
      let lsd ← derefSocket p
      let i ← interfaceOf lsd
      let (handled, rv) ← askFcntl env i p command request
      if handled then
        return rv
      else do
        let ret ← fcntlsocketEmulated p command request
        return some ret

/- The `fcntl` case of `__lsck_socket_fsext` -/
def fsextFcntl
    (env : ModeEnv)
    (s : Fd)
    (command request : Int) : Exec (Option Int) :=
  if command = fSetfl then
    fcntlsocket env s command request
  else if command = fGetfl then
    fcntlsocket env s command 0
  else if command = fSetown then
    fcntlsocket env s command request
  else if command = fGetown then
    fcntlsocket env s command 0
  else
    return some (-1)

------------------------------------------------------------
-- The Law
------------------------------------------------------------

/-
  One call of `fcntl`: its arguments, its result and the
  owner that the descriptor has afterwards.
-/
structure OwnerStep where
  command : Int
  request : Int
  result : Option Int
  owner : Int

/- Some calls of `fcntl` on a socket, one after the other. -/
inductive FcntlRun
    (fd : Fd)
    (p : Ptr) : Process → List OwnerStep → Process → Prop
  | done {s : Process} : FcntlRun fd p s [] s
  | step
      {env : ModeEnv}
      {command request : Int}
      {result : Option Int}
      {s t u : Process}
      {d : LsckSocket}
      {steps : List OwnerStep}
      (run : fsextFcntl env fd command request s =
        .ok (result, t))
      (socket : t.heap p = some (.socket d))
      (rest : FcntlRun fd p t steps u) :
      FcntlRun fd p s
        (⟨command, request, result, d.urgentPid⟩ :: steps) u

namespace OwnerStep

/- The argument is the process or its group. -/
def Names (pid : Int) (x : OwnerStep) : Prop :=
  x.request = pid ∨ x.request = -pid

instance (pid : Int) (x : OwnerStep) :
    Decidable (x.Names pid) :=
  inferInstanceAs (Decidable (_ ∨ _))

/-
  The result is the owner, or says whether the owner could be
  set, or for other commands is one that was assigned.
-/
def Answers (pid owner : Int) (x : OwnerStep) : Prop :=
  if x.command = fGetown then
    x.result = some owner
  else if x.command = fSetown then
    x.result = some (if x.Names pid then 0 else -1)
  else
    x.result ≠ none

/- The owner is what was set, or what it was. -/
def Keeps (pid owner : Int) (x : OwnerStep) : Prop :=
  x.owner = if x.command = fSetown ∧ x.Names pid then
    x.request
  else
    owner

/-
  The call is not about the owner, or it is emulated and asks
  to set a number that does as well as the command.
-/
def Meets
    (i : Interface)
    (pid owner : Int)
    (x : OwnerStep) : Prop :=
  (x.command ≠ fGetown ∧ x.command ≠ fSetown) ∨
    i ≠ .wsock ∧
      (x.command = fGetown ∧ owner = -1 ∨
        x.command = fSetown ∧
          (x.request = fSetown ∨ ¬ x.Names pid ∧
            (x.request = fGetown → owner = -1)))

end OwnerStep

/- Every call of a run is as it should be. -/
def OwnerLaw (pid : Int) : Int → List OwnerStep → Prop
| _, [] => True
| owner, x :: xs =>
    (x.Answers pid owner ∧ x.Keeps pid owner) ∧
      OwnerLaw pid x.owner xs

/- Every call of a run meets the condition. -/
def OwnerMeets
    (i : Interface)
    (pid : Int) : Int → List OwnerStep → Prop
| _, [] => True
| owner, x :: xs =>
    x.Meets i pid owner ∧ OwnerMeets i pid x.owner xs

------------------------------------------------------------
-- Owners That Stay
------------------------------------------------------------

/- Every socket that is left has the owner that it had. -/
structure SameOwners (s t : Process) : Prop where
  pid : t.pid = s.pid
  owner : ∀ p d', t.heap p = some (.socket d') →
    ∃ d, s.heap p = some (.socket d) ∧
      d'.urgentPid = d.urgentPid

namespace SameOwners

theorem of_heap
    {s t : Process}
    (hPid : t.pid = s.pid)
    (hHeap : t.heap = s.heap) :
    SameOwners s t := by
  constructor
  · exact hPid
  · intro p d' hSocket
    rw [hHeap] at hSocket
    exact ⟨d', hSocket, rfl⟩

theorem refl (s : Process) : SameOwners s s :=
  of_heap rfl rfl

theorem trans
    (s t u : Process)
    (hLeft : SameOwners s t)
    (hRight : SameOwners t u) :
    SameOwners s u := by
  constructor
  · exact hRight.pid.trans hLeft.pid
  · intro p d'' hSocket
    rcases hRight.owner p d'' hSocket with
      ⟨d', hSocket', hOwner'⟩
    rcases hLeft.owner p d' hSocket' with ⟨d, hD, hOwner⟩
    exact ⟨d, hD, hOwner'.trans hOwner⟩

theorem modifySocket
    (p : Ptr)
    {f : LsckSocket → LsckSocket}
    (hSame : ∀ d, (f d).urgentPid = d.urgentPid) :
    Within SameOwners (modifySocket p f) := by
  intro s r t hRun
  rcases modifySocket_ok hRun with ⟨d, hSocket, rfl⟩
  constructor
  · rfl
  · intro q d' hD'
    by_cases hQ : q = p
    · subst hQ
      rw [Process.heap_setBlock, Function.update_self] at hD'
      cases hD'
      exact ⟨d, hSocket, hSame d⟩
    · rw [Process.heap_setBlock, Function.update_of_ne hQ]
        at hD'
      exact ⟨d', hD', rfl⟩

theorem of_reads
    {α : Type}
    {m : Exec α}
    (hReads : Reads m) :
    Within SameOwners m :=
  hReads.within refl

theorem setErrno (e : Errno) :
    Within SameOwners (setErrno e) :=
  Within.modify fun _ => of_heap rfl rfl

theorem fail (e : Errno) : Within SameOwners (fail e) :=
  Within.bind trans (setErrno e) fun _ => Within.pure refl _

theorem callVxd (code : UInt16) :
    Within SameOwners (callVxd code) :=
  Within.ite (setErrno _)
    (Within.ite (setErrno _) (Within.pure refl _))

theorem modifyMailslot
    (fd : Fd)
    (f : MailslotFsext → MailslotFsext) :
    Within SameOwners (modifyMailslot fd f) := by
  apply Within.get_bind
  intro s r t hRun
  cases hFunction : (s.fds fd).function with
  | none =>
      rw [hFunction] at hRun
      exact setErrno _ s r t hRun
  | some handler =>
      rw [hFunction] at hRun
      cases handler with
      | lsckSocketFsext => cases hRun
      | mailslotHandler =>
          dsimp only at hRun
          cases hData : (s.fds fd).data with
          | none =>
              rw [hData] at hRun
              exact setErrno _ s r t hRun
          | some data =>
              rw [hData] at hRun
              cases data with
              | lsd q => cases hRun
              | mailslot me =>
                  cases hRun
                  exact of_heap rfl rfl

theorem fcntlNonblock (fd : Fd) :
    Within SameOwners (fcntlNonblock fd) :=
  Within.bind trans (modifyMailslot _ _)
    fun _ => Within.pure refl _

theorem csockIoctl
    (answer : Int)
    (p : Ptr)
    (param : Int) :
    Within SameOwners (csockIoctl answer p param) := by
  apply Within.bind trans (of_reads (reads_deref _ _))
  intro lsd
  apply Within.bind trans (of_reads (reads_deref _ _))
  intro _
  apply Within.ite
  · exact Within.get_bind fun s r t hRun =>
      fail _ s r t hRun
  · exact Within.bind trans (modifySocket p (by
        intro _
        rfl))
      fun _ => Within.pure refl _

/- A change of the mode leaves all owners alone. -/
theorem interfaceFionbio
    (env : ModeEnv)
    (i : Interface)
    (p : Ptr)
    (param : Int) :
    Within SameOwners (interfaceFionbio env i p param) := by
  cases i with
  | wsock =>
      apply Within.bind trans _ fun _ => Within.pure refl _
      apply Within.bind trans (of_reads (reads_deref _ _))
      intro lsd
      apply Within.bind trans (of_reads (reads_deref _ _))
      intro _
      apply Within.bind trans (callVxd _)
      intro _
      apply Within.ite (Within.pure refl _)
      apply Within.bind trans (modifySocket p (by
        intro _
        rfl))
      exact fun _ => Within.pure refl _
  | csock => exact csockIoctl _ p _
  | unix =>
      apply Within.bind trans (of_reads (reads_deref _ _))
      intro lsd
      apply Within.bind trans (of_reads (reads_deref _ _))
      intro usock
      apply Within.ite _ (fail _)
      apply Within.bind trans (fcntlNonblock _)
      intro ret
      apply Within.bind trans _ fun _ => Within.pure refl _
      apply Within.when refl
      exact Within.bind trans (fcntlNonblock _)
        fun _ => Within.pure refl _

theorem setBlock
    (s : Process)
    (p : Ptr)
    {b : Block}
    (hOther : ∀ d, b ≠ .socket d) :
    SameOwners s (s.setBlock p (some b)) := by
  constructor
  · rfl
  · intro q d' hSocket
    by_cases hQ : q = p
    · subst hQ
      rw [Process.heap_setBlock, Function.update_self]
        at hSocket
      exact absurd (Option.some.inj hSocket) (hOther d')
    · rw [Process.heap_setBlock, Function.update_of_ne hQ]
        at hSocket
      exact ⟨d', hSocket, rfl⟩

theorem malloc
    (address : Option Ptr)
    {content : Block}
    (hOther : ∀ d, content ≠ .socket d) :
    Within SameOwners (malloc address content) := by
  intro s r t hRun
  rcases malloc_ok hRun with ⟨-, rfl⟩ | ⟨p, -, -, -, rfl⟩
  · exact refl _
  · exact setBlock s p hOther

theorem modifyUnix
    (q : Option Ptr)
    (f : LsckSocketUnix → LsckSocketUnix) :
    Within SameOwners (modifyUnix q f) := by
  intro s r t hRun
  rcases modifyUnix_ok hRun with ⟨p, usock, -, -, rfl⟩
  exact setBlock s p (by simp)

theorem modifyCsock
    (q : Option Ptr)
    (f : LsckSocketCsock → LsckSocketCsock) :
    Within SameOwners (modifyCsock q f) := by
  intro s r t hRun
  rcases modifyCsock_ok hRun with ⟨p, csock, -, -, rfl⟩
  exact setBlock s p (by simp)

theorem modifyWsock
    (q : Option Ptr)
    (f : LsckSocketWsock → LsckSocketWsock) :
    Within SameOwners (modifyWsock q f) := by
  intro s r t hRun
  rcases modifyWsock_ok hRun with ⟨p, wsock, -, -, rfl⟩
  exact setBlock s p (by simp)

/- The interface's part of a new socket sets no owner. -/
theorem interfaceSocket
    (env : SocketEnv)
    (i : Interface)
    (p : Ptr) :
    Within SameOwners (interfaceSocket env i p) := by
  cases i with
  | wsock =>
      apply Within.bind trans (malloc _ (by simp))
      intro wsock
      apply Within.bind trans (modifySocket p (by
        intro _
        rfl))
      intro _
      apply Within.ite (fail _)
      apply Within.bind trans (callVxd _)
      intro _
      apply Within.ite (Within.pure refl _)
      exact Within.bind trans (modifyWsock _ _)
        fun _ => Within.pure refl _
  | csock =>
      apply Within.bind trans (malloc _ (by simp))
      intro csock
      apply Within.bind trans (modifySocket p (by
        intro _
        rfl))
      intro _
      apply Within.ite (fail _)
      rcases csockTake env.csock.scan with ⟨_ | n, ret⟩
      · exact Within.bind trans (modifyCsock _ _)
          fun _ => fail _
      · apply Within.bind trans (modifyCsock _ _)
        intro _
        apply Within.bind trans _ fun _ => Within.pure refl _
        exact csockIoctl _ p _
  | unix =>
      apply Within.bind trans (malloc _ (by simp))
      intro usock
      apply Within.bind trans (modifySocket p (by
        intro _
        rfl))
      intro _
      apply Within.ite (fail _)
      exact Within.bind trans (modifyUnix _ _)
        fun _ => Within.pure refl _

end SameOwners

------------------------------------------------------------
-- What The Code Does
------------------------------------------------------------

/- The descriptor, its interface and its owner. -/
structure Process.Owned
    (s : Process)
    (fd : Fd)
    (p : Ptr)
    (i : Interface)
    (pid owner : Int) : Prop where
  fds : FdsOk s.fds
  leads : s.LeadsTo fd p
  pid : (s.pid.toNat : Int) = pid
  socket : ∃ d, s.heap p = some (.socket d) ∧
    d.interface = some i ∧ d.urgentPid = owner

/- The result and the owner that the emulation comes to. -/
def emulatedOwner
    (pid owner request : Int) : Option Int × Int :=
  if request = fGetown then
    (some owner, owner)
  else if request = fSetown ∧
      (request = pid ∨ request = -pid) then
    (some 0, request)
  else
    (some (-1), owner)

/- What a call comes to. -/
def OwnerStep.Happens
    (i : Interface)
    (pid owner : Int)
    (x : OwnerStep) : Prop :=
  if x.command = fGetown ∨ x.command = fSetown then
    (x.result, x.owner) =
      if i = .wsock then
        (none, owner)
      else
        emulatedOwner pid owner
          (if x.command = fGetown then 0 else x.request)
  else
    x.result ≠ none ∧ x.owner = owner

/- It is as it should be if the condition is met. -/
theorem OwnerStep.lawful_iff
    {i : Interface}
    {pid owner : Int}
    {x : OwnerStep}
    (hHappens : x.Happens i pid owner) :
    x.Answers pid owner ∧ x.Keeps pid owner ↔
      x.Meets i pid owner := by
  rcases x with ⟨command, request, result, owner'⟩
  unfold Happens at hHappens
  unfold Answers Keeps Meets
  dsimp only at hHappens ⊢
  by_cases hGet : command = fGetown
  · rw [if_pos (.inl hGet)] at hHappens
    have hNot : fGetown ≠ fSetown := by decide
    by_cases hWsock : i = .wsock
    · rw [if_pos hWsock] at hHappens
      cases hHappens
      simp [hGet, hNot, hWsock]
    · rw [if_neg hWsock, if_pos hGet] at hHappens
      have hFails : emulatedOwner pid owner 0 =
          (some (-1), owner) := rfl
      rw [hFails] at hHappens
      cases hHappens
      simp [hGet, hNot, hWsock]
      omega
  by_cases hSet : command = fSetown
  · rw [if_pos (.inr hSet)] at hHappens
    have hNot : fSetown ≠ fGetown := by decide
    by_cases hWsock : i = .wsock
    · rw [if_pos hWsock] at hHappens
      cases hHappens
      simp [hSet, hNot, hWsock]
    · rw [if_neg hWsock, if_neg hGet] at hHappens
      unfold emulatedOwner at hHappens
      unfold Names
      by_cases hOwn : request = pid ∨ request = -pid
      · by_cases hAsk : request = fGetown
        · -- The owner is returned, but it is not set.
          rw [if_pos hAsk] at hHappens
          cases hHappens
          have hOther : request ≠ fSetown := by
            rw [hAsk]
            decide
          have hZero : ¬ (owner = 0 ∧ request = owner) := by
            unfold fGetown at hAsk
            omega
          simp [hSet, hNot, hWsock, hOwn, hOther]
          intro hOwner hSame
          exact hZero ⟨hOwner, hSame.symm⟩
        · by_cases hTell : request = fSetown
          · rw [if_neg hAsk, if_pos ⟨hTell, hOwn⟩] at hHappens
            cases hHappens
            simp only [hSet, hNot, hOwn, if_true, if_false]
            simp [hTell, hWsock]
          · rw [if_neg hAsk, if_neg fun h => hTell h.1]
              at hHappens
            cases hHappens
            simp [hSet, hNot, hWsock, hOwn, hTell]
      · by_cases hAsk : request = fGetown
        · rw [if_pos hAsk] at hHappens
          cases hHappens
          have hOther : request ≠ fSetown := by
            rw [hAsk]
            decide
          simp only [hSet, hNot, hOwn, hOther, if_true,
            if_false]
          simp [hAsk, hWsock]
        · rw [if_neg hAsk, if_neg fun h => hOwn h.2]
            at hHappens
          cases hHappens
          simp [hSet, hNot, hWsock, hOwn, hAsk]
  · rw [if_neg (not_or.mpr ⟨hGet, hSet⟩)] at hHappens
    simp [hGet, hSet, hHappens.1, hHappens.2]

section Run

variable {fd : Fd} {p : Ptr} {i : Interface}
variable {pid owner : Int} {s t : Process}

/- What changes no owner and is still keeps the descriptor. -/
theorem Process.Owned.of_still
    (hOwned : s.Owned fd p i pid owner)
    (hStill : Still s t)
    (hSame : SameOwners s t) :
    t.Owned fd p i pid owner := by
  rcases hOwned with ⟨hFds, hLeads, hPid, d, hSocket, hI, hO⟩
  have hEntry := hStill.entry hFds fd (.inl hLeads.1)
  refine ⟨hStill.fdsOk hFds, ?_, ?_, ?_⟩
  · unfold LeadsTo
    rw [hEntry]
    exact hLeads
  · rw [hSame.pid]
    exact hPid
  · have hShape := hStill.heap p
    rw [hSocket] at hShape
    rcases Option.map_eq_some_iff.mp hShape with
      ⟨b, hBlock, hB⟩
    rcases Block.shape_eq_socket hB with ⟨d', rfl, hStatus⟩
    rcases hSame.owner p d' hBlock with ⟨e, hE, hOwner⟩
    cases hSocket.symm.trans hE
    refine ⟨d', hBlock, ?_, hOwner.trans hO⟩
    exact (LsckSocket.same_of_status hStatus).2.1.trans hI

/- So does the check on entry. -/
theorem Process.Owned.check
    {d : LsckSocket}
    (hOwned : s.Owned fd p i pid owner)
    (hSocket : s.heap p = some (.socket d))
    (writable : Bool) :
    (s.check p d writable).Owned fd p i pid owner := by
  rcases hOwned with ⟨hFds, hLeads, hPid, e, hE, hI, hO⟩
  cases hSocket.symm.trans hE
  refine ⟨hFds, hLeads, hPid, d.checked writable,
    s.socket_check p d writable,
    (d.checked_interface writable).trans hI, ?_⟩
  rcases d.checked_cases writable with h | h
  · rw [h]
    exact hO
  · rw [h.2.2]
    exact hO

/- The emulation, on a socket. -/
theorem fcntlsocketEmulated_ok
    {command request ret : Int}
    (hOwned : s.Owned fd p i pid owner)
    (hRun : fcntlsocketEmulated p command request s =
      .ok (ret, t)) :
    ∃ owner', (some ret, owner') =
        emulatedOwner pid owner request ∧
      t.Owned fd p i pid owner' := by
  rcases hOwned with ⟨hFds, hLeads, hPid, d, hSocket, hI, hO⟩
  unfold fcntlsocketEmulated at hRun
  rw [run_bind_ok (derefSocket_run hSocket)] at hRun
  unfold emulatedOwner
  by_cases hAsk : request = fGetown
  · rw [if_pos hAsk] at hRun ⊢
    cases hRun
    exact ⟨owner, by rw [hO], hFds, hLeads, hPid, d, hSocket,
      hI, hO⟩
  rw [if_neg hAsk] at hRun ⊢
  have hFails : ∀ e, Libsocket.fail e s = .ok (ret, t) →
      (some ret, owner) = (some (-1), owner) ∧
        t.Owned fd p i pid owner := by
    intro e hFail
    cases hFail
    exact ⟨rfl, hFds, hLeads, hPid, d, hSocket, hI, hO⟩
  by_cases hTell : request = fSetown
  · rw [if_pos hTell, run_bind_ok (run_get s), hPid] at hRun
    by_cases hOwn : request = pid ∨ request = -pid
    · rw [if_neg fun h => hOwn.elim h.1 h.2, run_bind_ok
        (modifySocket_run hSocket)] at hRun
      cases hRun
      rw [if_pos ⟨hTell, hOwn⟩]
      refine ⟨request, rfl, hFds, hLeads, hPid,
        { d with urgentPid := request }, ?_, hI, rfl⟩
      rw [Process.heap_setBlock, Function.update_self]
    · rw [if_pos (not_or.mp hOwn)] at hRun
      rw [if_neg fun h => hOwn h.2]
      exact ⟨owner, hFails _ hRun⟩
  · rw [if_neg hTell] at hRun
    rw [if_neg fun h => hTell h.1]
    exact ⟨owner, hFails _ hRun⟩

/- What an interface says to a command about the owner. -/
theorem askFcntl_owner
    {command : Int}
    (hCommand : command ≠ fSetfl ∧ command ≠ fGetfl)
    (env : ModeEnv)
    (i : Interface)
    (p : Ptr)
    (request : Int)
    (s : Process) :
    askFcntl env i p command request s =
      .ok ((decide (i = .wsock), none), s) := by
  have hOther : ∀ i other, fcntlByMode env i other p command
      request s = .ok ((other, none), s) := by
    intro i other
    unfold fcntlByMode
    rw [if_neg hCommand.1, if_neg hCommand.2]
    rfl
  cases i with
  | wsock => exact hOther .wsock true
  | csock => exact hOther .csock false
  | unix => exact hOther .unix false

/- A command that is not about the mode. -/
theorem fcntlsocket_owner
    {env : ModeEnv}
    {command request : Int}
    {result : Option Int}
    (hOwned : s.Owned fd p i pid owner)
    (hCommand : command ≠ fSetfl ∧ command ≠ fGetfl)
    (hRun : fcntlsocket env fd command request s =
      .ok (result, t)) :
    ∃ owner', (result, owner') =
        (if i = .wsock then
          (none, owner)
        else
          emulatedOwner pid owner request) ∧
      t.Owned fd p i pid owner' := by
  rcases hOwned.socket with ⟨d, hSocket, hI, -⟩
  have hChecked := hOwned.check hSocket env.writable
  rcases prologue_ok hRun with ⟨-, hNone, -⟩ |
    ⟨p', d', i', hLeads', hSocket', hI', hTail⟩
  · exact absurd hOwned.leads (hNone p)
  cases hOwned.leads.2.symm.trans hLeads'.2
  cases hSocket.symm.trans hSocket'
  cases hI.symm.trans hI'
  rw [run_bind_ok (askFcntl_owner hCommand env i p request _)]
    at hTail
  by_cases hWsock : i = .wsock
  · rw [if_pos hWsock]
    simp only [hWsock, decide_true, if_true] at hTail
    cases hTail
    rw [hWsock] at hChecked
    exact ⟨owner, rfl, hWsock ▸ hChecked⟩
  · rw [if_neg hWsock]
    simp only [hWsock, decide_false, Bool.false_eq_true,
      if_false] at hTail
    rcases bind_eq_ok.mp hTail with ⟨ret, u, hEmulated, hPure⟩
    cases hPure
    exact fcntlsocketEmulated_ok hChecked hEmulated

/- A command about the mode. -/
theorem fcntlsocket_mode
    {env : ModeEnv}
    {command request : Int}
    {result : Option Int}
    (hOwned : s.Owned fd p i pid owner)
    (hCommand : command = fSetfl ∨ command = fGetfl)
    (hRun : fcntlsocket env fd command request s =
      .ok (result, t)) :
    result ≠ none ∧ t.Owned fd p i pid owner := by
  rcases hOwned.socket with ⟨d, hSocket, hI, -⟩
  have hChecked := hOwned.check hSocket env.writable
  rcases prologue_ok hRun with ⟨-, hNone, -⟩ |
    ⟨p', d', i', hLeads', hSocket', hI', hTail⟩
  · exact absurd hOwned.leads (hNone p)
  cases hOwned.leads.2.symm.trans hLeads'.2
  cases hSocket.symm.trans hSocket'
  cases hI.symm.trans hI'
  rcases bind_eq_ok.mp hTail with ⟨x, u, hAsk, hRest⟩
  dsimp only at hRest
  -- All three interfaces handle both commands.
  have hHandles : ∀ other, fcntlByMode env i other p command
      request (s.check p d env.writable) = .ok (x, u) →
      x.1 = true ∧ x.2 ≠ none ∧ u.Owned fd p i pid owner := by
    intro other hMode
    unfold fcntlByMode at hMode
    by_cases hSet : command = fSetfl
    · rw [if_pos hSet] at hMode
      rcases bind_eq_ok.mp hMode with ⟨rv, v, hCall, hPure⟩
      cases hPure
      refine ⟨rfl, Option.some_ne_none _, hChecked.of_still
        ?_ ?_⟩
      · exact still_interfaceFionbio _ _ _ _ _ _ _ hCall
      · exact SameOwners.interfaceFionbio _ _ _ _ _ _ _ hCall
    · rw [if_neg hSet, if_pos (hCommand.resolve_left hSet)]
        at hMode
      rcases bind_eq_ok.mp hMode with ⟨rv, v, hCall, hPure⟩
      cases hPure
      rcases bind_eq_ok.mp hCall with ⟨e, w, hRead, hLast⟩
      rcases derefSocket_ok hRead with ⟨rfl, -⟩
      cases hLast
      exact ⟨rfl, Option.some_ne_none _, hChecked⟩
  have hBoth : x.1 = true ∧ x.2 ≠ none ∧
      u.Owned fd p i pid owner := by
    cases i with
    | wsock => exact hHandles true hAsk
    | csock => exact hHandles false hAsk
    | unix => exact hHandles false hAsk
  rw [if_pos hBoth.1] at hRest
  cases hRest
  exact hBoth.2

/- One call through the handler of the descriptor. -/
theorem fsextFcntl_ok
    {env : ModeEnv}
    {command request : Int}
    {result : Option Int}
    (hOwned : s.Owned fd p i pid owner)
    (hRun : fsextFcntl env fd command request s =
      .ok (result, t)) :
    ∃ owner', t.Owned fd p i pid owner' ∧
      OwnerStep.Happens i pid owner
        ⟨command, request, result, owner'⟩ := by
  -- What is not about the owner has a result and keeps it.
  have hOther : command ≠ fGetown ∧ command ≠ fSetown →
      result ≠ none ∧ t.Owned fd p i pid owner →
      ∃ owner', t.Owned fd p i pid owner' ∧
        OwnerStep.Happens i pid owner
          ⟨command, request, result, owner'⟩ := by
    intro hNot hMode
    refine ⟨owner, hMode.2, ?_⟩
    unfold OwnerStep.Happens
    rw [if_neg (not_or.mpr hNot)]
    exact ⟨hMode.1, rfl⟩
  unfold fsextFcntl at hRun
  by_cases hSetfl : command = fSetfl
  · rw [if_pos hSetfl] at hRun
    apply hOther
    · rw [hSetfl]
      decide
    · exact fcntlsocket_mode hOwned (.inl hSetfl) hRun
  by_cases hGetfl : command = fGetfl
  · rw [if_neg hSetfl, if_pos hGetfl] at hRun
    apply hOther
    · rw [hGetfl]
      decide
    · exact fcntlsocket_mode hOwned (.inr hGetfl) hRun
  rw [if_neg hSetfl, if_neg hGetfl] at hRun
  by_cases hSet : command = fSetown
  · have hNot : command ≠ fGetown := by
      rw [hSet]
      decide
    rw [if_pos hSet] at hRun
    rcases fcntlsocket_owner hOwned ⟨hSetfl, hGetfl⟩ hRun with
      ⟨owner', hSame, hThere⟩
    refine ⟨owner', hThere, ?_⟩
    unfold OwnerStep.Happens
    rw [if_pos (.inr hSet), if_neg hNot]
    exact hSame
  rw [if_neg hSet] at hRun
  by_cases hGet : command = fGetown
  · rw [if_pos hGet] at hRun
    rcases fcntlsocket_owner hOwned ⟨hSetfl, hGetfl⟩ hRun with
      ⟨owner', hSame, hThere⟩
    refine ⟨owner', hThere, ?_⟩
    unfold OwnerStep.Happens
    rw [if_pos (.inl hGet), if_pos hGet]
    exact hSame
  · rw [if_neg hGet] at hRun
    cases hRun
    exact hOther ⟨hGet, hSet⟩ ⟨Option.some_ne_none _, hOwned⟩

/- A run is as it should be if it meets the condition. -/
theorem ownerLaw_iff
    {steps : List OwnerStep}
    (hOwned : s.Owned fd p i pid owner)
    (hRun : FcntlRun fd p s steps t) :
    OwnerLaw pid owner steps ↔ OwnerMeets i pid owner steps := by
  induction hRun generalizing owner with
  | done => exact Iff.rfl
  | step hCall hSocket _ ih =>
      rcases fsextFcntl_ok hOwned hCall with
        ⟨owner', hThere, hHappens⟩
      rcases hThere.socket with ⟨d, hD, -, hOwner⟩
      cases hSocket.symm.trans hD
      rw [hOwner]
      unfold OwnerLaw OwnerMeets
      rw [OwnerStep.lawful_iff hHappens, ih hThere]

end Run

------------------------------------------------------------
-- The Law On Sockets
------------------------------------------------------------

/- A new socket is owned by the process that made it. -/
theorem socketx_owner
    {env : SocketEnv}
    {domain type protocol : Int}
    {interface : Option Interface}
    {s s' : Process}
    {fd : Fd}
    {p : Ptr}
    {d : LsckSocket}
    (hForm : WellFormed none s)
    (hRun : socketx env domain type protocol interface s =
      .ok (fd, s'))
    (hSuccess : fd ≠ -1)
    (hLeads : s'.LeadsTo fd p)
    (hSocket : s'.heap p = some (.socket d)) :
    d.urgentPid = s'.pid.toNat := by
  have hForm' := (socketx_evolves hForm.fds hRun).1.form hForm
  rcases socketx_ok hForm.fds hRun with ⟨hFail, -⟩ |
    ⟨-, fd', slot, q, hReserved, hOn⟩
  · exact absurd hFail hSuccess
  unfold socketOn at hOn
  cases hChosen :
      chosenInterface s domain type protocol interface with
  | none =>
      rw [(socketx_quiet hChosen hForm.fds hRun).1]
        at hSuccess
      exact absurd rfl hSuccess
  | some i =>
      simp only [hChosen] at hOn
      rcases bind_eq_ok.mp hOn with ⟨ret, w, hCall, hTail⟩
      have hHere := Reserved.socket_withSocket s slot q
        (reservedSocket s fd' domain type protocol interface)
      rcases attaches_interfaceSocket env i q _ ret w hCall
        with ⟨idata, v, hAttached, hStill, -⟩
      have hSame := SameOwners.interfaceSocket env i q _ _ _
        hCall
      by_cases hRet : ret = -1
      · rw [if_pos hRet, run_bind_ok (run_get w)] at hTail
        rcases bind_eq_ok.mp hTail with ⟨_, t, -, hFail⟩
        cases hFail
        exact absurd rfl hSuccess
      · rw [if_neg hRet] at hTail
        cases hTail
        rcases hStill.socket (hAttached.socket hHere) with
          ⟨d', hNew, hStatus⟩
        have hFd : d'.fd = fd :=
          (LsckSocket.same_of_status hStatus).1
        -- The descriptor leads to the block it was made in.
        have hEntry := hForm'.entry hNew
        rw [hFd] at hEntry
        cases hEntry.2.symm.trans hLeads.2
        cases hNew.symm.trans hSocket
        rcases hSame.owner p d hSocket with ⟨e, hE, hOwner⟩
        cases hE.symm.trans hHere
        rw [hSame.pid]
        exact hOwner

/-
  What calls of `fcntl` say about the owner is right exactly
  when no call reaches the switch that looks at the argument
  in the place of the command, or it makes no difference.
  The owner of a new socket is always right.
-/
theorem owner_law_iff
    {fd : Fd}
    {p : Ptr}
    {d : LsckSocket}
    {i : Interface}
    {s t : Process}
    {steps : List OwnerStep}
    (hFds : FdsOk s.fds)
    (hLeads : s.LeadsTo fd p)
    (hSocket : s.heap p = some (.socket d))
    (hInterface : d.interface = some i)
    (hRun : FcntlRun fd p s steps t) :
    (OwnerLaw s.pid.toNat d.urgentPid steps ↔
      OwnerMeets i s.pid.toNat d.urgentPid steps) ∧
    ∀ env domain type protocol interface s₀,
      WellFormed none s₀ →
      socketx env domain type protocol interface s₀ =
        .ok (fd, s) →
      fd ≠ -1 →
      d.urgentPid = s.pid.toNat := by
  constructor
  · exact ownerLaw_iff ⟨hFds, hLeads, rfl, d, hSocket,
      hInterface, rfl⟩ hRun
  · intro env domain type protocol interface s₀ hForm hMade
      hSuccess
    exact socketx_owner hForm hMade hSuccess hLeads hSocket

/- A stream of the second interface. -/
def csockStream : Process :=
  (runCalls [.socketx (.granting 3 10 11) afInet sockStream 0
    (some .csock)] bareProcess).getD bareProcess

theorem reachable_csockStream :
    lsckSystem.Reachable csockStream := by
  have hSome : (runCalls [.socketx (.granting 3 10 11) afInet
      sockStream 0 (some .csock)] bareProcess).isSome =
      true := by decide +kernel
  rcases Option.isSome_iff_exists.mp hSome with ⟨s, hS⟩
  unfold csockStream
  rw [hS]
  exact reachable_of_calls hS

/- What the descriptor is in a state that was computed. -/
theorem exists_owned
    {p : Ptr}
    {s : Process}
    (check : LsckSocket → Bool)
    (hCheck : (s.socket? p).any check = true) :
    ∃ d, s.heap p = some (.socket d) ∧ check d = true := by
  rcases (Option.any_eq_true _ _).mp hCheck with ⟨d, hD, hIs⟩
  exact ⟨d, Process.socket?_eq_some.mp hD, hIs⟩

/- Another process is refused, and the mode is asked for. -/
theorem owner_refused :
    OwnerLaw 1 1
      [⟨fSetown, 2, some (-1), 1⟩,
        ⟨fGetfl, 0, some oNonblock, 1⟩] ∧
      ∃ t, FcntlRun 3 10 csockStream
        [⟨fSetown, 2, some (-1), 1⟩,
          ⟨fGetfl, 0, some oNonblock, 1⟩] t := by
  have hFds :=
    (wellFormed_of_reachable reachable_csockStream).fds
  have hSet : fsextFcntl (.granting 0) 3 fSetown 2 csockStream =
      .ok (some (-1), _) := run_after (by decide +kernel)
  have hGet : fsextFcntl (.granting 0) 3 fGetfl 0
      (after (fsextFcntl (.granting 0) 3 fSetown 2) csockStream) =
      .ok (some oNonblock, _) := run_after (by decide +kernel)
  have hFirst : ∃ d, csockStream.heap 10 = some (.socket d) ∧
      _ := exists_owned (fun d =>
        d.interface == some .csock && d.urgentPid == 1)
        (by decide +kernel)
  have hSecond : ∃ d, (after
      (fsextFcntl (.granting 0) 3 fSetown 2)
      csockStream).heap 10 = some (.socket d) ∧ _ :=
    exists_owned (fun d => d.urgentPid == 1)
      (by decide +kernel)
  have hThird : ∃ d, (after (fsextFcntl (.granting 0) 3 fGetfl 0)
      (after (fsextFcntl (.granting 0) 3 fSetown 2)
        csockStream)).heap 10 = some (.socket d) ∧ _ :=
    exists_owned (fun d => d.urgentPid == 1)
      (by decide +kernel)
  rcases hFirst with ⟨d, hSocket, hD⟩
  rcases hSecond with ⟨d₁, hSocket₁, hOwner₁⟩
  rcases hThird with ⟨d₂, hSocket₂, hOwner₂⟩
  rw [Bool.and_eq_true, beq_iff_eq, beq_iff_eq] at hD
  rw [beq_iff_eq] at hOwner₁ hOwner₂
  have hRun : FcntlRun 3 10 csockStream
      [⟨fSetown, 2, some (-1), d₁.urgentPid⟩,
        ⟨fGetfl, 0, some oNonblock, d₂.urgentPid⟩] _ :=
    .step hSet hSocket₁ (.step hGet hSocket₂ .done)
  have hLeads : csockStream.LeadsTo 3 10 := by
    constructor
    · decide +kernel
    · decide +kernel
  have hLaw := (owner_law_iff hFds hLeads hSocket
    hD.1 hRun).1
  have hPid : csockStream.pid.toNat = 1 := by decide +kernel
  rw [hPid, hD.2, hOwner₁, hOwner₂] at hLaw
  rw [hOwner₁, hOwner₂] at hRun
  refine ⟨hLaw.mpr ?_, _, hRun⟩
  constructor
  · refine .inr ⟨by decide, .inr ⟨rfl, .inr ⟨by decide, ?_⟩⟩⟩
    intro hAsks
    cases hAsks
  · exact ⟨.inl (by decide), trivial⟩

/- Asking for the owner answers with what is no result. -/
theorem owner_unassigned :
    ¬ ∀ (fd : Fd) (p : Ptr) (d : LsckSocket) (s t : Process)
        (steps : List OwnerStep),
      lsckSystem.Reachable s →
      s.LeadsTo fd p →
      s.heap p = some (.socket d) →
      FcntlRun fd p s steps t →
      OwnerLaw s.pid.toNat d.urgentPid steps := by
  intro hAlways
  have hReach : lsckSystem.Reachable newStream := by
    have hSome : (runCalls [streamCall] bareProcess).isSome =
        true := by decide +kernel
    rcases Option.isSome_iff_exists.mp hSome with ⟨s, hS⟩
    unfold newStream
    rw [hS]
    exact reachable_of_calls hS
  have hGet : fsextFcntl (.granting 0) 3 fGetown 0 newStream =
      .ok (none, _) := run_after (by decide +kernel)
  have hFirst : ∃ d, newStream.heap 10 = some (.socket d) ∧
      _ := exists_owned (fun _ => true) (by decide +kernel)
  have hSecond : ∃ d, (after
      (fsextFcntl (.granting 0) 3 fGetown 0)
      newStream).heap 10 = some (.socket d) ∧ _ :=
    exists_owned (fun _ => true) (by decide +kernel)
  rcases hFirst with ⟨d, hSocket, -⟩
  rcases hSecond with ⟨d₁, hSocket₁, -⟩
  have hLeads : newStream.LeadsTo 3 10 := by
    constructor
    · decide +kernel
    · decide +kernel
  have hLaw := hAlways 3 10 d newStream _ _ hReach hLeads
    hSocket (.step hGet hSocket₁ .done)
  cases hLaw.1.1

end Libsocket
