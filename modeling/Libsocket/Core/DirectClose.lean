import Libsocket.Core.HalfClose
import Libsocket.Core.Table

/-
  The public `closesocket` beside `close`. It releases the
  block of a socket, but leaves the extension handler and
  the data of the descriptor number in place.

  Main declarations:
    * `CloseCall`, `closeSystem`
    * `NoDangling`, `Refuses`
    * `DirectClose`
    * `close_releases`, `direct_close_dangles`
-/

namespace Libsocket

open Command

------------------------------------------------------------
-- The System With Both Ways To Close
------------------------------------------------------------

/- The calls of the library, with the direct `closesocket`. -/
inductive CloseCall
  | call (call : SocketCall)
  | closesocket (answer : CloseAnswer) (r w : CloseEnv) (s : Fd)

def closeExec : CloseCall → Exec Int
| .call call => socketExec call
| .closesocket answer r w s =>
    closesocket (closeFd r) (closeFd w) answer s

/- All runs of the library with these calls. -/
def closeSystem : TransitionSystem Process CloseCall :=
  TransitionSystem.ofExec Booted closeExec

/- The number that one of the two calls is to close. -/
def CloseCall.closes : CloseCall → Option Fd
| .call (.call (.close _ s)) => some s
| .closesocket _ _ _ s => some s
| _ => none

/- The number that a socket call works on. -/
def CloseCall.worksOn : CloseCall → Option Fd
| .call (.call (.accept _ s _ _)) => some s
| .call (.call (.bind _ s _ _)) => some s
| .call (.call (.listen _ s _)) => some s
| .call (.call (.connect _ s _ _)) => some s
| .call (.call (.sendto _ s _ _ _ _)) => some s
| .call (.call (.shutdown _ s _)) => some s
| .call (.call (.ioctl _ s _)) => some s
| .call (.call (.fcntl _ s _)) => some s
| .call (.send _ s _ _) => some s
| .call (.recv _ s _ _ _) => some s
| .call (.recvfrom _ s _ _ _ _ _) => some s
| .call (.getsockname _ s _) => some s
| .call (.getpeername _ s _) => some s
| .closesocket _ _ _ s => some s
| _ => none

------------------------------------------------------------
-- What Should Hold
------------------------------------------------------------

/-
  Whatever the library can follow leads to a live block: a
  number of the socket extension and a slot to a socket, and
  a socket to interface data that no other one has.
-/
structure NoDangling (s : Process) : Prop where
  number : ∀ fd, fdIsSocket s fd = true →
    ∃ p d, fdToLsd fd s = .ok (some p, s) ∧
      s.heap p = some (.socket d) ∧ d.fd = fd
  slot : ∀ i p, i < lsckNumSocket → s.table i = some p →
    ∃ d, s.heap p = some (.socket d)
  data : ∀ p d, s.heap p = some (.socket d) →
    ∃ q b, d.idata = some q ∧ s.heap q = some b ∧
      b.socket? = none
  own : ∀ p p' d d', s.heap p = some (.socket d) →
    s.heap p' = some (.socket d') → d.idata = d'.idata →
      p = p'

/- Every socket call on the number fails, and changes no more
   than the error number. -/
def Refuses (s : Process) (fd : Fd) : Prop :=
  ∀ call : CloseCall, call.worksOn = some fd →
    ∃ e, closeExec call s =
      .ok (-1, { s with errno := e })

/- The close callback will succeed. -/
def CloseAnswer.Grants
    (answer : CloseAnswer) : Interface → Bool
| .wsock => !vxdFails answer.wsockCode
| .csock => answer.csockAnswer == 0
| .unix => true

/- A direct `closesocket` of a socket that will succeed. -/
def DirectClose (s : Process) : CloseCall → Prop
| .closesocket answer _ _ fd =>
    ∃ p d i, s.LeadsTo fd p ∧
      s.heap p = some (.socket d) ∧ d.interface = some i ∧
      answer.Grants i = true
| .call _ => False

------------------------------------------------------------
-- Numbers That Are No Sockets
------------------------------------------------------------

theorem isfdtype_run (fd : Fd) (s : Process) :
    isfdtype fd s = .ok ((), { s with
      errno := if fdIsValid s fd then s.errno
        else Errno.EBADF }) := by
  unfold isfdtype
  rw [run_bind_ok (run_get s)]
  by_cases hValid : fdIsValid s fd = true
  · rw [if_pos hValid, if_pos hValid]
    rfl
  · rw [if_neg hValid, if_neg hValid]
    rfl

theorem enter_unused
    {fd : Fd}
    {s : Process}
    (hFree : fdIsSocket s fd = false)
    (writable : Bool) :
    ∃ e, enter writable fd s =
      .ok (none, { s with errno := e }) := by
  have hFound : fdToLsd fd s = .ok (none, s) := by
    unfold fdToLsd
    rw [run_bind_ok (run_get s), if_neg (by simp [hFree])]
    rfl
  unfold enter
  rw [run_bind_ok hFound]
  dsimp only
  rw [run_bind_ok (isfdtype_run fd s)]
  exact ⟨_, rfl⟩

/- A call that goes through the prologue refuses it. -/
theorem prologue_unused
    {α : Type}
    {fd : Fd}
    {s : Process}
    (hFree : fdIsSocket s fd = false)
    (writable : Bool)
    (x : α)
    (rest : Ptr → Exec α) :
    ∃ e, (do
      let found ← enter writable fd
      match found with
      | none => return x
      | some p => rest p) s =
        .ok (x, { s with errno := e }) := by
  rcases enter_unused hFree writable with ⟨e, hEnter⟩
  refine ⟨e, ?_⟩
  rw [run_bind_ok hEnter]
  rfl

/- A result that is handed on to the caller in part. -/
theorem bind_unused
    {α : Type}
    {m : Exec α}
    {x : α}
    {f : α → Exec Int}
    {s : Process}
    (hRefused : ∃ e, m s = .ok (x, { s with errno := e }))
    (hRest : f x = pure (-1)) :
    ∃ e, (m >>= f) s = .ok (-1, { s with errno := e }) := by
  rcases hRefused with ⟨e, hRun⟩
  refine ⟨e, ?_⟩
  rw [run_bind_ok hRun, hRest]
  rfl

/- All socket calls go through it. -/
theorem refuses_unused
    {fd : Fd}
    {s : Process}
    (hFree : fdIsSocket s fd = false) :
    Refuses s fd := by
  intro call hOn
  cases call with
  | closesocket answer r w n =>
      cases hOn
      exact prologue_unused hFree _ _ _
  | call call =>
      cases call with
      | call call =>
          cases call with
          | socketx => cases hOn
          | socketpair => cases hOn
          | close => cases hOn
          | arrive => cases hOn
          | accept =>
              cases hOn
              exact prologue_unused hFree _ _ _
          | bind =>
              cases hOn
              exact prologue_unused hFree _ _ _
          | listen =>
              cases hOn
              exact prologue_unused hFree _ _ _
          | connect =>
              cases hOn
              exact prologue_unused hFree _ _ _
          | sendto =>
              cases hOn
              exact prologue_unused hFree _ _ _
          | shutdown =>
              cases hOn
              exact prologue_unused hFree _ _ _
          | ioctl =>
              cases hOn
              exact prologue_unused hFree _ _ _
          | fcntl =>
              cases hOn
              exact prologue_unused hFree _ _ _
      | write => cases hOn
      | read => cases hOn
      | send =>
          cases hOn
          exact prologue_unused hFree _ _ _
      | recv =>
          cases hOn
          exact bind_unused (prologue_unused hFree _ _ _) rfl
      | recvfrom =>
          cases hOn
          exact bind_unused (prologue_unused hFree _ _ _) rfl
      | getsockname =>
          cases hOn
          exact bind_unused (prologue_unused hFree _ _ _) rfl
      | getpeername =>
          cases hOn
          exact bind_unused (prologue_unused hFree _ _ _) rfl

------------------------------------------------------------
-- Closing
------------------------------------------------------------

/- The callback's answer is 0 if and only if it is granted. -/
theorem interfaceClose_granted
    {closeR closeW : Fd → Exec Int}
    {answer : CloseAnswer}
    {i : Interface}
    {p : Ptr}
    {s s' : Process}
    (hRun : interfaceClose closeR closeW answer i p s =
      .ok (0, s')) :
    answer.Grants i = true := by
  cases i with
  | unix => rfl
  | csock =>
      rcases bind_eq_ok.mp hRun with ⟨lsd, t, -, hRest⟩
      rcases bind_eq_ok.mp hRest with ⟨data, u, -, hTail⟩
      by_cases hAnswer : answer.csockAnswer ≠ 0
      · rw [if_pos hAnswer] at hTail
        cases hTail
      · simpa [CloseAnswer.Grants] using hAnswer
  | wsock =>
      rcases bind_eq_ok.mp hRun with ⟨lsd, t, -, hRest⟩
      rcases bind_eq_ok.mp hRest with ⟨data, u, -, hTail⟩
      rcases bind_eq_ok.mp hTail with ⟨_, v, -, hLast⟩
      by_cases hFails : vxdFails answer.wsockCode = true
      · rw [if_pos hFails] at hLast
        cases hLast
      · simpa [CloseAnswer.Grants] using hFails

/- A direct close that does not succeed releases nothing. -/
theorem drift_closesocket
    {answer : CloseAnswer}
    {r w : CloseEnv}
    {fd : Fd}
    {s s' : Process}
    {ret : Int}
    (hRun : closesocket (closeFd r) (closeFd w) answer fd s =
      .ok (ret, s'))
    (hFails : ret ≠ 0) :
    Drift none s s' := by
  apply drift_closeSocket (drift_closeFd r) (drift_closeFd w)
    answer fd s ret s'
  rw [run_bind_ok hRun, when, if_neg hFails]
  rfl

/- Only a socket with an answer that grants it is closed. -/
theorem directClose_of_success
    {answer : CloseAnswer}
    {r w : CloseEnv}
    {fd : Fd}
    {s s' : Process}
    (hRun : closesocket (closeFd r) (closeFd w) answer fd s =
      .ok (0, s')) :
    DirectClose s (.closesocket answer r w fd) := by
  rcases prologue_ok hRun with ⟨hNone, -⟩ |
    ⟨p, d, i, hLeads, hSocket, hInterface, hTail⟩
  · cases hNone
  have hProvides : i.provides .close = true := by
    cases i <;> rfl
  simp only [if_pos hProvides] at hTail
  rcases bind_eq_ok.mp hTail with ⟨ret, t, hCall, hRest⟩
  rcases bind_eq_ok.mp hRest with ⟨_, u, -, hPure⟩
  cases hPure
  exact ⟨p, d, i, hLeads, hSocket, hInterface,
    interfaceClose_granted hCall⟩

theorem closeMailslot_frees
    {fd : Fd}
    {s s' : Process}
    (hRun : closeMailslot fd s = .ok (0, s')) :
    (s'.fds fd).dosOpen = false := by
  unfold closeMailslot at hRun
  rw [run_bind_ok (run_get s)] at hRun
  cases hData : (s.fds fd).data with
  | none =>
      rw [hData] at hRun
      cases hRun
  | some data =>
      cases data with
      | lsd p =>
          rw [hData] at hRun
          cases hRun
      | mailslot me =>
          rw [hData] at hRun
          cases hHandle : me.handle with
          | none =>
              simp only [hHandle] at hRun
              cases hRun
              simp
          | some handle =>
              simp only [hHandle] at hRun
              cases hRun
              simp [Process.setMail]

/- A number that `close` has closed is free. -/
theorem closeFd_frees
    {env : CloseEnv}
    {fd : Fd}
    {s s' : Process}
    (hRun : closeFd env fd s = .ok (0, s')) :
    (s'.fds fd).dosOpen = false := by
  cases env with
  | leaf => cases hRun
  | node answer r w =>
      unfold closeFd at hRun
      rw [run_bind_ok (run_get s)] at hRun
      cases hFunction : (s.fds fd).function with
      | none =>
          simp only [hFunction] at hRun
          by_cases hOpen : (s.fds fd).dosOpen = true
          · rw [if_pos hOpen] at hRun
            cases hRun
            simp
          · rw [if_neg hOpen] at hRun
            cases hRun
      | some handler =>
          simp only [hFunction] at hRun
          cases handler with
          | mailslotHandler =>
              exact closeMailslot_frees hRun
          | lsckSocketFsext =>
              rcases bind_eq_ok.mp hRun with
                ⟨rv, t, -, hRest⟩
              rcases bind_eq_ok.mp hRest with
                ⟨_, u, hRelease, hPure⟩
              cases hPure
              rw [when, if_pos rfl, releaseFd_run] at hRelease
              cases hRelease
              simp [FdEntry.unused]

------------------------------------------------------------
-- Runs
------------------------------------------------------------

/- The runs in which no direct `closesocket` succeeds. -/
def carefulSystem : TransitionSystem Process CloseCall where
  init := Booted
  step s call s' :=
    ¬ DirectClose s call ∧ closeSystem.step s call s'

theorem wellFormed_closeExec
    {call : CloseCall}
    {s s' : Process}
    {r : Int}
    (hForm : WellFormed none s)
    (hCareful : ¬ DirectClose s call)
    (hRun : closeExec call s = .ok (r, s')) :
    WellFormed none s' := by
  cases call with
  | call call => exact wellFormed_socketExec hForm hRun
  | closesocket answer r' w fd =>
      by_cases hFails : r = 0
      · subst hFails
        exact absurd (directClose_of_success hRun) hCareful
      · exact (drift_closesocket hRun hFails).form hForm

theorem wellFormed_of_careful
    {s : Process}
    (hReach : carefulSystem.Reachable s) :
    WellFormed none s := by
  apply TransitionSystem.ReachableUnder.invariant _ _ hReach
  · intro s hInit
    exact Booted.wellFormed hInit
  · intro s call s' hForm _ hStep
    rcases hStep with ⟨hCareful, r, hRun⟩
    exact wellFormed_closeExec hForm hCareful hRun

theorem WellFormed.noDangling
    {s : Process}
    (hForm : WellFormed none s) :
    NoDangling s := by
  constructor
  · intro fd hSocket
    have hHandler :
        (s.fds fd).function = some .lsckSocketFsext := by
      simpa [fdIsSocket] using hSocket
    rcases hForm.target hHandler with ⟨p, d, hData, hD, hFd⟩
    refine ⟨p, d, ?_, hD, hFd⟩
    unfold fdToLsd
    rw [run_bind_ok (run_get s), if_pos hSocket, hData]
    rfl
  · intro i p hIn hSlot
    rcases hForm.slot_live hIn hSlot with ⟨d, hD, -⟩
    exact ⟨d, hD⟩
  · intro p d hD
    rcases hForm.data p d hD (by simp) with
      ⟨i, q, b, -, hData, hBlock, hKind⟩
    refine ⟨q, b, hData, hBlock, ?_⟩
    cases b with
    | socket _ => cases hKind
    | unix _ => rfl
    | csock _ => rfl
    | wsock _ => rfl
  · intro p p' d d' hD hD' hSame
    exact hForm.own p p' d d' hD hD' (by simp) (by simp) hSame

/- A number that is not open is no socket's. -/
theorem WellFormed.fdIsSocket_of_closed
    {s : Process}
    (hForm : WellFormed none s)
    {fd : Fd}
    (hClosed : (s.fds fd).dosOpen = false) :
    fdIsSocket s fd = false := by
  simp [fdIsSocket, hForm.fds.closed fd hClosed]

/-
  In every run in which no direct `closesocket` succeeds,
  nothing that the library can follow dangles, and a number
  that has been closed is no socket, and refuses all socket
  calls, until it is opened again.
-/
theorem close_releases
    {s : Process}
    (hReach : carefulSystem.Reachable s) :
    NoDangling s ∧
      ∀ (call : CloseCall) (fd : Fd) (t u : Process),
        call.closes = some fd → ¬ DirectClose s call →
        closeExec call s = .ok (0, t) →
        carefulSystem.Path
          (fun v => (v.fds fd).dosOpen = false) t u →
        NoDangling u ∧ fdIsSocket u fd = false ∧
          Refuses u fd := by
  constructor
  · exact (wellFormed_of_careful hReach).noDangling
  intro call fd t u hCloses hCareful hRun hLater
  have hFree : (t.fds fd).dosOpen = false := by
    cases call with
    | call call =>
        cases call with
        | call call =>
            cases call with
            | close env s =>
                cases hCloses
                exact closeFd_frees hRun
            | _ => cases hCloses
        | _ => cases hCloses
    | closesocket answer r w s =>
        exact absurd (directClose_of_success hRun) hCareful
  have hReachT : carefulSystem.Reachable t :=
    .step hReach trivial ⟨hCareful, 0, hRun⟩
  have hFreeU : (u.fds fd).dosOpen = false := by
    cases hLater with
    | refl => exact hFree
    | step _ _ hOk => exact hOk
  have hForm := wellFormed_of_careful
    (hLater.reachable hReachT)
  have hNone := hForm.fdIsSocket_of_closed hFreeU
  exact ⟨hForm.noDangling, hNone, refuses_unused hNone⟩

/- A close of the first socket that succeeds. -/
def CloseAnswer.granting : CloseAnswer where
  writable := false
  write := ⟨true, .zero⟩
  csockAnswer := 0
  wsockCode := 0

def closeFirst : CloseCall :=
  .call (.call (.close (.node .granting .leaf .leaf) 3))

def closesocketFirst : CloseCall :=
  .closesocket .granting .leaf .leaf 3

/- The first socket of a run, right after its creation. -/
theorem exists_firstSocket :
    ∃ s, carefulSystem.Reachable s ∧
      closeSystem.Reachable s ∧
      runCalls [streamCall] bareProcess = some s := by
  have hSome :
      (runCalls [streamCall] bareProcess).isSome = true := by
    decide +kernel
  rcases Option.isSome_iff_exists.mp hSome with ⟨s, hRun⟩
  have hStep : ∃ r, exec streamCall bareProcess =
      .ok (r, s) := by
    unfold runCalls TransitionSystem.runUnder at hRun
    rw [if_pos rfl] at hRun
    cases hExec : exec streamCall bareProcess with
    | error e =>
        rw [hExec] at hRun
        cases hRun
    | ok next =>
        rcases next with ⟨r, t⟩
        rw [hExec] at hRun
        cases hRun
        exact ⟨r, rfl⟩
  rcases hStep with ⟨r, hExec⟩
  refine ⟨s, ?_, ?_, hRun⟩
  · exact .step (a := .call (.call streamCall))
      (.init booted_bareProcess) trivial
      ⟨id, r, hExec⟩
  · exact .step (a := .call (.call streamCall))
      (.init booted_bareProcess) trivial ⟨r, hExec⟩

theorem close_releases_first :
    ∃ s t, closeExec closeFirst s = .ok (0, t) ∧
      NoDangling t ∧ fdIsSocket t 3 = false ∧
        Refuses t 3 := by
  rcases exists_firstSocket with ⟨s, hReach, -, hRun⟩
  have hAnswer : (runCalls [streamCall] bareProcess).any
      (fun s => (closeExec closeFirst s).toOption.any
        (fun next => next.1 == 0)) = true := by
    decide +kernel
  rw [hRun, Option.any_some] at hAnswer
  cases hClose : closeExec closeFirst s with
  | error e =>
      rw [hClose] at hAnswer
      cases hAnswer
  | ok next =>
      rcases next with ⟨r, t⟩
      rw [hClose] at hAnswer
      simp only [Except.toOption, Option.any_some, beq_iff_eq]
        at hAnswer
      subst hAnswer
      exact ⟨s, t, hClose, (close_releases hReach).2
        closeFirst 3 t t rfl id hClose .refl⟩

/- The call ends in undefined behaviour. -/
def faults {α : Type} (m : Exec α) (s : Process) : Bool :=
  match m s with
  | .error .fault => true
  | _ => false

theorem eq_fault_of_faults
    {α : Type}
    {m : Exec α}
    {s : Process}
    (hFaults : faults m s = true) :
    m s = .error .fault := by
  unfold faults at hFaults
  split at hFaults
  next hRun => exact hRun
  next => cases hFaults

/-
  A direct `closesocket` returns 0 and leaves a number that
  is still a socket. A send on it follows the pointer to the
  block that was freed.
-/
theorem direct_close_dangles :
    ∃ s t, closeSystem.Reachable s ∧
      closesocketFirst.closes = some 3 ∧
      closeExec closesocketFirst s = .ok (0, t) ∧
      fdIsSocket t 3 = true ∧
      closeExec (.call (.call sendCall)) t =
        .error .fault := by
  rcases exists_firstSocket with ⟨s, -, hReach, hRun⟩
  have hAnswer : (runCalls [streamCall] bareProcess).any
      (fun s => (closeExec closesocketFirst s).toOption.any
        (fun next => next.1 == 0 && fdIsSocket next.2 3 &&
          faults (closeExec (.call (.call sendCall)))
            next.2)) = true := by
    decide +kernel
  rw [hRun, Option.any_some] at hAnswer
  cases hClose : closeExec closesocketFirst s with
  | error e =>
      rw [hClose] at hAnswer
      cases hAnswer
  | ok next =>
      rcases next with ⟨r, t⟩
      rw [hClose] at hAnswer
      simp only [Except.toOption, Option.any_some,
        Bool.and_eq_true, beq_iff_eq] at hAnswer
      rcases hAnswer with ⟨⟨rfl, hStill⟩, hFaults⟩
      exact ⟨s, t, hReach, rfl, hClose, hStill,
        eq_fault_of_faults hFaults⟩

end Libsocket
