import Libsocket.Core.Transfer
import Libsocket.Core.Fresh
import Libsocket.Unix.Names

/-
  A direction that has been shut down stays shut: no call
  opens it again, and no call uses the interface's callback
  for it, until the descriptor is closed.

  Main declarations:
    * `SocketCall`, `socketSystem`
    * `LsckSocket.Narrows`
    * `Kept`, `Narrowing`
    * `IgnoresSend`, `IgnoresRecv`
    * `half_close_permanent`
-/

namespace Libsocket

open Command

------------------------------------------------------------
-- The System With All Ways To Send And Receive
------------------------------------------------------------

/- The calls of the library with those that move data. -/
inductive SocketCall
  | call (call : Call)
  | send (env : SendEnv) (s : Fd) (msg : Option Bytes)
      (flags : Nat)
  | write (env : SendEnv) (s : Fd) (msg : Option Bytes)
  | recv (env : RecvEnvs) (s : Fd) (buf : Bool)
      (len flags : Nat)
  | recvfrom (env : RecvEnvs) (s : Fd) (buf : Bool)
      (len flags : Nat) (source : Bool)
      (fromlen : Option Nat)
  | read (env : RecvEnvs) (s : Fd) (buf : Bool) (count : Nat)
  | getsockname (env : NameEnv) (s : Fd) (namelen : Nat)
  | getpeername (env : NameEnv) (s : Fd) (namelen : Nat)

/- A call's effect, without the data that it returns. -/
def socketExec : SocketCall → Exec Int
| .call call => exec call
| .send env s msg flags => send env s msg flags
| .write env s msg => writeFsext env s msg
| .recv env s buf len flags => do
    let (r, _) ← recv env s buf len flags
    return r
| .recvfrom env s buf len flags source fromlen => do
    let (r, _) ←
      recvfrom env s buf len flags source fromlen
    return r
| .read env s buf count => readFsext env s buf count
| .getsockname env s namelen => do
    let r ← getsockname env s namelen
    return if r.isSome then 0 else -1
| .getpeername env s namelen => do
    let r ← getpeername env s namelen
    return if r.isSome then 0 else -1

/- All runs of the library with these calls. -/
def socketSystem : TransitionSystem Process SocketCall :=
  TransitionSystem.ofExec Booted socketExec

/- It reaches what the other calls reach by themselves. -/
theorem socketSystem_reachable
    {s : Process}
    (hReach : lsckSystem.Reachable s) :
    socketSystem.Reachable s := by
  induction hReach with
  | init hInit => exact .init hInit
  | @step s s' call _ _ hStep ih =>
      exact .step (a := .call call) ih trivial hStep

------------------------------------------------------------
-- Directions
------------------------------------------------------------

/- Every direction that is shut stays shut. -/
structure LsckSocket.Narrows (d d' : LsckSocket) : Prop where
  fd : d'.fd = d.fd
  data : d'.idata = d.idata
  inbound : d.inbound = false → d'.inbound = false
  outbound : d.outbound = false → d'.outbound = false

namespace LsckSocket.Narrows

variable {d d' d'' : LsckSocket}

theorem refl (d : LsckSocket) : d.Narrows d :=
  ⟨rfl, rfl, id, id⟩

theorem trans
    (hLeft : d.Narrows d')
    (hRight : d'.Narrows d'') :
    d.Narrows d'' :=
  ⟨hRight.fd.trans hLeft.fd,
    hRight.data.trans hLeft.data,
    fun h => hRight.inbound (hLeft.inbound h),
    fun h => hRight.outbound (hLeft.outbound h)⟩

theorem of_same
    (hFd : d'.fd = d.fd)
    (hData : d'.idata = d.idata)
    (hIn : d'.inbound = d.inbound)
    (hOut : d'.outbound = d.outbound) :
    d.Narrows d' :=
  ⟨hFd, hData, hIn.trans, hOut.trans⟩

theorem of_status (hStatus : d'.status = d.status) :
    d.Narrows d' := by
  have hFd := congrArg LsckSocket.fd hStatus
  have hData := congrArg LsckSocket.idata hStatus
  have hIn := congrArg LsckSocket.inbound hStatus
  have hOut := congrArg LsckSocket.outbound hStatus
  exact of_same hFd hData hIn hOut

theorem of_moves
    {loose : Prop}
    (hMoves : LsckSocket.Moves loose d d') :
    d.Narrows d' := by
  rcases hMoves with ⟨b, -, hSame | ⟨-, -, hSame⟩⟩
  all_goals
    have hFd := congrArg LsckSocket.fd hSame
    have hData := congrArg LsckSocket.idata hSame
    have hIn := congrArg LsckSocket.inbound hSame
    have hOut := congrArg LsckSocket.outbound hSame
    exact of_same hFd hData hIn hOut

theorem shut (how : Int) (d : LsckSocket) :
    d.Narrows (d.shut how) := by
  unfold LsckSocket.shut
  split
  · exact ⟨rfl, rfl, fun _ => rfl, id⟩
  · split
    · exact ⟨rfl, rfl, id, fun _ => rfl⟩
    · exact ⟨rfl, rfl, fun _ => rfl, fun _ => rfl⟩

end LsckSocket.Narrows

/- A socket that is there before and after has narrowed. -/
def Narrowed (s s' : Process) : Prop :=
  ∀ p d d', s.heap p = some (.socket d) →
    s'.heap p = some (.socket d') → d.Narrows d'

------------------------------------------------------------
-- Calls That Create No Socket
------------------------------------------------------------

/- All sockets that are left come from narrower ones. -/
structure Narrowing (s s' : Process) : Prop where
  form : WellFormed none s → WellFormed none s'
  back : WellFormed none s → ∀ p d',
    s'.heap p = some (.socket d') →
    ∃ d, s.heap p = some (.socket d) ∧ d.Narrows d'

namespace Narrowing

variable {s t u : Process}

theorem of_quiet (hQuiet : Quiet s t) : Narrowing s t := by
  constructor
  · exact hQuiet.form
  · intro hForm p d' hSocket'
    rcases hQuiet.back hForm p d' hSocket' with
      ⟨d, hSocket, hMoves⟩
    exact ⟨d, hSocket, .of_moves hMoves⟩

theorem of_drift (hDrift : Drift none s t) :
    Narrowing s t :=
  of_quiet (.of_drift_none hDrift)

theorem of_still (hStill : Still s t) : Narrowing s t :=
  of_quiet (.of_still hStill)

theorem trans
    (hLeft : Narrowing s t)
    (hRight : Narrowing t u) :
    Narrowing s u := by
  constructor
  · intro hForm
    exact hRight.form (hLeft.form hForm)
  · intro hForm p d'' hSocket''
    rcases hRight.back (hLeft.form hForm) p d'' hSocket'' with
      ⟨d', hSocket', hNarrows'⟩
    rcases hLeft.back hForm p d' hSocket' with
      ⟨d, hSocket, hNarrows⟩
    exact ⟨d, hSocket, hNarrows.trans hNarrows'⟩

theorem of_turns
    {p : Ptr}
    {f : LsckSocket → LsckSocket}
    (hKeeps : KeepsData f)
    (hNarrows : ∀ d, LsckSocket.Narrows d (f d))
    (hTurns : Turns p f s t) :
    Narrowing s t := by
  constructor
  · exact hTurns.form hKeeps
  · intro _ r e' hE'
    rcases hTurns.back hE' with
      ⟨e, hE, ⟨-, hStatus⟩ | ⟨-, d, hD, hStatus⟩⟩
    · exact ⟨e, hE, .of_status hStatus⟩
    · have hFrom : e.Narrows d := .of_status hD
      exact ⟨e, hE, (hFrom.trans (hNarrows d)).trans
        (.of_status hStatus)⟩

theorem of_modifySocket
    {p : Ptr}
    {f : LsckSocket → LsckSocket}
    (hKeeps : KeepsData f)
    (hNarrows : ∀ d, LsckSocket.Narrows d (f d))
    (hRun : modifySocket p f s = .ok ((), t)) :
    Narrowing s t :=
  of_turns hKeeps hNarrows (.of_modifySocket hRun)

/- Nothing that is there before and after has widened. -/
theorem narrowed
    (hNarrowing : Narrowing s t)
    (hForm : WellFormed none s) :
    Narrowed s t := by
  intro p d d' hSocket hSocket'
  rcases hNarrowing.back hForm p d' hSocket' with
    ⟨e, hE, hNarrows⟩
  rw [hSocket] at hE
  cases hE
  exact hNarrows

end Narrowing

/- The marks of a connect say nothing about directions. -/
theorem narrowing_connect
    {env : ConnectEnv}
    {fd : Fd}
    {serv : Option Bytes}
    {addrlen : Nat}
    {s s' : Process}
    {r : Int}
    (hRun : connect env fd serv addrlen s = .ok (r, s')) :
    Narrowing s s' := by
  rcases connect_ok hRun with ⟨-, -, hStill⟩ |
    ⟨p, d, i, -, hSocket, -, hRest⟩
  · exact .of_still hStill
  have hCheck := Narrowing.of_drift
    (drift_check hSocket env.writable)
  apply hCheck.trans
  rcases hRest with ⟨e, -, rfl⟩ | ⟨hStill, -⟩ |
    ⟨-, -, -, hStream⟩
  · exact .of_still (Still.setErrno _ e)
  · exact .of_still hStill
  · rcases connectStream_ok hStream with
      ⟨ret, t, -, hQuiet, hEnd⟩
    apply (Narrowing.of_quiet hQuiet).trans
    rcases hEnd with ⟨-, -, hTurns⟩ | ⟨-, -, -, hTurns⟩ |
      ⟨-, -, -, -, hTurns⟩
    · exact .of_turns keepsData_markConnected
        (fun _ => ⟨rfl, rfl, id, id⟩) hTurns
    · exact .of_turns keepsData_markConnecting
        (fun _ => ⟨rfl, rfl, id, id⟩) hTurns
    · exact .of_turns keepsData_markFailed
        (fun _ => ⟨rfl, rfl, id, id⟩) hTurns

theorem narrowing_listen
    {env : ListenEnv}
    {fd : Fd}
    {backlog : Int}
    {s s' : Process}
    {r : Int}
    (hRun : listen env fd backlog s = .ok (r, s')) :
    Narrowing s s' := by
  rcases listen_ok hRun with hQuiet |
    ⟨p, d, i, -, hSocket, -, -, -, hTurns⟩
  · exact .of_quiet hQuiet
  · apply (Narrowing.of_drift
      (drift_check hSocket env.writable)).trans
    exact .of_turns (keepsData_markListening backlog)
      (fun _ => ⟨rfl, rfl, id, id⟩) hTurns

theorem narrowing_shutdown
    {env : ShutdownEnv}
    {fd : Fd}
    {how : Int}
    {s s' : Process}
    {r : Int}
    (hRun : shutdown env fd how s = .ok (r, s')) :
    Narrowing s s' := by
  rcases shutdown_ok hRun with hQuiet |
    ⟨p, d, hSocket, hTurns⟩
  · exact .of_quiet hQuiet
  · apply (Narrowing.of_drift
      (drift_check hSocket env.writable)).trans
    exact .of_turns (keepsData_shut how) (.shut how) hTurns

------------------------------------------------------------
-- Calls That Create Sockets
------------------------------------------------------------

/- Every socket is still there and has narrowed. -/
def Kept (s s' : Process) : Prop :=
  ∀ p d, s.heap p = some (.socket d) →
    ∃ d', s'.heap p = some (.socket d') ∧ d.Narrows d'

namespace Kept

variable {s t u : Process}

theorem of_still (hStill : Still s t) : Kept s t := by
  intro p d hSocket
  rcases hStill.socket hSocket with ⟨d', hSocket', hStatus⟩
  exact ⟨d', hSocket', .of_status hStatus⟩

theorem trans
    (hLeft : Kept s t)
    (hRight : Kept t u) :
    Kept s u := by
  intro p d hSocket
  rcases hLeft p d hSocket with ⟨d', hSocket', hNarrows⟩
  rcases hRight p d' hSocket' with
    ⟨d'', hSocket'', hNarrows'⟩
  exact ⟨d'', hSocket'', hNarrows.trans hNarrows'⟩

theorem setSocket
    {p : Ptr}
    {d d' : LsckSocket}
    (hSocket : s.heap p = some (.socket d))
    (hNarrows : d.Narrows d') :
    Kept s (s.setBlock p (some (.socket d'))) := by
  intro r e hE
  by_cases hSame : r = p
  · subst hSame
    rw [hSocket] at hE
    cases hE
    exact ⟨d', by simp, hNarrows⟩
  · exact ⟨e, by simp [hSame, hE], .refl e⟩

theorem narrowed (hKept : Kept s t) : Narrowed s t := by
  intro p d d' hSocket hSocket'
  rcases hKept p d hSocket with ⟨e, hE, hNarrows⟩
  rw [hSocket'] at hE
  cases hE
  exact hNarrows

/- What happens to the sockets after they have been kept. -/
theorem then_narrowing
    (hKept : Kept s t)
    (hNarrowing : Narrowing t u)
    (hForm : WellFormed none t) :
    Narrowed s u := by
  intro p d d'' hSocket hSocket''
  rcases hKept p d hSocket with ⟨d', hSocket', hNarrows⟩
  exact hNarrows.trans
    (hNarrowing.narrowed hForm p d' d'' hSocket' hSocket'')

end Kept

/- A reservation and its callback keep the sockets. -/
theorem kept_reserved
    {i : Interface}
    {slot : Nat}
    {p : Ptr}
    {q : Option Ptr}
    {d : LsckSocket}
    {s v w : Process}
    (hMemory : s.heap p = none)
    (hAttached : Attached i p q (s.withSocket slot p d) v)
    (hStill : Still v w) :
    Kept s w := by
  intro r e hE
  have hNe : r ≠ p := by
    rintro rfl
    rw [hMemory] at hE
    cases hE
  have hBefore : (s.withSocket slot p d).heap r =
      some (.socket e) := by
    simpa [Reserved.heap_withSocket, hNe] using hE
  exact Kept.of_still hStill r e
    (hAttached.other hNe hBefore)

/- So does taking everything back. -/
theorem kept_removed
    {i : Interface}
    {slot : Nat}
    {p : Ptr}
    {q : Option Ptr}
    {d d' : LsckSocket}
    {s v w s' : Process}
    (hMemory : s.heap p = none)
    (hAttached : Attached i p q (s.withSocket slot p d) v)
    (hStill : Still v w)
    (hSocket : w.heap p = some (.socket d'))
    (hRemoved : Removed p d' slot w s') :
    Kept s s' := by
  intro r e hE
  rcases kept_reserved hMemory hAttached hStill r e hE with
    ⟨e', hE', hNarrows⟩
  have hNe : r ≠ p := by
    rintro rfl
    rw [hMemory] at hE
    cases hE
  rcases hRemoved.heap r hNe with hSame | ⟨hData, -⟩
  · exact ⟨e', hSame.trans hE', hNarrows⟩
  · -- The data that is freed was no socket.
    exfalso
    have hQ := (LsckSocket.same_of_status
      (reserved_socket hAttached hStill hSocket)).2.2
    rw [hData] at hQ
    have hQ : q = some r := hQ.symm
    subst hQ
    have hFree := hAttached.data.1
    rw [Reserved.heap_withSocket,
      Function.update_of_ne hNe, hE] at hFree
    cases hFree

theorem kept_socketx
    {env : SocketEnv}
    {domain type protocol : Int}
    {interface : Option Interface}
    {s s' : Process}
    {r : Int}
    (hFds : FdsOk s.fds)
    (hRun : socketx env domain type protocol interface s =
      .ok (r, s')) :
    Kept s s' := by
  rcases socketx_ok hFds hRun with ⟨rfl, e, rfl⟩ |
    ⟨-, fd, slot, p, hReserved, hOn⟩
  · exact .of_still (Still.setErrno s e)
  unfold socketOn at hOn
  cases hChosen :
      chosenInterface s domain type protocol interface with
  | none =>
      rcases socketx_quiet hChosen hFds hRun with
        ⟨rfl, e, rfl⟩
      exact .of_still (Still.setErrno s e)
  | some i =>
      simp only [hChosen] at hOn
      rcases bind_eq_ok.mp hOn with ⟨ret, w, hCall, hTail⟩
      rcases attaches_interfaceSocket env i p _ ret w hCall
        with ⟨q, v, hAttached, hStill, hSome⟩
      by_cases hRet : ret = -1
      · rw [if_pos hRet, run_bind_ok (run_get w)] at hTail
        rcases bind_eq_ok.mp hTail with
          ⟨_, t, hCleanup, hFail⟩
        cases hFail
        rcases hStill.socket (hAttached.socket
          (Reserved.socket_withSocket s slot p _)) with
          ⟨d', hSocket, hStatus⟩
        have hFd : d'.fd = fd :=
          (LsckSocket.same_of_status hStatus).1
        subst hFd
        have hKept := kept_removed hReserved.heap hAttached
          hStill hSocket (socketCleanup_removed hCleanup)
        exact hKept.trans (.of_still (Still.setErrno t _))
      · rw [if_neg hRet] at hTail
        cases hTail
        exact kept_reserved hReserved.heap hAttached hStill

theorem kept_accept
    {env : AcceptEnv}
    {fd : Fd}
    {addr addrlen : Bool}
    {s s' : Process}
    {r : Int}
    (hForm : WellFormed none s)
    (hRun : accept env fd addr addrlen s = .ok (r, s')) :
    Kept s s' := by
  rcases accept_ok hForm.fds hRun with ⟨-, -, hStill⟩ |
    ⟨p, d, -, hSocket, hRest⟩
  · exact .of_still hStill
  have hMoves : LsckSocket.Moves False d
      (d.checked env.writable) := .checked env.writable
  have hCheck : Kept s (s.check p d env.writable) :=
    .setSocket hSocket (.of_moves hMoves)
  apply hCheck.trans
  rcases hRest with ⟨-, e, rfl⟩ |
    ⟨-, i, nfd, slot, np, -, hReserved, hOn⟩
  · exact .of_still (Still.setErrno _ e)
  rcases acceptReserved_ok
      ((drift_check hSocket env.writable).form hForm)
      (s.socket_check p d env.writable) hReserved hOn with
    ⟨ret, q, v, w, nd', -, hAttached, hStill, hSocket', -,
      hEnd⟩
  rcases hEnd with ⟨-, -, hErased⟩ | ⟨-, -, -, rfl⟩
  · exact kept_removed hReserved.heap hAttached hStill
      hSocket' hErased.toRemoved
  · apply (kept_reserved hReserved.heap hAttached
      hStill).trans
    exact .setSocket hSocket' ⟨rfl, rfl, id, id⟩

/- Marking both ends of a pair. -/
theorem narrowing_markEnds
    {p₀ p₁ : Ptr}
    {f : LsckSocket → LsckSocket}
    {s s' : Process}
    {r : Int}
    (hRun : (do
      modifySocket p₀ f
      modifySocket p₁ f
      return 0 : Exec Int) s = .ok (r, s'))
    (hKeeps : KeepsData f)
    (hNarrows : ∀ d, LsckSocket.Narrows d (f d)) :
    Narrowing s s' := by
  rcases bind_eq_ok.mp hRun with ⟨_, t, hOne, hTail⟩
  rcases bind_eq_ok.mp hTail with ⟨_, u, hTwo, hPure⟩
  cases hPure
  exact (Narrowing.of_modifySocket hKeeps hNarrows hOne).trans
    (.of_modifySocket hKeeps hNarrows hTwo)

theorem narrowing_unixSocketpair
    {env : UnixSocketpairEnv}
    {p₀ p₁ : Ptr}
    {s s' : Process}
    {r : Int}
    (hRun : unixSocketpair env p₀ p₁ s = .ok (r, s')) :
    Narrowing s s' := by
  rcases bind_eq_ok.mp hRun with ⟨d₀, t, hRead₀, hTail⟩
  rcases derefSocket_ok hRead₀ with ⟨rfl, -⟩
  rcases bind_eq_ok.mp hTail with ⟨d₁, u, hRead₁, hRest⟩
  rcases derefSocket_ok hRead₁ with ⟨rfl, -⟩
  rcases bind_eq_ok.mp hRest with ⟨ret₀, v, hBind₀, hRest⟩
  have hStillV := still_unixBind _ _ _ _ _ _ _ hBind₀
  by_cases hRet₀ : ret₀ = -1
  · rw [if_pos hRet₀] at hRest
    cases hRest
    exact .of_still hStillV
  rw [if_neg hRet₀] at hRest
  rcases bind_eq_ok.mp hRest with ⟨ret₁, w, hBind₁, hRest⟩
  have hStillW := hStillV.trans
    (still_unixBind _ _ _ _ _ _ _ hBind₁)
  by_cases hRet₁ : ret₁ = -1
  · rw [if_pos hRet₁] at hRest
    cases hRest
    exact .of_still hStillW
  rw [if_neg hRet₁] at hRest
  by_cases hStream : d₀.type = sockStream
  · rw [if_pos hStream] at hRest
    rcases bind_eq_ok.mp hRest with ⟨_, x, hPair, hRest⟩
    have hStillX := hStillW.trans
      (still_pairStream _ _ _ _ _ _ _ _ hPair)
    exact (Narrowing.of_still hStillX).trans
      (narrowing_markEnds hRest (fun _ => ⟨rfl, rfl, rfl⟩)
        fun _ => ⟨rfl, rfl, id, id⟩)
  rw [if_neg hStream] at hRest
  by_cases hDgram : d₀.type = sockDgram
  · rw [if_pos hDgram] at hRest
    rcases bind_eq_ok.mp hRest with ⟨_, x, hOne, hRest⟩
    rcases bind_eq_ok.mp hRest with ⟨_, y, hTwo, hRest⟩
    have hStillX := hStillW.trans
      (still_setPeerpath _ _ _ _ _ hOne)
    have hStillY := hStillX.trans
      (still_setPeerpath _ _ _ _ _ hTwo)
    exact (Narrowing.of_still hStillY).trans
      (narrowing_markEnds hRest (fun _ => ⟨rfl, rfl, rfl⟩)
        fun _ => ⟨rfl, rfl, id, id⟩)
  · rw [if_neg hDgram] at hRest
    exact .of_still (hStillW.trans
      (StillCmd.fail _ _ _ _ hRest))

theorem narrowing_connectEnds
    {env : SocketpairEnv}
    {i : Interface}
    {fd₀ fd₁ : Fd}
    {p₀ p₁ : Ptr}
    {s s' : Process}
    {r : Int}
    (hRun : connectEnds env i fd₀ fd₁ p₀ p₁ s =
      .ok (r, s')) :
    Narrowing s s' := by
  rcases bind_eq_ok.mp hRun with ⟨ret, t, hPair, hTail⟩
  have hFirst : Narrowing s t := by
    cases i with
    | wsock =>
        exact .of_still (StillCmd.fail _ _ _ _ hPair)
    | csock =>
        exact .of_still (StillCmd.fail _ _ _ _ hPair)
    | unix => exact narrowing_unixSocketpair hPair
  apply hFirst.trans
  apply Narrowing.of_drift
  by_cases hRet : ret = -1
  · rw [if_pos hRet, run_bind_ok (run_get t)] at hTail
    exact ((drift_closeEnds _ _ _).bind
      fun _ => DriftCmd.fail _) t r s' hTail
  · rw [if_neg hRet] at hTail
    exact ((drift_storeNames _ _ _).bind fun _ =>
      (drift_storeNames _ _ _).bind
        fun _ => DriftCmd.pure _) t r s' hTail

/-
  A pair of sockets is created before anything is done with
  the two, and the older ones are kept until then.
-/
theorem narrowed_socketpair
    {env : SocketpairEnv}
    {domain type protocol : Int}
    {s s' : Process}
    {r : Int}
    (hForm : WellFormed none s)
    (hRun : socketpair env domain type protocol s =
      .ok (r, s')) :
    Narrowed s s' := by
  unfold socketpair at hRun
  rw [run_bind_ok (run_get s)] at hRun
  cases hPair : pairInterface s domain type protocol with
  | none =>
      simp only [hPair] at hRun
      exact (Kept.of_still
        (StillCmd.fail _ _ _ _ hRun)).narrowed
  | some i =>
      simp only [hPair] at hRun
      rcases bind_eq_ok.mp hRun with ⟨fd₀, t, hOne, hTail⟩
      rcases bind_eq_ok.mp hTail with ⟨fd₁, u, hTwo, hRest⟩
      have hFormT := (socketx_evolves hForm.fds hOne).1.form
        hForm
      have hFormU := (socketx_evolves hFormT.fds hTwo).1.form
        hFormT
      have hKept := (kept_socketx hForm.fds hOne).trans
        (kept_socketx hFormT.fds hTwo)
      apply hKept.then_narrowing _ hFormU
      by_cases hFailed : fd₀ = -1 ∨ fd₁ = -1
      · rw [if_pos hFailed] at hRest
        exact .of_drift (((drift_closeEnds _ _ _).bind
          fun _ => DriftCmd.pure _) u r s' hRest)
      rw [if_neg hFailed] at hRest
      rcases bind_eq_ok.mp hRest with ⟨l₀, v, hL₀, hAfter⟩
      rcases fdToLsd_ok hL₀ with ⟨rfl, -⟩
      rcases bind_eq_ok.mp hAfter with ⟨l₁, w, hL₁, hLast⟩
      rcases fdToLsd_ok hL₁ with ⟨rfl, -⟩
      have hClose : ∀ e, DriftCmd none (do
          closeEnds env fd₀ fd₁
          fail e) := fun e =>
        (drift_closeEnds _ _ _).bind fun _ => DriftCmd.fail e
      cases l₀ with
      | none => exact .of_drift (hClose _ _ _ _ hLast)
      | some p₀ =>
          cases l₁ with
          | none => exact .of_drift (hClose _ _ _ _ hLast)
          | some p₁ => exact narrowing_connectEnds hLast

------------------------------------------------------------
-- Every Call
------------------------------------------------------------

theorem narrowed_exec
    {call : Call}
    {s s' : Process}
    {r : Int}
    (hForm : WellFormed none s)
    (hRun : exec call s = .ok (r, s')) :
    Narrowed s s' := by
  have hOf : Narrowing s s' → Narrowed s s' :=
    fun hNarrowing => hNarrowing.narrowed hForm
  cases call with
  | socketx env domain type protocol interface =>
      exact (kept_socketx hForm.fds hRun).narrowed
  | accept env fd addr addrlen =>
      exact (kept_accept hForm hRun).narrowed
  | socketpair env domain type protocol =>
      exact narrowed_socketpair hForm hRun
  | close env fd =>
      exact hOf (.of_drift (drift_closeFd _ _ _ _ _ hRun))
  | bind env fd addr addrlen =>
      exact hOf (.of_quiet (quiet_bind hRun))
  | listen env fd backlog => exact hOf (narrowing_listen hRun)
  | connect env fd serv addrlen =>
      exact hOf (narrowing_connect hRun)
  | sendto env fd msg flags dest tolen =>
      exact hOf (.of_quiet (quiet_sendto hRun))
  | shutdown env fd how => exact hOf (narrowing_shutdown hRun)
  | ioctl env fd param =>
      exact hOf (.of_drift
        (drift_ioctlFionbio _ _ _ _ _ _ hRun))
  | fcntl env fd nonblock =>
      exact hOf (.of_drift (drift_fcntlSetfl _ _ _ _ _ _ hRun))
  | arrive name message =>
      cases hRun
      exact (Kept.of_still (Still.setMail _ _ _)).narrowed

/- The calls that only move data create no socket. -/
theorem narrowing_socketExec
    {call : SocketCall}
    {s s' : Process}
    {r : Int}
    (hRun : socketExec call s = .ok (r, s')) :
    (∃ c, call = .call c) ∨ Narrowing s s' := by
  cases call with
  | call c => exact .inl ⟨c, rfl⟩
  | send env fd msg flags =>
      exact .inr (.of_quiet (quiet_sendto hRun))
  | write env fd msg =>
      exact .inr (.of_quiet (quiet_writeFsext hRun))
  | recv env fd buf len flags =>
      exact .inr (.of_drift (((drift_recv _ _ _ _ _).bind
        fun _ => DriftCmd.pure _) _ _ _ hRun))
  | recvfrom env fd buf len flags source fromlen =>
      exact .inr (.of_drift
        (((drift_recvfrom _ _ _ _ _ _ _).bind
          fun _ => DriftCmd.pure _) _ _ _ hRun))
  | read env fd buf count =>
      exact .inr (.of_drift (drift_readFsext _ _ _ _ _ _ _
        hRun))
  | getsockname env fd namelen =>
      exact .inr (.of_drift (((drift_getsockname _ _ _).bind
        fun _ => DriftCmd.pure _) _ _ _ hRun))
  | getpeername env fd namelen =>
      exact .inr (.of_drift (((drift_getpeername _ _ _).bind
        fun _ => DriftCmd.pure _) _ _ _ hRun))

theorem wellFormed_socketExec
    {call : SocketCall}
    {s s' : Process}
    {r : Int}
    (hForm : WellFormed none s)
    (hRun : socketExec call s = .ok (r, s')) :
    WellFormed none s' := by
  rcases narrowing_socketExec hRun with
    ⟨c, rfl⟩ | hNarrowing
  · exact wellFormed_exec hForm hRun
  · exact hNarrowing.form hForm

theorem narrowed_socketExec
    {call : SocketCall}
    {s s' : Process}
    {r : Int}
    (hForm : WellFormed none s)
    (hRun : socketExec call s = .ok (r, s')) :
    Narrowed s s' := by
  rcases narrowing_socketExec hRun with
    ⟨c, rfl⟩ | hNarrowing
  · exact narrowed_exec hForm hRun
  · exact hNarrowing.narrowed hForm

theorem wellFormed_of_socketReachable
    {s : Process}
    (hReach : socketSystem.Reachable s) :
    WellFormed none s := by
  apply TransitionSystem.ReachableUnder.invariant _ _ hReach
  · intro s hInit
    exact Booted.wellFormed hInit
  · intro s call s' hForm _ hStep
    rcases hStep with ⟨r, hRun⟩
    exact wellFormed_socketExec hForm hRun

------------------------------------------------------------
-- Callbacks That Are Not Used
------------------------------------------------------------

/-
  Whatever the callbacks `send` and `sendto` would do, the
  calls that send on a number end in one and the same way.
-/
structure IgnoresSend (fd : Fd) (s : Process) : Prop where
  sendto : ∀ writable msg dest tolen, ∃ t, ∀ send sendto,
    sendtoWith send sendto writable fd msg dest tolen s =
      .ok (-1, t)
  write : ∀ writable msg, ∃ t, ∀ send sendto,
    writeWith send sendto writable fd msg s = .ok (0, t)

/-
  Whatever the callbacks `recv` and `recvfrom` would do, the
  calls that receive on a number end in one and the same way
  and without data.
-/
structure IgnoresRecv (fd : Fd) (s : Process) : Prop where
  recv : ∀ writable buf, ∃ r t, ∀ callback,
    recvWith callback writable fd buf s =
      .ok ((r, [], none), t)
  recvfrom : ∀ writable buf source fromlen, ∃ r t,
    ∀ callback,
      recvfromWith callback writable fd buf source fromlen s =
        .ok ((r, [], none), t)
  read : ∀ writable buf, ∃ r t, ∀ callback,
    readWith callback writable fd buf s = .ok (r, t)

/- A send that is not allowed is refused before its type. -/
theorem sendRefusal_shut
    {lsd : LsckSocket}
    (hShut : lsd.outbound = false)
    (msg dest : Option Bytes)
    (tolen : Nat) :
    ∃ e, sendRefusal lsd msg dest tolen = some e := by
  unfold sendRefusal
  by_cases hMsg : msg = none
  · exact ⟨_, if_pos hMsg⟩
  rw [if_neg hMsg]
  by_cases hTo : dest ≠ none ∧ tolen = 0
  · exact ⟨_, if_pos hTo⟩
  rw [if_neg hTo]
  exact ⟨_, if_pos hShut⟩

/- The handler is called if the number is a socket's. -/
theorem whenSocket_run
    {s : Process}
    {fd : Fd}
    {p : Ptr}
    (hLeads : s.LeadsTo fd p)
    (m : Exec Int) :
    whenSocket fd m s = m s := by
  have hSocket : fdIsSocket s fd = true := by
    simp [fdIsSocket, hLeads.1]
  unfold whenSocket
  rw [run_bind_ok (run_get s), if_pos hSocket]

theorem ignoresSend_of_shut
    {s : Process}
    {fd : Fd}
    {p : Ptr}
    {d : LsckSocket}
    {i : Interface}
    (hLeads : s.LeadsTo fd p)
    (hSocket : s.heap p = some (.socket d))
    (hInterface : d.interface = some i)
    (hShut : d.outbound = false) :
    IgnoresSend fd s := by
  have hSendto : ∀ writable msg dest tolen, ∃ t,
      ∀ send sendto,
        sendtoWith send sendto writable fd msg dest tolen s =
          .ok (-1, t) := by
    intro writable msg dest tolen
    have hShutC : (d.checked writable).outbound = false := by
      rw [(d.checked_directions writable).2]
      exact hShut
    rcases sendRefusal_shut hShutC msg dest tolen with
      ⟨e, hRefusal⟩
    refine ⟨{ s.check p d writable with errno := e }, ?_⟩
    intro send sendto
    apply (prologue_run hLeads hSocket hInterface _).trans
    rw [hRefusal]
    rfl
  constructor
  · exact hSendto
  · intro writable msg
    rcases hSendto writable msg none 0 with ⟨t, hEnd⟩
    refine ⟨{ t with errno := .EAGAIN }, ?_⟩
    intro send sendto
    unfold writeWith
    rw [whenSocket_run hLeads, run_bind_ok (hEnd send sendto)]
    rfl

/- A receive that is not allowed ends without its callback. -/
theorem receive_shut
    (refusal : Option Errno)
    (provided : Bool)
    (s : Process) :
    ∃ r t, ∀ callback,
      receive refusal false provided callback s =
        .ok ((r, [], none), t) := by
  cases refusal with
  | none => exact ⟨0, s, fun _ => rfl⟩
  | some e =>
      exact ⟨-1, { s with errno := e }, fun _ => rfl⟩

theorem ignoresRecv_of_shut
    {s : Process}
    {fd : Fd}
    {p : Ptr}
    {d : LsckSocket}
    {i : Interface}
    (hLeads : s.LeadsTo fd p)
    (hSocket : s.heap p = some (.socket d))
    (hInterface : d.interface = some i)
    (hShut : d.inbound = false) :
    IgnoresRecv fd s := by
  have hShutC : ∀ writable,
      (d.checked writable).inbound = false := by
    intro writable
    rw [(d.checked_directions writable).1]
    exact hShut
  have hRecv : ∀ writable buf, ∃ r t, ∀ callback,
      recvWith callback writable fd buf s =
        .ok ((r, [], none), t) := by
    intro writable buf
    rcases receive_shut (recvRefusal (d.checked writable) buf)
      (i.provides .recv) (s.check p d writable) with
      ⟨r, t, hEnd⟩
    refine ⟨r, t, ?_⟩
    intro callback
    apply (prologue_run hLeads hSocket hInterface _).trans
    rw [hShutC writable]
    exact hEnd _
  constructor
  · exact hRecv
  · intro writable buf source fromlen
    rcases receive_shut (recvfromRefusal buf source fromlen)
      (i.provides .recvfrom) (s.check p d writable) with
      ⟨r, t, hEnd⟩
    refine ⟨r, t, ?_⟩
    intro callback
    apply (prologue_run hLeads hSocket hInterface _).trans
    rw [hShutC writable]
    exact hEnd _
  · intro writable buf
    rcases hRecv writable buf with ⟨r, t, hEnd⟩
    have hResult : ∃ r' t', readResult r t = .ok (r', t') := by
      unfold readResult
      rw [run_bind_ok (run_get t)]
      by_cases hAgain : r = -1 ∧ t.errno = .EWOULDBLOCK
      · rw [if_pos hAgain]
        exact ⟨0, { t with errno := .EAGAIN }, rfl⟩
      · rw [if_neg hAgain]
        exact ⟨r, t, rfl⟩
    rcases hResult with ⟨r', t', hResult⟩
    refine ⟨r', t', ?_⟩
    intro callback
    unfold readWith
    rw [whenSocket_run hLeads, run_bind_ok (hEnd callback)]
    exact hResult

------------------------------------------------------------
-- Half Closing Is Permanent
------------------------------------------------------------

/- The block is a descriptor. -/
def Process.IsSocket (s : Process) (p : Ptr) : Prop :=
  ∃ d, s.heap p = some (.socket d)

/- The directions that a shutdown asks for are shut. -/
structure LsckSocket.ShutBy
    (how : Int)
    (d : LsckSocket) : Prop where
  outbound : how = shutWr ∨ how = shutRdwr →
    d.outbound = false
  inbound : how = shutRd ∨ how = shutRdwr →
    d.inbound = false

theorem LsckSocket.ShutBy.narrows
    {how : Int}
    {d d' : LsckSocket}
    (hShut : d.ShutBy how)
    (hNarrows : d.Narrows d') :
    d'.ShutBy how :=
  ⟨fun h => hNarrows.outbound (hShut.outbound h),
    fun h => hNarrows.inbound (hShut.inbound h)⟩

theorem LsckSocket.shutBy_shut
    (how : Int)
    (d : LsckSocket) :
    (d.shut how).ShutBy how := by
  unfold LsckSocket.shut
  constructor
  · rintro (rfl | rfl) <;> rfl
  · rintro (rfl | rfl) <;> rfl

/- A shutdown that succeeds shuts what it was asked to. -/
theorem shutdown_success
    {env : ShutdownEnv}
    {fd : Fd}
    {p : Ptr}
    {how : Int}
    {s s' : Process}
    (hLeads : s.LeadsTo fd p)
    (hForm : WellFormed none s)
    (hRun : shutdown env fd how s = .ok (0, s')) :
    ∃ d', s'.heap p = some (.socket d') ∧ d'.fd = fd ∧
      d'.ShutBy how := by
  rcases prologue_ok hRun with ⟨-, hNone, -⟩ |
    ⟨p', d, i, hLeads', hSocket, hInterface, hTail⟩
  · exact absurd hLeads (hNone p)
  cases hLeads.2.symm.trans hLeads'.2
  cases hRefusal :
      shutdownRefusal (d.checked env.writable) how with
  | some e =>
      rw [hRefusal] at hTail
      cases hTail
  | none =>
      rw [hRefusal] at hTail
      rcases bind_eq_ok.mp hTail with ⟨ret, t, hCall, hTail⟩
      rcases bind_eq_ok.mp hTail with ⟨_, u, hMark, hPure⟩
      cases hPure
      rw [when, if_pos rfl] at hMark
      rcases modifySocket_ok hMark with ⟨d', hSocket', hEq⟩
      have hEnd : s'.heap p =
          some (.socket (d'.shut how)) := by
        rw [hEq]
        simp
      rcases hForm.socket_of_leadsTo hLeads with ⟨e, hE, hFd⟩
      have hSame := ((narrowing_shutdown hRun).narrowed hForm
        p e _ hE hEnd).fd
      exact ⟨d'.shut how, hEnd, hSame.trans hFd,
        d'.shutBy_shut how⟩

/-
  Once a shutdown has succeeded on a descriptor, the
  directions stay shut in all states of all later runs until
  the descriptor is closed, and in none of these states does
  a call on it use the callbacks of a direction that is shut.
-/
theorem half_close_permanent
    {s t u : Process}
    {env : ShutdownEnv}
    {fd : Fd}
    {p : Ptr}
    {how : Int}
    (hReach : socketSystem.Reachable s)
    (hLeads : s.LeadsTo fd p)
    (hShut : shutdown env fd how s = .ok (0, t))
    (hLater : socketSystem.Path (·.IsSocket p) t u) :
    ∃ d, u.heap p = some (.socket d) ∧ u.LeadsTo fd p ∧
      (how = shutWr ∨ how = shutRdwr →
        d.outbound = false ∧ IgnoresSend fd u) ∧
      (how = shutRd ∨ how = shutRdwr →
        d.inbound = false ∧ IgnoresRecv fd u) := by
  have hFormS := wellFormed_of_socketReachable hReach
  have hReachT : socketSystem.Reachable t :=
    .step (a := .call (.shutdown env fd how)) hReach trivial
      ⟨0, hShut⟩
  have hStays : ∃ d, u.heap p = some (.socket d) ∧
      d.fd = fd ∧ d.ShutBy how := by
    apply hLater.preserves _ hReachT
      (shutdown_success hLeads hFormS hShut)
    intro v call w hReachV hV hStep hSocket
    rcases hV with ⟨d, hD, hFd, hBy⟩
    rcases hStep with ⟨r, hRun⟩
    rcases hSocket with ⟨d', hD'⟩
    have hNarrows := narrowed_socketExec
      (wellFormed_of_socketReachable hReachV) hRun p d d' hD
      hD'
    exact ⟨d', hD', hNarrows.fd.trans hFd,
      hBy.narrows hNarrows⟩
  rcases hStays with ⟨d, hD, hFd, hBy⟩
  have hForm := wellFormed_of_socketReachable
    (hLater.reachable hReachT)
  rcases hForm.data p d hD (by simp) with
    ⟨i, -, -, hInterface, -⟩
  have hLeadsU : u.LeadsTo fd p := by
    rw [← hFd]
    exact hForm.entry hD
  refine ⟨d, hD, hLeadsU, ?_, ?_⟩
  · intro hHow
    have hOut := hBy.outbound hHow
    exact ⟨hOut,
      ignoresSend_of_shut hLeadsU hD hInterface hOut⟩
  · intro hHow
    have hIn := hBy.inbound hHow
    exact ⟨hIn, ignoresRecv_of_shut hLeadsU hD hInterface hIn⟩

/- A send on the first socket of a run. -/
def sendCall : Call :=
  .sendto
    { writable := false
      writes := []
      dgram :=
        { nameRandom := 0
          bind := .granting
          pathJunk := fun _ => 0
          openW := ⟨none, .zero⟩
          writes := []
          close := .leaf }
      csockBindAnswer := 0
      result := 1
      errno := .zero }
    3 (some [1]) 0 none 0

/- The send is refused and leaves the descriptor there. -/
def sendRefused (t : Process) : Bool :=
  (exec sendCall t).toOption.any fun next =>
    next.1 == -1 && (next.2.socket? 10).isSome

theorem half_close_of_sent :
    ∃ (s t u : Process) (d : LsckSocket),
      shutdown ⟨false, 0⟩ 3 shutRdwr s = .ok (0, t) ∧
        exec sendCall t = .ok (-1, u) ∧
        u.heap 10 = some (.socket d) ∧
        d.outbound = false ∧ IgnoresSend 3 u ∧
        d.inbound = false ∧ IgnoresRecv 3 u := by
  rcases exists_call (fun _ _ => true)
    [streamCall, connectCall 0]
    (.shutdown ⟨false, 0⟩ 3 shutRdwr) (fun s r t => r == 0 &&
      (s.entering 3 false).any (·.1 == 10) && sendRefused t)
    (by decide +kernel) with ⟨s, r, t, hReach, hRun, hAll⟩
  simp only [Bool.and_eq_true, beq_iff_eq] at hAll
  rcases hAll with ⟨⟨rfl, hEntering⟩, hSend⟩
  unfold sendRefused at hSend
  cases hExec : exec sendCall t with
  | error e =>
      rw [hExec] at hSend
      cases hSend
  | ok next =>
      rcases next with ⟨r, u⟩
      simp only [hExec, Except.toOption, Option.any_some,
        Bool.and_eq_true, beq_iff_eq] at hSend
      rcases hSend with ⟨rfl, hOpen⟩
      rcases Option.isSome_iff_exists.mp hOpen with ⟨e, hE⟩
      have hLater : socketSystem.Path (·.IsSocket 10) t u :=
        .step (a := .call sendCall) .refl ⟨-1, hExec⟩
          ⟨e, Process.socket?_eq_some.mp hE⟩
      rcases half_close_permanent
        (socketSystem_reachable hReach.reachable)
        (s.leadsTo_of_entering hEntering) hRun hLater with
        ⟨d, hD, -, hSends, hReceives⟩
      rcases hSends (.inr rfl) with ⟨hOut, hNoSend⟩
      rcases hReceives (.inr rfl) with ⟨hIn, hNoRecv⟩
      exact ⟨s, t, u, d, hRun, hExec, hD, hOut, hNoSend, hIn,
        hNoRecv⟩

end Libsocket
