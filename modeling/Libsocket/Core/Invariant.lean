import Libsocket.Core.Calls
import Libsocket.Core.Connecting
import Libsocket.Core.Creating
import Libsocket.Core.Accepting

/-
  Every call keeps the registry of sockets well formed, and
  so does every run.

  Main declarations:
    * `quiet_sendto`, `drift_fionbio`
    * `wellFormed_exec`
    * `wellFormed_of_reachable`
    * `bareProcess`
-/

namespace Libsocket

open Command

------------------------------------------------------------
-- Sending
------------------------------------------------------------

theorem still_sendLoop
    (usock : Option Ptr)
    (writes : List WriteEnv)
    (msg : Bytes)
    (total : Nat) :
    StillCmd (sendLoop usock writes msg total) := by
  induction writes generalizing msg total with
  | nil =>
      cases msg with
      | nil => exact StillCmd.pure _
      | cons b bs => exact StillCmd.stop _
  | cons w ws ih =>
      cases msg with
      | nil => exact StillCmd.pure _
      | cons b bs =>
          refine (StillCmd.deref _ _).bind fun here => ?_
          refine (still_writeFd _ _ _).bind fun ret => ?_
          refine StillCmd.ite (StillCmd.fail _) ?_
          exact (StillCmd.modifyUnix _ _).bind fun _ => ih _ _

theorem still_sendByDriver (env : SendEnv) :
    StillCmd (sendByDriver env) :=
  StillCmd.ite (StillCmd.fail _) (StillCmd.pure _)

theorem quiet_unixSendto
    {env : SendEnv}
    {p : Ptr}
    {msg : Bytes}
    {dest : Option Bytes}
    {tolen : Nat}
    {s s' : Process}
    {r : Int}
    (hRun : unixSendto env p msg dest tolen s = .ok (r, s')) :
    Quiet s s' := by
  rcases bind_eq_ok.mp hRun with ⟨d, t, hRead, hTail⟩
  rcases derefSocket_ok hRead with ⟨rfl, -⟩
  by_cases hStream : d.type = sockStream
  · rw [if_pos hStream] at hTail
    refine .of_still ?_
    exact ((StillCmd.derefSocket p).bind fun lsd =>
      still_sendLoop _ _ _ _) _ r s' hTail
  rw [if_neg hStream] at hTail
  by_cases hDgram : d.type = sockDgram
  · rw [if_pos hDgram] at hTail
    exact quiet_unixSendDgram hTail
  · rw [if_neg hDgram] at hTail
    exact .of_still (StillCmd.fail _ _ _ _ hTail)

/- A datagram socket is bound on its first send. -/
theorem quiet_csockSendto
    {env : SendEnv}
    {p : Ptr}
    {flags : Nat}
    {s s' : Process}
    {r : Int}
    (hRun : csockSendto env p flags s = .ok (r, s')) :
    Quiet s s' := by
  have hSend : StillCmd (if flags ≠ 0 then
      fail .EINVAL else sendByDriver env) :=
    StillCmd.ite (StillCmd.fail _) (still_sendByDriver env)
  rcases bind_eq_ok.mp hRun with ⟨d, t, hRead, hTail⟩
  rcases derefSocket_ok hRead with ⟨hSame, hSocket⟩
  subst hSame
  rcases bind_eq_ok.mp hTail with ⟨c, u, hData, hRest⟩
  have hSame := (deref_ok hData).1
  subst hSame
  by_cases hBind : d.type = sockDgram ∧ d.bound = false
  · rw [if_pos hBind] at hRest
    have hDrift : Drift (some p) u s' := by
      rcases bind_eq_ok.mp hRest with ⟨ret, v, hCall, hRest⟩
      apply (Drift.of_still (still_csockSimple _ _ _ _ _
        hCall)).trans
      by_cases hRet : ret = 0
      · rw [if_pos hRet] at hRest
        rcases bind_eq_ok.mp hRest with ⟨_, w, hName, hRest⟩
        apply (Drift.of_still (still_csockName _ _ _ _ _ _
          hName)).trans
        rcases bind_eq_ok.mp hRest with ⟨_, x, hSet, hRest⟩
        rcases modifySocket_ok hSet with ⟨e, hE, rfl⟩
        apply Drift.trans _
          (.of_still (hSend _ r s' hRest))
        exact Drift.setSocket hE (moves_bound rfl rfl)
      · rw [if_neg hRet] at hRest
        exact ((drift_forgetName p).bind fun _ =>
          DriftCmd.pure _) v r s' hRest
    refine .of_drift hDrift fun q e hQ hE => ?_
    cases hQ
    rw [hSocket] at hE
    cases hE
    exact hBind.2
  · rw [if_neg hBind] at hRest
    exact .of_still (hSend _ _ _ hRest)

/- A refused call does nothing but report its error. -/
theorem quiet_refuseOr
    {refusal : Option Errno}
    {m : Exec Int}
    {s s' : Process}
    {r : Int}
    (hRest : m s = .ok (r, s') → Quiet s s')
    (hRun : refuseOr refusal m s = .ok (r, s')) :
    Quiet s s' := by
  cases refusal with
  | none => exact hRest hRun
  | some e => exact .of_still (StillCmd.fail e _ _ _ hRun)

theorem quiet_sendto
    {env : SendEnv}
    {fd : Fd}
    {msg dest : Option Bytes}
    {flags tolen : Nat}
    {s s' : Process}
    {r : Int}
    (hRun : sendto env fd msg flags dest tolen s =
      .ok (r, s')) :
    Quiet s s' := by
  rcases prologue_ok hRun with ⟨-, -, hStill⟩ |
    ⟨p, d, i, -, hSocket, -, hTail⟩
  · exact .of_still hStill
  refine .after_drift (drift_check hSocket env.writable) ?_
  have hTo : ∀ dest len t t',
      interfaceSendto env i p (msg.getD []) flags dest len
        t = .ok (r, t') → Quiet t t' := by
    intro dest len t t' hCall
    cases i with
    | wsock =>
        exact .of_still (still_sendByDriver _ _ _ _ hCall)
    | csock => exact quiet_csockSendto hCall
    | unix => exact quiet_unixSendto hCall
  have hPlain : ∀ t t',
      interfaceSend env i p (msg.getD []) flags t =
        .ok (r, t') → Quiet t t' := by
    intro t t' hCall
    cases i with
    | wsock =>
        exact .of_still (still_sendByDriver _ _ _ _ hCall)
    | csock =>
        refine .of_still (StillCmd.ite (StillCmd.fail _)
          (still_sendByDriver env) _ _ _ hCall)
    | unix => exact quiet_unixSendto hCall
  refine quiet_refuseOr (fun hTail => ?_) hTail
  by_cases hStream :
      (d.checked env.writable).type = sockStream
  · rw [if_pos hStream] at hTail
    exact quiet_refuseOr (hPlain _ _) hTail
  · rw [if_neg hStream] at hTail
    refine quiet_refuseOr (fun hTail => ?_) hTail
    cases dest with
    | none => exact hTo _ _ _ _ hTail
    | some dest => exact hTo _ _ _ _ hTail

------------------------------------------------------------
-- Modes
------------------------------------------------------------

theorem still_interfaceFionbio
    (env : ModeEnv)
    (i : Interface)
    (p : Ptr)
    (param : Int) :
    StillCmd (interfaceFionbio env i p param) := by
  cases i with
  | wsock =>
      exact (still_wsockIoctl _ _ _).bind
        fun _ => StillCmd.pure _
  | csock => exact still_csockIoctl _ _ _
  | unix => exact still_unixIoctl _ _

theorem drift_ioctlFionbio
    (env : ModeEnv)
    (fd : Fd)
    (param : Option Int) :
    DriftCmd none (ioctlFionbio env fd param) := by
  intro s r s' hRun
  rcases prologue_ok hRun with ⟨-, -, hStill⟩ |
    ⟨p, d, i, -, hSocket, -, hTail⟩
  · exact .of_still hStill
  refine (drift_check hSocket env.writable).trans
    (.of_still ?_)
  cases param with
  | none => exact StillCmd.fail _ _ _ _ hTail
  | some v => exact still_interfaceFionbio _ _ _ _ _ _ _ hTail

theorem drift_fcntlSetfl
    (env : ModeEnv)
    (fd : Fd)
    (nonblock : Bool) :
    DriftCmd none (fcntlSetfl env fd nonblock) := by
  intro s r s' hRun
  rcases prologue_ok hRun with ⟨-, -, hStill⟩ |
    ⟨p, d, i, -, hSocket, -, hTail⟩
  · exact .of_still hStill
  refine (drift_check hSocket env.writable).trans
    (.of_still ?_)
  exact still_interfaceFionbio _ _ _ _ _ _ _ hTail

------------------------------------------------------------
-- Every Call
------------------------------------------------------------

theorem keepsData_markListening (backlog : Int) :
    KeepsData (markListening backlog) :=
  fun _ => ⟨rfl, rfl, rfl⟩

theorem keepsData_markConnected : KeepsData markConnected :=
  fun _ => ⟨rfl, rfl, rfl⟩

theorem keepsData_markConnecting : KeepsData markConnecting :=
  fun _ => ⟨rfl, rfl, rfl⟩

theorem keepsData_markFailed : KeepsData markFailed :=
  fun _ => ⟨rfl, rfl, rfl⟩

theorem keepsData_shut (how : Int) :
    KeepsData (LsckSocket.shut how) := by
  intro d
  unfold LsckSocket.shut
  split
  · exact ⟨rfl, rfl, rfl⟩
  · split <;> exact ⟨rfl, rfl, rfl⟩

theorem wellFormed_connect
    {env : ConnectEnv}
    {fd : Fd}
    {serv : Option Bytes}
    {addrlen : Nat}
    {s s' : Process}
    {r : Int}
    (hForm : WellFormed none s)
    (hRun : connect env fd serv addrlen s = .ok (r, s')) :
    WellFormed none s' := by
  rcases connect_ok hRun with ⟨-, -, hStill⟩ |
    ⟨p, d, i, -, hSocket, -, hRest⟩
  · exact hForm.still hStill
  have hCheck :=
    (drift_check hSocket env.writable).form hForm
  rcases hRest with ⟨e, -, rfl⟩ | ⟨hStill, -⟩ |
    ⟨-, -, -, hStream⟩
  · exact hCheck.still (Still.setErrno _ e)
  · exact hCheck.still hStill
  · rcases connectStream_ok hStream with
      ⟨ret, t, -, hQuiet, hEnd⟩
    have hFormT := hQuiet.form hCheck
    rcases hEnd with ⟨-, -, hTurns⟩ | ⟨-, -, -, hTurns⟩ |
      ⟨-, -, -, -, hTurns⟩
    · exact hTurns.form keepsData_markConnected hFormT
    · exact hTurns.form keepsData_markConnecting hFormT
    · exact hTurns.form keepsData_markFailed hFormT

/- One call keeps the state well formed. -/
theorem wellFormed_exec
    {call : Call}
    {s s' : Process}
    {r : Int}
    (hForm : WellFormed none s)
    (hRun : exec call s = .ok (r, s')) :
    WellFormed none s' := by
  cases call with
  | socketx env domain type protocol interface =>
      exact (socketx_evolves hForm.fds hRun).1.form hForm
  | accept env fd addr addrlen =>
      exact (accept_evolves hForm hRun).form hForm
  | socketpair env domain type protocol =>
      exact (socketpair_evolves hForm hRun).form hForm
  | close env fd =>
      exact (drift_closeFd env fd s r s' hRun).form hForm
  | bind env fd addr addrlen =>
      exact (quiet_bind hRun).form hForm
  | listen env fd backlog =>
      rcases listen_ok hRun with hQuiet |
        ⟨p, d, i, -, hSocket, -, -, -, hTurns⟩
      · exact hQuiet.form hForm
      · exact hTurns.form (keepsData_markListening backlog)
          ((drift_check hSocket _).form hForm)
  | connect env fd serv addrlen =>
      exact wellFormed_connect hForm hRun
  | sendto env fd msg flags dest tolen =>
      exact (quiet_sendto hRun).form hForm
  | shutdown env fd how =>
      rcases shutdown_ok hRun with hQuiet |
        ⟨p, d, hSocket, hTurns⟩
      · exact hQuiet.form hForm
      · exact hTurns.form (keepsData_shut how)
          ((drift_check hSocket _).form hForm)
  | ioctl env fd param =>
      exact (drift_ioctlFionbio env fd param s r s'
        hRun).form hForm
  | fcntl env fd nonblock =>
      exact (drift_fcntlSetfl env fd nonblock s r s'
        hRun).form hForm
  | arrive name message =>
      cases hRun
      exact hForm.still (Still.setMail _ _ _)

/- A process without sockets is well formed. -/
theorem Booted.wellFormed
    {s : Process}
    (hBooted : Booted s) :
    WellFormed none s := by
  have hNone : ∀ p d, s.heap p ≠ some (.socket d) := by
    intro p d hSocket
    rw [hBooted.heap p] at hSocket
    cases hSocket
  refine ⟨hBooted.fds, ⟨?_, ?_, ?_, ?_⟩, ?_, ?_⟩
  · intro i p hIn hSlot
    have hEmpty : s.registry.slot i = none :=
      hBooted.table i hIn
    rw [hEmpty] at hSlot
    cases hSlot
  · intro i j p hIn _ hSlot
    have hEmpty : s.registry.slot i = none :=
      hBooted.table i hIn
    rw [hEmpty] at hSlot
    cases hSlot
  · intro p fd hOwner
    rcases Process.owner_eq_some.mp hOwner with
      ⟨d, hSocket, -⟩
    exact absurd hSocket (hNone p d)
  · intro fd target hTarget
    have hFree : s.registry.handle fd = none :=
      FdEntry.target_eq_none.mpr (hBooted.sockets fd)
    rw [hFree] at hTarget
    cases hTarget
  · intro p d hSocket
    exact absurd hSocket (hNone p d)
  · intro p _ d _ hSocket
    exact absurd hSocket (hNone p d)

/- Every state that a run reaches is well formed. -/
theorem wellFormed_of_reachable
    {ok : Process → Call → Prop}
    {s : Process}
    (hReach : lsckSystem.ReachableUnder ok s) :
    WellFormed none s := by
  refine hReach.invariant (fun _ => Booted.wellFormed) ?_
  intro s call s' hForm _ hStep
  rcases hStep with ⟨r, hRun⟩
  exact wellFormed_exec hForm hRun

------------------------------------------------------------
-- A Process To Start From
------------------------------------------------------------

/- A process right after initialisation. -/
def bareProcess : Process where
  heap := fun _ => none
  table := fun _ => none
  fds := fun _ => FdEntry.unused
  errno := .zero
  inited := true
  interfaces := [.wsock, .csock, .unix]
  pid := 1
  mail := fun _ => []
  sent := []
  reportsNext := false
  recvBuf := List.replicate mailslotSendsize 0

theorem booted_bareProcess : Booted bareProcess := by
  refine ⟨rfl, fun _ => rfl, fun _ _ => rfl, ?_, ?_⟩
  · intro fd hHandler
    cases hHandler
  · exact ⟨fun _ _ => rfl, fun _ _ => rfl⟩

/- The state that a list of calls leads to. -/
def runCalls
    (calls : List Call)
    (s : Process) : Option Process :=
  TransitionSystem.runUnder exec (fun _ _ => true) calls s

theorem reachable_of_calls
    {calls : List Call}
    {s : Process}
    (hRun : runCalls calls bareProcess = some s) :
    lsckSystem.Reachable s :=
  TransitionSystem.reachableUnder_of_runUnder
    (fun _ _ _ => trivial) (.init booted_bareProcess) hRun

/-
  A guarded run and one call more, checked by executing them.
-/
theorem exists_call
    (ok : Process → Call → Bool)
    (calls : List Call)
    (call : Call)
    (check : Process → Int → Process → Bool)
    (hCheck : (TransitionSystem.runUnder exec ok calls
      bareProcess).any (fun s =>
        match exec call s with
        | .error _ => false
        | .ok (r, s') => check s r s') = true) :
    ∃ s r s', lsckSystem.ReachableUnder
        (fun s call => ok s call = true) s ∧
      exec call s = .ok (r, s') ∧ check s r s' = true := by
  rcases (Option.any_eq_true _ _).mp hCheck with
    ⟨s, hRun, hCall⟩
  have hReach := TransitionSystem.reachableUnder_of_runUnder
    (fun _ _ h => h) (.init booted_bareProcess) hRun
  cases hExec : exec call s with
  | error e => simp [hExec] at hCall
  | ok next =>
      exact ⟨s, next.1, next.2, hReach, hExec,
        by simpa [hExec] using hCall⟩

/- An environment that grants a new socket everything. -/
def SocketEnv.granting
    (number : Fd)
    (memory data : Ptr) : SocketEnv where
  number := some number
  memory := some memory
  unixMemory := some data
  csock := ⟨some data, ⟨0⟩, ⟨fun _ => false, fun _ => 0⟩, 0⟩
  wsock := ⟨some data, ⟨0, 0⟩, 0, 1, 1⟩

/- Names that the drivers report without an error. -/
def NameEnv.granting : NameEnv where
  writable := false
  junk := fun _ => 0
  csockAnswer := 0
  port := 0
  address := 0
  wsockCode := 0
  wsockName := wildcard

/- A bind that the interface agrees to. -/
def BindEnv.granting : BindEnv where
  writable := false
  unixEnv := ⟨none, ⟨none, .zero⟩⟩
  csockAnswer := 0
  wsockCode := 0
  name := .granting
  buf := fun _ => 0

/- A listen that the interface agrees to. -/
def ListenEnv.granting : ListenEnv := ⟨false, 0, 0⟩

/- Create a stream for Internet addresses. -/
def streamCall : Call :=
  .socketx (.granting 3 10 11) afInet sockStream 0 none

/- The calls that make a stream listen. -/
def listenCalls : List Call :=
  [streamCall, .bind .granting 3 (some wildcard) 16,
    .listen .granting 3 5]

end Libsocket
