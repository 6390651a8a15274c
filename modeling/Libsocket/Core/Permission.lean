import Libsocket.Core.Invariant

/-
  The order in which a socket gets its flags: only a bound
  stream listens, what was accepted is connected, and only a
  stream is connected or connecting.

  Main declarations:
    * `LsckSocket.Permitted`
    * `Call.plain`
    * `permitted_of_reachable`
-/

namespace Libsocket

open Command

------------------------------------------------------------
-- Permitted Descriptors
------------------------------------------------------------

/- Streams and datagrams are all that `socket` creates. -/
structure LsckSocket.Permitted (d : LsckSocket) : Prop where
  type_eq : d.type = sockStream ∨ d.type = sockDgram
  listening : d.listening = true →
    d.bound = true ∧ d.type = sockStream
  accepted : d.accepted = true → d.connected = true
  phase : d.connected = true ∨ d.connecting = true →
    d.type = sockStream

/- What a quiet call does keeps a descriptor permitted. -/
theorem LsckSocket.Permitted.stable :
    LsckSocket.Stable LsckSocket.Permitted := by
  intro d d' hMoves hOk
  rcases hMoves.same with
    ⟨-, hType, hAccepted, hListening, -, -⟩
  refine ⟨by rw [hType]; exact hOk.type_eq, ?_, ?_, ?_⟩
  · intro hL
    rw [hListening] at hL
    rcases hOk.listening hL with ⟨hBound, hStream⟩
    rcases hMoves.bound with hLoose | hSame
    · rw [hBound] at hLoose
      cases hLoose
    · exact ⟨hSame.trans hBound, hType.trans hStream⟩
  · intro hA
    rw [hAccepted] at hA
    rcases hMoves.phase with ⟨-, hSame⟩ | ⟨-, -, -, hDone⟩
    · exact hSame.trans (hOk.accepted hA)
    · exact hDone
  · intro hPhase
    rw [hType]
    rcases hMoves.phase with ⟨hSame, hSame'⟩ | ⟨hFrom, -⟩
    · rw [hSame, hSame'] at hPhase
      exact hOk.phase hPhase
    · exact hOk.phase (.inr hFrom)

/- A young socket of a usual type is permitted. -/
theorem LsckSocket.Young.permitted
    {type : Int}
    {d : LsckSocket}
    (hUsual : type = sockStream ∨ type = sockDgram)
    (hYoung : LsckSocket.Young type d) :
    LsckSocket.Permitted d := by
  refine ⟨by rw [hYoung.type_eq]; exact hUsual, ?_, ?_, ?_⟩
  · simp [hYoung.listening]
  · simp [hYoung.accepted]
  · intro hPhase
    rw [hYoung.connecting] at hPhase
    rw [hYoung.type_eq]
    exact hYoung.connected (by simpa using hPhase)

/- The interfaces take streams and datagrams only. -/
theorem Interface.protoCheck_type
    {i : Interface}
    {domain type protocol : Int}
    (hCheck : i.protoCheck domain type protocol = true) :
    type = sockStream ∨ type = sockDgram := by
  cases i with
  | wsock =>
      simp only [protoCheck, Bool.and_eq_true,
        Bool.or_eq_true, beq_iff_eq] at hCheck
      exact hCheck.2.imp And.left And.left
  | csock =>
      simp only [protoCheck, Bool.and_eq_true,
        Bool.or_eq_true, beq_iff_eq] at hCheck
      exact hCheck.2.imp And.left And.left
  | unix =>
      simp only [protoCheck, Bool.and_eq_true,
        Bool.or_eq_true, beq_iff_eq] at hCheck
      exact hCheck.1.2.symm

theorem chosenInterface_type
    {s : Process}
    {domain type protocol : Int}
    {i : Interface}
    (hChosen : chosenInterface s domain type protocol none =
      some i) :
    type = sockStream ∨ type = sockDgram := by
  unfold chosenInterface at hChosen
  rcases Option.filter_eq_some_iff.mp hChosen with
    ⟨hFound, -⟩
  have hCheck := List.find?_some hFound
  rw [Bool.and_eq_true] at hCheck
  exact Interface.protoCheck_type hCheck.2

theorem pairInterface_type
    {s : Process}
    {domain type protocol : Int}
    {i : Interface}
    (hFound : pairInterface s domain type protocol =
      some i) :
    type = sockStream ∨ type = sockDgram := by
  have hCheck := List.find?_some hFound
  rw [Bool.and_eq_true, Bool.and_eq_true] at hCheck
  exact Interface.protoCheck_type hCheck.1.2

------------------------------------------------------------
-- One Call
------------------------------------------------------------

/- Only `__socketx` can be told which interface to use. -/
def Call.plain : Call → Bool
| .socketx _ _ _ _ interface => interface.isNone
| _ => true

theorem permitted_accepted
    {env : AcceptEnv}
    {addr addrlen : Bool}
    {s : Process}
    {d' : LsckSocket}
    (hAccepted : AcceptedIn env addr addrlen s d') :
    LsckSocket.Permitted d' := by
  rcases hAccepted with
    ⟨p, d, nfd, q, hSocket, hRefusal, hStatus⟩
  have hStream := (acceptRefusal_none hRefusal).1
  refine LsckSocket.Permitted.stable
    (acceptedSocket (d.checked env.writable) nfd q) d'
    (.of_status hStatus) ⟨.inl hStream, ?_, ?_, ?_⟩
  · intro hListening
    cases hListening
  · exact fun _ => rfl
  · exact fun _ => hStream

/- A stream that may connect has no other role yet. -/
theorem permitted_connectable
    {c e : LsckSocket}
    {serv : Option Bytes}
    {addrlen : Nat}
    (hOk : LsckSocket.Permitted c)
    (hPass : connectRefusal c serv addrlen = none)
    (hDgram : c.type ≠ sockDgram)
    (hMoves : LsckSocket.Moves (c.bound = false) c e) :
    e.type = sockStream ∧ e.accepted = false ∧
      e.listening = false := by
  have hStream := hOk.type_eq.resolve_right hDgram
  rcases connectRefusal_none hPass with
    ⟨-, hFree, hListening⟩
  rcases hMoves.same with
    ⟨-, hType, hAccepted, hSame, -, -⟩
  refine ⟨hType.trans hStream, ?_, hSame.trans hListening⟩
  rw [hAccepted]
  by_contra hNot
  exact hFree ⟨hOk.accepted (by simpa using hNot), hStream⟩

theorem permitted_markListening
    {c d : LsckSocket}
    {backlog : Int}
    (hPass : listenRefusal c = none)
    (hStatus : d.status = c.status)
    (hOk : LsckSocket.Permitted c) :
    LsckSocket.Permitted (markListening backlog d) := by
  have hOkD := LsckSocket.Permitted.stable c d
    (.of_status hStatus) hOk
  have hType := congrArg LsckSocket.type hStatus
  have hBound := congrArg LsckSocket.bound hStatus
  rcases listenRefusal_none hPass with ⟨hStream, hSet⟩
  exact ⟨.inl (hType.trans hStream),
    fun _ => ⟨hBound.trans hSet, hType.trans hStream⟩,
    hOkD.accepted, hOkD.phase⟩

/- Shutting a direction down has nothing to do with roles. -/
theorem permitted_shut
    {c d : LsckSocket}
    (how : Int)
    (hStatus : d.status = c.status)
    (hOk : LsckSocket.Permitted c) :
    LsckSocket.Permitted (LsckSocket.shut how d) := by
  have hOkD := LsckSocket.Permitted.stable c d
    (.of_status hStatus) hOk
  unfold LsckSocket.shut
  split
  · exact ⟨hOkD.type_eq, hOkD.listening, hOkD.accepted,
      hOkD.phase⟩
  · split <;> exact ⟨hOkD.type_eq, hOkD.listening,
      hOkD.accepted, hOkD.phase⟩

/- The three outcomes of a connect keep it permitted. -/
theorem permitted_connectStream
    {env : ConnectEnv}
    {i : Interface}
    {p : Ptr}
    {c : LsckSocket}
    {serv : Option Bytes}
    {dest : Bytes}
    {addrlen : Nat}
    {s s' : Process}
    {r : Int}
    (hForm : WellFormed none s)
    (hAll : AllSockets LsckSocket.Permitted s)
    (hSocket : s.heap p = some (.socket c))
    (hPass : connectRefusal c serv addrlen = none)
    (hDgram : c.type ≠ sockDgram)
    (hRun : connectStream env i p dest addrlen s =
      .ok (r, s')) :
    AllSockets LsckSocket.Permitted s' := by
  have hStable := LsckSocket.Permitted.stable
  rcases connectStream_ok hRun with
    ⟨ret, t, -, hQuiet, hEnd⟩
  have hAllT : AllSockets LsckSocket.Permitted t :=
    hQuiet.allSockets hForm hStable hAll
  have hRole : ∀ e (d : LsckSocket), t.heap p = some (.socket e) →
      d.status = e.status →
      d.type = sockStream ∧ d.accepted = false ∧
        d.listening = false := by
    intro e d hE hStatus
    rcases hQuiet.back hForm p e hE with ⟨c', hC', hMoves⟩
    rw [hSocket] at hC'
    cases hC'
    exact permitted_connectable (hAll p c hSocket) hPass
      hDgram (hMoves.trans_bound (.of_status hStatus))
  rcases hEnd with ⟨-, -, hTurns⟩ | ⟨-, -, -, hTurns⟩ |
    ⟨-, -, -, -, hTurns⟩
  all_goals
    refine hTurns.allSockets hStable ?_ hAllT
    intro e d hE hStatus _
    rcases hRole e d hE hStatus with
      ⟨hStream, hAccepted, hListening⟩
    refine ⟨.inl hStream, fun h => ?_, fun h => ?_,
      fun _ => hStream⟩
    · exact absurd h (by
        simp [markConnected, markConnecting, markFailed,
          hListening])
    · exact absurd h (by
        simp [markConnected, markConnecting, markFailed,
          hAccepted])

/- One call keeps every descriptor permitted. -/
theorem permitted_exec
    {call : Call}
    {s s' : Process}
    {r : Int}
    (hForm : WellFormed none s)
    (hAll : AllSockets LsckSocket.Permitted s)
    (hPlain : call.plain = true)
    (hRun : exec call s = .ok (r, s')) :
    AllSockets LsckSocket.Permitted s' := by
  have hStable := LsckSocket.Permitted.stable
  have hQuietly : ∀ {t t'}, WellFormed none t →
      AllSockets LsckSocket.Permitted t → Quiet t t' →
      AllSockets LsckSocket.Permitted t' :=
    fun hF hA hQuiet => hQuiet.allSockets hF hStable hA
  have hChecked : ∀ {p d} w, s.heap p = some (.socket d) →
      AllSockets LsckSocket.Permitted (s.check p d w) :=
    fun w hSocket => hQuietly hForm hAll
      (.of_drift_none (drift_check hSocket w))
  cases call with
  | socketx env domain type protocol interface =>
      have hNone : interface = none := by
        simpa [Call.plain] using hPlain
      subst hNone
      cases hChosen : chosenInterface s domain type protocol
          none with
      | none =>
          rcases socketx_quiet hChosen hForm.fds hRun with
            ⟨-, e, rfl⟩
          exact hAll
      | some i =>
          exact (socketx_evolves hForm.fds hRun).1.allSockets
            hForm hStable (fun _ hYoung => hYoung.permitted
              (chosenInterface_type hChosen)) hAll
  | accept env fd addr addrlen =>
      exact (accept_evolves hForm hRun).allSockets hForm
        hStable (fun _ => permitted_accepted) hAll
  | socketpair env domain type protocol =>
      cases hFound : pairInterface s domain type protocol with
      | none =>
          simp only [exec, socketpair] at hRun
          rw [run_bind_ok (run_get s)] at hRun
          simp only [hFound] at hRun
          cases hRun
          exact hAll
      | some i =>
          exact (socketpair_evolves hForm hRun).allSockets
            hForm hStable (fun _ hYoung => hYoung.permitted
              (pairInterface_type hFound)) hAll
  | close env fd =>
      exact hQuietly hForm hAll
        (.of_drift_none (drift_closeFd env fd s r s' hRun))
  | bind env fd addr addrlen =>
      exact hQuietly hForm hAll (quiet_bind hRun)
  | listen env fd backlog =>
      rcases listen_ok hRun with hQuiet |
        ⟨p, d, i, -, hSocket, -, hRefusal, -, hTurns⟩
      · exact hQuietly hForm hAll hQuiet
      · refine hTurns.allSockets hStable ?_
          (hChecked env.writable hSocket)
        intro e f hE hStatus hOk
        rw [s.socket_check] at hE
        cases hE
        exact permitted_markListening hRefusal hStatus hOk
  | connect env fd serv addrlen =>
      rcases connect_ok hRun with ⟨-, -, hStill⟩ |
        ⟨p, d, i, -, hSocket, -, hRest⟩
      · exact hQuietly hForm hAll (.of_still hStill)
      have hFormC :=
        (drift_check hSocket env.writable).form hForm
      rcases hRest with ⟨e, -, rfl⟩ | ⟨hStill, -⟩ |
        ⟨hPass, hDgram, -, hStream⟩
      · exact hChecked env.writable hSocket
      · exact hQuietly hFormC
          (hChecked env.writable hSocket) (.of_still hStill)
      · exact permitted_connectStream hFormC
          (hChecked env.writable hSocket)
          (s.socket_check p d env.writable) hPass hDgram
          hStream
  | sendto env fd msg flags dest tolen =>
      exact hQuietly hForm hAll (quiet_sendto hRun)
  | shutdown env fd how =>
      rcases shutdown_ok hRun with hQuiet |
        ⟨p, d, hSocket, hTurns⟩
      · exact hQuietly hForm hAll hQuiet
      · refine hTurns.allSockets hStable ?_
          (hChecked env.writable hSocket)
        intro e f hE hStatus hOk
        exact permitted_shut how hStatus hOk
  | ioctl env fd param =>
      exact hQuietly hForm hAll (.of_drift_none
        (drift_ioctlFionbio env fd param s r s' hRun))
  | fcntl env fd nonblock =>
      exact hQuietly hForm hAll (.of_drift_none
        (drift_fcntlSetfl env fd nonblock s r s' hRun))
  | arrive name message =>
      cases hRun
      exact hQuietly hForm hAll
        (.of_still (Still.setMail _ _ _))

------------------------------------------------------------
-- Every Run
------------------------------------------------------------

theorem permitted_of_reachable
    {s : Process}
    (hReach : lsckSystem.ReachableUnder
      (fun _ call => call.plain = true) s) :
    AllSockets LsckSocket.Permitted s := by
  refine hReach.invariant_of
    (fun _ => wellFormed_of_reachable) ?_ ?_
  · intro s hBooted p d hSocket
    rw [hBooted.heap p] at hSocket
    cases hSocket
  · intro s call s' hForm hAll hPlain hStep
    rcases hStep with ⟨r, hRun⟩
    exact permitted_exec hForm hAll hPlain hRun

/-
  In every run of the calls a program can make, a descriptor
  listens only when it is a bound stream, what was accepted
  is connected, and only streams connect.
-/
theorem permission_chain
    {s : Process}
    (hReach : lsckSystem.ReachableUnder
      (fun _ call => call.plain = true) s)
    (p : Ptr)
    (d : LsckSocket)
    (hSocket : s.heap p = some (.socket d)) :
    (d.listening = true →
      d.bound = true ∧ d.type = sockStream) ∧
    (d.accepted = true → d.connected = true) ∧
    (d.connected = true ∨ d.connecting = true →
      d.type = sockStream) := by
  have hOk := permitted_of_reachable hReach p d hSocket
  exact ⟨hOk.listening, hOk.accepted, hOk.phase⟩

theorem permission_chain_of_listener :
    ∃ (s : Process) (p : Ptr) (d : LsckSocket),
      s.heap p = some (.socket d) ∧ d.listening = true ∧
      (d.listening = true →
        d.bound = true ∧ d.type = sockStream) ∧
      (d.accepted = true → d.connected = true) ∧
      (d.connected = true ∨ d.connecting = true →
        d.type = sockStream) := by
  have hSome : ((TransitionSystem.runUnder exec
      (fun _ call => call.plain) listenCalls
      bareProcess).bind fun s =>
        (s.socket? 10).filter (·.listening)).isSome =
          true := by
    decide +kernel
  rcases Option.isSome_iff_exists.mp hSome with ⟨d, hD⟩
  rcases Option.bind_eq_some_iff.mp hD with ⟨s, hRun, hS⟩
  rcases Option.filter_eq_some_iff.mp hS with
    ⟨hSocket, hListening⟩
  have hBlock := Process.socket?_eq_some.mp hSocket
  exact ⟨s, 10, d, hBlock, hListening,
    permission_chain
      (TransitionSystem.reachableUnder_of_runUnder
        (fun _ _ h => h) (.init booted_bareProcess) hRun)
      10 d hBlock⟩

end Libsocket
