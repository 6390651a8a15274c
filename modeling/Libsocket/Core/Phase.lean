import Libsocket.Core.Invariant

/-
  The phases of a descriptor exclude each other as long as no
  socket that connects or is connected starts to listen, and
  no pending connect is repeated in blocking mode in vain.

  Main declarations:
    * `LsckSocket.PhaseOk`
    * `listenSafe`, `connectSafe`, `phaseSafe`
    * `phaseOk_of_reachable`
    * `connecting_clear_of_failed`
-/

namespace Libsocket

open Command

------------------------------------------------------------
-- Phases
------------------------------------------------------------

/-
  A descriptor is not connecting and connected at once, and
  a listener is neither.
-/
structure LsckSocket.PhaseOk (d : LsckSocket) : Prop where
  exclusive : ¬ (d.connecting = true ∧ d.connected = true)
  listening : d.listening = true →
    d.connected = false ∧ d.connecting = false

theorem LsckSocket.PhaseOk.stable :
    LsckSocket.Stable LsckSocket.PhaseOk := by
  intro d d' hMoves hOk
  rcases hMoves.same with ⟨-, -, -, hListening, -, -⟩
  rcases hMoves.phase with ⟨hConnecting, hConnected⟩ |
    ⟨hFrom, -, hConnecting, hConnected⟩
  · refine ⟨?_, ?_⟩
    · rw [hConnecting, hConnected]
      exact hOk.exclusive
    · rw [hListening, hConnecting, hConnected]
      exact hOk.listening
  · refine ⟨by simp [hConnecting], fun hL => ?_⟩
    rw [hListening] at hL
    rw [(hOk.listening hL).2] at hFrom
    cases hFrom

theorem LsckSocket.Young.phaseOk
    {type : Int}
    {d : LsckSocket}
    (hYoung : LsckSocket.Young type d) :
    LsckSocket.PhaseOk d := by
  refine ⟨by simp [hYoung.connecting], ?_⟩
  simp [hYoung.listening]

/- What comes out of a listener is connected. -/
theorem phaseOk_accepted
    {env : AcceptEnv}
    {addr addrlen : Bool}
    {s : Process}
    {d' : LsckSocket}
    (hAll : AllSockets LsckSocket.PhaseOk s)
    (hAccepted : AcceptedIn env addr addrlen s d') :
    LsckSocket.PhaseOk d' := by
  rcases hAccepted with
    ⟨p, d, nfd, q, hSocket, hRefusal, hStatus⟩
  have hOk : LsckSocket.PhaseOk (d.checked env.writable) :=
    LsckSocket.PhaseOk.stable d _ (.checked _)
      (hAll p d hSocket)
  have hListening := (acceptRefusal_none hRefusal).2.2.2
  have hIdle := (hOk.listening hListening).2
  refine LsckSocket.PhaseOk.stable
    (acceptedSocket (d.checked env.writable) nfd q) d'
    (.of_status hStatus) ⟨?_, fun h => by cases h⟩
  rintro ⟨hConnecting, -⟩
  have hCopied :
      (d.checked env.writable).connecting = true :=
    hConnecting
  rw [hIdle] at hCopied
  cases hCopied

------------------------------------------------------------
-- The Safe Calls
------------------------------------------------------------

/- The descriptor that a call works on, already checked. -/
def Process.entering
    (s : Process)
    (fd : Fd)
    (writable : Bool) : Option (Ptr × LsckSocket) :=
  match (s.fds fd).function, (s.fds fd).data with
  | some .lsckSocketFsext, some (.lsd p) =>
      (s.socket? p).map fun d => (p, d.checked writable)
  | _, _ => none

theorem Process.entering_eq
    {s : Process}
    {fd : Fd}
    {p : Ptr}
    {d : LsckSocket}
    (writable : Bool)
    (hLeads : s.LeadsTo fd p)
    (hSocket : s.heap p = some (.socket d)) :
    s.entering fd writable =
      some (p, d.checked writable) := by
  unfold entering
  rw [hLeads.1, hLeads.2]
  simp [Process.socket?_eq_some.mpr hSocket]

/- What a call would enter with is what its number leads to. -/
theorem Process.leadsTo_of_entering
    {s : Process}
    {fd : Fd}
    {writable : Bool}
    {p : Ptr}
    (hEntering :
      (s.entering fd writable).any (·.1 == p) = true) :
    s.LeadsTo fd p := by
  unfold entering at hEntering
  split at hEntering
  next q hFunction hData =>
      cases hSocket : s.socket? q with
      | none => simp [hSocket] at hEntering
      | some d =>
          have hSame : q = p := by
            simpa [hSocket] using hEntering
          exact ⟨hFunction, hSame ▸ hData⟩
  next => cases hEntering

/-
  A listen that would succeed is not safe on a descriptor
  that connects or is connected: `listen` does not check.
-/
def listenSafe (env : ListenEnv) (c : LsckSocket) : Bool :=
  !(c.connected || c.connecting) ||
    (listenRefusal c).isSome ||
    !(c.interface.any env.succeeds)

/-
  The interface's answer to an attempt is success, or one
  that means the connect is under way.
-/
def answersConnect
    (env : ConnectEnv)
    (i : Interface)
    (p : Ptr)
    (serv : Bytes)
    (s : Process) : Bool :=
  match interfaceConnect env i p serv s with
  | .error _ => true
  | .ok (ret, t) =>
      ret == 0 || t.errno == .EINPROGRESS ||
        t.errno == .EALREADY ||
        t.errno == .EWOULDBLOCK &&
          (t.socket? p).any (!·.blocking)

/-
  A connect is safe unless a connect is pending in blocking
  mode. Then no check may refuse the call, and the interface
  has to agree to it.
-/
def connectSafe
    (env : ConnectEnv)
    (p : Ptr)
    (c : LsckSocket)
    (serv : Option Bytes)
    (addrlen : Nat)
    (s : Process) : Bool :=
  !(c.connecting && c.blocking) ||
    (connectRefusal c serv addrlen).isNone &&
      (connectAddressRefusal c serv).isNone &&
      c.interface.all fun i =>
        answersConnect env i p (serv.getD []) s

/- The calls that keep the phases apart. -/
def phaseSafe (s : Process) : Call → Bool
| .listen env fd _ =>
    (s.entering fd env.writable).all fun found =>
      listenSafe env found.2
| .connect env fd serv addrlen =>
    (s.entering fd env.writable).all fun found =>
      connectSafe env found.1 found.2 serv addrlen
        (s.setBlock found.1 (some (.socket found.2)))
| _ => true

------------------------------------------------------------
-- One Call
------------------------------------------------------------

/- A safe listen that is done was on an idle descriptor. -/
theorem phaseOk_markListening
    {env : ListenEnv}
    {c e : LsckSocket}
    {i : Interface}
    {backlog : Int}
    (hSafe : listenSafe env c = true)
    (hPass : listenRefusal c = none)
    (hInterface : c.interface = some i)
    (hSucceeds : env.succeeds i = true)
    (hStatus : e.status = c.status) :
    LsckSocket.PhaseOk (markListening backlog e) := by
  have hIdle : c.connected = false ∧ c.connecting = false := by
    simpa [listenSafe, hPass, hInterface, hSucceeds]
      using hSafe
  have hConnected := congrArg LsckSocket.connected hStatus
  have hConnecting := congrArg LsckSocket.connecting hStatus
  have hFree : e.connected = false :=
    hConnected.trans hIdle.1
  have hQuiet : e.connecting = false :=
    hConnecting.trans hIdle.2
  refine ⟨?_, fun _ => ⟨hFree, hQuiet⟩⟩
  simp [markListening, hFree]

/- Every outcome of a connect leaves one phase. -/
theorem phaseOk_connectStream
    {env : ConnectEnv}
    {i : Interface}
    {p : Ptr}
    {c : LsckSocket}
    {serv : Option Bytes}
    {dest : Bytes}
    {addrlen : Nat}
    {s s' : Process}
    {r : Int}
    (hForm : WellFormed none s)
    (hAll : AllSockets LsckSocket.PhaseOk s)
    (hSocket : s.heap p = some (.socket c))
    (hPass : connectRefusal c serv addrlen = none)
    (hRun : connectStream env i p dest addrlen s =
      .ok (r, s')) :
    AllSockets LsckSocket.PhaseOk s' := by
  have hStable := LsckSocket.PhaseOk.stable
  rcases connectStream_ok hRun with
    ⟨ret, t, -, hQuiet, hEnd⟩
  have hAllT : AllSockets LsckSocket.PhaseOk t :=
    hQuiet.allSockets hForm hStable hAll
  -- The refusals let no listener through.
  have hRole : ∀ e (d : LsckSocket),
      t.heap p = some (.socket e) →
      d.status = e.status → d.listening = false := by
    intro e d hE hStatus
    rcases hQuiet.back hForm p e hE with ⟨c', hC', hMoves⟩
    rw [hSocket] at hC'
    cases hC'
    have hSame := congrArg LsckSocket.listening hStatus
    exact (hSame.trans hMoves.same.2.2.2.1).trans
      (connectRefusal_none hPass).2.2
  rcases hEnd with ⟨-, -, hTurns⟩ | ⟨-, -, -, hTurns⟩ |
    ⟨-, -, -, -, hTurns⟩
  all_goals
    refine hTurns.allSockets hStable ?_ hAllT
    intro e d hE hStatus _
    have hListening := hRole e d hE hStatus
    refine ⟨?_, fun h => absurd h ?_⟩
    · simp [markConnected, markConnecting, markFailed]
    · simp [markConnected, markConnecting, markFailed,
        hListening]

/- One safe call keeps the phases of all descriptors apart. -/
theorem phaseOk_exec
    {call : Call}
    {s s' : Process}
    {r : Int}
    (hForm : WellFormed none s)
    (hAll : AllSockets LsckSocket.PhaseOk s)
    (hSafe : phaseSafe s call = true)
    (hRun : exec call s = .ok (r, s')) :
    AllSockets LsckSocket.PhaseOk s' := by
  have hStable := LsckSocket.PhaseOk.stable
  have hQuietly : ∀ {t t'}, WellFormed none t →
      AllSockets LsckSocket.PhaseOk t → Quiet t t' →
      AllSockets LsckSocket.PhaseOk t' :=
    fun hF hA hQuiet => hQuiet.allSockets hF hStable hA
  have hChecked : ∀ {p d} w, s.heap p = some (.socket d) →
      AllSockets LsckSocket.PhaseOk (s.check p d w) :=
    fun w hSocket => hQuietly hForm hAll
      (.of_drift_none (drift_check hSocket w))
  cases call with
  | socketx env domain type protocol interface =>
      exact (socketx_evolves hForm.fds hRun).1.allSockets
        hForm hStable (fun _ h => h.phaseOk) hAll
  | accept env fd addr addrlen =>
      exact (accept_evolves hForm hRun).allSockets hForm
        hStable (fun _ => phaseOk_accepted hAll) hAll
  | socketpair env domain type protocol =>
      exact (socketpair_evolves hForm hRun).allSockets
        hForm hStable (fun _ h => h.phaseOk) hAll
  | close env fd =>
      exact hQuietly hForm hAll
        (.of_drift_none (drift_closeFd env fd s r s' hRun))
  | bind env fd addr addrlen =>
      exact hQuietly hForm hAll (quiet_bind hRun)
  | listen env fd backlog =>
      rcases listen_ok hRun with hQuiet |
        ⟨p, d, i, hLeads, hSocket, hInterface, hRefusal,
          hSucceeds, hTurns⟩
      · exact hQuietly hForm hAll hQuiet
      have hListenSafe :
          listenSafe env (d.checked env.writable) = true := by
        simpa [phaseSafe, s.entering_eq env.writable hLeads
          hSocket] using hSafe
      refine hTurns.allSockets hStable ?_
        (hChecked env.writable hSocket)
      intro e f hE hStatus _
      rw [s.socket_check] at hE
      cases hE
      exact phaseOk_markListening hListenSafe hRefusal
        ((d.checked_interface _).trans hInterface)
        hSucceeds hStatus
  | connect env fd serv addrlen =>
      rcases connect_ok hRun with ⟨-, -, hStill⟩ |
        ⟨p, d, i, -, hSocket, -, hRest⟩
      · exact hQuietly hForm hAll (.of_still hStill)
      have hFormC :=
        (drift_check hSocket env.writable).form hForm
      have hAllC := hChecked env.writable hSocket
      rcases hRest with ⟨e, -, rfl⟩ | ⟨hStill, -⟩ |
        ⟨hPass, -, -, hStream⟩
      · exact hAllC
      · exact hQuietly hFormC hAllC (.of_still hStill)
      · exact phaseOk_connectStream hFormC hAllC
          (s.socket_check p d env.writable) hPass hStream
  | sendto env fd msg flags dest tolen =>
      exact hQuietly hForm hAll (quiet_sendto hRun)
  | shutdown env fd how =>
      rcases shutdown_ok hRun with hQuiet |
        ⟨p, d, hSocket, hTurns⟩
      · exact hQuietly hForm hAll hQuiet
      refine hTurns.allSockets hStable ?_
        (hChecked env.writable hSocket)
      intro e f hE hStatus hOk
      have hOkF := hStable e f (.of_status hStatus) hOk
      unfold LsckSocket.shut
      split
      · exact ⟨hOkF.exclusive, hOkF.listening⟩
      · split <;> exact ⟨hOkF.exclusive, hOkF.listening⟩
  | ioctl env fd param =>
      exact hQuietly hForm hAll (.of_drift_none
        (drift_ioctlFionbio env fd param s r s' hRun))
  | fcntl env fd nonblock =>
      exact hQuietly hForm hAll (.of_drift_none
        (drift_fcntlSetfl env fd nonblock s r s' hRun))
  | arrive name message =>
      cases hRun
      exact hQuietly hForm hAll
        (.of_still (Still.setMail _ _ _))

theorem phaseOk_of_reachable
    {s : Process}
    (hReach : lsckSystem.ReachableUnder
      (fun s call => phaseSafe s call = true) s) :
    AllSockets LsckSocket.PhaseOk s := by
  refine hReach.invariant_of
    (fun _ => wellFormed_of_reachable) ?_ ?_
  · intro s hBooted p d hSocket
    rw [hBooted.heap p] at hSocket
    cases hSocket
  · intro s call s' hForm hAll hSafe hStep
    rcases hStep with ⟨r, hRun⟩
    exact phaseOk_exec hForm hAll hSafe hRun

------------------------------------------------------------
-- Connects That Fail
------------------------------------------------------------

/- What passes the refusals connects in blocking mode. -/
theorem idle_of_passed
    {c : LsckSocket}
    {serv : Option Bytes}
    {addrlen : Nat}
    (hPass : connectRefusal c serv addrlen = none)
    (hMode : ¬ (c.connecting = true ∧ c.blocking = true)) :
    c.connecting = false := by
  have hOpen := (connectRefusal_none hPass).1
  cases hConnecting : c.connecting with
  | false => rfl
  | true =>
      cases hBlocking : c.blocking with
      | true => exact absurd ⟨hConnecting, hBlocking⟩ hMode
      | false => exact absurd ⟨hBlocking, hConnecting⟩ hOpen

/-
  A safe connect that is refused, for another reason than a
  pending one, finds none pending.
-/
theorem idle_of_refused
    {env : ConnectEnv}
    {p : Ptr}
    {c : LsckSocket}
    {serv : Option Bytes}
    {addrlen : Nat}
    {s : Process}
    {e : Errno}
    (hSafe : connectSafe env p c serv addrlen s = true)
    (hRefusal : connectRefusal c serv addrlen = some e)
    (hNot : e ≠ .EALREADY) :
    c.connecting = false := by
  cases hConnecting : c.connecting with
  | false => rfl
  | true =>
      cases hMode : c.blocking with
      | true =>
          simp [connectSafe, hConnecting, hMode,
            hRefusal] at hSafe
      | false =>
          simp only [connectRefusal, hMode, hConnecting,
            and_self, if_true,
            Option.some.injEq] at hRefusal
          exact absurd hRefusal.symm hNot

/- The same for a connect refused because of its address. -/
theorem idle_of_address
    {env : ConnectEnv}
    {p : Ptr}
    {c : LsckSocket}
    {serv : Option Bytes}
    {addrlen : Nat}
    {s : Process}
    {e : Errno}
    (hSafe : connectSafe env p c serv addrlen s = true)
    (hPass : connectRefusal c serv addrlen = none)
    (hRefusal : connectAddressRefusal c serv = some e) :
    c.connecting = false := by
  refine idle_of_passed hPass fun hPending => ?_
  simp [connectSafe, hPending, hRefusal] at hSafe

/- An attempt that fails for good was the only one. -/
theorem connecting_of_attempt
    {env : ConnectEnv}
    {i : Interface}
    {p : Ptr}
    {c d' : LsckSocket}
    {serv : Option Bytes}
    {addrlen : Nat}
    {s s' : Process}
    (hForm : WellFormed none s)
    (hSocket : s.heap p = some (.socket c))
    (hInterface : c.interface = some i)
    (hPass : connectRefusal c serv addrlen = none)
    (hSafe : connectSafe env p c serv addrlen s = true)
    (hRun : connectStream env i p (serv.getD []) addrlen s =
      .ok (-1, s'))
    (hProgress : s'.errno ≠ .EINPROGRESS)
    (hAlready : s'.errno ≠ .EALREADY)
    (hSocket' : s'.heap p = some (.socket d')) :
    d'.connecting = false := by
  rcases connectStream_ok hRun with
    ⟨ret, t, hCall, hQuiet, hEnd⟩
  rcases hEnd with ⟨-, hZero, -⟩ | ⟨-, -, hErrno, -⟩ |
    ⟨hRet, ⟨e, hE, hOver⟩, -, hErrno, hTurns⟩
  · cases hZero
  · exact absurd hErrno hProgress
  rw [hErrno] at hProgress hAlready
  have hAnswer :
      answersConnect env i p (serv.getD []) s = false := by
    have hWaits : ¬ (t.errno = .EWOULDBLOCK ∧
        e.blocking = false) := fun h => hOver ⟨h.2, h.1⟩
    simpa [answersConnect, hCall, hRet, hProgress, hAlready,
      Process.socket?_eq_some.mpr hE] using hWaits
  have hIdle : c.connecting = false := by
    refine idle_of_passed hPass fun hPending => ?_
    simp [connectSafe, hPending, hInterface,
      hAnswer] at hSafe
  rcases hTurns.back hSocket' with
    ⟨f, hF, ⟨hOther, -⟩ | ⟨-, g, hG, hStatus⟩⟩
  · exact absurd rfl hOther
  rcases hQuiet.back hForm p f hF with ⟨c', hC', hMoves⟩
  rw [hSocket] at hC'
  cases hC'
  have hEnd := congrArg LsckSocket.connecting hStatus
  have hSame := congrArg LsckSocket.connecting hG
  rcases hMoves.phase with ⟨hKept, -⟩ | ⟨hFrom, -⟩
  · exact (hEnd.trans hSame).trans (hKept.trans hIdle)
  · rw [hIdle] at hFrom
    cases hFrom

/-
  A safe connect that fails, and not because one is pending,
  leaves none pending.
-/
theorem connecting_clear_of_failed
    {env : ConnectEnv}
    {fd : Fd}
    {serv : Option Bytes}
    {addrlen : Nat}
    {s s' : Process}
    {p : Ptr}
    {d' : LsckSocket}
    (hForm : WellFormed none s)
    (hSafe : phaseSafe s (.connect env fd serv addrlen) =
      true)
    (hRun : connect env fd serv addrlen s = .ok (-1, s'))
    (hProgress : s'.errno ≠ .EINPROGRESS)
    (hAlready : s'.errno ≠ .EALREADY)
    (hLeads : s.LeadsTo fd p)
    (hSocket' : s'.heap p = some (.socket d')) :
    d'.connecting = false := by
  rcases connect_ok hRun with ⟨-, hNone, -⟩ |
    ⟨q, d, i, hLeadsQ, hSocket, hInterface, hRest⟩
  · exact absurd hLeads (hNone p)
  have hSame : q = p := by
    have hData := hLeadsQ.2.symm.trans hLeads.2
    simpa using hData
  subst hSame
  have hConnectSafe : connectSafe env q
      (d.checked env.writable) serv addrlen
      (s.check q d env.writable) = true := by
    simpa [phaseSafe, s.entering_eq env.writable hLeads
      hSocket, Process.check] using hSafe
  rcases hRest with ⟨e, hRefusal, rfl⟩ |
    ⟨hStill, hPass, hFailed⟩ | ⟨hPass, -, -, hStream⟩
  · have hEq : d.checked env.writable = d' := by
      simpa [s.socket_check] using hSocket'
    subst hEq
    rcases hRefusal with hFirst | ⟨hPass, hSecond⟩
    · exact idle_of_refused hConnectSafe hFirst hAlready
    · exact idle_of_address hConnectSafe hPass hSecond
  · rcases Option.ne_none_iff_exists'.mp (hFailed rfl) with
      ⟨e, hAddress⟩
    have hIdle :=
      idle_of_address hConnectSafe hPass hAddress
    rcases hStill.socket_back hSocket' with ⟨f, hF, hStatus⟩
    rw [s.socket_check] at hF
    cases hF
    have hSame := congrArg LsckSocket.connecting hStatus
    exact hSame.trans hIdle
  · exact connecting_of_attempt
      ((drift_check hSocket env.writable).form hForm)
      (s.socket_check q d env.writable)
      ((d.checked_interface _).trans hInterface) hPass
      hConnectSafe hStream hProgress hAlready hSocket'

------------------------------------------------------------
-- Every Run
------------------------------------------------------------

/-
  In every run of safe calls the phases exclude each other,
  and a safe connect that fails, except for a pending one,
  leaves no descriptor connecting.
-/
theorem phase_exclusion
    {s : Process}
    (hReach : lsckSystem.ReachableUnder
      (fun s call => phaseSafe s call = true) s) :
    (∀ p d, s.heap p = some (.socket d) →
      ¬ (d.connecting = true ∧ d.connected = true) ∧
        (d.listening = true →
          d.connected = false ∧ d.connecting = false)) ∧
      ∀ env fd serv addrlen s',
        phaseSafe s (.connect env fd serv addrlen) = true →
        connect env fd serv addrlen s = .ok (-1, s') →
        s'.errno ≠ .EINPROGRESS → s'.errno ≠ .EALREADY →
        ∀ p d', s.LeadsTo fd p →
          s'.heap p = some (.socket d') →
          d'.connecting = false := by
  refine ⟨fun p d hSocket => ?_, ?_⟩
  · have hOk := phaseOk_of_reachable hReach p d hSocket
    exact ⟨hOk.exclusive, hOk.listening⟩
  · intro env fd serv addrlen s' hSafe hRun hProgress
      hAlready p d' hLeads hSocket'
    exact connecting_clear_of_failed
      (wellFormed_of_reachable hReach) hSafe hRun hProgress
      hAlready hLeads hSocket'

/- An attempt to connect that WSOCK.VXD answers. -/
def ConnectEnv.answering (code : UInt16) : ConnectEnv where
  writable := false
  unixEnv :=
    { openCtl := ⟨none, .zero⟩
      secretRandom := 0
      seqRandom := 0
      nameRandom := 0
      bind := .granting
      write := ⟨false, .zero⟩
      read := ⟨[], false, .zero⟩
      repJunk := fun _ => 0
      openW := ⟨none, .zero⟩
      close := .leaf }
  csockAnswer := 0
  wsock := ⟨⟨0, 1⟩, code, 0, ⟨0, 0⟩⟩
  name := .granting

/- The address and port that a stream connects to. -/
def peerAddress : Bytes := sockaddrIn 80 1 ++ wildcard.drop 8

/- Connect it, with the driver's answer. -/
def connectCall (code : UInt16) : Call :=
  .connect (.answering code) 3 (some peerAddress) 16

/- Set or clear its blocking mode. -/
def modeCall (flag : Int) : Call :=
  .ioctl ⟨false, 0, ⟨0, flag⟩⟩ 3 (some flag)

/- A refused connect leaves its socket idle. -/
theorem phase_exclusion_of_refused :
    ∃ (s s' : Process) (d' : LsckSocket),
      connect (.answering 10061) 3 (some peerAddress) 16 s =
        .ok (-1, s') ∧
      s'.errno = .ECONNREFUSED ∧
      s'.heap 10 = some (.socket d') ∧
      d'.connecting = false := by
  rcases exists_call phaseSafe [streamCall]
    (connectCall 10061) (fun s r s' =>
      r == -1 && s'.errno == .ECONNREFUSED &&
        (s'.socket? 10).isSome &&
        (s.entering 3 false).any (·.1 == 10) &&
        phaseSafe s (connectCall 10061))
    (by decide +kernel) with ⟨s, r, s', hReach, hRun, hAll⟩
  simp only [Bool.and_eq_true, beq_iff_eq] at hAll
  rcases hAll with
    ⟨⟨⟨⟨rfl, hErrno⟩, hSome⟩, hEntering⟩, hSafe⟩
  rcases Option.isSome_iff_exists.mp hSome with ⟨d', hD'⟩
  have hSocket' := Process.socket?_eq_some.mp hD'
  refine ⟨s, s', d', hRun, hErrno, hSocket', ?_⟩
  exact (phase_exclusion hReach).2 _ _ _ _ _ hSafe hRun
    (by rw [hErrno]; decide) (by rw [hErrno]; decide) 10 d'
    (s.leadsTo_of_entering hEntering) hSocket'

/-
  Without the guard a socket with a pending connect can
  start to listen; and a pending connect repeated in blocking
  mode fails and is still pending.
-/
theorem phase_exclusion_unguarded :
    (∃ (s : Process) (d : LsckSocket),
      lsckSystem.Reachable s ∧
        s.heap 10 = some (.socket d) ∧
        d.listening = true ∧ d.connecting = true) ∧
      ∃ (s s' : Process) (d' : LsckSocket),
        lsckSystem.Reachable s ∧
          connect (.answering 10061) 3 (some peerAddress) 16
            s = .ok (-1, s') ∧
          s'.errno = .ECONNREFUSED ∧ s.LeadsTo 3 10 ∧
          s'.heap 10 = some (.socket d') ∧
          d'.connecting = true := by
  refine ⟨?_, ?_⟩
  · rcases exists_call (fun _ _ => true) [streamCall,
      .bind .granting 3 (some wildcard) 16, modeCall 1,
      connectCall 10035] (.listen .granting 3 5)
      (fun _ _ s' => (s'.socket? 10).any fun d =>
        d.listening && d.connecting)
      (by decide +kernel) with ⟨s, r, s', hReach, hRun, hD⟩
    rcases (Option.any_eq_true _ _).mp hD with ⟨d, hD, hFlags⟩
    rw [Bool.and_eq_true] at hFlags
    exact ⟨s', d, .step hReach.reachable trivial ⟨r, hRun⟩,
      Process.socket?_eq_some.mp hD, hFlags⟩
  · rcases exists_call (fun _ _ => true) [streamCall,
      modeCall 1, connectCall 10035, modeCall 0]
      (connectCall 10061) (fun s r s' =>
        r == -1 && s'.errno == .ECONNREFUSED &&
          (s.entering 3 false).any (·.1 == 10) &&
          (s'.socket? 10).any (·.connecting))
      (by decide +kernel) with ⟨s, r, s', hReach, hRun, hAll⟩
    simp only [Bool.and_eq_true, beq_iff_eq] at hAll
    rcases hAll with ⟨⟨⟨rfl, hErrno⟩, hEntering⟩, hSome⟩
    rcases (Option.any_eq_true _ _).mp hSome with
      ⟨d', hD', hConnecting⟩
    exact ⟨s, s', d', hReach.reachable, hRun, hErrno,
      s.leadsTo_of_entering hEntering,
      Process.socket?_eq_some.mp hD', hConnecting⟩

end Libsocket
