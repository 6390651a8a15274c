import Libsocket.Core.Reservation

/-
  What `__socketx` and `socketpair` leave behind: either
  nothing, or young sockets that are registered like all the
  others.

  Main declarations:
    * `socketx_ok`, `socketx_evolves`
    * `LsckSocket.Young`
    * `socketpair_evolves`
-/

namespace Libsocket

open Command

------------------------------------------------------------
-- Runs Of __socketx
------------------------------------------------------------

/- The interface that a new descriptor gets. -/
def chosenInterface
    (s : Process)
    (domain type protocol : Int)
    (interface : Option Interface) : Option Interface :=
  (chooseInterface s domain type
    (defaultProtocol domain type protocol)
    interface).filter (·.provides .socket)

/- The new descriptor as the callback finds it. -/
def reservedSocket
    (s : Process)
    (fd : Fd)
    (domain type protocol : Int)
    (interface : Option Interface) : LsckSocket :=
  { newSocket s fd domain type
      (defaultProtocol domain type protocol) with
    interface :=
      chosenInterface s domain type protocol interface }

/-
  `__socketx` gives up with nothing but an error number, or
  has the interface finish a reserved descriptor.
-/
theorem socketx_ok
    {env : SocketEnv}
    {domain type protocol : Int}
    {interface : Option Interface}
    {s s' : Process}
    {r : Int}
    (hFds : FdsOk s.fds)
    (hRun : socketx env domain type protocol interface s =
      .ok (r, s')) :
    (r = -1 ∧ ∃ e, s' = { s with errno := e }) ∨
      s.inited = true ∧ ∃ fd slot p,
        Reserved env.number env.memory s fd slot p ∧
        socketOn env
          (chosenInterface s domain type protocol interface)
          fd slot p
          (s.withSocket slot p (reservedSocket s fd domain
            type protocol interface)) = .ok (r, s') := by
  unfold socketx at hRun
  rw [run_bind_ok (run_get s)] at hRun
  by_cases hInited : s.inited = false
  · simp only [if_pos hInited] at hRun
    cases hRun
    exact .inl ⟨rfl, _, rfl⟩
  simp only [if_neg hInited] at hRun
  rcases bind_eq_ok.mp hRun with ⟨fd, t, hAlloc, hTail⟩
  rcases allocFd_socket_ok hFds hAlloc with
    ⟨rfl, rfl⟩ | ⟨hNumber, hLow, hFree, rfl⟩
  · rw [if_pos (by decide)] at hTail
    cases hTail
    exact .inl ⟨rfl, _, rfl⟩
  rw [if_neg (Int.not_lt.mpr hLow)] at hTail
  cases hSlot : freeSlot s.table with
  | none =>
      simp only [hSlot] at hTail
      rcases abandonFd_ok hFds hFree hTail with ⟨hR, hS⟩
      exact .inl ⟨hR, _, hS⟩
  | some slot =>
      simp only [hSlot] at hTail
      rcases reserve_ok hFds hFree hSlot rfl hTail with
        ⟨hR, hS⟩ | ⟨p, hMemory, hHeap, hRest⟩
      · exact .inl ⟨hR, _, hS⟩
      · exact .inr ⟨by simpa using hInited, fd, slot, p,
          ⟨hNumber, hLow, hFree, hSlot, hMemory, hHeap⟩,
          hRest⟩

/- `__SOCKET_CLEANUP` undoes the reservation. -/
theorem socketCleanup_ok
    {fd : Fd}
    {slot : Nat}
    {p : Ptr}
    {s s' : Process}
    (hRun : socketCleanup fd slot p s = .ok ((), s')) :
    s' = ((s.setEntry fd FdEntry.unused).setBlock p
      none).setSlot slot none := by
  unfold socketCleanup at hRun
  rw [run_bind_ok (releaseFd_run fd s)] at hRun
  rcases bind_eq_ok.mp hRun with ⟨_, t, hFree, hLast⟩
  cases hLast
  rcases free_ok hFree with ⟨hNone, -⟩ | ⟨p', hP, rfl⟩
  · cases hNone
  · cases hP
    rfl

theorem socketCleanup_removed
    {slot : Nat}
    {p : Ptr}
    {d : LsckSocket}
    {s s' : Process}
    (hRun : socketCleanup d.fd slot p s = .ok ((), s')) :
    Removed p d slot s s' := by
  rw [socketCleanup_ok hRun]
  exact ⟨rfl, rfl, by simp, fun r hNe => .inl (by simp [hNe])⟩

theorem attaches_interfaceSocket
    (env : SocketEnv)
    (i : Interface)
    (p : Ptr) :
    Attaches i p (interfaceSocket env i p) := by
  cases i with
  | wsock => exact attaches_wsockSocket env.wsock p
  | csock => exact attaches_csockSocket env.csock p
  | unix => exact attaches_unixSocket env.unixMemory p

/-
  A descriptor of a type that nothing has been done with
  beyond binding it, or connecting it in a pair.
-/
structure LsckSocket.Young
    (type : Int)
    (d : LsckSocket) : Prop where
  type_eq : d.type = type
  listening : d.listening = false
  accepted : d.accepted = false
  connecting : d.connecting = false
  connected : d.connected = true → type = sockStream

theorem LsckSocket.Young.stable (type : Int) :
    LsckSocket.Stable (LsckSocket.Young type) := by
  intro d d' hMoves hYoung
  rcases hMoves.same with
    ⟨-, hType, hAccepted, hListening, -, -⟩
  rcases hMoves.phase with ⟨hConnecting, hConnected⟩ |
    ⟨hFrom, -⟩
  · refine ⟨hType.trans hYoung.type_eq,
      hListening.trans hYoung.listening,
      hAccepted.trans hYoung.accepted,
      hConnecting.trans hYoung.connecting, ?_⟩
    rw [hConnected]
    exact hYoung.connected
  · rw [hYoung.connecting] at hFrom
    cases hFrom

/- The status of a new descriptor is young. -/
theorem LsckSocket.Young.of_reserved
    {s : Process}
    {fd : Fd}
    {domain type protocol : Int}
    {interface : Option Interface}
    {q : Option Ptr}
    {d : LsckSocket}
    (hStatus : d.status =
      { reservedSocket s fd domain type protocol interface
        with idata := q }.status) :
    LsckSocket.Young type d := by
  have hType := congrArg LsckSocket.type hStatus
  have hListening := congrArg LsckSocket.listening hStatus
  have hAccepted := congrArg LsckSocket.accepted hStatus
  have hConnecting := congrArg LsckSocket.connecting hStatus
  have hConnected := congrArg LsckSocket.connected hStatus
  refine ⟨hType, hListening, hAccepted, hConnecting, ?_⟩
  intro hTrue
  have hFalse : d.connected = false := hConnected
  rw [hFalse] at hTrue
  cases hTrue

/- Without an interface nothing is created. -/
theorem socketx_quiet
    {env : SocketEnv}
    {domain type protocol : Int}
    {interface : Option Interface}
    {s s' : Process}
    {r : Int}
    (hNone : chosenInterface s domain type protocol
      interface = none)
    (hFds : FdsOk s.fds)
    (hRun : socketx env domain type protocol interface s =
      .ok (r, s')) :
    r = -1 ∧ ∃ e, s' = { s with errno := e } := by
  rcases socketx_ok hFds hRun with hEarly |
    ⟨-, fd, slot, p, hReserved, hOn⟩
  · exact hEarly
  simp only [socketOn, hNone] at hOn
  rcases bind_eq_ok.mp hOn with ⟨_, t, hCleanup, hFail⟩
  cases hFail
  refine ⟨rfl, .EPROTONOSUPPORT, ?_⟩
  rw [socketCleanup_ok hCleanup,
    hReserved.withSocket_undone hFds rfl]

/-
  `__socketx` creates at most one socket, whose number was
  free.
-/
theorem socketx_evolves
    {env : SocketEnv}
    {domain type protocol : Int}
    {interface : Option Interface}
    {s s' : Process}
    {r : Int}
    (hFds : FdsOk s.fds)
    (hRun : socketx env domain type protocol interface s =
      .ok (r, s')) :
    Evolves (LsckSocket.Young type) s s' ∧
      (r ≠ -1 → 0 ≤ r ∧ (s.fds r).dosOpen = false) := by
  rcases socketx_ok hFds hRun with ⟨rfl, e, rfl⟩ |
    ⟨-, fd, slot, p, hReserved, hOn⟩
  · exact ⟨.of_quiet (.of_still (Still.setErrno s e)),
      by simp⟩
  have hFresh :
      (s.fds (reservedSocket s fd domain type protocol
        interface).fd).dosOpen = false ∧
      freeSlot s.table = some slot ∧ s.heap p = none :=
    ⟨hReserved.closed, hReserved.slot, hReserved.heap⟩
  unfold socketOn at hOn
  cases hChosen :
      chosenInterface s domain type protocol interface with
  | none =>
      rcases socketx_quiet hChosen hFds hRun with
        ⟨rfl, e, rfl⟩
      exact ⟨.of_quiet (.of_still (Still.setErrno s e)),
        by simp⟩
  | some i =>
      simp only [hChosen] at hOn
      rcases bind_eq_ok.mp hOn with ⟨ret, w, hCall, hTail⟩
      rcases attaches_interfaceSocket env i p _ ret w hCall
        with ⟨q, v, hAttached, hStill, hSome⟩
      by_cases hRet : ret = -1
      · rw [if_pos hRet, run_bind_ok (run_get w)] at hTail
        rcases bind_eq_ok.mp hTail with
          ⟨_, t, hCleanup, hFail⟩
        cases hFail
        refine ⟨?_, by simp⟩
        rcases hStill.socket (hAttached.socket
          (Reserved.socket_withSocket s slot p _)) with
          ⟨d', hSocket, hStatus⟩
        have hFd : d'.fd = fd :=
          (LsckSocket.same_of_status hStatus).1
        subst hFd
        refine (evolves_cleanup hFresh hAttached hStill
          hSocket (socketCleanup_removed hCleanup)).trans
          (LsckSocket.Young.stable type) ?_
        exact .of_quiet (.of_still (Still.setErrno t _))
      · rw [if_neg hRet] at hTail
        cases hTail
        refine ⟨?_, fun _ =>
          ⟨hReserved.low, hReserved.closed⟩⟩
        exact evolves_adopt hFresh hAttached (hSome hRet)
          hStill hChosen fun d' => LsckSocket.Young.of_reserved

------------------------------------------------------------
-- Runs Of socketpair
------------------------------------------------------------

/- Whatever socket a block holds, it is young. -/
def YoungAt (type : Int) (p : Ptr) (s : Process) : Prop :=
  ∀ d, s.heap p = some (.socket d) →
    LsckSocket.Young type d

theorem LsckSocket.Young.of_status
    {type : Int}
    {d d' : LsckSocket}
    (hYoung : LsckSocket.Young type d)
    (hStatus : d'.status = d.status) :
    LsckSocket.Young type d' :=
  LsckSocket.Young.stable type d d' (.of_status hStatus)
    hYoung

theorem YoungAt.still
    {type : Int}
    {p : Ptr}
    {s t : Process}
    (hYoung : YoungAt type p s)
    (hStill : Still s t) :
    YoungAt type p t := by
  intro d' hSocket'
  rcases hStill.socket_back hSocket' with
    ⟨d, hSocket, hStatus⟩
  exact (hYoung d hSocket).of_status hStatus

/- A change that keeps young descriptors young. -/
theorem YoungAt.modify
    {type : Int}
    {p : Ptr}
    {f : LsckSocket → LsckSocket}
    {s t u : Process}
    (hEvolves : Evolves (LsckSocket.Young type) s t)
    (hYoung : YoungAt type p t)
    (hSame : ∀ d, (f d).fd = d.fd ∧
      (f d).interface = d.interface ∧
      (f d).idata = d.idata)
    (hKeeps : ∀ d, LsckSocket.Young type d →
      LsckSocket.Young type (f d))
    (hRun : modifySocket p f t = .ok ((), u)) :
    Evolves (LsckSocket.Young type) s u ∧
      ∀ r, YoungAt type r t → YoungAt type r u := by
  rcases modifySocket_ok hRun with ⟨d, hSocket, rfl⟩
  rcases hSame d with ⟨hFd, hInterface, hData⟩
  have hNew := hKeeps d (hYoung d hSocket)
  refine ⟨hEvolves.setSocket hSocket hFd hInterface hData
    hNew, ?_⟩
  intro r hOther e hE
  by_cases hEq : r = p
  · subst hEq
    have hBlock : f d = e := by simpa using hE
    exact hBlock ▸ hNew
  · exact hOther e (by simpa [hEq] using hE)

/- Marking both ends keeps them young. -/
theorem evolves_markEnds
    {type : Int}
    {p₀ p₁ : Ptr}
    {f : LsckSocket → LsckSocket}
    {s s' : Process}
    {r : Int}
    (hYoung₀ : YoungAt type p₀ s)
    (hYoung₁ : YoungAt type p₁ s)
    (hSame : ∀ d, (f d).fd = d.fd ∧
      (f d).interface = d.interface ∧
      (f d).idata = d.idata)
    (hKeeps : ∀ d, LsckSocket.Young type d →
      LsckSocket.Young type (f d))
    (hRun : (do
      modifySocket p₀ f
      modifySocket p₁ f
      return 0 : Exec Int) s = .ok (r, s')) :
    Evolves (LsckSocket.Young type) s s' := by
  rcases bind_eq_ok.mp hRun with ⟨_, t, hOne, hTail⟩
  rcases bind_eq_ok.mp hTail with ⟨_, u, hTwo, hPure⟩
  cases hPure
  rcases YoungAt.modify (.of_quiet (.of_still (Still.refl s)))
    hYoung₀ hSame hKeeps hOne with ⟨hEvolves, hRest⟩
  exact (YoungAt.modify hEvolves (hRest p₁ hYoung₁) hSame
    hKeeps hTwo).1

theorem unixSocketpair_evolves
    {env : UnixSocketpairEnv}
    {type : Int}
    {p₀ p₁ : Ptr}
    {s s' : Process}
    {r : Int}
    (hYoung₀ : YoungAt type p₀ s)
    (hYoung₁ : YoungAt type p₁ s)
    (hRun : unixSocketpair env p₀ p₁ s = .ok (r, s')) :
    Evolves (LsckSocket.Young type) s s' := by
  rcases bind_eq_ok.mp hRun with ⟨d₀, t, hRead₀, hTail⟩
  rcases derefSocket_ok hRead₀ with ⟨rfl, hSocket₀⟩
  rcases bind_eq_ok.mp hTail with ⟨d₁, u, hRead₁, hRest⟩
  rcases derefSocket_ok hRead₁ with ⟨rfl, hSocket₁⟩
  have hType : d₀.type = type :=
    (hYoung₀ d₀ hSocket₀).type_eq
  -- All steps up to the last two leave sockets alone.
  have hLast : ∀ v f, Still u v →
      (∀ d, (f d).fd = d.fd ∧
        (f d).interface = d.interface ∧
        (f d).idata = d.idata) →
      (∀ d, LsckSocket.Young type d →
        LsckSocket.Young type (f d)) →
      (do
        modifySocket p₀ f
        modifySocket p₁ f
        return 0 : Exec Int) v = .ok (r, s') →
      Evolves (LsckSocket.Young type) u s' := by
    intro v f hStill hSame hKeeps hMark
    exact .after_drift (.of_still hStill)
      (evolves_markEnds (hYoung₀.still hStill)
        (hYoung₁.still hStill) hSame hKeeps hMark)
  rcases bind_eq_ok.mp hRest with ⟨ret₀, v, hBind₀, hRest⟩
  have hStillV := still_unixBind _ _ _ _ _ _ _ hBind₀
  by_cases hRet₀ : ret₀ = -1
  · rw [if_pos hRet₀] at hRest
    cases hRest
    exact .of_quiet (.of_still hStillV)
  rw [if_neg hRet₀] at hRest
  rcases bind_eq_ok.mp hRest with ⟨ret₁, w, hBind₁, hRest⟩
  have hStillW := hStillV.trans
    (still_unixBind _ _ _ _ _ _ _ hBind₁)
  by_cases hRet₁ : ret₁ = -1
  · rw [if_pos hRet₁] at hRest
    cases hRest
    exact .of_quiet (.of_still hStillW)
  rw [if_neg hRet₁] at hRest
  by_cases hStream : d₀.type = sockStream
  · rw [if_pos hStream] at hRest
    rcases bind_eq_ok.mp hRest with ⟨_, x, hPair, hRest⟩
    refine hLast x _ (hStillW.trans
      (still_pairStream _ _ _ _ _ _ _ _ hPair)) ?_ ?_ hRest
    · exact fun d => ⟨rfl, rfl, rfl⟩
    · intro d hYoung
      exact ⟨hYoung.type_eq, hYoung.listening,
        hYoung.accepted, hYoung.connecting,
        fun _ => hType.symm.trans hStream⟩
  rw [if_neg hStream] at hRest
  by_cases hDgram : d₀.type = sockDgram
  · rw [if_pos hDgram] at hRest
    rcases bind_eq_ok.mp hRest with ⟨_, x, hOne, hRest⟩
    rcases bind_eq_ok.mp hRest with ⟨_, y, hTwo, hRest⟩
    refine hLast y _ (hStillW.trans
      ((still_setPeerpath _ _ _ _ _ hOne).trans
        (still_setPeerpath _ _ _ _ _ hTwo))) ?_ ?_ hRest
    · exact fun d => ⟨rfl, rfl, rfl⟩
    · intro d hYoung
      exact ⟨hYoung.type_eq, hYoung.listening,
        hYoung.accepted, hYoung.connecting,
        hYoung.connected⟩
  · rw [if_neg hDgram] at hRest
    exact .of_quiet (.of_still (hStillW.trans
      (StillCmd.fail _ _ _ _ hRest)))

/- A socket under a number that was free is young. -/
theorem young_of_fresh
    {type : Int}
    {s t : Process}
    {fd : Fd}
    {p : Ptr}
    (hForm : WellFormed none s)
    (hEvolves : Evolves (LsckSocket.Young type) s t)
    (hClosed : (s.fds fd).dosOpen = false)
    (hHandler :
      (t.fds fd).function = some .lsckSocketFsext)
    (hData : (t.fds fd).data = some (.lsd p)) :
    YoungAt type p t := by
  intro d hSocket
  rcases hEvolves.back hForm p d hSocket with
    ⟨d', hD', hMoves⟩ | hYoung
  · rcases (hEvolves.form hForm).target hHandler with
      ⟨p', e, hData', hE, hFd⟩
    rw [hData] at hData'
    cases hData'
    rw [hSocket] at hE
    cases hE
    have hOld := (hForm.entry hD').1
    rw [← hMoves.same.1, hFd, hForm.fds.closed fd hClosed]
      at hOld
    cases hOld
  · exact hYoung

theorem drift_closeEnds
    (env : SocketpairEnv)
    (fd₀ fd₁ : Fd) :
    DriftCmd none (closeEnds env fd₀ fd₁) := by
  refine DriftCmd.bind (DriftCmd.when ?_) fun _ => ?_
  · exact (drift_closeFd _ _).bind fun _ => DriftCmd.pure _
  · refine DriftCmd.when ?_
    exact (drift_closeFd _ _).bind fun _ => DriftCmd.pure _

theorem drift_storeNames
    (sockname peername : NameEnv)
    (p : Ptr) :
    DriftCmd none (storeNames sockname peername p) := by
  refine (DriftCmd.modifySocket ?_).bind fun _ => ?_
  · exact fun d => .of_status rfl
  refine DriftCmd.bind ?_ fun _ => ?_
  · refine (DriftCmd.derefSocket p).bind fun lsd => ?_
    refine (drift_getsockname _ _ _).bind fun r => ?_
    split
    · exact DriftCmd.pure _
    · refine DriftCmd.ite ?_ (DriftCmd.stop _)
      exact DriftCmd.modifySocket fun d => .of_status rfl
  · refine (DriftCmd.derefSocket p).bind fun lsd => ?_
    refine (drift_getpeername _ _ _).bind fun r => ?_
    split
    · exact DriftCmd.pure _
    · exact DriftCmd.of_still (StillCmd.setPeername _ _ _)

theorem interfaceSocketpair_evolves
    {env : UnixSocketpairEnv}
    {i : Interface}
    {type : Int}
    {p₀ p₁ : Ptr}
    {s s' : Process}
    {r : Int}
    (hYoung₀ : YoungAt type p₀ s)
    (hYoung₁ : YoungAt type p₁ s)
    (hRun : interfaceSocketpair env i p₀ p₁ s =
      .ok (r, s')) :
    Evolves (LsckSocket.Young type) s s' := by
  cases i with
  | wsock =>
      exact .of_quiet (.of_still
        (StillCmd.fail _ _ _ _ hRun))
  | csock =>
      exact .of_quiet (.of_still
        (StillCmd.fail _ _ _ _ hRun))
  | unix =>
      exact unixSocketpair_evolves hYoung₀ hYoung₁ hRun

theorem connectEnds_evolves
    {env : SocketpairEnv}
    {i : Interface}
    {fd₀ fd₁ : Fd}
    {type : Int}
    {p₀ p₁ : Ptr}
    {s s' : Process}
    {r : Int}
    (hYoung₀ : YoungAt type p₀ s)
    (hYoung₁ : YoungAt type p₁ s)
    (hRun : connectEnds env i fd₀ fd₁ p₀ p₁ s =
      .ok (r, s')) :
    Evolves (LsckSocket.Young type) s s' := by
  rcases bind_eq_ok.mp hRun with ⟨ret, t, hPair, hTail⟩
  refine (interfaceSocketpair_evolves hYoung₀ hYoung₁
    hPair).trans (LsckSocket.Young.stable type)
    (.of_quiet (.of_drift_none ?_))
  by_cases hRet : ret = -1
  · rw [if_pos hRet, run_bind_ok (run_get t)] at hTail
    exact ((drift_closeEnds _ _ _).bind
      fun _ => DriftCmd.fail _) t r s' hTail
  · rw [if_neg hRet] at hTail
    exact ((drift_storeNames _ _ _).bind fun _ =>
      (drift_storeNames _ _ _).bind
        fun _ => DriftCmd.pure _) t r s' hTail

/- A pair is two young sockets, or none. -/
theorem socketpair_evolves
    {env : SocketpairEnv}
    {domain type protocol : Int}
    {s s' : Process}
    {r : Int}
    (hForm : WellFormed none s)
    (hRun : socketpair env domain type protocol s =
      .ok (r, s')) :
    Evolves (LsckSocket.Young type) s s' := by
  have hStable := LsckSocket.Young.stable type
  unfold socketpair at hRun
  rw [run_bind_ok (run_get s)] at hRun
  cases hPair : pairInterface s domain type protocol with
  | none =>
      simp only [hPair] at hRun
      exact .of_quiet (.of_still
        (StillCmd.fail _ _ _ _ hRun))
  | some i =>
      simp only [hPair] at hRun
      rcases bind_eq_ok.mp hRun with ⟨fd₀, t, hOne, hTail⟩
      rcases bind_eq_ok.mp hTail with ⟨fd₁, u, hTwo, hRest⟩
      rcases socketx_evolves hForm.fds hOne with
        ⟨hEvolves₀, hFresh₀⟩
      have hFormT := hEvolves₀.form hForm
      rcases socketx_evolves hFormT.fds hTwo with
        ⟨hEvolves₁, hFresh₁⟩
      have hBoth := hEvolves₀.trans hStable hEvolves₁
      refine hBoth.trans hStable ?_
      by_cases hFailed : fd₀ = -1 ∨ fd₁ = -1
      · rw [if_pos hFailed] at hRest
        exact .of_quiet (.of_drift_none
          (((drift_closeEnds _ _ _).bind
            fun _ => DriftCmd.pure _) u r s' hRest))
      rw [if_neg hFailed] at hRest
      rcases not_or.mp hFailed with ⟨hNe₀, hNe₁⟩
      rcases bind_eq_ok.mp hRest with ⟨l₀, v, hL₀, hAfter⟩
      rcases fdToLsd_ok hL₀ with ⟨rfl, hEntry₀⟩
      rcases bind_eq_ok.mp hAfter with ⟨l₁, w, hL₁, hLast⟩
      rcases fdToLsd_ok hL₁ with ⟨rfl, hEntry₁⟩
      have hClose : ∀ e, DriftCmd none (do
          closeEnds env fd₀ fd₁
          fail e) := fun e =>
        (drift_closeEnds _ _ _).bind fun _ => DriftCmd.fail e
      cases l₀ with
      | none =>
          exact .of_quiet (.of_drift_none
            (hClose _ _ _ _ hLast))
      | some p₀ =>
          cases l₁ with
          | none =>
              exact .of_quiet (.of_drift_none
                (hClose _ _ _ _ hLast))
          | some p₁ =>
              rcases (hEntry₀ p₀).mp rfl with
                ⟨hHandler₀, hData₀⟩
              rcases (hEntry₁ p₁).mp rfl with
                ⟨hHandler₁, hData₁⟩
              exact connectEnds_evolves
                (young_of_fresh hForm hBoth (hFresh₀ hNe₀).2
                  hHandler₀ hData₀)
                (young_of_fresh hFormT hEvolves₁
                  (hFresh₁ hNe₁).2 hHandler₁ hData₁)
                hLast

end Libsocket
