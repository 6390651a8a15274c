import Libsocket.Core.Reservation

/-
  What `accept` leaves behind: the listener as it was, and
  either nothing new or one accepted descriptor.

  Main declarations:
    * `accept_ok`, `acceptReserved_ok`
    * `AcceptedIn`
    * `accept_evolves`
-/

namespace Libsocket

open Command

------------------------------------------------------------
-- Runs Of accept
------------------------------------------------------------

/- `acceptCleanup` removes the descriptor and its data. -/
theorem acceptCleanup_ok
    {slot : Nat}
    {np : Ptr}
    {nd : LsckSocket}
    {s s' : Process}
    (hSocket : s.heap np = some (.socket nd))
    (hRun : acceptCleanup nd.fd slot np s = .ok ((), s')) :
    Erased np nd slot s s' := by
  rcases bind_eq_ok.mp hRun with ⟨_, t, hOne, hRun⟩
  cases hOne
  rcases bind_eq_ok.mp hRun with ⟨_, t, hTwo, hRun⟩
  cases hTwo
  rcases bind_eq_ok.mp hRun with ⟨_, t, hThree, hRun⟩
  cases hThree
  simp only [Process.fds_setEntry, Function.update_self,
    Process.setEntry_setEntry] at hRun
  have hSocket' : (s.setEntry nd.fd
      ⟨false, none, none⟩).heap np = some (.socket nd) :=
    hSocket
  rw [run_bind_ok (derefSocket_run hSocket')] at hRun
  rcases bind_eq_ok.mp hRun with ⟨_, t, hFree, hRun⟩
  rcases bind_eq_ok.mp hRun with ⟨_, u, hClear, hRun⟩
  rcases bind_eq_ok.mp hRun with ⟨_, v, hGone, hLast⟩
  cases hLast
  rcases modifySocket_ok hClear with ⟨e, -, rfl⟩
  rcases free_ok hGone with ⟨hNone, -⟩ | ⟨p', hP, rfl⟩
  · cases hNone
  cases hP
  rcases free_ok hFree with ⟨hNone, rfl⟩ | ⟨q, hQ, rfl⟩
  · refine ⟨⟨rfl, rfl, by simp,
      fun r hNe => .inl (by simp [hNe])⟩, ?_⟩
    simp [hNone]
  · refine ⟨⟨rfl, rfl, by simp, fun r hNe => ?_⟩, ?_⟩
    · by_cases hSame : r = q
      · subst hSame
        exact .inr ⟨hQ, by simp [hNe]⟩
      · exact .inl (by simp [hNe, hSame])
    · intro r hR
      have hSame : q = r := by
        rw [hQ] at hR
        exact Option.some.inj hR
      by_cases hNe : r = np <;> simp [hSame, hNe]

/- The descriptor that a successful accept leaves. -/
def acceptedSocket
    (lsd : LsckSocket)
    (fd : Fd)
    (q : Option Ptr) : LsckSocket :=
  { acceptedCopy lsd fd with
    accepted := true
    connected := true
    idata := q }

/-
  An accept leaves everything but an error number alone, or
  reserves a descriptor and has the interface fill it.
-/
theorem accept_ok
    {env : AcceptEnv}
    {fd : Fd}
    {addr addrlen : Bool}
    {s s' : Process}
    {r : Int}
    (hFds : FdsOk s.fds)
    (hRun : accept env fd addr addrlen s = .ok (r, s')) :
    (r = -1 ∧ (∀ p, ¬ s.LeadsTo fd p) ∧ Still s s') ∨
      ∃ p d, s.LeadsTo fd p ∧
        s.heap p = some (.socket d) ∧
        ((r = -1 ∧ ∃ e,
            s' = { s.check p d env.writable with
              errno := e }) ∨
          acceptRefusal (d.checked env.writable) addr
              addrlen = none ∧
            ∃ i nfd slot np,
              d.interface = some i ∧
              Reserved env.number env.memory
                (s.check p d env.writable) nfd slot np ∧
              acceptOn env i p np nfd slot
                ((s.check p d env.writable).withSocket slot np
                  (acceptedCopy (d.checked env.writable)
                    nfd)) =
                .ok (r, s')) := by
  rcases prologue_ok hRun with hStill |
    ⟨p, d, i, hLeads, hSocket, hInterface, hTail⟩
  · exact .inl hStill
  refine .inr ⟨p, d, hLeads, hSocket, ?_⟩
  cases hRefusal : acceptRefusal (d.checked env.writable)
      addr addrlen with
  | some e =>
      simp only [hRefusal, refuseOr] at hTail
      cases hTail
      exact .inl ⟨rfl, _, rfl⟩
  | none =>
      have hFds' : FdsOk (s.check p d env.writable).fds :=
        hFds
      simp only [hRefusal, refuseOr] at hTail
      rcases bind_eq_ok.mp hTail with ⟨nfd, v, hAlloc, hTail⟩
      rcases allocFd_socket_ok hFds' hAlloc
        with ⟨rfl, rfl⟩ | ⟨hNumber, hLow, hFree, rfl⟩
      · rw [if_pos (by decide)] at hTail
        cases hTail
        exact .inl ⟨rfl, _, rfl⟩
      rw [if_neg (Int.not_lt.mpr hLow),
        run_bind_ok (run_get _)] at hTail
      simp only [Process.table_setEntry] at hTail
      cases hSlot :
          freeSlot (s.check p d env.writable).table with
      | none =>
          simp only [hSlot] at hTail
          rcases abandonFd_ok hFds' hFree hTail with ⟨hR, hS⟩
          exact .inl ⟨hR, _, hS⟩
      | some slot =>
          simp only [hSlot] at hTail
          rcases reserve_ok hFds' hFree hSlot rfl hTail with
            ⟨hR, hS⟩ | ⟨np, hMemory, hHeap, hRest⟩
          · exact .inl ⟨hR, _, hS⟩
          · exact .inr ⟨rfl, i, nfd, slot, np, hInterface,
              ⟨hNumber, hLow, hFree, hSlot, hMemory,
                hHeap⟩, hRest⟩

/- An accept on a socket that is known. -/
theorem accept_leads
    {env : AcceptEnv}
    {fd : Fd}
    {p : Ptr}
    {d : LsckSocket}
    {addr addrlen : Bool}
    {s s' : Process}
    {r : Int}
    (hFds : FdsOk s.fds)
    (hLeads : s.LeadsTo fd p)
    (hSocket : s.heap p = some (.socket d))
    (hRun : accept env fd addr addrlen s = .ok (r, s')) :
    (r = -1 ∧ ∃ e,
        s' = { s.check p d env.writable with errno := e }) ∨
      acceptRefusal (d.checked env.writable) addr addrlen =
          none ∧
        ∃ i nfd slot np,
          d.interface = some i ∧
          Reserved env.number env.memory
            (s.check p d env.writable) nfd slot np ∧
          acceptOn env i p np nfd slot
            ((s.check p d env.writable).withSocket slot np
              (acceptedCopy (d.checked env.writable) nfd)) =
            .ok (r, s') := by
  rcases accept_ok hFds hRun with ⟨-, hNone, -⟩ |
    ⟨q, e, hLeads', hSocket', hRest⟩
  · exact absurd hLeads (hNone p)
  cases hLeads.2.symm.trans hLeads'.2
  cases hSocket.symm.trans hSocket'
  exact hRest

theorem attaches_interfaceAccept
    {env : AcceptEnv}
    {i : Interface}
    {p np : Ptr}
    {s : Process}
    {d nd : LsckSocket}
    (hListener : s.heap p = some (.socket d))
    (hData : d.idata ≠ none)
    (hNew : s.heap np = some (.socket nd))
    (hRoom : sockaddrInSize ≤ nd.peernamelen) :
    AttachesFrom i np (interfaceAccept env i p np) s := by
  cases i with
  | wsock => exact attaches_wsockAccept env.wsock p np s
  | csock =>
      exact attaches_csockAccept hListener hData hNew hRoom
  | unix => exact attaches_unixAccept env.unixEnv p np s

/-
  What comes of a reserved descriptor: it is removed again,
  or it is marked as accepted and connected.
-/
theorem acceptOn_ok
    {env : AcceptEnv}
    {i : Interface}
    {p np : Ptr}
    {slot : Nat}
    {s s' : Process}
    {d nd : LsckSocket}
    {r : Int}
    (hListener : s.heap p = some (.socket d))
    (hData : d.idata ≠ none)
    (hNew : s.heap np = some (.socket nd))
    (hRoom : sockaddrInSize ≤ nd.peernamelen)
    (hRun : acceptOn env i p np nd.fd slot s =
      .ok (r, s')) :
    ∃ ret q v w nd',
      interfaceAccept env i p np s = .ok (ret, w) ∧
      Attached i np q s v ∧ Still v w ∧
      w.heap np = some (.socket nd') ∧
      nd'.status = { nd with idata := q }.status ∧
      (ret ≠ 0 ∧ r = -1 ∧ Erased np nd' slot w s' ∨
        ret = 0 ∧ q ≠ none ∧ r = nd.fd ∧
          s' = w.setBlock np (some (.socket
            { nd' with
              accepted := true
              connected := true }))) := by
  rcases bind_eq_ok.mp hRun with ⟨ret, w, hCall, hTail⟩
  rcases attaches_interfaceAccept hListener hData hNew hRoom
    ret w hCall with ⟨q, v, hAttached, hStill, hSome⟩
  rcases hStill.socket (hAttached.socket hNew) with
    ⟨nd', hSocket, hStatus⟩
  have hFd : nd'.fd = nd.fd :=
    (LsckSocket.same_of_status hStatus).1
  refine ⟨ret, q, v, w, nd', hCall, hAttached, hStill,
    hSocket, hStatus, ?_⟩
  by_cases hRet : ret = 0
  · rw [if_pos hRet,
      run_bind_ok (modifySocket_run hSocket)] at hTail
    rcases bind_eq_ok.mp hTail with ⟨e, t, hRead, hPure⟩
    rcases derefSocket_ok hRead with ⟨rfl, hE⟩
    cases hPure
    have hEq : { nd' with
        accepted := true
        connected := true } = e := by
      simpa using hE
    subst hEq
    refine .inr ⟨hRet, hSome ?_, hFd, rfl⟩
    rw [hRet]
    decide
  · rw [if_neg hRet, ← hFd] at hTail
    rcases bind_eq_ok.mp hTail with ⟨_, t, hCleanup, hPure⟩
    cases hPure
    exact .inl ⟨hRet, rfl, acceptCleanup_ok hSocket hCleanup⟩

/- A descriptor that came out of an accept on a listener. -/
def AcceptedIn
    (env : AcceptEnv)
    (addr addrlen : Bool)
    (s : Process)
    (d' : LsckSocket) : Prop :=
  ∃ p d nfd q, s.heap p = some (.socket d) ∧
    acceptRefusal (d.checked env.writable) addr addrlen =
      none ∧
    d'.status =
      (acceptedSocket (d.checked env.writable) nfd q).status

/- What a listener has passed when it may accept. -/
theorem acceptRefusal_none
    {lsd : LsckSocket}
    {addr addrlen : Bool}
    (hPass : acceptRefusal lsd addr addrlen = none) :
    lsd.type = sockStream ∧ lsd.accepted = false ∧
      lsd.bound = true ∧ lsd.listening = true := by
  unfold acceptRefusal at hPass
  split at hPass
  · cases hPass
  next hType =>
    split at hPass
    · cases hPass
    next hFlags =>
      simp only [ne_eq, not_or, Decidable.not_not,
        Bool.not_eq_true, Bool.not_eq_false] at hType hFlags
      exact ⟨hType.1, hFlags⟩

/-
  The listener of a reserved descriptor, as the callback
  finds it.
-/
theorem reserved_listener
    {number : Option Fd}
    {memory : Option Ptr}
    {s : Process}
    {p np : Ptr}
    {nfd : Fd}
    {slot : Nat}
    {c nd : LsckSocket}
    (hSocket : s.heap p = some (.socket c))
    (hReserved : Reserved number memory s nfd slot np) :
    p ≠ np ∧ (s.withSocket slot np nd).heap p =
      some (.socket c) := by
  have hNe : p ≠ np := by
    rintro rfl
    rw [hReserved.heap] at hSocket
    cases hSocket
  exact ⟨hNe, by
    simpa [Reserved.heap_withSocket, hNe] using hSocket⟩

/- The same, from the state before the reservation. -/
theorem acceptReserved_ok
    {env : AcceptEnv}
    {i : Interface}
    {p np : Ptr}
    {nfd : Fd}
    {slot : Nat}
    {s s' : Process}
    {c : LsckSocket}
    {r : Int}
    (hForm : WellFormed none s)
    (hListener : s.heap p = some (.socket c))
    (hReserved : Reserved env.number env.memory s nfd slot np)
    (hRun : acceptOn env i p np nfd slot
      (s.withSocket slot np (acceptedCopy c nfd)) =
        .ok (r, s')) :
    ∃ ret q v w nd',
      interfaceAccept env i p np
        (s.withSocket slot np (acceptedCopy c nfd)) =
          .ok (ret, w) ∧
      Attached i np q
        (s.withSocket slot np (acceptedCopy c nfd)) v ∧
      Still v w ∧
      w.heap np = some (.socket nd') ∧
      nd'.status =
        { acceptedCopy c nfd with idata := q }.status ∧
      (ret ≠ 0 ∧ r = -1 ∧ Erased np nd' slot w s' ∨
        ret = 0 ∧ q ≠ none ∧ r = nfd ∧
          s' = w.setBlock np (some (.socket
            { nd' with
              accepted := true
              connected := true }))) := by
  have hData : c.idata ≠ none := by
    rcases hForm.data p c hListener (by simp) with
      ⟨-, q, -, -, hQ, -⟩
    simp [hQ]
  have hRoom : sockaddrInSize ≤
      (acceptedCopy c nfd).peernamelen := by
    simp [acceptedCopy, sockaddrInSize, sockaddrMaxSize]
  have hNew := Reserved.socket_withSocket s slot np
    (acceptedCopy c nfd)
  exact acceptOn_ok (reserved_listener hListener
    hReserved).2 hData hNew hRoom hRun

/- A descriptor that is not accepted is erased again. -/
theorem acceptFailed_ok
    {env : AcceptEnv}
    {i : Interface}
    {p np : Ptr}
    {nfd : Fd}
    {slot : Nat}
    {s s' : Process}
    {c : LsckSocket}
    (hForm : WellFormed none s)
    (hListener : s.heap p = some (.socket c))
    (hReserved : Reserved env.number env.memory s nfd slot np)
    (hRun : acceptOn env i p np nfd slot
      (s.withSocket slot np (acceptedCopy c nfd)) =
        .ok (-1, s')) :
    ∃ ret q v w nd',
      interfaceAccept env i p np
        (s.withSocket slot np (acceptedCopy c nfd)) =
          .ok (ret, w) ∧
      Attached i np q
        (s.withSocket slot np (acceptedCopy c nfd)) v ∧
      Still v w ∧
      nd'.status =
        { acceptedCopy c nfd with idata := q }.status ∧
      Erased np nd' slot w s' := by
  rcases acceptReserved_ok hForm hListener hReserved hRun with
    ⟨ret, q, v, w, nd', hCall, hAttached, hStill, -, hStatus,
      hEnd⟩
  refine ⟨ret, q, v, w, nd', hCall, hAttached, hStill,
    hStatus, ?_⟩
  rcases hEnd with ⟨-, -, hErased⟩ | ⟨-, -, hNfd, -⟩
  · exact hErased
  · have hLow := hReserved.low
    rw [← hNfd] at hLow
    exact absurd hLow (by decide)

/- The new descriptor becomes an accepted one. -/
theorem evolves_accepted
    {i : Interface}
    {np : Ptr}
    {nfd : Fd}
    {slot : Nat}
    {number : Option Fd}
    {memory : Option Ptr}
    {s v w : Process}
    {c nd' : LsckSocket}
    {q : Option Ptr}
    {New : LsckSocket → Prop}
    (hReserved : Reserved number memory s nfd slot np)
    (hAttached : Attached i np q
      (s.withSocket slot np (acceptedCopy c nfd)) v)
    (hSome : q ≠ none)
    (hStill : Still v w)
    (hInterface : c.interface = some i)
    (hSocket : w.heap np = some (.socket nd'))
    (hNew : ∀ d', d'.status =
      (acceptedSocket c nfd q).status → New d') :
    Evolves New s (w.setBlock np (some (.socket
      { nd' with accepted := true, connected := true }))) := by
  have hFresh := And.intro hReserved.closed
    (And.intro hReserved.slot hReserved.heap)
  have hAdopt : Evolves (fun _ => True) s w :=
    evolves_adopt hFresh hAttached hSome hStill hInterface
      fun _ _ => trivial
  refine ⟨fun hForm => ?_, fun hForm r e hE => ?_⟩
  · exact (hAdopt.form hForm).setSocket hSocket rfl rfl rfl
  by_cases hSame : r = np
  · subst hSame
    have hEq : { nd' with
        accepted := true
        connected := true } = e := by
      simpa using hE
    subst hEq
    have hStatus := reserved_socket hAttached hStill hSocket
    exact .inr (hNew _ (congrArg (fun d : LsckSocket =>
      { d with accepted := true, connected := true })
      hStatus))
  · have hOld : w.heap r = some (.socket e) := by
      simpa [hSame] using hE
    rcases reserved_back hAttached hStill hSame hOld with
      ⟨-, e', hE', -, hStatus⟩
    exact .inl ⟨e', hE', .of_status hStatus⟩

/-
  An accept moves the listener quietly and creates at most
  one socket.
-/
theorem accept_evolves
    {env : AcceptEnv}
    {fd : Fd}
    {addr addrlen : Bool}
    {s s' : Process}
    {r : Int}
    (hForm : WellFormed none s)
    (hRun : accept env fd addr addrlen s = .ok (r, s')) :
    Evolves (AcceptedIn env addr addrlen s) s s' := by
  rcases accept_ok hForm.fds hRun with ⟨-, -, hStill⟩ |
    ⟨p, d, -, hSocket, hRest⟩
  · exact .of_quiet (.of_still hStill)
  have hCheck := drift_check hSocket env.writable
  rcases hRest with ⟨-, e, rfl⟩ |
    ⟨hRefusal, i, nfd, slot, np, hInterface, hReserved,
      hOn⟩
  · exact .of_quiet (.of_drift_none
      (hCheck.trans (.of_still (Still.setErrno _ e))))
  have hListener : (s.check p d env.writable).heap p =
      some (.socket (d.checked env.writable)) :=
    s.socket_check p d env.writable
  rcases acceptReserved_ok (hCheck.form hForm) hListener
      hReserved hOn with
    ⟨ret, q, v, w, nd', -, hAttached, hStill, hSocket', -,
      hEnd⟩
  refine Evolves.after_drift hCheck ?_
  rcases hEnd with ⟨-, -, hErased⟩ | ⟨-, hSome, -, rfl⟩
  · have hFresh := And.intro hReserved.closed
      (And.intro hReserved.slot hReserved.heap)
    exact evolves_cleanup hFresh hAttached hStill hSocket'
      hErased.toRemoved
  · refine evolves_accepted hReserved hAttached hSome hStill
      ((d.checked_interface _).trans hInterface) hSocket' ?_
    intro d' hStatus
    exact ⟨p, d, nfd, q, hSocket, hRefusal, hStatus⟩

end Libsocket
