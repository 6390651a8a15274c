import Libsocket.Core.Phase

/-
  What a new descriptor inherits from its listener.

  Main declarations:
    * `accept_success`
    * `LsckSocket.FreshFrom`
    * `fresh_accept_iff`
-/

namespace Libsocket

open Command

------------------------------------------------------------
-- Successful Accepts
------------------------------------------------------------

/- A descriptor number that is taken was not free before. -/
theorem Reserved.fd_ne
    {number : Option Fd}
    {memory : Option Ptr}
    {s : Process}
    {nfd : Fd}
    {slot : Nat}
    {p np : Ptr}
    {d : LsckSocket}
    (hReserved : Reserved number memory s nfd slot np)
    (hForm : WellFormed none s)
    (hSocket : s.heap p = some (.socket d)) :
    nfd ≠ d.fd := by
  rintro rfl
  have hHandler := (hForm.entry hSocket).1
  rw [hForm.fds.closed _ hReserved.closed] at hHandler
  cases hHandler

/-
  After a successful accept the listener has the status it
  had after the check on entry, and the new descriptor is a
  patched copy of it with data of its own.
-/
theorem accept_success
    {env : AcceptEnv}
    {fd : Fd}
    {addr addrlen : Bool}
    {s s' : Process}
    {p : Ptr}
    {d : LsckSocket}
    {r : Int}
    (hForm : WellFormed none s)
    (hLeads : s.LeadsTo fd p)
    (hSocket : s.heap p = some (.socket d))
    (hRun : accept env fd addr addrlen s = .ok (r, s'))
    (hOk : r ≠ -1) :
    ∃ np d' nd q,
      np ≠ p ∧ r ≠ d.fd ∧
        s'.heap p = some (.socket d') ∧
        d'.status = (d.checked env.writable).status ∧
        s'.heap np = some (.socket nd) ∧
        nd.status = (acceptedSocket
          (d.checked env.writable) r q).status := by
  rcases accept_ok hForm.fds hRun with ⟨hR, -⟩ |
    ⟨p', e, hLeads', hSocket', hRest⟩
  · exact absurd hR hOk
  have hSame : p = p' := by
    have hData := hLeads.2.symm.trans hLeads'.2
    simpa using hData
  subst hSame
  rw [hSocket] at hSocket'
  cases hSocket'
  rcases hRest with ⟨hR, -⟩ |
    ⟨-, i, nfd, slot, np, -, hReserved, hOn⟩
  · exact absurd hR hOk
  have hFormC :=
    (drift_check hSocket env.writable).form hForm
  have hListener := s.socket_check p d env.writable
  rcases acceptReserved_ok hFormC hListener hReserved hOn
    with ⟨ret, q, v, w, nd', -, hAttached, hStill, hNew,
      hStatus, hEnd⟩
  rcases hEnd with ⟨-, hR, -⟩ | ⟨-, -, rfl, rfl⟩
  · exact absurd hR hOk
  rcases reserved_listener hListener hReserved with
    ⟨hNe, hThere⟩
  rcases hStill.socket (hAttached.other hNe hThere) with
    ⟨d', hD', hSame⟩
  have hMoves : LsckSocket.Moves False d
    (d.checked env.writable) := .checked _
  refine ⟨np, d', { nd' with
    accepted := true
    connected := true }, q, hNe.symm, ?_, ?_, hSame, ?_, ?_⟩
  · rw [← hMoves.same.1]
    exact hReserved.fd_ne hFormC hListener
  · simpa [hNe] using hD'
  · simp
  · exact congrArg (fun d : LsckSocket =>
      { d with accepted := true, connected := true })
      hStatus

------------------------------------------------------------
-- Fresh Descriptors
------------------------------------------------------------

/-
  What a program expects of a descriptor that it got from
  an accept on the listener `d`.
-/
structure LsckSocket.FreshFrom
    (d : LsckSocket)
    (fd : Fd)
    (nd : LsckSocket) : Prop where
  own_fd : nd.fd = fd ∧ nd.fd ≠ d.fd
  own_idata : nd.idata ≠ none ∧ nd.idata ≠ d.idata
  listening : nd.listening = false
  connecting : nd.connecting = false
  accepted : nd.accepted = true
  connected : nd.connected = true
  inbound : nd.inbound = true
  outbound : nd.outbound = true

/- The check on entry is not about directions. -/
theorem LsckSocket.checked_directions
    (writable : Bool)
    (d : LsckSocket) :
    (d.checked writable).inbound = d.inbound ∧
      (d.checked writable).outbound = d.outbound := by
  rcases d.checked_cases writable with hSame | hDone
  · rw [hSame]
    exact ⟨rfl, rfl⟩
  · rw [hDone.2.2]
    exact ⟨rfl, rfl⟩

/-
  An accept gives a fresh descriptor exactly when its
  listener is not connecting, once checked, and neither
  direction of the listener is shut down.
-/
theorem fresh_accept_iff
    {env : AcceptEnv}
    {fd : Fd}
    {addr addrlen : Bool}
    {s s' : Process}
    {p : Ptr}
    {d : LsckSocket}
    {r : Int}
    (hReach : lsckSystem.Reachable s)
    (hLeads : s.LeadsTo fd p)
    (hSocket : s.heap p = some (.socket d))
    (hRun : accept env fd addr addrlen s = .ok (r, s'))
    (hOk : r ≠ -1) :
    (∃ np d' nd, s'.LeadsTo r np ∧
      s'.heap p = some (.socket d') ∧
      s'.heap np = some (.socket nd) ∧
      LsckSocket.FreshFrom d' r nd) ↔
    (d.checked env.writable).connecting = false ∧
      d.inbound = true ∧ d.outbound = true := by
  have hForm : WellFormed none s :=
    wellFormed_of_reachable hReach
  have hForm' : WellFormed none s' :=
    (accept_evolves hForm hRun).form hForm
  rcases accept_success hForm hLeads hSocket hRun hOk with
    ⟨np, d', nd, q, hNe, hFdNe, hD', hStatus', hNd, hStatus⟩
  have hFd : nd.fd = r := congrArg LsckSocket.fd hStatus
  have hConnecting := congrArg LsckSocket.connecting hStatus
  have hInbound := congrArg LsckSocket.inbound hStatus
  have hOutbound := congrArg LsckSocket.outbound hStatus
  rcases d.checked_directions env.writable with ⟨hIn, hOut⟩
  have hLeadsR : s'.LeadsTo r np := by
    rw [← hFd]
    exact hForm'.entry hNd
  constructor
  · rintro ⟨np', e, nd', hLeads', -, hNd', hFresh⟩
    have hSame : np = np' := by
      have hData := hLeadsR.2.symm.trans hLeads'.2
      simpa using hData
    subst hSame
    have hEq : nd = nd' := by
      simpa [hNd] using hNd'
    rw [← hEq] at hFresh
    exact ⟨hConnecting.symm.trans hFresh.connecting,
      hIn.symm.trans (hInbound.symm.trans hFresh.inbound),
      hOut.symm.trans
        (hOutbound.symm.trans hFresh.outbound)⟩
  · rintro ⟨hIdle, hOpenIn, hOpenOut⟩
    refine ⟨np, d', nd, hLeadsR, hD', hNd, ?_⟩
    have hFdD : d'.fd = d.fd := by
      have hMoves : LsckSocket.Moves False d
        (d.checked env.writable) := .checked _
      exact (LsckSocket.same_of_status hStatus').1.trans
        hMoves.same.1
    have hOwn : nd.idata ≠ d'.idata := fun hShared =>
      hNe (hForm'.own np p nd d' hNd hD' (by simp) (by simp)
        hShared)
    have hData : nd.idata ≠ none := by
      rcases hForm'.data np nd hNd (by simp) with
        ⟨-, q', -, -, hQ, -⟩
      simp [hQ]
    exact
      { own_fd := ⟨hFd, by rw [hFd, hFdD]; exact hFdNe⟩
        own_idata := ⟨hData, hOwn⟩
        listening := congrArg LsckSocket.listening hStatus
        connecting := hConnecting.trans hIdle
        accepted := congrArg LsckSocket.accepted hStatus
        connected := congrArg LsckSocket.connected hStatus
        inbound := hInbound.trans (hIn.trans hOpenIn)
        outbound := hOutbound.trans (hOut.trans hOpenOut) }

/- An environment that grants an accept everything. -/
def AcceptEnv.granting
    (number : Fd)
    (memory data : Ptr) : AcceptEnv where
  writable := false
  number := some number
  memory := some memory
  unixEnv :=
    { memory := some data
      content := .cleared
      read := ⟨[], false, .zero⟩
      reqJunk := fun _ => 0
      slotRandom := 0
      openR := ⟨none, .zero⟩
      openW := ⟨none, .zero⟩
      sunJunk := fun _ => 0
      seqRandom := 0
      repJunk := fun _ => 0
      write := ⟨false, .zero⟩ }
  csock := ⟨some data, ⟨0⟩, 0, ⟨fun _ => false, fun _ => 0⟩,
    0, 0, 0⟩
  wsock := ⟨some data, ⟨0, 0⟩, 0, 0, 1, 1, wildcard⟩

/- Accept on the first socket of a run. -/
def acceptCall : Call :=
  .accept (.granting 4 20 21) 3 true true

theorem fresh_accept_of_idle :
    ∃ (s s' : Process) (np : Ptr) (d' nd : LsckSocket),
      accept (.granting 4 20 21) 3 true true s =
        .ok (4, s') ∧
      s'.heap 10 = some (.socket d') ∧
      s'.heap np = some (.socket nd) ∧
      LsckSocket.FreshFrom d' 4 nd := by
  rcases exists_call (fun _ _ => true) listenCalls acceptCall
    (fun s r _ => r == 4 &&
      (s.entering 3 false).any (·.1 == 10) &&
      (s.socket? 10).any fun d =>
        !d.connecting && d.inbound && d.outbound)
    (by decide +kernel) with ⟨s, r, s', hReach, hRun, hAll⟩
  simp only [Bool.and_eq_true, beq_iff_eq] at hAll
  rcases hAll with ⟨⟨rfl, hEntering⟩, hOpen⟩
  rcases (Option.any_eq_true _ _).mp hOpen with
    ⟨d, hD, hFlags⟩
  simp only [Bool.and_eq_true, Bool.not_eq_true'] at hFlags
  have hIdle : (d.checked false).connecting = false := by
    simp [LsckSocket.checked, hFlags.1.1]
  rcases (fresh_accept_iff hReach.reachable
    (s.leadsTo_of_entering hEntering)
    (Process.socket?_eq_some.mp hD) hRun (by decide)).mpr
      ⟨hIdle, hFlags.1.2, hFlags.2⟩ with
    ⟨np, d', nd, -, hD', hNd, hFresh⟩
  exact ⟨s, s', np, d', nd, hRun, hD', hNd, hFresh⟩

/-
  A connected socket that has shut its input down can still
  be made to listen. What it accepts cannot receive.
-/
theorem accept_inherits_shutdown :
    ∃ (s s' : Process) (nd : LsckSocket),
      lsckSystem.Reachable s ∧
        (∃ d, s.LeadsTo 3 10 ∧
          s.heap 10 = some (.socket d) ∧
          d.listening = true) ∧
        accept (.granting 4 20 21) 3 true true s =
          .ok (4, s') ∧
        s'.LeadsTo 4 20 ∧ s'.heap 20 = some (.socket nd) ∧
        nd.inbound = false := by
  rcases exists_call (fun _ _ => true) [streamCall,
    .bind .granting 3 (some wildcard) 16, connectCall 0,
    .shutdown ⟨false, 0⟩ 3 shutRd, .listen .granting 3 5]
    acceptCall (fun s r s' => r == 4 &&
      (s.entering 3 false).any (·.1 == 10) &&
      (s.socket? 10).any (·.listening) &&
      (s'.entering 4 false).any (·.1 == 20) &&
      (s'.socket? 20).any (!·.inbound))
    (by decide +kernel) with ⟨s, r, s', hReach, hRun, hAll⟩
  simp only [Bool.and_eq_true, beq_iff_eq] at hAll
  rcases hAll with
    ⟨⟨⟨⟨rfl, hEntering⟩, hListener⟩, hEntering'⟩, hShut⟩
  rcases (Option.any_eq_true _ _).mp hListener with
    ⟨d, hD, hListening⟩
  rcases (Option.any_eq_true _ _).mp hShut with
    ⟨nd, hNd, hInbound⟩
  exact ⟨s, s', nd, hReach.reachable,
    ⟨d, s.leadsTo_of_entering hEntering,
      Process.socket?_eq_some.mp hD, hListening⟩, hRun,
    s'.leadsTo_of_entering hEntering',
    Process.socket?_eq_some.mp hNd, by simpa using hInbound⟩

end Libsocket
