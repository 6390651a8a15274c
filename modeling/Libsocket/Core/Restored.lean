import Libsocket.Core.DirectClose
import Libsocket.Unix.AcceptLeaks

/-
  What a call leaves behind that fails to create a socket.
  `__socketx` does not free the data that an interface has
  hung on the descriptor, and `accept` neither closes the
  mailslot of the connection nor makes sure that the listener
  is back in its mode.

  Main declarations:
    * `Restored`, `ListenerKept`
    * `SocketLeaks`, `socketx_restored_iff`
    * `AcceptSpoils`, `accept_restored_iff`
    * `failures_restore_iff`
-/

namespace Libsocket

open Command

------------------------------------------------------------
-- Restored States
------------------------------------------------------------

/-
  Slots and descriptors are as before, and the same blocks
  are live.
-/
structure Restored (s s' : Process) : Prop where
  table : s'.table = s.table
  fds : s'.fds = s.fds
  live : ∀ r, (s'.heap r).isSome = (s.heap r).isSome

theorem Restored.setErrno (s : Process) (e : Errno) :
    Restored s { s with errno := e } :=
  ⟨rfl, rfl, fun _ => rfl⟩

/- A descriptor and its data have not been touched. -/
structure ListenerKept
    (p : Ptr)
    (d : LsckSocket)
    (s s' : Process) : Prop where
  socket : s'.heap p = some (.socket d)
  data : ∀ l, d.idata = some l → s'.heap l = s.heap l

/- An allocation yields what is asked for if it is free. -/
theorem malloc_eq_some
    {memory q : Option Ptr}
    {content : Block}
    {s s' : Process}
    (hRun : malloc memory content s = .ok (q, s'))
    (r : Ptr) :
    q = some r ↔ memory = some r ∧ s.heap r = none := by
  cases q with
  | none =>
      have hNone := malloc_none hRun
      constructor
      · intro hSome
        cases hSome
      · rintro ⟨rfl, hFree⟩
        simp [hFree] at hNone
  | some q =>
      rcases malloc_ok hRun with ⟨hNone, -⟩ |
        ⟨q', hQ, hMemory, hFree, -⟩
      · cases hNone
      cases hQ
      constructor
      · intro hSame
        cases hSame
        exact ⟨hMemory, hFree⟩
      · rintro ⟨hSame, -⟩
        rw [← hMemory, hSame]

/-
  The allocation that callbacks start with, and a rest that
  only fills in what it yields.
-/
theorem attached_of_malloc
    {i : Interface}
    {p : Ptr}
    {memory : Option Ptr}
    {content : Block}
    {rest : Option Ptr → Exec Int}
    {s s' : Process}
    {r : Int}
    (hKind : content.kind = some i)
    (hRest : ∀ q, StillCmd (rest q))
    (hRun : (do
      let q ← malloc memory content
      modifySocket p fun d => { d with idata := q }
      rest q) s = .ok (r, s')) :
    ∃ q t, (∀ a, q = some a ↔
        memory = some a ∧ s.heap a = none) ∧
      Attached i p q s t ∧ Still t s' := by
  rcases bind_eq_ok.mp hRun with ⟨q, t, hMalloc, hTail⟩
  rcases bind_eq_ok.mp hTail with ⟨_, u, hHang, hLast⟩
  exact ⟨q, u, malloc_eq_some hMalloc,
    attached_of_run hKind hMalloc hHang,
    hRest q u r s' hLast⟩

/- The new data is live, and all else is as it was. -/
theorem Attached.isSome
    {i : Interface}
    {p : Ptr}
    {q : Option Ptr}
    {s t u : Process}
    (hAttached : Attached i p q s t)
    (hStill : Still t u)
    (r : Ptr) :
    (u.heap r).isSome =
      ((s.heap r).isSome || q == some r) := by
  have hShape := congrArg Option.isSome (hStill.heap r)
  simp only [Option.isSome_map] at hShape
  rw [hShape]
  rcases hAttached with ⟨d, hSocket, hRest⟩
  by_cases hSame : r = p
  · subst hSame
    cases q with
    | none =>
        cases hRest
        simp [hSocket]
    | some q =>
        rcases hRest with ⟨-, b, -, rfl⟩
        simp [hSocket]
  · cases q with
    | none =>
        cases hRest
        simp [hSame]
    | some q =>
        rcases hRest with ⟨-, b, -, rfl⟩
        by_cases hEq : r = q
        · subst hEq
          simp [hSame]
        · have hNe : q ≠ r := fun h => hEq h.symm
          simp [hSame, hEq, hNe]

------------------------------------------------------------
-- __socketx
------------------------------------------------------------

/- The memory that an interface gets for its data. -/
def SocketEnv.dataMemory
    (env : SocketEnv) : Interface → Option Ptr
| .wsock => env.wsock.memory
| .csock => env.csock.memory
| .unix => env.unixMemory

/- The callback hangs the memory it gets on the descriptor. -/
theorem interfaceSocket_ok
    {env : SocketEnv}
    {i : Interface}
    {p : Ptr}
    {s s' : Process}
    {ret : Int}
    (hRun : interfaceSocket env i p s = .ok (ret, s')) :
    s'.fds = s.fds ∧ ∃ q t,
      (∀ a, q = some a ↔
        env.dataMemory i = some a ∧ s.heap a = none) ∧
      Attached i p q s t ∧ Still t s' := by
  cases i with
  | wsock =>
      refine ⟨(wsockSocket_local hRun).fds,
        attached_of_malloc rfl (fun q => ?_) hRun⟩
      exact StillCmd.ite (StillCmd.fail _)
        (still_wsockCreate env.wsock q)
  | csock =>
      refine ⟨(csockSocket_local hRun).fds,
        attached_of_malloc rfl (fun q => ?_) hRun⟩
      exact StillCmd.ite (StillCmd.fail _)
        (still_csockCreate env.csock p q)
  | unix =>
      refine ⟨(unixSocket_local hRun).fds,
        attached_of_malloc rfl (fun q => ?_) hRun⟩
      refine StillCmd.ite (StillCmd.fail _) ?_
      exact (StillCmd.modifyUnix _ _).bind
        fun _ => StillCmd.pure _

/-
  What it takes for a `__socketx` to leave a block behind when
  it fails: it comes as far as the callback, and there is
  memory for the interface's data.
-/
def SocketLeaks
    (env : SocketEnv)
    (domain type protocol : Int)
    (interface : Option Interface)
    (s : Process) : Prop :=
  s.inited = true ∧ ∃ fd slot p i q,
    Reserved env.number env.memory s fd slot p ∧
    chosenInterface s domain type protocol interface =
      some i ∧
    env.dataMemory i = some q ∧ q ≠ p ∧ s.heap q = none

/- A descriptor that can be reserved goes to the interface. -/
theorem socketx_reserved
    {env : SocketEnv}
    {domain type protocol : Int}
    {interface : Option Interface}
    {s : Process}
    {fd : Fd}
    {slot : Nat}
    {p : Ptr}
    (hFds : FdsOk s.fds)
    (hInited : s.inited = true)
    (hReserved : Reserved env.number env.memory s fd slot p) :
    socketx env domain type protocol interface s =
      socketOn env
        (chosenInterface s domain type protocol interface)
        fd slot p
        (s.withSocket slot p (reservedSocket s fd domain
          type protocol interface)) := by
  unfold socketx
  rw [run_bind_ok (run_get s), if_neg (by simp [hInited])]
  dsimp only
  rw [run_bind_ok (hReserved.allocFd_run hFds),
    if_neg (Int.not_lt.mpr hReserved.low), hReserved.slot]
  exact hReserved.reserve_run rfl

/- What the clean-up leaves of a reserved descriptor. -/
theorem socketOn_restored_iff
    {env : SocketEnv}
    {chosen : Option Interface}
    {fd : Fd}
    {slot : Nat}
    {p : Ptr}
    {d : LsckSocket}
    {s s' : Process}
    (hFds : FdsOk s.fds)
    (hFd : d.fd = fd)
    (hReserved : Reserved env.number env.memory s fd slot p)
    (hRun : socketOn env chosen fd slot p
      (s.withSocket slot p d) = .ok (-1, s')) :
    Restored s s' ↔ ¬ ∃ i q, chosen = some i ∧
      env.dataMemory i = some q ∧ q ≠ p ∧
      s.heap q = none := by
  cases chosen with
  | none =>
      rcases bind_eq_ok.mp hRun with ⟨_, t, hCleanup, hFail⟩
      cases hFail
      rw [socketCleanup_ok hCleanup,
        hReserved.withSocket_undone hFds hFd]
      refine iff_of_true (Restored.setErrno s _) ?_
      rintro ⟨i, q, hNone, -⟩
      cases hNone
  | some i =>
      rcases bind_eq_ok.mp hRun with ⟨ret, w, hCall, hTail⟩
      rcases interfaceSocket_ok hCall with
        ⟨hSameFds, q, v, hGot, hAttached, hStill⟩
      have hRet : ret = -1 := by
        by_contra hNe
        rw [if_neg hNe] at hTail
        cases hTail
        exact absurd hReserved.low (by decide)
      rw [if_pos hRet, run_bind_ok (run_get w)] at hTail
      rcases bind_eq_ok.mp hTail with ⟨_, t, hCleanup, hFail⟩
      cases hFail
      subst hFd
      rcases hReserved.undone hFds with ⟨hTable, hEntries⟩
      have hAfter : ∀ r, (t.heap r).isSome =
          (!(r == p) && ((s.heap r).isSome ||
            q == some r)) := by
        intro r
        rw [socketCleanup_ok hCleanup]
        by_cases hSame : r = p
        · simp [hSame]
        · have hLive := hAttached.isSome hStill r
          rw [Reserved.heap_withSocket,
            Function.update_of_ne hSame] at hLive
          simp [hSame, hLive]
      constructor
      · rintro hRestored ⟨j, a, hJ, hMemory, hNe, hFree⟩
        cases hJ
        have hQ : q = some a := (hGot a).mpr ⟨hMemory, by
          rw [Reserved.heap_withSocket,
            Function.update_of_ne hNe]
          exact hFree⟩
        have hLive := (hRestored.live a).symm.trans
          (hAfter a)
        simp [hFree, hNe, hQ] at hLive
      · intro hNot
        have hQ : q = none := by
          cases hQ : q with
          | none => rfl
          | some a =>
              rcases (hGot a).mp hQ with ⟨hMemory, hFree⟩
              have hNe : a ≠ p := by
                rintro rfl
                rw [Reserved.socket_withSocket] at hFree
                cases hFree
              rw [Reserved.heap_withSocket,
                Function.update_of_ne hNe] at hFree
              exact absurd ⟨i, a, rfl, hMemory, hNe, hFree⟩
                hNot
        have hClean := socketCleanup_ok hCleanup
        refine ⟨?_, ?_, fun r => ?_⟩
        · rw [← hTable, ← hAttached.tables.1, ← hStill.table]
          rw [hClean]
          rfl
        · rw [← hEntries, ← hSameFds]
          rw [hClean]
          rfl
        · refine (hAfter r).trans ?_
          by_cases hSame : r = p
          · simp [hSame, hReserved.heap]
          · simp [hSame, hQ]

/-
  A `__socketx` that fails leaves everything as it was exactly
  when no interface data was there to be freed.
-/
theorem socketx_restored_iff
    {env : SocketEnv}
    {domain type protocol : Int}
    {interface : Option Interface}
    {s s' : Process}
    (hFds : FdsOk s.fds)
    (hRun : socketx env domain type protocol interface s =
      .ok (-1, s')) :
    Restored s s' ↔
      ¬ SocketLeaks env domain type protocol interface s := by
  have hFd : ∀ fd, (reservedSocket s fd domain type protocol
      interface).fd = fd := fun _ => rfl
  constructor
  · rintro hRestored ⟨hInited, fd, slot, p, i, q, hReserved,
      hLeft⟩
    rw [socketx_reserved hFds hInited hReserved] at hRun
    exact (socketOn_restored_iff hFds (hFd fd) hReserved
      hRun).mp hRestored ⟨i, q, hLeft⟩
  · intro hNot
    rcases socketx_ok hFds hRun with ⟨-, e, rfl⟩ |
      ⟨hInited, fd, slot, p, hReserved, hOn⟩
    · exact Restored.setErrno s e
    · refine (socketOn_restored_iff hFds (hFd fd) hReserved
        hOn).mpr ?_
      rintro ⟨i, q, hLeft⟩
      exact hNot ⟨hInited, fd, slot, p, i, q, hReserved,
        hLeft⟩

------------------------------------------------------------
-- accept
------------------------------------------------------------

/- What is left of a descriptor that is erased again. -/
theorem restored_of_erased
    {i : Interface}
    {number : Option Fd}
    {memory : Option Ptr}
    {s v w s' : Process}
    {slot : Nat}
    {np : Ptr}
    {q : Option Ptr}
    {nd nd' : LsckSocket}
    (hFds : FdsOk s.fds)
    (hReserved : Reserved number memory s nd.fd slot np)
    (hAttached : Attached i np q (s.withSocket slot np nd) v)
    (hStill : Still v w)
    (hStatus : nd'.status = { nd with idata := q }.status)
    (hErased : Erased np nd' slot w s') :
    (w.fds = (s.withSocket slot np nd).fds →
        Restored s s') ∧
      ∀ r b, s.heap r = some b → s'.heap r = w.heap r := by
  rcases LsckSocket.same_of_status hStatus with
    ⟨hFd, -, hData⟩
  have hFree : ∀ r, q = some r → r ≠ np ∧ s.heap r = none := by
    rintro r rfl
    have hNone := hAttached.data.1
    have hNe : r ≠ np := by
      rintro rfl
      rw [Reserved.socket_withSocket] at hNone
      cases hNone
    rw [Reserved.heap_withSocket,
      Function.update_of_ne hNe] at hNone
    exact ⟨hNe, hNone⟩
  have hOther : ∀ r, r ≠ np → q ≠ some r →
      s'.heap r = w.heap r := by
    intro r hNe hNeQ
    rcases hErased.heap r hNe with hSame | ⟨hQ, -⟩
    · exact hSame
    · exact absurd (hData.symm.trans hQ) hNeQ
  constructor
  · intro hSameFds
    rcases hReserved.undone hFds with ⟨hTable, hEntries⟩
    refine ⟨?_, ?_, fun r => ?_⟩
    · rw [hErased.table, hStill.table, hAttached.tables.1,
        hTable]
    · rw [hErased.fds, hFd, hSameFds]
      exact hEntries
    · by_cases hSame : r = np
      · rw [hSame, hErased.gone, hReserved.heap]
      · by_cases hQ : q = some r
        · rw [hErased.data r (hData.trans hQ),
            (hFree r hQ).2]
        · have hLive := hAttached.isSome hStill r
          rw [Reserved.heap_withSocket,
            Function.update_of_ne hSame] at hLive
          rw [hOther r hSame hQ, hLive]
          simp [hQ]
  · intro r b hBlock
    refine hOther r ?_ ?_
    · rintro rfl
      rw [hReserved.heap] at hBlock
      cases hBlock
    · intro hQ
      rw [(hFree r hQ).2] at hBlock
      cases hBlock

/- When a search leaves the listener as it was. -/
theorem csockListener_eq_iff
    {env : CsockAcceptEnv}
    {d : LsckSocket} :
    csockListener env d = d ↔
      ¬ (d.blocking = true ∧ env.flipAnswer = 0 ∧
        env.flipBackAnswer ≠ 0) := by
  unfold csockListener
  by_cases hMode : d.blocking = true
  · have hSet : { d with blocking := (0 : Int) != 1 } = d := by
      rw [show ((0 : Int) != 1) = d.blocking from hMode.symm]
    rw [if_pos hMode]
    unfold csockSwitched
    by_cases hBack : env.flipBackAnswer = 0
    · rw [if_pos hBack]
      refine iff_of_true ?_ fun h => h.2.2 hBack
      by_cases hFlip : env.flipAnswer = 0
      · rw [if_pos hFlip]
        exact hSet
      · rw [if_neg hFlip]
        exact hSet
    · rw [if_neg hBack]
      by_cases hFlip : env.flipAnswer = 0
      · rw [if_pos hFlip]
        refine iff_of_false ?_ fun h => h ⟨hMode, hFlip, hBack⟩
        intro hSame
        have hOff := congrArg LsckSocket.blocking hSame
        rw [hMode] at hOff
        cases hOff
      · rw [if_neg hFlip]
        exact iff_of_true rfl fun h => hFlip h.2.1
  · rw [if_neg hMode]
    exact iff_of_true rfl fun h => hMode h.1

/-
  What a callback does that nobody undoes: the mailslot of a
  connection is open, or a blocking listener of SOCK.VXD is
  not switched back.
-/
def InterfaceSpoils
    (env : AcceptEnv)
    (d : LsckSocket)
    (s : Process) : Prop :=
  match d.interface with
  | some .unix => OpensSlot env.unixEnv d s
  | some .csock =>
      d.blocking = true ∧ env.csock.flipAnswer = 0 ∧
        env.csock.flipBackAnswer ≠ 0
  | _ => False

/-
  What a failed accept leaves of the state before: the blocks
  that were live are as the callback has left them, and all
  of it is back if the callback has opened nothing.
-/
theorem acceptFailed_back
    {env : AcceptEnv}
    {i : Interface}
    {p np : Ptr}
    {nfd : Fd}
    {slot : Nat}
    {d : LsckSocket}
    {s s' : Process}
    (hForm : WellFormed none s)
    (hListener : s.heap p = some (.socket d))
    (hReserved : Reserved env.number env.memory s nfd slot np)
    (hRun : acceptOn env i p np nfd slot
      (s.withSocket slot np (acceptedCopy d nfd)) =
        .ok (-1, s')) :
    ∃ ret w,
      interfaceAccept env i p np
        (s.withSocket slot np (acceptedCopy d nfd)) =
          .ok (ret, w) ∧
      (w.fds = (s.withSocket slot np
        (acceptedCopy d nfd)).fds → Restored s s') ∧
      ∀ r b, s.heap r = some b →
        s'.heap r = w.heap r ∧
          (s.withSocket slot np
            (acceptedCopy d nfd)).heap r = some b ∧
          ¬ NewBlocks np (s.withSocket slot np
            (acceptedCopy d nfd)) r := by
  rcases acceptFailed_ok hForm hListener hReserved hRun with
    ⟨ret, q, v, w, nd', hCall, hAttached, hStill, hStatus,
      hErased⟩
  have hReserved' : Reserved env.number env.memory s
      (acceptedCopy d nfd).fd slot np := hReserved
  rcases restored_of_erased hForm.fds hReserved' hAttached
    hStill hStatus hErased with ⟨hRestored, hSame⟩
  refine ⟨ret, w, hCall, hRestored, fun r b hBlock => ?_⟩
  have hNe : r ≠ np := by
    rintro rfl
    rw [hReserved.heap] at hBlock
    cases hBlock
  have hThere : (s.withSocket slot np
      (acceptedCopy d nfd)).heap r = some b := by
    rw [Reserved.heap_withSocket, Function.update_of_ne hNe]
    exact hBlock
  refine ⟨hSame r b hBlock, hThere, ?_⟩
  rintro (hNew | hFree)
  · exact hNe hNew
  · rw [hFree] at hThere
    cases hThere

theorem acceptOn_restored_iff
    {env : AcceptEnv}
    {i : Interface}
    {p np : Ptr}
    {nfd : Fd}
    {slot : Nat}
    {d : LsckSocket}
    {s s' : Process}
    (hForm : WellFormed none s)
    (hListener : s.heap p = some (.socket d))
    (hInterface : d.interface = some i)
    (hReserved : Reserved env.number env.memory s nfd slot np)
    (hRun : acceptOn env i p np nfd slot
      (s.withSocket slot np (acceptedCopy d nfd)) =
        .ok (-1, s')) :
    (Restored s s' ∧ ListenerKept p d s s') ↔
      ¬ InterfaceSpoils env d
        (s.withSocket slot np (acceptedCopy d nfd)) := by
  rcases acceptFailed_back hForm hListener hReserved hRun with
    ⟨ret, w, hCall, hRestored, hOld⟩
  rcases hForm.data p d hListener (by simp) with
    ⟨j, l, b, hJ, hData, hBlock, hKind⟩
  cases hInterface.symm.trans hJ
  rcases hOld p _ hListener with ⟨hSameP, hThere, hOldP⟩
  rcases hOld l _ hBlock with ⟨hSameL, hDataThere, hOldL⟩
  have hNew := Reserved.socket_withSocket s slot np
    (acceptedCopy d nfd)
  have hKept : w.heap p = some (.socket d) →
      w.heap l = some b → ListenerKept p d s s' := by
    intro hP hL
    refine ⟨hSameP.trans hP, fun l' hL' => ?_⟩
    cases hData.symm.trans hL'
    rw [hSameL, hL, hBlock]
  have hLocal : Local (NewBlocks np
      (s.withSocket slot np (acceptedCopy d nfd)))
      (s.withSocket slot np (acceptedCopy d nfd)) w →
      Restored s s' ∧ ListenerKept p d s s' := by
    intro hLocal
    exact ⟨hRestored hLocal.fds, hKept
      ((hLocal.heap p hOldP).trans hThere)
      ((hLocal.heap l hOldL).trans hDataThere)⟩
  unfold InterfaceSpoils
  rw [hInterface]
  cases i with
  | wsock =>
      exact iff_of_true (hLocal (wsockAccept_local hCall))
        not_false
  | csock =>
      rcases csockAccept_ok hThere (by simp [hData])
        (fun hNp => hOldP (.inl hNp)) hNew
        (by decide : sockaddrInSize ≤ sockaddrMaxSize) hCall
        with ⟨hBeside, hAfter⟩
      rw [← csockListener_eq_iff]
      have hNeL : l ≠ p := by
        rintro rfl
        rw [hBlock] at hListener
        cases hListener
        cases hKind
      have hDataAfter : w.heap l = some b :=
        (hBeside.heap l (by
          rintro (hNewL | hSameL)
          · exact hOldL hNewL
          · exact hNeL hSameL)).trans hDataThere
      constructor
      · rintro ⟨-, hKeptP⟩
        have hSocket := hSameP.symm.trans hKeptP.socket
        rw [hAfter] at hSocket
        exact Block.socket.inj (Option.some.inj hSocket)
      · intro hMode
        rw [hMode] at hAfter
        exact ⟨hRestored hBeside.fds, hKept hAfter hDataAfter⟩
  | unix =>
      cases b with
      | unix usock =>
          constructor
          · rintro ⟨hBack, -⟩
            exact (acceptOn_clean_iff hForm hListener hData
              hBlock hReserved hRun).mp
                (Process.mailslots_of_fds hBack.fds)
          · intro hShut
            rcases unixAccept_ok hThere hData hDataThere hNew
              (Nat.le_refl _) hCall with
              ⟨-, hBeside⟩ | ⟨hOpens, -⟩
            · exact hLocal hBeside
            · exact absurd ((unixAcceptOpens_iff hData
                hDataThere).mp hOpens) hShut
      | socket lsd => cases hKind
      | csock data => cases hKind
      | wsock data => cases hKind

/-
  What it takes for an `accept` that fails to leave something
  behind: entering it completes a connect of the listener, or
  it comes as far as a callback that nobody undoes.
-/
def AcceptSpoils
    (env : AcceptEnv)
    (addr addrlen : Bool)
    (d : LsckSocket)
    (s : Process) : Prop :=
  d.listening = true ∧ d.checked env.writable ≠ d ∨
    acceptRefusal d addr addrlen = none ∧
      ∃ nfd slot np,
        Reserved env.number env.memory s nfd slot np ∧
        InterfaceSpoils env d
          (s.withSocket slot np (acceptedCopy d nfd))

/- A failed accept on a number that is no socket. -/
theorem accept_restored_of_none
    {env : AcceptEnv}
    {fd : Fd}
    {addr addrlen : Bool}
    {s s' : Process}
    {r : Int}
    (hForm : WellFormed none s)
    (hNone : ∀ p, ¬ s.LeadsTo fd p)
    (hRun : accept env fd addr addrlen s = .ok (r, s')) :
    Restored s s' := by
  have hFree : fdIsSocket s fd = false := by
    by_contra hNot
    have hHandler :
        (s.fds fd).function = some .lsckSocketFsext := by
      simpa [fdIsSocket] using hNot
    rcases hForm.target hHandler with ⟨p, -, hData, -⟩
    exact hNone p ⟨hHandler, hData⟩
  rcases enter_unused hFree env.writable with ⟨e, hEnter⟩
  unfold accept at hRun
  rw [run_bind_ok hEnter] at hRun
  cases hRun
  exact Restored.setErrno s e

/-
  Where the check has completed a connect, the listener is
  not what it was.
-/
theorem accept_checked_ne
    {env : AcceptEnv}
    {fd : Fd}
    {addr addrlen : Bool}
    {p : Ptr}
    {d : LsckSocket}
    {s s' : Process}
    (hForm : WellFormed none s)
    (hLeads : s.LeadsTo fd p)
    (hSocket : s.heap p = some (.socket d))
    (hCheck : d.checked env.writable ≠ d)
    (hRun : accept env fd addr addrlen s = .ok (-1, s')) :
    s'.heap p ≠ some (.socket d) := by
  intro hSame
  have hRest := accept_leads hForm.fds hLeads hSocket hRun
  have hThere := s.socket_check p d env.writable
  rcases hRest with ⟨-, e, rfl⟩ |
    ⟨-, i, nfd, slot, np, -, hReserved, hOn⟩
  · exact hCheck (Block.socket.inj
      (Option.some.inj (hThere.symm.trans hSame)))
  have hFormC := (drift_check hSocket env.writable).form hForm
  rcases acceptFailed_ok hFormC hThere hReserved hOn with
    ⟨ret, q, v, w, nd', -, hAttached, hStill, hStatus,
      hErased⟩
  rcases reserved_listener hThere hReserved with
    ⟨hNe, hListener⟩
  rcases hStill.socket (hAttached.other hNe hListener) with
    ⟨c, hC, hStatusC⟩
  have hReserved' : Reserved env.number env.memory
      (s.check p d env.writable)
      (acceptedCopy (d.checked env.writable) nfd).fd slot np :=
    hReserved
  have hAfter := (restored_of_erased hFormC.fds hReserved'
    hAttached hStill hStatus hErased).2 p _ hThere
  rw [hSame, hC] at hAfter
  cases hAfter
  have hPhase := congrArg LsckSocket.connecting hStatusC
  rcases d.checked_cases env.writable with hPlain |
    ⟨hBefore, -, hMoved⟩
  · exact hCheck hPlain
  · rw [hMoved] at hPhase
    have hOff : d.connecting = false := hPhase
    rw [hBefore] at hOff
    cases hOff

theorem accept_restored_iff
    {env : AcceptEnv}
    {fd : Fd}
    {addr addrlen : Bool}
    {p : Ptr}
    {d : LsckSocket}
    {s s' : Process}
    (hForm : WellFormed none s)
    (hLeads : s.LeadsTo fd p)
    (hSocket : s.heap p = some (.socket d))
    (hRun : accept env fd addr addrlen s = .ok (-1, s')) :
    (Restored s s' ∧
        (d.listening = true → ListenerKept p d s s')) ↔
      ¬ AcceptSpoils env addr addrlen d s := by
  by_cases hListening : d.listening = true
  · by_cases hCheck : d.checked env.writable ≠ d
    · apply iff_of_false
      · rintro ⟨-, hKept⟩
        exact accept_checked_ne hForm hLeads hSocket hCheck
          hRun (hKept hListening).socket
      · intro hNot
        exact hNot (.inl ⟨hListening, hCheck⟩)
    have hPlain : d.checked env.writable = d :=
      not_not.mp hCheck
    have hStays : s.check p d env.writable = s := by
      unfold Process.check Process.setBlock
      rw [hPlain, ← hSocket, Function.update_eq_self]
    constructor
    · rintro ⟨hRestored, hKept⟩ (⟨-, hMoved⟩ |
        ⟨hPass, nfd, slot, np, hReserved, hSpoils⟩)
      · exact hCheck hMoved
      rcases hForm.data p d hSocket (by simp) with
        ⟨i, -, -, hInterface, -⟩
      rw [accept_reserved hForm.fds hLeads hSocket hInterface
          (by rw [hPlain]; exact hPass)
          (by rw [hStays]; exact hReserved), hPlain, hStays]
        at hRun
      exact (acceptOn_restored_iff hForm hSocket hInterface
        hReserved hRun).mp ⟨hRestored, hKept hListening⟩
          hSpoils
    · intro hNot
      have hRest := accept_leads hForm.fds hLeads hSocket hRun
      rw [hStays, hPlain] at hRest
      rcases hRest with ⟨-, e, rfl⟩ |
        ⟨hPass, i, nfd, slot, np, hInterface, hReserved, hOn⟩
      · exact ⟨Restored.setErrno s e,
          fun _ => ⟨hSocket, fun _ _ => rfl⟩⟩
      · have hBoth := (acceptOn_restored_iff hForm hSocket
          hInterface hReserved hOn).mpr fun hSpoils =>
            hNot (.inr ⟨hPass, nfd, slot, np, hReserved,
              hSpoils⟩)
        exact ⟨hBoth.1, fun _ => hBoth.2⟩
  · apply iff_of_true
    · refine ⟨?_, fun h => absurd h hListening⟩
      have hRest := accept_leads hForm.fds hLeads hSocket hRun
      rcases hRest with ⟨-, e, rfl⟩ | ⟨hPass, -⟩
      · refine ⟨rfl, rfl, fun r => ?_⟩
        by_cases hSame : r = p
        · rw [hSame, hSocket]
          simp [Process.check]
        · simp [Process.check, hSame]
      · have hOn := (acceptRefusal_none hPass).2.2.2
        rcases d.checked_cases env.writable with hPlain |
          ⟨-, -, hMoved⟩
        · rw [hPlain] at hOn
          exact absurd hOn hListening
        · rw [hMoved] at hOn
          exact absurd hOn hListening
    · rintro (⟨hOn, -⟩ | ⟨hPass, -⟩)
      · exact hListening hOn
      · exact hListening (acceptRefusal_none hPass).2.2.2

/-
  A call that fails to create a socket leaves slots,
  descriptors, live blocks and the listener as they were
  exactly when it has not come as far as an interface that
  leaves something behind.
-/
theorem failures_restore_iff
    {s : Process}
    (hReach : lsckSystem.Reachable s) :
    (∀ (env : SocketEnv) (domain type protocol : Int)
        (interface : Option Interface) (s' : Process),
      socketx env domain type protocol interface s =
          .ok (-1, s') →
        (Restored s s' ↔ ¬ SocketLeaks env domain type
          protocol interface s)) ∧
      ∀ (env : AcceptEnv) (fd : Fd) (addr addrlen : Bool)
          (s' : Process),
        accept env fd addr addrlen s = .ok (-1, s') →
          ((Restored s s' ∧ ∀ p d, s.LeadsTo fd p →
              s.heap p = some (.socket d) →
              d.listening = true → ListenerKept p d s s') ↔
            ∀ p d, s.LeadsTo fd p →
              s.heap p = some (.socket d) →
              ¬ AcceptSpoils env addr addrlen d s) := by
  have hForm := wellFormed_of_reachable hReach
  refine ⟨fun env domain type protocol interface s' hRun =>
    socketx_restored_iff hForm.fds hRun, ?_⟩
  intro env fd addr addrlen s' hRun
  constructor
  · rintro ⟨hRestored, hKept⟩ p d hLeads hSocket
    exact (accept_restored_iff hForm hLeads hSocket hRun).mp
      ⟨hRestored, hKept p d hLeads hSocket⟩
  · intro hNot
    have hEach : ∀ p d, s.LeadsTo fd p →
        s.heap p = some (.socket d) → Restored s s' ∧
          (d.listening = true → ListenerKept p d s s') :=
      fun p d hLeads hSocket => (accept_restored_iff hForm
        hLeads hSocket hRun).mpr (hNot p d hLeads hSocket)
    refine ⟨?_, fun p d hLeads hSocket =>
      (hEach p d hLeads hSocket).2⟩
    by_cases hNone : ∀ p, ¬ s.LeadsTo fd p
    · exact accept_restored_of_none hForm hNone hRun
    · rcases not_forall_not.mp hNone with ⟨p, hLeads⟩
      rcases hForm.target hLeads.1 with
        ⟨p', d, hData, hSocket, -⟩
      cases hLeads.2.symm.trans hData
      exact (hEach p d hLeads hSocket).1

theorem starved_restored :
    ∃ s', accept .starved 3 true true serverProcess =
        .ok (-1, s') ∧
      Restored serverProcess s' ∧
      ListenerKept 10 listenerSocket serverProcess s' := by
  have hRun : ∃ s', accept .starved 3 true true
      serverProcess = .ok (-1, s') :=
    exists_run_of_answer (by decide +kernel)
  rcases hRun with ⟨s', hRun⟩
  have hLeads : serverProcess.LeadsTo 3 10 :=
    ⟨by decide +kernel, by decide +kernel⟩
  have hSocket := server_hasUnix.1
  have hUnix : listenerSocket.interface = some .unix := by
    decide +kernel
  have hOn : listenerSocket.listening = true := by
    decide +kernel
  have hBoth := ((failures_restore_iff server_reachable).2
    .starved 3 true true s' hRun).mpr (by
      rintro p d hLeads' hSocket' (⟨-, hMoved⟩ |
        ⟨-, nfd, slot, np, hReserved, -⟩)
      · cases hLeads.2.symm.trans hLeads'.2
        have hSame : listenerSocket = d := Block.socket.inj
          (Option.some.inj (hSocket.symm.trans hSocket'))
        rw [← hSame] at hMoved
        exact hMoved (LsckSocket.checked_unix hUnix _)
      · cases hReserved.number)
  exact ⟨s', hRun, hBoth.1, hBoth.2 10 _ hLeads hSocket hOn⟩

/- A driver that has no buffers for another socket. -/
def SocketEnv.exhausted : SocketEnv :=
  { SocketEnv.granting 3 10 11 with
    wsock := ⟨some 11, ⟨0, 0⟩, 10055, 1, 1⟩ }

/- The data of the interface stays behind. -/
theorem wsock_data_leaks :
    ¬ ∀ s, lsckSystem.Reachable s →
      (∀ (env : SocketEnv) (domain type protocol : Int)
          (interface : Option Interface) (s' : Process),
        socketx env domain type protocol interface s =
          .ok (-1, s') → Restored s s') ∧
        ∀ (env : AcceptEnv) (fd : Fd) (addr addrlen : Bool)
            (s' : Process),
          accept env fd addr addrlen s = .ok (-1, s') →
            Restored s s' ∧ ∀ p d, s.LeadsTo fd p →
              s.heap p = some (.socket d) →
              d.listening = true →
                ListenerKept p d s s' := by
  intro hAlways
  have hRun : ∃ s', socketx .exhausted afInet sockStream 0
      none bareProcess = .ok (-1, s') :=
    exists_run_of_answer (by decide +kernel)
  rcases hRun with ⟨s', hRun⟩
  have hRestored := (hAlways bareProcess
    (.init booted_bareProcess)).1 _ _ _ _ _ _ hRun
  refine (socketx_restored_iff booted_bareProcess.fds
    hRun).mp hRestored ⟨rfl, 3, 0, 10, .wsock, 11, ?_, ?_, rfl,
      by decide, rfl⟩
  · exact ⟨rfl, by decide, rfl, by decide +kernel, rfl, rfl⟩
  · decide +kernel

end Libsocket
