import Libsocket.Core.Switching

/-
  A call that emulates a mode returns, and leaves the mode
  as it was.

  Main declarations:
    * `finishes_csockServe`, `finishes_csockRecvfrom`,
      `finishes_wsockConnect`
    * `EmulatedCall`
    * `mode_restored`
-/

namespace Libsocket

open Command

------------------------------------------------------------
-- The Calls Return
------------------------------------------------------------

section Finishes

variable {s : Process} {α : Type}

/- A still command that runs from every similar state. -/
theorem finishes_of_runs
    {m : Exec α}
    {R : α → Prop}
    (hStill : StillCmd m)
    (hRuns : ∀ t, Still s t → ∃ a t', m t = .ok (a, t') ∧ R a) :
    Finishes (Still s) m R := by
  intro t hSame
  obtain ⟨a, t', hRun, hResult⟩ := hRuns t hSame
  exact ⟨a, t', hRun, hSame.trans (hStill t a t' hRun),
    hResult⟩

theorem finishes_derefSocket
    {p : Ptr}
    {d : LsckSocket}
    (hSocket : s.heap p = some (.socket d)) :
    Finishes (Still s) (derefSocket p)
      fun d' => d'.status = d.status := by
  apply finishes_of_runs (StillCmd.derefSocket p)
  intro t hSame
  obtain ⟨d', hNow, hStatus⟩ := hSame.socket hSocket
  exact ⟨d', t, derefSocket_run hNow, hStatus⟩

theorem finishes_modifySocket
    {p : Ptr}
    {d : LsckSocket}
    {f : LsckSocket → LsckSocket}
    (hSocket : s.heap p = some (.socket d))
    (hKeeps : ∀ d, (f d).status = d.status) :
    Finishes (Still s) (modifySocket p f) fun _ => True := by
  apply finishes_of_runs (StillCmd.modifySocket hKeeps)
  intro t hSame
  obtain ⟨d', hNow, -⟩ := hSame.socket hSocket
  exact ⟨_, _, modifySocket_run hNow, trivial⟩

/- Following a pointer to a block of an interface. -/
theorem finishes_deref
    {kind : Block → Option α}
    {q : Ptr}
    {b : Block}
    (hBlock : s.heap q = some b)
    (hKind : ∀ b', b'.kind = b.kind → (kind b').isSome) :
    Finishes (Still s) (deref kind (some q))
      fun _ => True := by
  apply finishes_of_runs (StillCmd.deref kind (some q))
  intro t hSame
  obtain ⟨b', hNow, hSort⟩ := hSame.kind hBlock
  obtain ⟨a, hA⟩ := Option.isSome_iff_exists.mp
    (hKind b' hSort)
  refine ⟨a, t, ?_, trivial⟩
  simp [deref, run_bind, hNow, hA]

theorem csock?_of_kind
    {b : Block}
    (hKind : b.kind = some .csock) :
    (Block.csock? b).isSome := by
  cases b with
  | csock _ => rfl
  | socket _ => cases hKind
  | unix _ => cases hKind
  | wsock _ => cases hKind

theorem wsock?_of_kind
    {b : Block}
    (hKind : b.kind = some .wsock) :
    (Block.wsock? b).isSome := by
  cases b with
  | wsock _ => rfl
  | socket _ => cases hKind
  | unix _ => cases hKind
  | csock _ => cases hKind

theorem finishes_modifyCsock
    {q : Ptr}
    {c : LsckSocketCsock}
    (hData : s.heap q = some (.csock c))
    (f : LsckSocketCsock → LsckSocketCsock) :
    Finishes (Still s) (modifyCsock (some q) f)
      fun _ => True := by
  apply finishes_of_runs (StillCmd.modifyCsock (some q) f)
  intro t hSame
  obtain ⟨b, hNow, hSort⟩ := hSame.kind hData
  obtain ⟨c', hC⟩ := Option.isSome_iff_exists.mp
    (csock?_of_kind hSort)
  refine ⟨(), t.setBlock q (some (.csock (f c'))), ?_, trivial⟩
  simp [modifyCsock, deref, run_bind, hNow, hC]

theorem finishes_fail (e : Errno) :
    Finishes (Still s) (fail e) fun _ => True :=
  finishes_of_runs (StillCmd.fail e)
    fun _ _ => ⟨_, _, rfl, trivial⟩

theorem finishes_failCsock (ret : Int) :
    Finishes (Still s) (failCsock ret) fun _ => True :=
  finishes_of_runs (still_failCsock ret)
    fun _ _ => ⟨_, _, rfl, trivial⟩

theorem finishes_csockIoctl
    {p q : Ptr}
    {d : LsckSocket}
    {c : LsckSocketCsock}
    (hSocket : s.heap p = some (.socket d))
    (hIdata : d.idata = some q)
    (hData : s.heap q = some (.csock c))
    (answer param : Int) :
    Finishes (Still s) (csockIoctl answer p param)
      fun _ => True := by
  unfold csockIoctl
  apply (finishes_derefSocket hSocket).bind
  intro d' hStatus
  have hIdata' := (LsckSocket.same_of_status hStatus).2.2
  rw [hIdata'.trans hIdata]
  apply (finishes_deref hData fun _ => csock?_of_kind).bind
  intro _ _
  apply (finishes_failCsock answer).ite
  refine (finishes_modifySocket hSocket ?_).bind ?_
  · intro _
    rfl
  · intro _ _
    exact Finishes.pure trivial

theorem finishes_setPeername
    {p : Ptr}
    {d : LsckSocket}
    (hSocket : s.heap p = some (.socket d))
    {name : Bytes}
    (hName : name.length ≤ sockaddrMaxSize)
    (namelen : Nat) :
    Finishes (Still s) (setPeername p name namelen)
      fun _ => True := by
  unfold setPeername
  rw [if_pos hName]
  apply finishes_modifySocket hSocket
  intro _
  rfl

theorem length_sockaddrIn (port address : Nat) :
    (sockaddrIn port address).length = 8 := by
  simp [sockaddrIn]

/- The search returns unless it waits for ever. -/
theorem finishes_csockServe
    {env : CsockAcceptEnv}
    {p np q r : Ptr}
    {d nd : LsckSocket}
    {c c' : LsckSocketCsock}
    (hSocket : s.heap p = some (.socket d))
    (hIdata : d.idata = some q)
    (hData : s.heap q = some (.csock c))
    (hNew : s.heap np = some (.socket nd))
    (hNewData : s.heap r = some (.csock c'))
    (hWaits : ¬ (d.blocking ∧
      (csockTake env.scan).2 = -csockErrWouldBlock)) :
    Finishes (Still s) (csockServe env d p np (some r))
      fun _ => True := by
  have hSwitch := @finishes_csockIoctl s p q d c hSocket
    hIdata hData
  have hStore := @finishes_modifyCsock s r c' hNewData
  unfold csockServe
  rw [hIdata]
  refine ((hSwitch _ _).ite (Finishes.pure trivial)).bind ?_
  intro _ _
  apply (hStore _).bind
  intro _ _
  apply (finishes_deref hData fun _ => csock?_of_kind).bind
  intro _ _
  dsimp only
  rw [when, if_neg hWaits]
  refine (Finishes.pure (R := fun _ => True) trivial).bind ?_
  intro _ _
  refine Finishes.bind (R := fun _ => True) ?_ ?_
  · generalize (csockTake env.scan).1 = fd
    cases fd with
    | none => exact Finishes.pure trivial
    | some i => exact hStore _
  · intro _ _
    refine ((hSwitch _ _).ite (Finishes.pure trivial)).bind ?_
    intro _ _
    apply (finishes_failCsock _).ite
    apply (finishes_setPeername hNew ?_ _).bind
    · intro _ _
      exact Finishes.pure trivial
    · rw [length_sockaddrIn]
      decide

theorem finishes_failReceive (e : Errno) :
    Finishes (Still s) (failReceive e) fun _ => True := by
  unfold failReceive
  apply (finishes_fail e).bind
  intro _ _
  exact Finishes.pure trivial

theorem finishes_csockRecvfrom
    {p q : Ptr}
    {d : LsckSocket}
    {c : LsckSocketCsock}
    (hSocket : s.heap p = some (.socket d))
    (hIdata : d.idata = some q)
    (hData : s.heap q = some (.csock c))
    (env : CsockRecvEnv)
    (flags : Nat)
    (source : Bool)
    (fromlen : Option Nat) :
    Finishes (Still s)
      (csockRecvfrom env p flags source fromlen)
      fun _ => True := by
  have hSwitch : ∀ answer param, Finishes (Still s)
      (when (env.version < 1) (do
        let _ ← csockIoctl answer p param))
      fun _ => True := by
    intro answer param
    apply Finishes.when
    apply (finishes_csockIoctl hSocket hIdata hData _ _).bind
    intro _ _
    exact Finishes.pure trivial
  unfold csockRecvfrom
  apply (finishes_derefSocket hSocket).bind
  intro d' hStatus
  have hIdata' := (LsckSocket.same_of_status hStatus).2.2
  rw [hIdata'.trans hIdata]
  apply (finishes_deref hData fun _ => csock?_of_kind).bind
  intro _ _
  apply (finishes_failReceive _).ite
  apply (finishes_failReceive _).ite
  apply (hSwitch _ _).bind
  intro _ _
  apply (hSwitch _ _).bind
  intro _ _
  unfold csockReceived
  apply Finishes.ite
  · apply (finishes_failCsock _).bind
    intro _ _
    exact Finishes.pure trivial
  · exact Finishes.pure trivial

theorem finishes_callVxd (code : UInt16) :
    Finishes (Still s) (callVxd code) fun _ => True :=
  finishes_of_runs (still_callVxd code)
    fun t _ => ⟨_, _, callVxd_run code t, trivial⟩

theorem finishes_wsockIoctl
    {p q : Ptr}
    {d : LsckSocket}
    {w : LsckSocketWsock}
    (hSocket : s.heap p = some (.socket d))
    (hIdata : d.idata = some q)
    (hData : s.heap q = some (.wsock w))
    (env : WsockIoctlEnv)
    (param : Int) :
    Finishes (Still s) (wsockIoctl env p param)
      fun _ => True := by
  unfold wsockIoctl
  apply (finishes_derefSocket hSocket).bind
  intro d' hStatus
  have hIdata' := (LsckSocket.same_of_status hStatus).2.2
  rw [hIdata'.trans hIdata]
  apply (finishes_deref hData fun _ => wsock?_of_kind).bind
  intro _ _
  apply (finishes_callVxd _).bind
  intro _ _
  apply (Finishes.pure trivial).ite
  refine (finishes_modifySocket hSocket ?_).bind ?_
  · intro _
    rfl
  · intro _ _
    exact Finishes.pure trivial

theorem finishes_wsockConnect
    {p q : Ptr}
    {d : LsckSocket}
    {w : LsckSocketWsock}
    (hSocket : s.heap p = some (.socket d))
    (hIdata : d.idata = some q)
    (hData : s.heap q = some (.wsock w))
    (env : WsockConnectEnv) :
    Finishes (Still s) (wsockConnect env p)
      fun _ => True := by
  have hSwitch := @finishes_wsockIoctl s p q d w hSocket
    hIdata hData
  have hWait : Finishes (Still s)
      (wsockSelectWait env.waitCode) fun _ => True := by
    unfold wsockSelectWait
    apply (finishes_callVxd _).bind
    intro _ _
    exact (Finishes.pure trivial).ite (Finishes.pure trivial)
  unfold wsockConnect
  apply (finishes_derefSocket hSocket).bind
  intro d' hStatus
  have hIdata' := (LsckSocket.same_of_status hStatus).2.2
  rw [hIdata'.trans hIdata]
  apply (finishes_deref hData fun _ => wsock?_of_kind).bind
  intro _ _
  apply Finishes.ite
  · apply (hSwitch _ _).bind
    intro flag _
    apply (finishes_callVxd _).bind
    intro _ _
    refine Finishes.bind (R := fun _ => True) ?_ ?_
    · exact finishes_of_runs StillCmd.get
        fun t _ => ⟨t, t, rfl, trivial⟩
    · intro now _
      apply Finishes.ite
      · apply (hSwitch _ _).bind
        intro _ _
        exact Finishes.pure trivial
      · apply hWait.bind
        intro _ _
        apply (hSwitch _ _).bind
        intro _ _
        exact Finishes.pure trivial
  · apply (finishes_callVxd _).bind
    intro _ _
    exact (Finishes.pure trivial).ite (Finishes.pure trivial)

end Finishes

/- Granted memory for the new socket, the call returns. -/
theorem csockAccept_runs
    {env : CsockAcceptEnv}
    {s : Process}
    {p np q r : Ptr}
    {d nd : LsckSocket}
    {c : LsckSocketCsock}
    (hSocket : s.heap p = some (.socket d))
    (hIdata : d.idata = some q)
    (hData : s.heap q = some (.csock c))
    (hNe : np ≠ p)
    (hNew : s.heap np = some (.socket nd))
    (hMemory : env.memory = some r)
    (hFree : s.heap r = none)
    (hWaits : ¬ (d.blocking ∧
      (csockTake env.scan).2 = -csockErrWouldBlock)) :
    ∃ a t, csockAccept env p np s = .ok (a, t) := by
  unfold csockAccept
  rw [run_bind_ok (derefSocket_run hSocket),
    run_bind_ok (derefSocket_run hNew)]
  by_cases hRoom : nd.peernamelen < sockaddrInSize
  · rw [if_pos hRoom]
    exact ⟨_, _, rfl⟩
  · have hApart : ∀ {x b}, s.heap x = some b → x ≠ r := by
      intro x b hX hSame
      rw [hSame, hFree] at hX
      cases hX
    have hQ : q ≠ np := by
      intro hSame
      rw [hSame, hNew] at hData
      cases hData
    have hMalloc : malloc env.memory (.csock env.content) s =
        .ok (some r,
          s.setBlock r (some (.csock env.content))) := by
      unfold malloc
      rw [run_bind_ok (run_get s), hMemory]
      simp only [hFree, Option.isSome_none]
      rfl
    have hThere : (s.setBlock r (some (.csock env.content))).heap
        np = some (.socket nd) := by
      rw [Process.heap_setBlock,
        Function.update_of_ne (hApart hNew), hNew]
    rw [if_neg hRoom, run_bind_ok hMalloc,
      run_bind_ok (modifySocket_run hThere),
      if_neg (by simp [hIdata])]
    generalize hU : (s.setBlock r
      (some (.csock env.content))).setBlock np _ = u
    have hHeap : ∀ x, x ≠ np → x ≠ r →
        u.heap x = s.heap x := by
      intro x hNp hR
      rw [← hU, Process.heap_setBlock, Process.heap_setBlock,
        Function.update_of_ne hNp, Function.update_of_ne hR]
    have hNewNow : u.heap np =
        some (.socket { nd with idata := some r }) := by
      rw [← hU, Process.heap_setBlock, Function.update_self]
    have hNewData : u.heap r = some (.csock env.content) := by
      rw [← hU, Process.heap_setBlock,
        Function.update_of_ne (hApart hNew).symm,
        Process.heap_setBlock, Function.update_self]
    have hServe := finishes_csockServe
      ((hHeap p hNe.symm (hApart hSocket)).trans hSocket)
      hIdata ((hHeap q hQ (hApart hData)).trans hData)
      hNewNow hNewData hWaits
    obtain ⟨a, t, hRun, -⟩ := hServe u (Still.refl u)
    exact ⟨a, t, hRun⟩

------------------------------------------------------------
-- Restored Modes
------------------------------------------------------------

/- A call that emulates a mode. -/
inductive EmulatedCall
  | accept (env : CsockTriesEnv) (np : Ptr)
  | recvfrom
      (env : CsockRecvEnv)
      (flags : Nat)
      (source : Bool)
      (fromlen : Option Nat)
  | connect (env : WsockWaitsEnv)

namespace EmulatedCall

def run (p : Ptr) : EmulatedCall → DriverExec Int
| accept env np => csockAcceptDriven env p np
| recvfrom env flags source fromlen => do
    let received ←
      csockRecvfromDriven env p flags source fromlen
    return received.1
| connect env => wsockConnectDriven env p

/-
  The socket `d` at `p` has the data of the interface, and an
  accept has another descriptor for the new socket.
-/
def Ready
    (call : EmulatedCall)
    (p : Ptr)
    (d : LsckSocket)
    (s : Process) : Prop :=
  s.heap p = some (.socket d) ∧ ∃ q, d.idata = some q ∧
    match call with
    | accept _ np =>
        (∃ c, s.heap q = some (.csock c)) ∧ np ≠ p ∧
          ∃ nd, s.heap np = some (.socket nd)
    | recvfrom _ _ _ _ => ∃ c, s.heap q = some (.csock c)
    | connect _ => ∃ w, s.heap q = some (.wsock w)

/-
  The switches of the mode succeed and leave their parameter
  alone.
-/
def Switches : EmulatedCall → Prop
| accept env _ =>
    env.flipAnswer = 0 ∧ env.flipBackAnswer = 0
| recvfrom env _ _ _ =>
    env.flipAnswer = 0 ∧ env.flipBackAnswer = 0
| connect env =>
    vxdFails env.flip.code = false ∧ env.flip.param = 1 ∧
      vxdFails env.flipBack.code = false ∧
        env.flipBack.param = 0

/- There is memory for the data of a new socket. -/
def HasMemory (s : Process) : EmulatedCall → Prop
| accept env _ => ∃ r, env.memory = some r ∧ s.heap r = none
| recvfrom _ _ _ _ => True
| connect _ => True

end EmulatedCall

theorem leads_emulated
    {call : EmulatedCall}
    {p : Ptr}
    {d : LsckSocket}
    {s : Process}
    (hReady : call.Ready p d s)
    (hSwitches : call.Switches)
    (b : Bool) :
    Leads p b b (call.run p) := by
  obtain ⟨-, q, -, hReady⟩ := hReady
  cases call with
  | accept env np =>
      exact leads_csockAccept hSwitches.1 hSwitches.2
        hReady.2.1 b
  | recvfrom env flags source fromlen =>
      apply Leads.bind (leads_csockRecvfrom hSwitches.1
        hSwitches.2 flags source fromlen b)
      intro received
      exact Leads.pure _
  | connect env =>
      obtain ⟨hFlip, hFlipParam, hBack, hBackParam⟩ :=
        hSwitches
      exact leads_wsockConnect hFlip hFlipParam hBack
        hBackParam b

theorem emulated_runs
    {call : EmulatedCall}
    {p : Ptr}
    {d : LsckSocket}
    {s : Process}
    (hReady : call.Ready p d s)
    (hMemory : call.HasMemory s)
    (g : Bool) :
    ∃ r t, call.run p (s, g) = .ok (r, t) := by
  obtain ⟨hSocket, q, hIdata, hReady⟩ := hReady
  cases call with
  | accept env np =>
      obtain ⟨⟨c, hData⟩, hNe, nd, hNew⟩ := hReady
      obtain ⟨r, hR, hFree⟩ := hMemory
      obtain ⟨a, s', hRun⟩ := @csockAccept_runs
        (env.settle d.blocking) s p np q r d nd c hSocket
        hIdata hData hNe hNew hR hFree
        (csockTake_settled env)
      have hSame := @outcome_csockAccept env p np (s, g) d
        hSocket
      obtain ⟨g', hFull⟩ := exists_of_outcome
        (hSame.trans hRun)
      exact ⟨_, _, hFull⟩
  | recvfrom env flags source fromlen =>
      obtain ⟨c, hData⟩ := hReady
      obtain ⟨a, s', hRun, -⟩ := finishes_csockRecvfrom
        hSocket hIdata hData env flags source fromlen s
        (Still.refl s)
      obtain ⟨g', hFull⟩ := (erases_csockRecvfrom env p flags
        source fromlen).finishes (t := (s, g)) hRun
      exact ⟨_, _, run_bind_ok hFull⟩
  | connect env =>
      obtain ⟨w, hData⟩ := hReady
      obtain ⟨a, s', hRun, -⟩ := finishes_wsockConnect
        hSocket hIdata hData env.settle s (Still.refl s)
      obtain ⟨g', hFull⟩ := (erases_wsockConnect env
        p).finishes (t := (s, g)) hRun
      exact ⟨_, _, hFull⟩

/-
  A call that finds the library and the driver in one mode
  leaves both in it, whatever the driver answers; and it
  returns.
-/
theorem mode_restored
    {call : EmulatedCall}
    {p : Ptr}
    {d : LsckSocket}
    {s : Process}
    (hReady : call.Ready p d s)
    (hSwitches : call.Switches) :
    (∀ r t, call.run p (s, d.blocking) = .ok (r, t) →
      (∃ d', t.1.heap p = some (.socket d') ∧
        d'.blocking = d.blocking) ∧ t.2 = d.blocking) ∧
      (call.HasMemory s →
        ∃ r t, call.run p (s, d.blocking) = .ok (r, t)) := by
  constructor
  · intro r t hRun
    exact leads_emulated hReady hSwitches d.blocking _ _ _
      ⟨⟨d, hReady.1, rfl⟩, rfl⟩ hRun
  · intro hMemory
    exact emulated_runs hReady hMemory d.blocking

/- A listening socket, and one for the next connection. -/
def csockListening : LsckSocket :=
  { LsckSocket.cleared with
    blocking := true
    listening := true
    interface := some .csock
    idata := some 11 }

def csockNext : LsckSocket :=
  { LsckSocket.cleared with
    peernamelen := sockaddrInSize
    blocking := true
    interface := some .csock }

def csockServer : Process :=
  ((bareProcess.setBlock 10 (some (.socket csockListening)))
    |>.setBlock 11 (some (.csock ⟨1⟩)))
    |>.setBlock 12 (some (.socket csockNext))

/- A connection comes when the driver is asked again. -/
def CsockTriesEnv.later : CsockTriesEnv where
  memory := some 13
  content := ⟨0⟩
  flipAnswer := 0
  usage := fun i => i == 1
  tries := fun _ => ⟨2, 0, by decide⟩
  flipBackAnswer := 0
  destPort := 0
  destAddr := 0

theorem later_restores :
    ∃ r t, (EmulatedCall.accept .later 12).run 10
        (csockServer, true) = .ok (r, t) ∧
      (∃ d, t.1.heap 10 = some (.socket d) ∧
        d.blocking = true) ∧ t.2 = true := by
  have hReady : (EmulatedCall.accept .later 12).Ready 10
      csockListening csockServer :=
    ⟨rfl, 11, rfl, ⟨⟨1⟩, rfl⟩, by decide, csockNext, rfl⟩
  obtain ⟨hAll, hRuns⟩ := mode_restored hReady ⟨rfl, rfl⟩
  obtain ⟨r, t, hRun⟩ := hRuns ⟨13, rfl, rfl⟩
  exact ⟨r, t, hRun, hAll r t hRun⟩

end Libsocket
