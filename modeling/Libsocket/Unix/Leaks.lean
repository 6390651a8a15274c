import Libsocket.Unix.ConnectPaths
import Libsocket.Unix.Queue

/-
  The mailslots that a connect leaves open: the control
  mailslot of the server is closed on none of its ways out.

  Main declarations:
    * `Process.mailslots`
    * `OpenEnv.Granted`
    * `ConnectClean`, `connect_clean_iff`
-/

namespace Libsocket

open Command

------------------------------------------------------------
-- Open Mailslots
------------------------------------------------------------

/- The numbers that are open on a mailslot. -/
def Process.mailslots (s : Process) : Set Fd :=
  { fd | ∃ me, s.HasMailslot fd me }

/- Only the table of descriptors matters. -/
theorem Process.mailslots_of_fds
    {s t : Process}
    (hFds : t.fds = s.fds) :
    t.mailslots = s.mailslots := by
  unfold mailslots HasMailslot
  rw [hFds]

/- A number that DOS has not opened is no mailslot. -/
theorem Process.not_mem_mailslots
    {s : Process}
    {fd : Fd}
    (hClosed : (s.fds fd).dosOpen = false) :
    fd ∉ s.mailslots := by
  rintro ⟨me, hMail⟩
  unfold HasMailslot at hMail
  rw [hMail] at hClosed
  cases hClosed

theorem Process.WritesTo.mem_mailslots
    {s : Process}
    {fd : Fd}
    {m : Bytes}
    (hWrites : s.WritesTo fd m) :
    fd ∈ s.mailslots := by
  rcases hWrites with ⟨me, name, hMail, -⟩
  exact ⟨me, hMail⟩

theorem Process.ReadsFrom.mem_mailslots
    {s : Process}
    {fd : Fd}
    {m : Bytes}
    (hReads : s.ReadsFrom fd m) :
    fd ∈ s.mailslots := by
  rcases hReads with ⟨me, hMail, -⟩
  exact ⟨me, hMail⟩

/- A number that is read from is not written to. -/
theorem Process.ReadsFrom.ne_writesTo
    {s : Process}
    {fd n : Fd}
    {m m' : Bytes}
    (hReads : s.ReadsFrom fd m)
    (hWrites : s.WritesTo n m') :
    fd ≠ n := by
  rintro rfl
  rcases hReads with ⟨me, hMail, hHandle⟩
  rcases hWrites with ⟨me', name, hMail', hNone, -⟩
  rw [hMail'.unique hMail, hNone] at hHandle
  cases hHandle

------------------------------------------------------------
-- Opening And Closing
------------------------------------------------------------

/- DOS has the descriptor that an open is to get. -/
def OpenEnv.Granted
    (env : OpenEnv)
    (s : Process) : Prop :=
  ∃ fd, env.number = some fd ∧ 0 ≤ fd ∧
    (s.fds fd).dosOpen = false

theorem OpenEnv.Granted.of_fds
    {env : OpenEnv}
    {s t : Process}
    (hFds : t.fds = s.fds) :
    env.Granted t ↔ env.Granted s := by
  unfold Granted
  rw [hFds]

/- A mailslot opens when there is a descriptor for it. -/
theorem openMailslot_granted
    {env : OpenEnv}
    {me : MailslotFsext}
    {s s' : Process}
    {fd : Fd}
    (hRun : openMailslot env me s = .ok (fd, s')) :
    fd ≠ -1 ↔ env.Granted s := by
  constructor
  · intro hOpen
    rcases bind_eq_ok.mp hRun with ⟨n, t, hAlloc, hTail⟩
    rcases allocFd_ok hAlloc with
      ⟨rfl, rfl⟩ | ⟨hNumber, hLow, hFree, rfl⟩
    · rw [if_pos rfl] at hTail
      cases hTail
      exact absurd rfl hOpen
    · exact ⟨n, hNumber, hLow, hFree⟩
  · rintro ⟨n, hNumber, hLow, hFree⟩
    have hNe : n ≠ -1 := by
      rintro rfl
      exact absurd hLow (by decide)
    rcases bind_eq_ok.mp hRun with ⟨n', t, hAlloc, hTail⟩
    unfold allocFd at hAlloc
    rw [run_bind_ok (run_get s), hNumber] at hAlloc
    simp only [if_pos (And.intro hLow hFree)] at hAlloc
    cases hAlloc
    rw [if_neg hNe] at hTail
    cases hTail
    exact hNe

/- The same for a local path that is opened for writing. -/
theorem openFile_granted
    {env : OpenEnv}
    {x : Bytes}
    {s s' : Process}
    {fd : Fd}
    (hRun : openFile env (unixLocalPath ++ x) .wronly s =
      .ok (fd, s')) :
    fd ≠ -1 ↔ env.Granted s := by
  unfold openFile at hRun
  rw [afterPrefix_local] at hRun
  rcases bind_eq_ok.mp hRun with ⟨name, t, hFits, hMail⟩
  rcases fits_ok hFits with ⟨rfl, -, -⟩
  exact openMailslot_granted hMail

/- Closing a mailslot that was open for reading. -/
theorem closeFd_reader
    {env : CloseEnv}
    {fd : Fd}
    {m : Bytes}
    {s s' : Process}
    {r : Int}
    (hReads : s.ReadsFrom fd m)
    (hRun : closeFd env fd s = .ok (r, s')) :
    s'.fds = Function.update s.fds fd FdEntry.unused ∧
      s'.heap = s.heap := by
  rcases hReads with ⟨me, hMail, hHandle⟩
  unfold Process.HasMailslot at hMail
  cases env with
  | leaf => cases hRun
  | node answer closeR closeW =>
      unfold closeFd at hRun
      rw [run_bind_ok (run_get s), hMail] at hRun
      dsimp only at hRun
      unfold closeMailslot at hRun
      rw [run_bind_ok (run_get s), hMail] at hRun
      dsimp only at hRun
      simp only [hHandle] at hRun
      cases hRun
      refine ⟨?_, rfl⟩
      change Function.update (Function.update
        (Function.update s.fds fd _) fd _) fd _ = _
      simp only [Function.update_idem, Process.fds_setEntry,
        Function.update_self, FdEntry.unused]

/- A number that is open is not the one a new file gets. -/
theorem Opens.ne_of_open
    {s t : Process}
    {fd n : Fd}
    (hOpens : Opens fd s t)
    (hOpen : (s.fds n).dosOpen = true)
    (hSome : n ≠ -1) :
    n ≠ fd := by
  rintro rfl
  rcases hOpens.fds with ⟨hNone, -⟩ | ⟨-, hClosed, -⟩
  · exact hSome hNone
  · rw [hOpen] at hClosed
    cases hClosed

/- Nothing is read from a mailslot open for writing. -/
theorem readFd_writer
    {env : ReadEnv}
    {fd : Fd}
    {m : Bytes}
    {taken : Option (List Bytes)}
    {s s' : Process}
    (hWrites : s.WritesTo fd m)
    (hRun : readFd env fd s = .ok (taken, s')) :
    taken = none := by
  rcases hWrites with ⟨me, name, hMail, hHandle, -⟩
  unfold Process.HasMailslot at hMail
  unfold readFd at hRun
  rw [run_bind_ok (run_get s), hMail] at hRun
  dsimp only at hRun
  rw [hHandle] at hRun
  cases hRun
  rfl

------------------------------------------------------------
-- The Control Mailslot
------------------------------------------------------------

/-
  A socket behind the bind of a connect: when this call has
  bound it, it reads from a mailslot of its own.
-/
structure Process.HeldHere
    (s : Process)
    (p : Ptr)
    (d d' : LsckSocket)
    (usock : LsckSocketUnix) : Prop where
  unix : s.HasUnix p d' usock
  data : d'.idata = d.idata
  reads : d.bound = false → ∃ m, s.ReadsFrom usock.fdR m

section Control

variable {p : Ptr} {d d' : LsckSocket}
variable {usock : LsckSocketUnix} {fd : Fd} {m : Bytes}
variable {s t : Process}

theorem heldHere_of_run
    {env : BindEnv}
    {n : Fin 2147483648}
    {r : Int}
    (hForm : WellFormed none s)
    (hUnix : s.HasUnix p d usock)
    (hInterface : d.interface = some .unix)
    (hRun : bindHere env n d s = .ok (r, t))
    (hSuccess : r ≠ -1) :
    ∃ d' usock', t.HeldHere p d d' usock' := by
  unfold bindHere at hRun
  by_cases hBound : d.bound = true
  · rw [if_pos hBound] at hRun
    cases hRun
    refine ⟨d, usock, hUnix, rfl, fun hNot => ?_⟩
    rw [hBound] at hNot
    cases hNot
  · rw [if_neg hBound] at hRun
    rcases bind_unix_ok hForm (hForm.entry hUnix.socket)
      hUnix.socket hInterface rfl (read?_clientPath n) hRun
      hSuccess with
      ⟨m, usock₀, fdR, b, -, hAfter, -, hReads, -⟩
    exact ⟨d.named b, _, hAfter, rfl, fun _ => ⟨m, hReads⟩⟩

/- Other data of the socket may change. -/
theorem Process.HeldHere.congr
    {usock' : LsckSocketUnix}
    (hHeld : s.HeldHere p d d' usock)
    (hUnix : t.HasUnix p d' usock')
    (hSteady : Steady s t)
    (hFd : usock'.fdR = usock.fdR) :
    t.HeldHere p d d' usock' := by
  constructor
  · exact hUnix
  · exact hHeld.data
  · intro hNew
    rcases hHeld.reads hNew with ⟨m, hReads⟩
    rw [hFd]
    exact ⟨m, hSteady.readsFrom hReads⟩

/- Undoing the bind closes another mailslot. -/
theorem unbindHere_writesTo
    {env : CloseEnv}
    {r : Unit}
    (hHeld : s.HeldHere p d d' usock)
    (hWrites : s.WritesTo fd m)
    (hRun : unbindHere env (!d.bound) p s = .ok (r, t)) :
    t.WritesTo fd m := by
  cases hBound : d.bound with
  | true =>
      rw [hBound] at hRun
      cases hRun
      exact hWrites
  | false =>
      rcases hHeld.reads hBound with ⟨m', hReads⟩
      have hNe := hReads.ne_writesTo hWrites
      rcases hHeld.unix with ⟨hSocket, q, hQ, hData⟩
      rw [hBound] at hRun
      unfold unbindHere when at hRun
      rw [if_pos (by rfl), run_bind_ok
        (modifySocket_run hSocket)] at hRun
      have hAfter : (s.setBlock p (some (.socket
          { d' with bound := false }))).HasUnix p
            { d' with bound := false } usock := by
        refine ⟨?_, q, hQ, ?_⟩
        · rw [Process.heap_setBlock, Function.update_self]
        · rw [Process.heap_setBlock, Function.update_of_ne
            (socket_ne_unix hSocket hData).symm]
          exact hData
      rw [run_bind_ok (derefSocket_run hAfter.socket),
        run_bind_ok (derefUnix_run hAfter)] at hRun
      rcases bind_eq_ok.mp hRun with ⟨x, u, hClose, hPure⟩
      cases hPure
      have hThere : (s.setBlock p (some (.socket
          { d' with bound := false }))).ReadsFrom usock.fdR
            m' := hReads.of_fds rfl
      have hFds := (closeFd_reader hThere hClose).1
      rcases hWrites with ⟨me, name, hMail, hRest⟩
      refine ⟨me, name, ?_, hRest⟩
      unfold Process.HasMailslot
      rw [hFds, Function.update_of_ne hNe.symm]
      exact hMail

/- Whatever the server answers, the mailslot stays open. -/
theorem unixConnectReply_writesTo
    {env : UnixConnectEnv}
    {n : Fd}
    {rep : UnixMsgOpen}
    {r : Int}
    (hHeld : s.HeldHere p d d' usock)
    (hWrites : s.WritesTo fd m)
    (hRun : unixConnectReply env p d.idata (!d.bound) n rep s =
      .ok (r, t)) :
    t.WritesTo fd m := by
  have hUndo : ∀ {u v : Process} {x : Unit} {usock'},
      u.HeldHere p d d' usock' → u.WritesTo fd m →
      unbindHere env.close (!d.bound) p u = .ok (x, v) →
      v.WritesTo fd m := by
    intro u v x usock' hHere hOpen hUnbind
    exact unbindHere_writesTo hHere hOpen hUnbind
  unfold unixConnectReply at hRun
  rw [← hHeld.data, run_bind_ok (derefUnix_run hHeld.unix)]
    at hRun
  split at hRun
  · rcases bind_eq_ok.mp hRun with ⟨x, u, hUnbind, hFail⟩
    cases hFail
    exact (hUndo hHeld hWrites hUnbind).of_fds rfl
  rcases bind_eq_ok.mp hRun with ⟨path, s', hRead, hOpen⟩
  have hSame := (readString_ok hRead).1
  rw [hSame] at hOpen
  rcases bind_eq_ok.mp hOpen with ⟨fdW, u, hFile, hStore⟩
  rcases bind_eq_ok.mp hStore with ⟨_, v, hStored, hLast⟩
  have hSteady : Steady s v :=
    (steady_openFile _ _ _ _ _ _ hFile).trans
      (SteadyCmd.modifyUnix _ _ _ _ _ hStored)
  have hThere := hHeld.unix.of_heap (openFile_ok hFile).heap
  have hUnix := (modifyUnix_hasUnix hThere hStored).1
  have hHeld' := hHeld.congr hUnix hSteady rfl
  have hWrites' := hSteady.writesTo hWrites
  split at hLast
  · rcases bind_eq_ok.mp hLast with ⟨x, w, hUnbind, hPure⟩
    cases hPure
    exact hUndo hHeld' hWrites' hUnbind
  cases hPeer : afterPrefix unixLocalPath path with
  | none =>
      rw [hPeer] at hLast
      rcases bind_eq_ok.mp hLast with ⟨x, w, hUnbind, hFail⟩
      cases hFail
      exact (hUndo hHeld' hWrites' hUnbind).of_fds rfl
  | some peer =>
      rw [hPeer] at hLast
      rcases bind_eq_ok.mp hLast with ⟨x, w, hSet, hPure⟩
      cases hPure
      exact (steady_setPeerpath _ _ _ _ _ hSet).writesTo
        hWrites'

/- The reply is read from another number. -/
theorem unixConnectExchange_reads
    {env : UnixConnectEnv}
    {n : Fd}
    {req : UnixMsgOpen}
    {ms : List Bytes}
    (hHeld : s.HeldHere p d d' usock)
    (hWrites : s.WritesTo fd m)
    (hRun : unixConnectExchange env d.idata n req s =
      .ok (some ms, t)) :
    fd ≠ usock.fdR := by
  rcases bind_eq_ok.mp hRun with ⟨ret, u, hWrite, hTail⟩
  have hLocal := local_writeFd (fun _ => False) _ _ _ _ _ _
    hWrite
  by_cases hRet : ret = -1
  · rw [if_pos hRet] at hTail
    cases hTail
  · rw [if_neg hRet] at hTail
    have hHeap : u.heap = s.heap := by
      funext r
      exact hLocal.heap r id
    have hUnix := hHeld.unix.of_heap hHeap
    rw [← hHeld.data, run_bind_ok (derefUnix_run hUnix)]
      at hTail
    rintro rfl
    cases readFd_writer (hWrites.of_fds hLocal.fds) hTail

/- A call that succeeds has not taken the branch that undoes. -/
theorem ite_undo_ok
    {c : Prop}
    [Decidable c]
    {undo : Exec Unit}
    {body : Exec Int}
    {r : Int}
    (hRun : (if c then do
        undo
        return -1
      else body) s = .ok (r, t))
    (hSuccess : r ≠ -1) :
    body s = .ok (r, t) := by
  by_cases hFail : c
  · rw [if_pos hFail] at hRun
    rcases bind_eq_ok.mp hRun with ⟨_, u, -, hPure⟩
    cases hPure
    exact absurd rfl hSuccess
  · rw [if_neg hFail] at hRun
    exact hRun

/- A reply that is accepted makes the call return 0. -/
theorem unixConnectReply_zero
    {env : UnixConnectEnv}
    {data : Option Ptr}
    {here : Bool}
    {n : Fd}
    {rep : UnixMsgOpen}
    {r : Int}
    (hRun : unixConnectReply env p data here n rep s =
      .ok (r, t))
    (hSuccess : r ≠ -1) :
    r = 0 := by
  rcases bind_eq_ok.mp hRun with ⟨usock, s₁, -, hTail⟩
  split at hTail
  · rcases bind_eq_ok.mp hTail with ⟨_, u, -, hFail⟩
    cases hFail
    exact absurd rfl hSuccess
  rcases bind_eq_ok.mp hTail with ⟨path, s₂, -, hOpen⟩
  rcases bind_eq_ok.mp hOpen with ⟨fdW, s₃, -, hStore⟩
  rcases bind_eq_ok.mp hStore with ⟨_, s₄, -, hLast⟩
  have hChecked := ite_undo_ok hLast hSuccess
  cases hPeer : afterPrefix unixLocalPath path with
  | none =>
      rw [hPeer] at hChecked
      rcases bind_eq_ok.mp hChecked with ⟨_, u, -, hFail⟩
      cases hFail
      exact absurd rfl hSuccess
  | some peer =>
      rw [hPeer] at hChecked
      rcases bind_eq_ok.mp hChecked with ⟨_, u, -, hPure⟩
      cases hPure
      rfl

/- A connection that is made has two other numbers. -/
theorem unixConnectReply_ne
    {env : UnixConnectEnv}
    {n : Fd}
    {rep : UnixMsgOpen}
    (hHeld : s.HeldHere p d d' usock)
    (hWrites : s.WritesTo fd m)
    (hSome : fd ≠ -1)
    (hNe : fd ≠ usock.fdR)
    (hOpen : n ≠ -1)
    (hRun : unixConnectReply env p d.idata (!d.bound) n rep s =
      .ok (0, t)) :
    ∃ usock', t.HasUnix p d' usock' ∧ fd ≠ usock'.fdR ∧
      fd ≠ usock'.fdW := by
  rw [← hHeld.data] at hRun
  rcases unixConnectReply_hasUnix hHeld.unix hOpen hRun with
    ⟨peer, fdW, u, hAfter, -, -, -, hFile, -⟩
  have hIs : (s.fds fd).dosOpen = true := by
    rcases hWrites with ⟨me, name, hMail, -⟩
    rw [hMail]
  exact ⟨_, hAfter, hNe,
    (openFile_ok hFile).ne_of_open hIs hSome⟩

/- What the request stores is not what is read from. -/
theorem heldHere_request
    {env : UnixConnectEnv}
    {req : UnixMsgOpen}
    (hHeld : s.HeldHere p d d' usock)
    (hRun : unixConnectRequest env d.idata s = .ok (req, t)) :
    t.fds = s.fds ∧
      t.HeldHere p d d' (usock.asked req) := by
  have hRequest := hRun
  rw [← hHeld.data] at hRequest
  rcases unixConnectRequest_hasUnix hHeld.unix hRequest with
    ⟨hUnix, ⟨block, q, rfl⟩, -⟩
  constructor
  · rfl
  · apply hHeld.congr hUnix
    · exact Steady.of_same rfl rfl
    · rfl

/- What follows once the socket is bound. -/
theorem unixConnectBound_leaves
    {env : UnixConnectEnv}
    {ret : Int}
    (hHeld : s.HeldHere p d d' usock)
    (hWrites : s.WritesTo fd m)
    (hSome : fd ≠ -1)
    (hRun : (do
      let req ← unixConnectRequest env d.idata
      let taken ← unixConnectExchange env d.idata fd req
      match taken with
      | none => do
          unbindHere env.close (!d.bound) p
          fail .ENETUNREACH
      | some ms =>
          unixConnectReply env p d.idata (!d.bound) fd
            (receivedRequest env.repJunk ms)) s =
      .ok (ret, t)) :
    t.WritesTo fd m ∧ (ret ≠ -1 → ∃ usock',
      t.HasUnix p d' usock' ∧ fd ≠ usock'.fdR ∧
        fd ≠ usock'.fdW) := by
  rcases bind_eq_ok.mp hRun with ⟨req, u, hReq, hAsked⟩
  rcases heldHere_request hHeld hReq with ⟨hFds, hHeld'⟩
  have hWrites' := hWrites.of_fds hFds
  rcases bind_eq_ok.mp hAsked with ⟨taken, v, hTaken, hLast⟩
  have hFds' := fds_exchange hTaken
  have hWrites'' := hWrites'.of_fds hFds'
  have hHeld'' : v.HeldHere p d d' (usock.asked req) := by
    constructor
    · exact hHeld'.unix.of_heap (heap_exchange hTaken)
    · exact hHeld'.data
    · intro hNew
      rcases hHeld'.reads hNew with ⟨m', hReads⟩
      exact ⟨m', hReads.of_fds hFds'⟩
  cases taken with
  | none =>
      rcases bind_eq_ok.mp hLast with ⟨x, w, hUndo, hFail⟩
      cases hFail
      have hKeeps := unbindHere_writesTo hHeld'' hWrites'' hUndo
      exact ⟨hKeeps.of_fds rfl, fun hNot => absurd rfl hNot⟩
  | some ms =>
      constructor
      · exact unixConnectReply_writesTo hHeld'' hWrites'' hLast
      · intro hDone
        rw [unixConnectReply_zero hLast hDone] at hLast
        have hNe := unixConnectExchange_reads hHeld' hWrites'
          hTaken
        exact unixConnectReply_ne hHeld'' hWrites'' hSome hNe
          hSome hLast

end Control

/- A connect begins by opening the control mailslot. -/
theorem unixConnect_opens
    {env : UnixConnectEnv}
    {p : Ptr}
    {serv : Bytes}
    {d : LsckSocket}
    {usock : LsckSocketUnix}
    {s s' : Process}
    {ret : Int}
    (hUnix : s.HasUnix p d usock)
    (hRun : unixConnect env p serv s = .ok (ret, s')) :
    ∃ server t₀ fd t₁, t₀.fds = s.fds ∧ Still s t₀ ∧
      t₀.HasUnix p d { usock with
        peerpath := List.replicate sockaddrMaxSize 0 } ∧
      openFile env.openCtl (unixLocalPath ++ server) .wronly
        t₀ = .ok (fd, t₁) ∧
      (if fd = -1 then
        return -1
      else do
        let ret ← bindHere env.bind env.nameRandom d
        if ret = -1 then
          return -1
        else do
          let req ← unixConnectRequest env d.idata
          let taken ← unixConnectExchange env d.idata fd req
          match taken with
          | none => do
              unbindHere env.close (!d.bound) p
              fail .ENETUNREACH
          | some ms =>
              unixConnectReply env p d.idata (!d.bound) fd
                (receivedRequest env.repJunk ms) : Exec Int)
        t₁ = .ok (ret, s') := by
  unfold unixConnect at hRun
  rw [run_bind_ok (derefSocket_run hUnix.socket)] at hRun
  rcases bind_eq_ok.mp hRun with ⟨_, t₀, hClear, hCleared⟩
  rcases bind_eq_ok.mp hCleared with ⟨server, t, hSun, hNamed⟩
  rcases readString_ok hSun with ⟨rfl, -⟩
  rcases bind_eq_ok.mp hNamed with ⟨path, t', hFits, hBuilt⟩
  rcases fits_ok hFits with ⟨rfl, rfl, -⟩
  rcases bind_eq_ok.mp hBuilt with ⟨fd, t₁, hOpen, hRest⟩
  have hAfter := modifyUnix_hasUnix hUnix hClear
  exact ⟨server, _, fd, t₁, hAfter.2.1,
    StillCmd.modifyUnix _ _ _ _ _ hClear, hAfter.1, hOpen,
    hRest⟩

/-
  A connect whose control mailslot opens leaves it open, and
  it is neither of the two that a connection needs.
-/
theorem unixConnect_leaves
    {env : UnixConnectEnv}
    {p : Ptr}
    {serv : Bytes}
    {d : LsckSocket}
    {usock : LsckSocketUnix}
    {s s' : Process}
    {ret : Int}
    (hForm : WellFormed none s)
    (hUnix : s.HasUnix p d usock)
    (hInterface : d.interface = some .unix)
    (hGranted : env.openCtl.Granted s)
    (hRun : unixConnect env p serv s = .ok (ret, s')) :
    ∃ fd m, (s.fds fd).dosOpen = false ∧ s'.WritesTo fd m ∧
      (ret ≠ -1 → ∃ d' usock', s'.HasUnix p d' usock' ∧
        fd ≠ usock'.fdR ∧ fd ≠ usock'.fdW) := by
  rcases unixConnect_opens hUnix hRun with
    ⟨server, t₀, fd, t₁, hFds, hStill, hUnix₀, hOpen, hRest⟩
  have hOpens := openFile_ok hOpen
  have hFd : fd ≠ -1 := (openFile_granted hOpen).mpr
    ((OpenEnv.Granted.of_fds hFds).mpr hGranted)
  rw [if_neg hFd] at hRest
  rcases openFile_writesTo hOpen hFd with ⟨m, -, hWrites⟩
  have hClosed : (s.fds fd).dosOpen = false := by
    rcases hOpens.fds with ⟨hNone, -⟩ | ⟨-, hFree, -⟩
    · exact absurd hNone hFd
    · rw [← hFds]
      exact hFree
  refine ⟨fd, m, hClosed, ?_⟩
  have hForm₁ := (hForm.still hStill).still
    (still_openFile _ _ _ _ _ _ hOpen)
  rcases bind_eq_ok.mp hRest with ⟨r, t₂, hBind, hBound⟩
  have hWrites₂ := (steady_bindHere _ _ _ _ _ _
    hBind).writesTo hWrites
  by_cases hR : r = -1
  · rw [if_pos hR] at hBound
    cases hBound
    exact ⟨hWrites₂, fun hNot => absurd rfl hNot⟩
  rw [if_neg hR] at hBound
  rcases heldHere_of_run hForm₁ (hUnix₀.of_heap hOpens.heap)
    hInterface hBind hR with ⟨d₂, usock₂, hHeld⟩
  rcases unixConnectBound_leaves hHeld hWrites₂ hFd hBound with
    ⟨hKeeps, hNe⟩
  exact ⟨hKeeps, fun hDone => ⟨d₂, hNe hDone⟩⟩

/- The socket's names and descriptors are as they were. -/
structure KeepsNames
    (d d' : LsckSocket)
    (usock usock' : LsckSocketUnix) : Prop where
  bound : d'.bound = d.bound
  sockname : d'.sockname = d.sockname
  sockpath : usock'.sockpath = usock.sockpath
  fdR : usock'.fdR = usock.fdR
  fdW : usock'.fdW = usock.fdW

/-
  A connect that fails leaves the socket and the mailslots
  of the process as they were, and one that succeeds opens
  the two descriptors of the connection and no other.
-/
structure ConnectClean
    (p : Ptr)
    (d : LsckSocket)
    (usock : LsckSocketUnix)
    (s s' : Process)
    (ret : Int) : Prop where
  failed : ret = -1 → s'.mailslots = s.mailslots ∧
    ∃ d' usock', s'.HasUnix p d' usock' ∧
      KeepsNames d d' usock usock'
  connected : ret ≠ -1 → ∀ d' usock',
    s'.HasUnix p d' usock' →
      s'.mailslots ⊆ s.mailslots ∪ {usock'.fdR, usock'.fdW}

/- A control mailslot that was opened stays open. -/
theorem not_connectClean
    {env : UnixConnectEnv}
    {p : Ptr}
    {serv : Bytes}
    {d : LsckSocket}
    {usock : LsckSocketUnix}
    {s s' : Process}
    {ret : Int}
    (hForm : WellFormed none s)
    (hUnix : s.HasUnix p d usock)
    (hInterface : d.interface = some .unix)
    (hGranted : env.openCtl.Granted s)
    (hRun : unixConnect env p serv s = .ok (ret, s')) :
    ¬ ConnectClean p d usock s s' ret := by
  intro hClean
  rcases unixConnect_leaves hForm hUnix hInterface hGranted
    hRun with ⟨fd, m, hClosed, hWrites, hNe⟩
  have hLeft := hWrites.mem_mailslots
  by_cases hRet : ret = -1
  · rw [(hClean.failed hRet).1] at hLeft
    exact Process.not_mem_mailslots hClosed hLeft
  · rcases hNe hRet with ⟨d', usock', hUnix', hR, hW⟩
    rcases hClean.connected hRet d' usock' hUnix' hLeft with
      hOld | hNew
    · exact Process.not_mem_mailslots hClosed hOld
    · rcases hNew with rfl | rfl
      · exact hR rfl
      · exact hW rfl

/-
  The control mailslot is closed on no way out, so a connect
  is clean exactly when it could not open it.
-/
theorem connect_clean_iff
    {env : UnixConnectEnv}
    {p : Ptr}
    {serv : Bytes}
    {d : LsckSocket}
    {usock : LsckSocketUnix}
    {s s' : Process}
    {ret : Int}
    (hForm : WellFormed none s)
    (hUnix : s.HasUnix p d usock)
    (hInterface : d.interface = some .unix)
    (hRun : unixConnect env p serv s = .ok (ret, s')) :
    ConnectClean p d usock s s' ret ↔
      ¬ env.openCtl.Granted s := by
  constructor
  · intro hClean hGranted
    exact not_connectClean hForm hUnix hInterface hGranted hRun
      hClean
  · intro hNone
    rcases unixConnect_opens hUnix hRun with
      ⟨server, t₀, fd, t₁, hFds, -, hUnix₀, hOpen, hRest⟩
    have hOpens := openFile_ok hOpen
    have hFd : fd = -1 := by
      by_contra hSome
      exact hNone ((OpenEnv.Granted.of_fds hFds).mp
        ((openFile_granted hOpen).mp hSome))
    rw [if_pos hFd] at hRest
    cases hRest
    have hSame : s'.fds = s.fds := by
      rcases hOpens.fds with ⟨-, hKept⟩ | ⟨hSome, -⟩
      · rw [hKept, hFds]
      · exact absurd hFd hSome
    constructor
    · intro _
      refine ⟨Process.mailslots_of_fds hSame, d, _,
        hUnix₀.of_heap hOpens.heap, ?_⟩
      exact ⟨rfl, rfl, rfl, rfl, rfl⟩
    · intro hNot
      exact absurd rfl hNot

/- A connect without a descriptor for the control mailslot. -/
def UnixConnectEnv.starved : UnixConnectEnv :=
  { ConnectEnv.answered.unixEnv with
    openCtl := ⟨none, .zero⟩ }

theorem connect_clean_starved :
    ∃ s', unixConnect .starved 10 serverAddress clientProcess =
        .ok (-1, s') ∧
      ConnectClean 10 clientSocket clientData clientProcess
        s' (-1) := by
  have hRun : ∃ s', unixConnect .starved 10 serverAddress
      clientProcess = .ok (-1, s') :=
    exists_run_of_answer (by decide +kernel)
  rcases hRun with ⟨s', hRun⟩
  have hForm := wellFormed_of_reachable client_reachable
  refine ⟨s', hRun, (connect_clean_iff hForm client_hasUnix
    (by decide +kernel) hRun).mpr ?_⟩
  rintro ⟨fd, hNumber, -⟩
  cases hNumber

/- A connect that gets no number for a mailslot of its own. -/
def UnixConnectEnv.unnamed : UnixConnectEnv :=
  { ConnectEnv.answered.unixEnv with
    bind := BindEnv.opening (-1) }

/-
  A connect that cannot bind the socket returns with the
  control mailslot open.
-/
theorem control_mailslot_left :
    ¬ ∀ (env : UnixConnectEnv) (p : Ptr) (serv : Bytes)
        (d : LsckSocket) (usock : LsckSocketUnix)
        (s s' : Process) (ret : Int),
      lsckSystem.Reachable s →
      s.HasUnix p d usock →
      d.interface = some .unix →
      d.type = sockStream →
      d.connected = false →
      unixConnect env p serv s = .ok (ret, s') →
      ConnectClean p d usock s s' ret := by
  intro hAlways
  have hRun : ∃ s', unixConnect .unnamed 10 serverAddress
      clientProcess = .ok (-1, s') :=
    exists_run_of_answer (by decide +kernel)
  rcases hRun with ⟨s', hRun⟩
  have hUnix : clientSocket.interface = some .unix := by
    decide +kernel
  have hClean := hAlways _ _ _ _ _ _ _ _ client_reachable
    client_hasUnix hUnix (by decide +kernel) (by decide +kernel)
    hRun
  have hGranted : UnixConnectEnv.unnamed.openCtl.Granted
      clientProcess :=
    ⟨4, rfl, by decide, by decide +kernel⟩
  exact not_connectClean
    (wellFormed_of_reachable client_reachable) client_hasUnix
    hUnix hGranted hRun hClean

end Libsocket
