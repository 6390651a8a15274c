import Libsocket.Csock
import Libsocket.MailslotPath
import Libsocket.Unix.Callbacks

/-
  Which blocks a callback may touch: the ones it owns. All
  other blocks, and the table of descriptors unless it opens
  a file, stay exactly as they are.

  Main declarations:
    * `Local`, `LocalCmd`
    * `openFile_ok`
    * `wsockAccept_local`, `csockServe_local`
    * `unixAccept_local`
-/

namespace Libsocket

open Command

------------------------------------------------------------
-- Local Commands
------------------------------------------------------------

/-
  Descriptors and slots are untouched, and so are the blocks
  that are not owned.
-/
structure Local
    (own : Ptr → Prop)
    (s s' : Process) : Prop where
  fds : s'.fds = s.fds
  table : s'.table = s.table
  heap : ∀ r, ¬ own r → s'.heap r = s.heap r

namespace Local

variable {own : Ptr → Prop} {s t u : Process}

theorem refl (s : Process) : Local own s s :=
  ⟨rfl, rfl, fun _ _ => rfl⟩

theorem trans
    (hLeft : Local own s t)
    (hRight : Local own t u) :
    Local own s u :=
  ⟨hRight.fds.trans hLeft.fds,
    hRight.table.trans hLeft.table,
    fun r hNot =>
      (hRight.heap r hNot).trans (hLeft.heap r hNot)⟩

theorem setBlock
    {p : Ptr}
    (hOwn : own p)
    (s : Process)
    (b : Option Block) :
    Local own s (s.setBlock p b) := by
  refine ⟨rfl, rfl, fun r hNot => ?_⟩
  have hNe : r ≠ p := by
    rintro rfl
    exact hNot hOwn
  simp [hNe]

end Local

/- A command that stays within the blocks it owns. -/
abbrev LocalCmd
    {α : Type}
    (own : Ptr → Prop)
    (m : Exec α) : Prop :=
  Within (Local own) m

namespace LocalCmd

variable {α β : Type} {own : Ptr → Prop}

theorem pure (a : α) : LocalCmd own (pure a : Exec α) :=
  Within.pure Local.refl a

theorem bind
    {m : Exec α}
    {f : α → Exec β}
    (hFirst : LocalCmd own m)
    (hRest : ∀ a, LocalCmd own (f a)) :
    LocalCmd own (m >>= f) :=
  Within.bind (fun _ _ _ h₁ h₂ => h₁.trans h₂) hFirst hRest

theorem read
    {m : Exec α}
    (hReads : Reads m) :
    LocalCmd own m :=
  hReads.within Local.refl

theorem modify
    {f : Process → Process}
    (hLocal : ∀ s, Local own s (f s)) :
    LocalCmd own (modify f : Exec Unit) :=
  Within.modify hLocal

theorem setErrno (e : Errno) : LocalCmd own (setErrno e) :=
  modify fun _ => ⟨rfl, rfl, fun _ _ => rfl⟩

theorem fail (e : Errno) : LocalCmd own (fail e) :=
  (setErrno e).bind fun _ => pure (-1)

theorem modifySocket
    {p : Ptr}
    (hOwn : own p)
    (f : LsckSocket → LsckSocket) :
    LocalCmd own (modifySocket p f) := by
  intro s a s' hRun
  rcases modifySocket_ok hRun with ⟨d, -, rfl⟩
  exact Local.setBlock hOwn s _

theorem setPeername
    {p : Ptr}
    (hOwn : own p)
    (name : Bytes)
    (namelen : Nat) :
    LocalCmd own (setPeername p name namelen) :=
  Within.ite (modifySocket hOwn _) (Within.stop _)

/- Interface data may be changed where it is owned. -/
theorem modifyUnix
    {q : Option Ptr}
    (hOwn : ∀ r, q = some r → own r)
    (f : LsckSocketUnix → LsckSocketUnix) :
    LocalCmd own (modifyUnix q f) := by
  intro s a s' hRun
  rcases modifyUnix_ok hRun with ⟨r, usock, hQ, -, rfl⟩
  exact Local.setBlock (hOwn r hQ) s _

theorem modifyCsock
    {q : Option Ptr}
    (hOwn : ∀ r, q = some r → own r)
    (f : LsckSocketCsock → LsckSocketCsock) :
    LocalCmd own (modifyCsock q f) := by
  intro s a s' hRun
  rcases modifyCsock_ok hRun with ⟨r, csock, hQ, -, rfl⟩
  exact Local.setBlock (hOwn r hQ) s _

theorem modifyWsock
    {q : Option Ptr}
    (hOwn : ∀ r, q = some r → own r)
    (f : LsckSocketWsock → LsckSocketWsock) :
    LocalCmd own (modifyWsock q f) := by
  intro s a s' hRun
  rcases modifyWsock_ok hRun with ⟨r, wsock, hQ, -, rfl⟩
  exact Local.setBlock (hOwn r hQ) s _

end LocalCmd

/-
  The blocks of a new descriptor: its own, and all that were
  free when the callback began.
-/
def NewBlocks (np : Ptr) (s : Process) (r : Ptr) : Prop :=
  r = np ∨ s.heap r = none

/-
  The allocation that callbacks start with: what it yields is
  owned, and they go on with it.
-/
theorem owned_of_malloc
    {np : Ptr}
    {memory : Option Ptr}
    {content : Block}
    {rest : Option Ptr → Exec Int}
    {s s' : Process}
    {ret : Int}
    (hRun : (do
      let q ← malloc memory content
      modifySocket np fun nd => { nd with idata := q }
      rest q) s = .ok (ret, s')) :
    ∃ q u, (∀ r, q = some r → NewBlocks np s r) ∧
      Local (NewBlocks np s) s u ∧
      rest q u = .ok (ret, s') := by
  rcases bind_eq_ok.mp hRun with ⟨q, t, hMalloc, hTail⟩
  rcases bind_eq_ok.mp hTail with ⟨_, u, hHang, hLast⟩
  have hOwn : (∀ r, q = some r → NewBlocks np s r) ∧
      Local (NewBlocks np s) s t := by
    rcases malloc_ok hMalloc with
      ⟨rfl, rfl⟩ | ⟨r, rfl, -, hFree, rfl⟩
    · exact ⟨by simp, Local.refl _⟩
    · refine ⟨?_, Local.setBlock (.inr hFree) s _⟩
      rintro r' hR
      cases hR
      exact .inr hFree
  have hNp : NewBlocks np s np := .inl rfl
  have hNew : Local (NewBlocks np s) t u :=
    LocalCmd.modifySocket hNp _ t () u hHang
  exact ⟨q, u, hOwn.1, hOwn.2.trans hNew, hLast⟩

/- So they stay within what is owned if the rest does. -/
theorem local_of_malloc
    {np : Ptr}
    {memory : Option Ptr}
    {content : Block}
    {rest : Option Ptr → Exec Int}
    {s s' : Process}
    {ret : Int}
    (hRest : ∀ q,
      (∀ r, q = some r → NewBlocks np s r) →
      LocalCmd (NewBlocks np s) (rest q))
    (hRun : (do
      let q ← malloc memory content
      modifySocket np fun nd => { nd with idata := q }
      rest q) s = .ok (ret, s')) :
    Local (NewBlocks np s) s s' := by
  rcases owned_of_malloc hRun with ⟨q, u, hOwn, hNew, hLast⟩
  exact hNew.trans (hRest q hOwn u ret s' hLast)

------------------------------------------------------------
-- Drivers
------------------------------------------------------------

theorem local_callVxd
    (own : Ptr → Prop)
    (code : UInt16) :
    LocalCmd own (callVxd code) :=
  Within.ite (LocalCmd.setErrno _)
    (Within.ite (LocalCmd.setErrno _) (LocalCmd.pure _))

theorem local_failCsock
    (own : Ptr → Prop)
    (ret : Int) :
    LocalCmd own (failCsock ret) :=
  LocalCmd.bind (Within.get Local.refl)
    fun _ => LocalCmd.fail _

theorem local_wsockSelectWait
    (own : Ptr → Prop)
    (code : UInt16) :
    LocalCmd own (wsockSelectWait code) :=
  (local_callVxd own code).bind fun _ =>
    Within.ite (LocalCmd.pure _) (LocalCmd.pure _)

/- `__wsock_socket` touches what it allocates. -/
theorem wsockSocket_local
    {env : WsockSocketEnv}
    {p : Ptr}
    {s s' : Process}
    {ret : Int}
    (hRun : wsockSocket env p s = .ok (ret, s')) :
    Local (NewBlocks p s) s s' := by
  refine local_of_malloc (fun q hOwn => ?_) hRun
  refine Within.ite (LocalCmd.fail _) ?_
  refine (local_callVxd _ _).bind fun _ => ?_
  refine Within.ite (LocalCmd.pure _) ?_
  exact (LocalCmd.modifyWsock hOwn _).bind
    fun _ => LocalCmd.pure _

/- `__wsock_accept` leaves the listener and its data alone. -/
theorem wsockAccept_local
    {env : WsockAcceptEnv}
    {p np : Ptr}
    {s s' : Process}
    {ret : Int}
    (hRun : wsockAccept env p np s = .ok (ret, s')) :
    Local (NewBlocks np s) s s' := by
  rcases bind_eq_ok.mp hRun with ⟨d, t, hRead, hTail⟩
  have hSame := (derefSocket_ok hRead).1
  subst hSame
  refine local_of_malloc (fun q hOwn => ?_) hTail
  refine Within.ite (LocalCmd.fail _) ?_
  refine (LocalCmd.read (reads_deref _ _)).bind fun _ => ?_
  refine LocalCmd.bind (Within.ite
    (local_wsockSelectWait _ _) (LocalCmd.pure _))
    fun wait => ?_
  refine Within.ite (LocalCmd.pure _) ?_
  refine (local_callVxd _ _).bind fun _ => ?_
  refine Within.ite (LocalCmd.pure _) ?_
  refine Within.ite (LocalCmd.pure _) ?_
  refine (LocalCmd.setPeername (.inl rfl) _ _).bind
    fun _ => ?_
  exact (LocalCmd.modifyWsock hOwn _).bind
    fun _ => LocalCmd.pure _

theorem local_csockIoctl
    {own : Ptr → Prop}
    {p : Ptr}
    (hOwn : own p)
    (answer param : Int) :
    LocalCmd own (csockIoctl answer p param) := by
  refine (LocalCmd.read (reads_derefSocket p)).bind
    fun lsd => ?_
  refine (LocalCmd.read (reads_deref _ _)).bind fun _ => ?_
  refine Within.ite (local_failCsock _ _) ?_
  exact (LocalCmd.modifySocket hOwn _).bind
    fun _ => LocalCmd.pure _

theorem csockSocket_local
    {env : CsockSocketEnv}
    {p : Ptr}
    {s s' : Process}
    {ret : Int}
    (hRun : csockSocket env p s = .ok (ret, s')) :
    Local (NewBlocks p s) s s' := by
  refine local_of_malloc (fun q hOwn => ?_) hRun
  refine Within.ite (LocalCmd.fail _) ?_
  split
  · exact (LocalCmd.modifyCsock hOwn _).bind
      fun _ => LocalCmd.fail _
  · refine (LocalCmd.modifyCsock hOwn _).bind fun _ => ?_
    exact (local_csockIoctl (.inl rfl) _ _).bind
      fun _ => LocalCmd.pure _

theorem unixSocket_local
    {memory : Option Ptr}
    {p : Ptr}
    {s s' : Process}
    {ret : Int}
    (hRun : unixSocket memory p s = .ok (ret, s')) :
    Local (NewBlocks p s) s s' := by
  refine local_of_malloc (fun q hOwn => ?_) hRun
  refine Within.ite (LocalCmd.fail _) ?_
  exact (LocalCmd.modifyUnix hOwn _).bind
    fun _ => LocalCmd.pure _

/- The listener after its mode was switched, if it could. -/
def csockSwitched
    (answer param : Int)
    (d : LsckSocket) : LsckSocket :=
  if answer = 0 then
    { d with blocking := param != 1 }
  else
    d

theorem csockIoctl_ok
    {answer param : Int}
    {p : Ptr}
    {d : LsckSocket}
    {s s' : Process}
    {ret : Int}
    (hSocket : s.heap p = some (.socket d))
    (hRun : csockIoctl answer p param s = .ok (ret, s')) :
    s'.heap p =
      some (.socket (csockSwitched answer param d)) := by
  unfold csockIoctl at hRun
  rw [run_bind_ok (derefSocket_run hSocket)] at hRun
  rcases bind_eq_ok.mp hRun with ⟨_, t, hData, hTail⟩
  have hSame := (deref_ok hData).1
  subst hSame
  by_cases hFails : answer ≠ 0
  · rw [if_pos hFails] at hTail
    cases hTail
    rw [csockSwitched, if_neg hFails]
    exact hSocket
  · rw [if_neg hFails,
      run_bind_ok (modifySocket_run hSocket)] at hTail
    cases hTail
    rw [csockSwitched, if_pos (by simpa using hFails)]
    simp

/- The listener after a search for a connection. -/
def csockListener
    (env : CsockAcceptEnv)
    (d : LsckSocket) : LsckSocket :=
  if d.blocking then
    csockSwitched env.flipBackAnswer 0
      (csockSwitched env.flipAnswer 1 d)
  else
    d

/- One switch of the listener, when it is in blocking mode. -/
theorem csockSwitch_ok
    {c : Bool}
    {answer param : Int}
    {p : Ptr}
    {d : LsckSocket}
    {s s' : Process}
    {ret : Int}
    (hSocket : s.heap p = some (.socket d))
    (hRun : (if c then csockIoctl answer p param
      else pure 0) s = .ok (ret, s')) :
    Local (· = p) s s' ∧ s'.heap p = some (.socket
      (if c then csockSwitched answer param d else d)) := by
  cases c with
  | true =>
      have hLocal : LocalCmd (fun r => r = p)
        (csockIoctl answer p param) := by
          refine local_csockIoctl ?_ _ _
          rfl
      exact ⟨hLocal s ret s' hRun,
        csockIoctl_ok hSocket hRun⟩
  | false =>
      cases hRun
      exact ⟨Local.refl _, hSocket⟩

theorem Local.mono
    {own own' : Ptr → Prop}
    {s s' : Process}
    (hWeaker : ∀ r, own r → own' r)
    (hLocal : Local own s s') :
    Local own' s s' :=
  ⟨hLocal.fds, hLocal.table,
    fun r hNot => hLocal.heap r fun h => hNot (hWeaker r h)⟩

/-
  The search owns the new blocks, and the listener for its
  mode.
-/
theorem csockServe_ok
    {env : CsockAcceptEnv}
    {own : Ptr → Prop}
    {p np : Ptr}
    {q : Option Ptr}
    {d : LsckSocket}
    {s s' : Process}
    {ret : Int}
    (hSocket : s.heap p = some (.socket d))
    (hListener : ¬ own p)
    (hNew : own np)
    (hOwn : ∀ r, q = some r → own r)
    (hRun : csockServe env d p np q s = .ok (ret, s')) :
    Local (fun r => own r ∨ r = p) s s' ∧
      s'.heap p = some (.socket (csockListener env d)) := by
  have hEither : ∀ {m : Exec Unit} {t u}, LocalCmd own m →
      m t = .ok ((), u) →
      Local (fun r => own r ∨ r = p) t u ∧
        u.heap p = t.heap p := by
    intro m t u hLocal hM
    have hStep := hLocal t () u hM
    exact ⟨hStep.mono fun r => .inl, hStep.heap p hListener⟩
  have hBoth : ∀ r, r = p → own r ∨ r = p := fun _ => .inr
  unfold csockServe at hRun
  generalize csockTake env.scan = found at hRun
  rcases found with ⟨taken, last⟩
  rcases bind_eq_ok.mp hRun with ⟨_, t₁, hFlip, hTail₁⟩
  rcases csockSwitch_ok hSocket hFlip with ⟨hL₁, hP₁⟩
  rcases bind_eq_ok.mp hTail₁ with ⟨_, t₂, hReset, hTail₂⟩
  rcases hEither (LocalCmd.modifyCsock hOwn _) hReset with
    ⟨hL₂, hP₂⟩
  rcases bind_eq_ok.mp hTail₂ with ⟨_, t₃, hRead, hTail₃⟩
  have hSame := (deref_ok hRead).1
  subst hSame
  rcases bind_eq_ok.mp hTail₃ with ⟨_, t₄, hWait, hTail₄⟩
  rcases hEither (Within.when Local.refl (Within.stop _))
    hWait with ⟨hL₄, hP₄⟩
  rcases bind_eq_ok.mp hTail₄ with ⟨_, t₅, hStore, hTail₅⟩
  have hTake : Local own t₄ t₅ := by
    cases taken with
    | none => exact LocalCmd.pure _ _ _ _ hStore
    | some i => exact LocalCmd.modifyCsock hOwn _ _ _ _ hStore
  have hL₅ : Local (fun r => own r ∨ r = p) t₄ t₅ :=
    hTake.mono fun r => .inl
  have hP₅ := hTake.heap p hListener
  rcases bind_eq_ok.mp hTail₅ with ⟨_, t₆, hBack, hTail₆⟩
  have hP : t₅.heap p = some (.socket (if d.blocking then
      csockSwitched env.flipAnswer 1 d else d)) :=
    hP₅.trans (hP₄.trans (hP₂.trans hP₁))
  rcases csockSwitch_ok hP hBack with ⟨hL₆, hP₆⟩
  have hEnd : Local own t₆ s' := by
    refine Within.ite (local_failCsock own _) ?_ t₆ ret s'
      hTail₆
    exact (LocalCmd.setPeername hNew _ _).bind
      fun _ => LocalCmd.pure _
  refine ⟨(hL₁.mono hBoth).trans (hL₂.trans (hL₄.trans
    (hL₅.trans ((hL₆.mono hBoth).trans
      (hEnd.mono fun r => .inl))))), ?_⟩
  rw [hEnd.heap p hListener, hP₆, csockListener]
  cases d.blocking <;> rfl

/- `__csock_accept` may change the listener's mode. -/
theorem csockAccept_ok
    {env : CsockAcceptEnv}
    {p np : Ptr}
    {d nd : LsckSocket}
    {s s' : Process}
    {ret : Int}
    (hListener : s.heap p = some (.socket d))
    (hData : d.idata ≠ none)
    (hNe : p ≠ np)
    (hNew : s.heap np = some (.socket nd))
    (hRoom : sockaddrInSize ≤ nd.peernamelen)
    (hRun : csockAccept env p np s = .ok (ret, s')) :
    Local (fun r => NewBlocks np s r ∨ r = p) s s' ∧
      s'.heap p = some (.socket (csockListener env d)) := by
  have hOld : ¬ NewBlocks np s p := by
    rintro (hSame | hFree)
    · exact hNe hSame
    · rw [hFree] at hListener
      cases hListener
  unfold csockAccept at hRun
  rw [run_bind_ok (derefSocket_run hListener),
    run_bind_ok (derefSocket_run hNew),
    if_neg (by omega)] at hRun
  simp only [if_neg hData] at hRun
  rcases bind_eq_ok.mp hRun with ⟨q, t, hMalloc, hTail⟩
  rcases bind_eq_ok.mp hTail with ⟨_, u, hHang, hServe⟩
  have hNp : NewBlocks np s np := .inl rfl
  rcases malloc_ok hMalloc with
    ⟨rfl, rfl⟩ | ⟨r, rfl, -, hFree, rfl⟩
  · exact absurd hServe
      (csockServe_none env d p np u ret s')
  have hAlloc : Local (NewBlocks np s) s u :=
    (Local.setBlock (.inr hFree) s _).trans
      (LocalCmd.modifySocket hNp _ _ () u hHang)
  have hThere : u.heap p = some (.socket d) := by
    rw [hAlloc.heap p hOld, hListener]
  rcases csockServe_ok hThere hOld hNp (by
    rintro r' hR
    cases hR
    exact .inr hFree) hServe with ⟨hLocal, hP⟩
  exact ⟨(hAlloc.mono fun r => .inl).trans hLocal, hP⟩

------------------------------------------------------------
-- Mailslots
------------------------------------------------------------

/-
  An open that fails changes no descriptor; one that succeeds
  takes a number that was closed.
-/
structure Opens (fd : Fd) (s s' : Process) : Prop where
  heap : s'.heap = s.heap
  table : s'.table = s.table
  fds : fd = -1 ∧ s'.fds = s.fds ∨
    fd ≠ -1 ∧ (s.fds fd).dosOpen = false ∧
      (s'.fds fd).dosOpen = true ∧
      ∀ n, n ≠ fd → s'.fds n = s.fds n

theorem Opens.of_fail
    {env : OpenEnv}
    {s s' : Process}
    {fd : Fd}
    (hRun : fail env.errno s = .ok (fd, s')) :
    Opens fd s s' := by
  cases hRun
  exact ⟨rfl, rfl, .inl ⟨rfl, rfl⟩⟩

theorem openMailslot_ok
    {env : OpenEnv}
    {me : MailslotFsext}
    {s s' : Process}
    {fd : Fd}
    (hRun : openMailslot env me s = .ok (fd, s')) :
    Opens fd s s' := by
  rcases bind_eq_ok.mp hRun with ⟨n, t, hAlloc, hTail⟩
  rcases allocFd_ok hAlloc with
    ⟨rfl, rfl⟩ | ⟨-, hLow, hFree, rfl⟩
  · rw [if_pos rfl] at hTail
    exact .of_fail hTail
  · have hNe : n ≠ -1 := by
      rintro rfl
      exact absurd hLow (by decide)
    rw [if_neg hNe] at hTail
    cases hTail
    refine ⟨rfl, rfl, .inr ⟨hNe, hFree, by simp, ?_⟩⟩
    intro n hOther
    simp [hOther]

theorem openOther_ok
    {env : OpenEnv}
    {s s' : Process}
    {fd : Fd}
    (hRun : openOther env s = .ok (fd, s')) :
    Opens fd s s' := by
  unfold openOther at hRun
  rw [run_bind_ok (run_get s)] at hRun
  cases hNumber : env.number with
  | none =>
      rw [hNumber] at hRun
      exact .of_fail hRun
  | some n =>
      simp only [hNumber] at hRun
      by_cases hFree : 0 ≤ n ∧ (s.fds n).dosOpen = false
      · simp only [if_pos hFree] at hRun
        cases hRun
        refine ⟨rfl, rfl, .inr ⟨?_, hFree.2, by simp, ?_⟩⟩
        · rintro rfl
          exact absurd hFree.1 (by decide)
        · intro m hOther
          simp [hOther]
      · simp only [if_neg hFree] at hRun
        exact .of_fail hRun

theorem openFile_ok
    {env : OpenEnv}
    {path : Bytes}
    {mode : OpenMode}
    {s s' : Process}
    {fd : Fd}
    (hRun : openFile env path mode s = .ok (fd, s')) :
    Opens fd s s' := by
  unfold openFile at hRun
  cases hDev : afterPrefix mailslotDev (slashify path) with
  | none =>
      simp only [hDev] at hRun
      exact openOther_ok hRun
  | some p =>
      simp only [hDev] at hRun
      cases mode with
      | wronly =>
          rcases bind_eq_ok.mp hRun with
            ⟨name, t, hFits, hOpen⟩
          have hSame := reads_fits _ _ _ _ _ hFits
          subst hSame
          exact openMailslot_ok hOpen
      | rdonly =>
          cases hLocal : afterPrefix mailslotLocal p with
          | none =>
              simp only [hLocal] at hRun
              cases hRun
              exact ⟨rfl, rfl, .inl ⟨rfl, rfl⟩⟩
          | some rest =>
              simp only [hLocal] at hRun
              rcases bind_eq_ok.mp hRun with
                ⟨name, t, hFits, hTail⟩
              have hSame := reads_fits _ _ _ _ _ hFits
              subst hSame
              rcases bind_eq_ok.mp hTail with
                ⟨n, u, hOpen, hLast⟩
              rcases bind_eq_ok.mp hLast with
                ⟨_, v, hMail, hPure⟩
              cases hPure
              have hOpens := openMailslot_ok hOpen
              by_cases hNe : fd ≠ -1
              · rw [when, if_pos hNe] at hMail
                cases hMail
                exact ⟨hOpens.heap, hOpens.table, hOpens.fds⟩
              · rw [when, if_neg hNe] at hMail
                cases hMail
                exact hOpens

theorem local_readFd
    (own : Ptr → Prop)
    (env : ReadEnv)
    (fd : Fd) :
    LocalCmd own (readFd env fd) := by
  have hMail : ∀ name queue, LocalCmd own
      (modify fun s => s.setMail name queue : Exec Unit) :=
    fun _ _ => LocalCmd.modify fun _ =>
      ⟨rfl, rfl, fun _ _ => rfl⟩
  have hErr : ∀ e, LocalCmd own (do
      setErrno e
      return none : Exec (Option (List Bytes))) :=
    fun e => (LocalCmd.setErrno e).bind
      fun _ => LocalCmd.pure _
  unfold readFd
  refine LocalCmd.bind (Within.get Local.refl) fun s => ?_
  split
  · exact Within.ite (Within.stop _) (hErr _)
  · exact Within.stop _
  split
  · exact hErr _
  · exact Within.stop _
  split
  · exact hErr _
  refine (hMail _ _).bind fun _ => ?_
  split
  · exact Within.ite (Within.stop _)
      (Within.ite (hErr _) (LocalCmd.pure _))
  refine Within.ite ?_ (Within.ite ?_ ?_)
  · exact Within.ite (Within.stop _) (LocalCmd.pure _)
  · exact (hMail _ _).bind fun _ => LocalCmd.pure _
  split
  · exact Within.stop _
  · exact (hMail _ _).bind fun _ => LocalCmd.pure _

theorem local_writeFd
    (own : Ptr → Prop)
    (env : WriteEnv)
    (fd : Fd)
    (message : Bytes) :
    LocalCmd own (writeFd env fd message) := by
  unfold writeFd
  refine LocalCmd.bind (Within.get Local.refl) fun s => ?_
  split
  · exact Within.ite
      (Within.ite (LocalCmd.pure _) (LocalCmd.fail _))
      (LocalCmd.fail _)
  · exact Within.stop _
  split
  · exact LocalCmd.fail _
  · exact Within.stop _
  split
  · exact LocalCmd.fail _
  refine Within.ite (LocalCmd.fail _) (Within.ite ?_ ?_)
  · refine (LocalCmd.modify fun s => ?_).bind
      fun _ => LocalCmd.pure _
    exact ⟨rfl, rfl, fun _ _ => rfl⟩
  · exact Within.ite (Within.stop _) (LocalCmd.fail _)

------------------------------------------------------------
-- Files Without The Heap
------------------------------------------------------------

/- The states agree on descriptors and mailslots. -/
structure SameFiles (s t : Process) : Prop where
  fds : s.fds = t.fds
  mail : s.mail = t.mail
  reportsNext : s.reportsNext = t.reportsNext

theorem SameFiles.setErrno
    {s t : Process}
    (hSame : SameFiles s t)
    (e : Errno) :
    SameFiles { s with errno := e } { t with errno := e } :=
  ⟨hSame.fds, hSame.mail, hSame.reportsNext⟩

theorem SameFiles.setMail
    {s t : Process}
    (hSame : SameFiles s t)
    (name : Bytes)
    (queue : List Bytes) :
    SameFiles (s.setMail name queue)
      (t.setMail name queue) := by
  refine ⟨hSame.fds, ?_, hSame.reportsNext⟩
  simp only [Process.setMail, hSame.mail]

theorem SameFiles.setEntry
    {s t : Process}
    (hSame : SameFiles s t)
    (fd : Fd)
    (f : FdEntry → FdEntry) :
    SameFiles (s.setEntry fd (f (s.fds fd)))
      (t.setEntry fd (f (t.fds fd))) := by
  refine ⟨?_, hSame.mail, hSame.reportsNext⟩
  simp only [Process.setEntry, hSame.fds]

theorem alike_fail (e : Errno) : Alike SameFiles (fail e) :=
  (Alike.modify fun _ _ hSame => hSame.setErrno e).bind
    fun _ => Alike.pure _

/- Reading does not depend on the heap. -/
theorem alike_readFd (env : ReadEnv) (fd : Fd) :
    Alike SameFiles (readFd env fd) := by
  have hErr : ∀ e, Alike SameFiles (do
      setErrno e
      return none : Exec (Option (List Bytes))) :=
    fun e => (Alike.modify fun _ _ hSame =>
      hSame.setErrno e).bind fun _ => Alike.pure _
  have hMail : ∀ name queue, Alike SameFiles
      (modify fun s => s.setMail name queue : Exec Unit) :=
    fun name queue => Alike.modify fun _ _ hSame =>
      hSame.setMail name queue
  unfold readFd
  refine Alike.get_bind (fun s t hSame => ?_) fun s => ?_
  · simp only [hSame.fds, hSame.mail, hSame.reportsNext]
  split
  · exact Alike.ite (Alike.stop _) (hErr _)
  · exact Alike.stop _
  split
  · exact hErr _
  · exact Alike.stop _
  split
  · exact hErr _
  refine (hMail _ _).bind fun _ => ?_
  split
  · exact Alike.ite (Alike.stop _)
      (Alike.ite (hErr _) (Alike.pure _))
  refine Alike.ite ?_ (Alike.ite ?_ ?_)
  · exact Alike.ite (Alike.stop _) (Alike.pure _)
  · exact (hMail _ _).bind fun _ => Alike.pure _
  split
  · exact Alike.stop _
  · exact (hMail _ _).bind fun _ => Alike.pure _

theorem alike_allocFd
    (number : Option Fd)
    (function : Handler) :
    Alike SameFiles (allocFd number function) := by
  unfold allocFd
  refine Alike.get_bind (fun s t hSame => ?_) fun s => ?_
  · simp only [hSame.fds]
  split
  · exact Alike.pure _
  · refine Alike.ite ?_ (Alike.pure _)
    refine Alike.bind ?_ fun _ => Alike.pure _
    refine Alike.modify fun _ _ hSame => ?_
    exact hSame.setEntry _ fun e => { e with
      dosOpen := true
      function := some function }

theorem alike_openMailslot
    (env : OpenEnv)
    (me : MailslotFsext) :
    Alike SameFiles (openMailslot env me) := by
  refine (alike_allocFd _ _).bind fun fd => ?_
  refine Alike.ite (alike_fail _) ?_
  refine Alike.bind ?_ fun _ => Alike.pure _
  refine Alike.modify fun _ _ hSame => ?_
  exact hSame.setEntry _ fun e =>
    { e with data := some (.mailslot me) }

theorem alike_fits (size : Nat) (text : Bytes) :
    Alike SameFiles (fits size text) :=
  Alike.ite (Alike.pure _) (Alike.stop _)

/- Opening does not depend on the heap. -/
theorem alike_openFile
    (env : OpenEnv)
    (path : Bytes)
    (mode : OpenMode) :
    Alike SameFiles (openFile env path mode) := by
  unfold openFile
  split
  · refine Alike.get_bind (fun s t hSame => ?_) fun s => ?_
    · simp only [hSame.fds]
    split
    · exact alike_fail _
    · refine Alike.ite ?_ (alike_fail _)
      refine Alike.bind ?_ fun _ => Alike.pure _
      refine Alike.modify fun _ _ hSame => ?_
      exact hSame.setEntry _ fun e =>
        { e with dosOpen := true }
  split
  · refine (alike_fits _ _).bind fun name => ?_
    exact alike_openMailslot _ _
  split
  · exact alike_fail _
  · refine (alike_fits _ _).bind fun name => ?_
    refine (alike_openMailslot _ _).bind fun fd => ?_
    refine Alike.bind (Alike.ite ?_ (Alike.pure _))
      fun _ => Alike.pure _
    exact Alike.modify fun _ _ hSame => hSame.setMail _ _

------------------------------------------------------------
-- Accepting On Unix Sockets
------------------------------------------------------------

/- The part of an accept that opens the new mailslot. -/
def requestSlot
    (env : UnixAcceptEnv)
    (sockname : Bytes)
    (req : UnixMsgOpen) : Exec Fd :=
  if req.header.type ≠ unixMsgClientOpen then
    return -1
  else do
    let server ← sunPath sockname
    let path ← fits maxPath (slotPath server env.slotRandom)
    openFile env.openR path .rdonly

/- The same after reading the request. -/
def readSlot
    (env : UnixAcceptEnv)
    (sockname : Bytes)
    (fdR : Fd) : Exec Fd := do
  let taken ← readFd env.read fdR
  match taken with
  | none => return -1
  | some ms =>
      requestSlot env sockname
        (receivedRequest env.reqJunk ms)

theorem alike_readSlot
    (env : UnixAcceptEnv)
    (sockname : Bytes)
    (fdR : Fd) :
    Alike SameFiles (readSlot env sockname fdR) := by
  refine (alike_readFd _ _).bind fun taken => ?_
  cases taken with
  | none => exact Alike.pure _
  | some ms =>
      refine Alike.ite (Alike.pure _) ?_
      refine Alike.bind ?_ fun server => ?_
      · unfold sunPath readString
        split
        · exact Alike.pure _
        · exact Alike.stop _
      · exact (alike_fits _ _).bind
          fun path => alike_openFile _ _ _

/- A number that is open is not the one a new file gets. -/
theorem Opens.entry
    {fd n : Fd}
    {s s' : Process}
    (hOpens : Opens fd s s')
    (hOpen : (s.fds n).dosOpen = true) :
    s'.fds n = s.fds n := by
  rcases hOpens.fds with ⟨-, hSame⟩ | ⟨-, hClosed, -, hRest⟩
  · rw [hSame]
  · apply hRest
    rintro rfl
    rw [hOpen] at hClosed
    cases hClosed

/- So an open mailslot keeps what is read from it. -/
theorem Opens.readsFrom
    {fd n : Fd}
    {m : Bytes}
    {s s' : Process}
    (hOpens : Opens fd s s')
    (hReads : s.ReadsFrom n m) :
    s'.ReadsFrom n m := by
  rcases hReads with ⟨me, hMail, hHandle⟩
  refine ⟨me, ?_, hHandle⟩
  unfold Process.HasMailslot at hMail ⊢
  rw [hOpens.entry (by rw [hMail]), hMail]

theorem local_unixAcceptReply
    {own : Ptr → Prop}
    {np : Ptr}
    {nusock : Option Ptr}
    (hNew : own np)
    (hOwn : ∀ r, nusock = some r → own r)
    (env : UnixAcceptEnv)
    (req : UnixMsgOpen)
    (path client : Bytes)
    (fdW : Fd) :
    LocalCmd own
      (unixAcceptReply env np nusock req path client fdW)
    := by
  unfold unixAcceptReply
  refine (LocalCmd.read (reads_copyInto _ _)).bind
    fun sun => ?_
  refine (LocalCmd.modifyUnix hOwn _).bind fun _ => ?_
  refine (LocalCmd.read (reads_readString _)).bind
    fun measured => ?_
  refine (LocalCmd.read (reads_copyInto _ _)).bind
    fun repPath => ?_
  refine (local_writeFd _ _ _ _).bind fun ret => ?_
  refine Within.ite (LocalCmd.pure _) ?_
  refine (LocalCmd.read (reads_deref _ _)).bind
    fun usock => ?_
  refine (LocalCmd.read (reads_copyInto _ _)).bind
    fun peerpath => ?_
  refine (LocalCmd.modifyUnix hOwn _).bind fun _ => ?_
  exact (LocalCmd.setPeername hNew _ _).bind
    fun _ => LocalCmd.pure _

/-
  A request is turned down before the new mailslot is open,
  and then nothing else has changed; or the mailslot is left
  open for reading.
-/
theorem unixAcceptRequest_ok
    {own : Ptr → Prop}
    {np : Ptr}
    {nusock : Option Ptr}
    {env : UnixAcceptEnv}
    {lsd : LsckSocket}
    {req : UnixMsgOpen}
    {s s' : Process}
    {ret : Int}
    (hNew : own np)
    (hOwn : ∀ r, nusock = some r → own r)
    (hRun : unixAcceptRequest env lsd np nusock req s =
      .ok (ret, s')) :
    ∃ fdR t,
      requestSlot env lsd.sockname req s = .ok (fdR, t) ∧
      (fdR = -1 ∧ Local own s s' ∨
        fdR ≠ -1 ∧ (s.fds fdR).dosOpen = false ∧
          ∃ m, s'.ReadsFrom fdR m) := by
  unfold unixAcceptRequest at hRun
  unfold requestSlot
  by_cases hType : req.header.type ≠ unixMsgClientOpen
  · rw [if_pos hType] at hRun ⊢
    cases hRun
    exact ⟨-1, _, rfl, .inl ⟨rfl, Local.refl _⟩⟩
  rw [if_neg hType] at hRun ⊢
  rcases bind_eq_ok.mp hRun with ⟨server, t₁, hServer, hT₁⟩
  rcases bind_eq_ok.mp hT₁ with ⟨path, t₂, hPath, hT₂⟩
  rcases bind_eq_ok.mp hT₂ with ⟨fdR, t₃, hOpen, hT₃⟩
  rw [run_bind_ok hServer, run_bind_ok hPath]
  have hSame₁ := reads_readString _ _ _ _ hServer
  have hSame₂ := reads_fits _ _ _ _ _ hPath
  rw [hSame₁] at hSame₂
  subst hSame₂
  refine ⟨fdR, t₃, hOpen, ?_⟩
  have hOpens := openFile_ok hOpen
  rcases bind_eq_ok.mp hT₃ with ⟨_, t₄, hStore, hT₄⟩
  have hStored := LocalCmd.modifyUnix hOwn _ _ _ _ hStore
  rcases hOpens.fds with ⟨hNone, hFds⟩ |
    ⟨hSome, hClosed, -, -⟩
  · rw [if_pos hNone] at hT₄
    cases hT₄
    refine .inl ⟨hNone, Local.trans ⟨hFds, hOpens.table,
      fun r _ => by rw [hOpens.heap]⟩ hStored⟩
  · rw [if_neg hSome] at hT₄
    refine .inr ⟨hSome, hClosed, ?_⟩
    have hReads : ∃ m, t₃.ReadsFrom fdR m := by
      have hPath' := (fits_ok hPath).2.1
      subst hPath'
      unfold slotPath at hOpen
      rw [List.append_assoc, List.append_assoc] at hOpen
      rcases openFile_readsFrom hOpen hSome with ⟨m, -, hR⟩
      exact ⟨m, hR⟩
    rcases hReads with ⟨m, hReads⟩
    rcases bind_eq_ok.mp hT₄ with ⟨reqPath, t₅, hReq, hT₅⟩
    have hSame := reads_readString _ _ _ _ hReq
    subst hSame
    rcases bind_eq_ok.mp hT₅ with ⟨fdW, t₆, hOpenW, hT₆⟩
    have hW := (openFile_ok hOpenW).readsFrom
      (hReads.of_fds hStored.fds)
    rcases bind_eq_ok.mp hT₆ with ⟨_, t₇, hStoreW, hT₇⟩
    have hStoredW :=
      LocalCmd.modifyUnix hOwn _ _ _ _ hStoreW
    have hRest : Local own t₇ s' := by
      by_cases hNoW : fdW = -1
      · rw [if_pos hNoW] at hT₇
        cases hT₇
        exact Local.refl _
      rw [if_neg hNoW] at hT₇
      cases hClient : afterPrefix unixLocalPath reqPath with
      | none =>
          simp only [hClient] at hT₇
          cases hT₇
          exact Local.refl _
      | some client =>
          simp only [hClient] at hT₇
          exact local_unixAcceptReply hNew hOwn _ _ _ _ _ _
            _ _ hT₇
    exact ⟨m, (hW.of_fds hStoredW.fds).of_fds hRest.fds⟩

/-
  An accept gets as far as opening a mailslot for the new
  connection.
-/
def unixAcceptOpens
    (env : UnixAcceptEnv)
    (d : LsckSocket)
    (s : Process) : Bool :=
  (env.memory.any fun q => (s.heap q).isNone) &&
    (d.idata.bind fun l => (s.heap l).bind Block.unix?).any
      fun usock =>
        (answer (readSlot env d.sockname usock.fdR) s).any
          (· != -1)

/-
  `__unix_accept` leaves everything but the new descriptor
  alone, or leaves a mailslot open for reading that was not
  open.
-/
theorem unixAccept_ok
    {env : UnixAcceptEnv}
    {p np : Ptr}
    {d nd : LsckSocket}
    {s s' : Process}
    {ret : Int}
    {l : Ptr}
    {u : LsckSocketUnix}
    (hListener : s.heap p = some (.socket d))
    (hData : d.idata = some l)
    (hUnix : s.heap l = some (.unix u))
    (hNew : s.heap np = some (.socket nd))
    (hRoom : sockaddrMaxSize ≤ nd.peernamelen)
    (hRun : unixAccept env p np s = .ok (ret, s')) :
    unixAcceptOpens env d s = false ∧
        Local (NewBlocks np s) s s' ∨
      unixAcceptOpens env d s = true ∧
        ∃ fd m, (s.fds fd).dosOpen = false ∧
          s'.ReadsFrom fd m := by
  have hNp : NewBlocks np s np := .inl rfl
  unfold unixAccept at hRun
  rw [run_bind_ok (derefSocket_run hListener)] at hRun
  rcases bind_eq_ok.mp hRun with ⟨q, t₁, hMalloc, hT₁⟩
  rcases bind_eq_ok.mp hT₁ with ⟨_, t₂, hHang, hT₂⟩
  rcases malloc_ok hMalloc with
    ⟨rfl, rfl⟩ | ⟨q, rfl, hMemory, hFree, rfl⟩
  · rw [if_pos rfl] at hT₂
    refine .inl ⟨?_, (LocalCmd.modifySocket hNp _ _ _ _
      hHang).trans (LocalCmd.fail _ _ _ _ hT₂)⟩
    simp [unixAcceptOpens, malloc_none hMalloc]
  rw [if_neg (by simp)] at hT₂
  have hOwn : ∀ r, some q = some r → NewBlocks np s r := by
    rintro r hR
    cases hR
    exact .inr hFree
  have hNpQ : np ≠ q := by
    rintro rfl
    rw [hFree] at hNew
    cases hNew
  have hOld : ¬ NewBlocks np s l := by
    rintro (hSame | hNone)
    · rw [hSame, hNew] at hUnix
      cases hUnix
    · rw [hNone] at hUnix
      cases hUnix
  have hGranted :
      (env.memory.any fun q => (s.heap q).isNone) = true := by
    simp [hMemory, hFree]
  rcases bind_eq_ok.mp hT₂ with ⟨_, t₃, hClear, hT₃⟩
  have hLocal : Local (NewBlocks np s) s t₃ :=
    ((Local.setBlock (.inr hFree) s _).trans
      (LocalCmd.modifySocket hNp _ _ _ _ hHang)).trans
      (LocalCmd.modifyUnix hOwn _ _ _ _ hClear)
  rcases modifySocket_ok hHang with ⟨e, hE, hStep₂⟩
  have hEq : nd = e := by
    simpa [hNpQ, hNew] using hE
  rw [← hEq] at hStep₂
  rcases modifyUnix_ok hClear with ⟨q', v, hQ', -, hStep₃⟩
  cases hQ'
  have hFiles : SameFiles t₃ s := by
    rw [hStep₃, hStep₂]
    exact ⟨rfl, rfl, rfl⟩
  have hThere : t₃.heap np =
      some (.socket { nd with idata := some q }) := by
    rw [hStep₃, hStep₂]
    simp [hNpQ]
  rw [run_bind_ok (derefSocket_run hThere),
    if_neg (by simpa using hRoom)] at hT₃
  rcases bind_eq_ok.mp hT₃ with ⟨usock, t₄, hRead, hT₄⟩
  have hUsock : t₄ = t₃ ∧ usock = u := by
    rcases deref_ok hRead with ⟨hSame, l', b, hL, hB, hKind⟩
    rw [hData] at hL
    cases hL
    rw [hLocal.heap l hOld, hUnix] at hB
    cases hB
    cases hKind
    exact ⟨hSame, rfl⟩
  rcases hUsock with ⟨rfl, rfl⟩
  rcases bind_eq_ok.mp hT₄ with ⟨taken, t₅, hTake, hT₅⟩
  have hLocal₅ := hLocal.trans
    (local_readFd _ _ _ _ _ _ hTake)
  have hAnswer : ∀ fdR t,
      readSlot env d.sockname usock.fdR t₄ = .ok (fdR, t) →
      unixAcceptOpens env d s = (fdR != -1) := by
    intro fdR t hSlot
    have hSame := (alike_readSlot env d.sockname
      usock.fdR).answer_eq hFiles
    rw [answer_of_run hSlot] at hSame
    simp [unixAcceptOpens, hGranted, hData, hUnix,
      Block.unix?, ← hSame]
  cases taken with
  | none =>
      cases hT₅
      have hSlot : readSlot env d.sockname usock.fdR t₄ =
          .ok (-1, s') := by
        unfold readSlot
        rw [run_bind_ok hTake]
        rfl
      exact .inl ⟨hAnswer _ _ hSlot, hLocal₅⟩
  | some ms =>
      rcases unixAcceptRequest_ok hNp hOwn hT₅ with
        ⟨fdR, t, hReq, hEnd⟩
      have hSlot : readSlot env d.sockname usock.fdR t₄ =
          .ok (fdR, t) := by
        unfold readSlot
        rw [run_bind_ok hTake]
        exact hReq
      rcases hEnd with ⟨rfl, hLast⟩ |
        ⟨hNe, hClosed, m, hReads⟩
      · exact .inl ⟨hAnswer _ _ hSlot, hLocal₅.trans hLast⟩
      · refine .inr ⟨?_, fdR, m, ?_, hReads⟩
        · rw [hAnswer _ _ hSlot]
          simpa using hNe
        · rw [← hLocal₅.fds]
          exact hClosed

end Libsocket
