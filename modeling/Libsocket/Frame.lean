import Libsocket.Process
import Libsocket.Library.HandleTable

/-
  What most commands leave alone: the slot table, the socket
  descriptors, the kinds of the heap blocks, and the status
  of every socket.

  Main declarations:
    * `LsckSocket.status`
    * `FdsOk`
    * `Still`, `StillCmd`
-/

namespace Libsocket

open Command

------------------------------------------------------------
-- Status
------------------------------------------------------------

/-
  A descriptor without its names, its mode, its backlog and
  its owner process.
-/
def LsckSocket.status (lsd : LsckSocket) : LsckSocket :=
  { lsd with
    sockname := []
    socknamelen := 0
    peername := []
    peernamelen := 0
    blocking := false
    backlog := 0
    urgentPid := 0 }

/- What descriptors of one status have in common. -/
theorem LsckSocket.same_of_status
    {d d' : LsckSocket}
    (hStatus : d'.status = d.status) :
    d'.fd = d.fd ∧ d'.interface = d.interface ∧
      d'.idata = d.idata := by
  have hFd := congrArg LsckSocket.fd hStatus
  have hInterface := congrArg LsckSocket.interface hStatus
  have hData := congrArg LsckSocket.idata hStatus
  exact ⟨hFd, hInterface, hData⟩

/- The interface whose data a block holds. -/
def Block.kind : Block → Option Interface
| .socket _ => none
| .unix _ => some .unix
| .csock _ => some .csock
| .wsock _ => some .wsock

/- A block up to what a still command may change in it. -/
def Block.shape : Block → Block
| .socket lsd => .socket lsd.status
| .unix _ => .unix .cleared
| .csock _ => .csock ⟨0⟩
| .wsock _ => .wsock ⟨0, 0⟩

theorem Block.shape_eq_socket
    {b : Block}
    {lsd : LsckSocket}
    (hShape : b.shape = .socket lsd) :
    ∃ lsd', b = .socket lsd' ∧ lsd'.status = lsd := by
  cases b with
  | socket lsd' => exact ⟨lsd', rfl, by cases hShape; rfl⟩
  | unix _ => cases hShape
  | csock _ => cases hShape
  | wsock _ => cases hShape

theorem Block.kind_eq_of_shape
    {b b' : Block}
    (hShape : b'.shape = b.shape) :
    b'.kind = b.kind := by
  cases b <;> cases b' <;> first | rfl | cases hShape

------------------------------------------------------------
-- Descriptor Entries
------------------------------------------------------------

/-
  A number that DOS does not hold open has no extension
  function, and one without a function has no data.
-/
structure FdsOk (fds : Fd → FdEntry) : Prop where
  closed : ∀ fd, (fds fd).dosOpen = false →
    (fds fd).function = none
  plain : ∀ fd, (fds fd).function = none →
    (fds fd).data = none

theorem FdsOk.unused
    {fds : Fd → FdEntry}
    (hFds : FdsOk fds)
    {fd : Fd}
    (hClosed : (fds fd).dosOpen = false) :
    fds fd = FdEntry.unused := by
  have hFunction := hFds.closed fd hClosed
  have hData := hFds.plain fd hFunction
  rcases hEntry : fds fd with ⟨dosOpen, function, data⟩
  rw [hEntry] at hClosed hFunction hData
  simp_all [FdEntry.unused]

theorem FdsOk.update
    {fds : Fd → FdEntry}
    (hFds : FdsOk fds)
    {fd : Fd}
    {entry : FdEntry}
    (hClosed : entry.dosOpen = false →
      entry.function = none)
    (hPlain : entry.function = none → entry.data = none) :
    FdsOk (Function.update fds fd entry) := by
  constructor
  · intro fd'
    by_cases hSame : fd' = fd
    · subst hSame
      simpa using hClosed
    · simpa [hSame] using hFds.closed fd'
  · intro fd'
    by_cases hSame : fd' = fd
    · subst hSame
      simpa using hPlain
    · simpa [hSame] using hFds.plain fd'

------------------------------------------------------------
-- Still Commands
------------------------------------------------------------

/-
  The table, the socket descriptors and the shape of the
  heap are unchanged.
-/
structure Still (s s' : Process) : Prop where
  table : s'.table = s.table
  fdsOk : FdsOk s.fds → FdsOk s'.fds
  entry : FdsOk s.fds → ∀ fd,
    (s.fds fd).function = some .lsckSocketFsext ∨
      (s'.fds fd).function = some .lsckSocketFsext →
    s'.fds fd = s.fds fd
  heap : ∀ p,
    (s'.heap p).map Block.shape =
      (s.heap p).map Block.shape

namespace Still

theorem refl (s : Process) : Still s s :=
  ⟨rfl, id, fun _ _ _ => rfl, fun _ => rfl⟩

theorem trans
    {s t u : Process}
    (hLeft : Still s t)
    (hRight : Still t u) :
    Still s u := by
  refine ⟨hRight.table.trans hLeft.table,
    fun h => hRight.fdsOk (hLeft.fdsOk h), ?_, ?_⟩
  · intro hFds fd hEither
    have hFdsT := hLeft.fdsOk hFds
    rcases hEither with hS | hU
    · have hT := hLeft.entry hFds fd (.inl hS)
      exact (hRight.entry hFdsT fd
        (.inl (by rw [hT]; exact hS))).trans hT
    · have hT := hRight.entry hFdsT fd (.inr hU)
      exact hT.trans (hLeft.entry hFds fd
        (.inr (by rw [← hT]; exact hU)))
  · intro p
    exact (hRight.heap p).trans (hLeft.heap p)

theorem setErrno (s : Process) (e : Errno) :
    Still s { s with errno := e } :=
  ⟨rfl, id, fun _ _ _ => rfl, fun _ => rfl⟩

/- A socket keeps its status. -/
theorem socket
    {s s' : Process}
    (hStill : Still s s')
    {p : Ptr}
    {lsd : LsckSocket}
    (hSocket : s.heap p = some (.socket lsd)) :
    ∃ lsd', s'.heap p = some (.socket lsd') ∧
      lsd'.status = lsd.status := by
  have hShape := hStill.heap p
  rw [hSocket] at hShape
  cases hBlock : s'.heap p with
  | none => simp [hBlock] at hShape
  | some b =>
      have hSame : b.shape = (Block.socket lsd).shape := by
        simpa [hBlock] using hShape
      rcases Block.shape_eq_socket hSame with
        ⟨lsd', rfl, hStatus⟩
      exact ⟨lsd', rfl, hStatus⟩

/- What is a socket afterwards was one before. -/
theorem socket_back
    {s s' : Process}
    (hStill : Still s s')
    {p : Ptr}
    {lsd' : LsckSocket}
    (hSocket : s'.heap p = some (.socket lsd')) :
    ∃ lsd, s.heap p = some (.socket lsd) ∧
      lsd'.status = lsd.status := by
  have hShape := hStill.heap p
  rw [hSocket] at hShape
  cases hBlock : s.heap p with
  | none => simp [hBlock] at hShape
  | some b =>
      have hSame : b.shape = (Block.socket lsd').shape := by
        simpa [hBlock] using hShape.symm
      rcases Block.shape_eq_socket hSame with
        ⟨lsd, rfl, hStatus⟩
      exact ⟨lsd, rfl, hStatus.symm⟩

/- A block stays one of its kind. -/
theorem kind
    {s s' : Process}
    (hStill : Still s s')
    {p : Ptr}
    {b : Block}
    (hBlock : s.heap p = some b) :
    ∃ b', s'.heap p = some b' ∧ b'.kind = b.kind := by
  have hShape := hStill.heap p
  rw [hBlock] at hShape
  cases hNew : s'.heap p with
  | none => simp [hNew] at hShape
  | some b' =>
      have hSame : b'.shape = b.shape := by
        simpa [hNew] using hShape
      exact ⟨b', rfl, Block.kind_eq_of_shape hSame⟩

end Still

------------------------------------------------------------
-- Still Primitives
------------------------------------------------------------

/- A command that only moves the state along `Still`. -/
abbrev StillCmd {α : Type} (m : Exec α) : Prop :=
  Within Still m

namespace StillCmd

variable {α β : Type}

theorem pure (a : α) : StillCmd (pure a : Exec α) :=
  Within.pure Still.refl a

theorem bind
    {m : Exec α}
    {f : α → Exec β}
    (hFirst : StillCmd m)
    (hRest : ∀ a, StillCmd (f a)) :
    StillCmd (m >>= f) :=
  Within.bind (fun _ _ _ h₁ h₂ => h₁.trans h₂) hFirst
    hRest

theorem ite
    {c : Prop}
    [Decidable c]
    {m₁ m₂ : Exec α}
    (hThen : StillCmd m₁)
    (hElse : StillCmd m₂) :
    StillCmd (if c then m₁ else m₂) :=
  Within.ite hThen hElse

theorem when
    {c : Prop}
    [Decidable c]
    {m : Exec Unit}
    (hThen : StillCmd m) :
    StillCmd (when c m) :=
  ite hThen (pure ())

theorem stop (e : Stop) :
    StillCmd (stop e : Exec α) :=
  Within.stop e

theorem fault : StillCmd (fault : Exec α) :=
  stop _

theorem get : StillCmd (get : Exec Process) :=
  Within.get Still.refl

theorem get_bind
    {f : Process → Exec α}
    (hRest : ∀ s a s',
      f s s = .ok (a, s') → Still s s') :
    StillCmd (MonadState.get >>= f) :=
  Within.get_bind hRest

theorem modify
    {f : Process → Process}
    (hStill : ∀ s, Still s (f s)) :
    StillCmd (modify f : Exec Unit) :=
  Within.modify hStill

theorem setErrno (e : Errno) : StillCmd (setErrno e) :=
  modify fun s => Still.setErrno s e

theorem fail (e : Errno) : StillCmd (fail e) :=
  (setErrno e).bind fun _ => pure (-1)

end StillCmd

/- What a pointer leads to when following it succeeds. -/
theorem deref_ok
    {α : Type}
    {kind : Block → Option α}
    {p : Option Ptr}
    {s s' : Process}
    {a : α}
    (hRun : deref kind p s = .ok (a, s')) :
    s' = s ∧ ∃ q b, p = some q ∧ s.heap q = some b ∧
      kind b = some a := by
  unfold deref at hRun
  rcases bind_eq_ok.mp hRun with ⟨t, t', hGet, hRest⟩
  cases hGet
  cases hFound : p.bind fun q => (s.heap q).bind kind with
  | none =>
      rw [hFound] at hRest
      cases hRest
  | some b =>
      rw [hFound] at hRest
      cases hRest
      rcases Option.bind_eq_some_iff.mp hFound with
        ⟨q, hP, hBlock⟩
      rcases Option.bind_eq_some_iff.mp hBlock with
        ⟨c, hC, hKind⟩
      exact ⟨rfl, q, c, hP, hC, hKind⟩

theorem reads_deref
    {α : Type}
    (kind : Block → Option α)
    (p : Option Ptr) :
    Reads (deref kind p) :=
  fun _ _ _ hRun => (deref_ok hRun).1

theorem reads_derefSocket (p : Ptr) :
    Reads (derefSocket p) :=
  reads_deref _ _

theorem StillCmd.deref
    {α : Type}
    (kind : Block → Option α)
    (p : Option Ptr) :
    StillCmd (deref kind p) :=
  (reads_deref kind p).within Still.refl

theorem StillCmd.derefSocket (p : Ptr) :
    StillCmd (derefSocket p) :=
  (reads_derefSocket p).within Still.refl

/- The descriptor behind a pointer. -/
theorem derefSocket_ok
    {p : Ptr}
    {s s' : Process}
    {lsd : LsckSocket}
    (hRun : derefSocket p s = .ok (lsd, s')) :
    s' = s ∧ s.heap p = some (.socket lsd) := by
  rcases deref_ok hRun with ⟨hSame, q, b, hP, hB, hKind⟩
  cases hP
  cases b with
  | socket d =>
      cases hKind
      exact ⟨hSame, hB⟩
  | unix _ => cases hKind
  | csock _ => cases hKind
  | wsock _ => cases hKind

theorem derefSocket_run
    {p : Ptr}
    {s : Process}
    {lsd : LsckSocket}
    (hSocket : s.heap p = some (.socket lsd)) :
    derefSocket p s = .ok (lsd, s) := by
  simp [derefSocket, deref, run_bind, hSocket, Block.socket?]

/- Changing a descriptor changes only its block. -/
theorem modifySocket_ok
    {p : Ptr}
    {f : LsckSocket → LsckSocket}
    {s s' : Process}
    (hRun : modifySocket p f s = .ok ((), s')) :
    ∃ lsd, s.heap p = some (.socket lsd) ∧
      s' = s.setBlock p (some (.socket (f lsd))) := by
  rcases bind_eq_ok.mp hRun with ⟨lsd, t, hRead, hWrite⟩
  rcases derefSocket_ok hRead with ⟨rfl, hSocket⟩
  cases hWrite
  exact ⟨lsd, hSocket, rfl⟩

theorem modifySocket_run
    {p : Ptr}
    {f : LsckSocket → LsckSocket}
    {s : Process}
    {lsd : LsckSocket}
    (hSocket : s.heap p = some (.socket lsd)) :
    modifySocket p f s =
      .ok ((), s.setBlock p (some (.socket (f lsd)))) := by
  unfold modifySocket
  rw [run_bind_ok (derefSocket_run hSocket)]
  rfl

/- Changing interface data changes only its block. -/
theorem modifyUnix_ok
    {p : Option Ptr}
    {f : LsckSocketUnix → LsckSocketUnix}
    {s s' : Process}
    (hRun : modifyUnix p f s = .ok ((), s')) :
    ∃ q usock, p = some q ∧
      s.heap q = some (.unix usock) ∧
      s' = s.setBlock q (some (.unix (f usock))) := by
  rcases bind_eq_ok.mp hRun with ⟨usock, t, hRead, hWrite⟩
  rcases deref_ok hRead with ⟨rfl, q, b, rfl, hB, hKind⟩
  cases hWrite
  cases b <;> cases hKind
  exact ⟨q, usock, rfl, hB, rfl⟩

/- The data at a pointer is found. -/
theorem derefUnixAt_run
    {s : Process}
    {q : Ptr}
    {usock : LsckSocketUnix}
    (hData : s.heap q = some (.unix usock)) :
    deref Block.unix? (some q) s = .ok (usock, s) := by
  unfold deref
  rw [run_bind_ok (run_get s), Option.bind_some, hData]
  rfl

theorem modifyUnix_run
    {q : Ptr}
    {usock : LsckSocketUnix}
    {s : Process}
    (hData : s.heap q = some (.unix usock))
    (f : LsckSocketUnix → LsckSocketUnix) :
    modifyUnix (some q) f s =
      .ok ((), s.setBlock q (some (.unix (f usock)))) := by
  simp [modifyUnix, deref, run_bind, hData, Block.unix?]

theorem modifyCsock_ok
    {p : Option Ptr}
    {f : LsckSocketCsock → LsckSocketCsock}
    {s s' : Process}
    (hRun : modifyCsock p f s = .ok ((), s')) :
    ∃ q csock, p = some q ∧
      s.heap q = some (.csock csock) ∧
      s' = s.setBlock q (some (.csock (f csock))) := by
  rcases bind_eq_ok.mp hRun with ⟨csock, t, hRead, hWrite⟩
  rcases deref_ok hRead with ⟨rfl, q, b, rfl, hB, hKind⟩
  cases hWrite
  cases b <;> cases hKind
  exact ⟨q, csock, rfl, hB, rfl⟩

theorem modifyWsock_ok
    {p : Option Ptr}
    {f : LsckSocketWsock → LsckSocketWsock}
    {s s' : Process}
    (hRun : modifyWsock p f s = .ok ((), s')) :
    ∃ q wsock, p = some q ∧
      s.heap q = some (.wsock wsock) ∧
      s' = s.setBlock q (some (.wsock (f wsock))) := by
  rcases bind_eq_ok.mp hRun with ⟨wsock, t, hRead, hWrite⟩
  rcases deref_ok hRead with ⟨rfl, q, b, rfl, hB, hKind⟩
  cases hWrite
  cases b <;> cases hKind
  exact ⟨q, wsock, rfl, hB, rfl⟩

/- What freeing a block does when it succeeds. -/
theorem free_ok
    {p : Option Ptr}
    {s s' : Process}
    (hRun : free p s = .ok ((), s')) :
    p = none ∧ s' = s ∨
      ∃ q, p = some q ∧ s' = s.setBlock q none := by
  unfold free at hRun
  rw [run_bind_ok (run_get s)] at hRun
  cases p with
  | none =>
      cases hRun
      exact .inl ⟨rfl, rfl⟩
  | some q =>
      by_cases hLive : (s.heap q).isSome
      · simp only [if_pos hLive] at hRun
        cases hRun
        exact .inr ⟨q, rfl, rfl⟩
      · simp only [if_neg hLive] at hRun
        cases hRun

/- Replacing a block by one of the same shape. -/
theorem Still.setBlock
    {s : Process}
    {p : Ptr}
    {b b' : Block}
    (hBlock : s.heap p = some b)
    (hShape : b'.shape = b.shape) :
    Still s (s.setBlock p (some b')) := by
  refine ⟨rfl, id, fun _ _ _ => rfl, ?_⟩
  intro q
  by_cases hSame : q = p
  · subst hSame
    simp [hBlock, hShape]
  · simp [hSame]

/- Replacing an entry that has nothing to do with sockets. -/
theorem Still.setEntry
    {s : Process}
    {fd : Fd}
    {entry : FdEntry}
    (hOld : FdsOk s.fds →
      (s.fds fd).function ≠ some .lsckSocketFsext)
    (hNew : FdsOk s.fds →
      entry.function ≠ some .lsckSocketFsext)
    (hClosed : FdsOk s.fds → entry.dosOpen = false →
      entry.function = none)
    (hPlain : FdsOk s.fds → entry.function = none →
      entry.data = none) :
    Still s (s.setEntry fd entry) := by
  refine ⟨rfl, ?_, ?_, fun _ => rfl⟩
  · intro hFds
    exact hFds.update (hClosed hFds) (hPlain hFds)
  · intro hFds fd' hEither
    by_cases hSame : fd' = fd
    · subst hSame
      rcases hEither with h | h
      · exact absurd h (hOld hFds)
      · exact absurd (by simpa using h) (hNew hFds)
    · simp [hSame]

namespace StillCmd

/- A change that keeps the status is still. -/
theorem modifySocket
    {p : Ptr}
    {f : LsckSocket → LsckSocket}
    (hStatus : ∀ lsd, (f lsd).status = lsd.status) :
    StillCmd (modifySocket p f) := by
  intro s a s' hRun
  rcases modifySocket_ok hRun with ⟨lsd, hSocket, rfl⟩
  exact Still.setBlock hSocket
    (by simp [Block.shape, hStatus])

theorem setPeername
    (p : Ptr)
    (name : Bytes)
    (namelen : Nat) :
    StillCmd (setPeername p name namelen) :=
  ite (modifySocket fun _ => rfl) fault

theorem modifyUnix
    (p : Option Ptr)
    (f : LsckSocketUnix → LsckSocketUnix) :
    StillCmd (modifyUnix p f) := by
  intro s a s' hRun
  rcases modifyUnix_ok hRun with ⟨q, usock, -, hB, rfl⟩
  exact Still.setBlock hB rfl

theorem modifyCsock
    (p : Option Ptr)
    (f : LsckSocketCsock → LsckSocketCsock) :
    StillCmd (modifyCsock p f) := by
  intro s a s' hRun
  rcases modifyCsock_ok hRun with ⟨q, csock, -, hB, rfl⟩
  exact Still.setBlock hB rfl

theorem modifyWsock
    (p : Option Ptr)
    (f : LsckSocketWsock → LsckSocketWsock) :
    StillCmd (modifyWsock p f) := by
  intro s a s' hRun
  rcases modifyWsock_ok hRun with ⟨q, wsock, -, hB, rfl⟩
  exact Still.setBlock hB rfl

end StillCmd

end Libsocket
