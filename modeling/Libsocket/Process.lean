import Libsocket.Descriptor
import Libsocket.Library.Command
import Mathlib.Logic.Function.Basic

/-
  The state of a process that uses the library: its heap,
  the slot table, the file system extension map, and the
  mailslots of the machine as this process sees them.

  Main declarations:
    * `Process`
    * `Exec`
    * `malloc`, `free`
    * `allocFd`, `dosClose`
    * `freeSlot`
-/

namespace Libsocket

------------------------------------------------------------
-- Buffers
------------------------------------------------------------

/- A buffer after bytes have been stored at its start. -/
def overlay (buffer b : Bytes) : Bytes :=
  b.take buffer.length ++ buffer.drop b.length

@[simp] theorem length_overlay (buffer b : Bytes) :
    (overlay buffer b).length = buffer.length := by
  simp only [overlay, List.length_append, List.length_take,
    List.length_drop]
  omega

------------------------------------------------------------
-- State
------------------------------------------------------------

/- The file system extension handlers. -/
inductive Handler
  | lsckSocketFsext
  | mailslotHandler
deriving DecidableEq, Repr

/-
  `MAILSLOT_FSEXT`. The handle of a mailslot open for
  reading is the name it was created under; a mailslot open
  for writing has no handle.
-/
structure MailslotFsext where
  handle : Option Bytes
  name : Option Bytes
  blocking : Bool
  peeking : Bool
deriving DecidableEq, Repr

/- What an extension's data pointer points to. -/
inductive FsextData
  | lsd (p : Ptr)
  | mailslot (me : MailslotFsext)
deriving DecidableEq, Repr

/-
  One file descriptor: whether DOS holds it open, and the
  extension function and data recorded for it.
-/
structure FdEntry where
  dosOpen : Bool
  function : Option Handler
  data : Option FsextData
deriving DecidableEq, Repr

/- A descriptor number nobody uses. -/
def FdEntry.unused : FdEntry := ⟨false, none, none⟩

/- Heap blocks of the library. -/
inductive Block
  | socket (lsd : LsckSocket)
  | unix (usock : LsckSocketUnix)
  | csock (data : LsckSocketCsock)
  | wsock (data : LsckSocketWsock)
deriving DecidableEq, Repr

def Block.socket? : Block → Option LsckSocket
| .socket lsd => some lsd
| _ => none

def Block.unix? : Block → Option LsckSocketUnix
| .unix usock => some usock
| _ => none

def Block.csock? : Block → Option LsckSocketCsock
| .csock data => some data
| _ => none

def Block.wsock? : Block → Option LsckSocketWsock
| .wsock data => some data
| _ => none

/-
  `table` is `__lsck_socket`; its entries from index 256 on
  stand for the memory behind the array. `mail` holds the
  messages queued in each mailslot, `sent` every message
  this process has handed to the network, and `reportsNext`
  says whether a DOS mailslot read reports the length of the
  next queued message. `recvBuf` is the static packet buffer
  of `__unix_recv_stream`.
-/
structure Process where
  heap : Ptr → Option Block
  table : Nat → Option Ptr
  fds : Fd → FdEntry
  errno : Errno
  inited : Bool
  interfaces : List Interface
  pid : UInt32
  mail : Bytes → List Bytes
  sent : List (Bytes × Bytes)
  reportsNext : Bool
  recvBuf : Bytes

------------------------------------------------------------
-- Updates
------------------------------------------------------------

namespace Process

def setBlock
    (s : Process)
    (p : Ptr)
    (b : Option Block) : Process :=
  { s with heap := Function.update s.heap p b }

def setSlot
    (s : Process)
    (i : Nat)
    (p : Option Ptr) : Process :=
  { s with table := Function.update s.table i p }

def setEntry
    (s : Process)
    (fd : Fd)
    (entry : FdEntry) : Process :=
  { s with fds := Function.update s.fds fd entry }

/- The socket descriptor stored in a block. -/
def socket? (s : Process) (p : Ptr) : Option LsckSocket :=
  (s.heap p).bind Block.socket?

/- A live block. -/
def Live (s : Process) (p : Ptr) : Prop :=
  (s.heap p).isSome

section Projections

variable (s : Process)

@[simp] theorem heap_setBlock (p : Ptr) (b : Option Block) :
    (s.setBlock p b).heap =
      Function.update s.heap p b := rfl

@[simp] theorem table_setBlock (p : Ptr) (b : Option Block) :
    (s.setBlock p b).table = s.table := rfl

@[simp] theorem fds_setBlock (p : Ptr) (b : Option Block) :
    (s.setBlock p b).fds = s.fds := rfl

@[simp] theorem heap_setSlot (i : Nat) (p : Option Ptr) :
    (s.setSlot i p).heap = s.heap := rfl

@[simp] theorem table_setSlot (i : Nat) (p : Option Ptr) :
    (s.setSlot i p).table =
      Function.update s.table i p := rfl

@[simp] theorem fds_setSlot (i : Nat) (p : Option Ptr) :
    (s.setSlot i p).fds = s.fds := rfl

@[simp] theorem heap_setEntry (fd : Fd) (e : FdEntry) :
    (s.setEntry fd e).heap = s.heap := rfl

@[simp] theorem table_setEntry (fd : Fd) (e : FdEntry) :
    (s.setEntry fd e).table = s.table := rfl

@[simp] theorem fds_setEntry (fd : Fd) (e : FdEntry) :
    (s.setEntry fd e).fds =
      Function.update s.fds fd e := rfl

/- Later changes of one entry overwrite earlier ones. -/
@[simp] theorem setEntry_setEntry (fd : Fd) (e e' : FdEntry) :
    (s.setEntry fd e).setEntry fd e' = s.setEntry fd e' := by
  simp [setEntry]

end Projections

end Process

------------------------------------------------------------
-- Commands Of The Library
------------------------------------------------------------

/-
  Why a call does not return. `fault` is undefined
  behaviour, `blocked` a call that waits for ever, and
  `foreign` a call that reads or writes through a
  descriptor number that another kind of file has taken
  over; such a run is not followed further.
-/
inductive Stop
  | fault
  | blocked
  | foreign
deriving DecidableEq, Repr

abbrev Exec (α : Type) : Type := Command Stop Process α

open Command

def fault {α : Type} : Exec α := stop .fault

def setErrno (e : Errno) : Exec Unit :=
  modify fun s => { s with errno := e }

/- `errno = e; return (-1);` -/
def fail (e : Errno) : Exec Int := do
  setErrno e
  return -1

/- A call that succeeds has not taken the failing branch. -/
theorem ite_fail_ok
    {c : Prop}
    [Decidable c]
    {e : Errno}
    {m : Exec Int}
    {s s' : Process}
    {r : Int}
    (hRun : (if c then fail e else m) s = .ok (r, s'))
    (hSuccess : r ≠ -1) :
    ¬ c ∧ m s = .ok (r, s') := by
  by_cases hFail : c
  · rw [if_pos hFail] at hRun
    cases hRun
    exact absurd rfl hSuccess
  · rw [if_neg hFail] at hRun
    exact ⟨hFail, hRun⟩

theorem ite_return_ok
    {c : Prop}
    [Decidable c]
    {m : Exec Int}
    {s s' : Process}
    {r : Int}
    (hRun : (if c then pure (-1) else m) s = .ok (r, s'))
    (hSuccess : r ≠ -1) :
    ¬ c ∧ m s = .ok (r, s') := by
  by_cases hFail : c
  · rw [if_pos hFail] at hRun
    cases hRun
    exact absurd rfl hSuccess
  · rw [if_neg hFail] at hRun
    exact ⟨hFail, hRun⟩

------------------------------------------------------------
-- Heap
------------------------------------------------------------

/- Follow a pointer to a block of the expected kind. -/
def deref
    {α : Type}
    (kind : Block → Option α)
    (p : Option Ptr) : Exec α := do
  let s ← get
  match p.bind fun q => (s.heap q).bind kind with
  | some a => return a
  | none => fault

def derefSocket (p : Ptr) : Exec LsckSocket :=
  deref Block.socket? (some p)

def modifySocket
    (p : Ptr)
    (f : LsckSocket → LsckSocket) : Exec Unit := do
  let lsd ← derefSocket p
  modify fun s => s.setBlock p (some (.socket (f lsd)))

def modifyUnix
    (p : Option Ptr)
    (f : LsckSocketUnix → LsckSocketUnix) : Exec Unit := do
  let usock ← deref Block.unix? p
  match p with
  | some q =>
      modify fun s => s.setBlock q (some (.unix (f usock)))
  | none => fault

def modifyCsock
    (p : Option Ptr)
    (f : LsckSocketCsock → LsckSocketCsock) :
    Exec Unit := do
  let csock ← deref Block.csock? p
  match p with
  | some q =>
      modify fun s => s.setBlock q (some (.csock (f csock)))
  | none => fault

def modifyWsock
    (p : Option Ptr)
    (f : LsckSocketWsock → LsckSocketWsock) :
    Exec Unit := do
  let wsock ← deref Block.wsock? p
  match p with
  | some q =>
      modify fun s => s.setBlock q (some (.wsock (f wsock)))
  | none => fault

/-
  Store a peer's name and its length. A name longer than the
  field and its padding overruns the descriptor.
-/
def setPeername
    (p : Ptr)
    (name : Bytes)
    (namelen : Nat) : Exec Unit :=
  if name.length ≤ sockaddrMaxSize then
    modifySocket p fun lsd =>
      { lsd with
        peername := overlay lsd.peername name
        peernamelen := namelen }
  else
    fault

/-
  `malloc`: the environment proposes an address, or none
  when memory is out. A proposal that is in use is a
  failure too. `content` is what the new block holds.
-/
def malloc
    (address : Option Ptr)
    (content : Block) : Exec (Option Ptr) := do
  let s ← get
  match address with
  | none => return none
  | some p =>
      if (s.heap p).isSome then
        return none
      else do
        modify fun s => s.setBlock p (some content)
        return some p

/- Memory is out, or the block was free and is live now. -/
theorem malloc_ok
    {address q : Option Ptr}
    {content : Block}
    {s s' : Process}
    (hRun : malloc address content s = .ok (q, s')) :
    q = none ∧ s' = s ∨
      ∃ p, q = some p ∧ address = some p ∧
        s.heap p = none ∧
        s' = s.setBlock p (some content) := by
  unfold malloc at hRun
  rw [run_bind_ok (run_get s)] at hRun
  cases address with
  | none =>
      cases hRun
      exact .inl ⟨rfl, rfl⟩
  | some p =>
      by_cases hUsed : (s.heap p).isSome
      · simp only [if_pos hUsed] at hRun
        cases hRun
        exact .inl ⟨rfl, rfl⟩
      · simp only [if_neg hUsed] at hRun
        cases hRun
        exact .inr ⟨p, rfl, rfl, by simpa using hUsed, rfl⟩

/- Memory is out only without a proposal that is free. -/
theorem malloc_none
    {address : Option Ptr}
    {content : Block}
    {s s' : Process}
    (hRun : malloc address content s = .ok (none, s')) :
    (address.any fun p => (s.heap p).isNone) = false := by
  unfold malloc at hRun
  rw [run_bind_ok (run_get s)] at hRun
  cases address with
  | none => rfl
  | some p =>
      by_cases hUsed : (s.heap p).isSome
      · simpa [← Option.isSome_iff_ne_none] using hUsed
      · simp only [if_neg hUsed] at hRun
        cases hRun

/- `free`: a block that is not live must not be freed. -/
def free (p : Option Ptr) : Exec Unit := do
  let s ← get
  match p with
  | none => return ()
  | some q =>
      if (s.heap q).isSome then
        modify fun s => s.setBlock q none
      else
        fault

------------------------------------------------------------
-- File Descriptors
------------------------------------------------------------

/-
  `__FSEXT_alloc_fd`: the environment proposes a number, or
  none when DOS has no descriptor left.
-/
def allocFd
    (number : Option Fd)
    (function : Handler) : Exec Fd := do
  let s ← get
  match number with
  | none => return -1
  | some fd =>
      if 0 ≤ fd ∧ (s.fds fd).dosOpen = false then do
        modify fun s => s.setEntry fd
          { s.fds fd with
            dosOpen := true
            function := some function }
        return fd
      else
        return -1

/- An allocation fails, or takes a number that was free. -/
theorem allocFd_ok
    {number : Option Fd}
    {function : Handler}
    {s s' : Process}
    {fd : Fd}
    (hRun : allocFd number function s = .ok (fd, s')) :
    fd = -1 ∧ s' = s ∨
      number = some fd ∧ 0 ≤ fd ∧
        (s.fds fd).dosOpen = false ∧
        s' = s.setEntry fd
          { s.fds fd with
            dosOpen := true
            function := some function } := by
  unfold allocFd at hRun
  rw [run_bind_ok (run_get s)] at hRun
  cases number with
  | none =>
      cases hRun
      exact .inl ⟨rfl, rfl⟩
  | some n =>
      by_cases hFree : 0 ≤ n ∧ (s.fds n).dosOpen = false
      · simp only [if_pos hFree] at hRun
        cases hRun
        exact .inr ⟨rfl, hFree.1, hFree.2, rfl⟩
      · simp only [if_neg hFree] at hRun
        cases hRun
        exact .inl ⟨rfl, rfl⟩

/- `__FSEXT_set_function` -/
def setFunction
    (fd : Fd)
    (function : Option Handler) : Exec Unit :=
  modify fun s => s.setEntry fd
    { s.fds fd with function := function }

/- `__FSEXT_set_data` -/
def setData
    (fd : Fd)
    (data : Option FsextData) : Exec Unit :=
  modify fun s => s.setEntry fd
    { s.fds fd with data := data }

/- `_close` -/
def dosClose (fd : Fd) : Exec Unit :=
  modify fun s => s.setEntry fd
    { s.fds fd with dosOpen := false }

------------------------------------------------------------
-- Slots
------------------------------------------------------------

/-
  The search loop: it starts at slot `i` with `remaining`
  slots to go, and stops at the first empty one.
-/
def firstFree
    (table : Nat → Option Ptr) : Nat → Nat → Nat
| 0, i => i
| remaining + 1, i =>
    if (table i).isSome then
      firstFree table remaining (i + 1)
    else
      i

/- The slot `freelsd` that a new descriptor gets. -/
def freeSlot (table : Nat → Option Ptr) : Option Nat :=
  let i := firstFree table lsckNumSocket 0
  if i = lsckNumSocket - 1 ∧ (table i).isNone then
    some i
  else if i < lsckNumSocket then
    some i
  else
    none

theorem firstFree_spec
    (table : Nat → Option Ptr)
    (remaining i : Nat) :
    i ≤ firstFree table remaining i ∧
      firstFree table remaining i ≤ i + remaining ∧
      (firstFree table remaining i < i + remaining →
        table (firstFree table remaining i) = none) ∧
      ∀ j, i ≤ j → j < firstFree table remaining i →
        (table j).isSome := by
  induction remaining generalizing i with
  | zero =>
      refine ⟨Nat.le_refl i, Nat.le_refl i, ?_, ?_⟩
      · intro hLess
        simp [firstFree] at hLess
      · intro j hLow hHigh
        simp only [firstFree] at hHigh
        omega
  | succ remaining ih =>
      by_cases hTaken : (table i).isSome
      · have hStep :
            firstFree table (remaining + 1) i =
              firstFree table remaining (i + 1) := by
          simp [firstFree, hTaken]
        rcases ih (i + 1) with ⟨hLow, hHigh, hNone, hFull⟩
        rw [hStep]
        refine ⟨by omega, by omega, ?_, ?_⟩
        · intro hLess
          exact hNone (by omega)
        · intro j hj hLess
          by_cases hSame : j = i
          · exact hSame ▸ hTaken
          · exact hFull j (by omega) hLess
      · have hStep :
            firstFree table (remaining + 1) i = i := by
          simp [firstFree, hTaken]
        rw [hStep]
        refine ⟨Nat.le_refl i, by omega, ?_, ?_⟩
        · intro _
          simpa using hTaken
        · intro j hLow hHigh
          omega

/- A slot that is found lies in the table and is empty. -/
theorem freeSlot_eq_some
    {table : Nat → Option Ptr}
    {i : Nat}
    (hFound : freeSlot table = some i) :
    i < lsckNumSocket ∧ table i = none := by
  rcases firstFree_spec table lsckNumSocket 0 with
    ⟨-, -, hNone, -⟩
  rw [Nat.zero_add] at hNone
  simp only [freeSlot] at hFound
  split at hFound
  next hLast =>
      cases Option.some.inj hFound
      refine ⟨?_, by simpa using hLast.2⟩
      rw [hLast.1]
      decide
  next =>
      split at hFound
      next hLess =>
          cases Option.some.inj hFound
          exact ⟨hLess, hNone hLess⟩
      next => cases hFound

end Libsocket
