import Libsocket.Core.HalfClose
import Libsocket.Footprint

/-
  What the calls may make of the blocks that exist: socket
  descriptors and the data of their interfaces. The relation
  between a block and what has become of it is a parameter,
  and so are the blocks that are left out.

  Main declarations:
    * `Tolerates`
    * `Changes`, `ChangesCmd`
    * `changes_closeFd`
    * `changes_bind`, `changes_unixConnect`
    * `changes_sendto`, `changes_recv`
-/

namespace Libsocket

open Command

------------------------------------------------------------
-- Relations Between Blocks
------------------------------------------------------------

/-
  A relation that does not mind what most calls may do: to a
  descriptor, store a peer's name, change the mode, attach
  data, complete a pending connect, listen and shut down; to
  the data of a Unix socket, all that leaves its secret alone.
-/
class Tolerates
    (A : Block → Block → Prop) : Prop where
  refl : ∀ b, A b b
  trans : ∀ {b b' b''}, A b b' → A b' b'' → A b b''
  peer : ∀ d name n, A (.socket d)
    (.socket { d with peername := name, peernamelen := n })
  mode : ∀ d blocking,
    A (.socket d) (.socket { d with blocking := blocking })
  data : ∀ d q, A (.socket d) (.socket { d with idata := q })
  check : ∀ d writable,
    A (.socket d) (.socket (d.checked writable))
  listen : ∀ d backlog, A (.socket d) (.socket
    { d with listening := true, backlog := backlog })
  shut : ∀ d how, A (.socket d) (.socket (d.shut how))
  wsock : ∀ x y, A (.wsock x) (.wsock y)
  csock : ∀ x y, A (.csock x) (.csock y)
  unix : ∀ x y, y.secret = x.secret → A (.unix x) (.unix y)

/-
  Outside the blocks that are owned, every block that is
  left comes from an earlier one by `A`.
-/
def Changes
    (own : Ptr → Prop)
    (A : Block → Block → Prop)
    (s s' : Process) : Prop :=
  ∀ p b', ¬ own p → s'.heap p = some b' →
    ∃ b, s.heap p = some b ∧ A b b'

namespace Changes

variable {own : Ptr → Prop}
variable {A : Block → Block → Prop} [Tolerates A]
variable {s t u : Process}

theorem of_heap (hHeap : t.heap = s.heap) :
    Changes own A s t := by
  intro p b' _ hBlock'
  rw [hHeap] at hBlock'
  exact ⟨b', hBlock', Tolerates.refl b'⟩

theorem refl (s : Process) : Changes own A s s :=
  of_heap rfl

theorem trans
    (hLeft : Changes own A s t)
    (hRight : Changes own A t u) :
    Changes own A s u := by
  intro p b'' hNot hBlock''
  rcases hRight p b'' hNot hBlock'' with ⟨b', hBlock', hA'⟩
  rcases hLeft p b' hNot hBlock' with ⟨b, hBlock, hA⟩
  exact ⟨b, hBlock, Tolerates.trans hA hA'⟩

theorem of_local (hLocal : Local own s t) :
    Changes own A s t := by
  intro p b' hNot hBlock'
  rw [hLocal.heap p hNot] at hBlock'
  exact ⟨b', hBlock', Tolerates.refl b'⟩

/- A block that is stored, freed or new. -/
theorem setBlock
    {q : Ptr}
    {content : Option Block}
    (hA : ¬ own q → ∀ b', content = some b' →
      ∃ b, s.heap q = some b ∧ A b b') :
    Changes own A s (s.setBlock q content) := by
  intro p b' hNot hBlock'
  by_cases hSame : p = q
  · subst hSame
    rw [Process.heap_setBlock, Function.update_self]
      at hBlock'
    exact hA hNot b' hBlock'
  · rw [Process.heap_setBlock, Function.update_of_ne hSame]
      at hBlock'
    exact ⟨b', hBlock', Tolerates.refl b'⟩

theorem store
    {q : Ptr}
    {b b' : Block}
    (hBlock : s.heap q = some b)
    (hA : ¬ own q → A b b') :
    Changes own A s (s.setBlock q (some b')) := by
  apply setBlock
  intro hNot c hC
  cases hC
  exact ⟨b, hBlock, hA hNot⟩

theorem free (q : Ptr) :
    Changes own A s (s.setBlock q none) := by
  apply setBlock
  intro _ b' hNone
  cases hNone

/- What is new lies in a block that is owned. -/
theorem malloc
    {address q : Option Ptr}
    {content : Block}
    (hOwn : ∀ r, s.heap r = none → own r)
    (hRun : malloc address content s = .ok (q, t)) :
    Changes own A s t ∧ ∀ r, q = some r → own r := by
  rcases malloc_ok hRun with
    ⟨rfl, rfl⟩ | ⟨r, rfl, -, hFree, rfl⟩
  · constructor
    · exact .refl _
    · intro r hR
      cases hR
  · constructor
    · apply setBlock
      intro hNot
      exact absurd (hOwn r hFree) hNot
    · intro r' hR
      cases hR
      exact hOwn r hFree

/- A new socket in a block that is owned. -/
theorem create
    {q : Ptr}
    {slot : Nat}
    {d : LsckSocket}
    (hOwn : own q) :
    Changes own A s (s.withSocket slot q d) := by
  intro p b hNot hBlock
  have hNe : p ≠ q := by
    rintro rfl
    exact hNot hOwn
  rw [Reserved.heap_withSocket, Function.update_of_ne hNe]
    at hBlock
  exact ⟨b, hBlock, Tolerates.refl b⟩

theorem check
    {q : Ptr}
    {d : LsckSocket}
    (hSocket : s.heap q = some (.socket d))
    (writable : Bool) :
    Changes own A s (s.check q d writable) :=
  store hSocket fun _ => Tolerates.check d writable

end Changes

/-
  A descriptor may get another name and another `bound` flag:
  its block is owned, or the relation does not mind.
-/
def MayName
    (own : Ptr → Prop)
    (A : Block → Block → Prop)
    (p : Ptr) : Prop :=
  own p ∨ ∀ d name n bound, A (.socket d) (.socket
    { d with
      sockname := name
      socknamelen := n
      bound := bound })

------------------------------------------------------------
-- Commands
------------------------------------------------------------

/- A command after which the blocks are related by `A`. -/
abbrev ChangesCmd
    {α : Type}
    (own : Ptr → Prop)
    (A : Block → Block → Prop)
    (m : Exec α) : Prop :=
  Within (Changes own A) m

namespace ChangesCmd

variable {α β : Type} {own : Ptr → Prop}
variable {A : Block → Block → Prop} [Tolerates A]

theorem pure (a : α) :
    ChangesCmd own A (pure a : Exec α) :=
  Within.pure Changes.refl a

theorem bind
    {m : Exec α}
    {f : α → Exec β}
    (hFirst : ChangesCmd own A m)
    (hRest : ∀ a, ChangesCmd own A (f a)) :
    ChangesCmd own A (m >>= f) :=
  Within.bind (fun _ _ _ h₁ h₂ => h₁.trans h₂) hFirst hRest

omit [Tolerates A] in
theorem ite
    {c : Prop}
    [Decidable c]
    {m₁ m₂ : Exec α}
    (hThen : ChangesCmd own A m₁)
    (hElse : ChangesCmd own A m₂) :
    ChangesCmd own A (if c then m₁ else m₂) :=
  Within.ite hThen hElse

theorem when
    {c : Prop}
    [Decidable c]
    {m : Exec Unit}
    (hThen : ChangesCmd own A m) :
    ChangesCmd own A (when c m) :=
  ite hThen (pure ())

omit [Tolerates A] in
theorem stop (e : Stop) :
    ChangesCmd own A (stop e : Exec α) :=
  Within.stop e

theorem get : ChangesCmd own A (get : Exec Process) :=
  Within.get Changes.refl

theorem read
    {m : Exec α}
    (hReads : Reads m) :
    ChangesCmd own A m :=
  hReads.within Changes.refl

theorem of_local
    {m : Exec α}
    (hLocal : LocalCmd own m) :
    ChangesCmd own A m :=
  fun s a s' hRun => .of_local (hLocal s a s' hRun)

theorem modify
    {f : Process → Process}
    (hHeap : ∀ s, (f s).heap = s.heap) :
    ChangesCmd own A (modify f : Exec Unit) :=
  Within.modify fun s => .of_heap (hHeap s)

theorem setErrno (e : Errno) :
    ChangesCmd own A (setErrno e) :=
  modify fun _ => rfl

theorem fail (e : Errno) : ChangesCmd own A (fail e) :=
  (setErrno e).bind fun _ => pure (-1)

theorem deref
    {γ : Type}
    (kind : Block → Option γ)
    (q : Option Ptr) :
    ChangesCmd own A (deref kind q) :=
  read (reads_deref kind q)

theorem derefSocket (p : Ptr) :
    ChangesCmd own A (derefSocket p) :=
  read (reads_derefSocket p)

theorem modifySocket
    {p : Ptr}
    {f : LsckSocket → LsckSocket}
    (hA : ¬ own p → ∀ d, A (.socket d) (.socket (f d))) :
    ChangesCmd own A (modifySocket p f) := by
  intro s a s' hRun
  rcases modifySocket_ok hRun with ⟨d, hSocket, rfl⟩
  exact .store hSocket fun hNot => hA hNot d

theorem nameSocket
    {p : Ptr}
    {f : LsckSocket → LsckSocket}
    (hName : MayName own A p)
    (hSet : ∀ d, ∃ name n bound, f d =
      { d with
        sockname := name
        socknamelen := n
        bound := bound }) :
    ChangesCmd own A (Libsocket.modifySocket p f) := by
  apply modifySocket
  intro hNot d
  rcases hName with hOwn | hAny
  · exact absurd hOwn hNot
  · rcases hSet d with ⟨name, n, bound, hF⟩
    rw [hF]
    exact hAny d name n bound

theorem setPeername
    (p : Ptr)
    (name : Bytes)
    (namelen : Nat) :
    ChangesCmd own A (setPeername p name namelen) :=
  ite (modifySocket fun _ d => Tolerates.peer d _ _)
    (stop _)

theorem modifyUnix
    {q : Option Ptr}
    {f : LsckSocketUnix → LsckSocketUnix}
    (hSecret : ∀ x, (f x).secret = x.secret) :
    ChangesCmd own A (modifyUnix q f) := by
  intro s a s' hRun
  rcases modifyUnix_ok hRun with ⟨r, usock, -, hUnix, rfl⟩
  exact .store hUnix
    fun _ => Tolerates.unix usock _ (hSecret usock)

/- The secret changes only in a block that is owned. -/
theorem modifyOwnUnix
    {q : Option Ptr}
    (hOwn : ∀ r, q = some r → own r)
    (f : LsckSocketUnix → LsckSocketUnix) :
    ChangesCmd own A (Libsocket.modifyUnix q f) := by
  intro s a s' hRun
  rcases modifyUnix_ok hRun with ⟨r, usock, hR, hUnix, rfl⟩
  exact .store hUnix fun hNot => absurd (hOwn r hR) hNot

theorem modifyCsock
    (q : Option Ptr)
    (f : LsckSocketCsock → LsckSocketCsock) :
    ChangesCmd own A (modifyCsock q f) := by
  intro s a s' hRun
  rcases modifyCsock_ok hRun with ⟨r, csock, -, hCsock, rfl⟩
  exact .store hCsock fun _ => Tolerates.csock _ _

theorem modifyWsock
    (q : Option Ptr)
    (f : LsckSocketWsock → LsckSocketWsock) :
    ChangesCmd own A (modifyWsock q f) := by
  intro s a s' hRun
  rcases modifyWsock_ok hRun with ⟨r, wsock, -, hWsock, rfl⟩
  exact .store hWsock fun _ => Tolerates.wsock _ _

theorem free (q : Option Ptr) : ChangesCmd own A (free q) := by
  intro s a s' hRun
  rcases free_ok hRun with ⟨-, rfl⟩ | ⟨r, -, rfl⟩
  · exact .refl _
  · exact .free r

theorem refuseOr
    {refusal : Option Errno}
    {m : Exec Int}
    (hRest : ChangesCmd own A m) :
    ChangesCmd own A (refuseOr refusal m) := by
  cases refusal with
  | none => exact hRest
  | some e => exact fail e

end ChangesCmd

------------------------------------------------------------
-- Files And Drivers
------------------------------------------------------------

section Callbacks

variable {own : Ptr → Prop}
variable {A : Block → Block → Prop} [Tolerates A]

theorem changes_openFile
    (env : OpenEnv)
    (path : Bytes)
    (mode : OpenMode) :
    ChangesCmd own A (openFile env path mode) :=
  fun _ _ _ hRun => .of_heap (openFile_ok hRun).heap

theorem changes_setFunction
    (fd : Fd)
    (function : Option Handler) :
    ChangesCmd own A (setFunction fd function) :=
  ChangesCmd.modify fun _ => rfl

theorem changes_setData
    (fd : Fd)
    (data : Option FsextData) :
    ChangesCmd own A (setData fd data) :=
  ChangesCmd.modify fun _ => rfl

theorem changes_dosClose (fd : Fd) :
    ChangesCmd own A (dosClose fd) :=
  ChangesCmd.modify fun _ => rfl

theorem changes_setMail (name : Bytes) (queue : List Bytes) :
    ChangesCmd own A
      (modify fun s => s.setMail name queue : Exec Unit) :=
  ChangesCmd.modify fun _ => rfl

theorem changes_setSlot (i : Nat) (p : Option Ptr) :
    ChangesCmd own A
      (modify fun s => s.setSlot i p : Exec Unit) :=
  ChangesCmd.modify fun _ => rfl

theorem changes_readFd (env : ReadEnv) (fd : Fd) :
    ChangesCmd own A (readFd env fd) :=
  .of_local (local_readFd own env fd)

theorem changes_writeFd
    (env : WriteEnv)
    (fd : Fd)
    (message : Bytes) :
    ChangesCmd own A (writeFd env fd message) :=
  .of_local (local_writeFd own env fd message)

theorem changes_modifyMailslot
    (fd : Fd)
    (f : MailslotFsext → MailslotFsext) :
    ChangesCmd own A (modifyMailslot fd f) := by
  unfold modifyMailslot
  apply ChangesCmd.get.bind
  intro s
  split
  · exact ChangesCmd.setErrno _
  · exact ChangesCmd.stop _
  split
  · exact ChangesCmd.setErrno _
  · exact ChangesCmd.stop _
  · exact ChangesCmd.modify fun _ => rfl

theorem changes_fcntlNonblock (fd : Fd) :
    ChangesCmd own A (fcntlNonblock fd) :=
  (changes_modifyMailslot fd _).bind
    fun _ => ChangesCmd.pure _

theorem changes_readPacket
    (env : ReadEnv)
    (peek : Bool)
    (fd : Fd) :
    ChangesCmd own A (readPacket env peek fd) := by
  apply (ChangesCmd.when (changes_modifyMailslot _ _)).bind
  intro _
  apply (changes_readFd _ _).bind
  intro taken
  exact (ChangesCmd.when (changes_modifyMailslot _ _)).bind
    fun _ => ChangesCmd.pure _

theorem changes_callVxd (code : UInt16) :
    ChangesCmd own A (callVxd code) :=
  .of_local (local_callVxd own code)

theorem changes_failCsock (ret : Int) :
    ChangesCmd own A (failCsock ret) :=
  .of_local (local_failCsock own ret)

theorem changes_wsockSelectWait (code : UInt16) :
    ChangesCmd own A (wsockSelectWait code) :=
  .of_local (local_wsockSelectWait own code)

theorem changes_wsockIoctl
    (env : WsockIoctlEnv)
    (p : Ptr)
    (param : Int) :
    ChangesCmd own A (wsockIoctl env p param) := by
  apply (ChangesCmd.derefSocket p).bind
  intro lsd
  apply (ChangesCmd.deref _ _).bind
  intro _
  apply (changes_callVxd _).bind
  intro _
  apply ChangesCmd.ite (ChangesCmd.pure _)
  apply (ChangesCmd.modifySocket
    fun _ d => Tolerates.mode d _).bind
  exact fun _ => ChangesCmd.pure _

theorem changes_wsockSimple (p : Ptr) (code : UInt16) :
    ChangesCmd own A (wsockSimple p code) := by
  apply (ChangesCmd.derefSocket p).bind
  intro lsd
  apply (ChangesCmd.deref _ _).bind
  intro _
  apply (changes_callVxd _).bind
  intro _
  exact ChangesCmd.ite (ChangesCmd.pure _)
    (ChangesCmd.pure _)

theorem changes_wsockClose (p : Ptr) (code : UInt16) :
    ChangesCmd own A (wsockClose p code) := by
  apply (ChangesCmd.derefSocket p).bind
  intro lsd
  apply (ChangesCmd.deref _ _).bind
  intro _
  apply (changes_callVxd _).bind
  intro _
  apply ChangesCmd.ite (ChangesCmd.pure _)
  exact (ChangesCmd.modifyWsock _ _).bind
    fun _ => ChangesCmd.pure _

theorem changes_wsockConnect
    (env : WsockConnectEnv)
    (p : Ptr) :
    ChangesCmd own A (wsockConnect env p) := by
  apply (ChangesCmd.derefSocket p).bind
  intro lsd
  apply (ChangesCmd.deref _ _).bind
  intro _
  apply ChangesCmd.ite
  · apply (changes_wsockIoctl _ _ _).bind
    intro flip
    apply (changes_callVxd _).bind
    intro _
    apply ChangesCmd.get.bind
    intro s
    apply ChangesCmd.ite
    · exact (changes_wsockIoctl _ _ _).bind
        fun _ => ChangesCmd.pure _
    · apply (changes_wsockSelectWait _).bind
      intro _
      exact (changes_wsockIoctl _ _ _).bind
        fun _ => ChangesCmd.pure _
  · apply (changes_callVxd _).bind
    intro _
    exact ChangesCmd.ite (ChangesCmd.pure _)
      (ChangesCmd.pure _)

theorem changes_csockIoctl
    (answer : Int)
    (p : Ptr)
    (param : Int) :
    ChangesCmd own A (csockIoctl answer p param) := by
  apply (ChangesCmd.derefSocket p).bind
  intro lsd
  apply (ChangesCmd.deref _ _).bind
  intro _
  apply ChangesCmd.ite (changes_failCsock _)
  apply (ChangesCmd.modifySocket
    fun _ d => Tolerates.mode d _).bind
  exact fun _ => ChangesCmd.pure _

theorem changes_csockSimple (p : Ptr) (answer : Int) :
    ChangesCmd own A (csockSimple p answer) := by
  apply (ChangesCmd.derefSocket p).bind
  intro lsd
  apply (ChangesCmd.deref _ _).bind
  intro _
  exact ChangesCmd.ite (changes_failCsock _)
    (ChangesCmd.pure _)

theorem changes_csockConnect (p : Ptr) (answer : Int) :
    ChangesCmd own A (csockConnect p answer) := by
  apply (ChangesCmd.derefSocket p).bind
  intro lsd
  exact ChangesCmd.ite (ChangesCmd.fail _)
    (changes_csockSimple p answer)

------------------------------------------------------------
-- Names
------------------------------------------------------------

theorem changes_csockName
    (env : NameEnv)
    (p : Ptr)
    (namelen : Nat) :
    ChangesCmd own A (csockName env p namelen) := by
  apply (ChangesCmd.derefSocket p).bind
  intro lsd
  apply (ChangesCmd.deref _ _).bind
  intro _
  apply ChangesCmd.ite
  · exact (ChangesCmd.setErrno _).bind
      fun _ => ChangesCmd.pure _
  apply ChangesCmd.ite _ (ChangesCmd.pure _)
  exact (changes_failCsock _).bind
    fun _ => ChangesCmd.pure _

theorem changes_wsockName
    (env : NameEnv)
    (p : Ptr)
    (namelen : Nat) :
    ChangesCmd own A (wsockName env p namelen) := by
  apply (ChangesCmd.derefSocket p).bind
  intro lsd
  apply (ChangesCmd.deref _ _).bind
  intro _
  apply ChangesCmd.ite
  · exact (ChangesCmd.setErrno _).bind
      fun _ => ChangesCmd.pure _
  apply (changes_callVxd _).bind
  intro _
  exact ChangesCmd.ite (ChangesCmd.pure _)
    (ChangesCmd.pure _)

theorem changes_nameOf
    (junk : SunJunk)
    (path : Bytes)
    (namelen : Nat) :
    ChangesCmd own A (nameOf junk path namelen) := by
  apply (ChangesCmd.read (reads_readString _)).bind
  intro text
  exact (ChangesCmd.read (reads_copyInto _ _)).bind
    fun _ => ChangesCmd.pure _

theorem changes_interfaceGetsockname
    (i : Interface)
    (env : NameEnv)
    (p : Ptr)
    (namelen : Nat) :
    ChangesCmd own A
      (interfaceGetsockname i env p namelen) := by
  cases i with
  | wsock => exact changes_wsockName env p namelen
  | csock => exact changes_csockName env p namelen
  | unix =>
      apply ChangesCmd.bind _ fun _ => ChangesCmd.pure _
      apply (ChangesCmd.derefSocket p).bind
      intro lsd
      exact (ChangesCmd.deref _ _).bind
        fun _ => changes_nameOf _ _ _

theorem changes_unixGetpeername
    (junk : SunJunk)
    (p : Ptr)
    (namelen : Nat) :
    ChangesCmd own A (unixGetpeername junk p namelen) := by
  apply (ChangesCmd.derefSocket p).bind
  intro lsd
  exact (ChangesCmd.deref _ _).bind
    fun _ => changes_nameOf _ _ _

theorem changes_interfaceGetpeername
    (i : Interface)
    (env : NameEnv)
    (p : Ptr)
    (namelen : Nat) :
    ChangesCmd own A
      (interfaceGetpeername i env p namelen) := by
  cases i with
  | wsock => exact changes_wsockName env p namelen
  | csock => exact changes_csockName env p namelen
  | unix =>
      exact (changes_unixGetpeername _ _ _).bind
        fun _ => ChangesCmd.pure _

------------------------------------------------------------
-- The Prologue
------------------------------------------------------------

theorem changes_interfaceOf (lsd : LsckSocket) :
    ChangesCmd own A (interfaceOf lsd) :=
  ChangesCmd.read fun _ _ _ hRun => (interfaceOf_ok hRun).1

theorem changes_isfdtype (fd : Fd) :
    ChangesCmd own A (isfdtype fd) :=
  ChangesCmd.get.bind fun _ =>
    ChangesCmd.ite (ChangesCmd.pure _)
      (ChangesCmd.setErrno _)

theorem changes_enter (writable : Bool) (fd : Fd) :
    ChangesCmd own A (enter writable fd) := by
  apply (ChangesCmd.read
    fun _ _ _ hRun => (fdToLsd_ok hRun).1).bind
  intro found
  cases found with
  | none =>
      exact (changes_isfdtype fd).bind
        fun _ => ChangesCmd.pure _
  | some p =>
      apply (ChangesCmd.derefSocket p).bind
      intro lsd
      apply (changes_interfaceOf lsd).bind
      intro i
      apply (ChangesCmd.modifySocket
        fun _ d => Tolerates.check d writable).bind
      exact fun _ => ChangesCmd.pure _

/-
  The prologue that the calls share, and what follows it on
  the descriptor that has been found.
-/
theorem changes_entered
    {α : Type}
    {writable : Bool}
    {fd : Fd}
    {x r : α}
    {rest : Ptr → LsckSocket → Interface → Exec α}
    {s s' : Process}
    (hRun : (do
      let found ← enter writable fd
      match found with
      | none => return x
      | some p => do
          let lsd ← derefSocket p
          let i ← interfaceOf lsd
          rest p lsd i) s = .ok (r, s'))
    (hRest : ∀ p d i, s.LeadsTo fd p →
      s.heap p = some (.socket d) →
      rest p (d.checked writable) i (s.check p d writable) =
        .ok (r, s') →
      Changes own A (s.check p d writable) s') :
    Changes own A s s' := by
  rcases bind_eq_ok.mp hRun with ⟨found, t, hEnter, hTail⟩
  apply (changes_enter _ _ s found t hEnter).trans
  rcases enter_ok hEnter with ⟨rfl, -, -⟩ |
    ⟨p, d, rfl, hLeads, hSocket, rfl⟩
  · cases hTail
    exact .refl _
  simp only [run_bind_ok (derefSocket_run
    (s.socket_check p d writable))] at hTail
  rcases bind_eq_ok.mp hTail with ⟨i, u, hI, hLast⟩
  rcases interfaceOf_ok hI with ⟨rfl, -⟩
  exact hRest p d i hLeads hSocket hLast

theorem changes_prologue
    {α : Type}
    {writable : Bool}
    {fd : Fd}
    {x : α}
    {rest : Ptr → LsckSocket → Interface → Exec α}
    (hRest : ∀ p lsd i, ChangesCmd own A (rest p lsd i)) :
    ChangesCmd own A (do
      let found ← enter writable fd
      match found with
      | none => return x
      | some p => do
          let lsd ← derefSocket p
          let i ← interfaceOf lsd
          rest p lsd i) := by
  intro s r s' hRun
  apply changes_entered hRun
  intro p d i _ _ hTail
  exact hRest p _ i _ r s' hTail

theorem changes_getsockname
    (env : NameEnv)
    (fd : Fd)
    (namelen : Nat) :
    ChangesCmd own A (getsockname env fd namelen) := by
  apply changes_prologue
  intro p lsd i
  apply ChangesCmd.ite (changes_interfaceGetsockname _ _ _ _)
  exact (ChangesCmd.setErrno _).bind
    fun _ => ChangesCmd.pure _

theorem changes_getpeername
    (env : NameEnv)
    (fd : Fd)
    (namelen : Nat) :
    ChangesCmd own A (getpeername env fd namelen) := by
  apply changes_prologue
  intro p lsd i
  have hRefuse : ∀ e, ChangesCmd own A (do
      setErrno e
      return none : Exec (Option (Bytes × Nat))) :=
    fun e => (ChangesCmd.setErrno e).bind
      fun _ => ChangesCmd.pure _
  apply ChangesCmd.ite (hRefuse _)
  exact ChangesCmd.ite (changes_interfaceGetpeername _ _ _ _)
    (hRefuse _)

------------------------------------------------------------
-- Closing
------------------------------------------------------------

theorem changes_unixClose
    {closeR closeW : Fd → Exec Int}
    (hCloseR : ∀ fd, ChangesCmd own A (closeR fd))
    (hCloseW : ∀ fd, ChangesCmd own A (closeW fd))
    (write : WriteEnv)
    (p : Ptr) :
    ChangesCmd own A (unixClose closeR closeW write p) := by
  apply (ChangesCmd.derefSocket p).bind
  intro lsd
  apply (ChangesCmd.deref _ _).bind
  intro usock
  apply (changes_fcntlNonblock _).bind
  intro _
  apply (changes_writeFd _ _ _).bind
  intro _
  apply (ChangesCmd.modifyUnix (by simp)).bind
  intro _
  apply (ChangesCmd.deref _ _).bind
  intro usock
  apply (hCloseR _).bind
  intro _
  apply (ChangesCmd.deref _ _).bind
  intro usock
  apply (hCloseW _).bind
  intro _
  exact (ChangesCmd.modifyUnix (by simp)).bind
    fun _ => ChangesCmd.pure _

theorem changes_interfaceClose
    {closeR closeW : Fd → Exec Int}
    (hCloseR : ∀ fd, ChangesCmd own A (closeR fd))
    (hCloseW : ∀ fd, ChangesCmd own A (closeW fd))
    (answer : CloseAnswer)
    (i : Interface)
    (p : Ptr) :
    ChangesCmd own A
      (interfaceClose closeR closeW answer i p) := by
  cases i with
  | wsock => exact changes_wsockClose _ _
  | csock => exact changes_csockSimple _ _
  | unix => exact changes_unixClose hCloseR hCloseW _ p

theorem changes_releaseSocket (p : Ptr) :
    ChangesCmd own A (releaseSocket p) := by
  apply (ChangesCmd.derefSocket p).bind
  intro lsd
  apply (ChangesCmd.free _).bind
  intro _
  apply (ChangesCmd.modifySocket
    fun _ d => Tolerates.data d _).bind
  intro _
  apply ChangesCmd.get.bind
  intro s
  split
  · exact ChangesCmd.pure _
  · exact (changes_setSlot _ _).bind
      fun _ => ChangesCmd.free _

theorem changes_releaseFd (fd : Fd) :
    ChangesCmd own A (releaseFd fd) := by
  intro s a s' hRun
  rw [releaseFd_run] at hRun
  cases hRun
  exact .of_heap rfl

theorem changes_closesocket
    {closeR closeW : Fd → Exec Int}
    (hCloseR : ∀ fd, ChangesCmd own A (closeR fd))
    (hCloseW : ∀ fd, ChangesCmd own A (closeW fd))
    (answer : CloseAnswer)
    (fd : Fd) :
    ChangesCmd own A (closesocket closeR closeW answer fd) := by
  apply changes_prologue
  intro p lsd i
  apply ChangesCmd.ite _ (ChangesCmd.fail _)
  apply (changes_interfaceClose hCloseR hCloseW _ _ _).bind
  intro ret
  exact (ChangesCmd.when (changes_releaseSocket p)).bind
    fun _ => ChangesCmd.pure _

theorem changes_closeMailslot (fd : Fd) :
    ChangesCmd own A (closeMailslot fd) := by
  apply ChangesCmd.get.bind
  intro s
  split
  · exact ChangesCmd.fail _
  · exact ChangesCmd.stop _
  apply (changes_setData _ _).bind
  intro _
  apply (changes_setFunction _ _).bind
  intro _
  apply (changes_dosClose _).bind
  intro _
  split
  · exact ChangesCmd.pure _
  · exact (changes_setMail _ _).bind
      fun _ => ChangesCmd.pure _

/- Closing frees sockets and changes none that is left. -/
theorem changes_closeFd (env : CloseEnv) (fd : Fd) :
    ChangesCmd own A (closeFd env fd) := by
  induction env generalizing fd with
  | leaf => exact ChangesCmd.stop _
  | node answer r w ihR ihW =>
      unfold closeFd
      apply ChangesCmd.get.bind
      intro s
      split
      · apply ChangesCmd.ite _ (ChangesCmd.fail _)
        exact (changes_dosClose fd).bind
          fun _ => ChangesCmd.pure _
      · exact changes_closeMailslot fd
      · apply (changes_closesocket ihR ihW answer fd).bind
        intro rv
        exact (ChangesCmd.when (changes_releaseFd fd)).bind
          fun _ => ChangesCmd.pure _

------------------------------------------------------------
-- Binding
------------------------------------------------------------

theorem changes_sunPath (sun : Bytes) :
    ChangesCmd own A (sunPath sun) :=
  ChangesCmd.read (reads_readString _)

theorem changes_unixBind
    (env : UnixBindEnv)
    (p : Ptr)
    (addr : Bytes)
    (addrlen : Nat) :
    ChangesCmd own A (unixBind env p addr addrlen) := by
  apply (ChangesCmd.derefSocket p).bind
  intro lsd
  apply (ChangesCmd.deref _ _).bind
  intro usock
  apply ChangesCmd.ite (ChangesCmd.fail _)
  apply ChangesCmd.ite (ChangesCmd.fail _)
  apply (changes_sunPath _).bind
  intro name
  split
  · exact ChangesCmd.fail _
  apply (ChangesCmd.read (reads_fits _ _)).bind
  intro path
  apply (changes_openFile _ _ _).bind
  intro fd
  apply (ChangesCmd.modifyUnix (by simp)).bind
  intro _
  apply ChangesCmd.ite
  · apply (ChangesCmd.read (reads_copyInto _ _)).bind
    intro sockpath
    exact (ChangesCmd.modifyUnix (by simp)).bind
      fun _ => ChangesCmd.pure _
  · exact (ChangesCmd.modifyUnix (by simp)).bind
      fun _ => ChangesCmd.pure _

theorem changes_interfaceBind
    (env : BindEnv)
    (i : Interface)
    (p : Ptr)
    (addr : Bytes)
    (addrlen : Nat) :
    ChangesCmd own A (interfaceBind env i p addr addrlen) := by
  cases i with
  | wsock => exact changes_wsockSimple _ _
  | csock => exact changes_csockSimple _ _
  | unix => exact changes_unixBind _ _ _ _

/- A name is recorded only where that is allowed. -/
theorem changes_recordName
    {p : Ptr}
    (hName : MayName own A p)
    (env : BindEnv) :
    ChangesCmd own A (recordName env p) := by
  apply (ChangesCmd.derefSocket p).bind
  intro lsd
  apply (changes_getsockname _ _ _).bind
  intro r
  apply ChangesCmd.ite _ (ChangesCmd.stop _)
  exact ChangesCmd.nameSocket hName fun _ => ⟨_, _, _, rfl⟩

theorem changes_forgetName
    {p : Ptr}
    (hName : MayName own A p) :
    ChangesCmd own A (forgetName p) :=
  ChangesCmd.nameSocket hName fun _ => ⟨_, _, _, rfl⟩

/- Only a descriptor that is not bound gets a name. -/
theorem changes_bind
    {env : BindEnv}
    {fd : Fd}
    {addr : Option Bytes}
    {addrlen : Nat}
    {s s' : Process}
    {r : Int}
    (hName : ∀ p d, s.LeadsTo fd p →
      s.heap p = some (.socket d) → d.bound = false →
      MayName own A p)
    (hRun : bind env fd addr addrlen s = .ok (r, s')) :
    Changes own A s s' := by
  apply changes_entered hRun
  intro p d i hLeads hSocket hRest
  cases hRefusal :
      bindRefusal (d.checked env.writable) addr with
  | some e =>
      rw [hRefusal] at hRest
      exact ChangesCmd.fail e _ r s' hRest
  | none =>
      rw [hRefusal] at hRest
      have hUnbound : d.bound = false := by
        have hChecked := bindRefusal_none hRefusal
        rcases d.checked_cases env.writable with h | h
        · rw [h] at hChecked
          exact hChecked
        · rw [h.2.2] at hChecked
          exact hChecked
      have hMay := hName p d hLeads hSocket hUnbound
      have hCmd : ChangesCmd own A (do
          let ret ← interfaceBind env i p (addr.getD [])
            addrlen
          if ret = 0 then do
            recordName env p
            return ret
          else do
            forgetName p
            return ret) := by
        apply (changes_interfaceBind _ _ _ _ _).bind
        intro ret
        apply ChangesCmd.ite
        · exact (changes_recordName hMay env).bind
            fun _ => ChangesCmd.pure _
        · exact (changes_forgetName hMay).bind
            fun _ => ChangesCmd.pure _
      exact hCmd _ r s' hRest

end Callbacks

end Libsocket
