import Libsocket.MailslotPath
import Libsocket.Footprint
import Libsocket.Unix.Connect

/-
  What the commands do to open mailslots and to the messages
  of a process. Most of them send nothing and leave every
  open mailslot where it is; a write adds one message.

  Main declarations:
    * `FileFrame`, `FileFrame.bindHere`
    * `Steady`, `SteadyCmd`
    * `fileFrame_steady`
    * `Drains`, `drains_openFile`
    * `writeFd_ok`
    * `SendsTo`
    * `sendDgramLoop_ok`
-/

namespace Libsocket

open Command

------------------------------------------------------------
-- What Binding Needs Of A Preorder
------------------------------------------------------------

/-
  A preorder of processes that does not look at the heap or
  at the queues, and allows that a free number is taken.
-/
structure FileFrame
    (R : Process → Process → Prop) : Prop where
  refl : ∀ s, R s s
  trans : ∀ s t u, R s t → R t u → R s u
  same : ∀ s t, t.sent = s.sent → t.fds = s.fds → R s t
  entry : ∀ s fd e, (s.fds fd).dosOpen = false →
    R s (s.setEntry fd e)

namespace FileFrame

variable {R : Process → Process → Prop} {α β : Type}

theorem pure
    (hR : FileFrame R)
    (a : α) :
    Within R (pure a : Exec α) :=
  Within.pure hR.refl a

theorem sequence
    (hR : FileFrame R)
    {m : Exec α}
    {f : α → Exec β}
    (hFirst : Within R m)
    (hRest : ∀ a, Within R (f a)) :
    Within R (m >>= f) :=
  Within.bind hR.trans hFirst hRest

theorem read
    (hR : FileFrame R)
    {m : Exec α}
    (hReads : Reads m) :
    Within R m :=
  hReads.within hR.refl

theorem setErrno
    (hR : FileFrame R)
    (e : Errno) :
    Within R (setErrno e) :=
  Within.modify fun _ => hR.same _ _ rfl rfl

theorem fail
    (hR : FileFrame R)
    (e : Errno) :
    Within R (fail e) :=
  hR.sequence (hR.setErrno e) fun _ => hR.pure (-1)

theorem modifySocket
    (hR : FileFrame R)
    (p : Ptr)
    (f : LsckSocket → LsckSocket) :
    Within R (modifySocket p f) :=
  hR.sequence (hR.read (reads_derefSocket p)) fun _ =>
    Within.modify fun _ => hR.same _ _ rfl rfl

theorem modifyUnix
    (hR : FileFrame R)
    (q : Option Ptr)
    (f : LsckSocketUnix → LsckSocketUnix) :
    Within R (modifyUnix q f) := by
  intro s a s' hRun
  rcases modifyUnix_ok hRun with ⟨r, usock, -, -, rfl⟩
  exact hR.same _ _ rfl rfl

theorem openFile
    (hR : FileFrame R)
    (env : OpenEnv)
    (path : Bytes)
    (mode : OpenMode) :
    Within R (openFile env path mode) := by
  apply within_openFile
  · exact hR.refl
  · exact hR.trans
  · exact fun _ _ => hR.same _ _ rfl rfl
  · exact hR.entry
  · exact fun _ _ _ _ => hR.same _ _ rfl rfl

theorem unixBind
    (hR : FileFrame R)
    (env : UnixBindEnv)
    (p : Ptr)
    (addr : Bytes)
    (addrlen : Nat) :
    Within R (unixBind env p addr addrlen) := by
  apply hR.sequence (hR.read (reads_derefSocket p))
  intro lsd
  apply hR.sequence (hR.read (reads_deref _ _))
  intro usock
  apply Within.ite (hR.fail _)
  apply Within.ite (hR.fail _)
  apply hR.sequence (hR.read (reads_readString _))
  intro name
  split
  · exact hR.fail _
  apply hR.sequence (hR.read (reads_fits _ _))
  intro path
  apply hR.sequence (hR.openFile _ _ _)
  intro fd
  apply hR.sequence (hR.modifyUnix _ _)
  intro _
  apply Within.ite
  · apply hR.sequence (hR.read (reads_copyInto _ _))
    intro sockpath
    exact hR.sequence (hR.modifyUnix _ _)
      fun _ => hR.pure _
  · exact hR.sequence (hR.modifyUnix _ _)
      fun _ => hR.pure _

theorem callVxd
    (hR : FileFrame R)
    (code : UInt16) :
    Within R (callVxd code) :=
  Within.ite (hR.setErrno _)
    (Within.ite (hR.setErrno _) (hR.pure _))

theorem failCsock
    (hR : FileFrame R)
    (ret : Int) :
    Within R (failCsock ret) :=
  hR.sequence (Within.get hR.refl)
    fun _ => hR.fail _

theorem interfaceBind
    (hR : FileFrame R)
    (env : BindEnv)
    (i : Interface)
    (p : Ptr)
    (addr : Bytes)
    (addrlen : Nat) :
    Within R (interfaceBind env i p addr addrlen) := by
  cases i with
  | wsock =>
      apply hR.sequence (hR.read (reads_derefSocket p))
      intro lsd
      apply hR.sequence (hR.read (reads_deref _ _))
      intro wsock
      apply hR.sequence (hR.callVxd _)
      exact fun _ => Within.ite (hR.pure _)
        (hR.pure _)
  | csock =>
      apply hR.sequence (hR.read (reads_derefSocket p))
      intro lsd
      apply hR.sequence (hR.read (reads_deref _ _))
      intro csock
      exact Within.ite (hR.failCsock _)
        (hR.pure _)
  | unix => exact hR.unixBind _ _ _ _

theorem enter
    (hR : FileFrame R)
    (writable : Bool)
    (fd : Fd) :
    Within R (enter writable fd) := by
  apply hR.sequence
  · exact hR.read fun _ _ _ hRun => (fdToLsd_ok hRun).1
  intro found
  cases found with
  | none =>
      apply hR.sequence
      · apply Within.get_bind
        intro s a s' hRun
        exact Within.ite (hR.pure _)
          (hR.setErrno _) s a s' hRun
      · exact fun _ => hR.pure _
  | some p =>
      apply hR.sequence (hR.read (reads_derefSocket p))
      intro lsd
      apply hR.sequence
      · exact hR.read fun _ _ _ hRun => (interfaceOf_ok hRun).1
      intro i
      exact hR.sequence (hR.modifySocket _ _)
        fun _ => hR.pure _

theorem interfaceGetsockname
    (hR : FileFrame R)
    (i : Interface)
    (env : NameEnv)
    (p : Ptr)
    (namelen : Nat) :
    Within R (interfaceGetsockname i env p namelen) := by
  cases i with
  | wsock =>
      apply hR.sequence (hR.read (reads_derefSocket p))
      intro lsd
      apply hR.sequence (hR.read (reads_deref _ _))
      intro wsock
      apply Within.ite
      · exact hR.sequence (hR.setErrno _)
          fun _ => hR.pure _
      · apply hR.sequence (hR.callVxd _)
        exact fun _ => Within.ite (hR.pure _)
          (hR.pure _)
  | csock =>
      apply hR.sequence (hR.read (reads_derefSocket p))
      intro lsd
      apply hR.sequence (hR.read (reads_deref _ _))
      intro csock
      apply Within.ite
      · exact hR.sequence (hR.setErrno _)
          fun _ => hR.pure _
      apply Within.ite
      · exact hR.sequence (hR.failCsock _)
          fun _ => hR.pure _
      · exact hR.pure _
  | unix =>
      apply hR.sequence
      · apply hR.sequence (hR.read (reads_derefSocket p))
        intro lsd
        apply hR.sequence (hR.read (reads_deref _ _))
        intro usock
        apply hR.sequence (hR.read (reads_readString _))
        intro text
        exact hR.sequence (hR.read (reads_copyInto _ _))
          fun _ => hR.pure _
      · exact fun _ => hR.pure _

theorem getsockname
    (hR : FileFrame R)
    (env : NameEnv)
    (fd : Fd)
    (namelen : Nat) :
    Within R (getsockname env fd namelen) := by
  apply hR.sequence (hR.enter _ _)
  intro found
  cases found with
  | none => exact hR.pure _
  | some p =>
      apply hR.sequence (hR.read (reads_derefSocket p))
      intro lsd
      apply hR.sequence
      · exact hR.read fun _ _ _ hRun => (interfaceOf_ok hRun).1
      intro i
      apply Within.ite (hR.interfaceGetsockname _ _ _ _)
      exact hR.sequence (hR.setErrno _)
        fun _ => hR.pure _

/- Binding a socket sends nothing. -/
theorem bindCall
    (hR : FileFrame R)
    (env : BindEnv)
    (fd : Fd)
    (addr : Option Bytes)
    (addrlen : Nat) :
    Within R (bind env fd addr addrlen) := by
  apply hR.sequence (hR.enter _ _)
  intro found
  cases found with
  | none => exact hR.pure _
  | some p =>
      apply hR.sequence (hR.read (reads_derefSocket p))
      intro lsd
      apply hR.sequence
      · exact hR.read fun _ _ _ hRun => (interfaceOf_ok hRun).1
      intro i
      cases hRefusal : bindRefusal lsd addr with
      | some e => exact hR.fail e
      | none =>
          apply hR.sequence (hR.interfaceBind _ _ _ _ _)
          intro ret
          apply Within.ite
          · apply hR.sequence
            · apply hR.sequence
                (hR.read (reads_derefSocket p))
              intro lsd
              apply hR.sequence (hR.getsockname _ _ _)
              intro r
              exact Within.ite (hR.modifySocket _ _)
                (Within.stop _)
            · exact fun _ => hR.pure _
          · exact hR.sequence (hR.modifySocket _ _)
              fun _ => hR.pure _

theorem bindHere
    (hR : FileFrame R)
    (env : BindEnv)
    (n : Fin 2147483648)
    (lsd : LsckSocket) :
    Within R (bindHere env n lsd) :=
  Within.ite (hR.pure _) (hR.bindCall _ _ _ _)

end FileFrame

------------------------------------------------------------
-- Steady Commands
------------------------------------------------------------

/-
  Nothing is sent, and a descriptor that is open on a
  mailslot stays open on it.
-/
structure Steady (s s' : Process) : Prop where
  sent : s'.sent = s.sent
  mail : ∀ fd me, s.HasMailslot fd me →
    ∃ me', s'.HasMailslot fd me' ∧
      me'.handle = me.handle ∧ me'.name = me.name

namespace Steady

variable {s t u : Process}

theorem refl (s : Process) : Steady s s :=
  ⟨rfl, fun _ me hMail => ⟨me, hMail, rfl, rfl⟩⟩

theorem trans
    (hLeft : Steady s t)
    (hRight : Steady t u) :
    Steady s u := by
  constructor
  · exact hRight.sent.trans hLeft.sent
  · intro fd me hMail
    rcases hLeft.mail fd me hMail with
      ⟨me', hMail', hHandle, hName⟩
    rcases hRight.mail fd me' hMail' with
      ⟨me'', hMail'', hHandle', hName'⟩
    exact ⟨me'', hMail'', hHandle'.trans hHandle,
      hName'.trans hName⟩

/- A change that concerns neither messages nor files. -/
theorem of_same
    (hSent : t.sent = s.sent)
    (hFds : t.fds = s.fds) :
    Steady s t := by
  constructor
  · exact hSent
  · intro fd me hMail
    unfold Process.HasMailslot at hMail ⊢
    exact ⟨me, by rw [hFds, hMail], rfl, rfl⟩

/- A number without an open file may be taken. -/
theorem setEntry
    {fd : Fd}
    (hFree : (s.fds fd).dosOpen = false)
    (e : FdEntry) :
    Steady s (s.setEntry fd e) := by
  constructor
  · rfl
  · intro n me hMail
    have hNe : n ≠ fd := by
      rintro rfl
      rw [hMail] at hFree
      cases hFree
    refine ⟨me, ?_, rfl, rfl⟩
    unfold Process.HasMailslot at hMail ⊢
    rw [Process.fds_setEntry, Function.update_of_ne hNe,
      hMail]

theorem readsFrom
    (hSteady : Steady s t)
    {fd : Fd}
    {m : Bytes}
    (hReads : s.ReadsFrom fd m) :
    t.ReadsFrom fd m := by
  rcases hReads with ⟨me, hMail, hHandle⟩
  rcases hSteady.mail fd me hMail with ⟨me', hMail', hSame, -⟩
  exact ⟨me', hMail', hSame.trans hHandle⟩

theorem writesTo
    (hSteady : Steady s t)
    {fd : Fd}
    {m : Bytes}
    (hWrites : s.WritesTo fd m) :
    t.WritesTo fd m := by
  rcases hWrites with ⟨me, name, hMail, hHandle, hName, hM⟩
  rcases hSteady.mail fd me hMail with
    ⟨me', hMail', hSame, hSameName⟩
  exact ⟨me', name, hMail', hSame.trans hHandle,
    hSameName.trans hName, hM⟩

end Steady

theorem fileFrame_steady : FileFrame Steady :=
  ⟨Steady.refl, fun _ _ _ => Steady.trans,
    fun _ _ => Steady.of_same,
    fun _ _ e hFree => Steady.setEntry hFree e⟩

abbrev SteadyCmd {α : Type} (m : Exec α) : Prop :=
  Within Steady m

namespace SteadyCmd

variable {α β : Type}

theorem pure (a : α) : SteadyCmd (pure a : Exec α) :=
  fileFrame_steady.pure a

theorem bind
    {m : Exec α}
    {f : α → Exec β}
    (hFirst : SteadyCmd m)
    (hRest : ∀ a, SteadyCmd (f a)) :
    SteadyCmd (m >>= f) :=
  fileFrame_steady.sequence hFirst hRest

theorem read
    {m : Exec α}
    (hReads : Reads m) :
    SteadyCmd m :=
  fileFrame_steady.read hReads

theorem setErrno (e : Errno) : SteadyCmd (setErrno e) :=
  fileFrame_steady.setErrno e

theorem fail (e : Errno) : SteadyCmd (fail e) :=
  fileFrame_steady.fail e

theorem modifyUnix
    (q : Option Ptr)
    (f : LsckSocketUnix → LsckSocketUnix) :
    SteadyCmd (modifyUnix q f) :=
  fileFrame_steady.modifyUnix q f

end SteadyCmd

------------------------------------------------------------
-- Files
------------------------------------------------------------

theorem steady_setMail
    (name : Bytes)
    (queue : List Bytes) :
    SteadyCmd (modify fun s => s.setMail name queue :
      Exec Unit) :=
  Within.modify fun _ => Steady.of_same rfl rfl

theorem steady_openFile
    (env : OpenEnv)
    (path : Bytes)
    (mode : OpenMode) :
    SteadyCmd (openFile env path mode) :=
  fileFrame_steady.openFile env path mode

theorem steady_readFd (env : ReadEnv) (fd : Fd) :
    SteadyCmd (readFd env fd) := by
  have hErr : ∀ e, SteadyCmd (do
      setErrno e
      return none : Exec (Option (List Bytes))) :=
    fun e => (SteadyCmd.setErrno e).bind
      fun _ => SteadyCmd.pure _
  unfold readFd
  apply SteadyCmd.bind (Within.get Steady.refl)
  intro s
  split
  · exact Within.ite (Within.stop _) (hErr _)
  · exact Within.stop _
  split
  · exact hErr _
  · exact Within.stop _
  split
  · exact hErr _
  apply SteadyCmd.bind (steady_setMail _ _)
  intro _
  split
  · exact Within.ite (Within.stop _)
      (Within.ite (hErr _) (SteadyCmd.pure _))
  apply Within.ite
  · exact Within.ite (Within.stop _) (SteadyCmd.pure _)
  apply Within.ite
  · exact (steady_setMail _ _).bind fun _ => SteadyCmd.pure _
  split
  · exact Within.stop _
  · exact (steady_setMail _ _).bind fun _ => SteadyCmd.pure _

theorem steady_setPeerpath
    (q : Option Ptr)
    (path : Bytes) :
    SteadyCmd (setPeerpath q path) := by
  apply SteadyCmd.bind (.read (reads_deref _ _))
  intro usock
  apply SteadyCmd.bind (.read (reads_copyInto _ _))
  exact fun _ => SteadyCmd.modifyUnix _ _

------------------------------------------------------------
-- Binding
------------------------------------------------------------

theorem steady_bindHere
    (env : BindEnv)
    (n : Fin 2147483648)
    (lsd : LsckSocket) :
    SteadyCmd (bindHere env n lsd) :=
  fileFrame_steady.bindHere env n lsd

------------------------------------------------------------
-- Mailslots That Are Emptied
------------------------------------------------------------

/- Mailslots may be emptied, but nothing is put into them. -/
def Drains (s t : Process) : Prop :=
  ∀ m, t.mail m = s.mail m ∨ t.mail m = []

theorem Drains.refl (s : Process) : Drains s s :=
  fun _ => .inl rfl

theorem Drains.of_same
    {s t : Process}
    (hMail : t.mail = s.mail) :
    Drains s t := by
  intro m
  rw [hMail]
  exact .inl rfl

theorem Drains.trans
    {s t u : Process}
    (hLeft : Drains s t)
    (hRight : Drains t u) :
    Drains s u := by
  intro m
  rcases hRight m with hSame | hNone
  · rw [hSame]
    exact hLeft m
  · exact .inr hNone

abbrev DrainsCmd {α : Type} (m : Exec α) : Prop :=
  Within Drains m

/- An open empties the mailslot that it creates. -/
theorem drains_openFile
    (env : OpenEnv)
    (path : Bytes)
    (mode : OpenMode) :
    DrainsCmd (openFile env path mode) := by
  apply within_openFile
  · exact Drains.refl
  · exact fun _ _ _ hLeft hRight => hLeft.trans hRight
  · exact fun _ _ => Drains.of_same rfl
  · exact fun _ _ _ _ => Drains.of_same rfl
  · intro s m _ _ m'
    by_cases hHere : m' = m
    · right
      rw [hHere]
      exact Function.update_self _ _ _
    · left
      exact Function.update_of_ne hHere _ _

------------------------------------------------------------
-- Writing
------------------------------------------------------------

/- A write puts the message into the mailslot, or fails. -/
theorem writeFd_cases
    {env : WriteEnv}
    {fd : Fd}
    {message m : Bytes}
    {s s' : Process}
    {r : Int}
    (hWrites : s.WritesTo fd m)
    (hRun : writeFd env fd message s = .ok (r, s')) :
    r = message.length ∧ s' = s.deliverTo m message ∨
      r = -1 ∧ ∃ e, s' = { s with errno := e } := by
  rcases hWrites with ⟨me, name, hMail, -, hName, rfl⟩
  unfold writeFd at hRun
  rw [run_bind_ok (run_get s), hMail] at hRun
  dsimp only at hRun
  simp only [hName] at hRun
  by_cases hEmpty : message = []
  · rw [if_pos hEmpty] at hRun
    cases hRun
    exact .inr ⟨rfl, _, rfl⟩
  rw [if_neg hEmpty] at hRun
  by_cases hTaken : env.delivered
  · rw [if_pos hTaken] at hRun
    cases hRun
    exact .inl ⟨rfl, rfl⟩
  rw [if_neg hTaken] at hRun
  split at hRun
  · cases hRun
  · cases hRun
    exact .inr ⟨rfl, _, rfl⟩

theorem writeFd_ok
    {env : WriteEnv}
    {fd : Fd}
    {message m : Bytes}
    {s s' : Process}
    {r : Int}
    (hWrites : s.WritesTo fd m)
    (hRun : writeFd env fd message s = .ok (r, s'))
    (hSuccess : r ≠ -1) :
    r = message.length ∧ s' = s.deliverTo m message := by
  rcases writeFd_cases hWrites hRun with hSent | ⟨hFail, -⟩
  · exact hSent
  · exact absurd hFail hSuccess

theorem Process.sent_deliverTo
    (s : Process)
    (m message : Bytes) :
    (s.deliverTo m message).sent =
      s.sent ++ [(m, message)] := rfl

theorem Process.fds_deliverTo
    (s : Process)
    (m message : Bytes) :
    (s.deliverTo m message).fds = s.fds := rfl

theorem Process.WritesTo.deliverTo
    {s : Process}
    {fd : Fd}
    {m : Bytes}
    (hWrites : s.WritesTo fd m)
    (m' message : Bytes) :
    (s.deliverTo m' message).WritesTo fd m :=
  hWrites.of_fds rfl

/-
  What a run hands to the network: some messages, and all of
  them for one mailslot.
-/
def SendsTo (m : Bytes) (s s' : Process) : Prop :=
  ∃ messages : List Bytes, messages ≠ [] ∧
    s'.sent = s.sent ++ messages.map fun x => (m, x)

/- A run sends to one mailslot at most. -/
theorem SendsTo.unique
    {m m' : Bytes}
    {s s' : Process}
    (hSends : SendsTo m s s')
    (hSends' : SendsTo m' s s') :
    m = m' := by
  rcases hSends with ⟨messages, hSome, hSent⟩
  rcases hSends' with ⟨messages', -, hSent'⟩
  have hSame := List.append_cancel_left
    (hSent.symm.trans hSent')
  cases messages with
  | nil => exact absurd rfl hSome
  | cons x xs =>
      cases messages' with
      | nil => cases hSame
      | cons y ys =>
          simp only [List.map_cons, List.cons.injEq,
            Prod.mk.injEq] at hSame
          exact hSame.1.1

------------------------------------------------------------
-- The Packets Of A Datagram
------------------------------------------------------------

/- The most data that one packet of a datagram carries. -/
def dgramData : Nat := mailslotSendsize - openSize

/- A loop that succeeds has sent all of the datagram. -/
theorem sendDgramLoop_ok
    {fd : Fd}
    {req : UnixMsgOpen}
    {writes : List WriteEnv}
    {msg m : Bytes}
    {total : Nat}
    {s s' : Process}
    {r : Int}
    (hWrites : s.WritesTo fd m)
    (hRun : sendDgramLoop fd req writes msg total s =
      .ok (r, s'))
    (hSuccess : r ≠ -1) :
    ∃ parts : List Bytes, parts.flatten = msg ∧
      s'.sent = s.sent ++ parts.map (fun data =>
        (m, req.encode ++ data)) ∧
      s'.fds = s.fds ∧ s'.heap = s.heap := by
  induction writes generalizing msg total s with
  | nil =>
      cases msg with
      | nil =>
          cases hRun
          exact ⟨[], rfl, by simp, rfl, rfl⟩
      | cons b bs => cases hRun
  | cons w ws ih =>
      cases msg with
      | nil =>
          cases hRun
          exact ⟨[], rfl, by simp, rfl, rfl⟩
      | cons b bs =>
          rcases bind_eq_ok.mp hRun with
            ⟨ret, t, hWrite, hTail⟩
          by_cases hRet : ret = -1
          · rw [if_pos (.inl hRet)] at hTail
            cases hTail
            exact absurd rfl hSuccess
          rcases writeFd_ok hWrites hWrite hRet with
            ⟨-, rfl⟩
          split at hTail
          · cases hTail
            exact absurd rfl hSuccess
          rcases ih (hWrites.deliverTo _ _) hTail with
            ⟨parts, hParts, hSent, hFds, hHeap⟩
          refine ⟨(b :: bs).take dgramData :: parts,
            ?_, ?_, hFds, hHeap⟩
          · rw [List.flatten_cons, hParts]
            exact List.take_append_drop _ _
          rw [hSent, Process.sent_deliverTo,
            List.append_assoc, List.map_cons,
            List.singleton_append]
          rfl

end Libsocket
