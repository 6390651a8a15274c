import Libsocket.Core.Fresh
import Libsocket.Unix.Names

/-
  The blocking mode of a socket: setting it through `ioctl`
  and `fcntl`, and asking for it through `fcntl`.

  Main declarations:
    * `fcntlGetfl`
    * `ModeChange`
    * `BlockingFollows`, `MailslotsFollow`, `GetflFollows`
    * `mailslotsFollow_iff`
    * `mode_agreement_never`
-/

namespace Libsocket

open Command

------------------------------------------------------------
-- Flags
------------------------------------------------------------

/- `O_NONBLOCK` -/
def oNonblock : Nat := 0x2000

/- The flags of a `fcntl` contain `O_NONBLOCK`. -/
def hasNonblock (flags : Int) : Bool :=
  Word.unsigned flags &&& oNonblock == oNonblock

/-
  `F_GETFL` of all three interfaces. The flag is returned for
  a socket that blocks.
-/
def interfaceGetfl (p : Ptr) : Exec Int := do
  let lsd ← derefSocket p
  return if lsd.blocking then oNonblock else 0

/- `fcntlsocket` with command `F_GETFL` -/
def fcntlGetfl (writable : Bool) (s : Fd) : Exec Int := do
  let found ← enter writable s
  match found with
  | none => return -1
  | some p => do
      let lsd ← derefSocket p
      let _ ← interfaceOf lsd
      interfaceGetfl p

/- `FIONBIO` with a value, or `F_SETFL` with flags. -/
inductive ModeChange
  | fionbio (v : Int)
  | setfl (flags : Int)
deriving DecidableEq, Repr

namespace ModeChange

/- Non-blocking mode is requested. -/
def nonblocking : ModeChange → Bool
| .fionbio v => v != 0
| .setfl flags => hasNonblock flags

/- The value that the interface is given for `FIONBIO`. -/
def param : ModeChange → Int
| .fionbio v => v
| .setfl flags => if hasNonblock flags then 1 else 0

/- The call that makes the change. -/
def call
    (env : ModeEnv)
    (s : Fd) : ModeChange → Exec Int
| .fionbio v => ioctlFionbio env s (some v)
| .setfl flags => fcntlSetfl env s (hasNonblock flags)

end ModeChange

/- The drivers succeed and leave the parameter alone. -/
structure ModeEnv.Grants
    (env : ModeEnv)
    (change : ModeChange) : Prop where
  csock : env.csockAnswer = 0
  wsock : vxdFails env.wsock.code = false
  param : env.wsock.param = change.param

------------------------------------------------------------
-- Agreement
------------------------------------------------------------

/- The descriptor's flag says what was requested. -/
def BlockingFollows
    (change : ModeChange)
    (p : Ptr)
    (s : Process) : Prop :=
  ∀ d, s.heap p = some (.socket d) →
    (d.blocking = false ↔ change.nonblocking = true)

/- So do the flags of the mailslots of a Unix socket. -/
def MailslotsFollow
    (p : Ptr)
    (s : Process) : Prop :=
  ∀ d usock, s.HasUnix p d usock → ∀ n me,
    n = usock.fdR ∨ n = usock.fdW →
    s.HasMailslot n me → me.blocking = d.blocking

/- `F_GETFL` returns the flag for a socket that does not. -/
def GetflFollows
    (fd : Fd)
    (p : Ptr)
    (s : Process) : Prop :=
  ∀ d, s.heap p = some (.socket d) →
    ∀ writable r t, fcntlGetfl writable fd s = .ok (r, t) →
      (hasNonblock r = true ↔ d.blocking = false)

/- All three places agree with what was requested. -/
def ModesAgree
    (change : ModeChange)
    (fd : Fd)
    (p : Ptr)
    (s : Process) : Prop :=
  BlockingFollows change p s ∧ MailslotsFollow p s ∧
    GetflFollows fd p s

------------------------------------------------------------
-- Asking For The Mode
------------------------------------------------------------

/- The check on entry does not change the mode. -/
theorem LsckSocket.checked_blocking
    (d : LsckSocket)
    (writable : Bool) :
    (d.checked writable).blocking = d.blocking := by
  rcases d.checked_cases writable with hSame | ⟨-, -, hDone⟩
  · rw [hSame]
  · rw [hDone]

/- The answer to a question for the mode. -/
theorem fcntlGetfl_run
    {s : Process}
    {fd : Fd}
    {p : Ptr}
    {d : LsckSocket}
    {i : Interface}
    (hLeads : s.LeadsTo fd p)
    (hSocket : s.heap p = some (.socket d))
    (hInterface : d.interface = some i)
    (writable : Bool) :
    fcntlGetfl writable fd s =
      .ok (if d.blocking then oNonblock else 0,
        s.check p d writable) := by
  apply (prologue_run hLeads hSocket hInterface _).trans
  unfold interfaceGetfl
  rw [run_bind_ok (derefSocket_run
    (s.socket_check p d writable)), d.checked_blocking]
  rfl

/- `F_GETFL` never says what the descriptor's flag says. -/
theorem not_getflFollows
    {s : Process}
    {fd : Fd}
    {p : Ptr}
    {d : LsckSocket}
    {i : Interface}
    (hLeads : s.LeadsTo fd p)
    (hSocket : s.heap p = some (.socket d))
    (hInterface : d.interface = some i) :
    ¬ GetflFollows fd p s := by
  intro hFollows
  have hSays := hFollows d hSocket false _ _
    (fcntlGetfl_run hLeads hSocket hInterface false)
  cases hBlocking : d.blocking with
  | false =>
      rw [hBlocking] at hSays
      exact absurd (hSays.mpr rfl) (by decide)
  | true =>
      rw [hBlocking] at hSays
      exact absurd (hSays.mp (by decide)) (by decide)

------------------------------------------------------------
-- Setting The Mode
------------------------------------------------------------

/- Every change enters the socket and asks its interface. -/
theorem ModeChange.call_ok
    {env : ModeEnv}
    {change : ModeChange}
    {fd : Fd}
    {p : Ptr}
    {d : LsckSocket}
    {i : Interface}
    {s s' : Process}
    {r : Int}
    (hLeads : s.LeadsTo fd p)
    (hSocket : s.heap p = some (.socket d))
    (hInterface : d.interface = some i)
    (hRun : change.call env fd s = .ok (r, s')) :
    interfaceFionbio env i p change.param
      (s.check p d env.writable) = .ok (r, s') := by
  cases change with
  | fionbio v =>
      exact prologue_leads hLeads hSocket hInterface hRun
  | setfl flags =>
      exact prologue_leads hLeads hSocket hInterface hRun

/- A socket of SOCK.VXD blocks unless the value is 1. -/
theorem csockIoctl_granted
    {p : Ptr}
    {param : Int}
    {d : LsckSocket}
    {s s' : Process}
    {r : Int}
    (hSocket : s.heap p = some (.socket d))
    (hRun : csockIoctl 0 p param s = .ok (r, s')) :
    s'.heap p = some (.socket
      { d with blocking := param != 1 }) := by
  unfold csockIoctl at hRun
  rw [run_bind_ok (derefSocket_run hSocket)] at hRun
  rcases bind_eq_ok.mp hRun with ⟨csock, t, hData, hTail⟩
  have hSame := (deref_ok hData).1
  subst hSame
  rw [if_neg (by simp), run_bind_ok
    (modifySocket_run hSocket)] at hTail
  cases hTail
  rw [Process.heap_setBlock, Function.update_self]

/- One of WSOCK.VXD blocks if the value is 0. -/
theorem wsockIoctl_granted
    {env : WsockIoctlEnv}
    {p : Ptr}
    {param x : Int}
    {d : LsckSocket}
    {s s' : Process}
    {r : Int}
    (hSocket : s.heap p = some (.socket d))
    (hGranted : vxdFails env.code = false)
    (hRun : wsockIoctl env p param s = .ok ((r, x), s')) :
    s'.heap p = some (.socket
      { d with blocking := env.param == 0 }) := by
  unfold wsockIoctl at hRun
  rw [run_bind_ok (derefSocket_run hSocket)] at hRun
  rcases bind_eq_ok.mp hRun with ⟨wsock, t, hData, hTail⟩
  have hSame := (deref_ok hData).1
  subst hSame
  rcases bind_eq_ok.mp hTail with ⟨_, u, hCall, hRest⟩
  have hHeap := (local_callVxd (fun _ => False) env.code t ()
    u hCall).heap p (fun hOwn => hOwn)
  rw [hSocket] at hHeap
  rw [if_neg (by simp [hGranted]), run_bind_ok
    (modifySocket_run hHeap)] at hRest
  cases hRest
  rw [Process.heap_setBlock, Function.update_self]

/-
  A change of a mailslot's data finds no mailslot, or it
  changes the data and nothing else.
-/
theorem modifyMailslot_ok
    {fd : Fd}
    {f : MailslotFsext → MailslotFsext}
    {s s' : Process}
    (hRun : modifyMailslot fd f s = .ok ((), s')) :
    (s'.heap = s.heap ∧ s'.fds = s.fds ∧
      ∀ me, ¬ s.HasMailslot fd me) ∨
      ∃ e me, s.fds fd = e ∧ e.data = some (.mailslot me) ∧
        s' = s.setEntry fd
          { e with data := some (.mailslot (f me)) } := by
  unfold modifyMailslot at hRun
  rw [run_bind_ok (run_get s)] at hRun
  cases hFunction : (s.fds fd).function with
  | none =>
      rw [hFunction] at hRun
      cases hRun
      left
      refine ⟨rfl, rfl, ?_⟩
      intro me hMail
      unfold Process.HasMailslot at hMail
      rw [hMail] at hFunction
      cases hFunction
  | some handler =>
      rw [hFunction] at hRun
      cases handler with
      | lsckSocketFsext => cases hRun
      | mailslotHandler =>
          dsimp only at hRun
          cases hData : (s.fds fd).data with
          | none =>
              rw [hData] at hRun
              cases hRun
              left
              refine ⟨rfl, rfl, ?_⟩
              intro me hMail
              unfold Process.HasMailslot at hMail
              rw [hMail] at hData
              cases hData
          | some data =>
              rw [hData] at hRun
              cases data with
              | lsd q => cases hRun
              | mailslot me =>
                  cases hRun
                  right
                  exact ⟨s.fds fd, me, rfl, hData, rfl⟩

/- Which mailslots there are after the mode of one is set. -/
theorem fcntlNonblock_ok
    {fd : Fd}
    {s s' : Process}
    {r : Int}
    (hRun : fcntlNonblock fd s = .ok (r, s')) :
    r = -1 ∧ s'.heap = s.heap ∧
      (∀ n, n ≠ fd → s'.fds n = s.fds n) ∧
      ∀ me', s'.HasMailslot fd me' ↔
        ∃ me, s.HasMailslot fd me ∧
          me' = { me with blocking := false } := by
  unfold fcntlNonblock at hRun
  rcases bind_eq_ok.mp hRun with ⟨_, t, hModify, hTail⟩
  cases hTail
  rcases modifyMailslot_ok hModify with
    ⟨hHeap, hFds, hNone⟩ | ⟨e, me, hEntry, hData, rfl⟩
  · refine ⟨rfl, hHeap, fun n _ => by rw [hFds], ?_⟩
    intro me'
    constructor
    · intro hMail
      exact absurd (hMail.of_fds hFds.symm) (hNone me')
    · rintro ⟨me, hMail, -⟩
      exact absurd hMail (hNone me)
  · refine ⟨rfl, rfl, ?_, ?_⟩
    · intro n hNe
      rw [Process.fds_setEntry, Function.update_of_ne hNe]
    · intro me'
      unfold Process.HasMailslot
      rw [Process.fds_setEntry, Function.update_self, hEntry]
      rcases e with ⟨dosOpen, function, data⟩
      cases hData
      constructor
      · intro hMail
        cases hMail
        exact ⟨me, rfl, rfl⟩
      · rintro ⟨me'', hMail, rfl⟩
        cases hMail
        rfl

/-
  A Unix socket accepts the value 1 alone. The flag of the
  descriptor stays as it is, and the mode of one of the two
  mailslots is set.
-/
theorem unixIoctl_ok
    {p : Ptr}
    {param : Int}
    {d : LsckSocket}
    {usock : LsckSocketUnix}
    {s s' : Process}
    {r : Int}
    (hUnix : s.HasUnix p d usock)
    (hRun : unixIoctl p param s = .ok (r, s'))
    (hSuccess : r ≠ -1) :
    param = 1 ∧ s'.heap = s.heap ∧
      (∀ n, n ≠ usock.fdW → s'.fds n = s.fds n) ∧
      ∀ me', s'.HasMailslot usock.fdW me' ↔
        ∃ me, s.HasMailslot usock.fdW me ∧
          me' = { me with blocking := false } := by
  unfold unixIoctl at hRun
  rw [run_bind_ok (derefSocket_run hUnix.socket),
    run_bind_ok (derefUnix_run hUnix)] at hRun
  by_cases hParam : param = 1
  · rw [if_pos hParam] at hRun
    rcases bind_eq_ok.mp hRun with ⟨ret, t, hSet, hTail⟩
    rcases fcntlNonblock_ok hSet with
      ⟨rfl, hHeap, hFds, hMail⟩
    cases hTail
    exact ⟨hParam, hHeap, hFds, hMail⟩
  · rw [if_neg hParam] at hRun
    cases hRun
    exact absurd rfl hSuccess

------------------------------------------------------------
-- The Flag Of The Descriptor
------------------------------------------------------------

/- When the flag follows a change of the mode. -/
def ModeChange.Obeyed
    (change : ModeChange)
    (d : LsckSocket) : Interface → Prop
| .wsock => True
| .csock => change.param = 0 ∨ change.param = 1
| .unix => d.blocking = false

/- A request for a non-blocking socket is not the value 0. -/
theorem ModeChange.nonblocking_iff (change : ModeChange) :
    change.nonblocking = true ↔ change.param ≠ 0 := by
  cases change with
  | fionbio v => simp [nonblocking, param]
  | setfl flags =>
      cases hFlag : hasNonblock flags <;>
        simp [nonblocking, param, hFlag]

/- The flag that a change that succeeds leaves behind. -/
theorem interfaceFionbio_blocking
    {env : ModeEnv}
    {change : ModeChange}
    {p : Ptr}
    {d : LsckSocket}
    {i : Interface}
    {s s' : Process}
    {r : Int}
    (hForm : WellFormed none s)
    (hSocket : s.heap p = some (.socket d))
    (hInterface : d.interface = some i)
    (hGrants : env.Grants change)
    (hRun : interfaceFionbio env i p change.param s =
      .ok (r, s'))
    (hSuccess : r ≠ -1) :
    BlockingFollows change p s' ↔ change.Obeyed d i := by
  unfold BlockingFollows
  rw [change.nonblocking_iff]
  cases i with
  | wsock =>
      rcases bind_eq_ok.mp hRun with ⟨⟨rv, x⟩, t, hIoctl, hTail⟩
      cases hTail
      have hNew := wsockIoctl_granted hSocket hGrants.wsock
        hIoctl
      rw [hNew]
      simp [ModeChange.Obeyed, hGrants.param]
  | csock =>
      unfold interfaceFionbio at hRun
      dsimp only at hRun
      rw [hGrants.csock] at hRun
      rw [csockIoctl_granted hSocket hRun]
      simp only [ModeChange.Obeyed, Option.some.injEq,
        Block.socket.injEq, forall_eq', bne_eq_false_iff_eq]
      omega
  | unix =>
      rcases hForm.hasUnix hSocket hInterface with
        ⟨usock, hUnix⟩
      rcases unixIoctl_ok hUnix hRun hSuccess with
        ⟨hParam, hHeap, -, -⟩
      rw [hHeap, hSocket, hParam]
      simp [ModeChange.Obeyed]

------------------------------------------------------------
-- The Flags Of The Mailslots
------------------------------------------------------------

/-
  The mailslot that is written has to belong to a socket
  that did not block before, and the one that is read has to
  have agreed with the descriptor already.
-/
theorem mailslotsFollow_iff
    {p : Ptr}
    {param : Int}
    {d : LsckSocket}
    {usock : LsckSocketUnix}
    {s s' : Process}
    {r : Int}
    (hUnix : s.HasUnix p d usock)
    (hRun : unixIoctl p param s = .ok (r, s'))
    (hSuccess : r ≠ -1) :
    MailslotsFollow p s' ↔
      (∀ me, s.HasMailslot usock.fdW me →
        d.blocking = false) ∧
      (usock.fdR ≠ usock.fdW → ∀ me,
        s.HasMailslot usock.fdR me →
        me.blocking = d.blocking) := by
  rcases unixIoctl_ok hUnix hRun hSuccess with
    ⟨-, hHeap, hFds, hMailW⟩
  have hUnix' : s'.HasUnix p d usock := by
    constructor
    · rw [hHeap]
      exact hUnix.socket
    · rw [hHeap]
      exact hUnix.data
  have hMailR : usock.fdR ≠ usock.fdW → ∀ me,
      s'.HasMailslot usock.fdR me ↔
        s.HasMailslot usock.fdR me := by
    intro hNe me
    unfold Process.HasMailslot
    rw [hFds _ hNe]
  constructor
  · intro hFollow
    constructor
    · intro me hMail
      exact (hFollow d usock hUnix' _ _ (.inr rfl)
        ((hMailW _).mpr ⟨me, hMail, rfl⟩)).symm
    · intro hNe me hMail
      exact hFollow d usock hUnix' _ me (.inl rfl)
        ((hMailR hNe me).mpr hMail)
  · rintro ⟨hW, hR⟩ d' usock' hHas n me hNumber hMail
    rcases hUnix'.unique hHas with ⟨rfl, rfl⟩
    by_cases hSame : n = usock'.fdW
    · rw [hSame] at hMail
      rcases (hMailW me).mp hMail with ⟨me', hMail', rfl⟩
      exact (hW me' hMail').symm
    · have hN : n = usock'.fdR := by
        rcases hNumber with hN | hN
        · exact hN
        · exact absurd hN hSame
      rw [hN] at hMail hSame
      exact hR hSame me ((hMailR hSame me).mp hMail)

------------------------------------------------------------
-- Agreement In Every Run
------------------------------------------------------------

/- A change of the mode leaves the socket where it is. -/
theorem Still.leadsTo
    {s s' : Process}
    {fd : Fd}
    {p : Ptr}
    (hStill : Still s s')
    (hFds : FdsOk s.fds)
    (hLeads : s.LeadsTo fd p) :
    s'.LeadsTo fd p := by
  unfold Process.LeadsTo
  rw [hStill.entry hFds fd (.inl hLeads.1)]
  exact hLeads

/-
  In no state that the library reaches, and for none of the
  three interfaces, does a change of the mode that succeeds
  leave all places in agreement: `F_GETFL` is always wrong.
  The flag of the descriptor is right for the requests that
  the interface obeys.
-/
theorem mode_agreement_never
    {s s' : Process}
    {env : ModeEnv}
    {change : ModeChange}
    {fd : Fd}
    {p : Ptr}
    {d : LsckSocket}
    {i : Interface}
    {r : Int}
    (hReach : lsckSystem.Reachable s)
    (hLeads : s.LeadsTo fd p)
    (hSocket : s.heap p = some (.socket d))
    (hInterface : d.interface = some i)
    (hGrants : env.Grants change)
    (hRun : change.call env fd s = .ok (r, s'))
    (hSuccess : r ≠ -1) :
    ¬ ModesAgree change fd p s' ∧
      ¬ GetflFollows fd p s' ∧
      (BlockingFollows change p s' ↔ change.Obeyed d i) := by
  have hForm := wellFormed_of_reachable hReach
  have hTail := ModeChange.call_ok hLeads hSocket hInterface
    hRun
  have hFormC := (drift_check hSocket env.writable).form hForm
  have hSocketC := s.socket_check p d env.writable
  have hInterfaceC : (d.checked env.writable).interface =
      some i := by
    rw [d.checked_interface, hInterface]
  have hStill := still_interfaceFionbio env i p change.param
    _ r s' hTail
  have hLeadsC : (s.check p d env.writable).LeadsTo fd p :=
    hLeads
  rcases hStill.socket hSocketC with ⟨d', hSocket', hStatus⟩
  have hInterface' : d'.interface = some i := by
    rw [← hInterfaceC]
    exact congrArg (·.interface) hStatus
  have hGetfl : ¬ GetflFollows fd p s' :=
    not_getflFollows (hStill.leadsTo hFormC.fds hLeadsC)
      hSocket' hInterface'
  refine ⟨fun hAgree => hGetfl hAgree.2.2, hGetfl, ?_⟩
  rw [interfaceFionbio_blocking hFormC hSocketC hInterfaceC
    hGrants hTail hSuccess]
  cases i <;> simp [ModeChange.Obeyed, d.checked_blocking]

/- Drivers that grant a change of the mode. -/
def ModeEnv.granting (param : Int) : ModeEnv :=
  ⟨false, 0, ⟨0, param⟩⟩

theorem mode_disagrees_of_stream :
    ∃ (s s' : Process),
      ioctlFionbio (.granting 1) 3 (some 1) s = .ok (0, s') ∧
      ¬ ModesAgree (.fionbio 1) 3 10 s' := by
  rcases exists_call (fun _ _ => true) [streamCall]
    (.ioctl (.granting 1) 3 (some 1)) (fun s r _ => r == 0 &&
      (s.entering 3 false).any (·.1 == 10) &&
      (s.socket? 10).any fun d => d.interface.isSome)
    (by decide +kernel) with ⟨s, r, s', hReach, hRun, hAll⟩
  simp only [Bool.and_eq_true, beq_iff_eq] at hAll
  rcases hAll with ⟨⟨rfl, hEntering⟩, hChosen⟩
  rcases (Option.any_eq_true _ _).mp hChosen with
    ⟨d, hD, hSome⟩
  rcases Option.isSome_iff_exists.mp hSome with ⟨i, hI⟩
  have hCall : ModeChange.call (.granting 1) 3 (.fionbio 1)
    s = .ok (0, s') := hRun
  exact ⟨s, s', hRun, (mode_agreement_never hReach.reachable
    (s.leadsTo_of_entering hEntering)
    (Process.socket?_eq_some.mp hD) hI ⟨rfl, rfl, rfl⟩ hCall
    (by decide)).1⟩

/-
  Once non-blocking mode has been set, the descriptor does
  not block and `F_GETFL` returns no flag at all.
-/
theorem getfl_of_nonblocking :
    ∃ (s s' t : Process) (d : LsckSocket),
      lsckSystem.Reachable s ∧
        ioctlFionbio (.granting 1) 3 (some 1) s =
          .ok (0, s') ∧
        s'.LeadsTo 3 10 ∧ s'.heap 10 = some (.socket d) ∧
        d.blocking = false ∧
        fcntlGetfl false 3 s' = .ok (0, t) ∧
        hasNonblock 0 = false := by
  rcases exists_call (fun _ _ => true) [streamCall]
    (.ioctl (.granting 1) 3 (some 1)) (fun _ r s' => r == 0 &&
      (s'.entering 3 false).any (·.1 == 10) &&
      (s'.socket? 10).any (fun d => !d.blocking &&
        d.interface.isSome))
    (by decide +kernel) with ⟨s, r, s', hReach, hRun, hAll⟩
  simp only [Bool.and_eq_true, beq_iff_eq] at hAll
  rcases hAll with ⟨⟨rfl, hEntering⟩, hChosen⟩
  rcases (Option.any_eq_true _ _).mp hChosen with
    ⟨d, hD, hFlags⟩
  simp only [Bool.and_eq_true, Bool.not_eq_true'] at hFlags
  rcases Option.isSome_iff_exists.mp hFlags.2 with ⟨i, hI⟩
  have hLeads := s'.leadsTo_of_entering hEntering
  have hSocket := Process.socket?_eq_some.mp hD
  have hGetfl := fcntlGetfl_run hLeads hSocket hI false
  rw [hFlags.1] at hGetfl
  exact ⟨s, s', _, d, hReach.reachable, hRun, hLeads,
    hSocket, hFlags.1, hGetfl, by decide⟩

end Libsocket
