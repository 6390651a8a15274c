import Libsocket.Core.Emulated
import Libsocket.Footprint

/-
  The mode of a socket over a call that emulates one, in the
  library and in the driver.

  Main declarations:
    * `InMode`, `Leads`
    * `leads_csockIoctl`, `leads_wsockIoctl`
    * `leads_csockAccept`, `leads_csockRecvfrom`,
      `leads_wsockConnect`
-/

namespace Libsocket

open Command

------------------------------------------------------------
-- Following The Mode
------------------------------------------------------------

/- The socket and its driver are in the mode `b`. -/
def InMode
    (p : Ptr)
    (b : Bool)
    (t : Process × Bool) : Prop :=
  (∃ d, t.1.heap p = some (.socket d) ∧ d.blocking = b) ∧
    t.2 = b

/- The command takes the socket from one mode to another. -/
def Leads
    {α : Type}
    (p : Ptr)
    (b b' : Bool)
    (m : DriverExec α) : Prop :=
  ∀ t a t', InMode p b t → m t = .ok (a, t') →
    InMode p b' t'

section Leads

variable {α β : Type} {p : Ptr} {b x y : Bool}

theorem Leads.pure (a : α) :
    Leads p b b (pure a : DriverExec α) := by
  intro t a t' hMode hRun
  cases hRun
  exact hMode

/- The mode after the second may rest on the first's result. -/
theorem Leads.bind_with
    {m : DriverExec α}
    {f : α → DriverExec β}
    {R : α → Prop}
    (hFirst : ∀ t a t', InMode p b t → m t = .ok (a, t') →
      InMode p x t' ∧ R a)
    (hRest : ∀ a, R a → Leads p x y (f a)) :
    Leads p b y (m >>= f) := by
  intro t c t' hMode hRun
  obtain ⟨a, t₁, hOne, hTwo⟩ := bind_eq_ok.mp hRun
  obtain ⟨hMode₁, hResult⟩ := hFirst t a t₁ hMode hOne
  exact hRest a hResult t₁ c t' hMode₁ hTwo

theorem Leads.bind
    {m : DriverExec α}
    {f : α → DriverExec β}
    (hFirst : Leads p b x m)
    (hRest : ∀ a, Leads p x y (f a)) :
    Leads p b y (m >>= f) := by
  apply Leads.bind_with (R := fun _ => True)
  · intro t a t' hMode hRun
    exact ⟨hFirst t a t' hMode hRun, trivial⟩
  · intro a _
    exact hRest a

theorem Leads.ite
    {c : Prop}
    [Decidable c]
    {m m' : DriverExec α}
    (hThen : c → Leads p b x m)
    (hElse : ¬ c → Leads p b x m') :
    Leads p b x (if c then m else m') := by
  by_cases hCond : c
  · rw [if_pos hCond]
    exact hThen hCond
  · rw [if_neg hCond]
    exact hElse hCond

/- What leaves the socket alone leaves the modes alone. -/
theorem Leads.beside
    {m : Exec α}
    (hLocal : LocalCmd (· ≠ p) m) :
    Leads p b b (Command.beside m) := by
  intro t a t' hMode hRun
  obtain ⟨hRun, hDriver⟩ := beside_eq_ok.mp hRun
  have hSame := (hLocal _ _ _ hRun).heap p (not_not_intro rfl)
  unfold InMode
  rw [hSame, hDriver]
  exact hMode

/- A look at the socket shows its mode. -/
theorem derefSocket_mode
    {t t' : Process × Bool}
    {d : LsckSocket}
    (hMode : InMode p b t)
    (hRun : Command.beside (derefSocket p) t = .ok (d, t')) :
    InMode p b t' ∧ d.blocking = b := by
  obtain ⟨hRun, hDriver⟩ := beside_eq_ok.mp hRun
  obtain ⟨⟨d', hSocket, hBlocking⟩, hSide⟩ := hMode
  rw [derefSocket_run hSocket] at hRun
  obtain ⟨t₁, t₂⟩ := t'
  cases hRun
  exact ⟨⟨⟨_, hSocket, hBlocking⟩, hDriver.trans hSide⟩,
    hBlocking⟩

/- A switch of the mode that succeeds. -/
theorem leads_csockIoctl (param : Int) :
    Leads p b (param != 1) (csockIoctlDriven 0 p param) := by
  intro t a t' hMode hRun
  obtain ⟨⟨d, hSocket, -⟩, -⟩ := hMode
  obtain ⟨r, t₁, hIoctl, hTail⟩ := bind_eq_ok.mp hRun
  obtain ⟨hIoctl, -⟩ := beside_eq_ok.mp hIoctl
  have hNow := csockIoctl_ok hSocket hIoctl
  rw [csockSwitched, if_pos rfl] at hNow
  cases hTail
  exact ⟨⟨_, hNow, rfl⟩, rfl⟩

theorem leads_wsockIoctl
    {env : WsockIoctlEnv}
    {param : Int}
    (hCode : vxdFails env.code = false)
    (hParam : env.param = param)
    {t t' : Process × Bool}
    {r : Int × Int}
    (hMode : InMode p b t)
    (hRun : wsockIoctlDriven env p param t = .ok (r, t')) :
    InMode p (param == 0) t' ∧ r = (0, param) := by
  obtain ⟨⟨d, hSocket, -⟩, -⟩ := hMode
  obtain ⟨r', t₁, hIoctl, hTail⟩ := bind_eq_ok.mp hRun
  obtain ⟨hIoctl, -⟩ := beside_eq_ok.mp hIoctl
  rw [when, if_pos hCode] at hTail
  cases hTail
  unfold wsockIoctl at hIoctl
  rw [run_bind_ok (derefSocket_run hSocket)] at hIoctl
  obtain ⟨_, s₁, hData, hIoctl⟩ := bind_eq_ok.mp hIoctl
  cases (deref_ok hData).1
  obtain ⟨_, u, hCall, hIoctl⟩ := bind_eq_ok.mp hIoctl
  have hThere : u.heap p = some (.socket d) := by
    rw [callVxd_run] at hCall
    cases hCall
    exact hSocket
  rw [if_neg (by simp [hCode]),
    run_bind_ok (modifySocket_run hThere)] at hIoctl
  rw [← hParam]
  obtain ⟨s₁, g⟩ := t₁
  cases hIoctl
  refine ⟨⟨⟨{ d with blocking := env.param == 0 }, ?_, rfl⟩,
    rfl⟩, rfl⟩
  exact Function.update_self _ _ _

end Leads

------------------------------------------------------------
-- The Calls
------------------------------------------------------------

theorem leads_csockServe
    {env : CsockTriesEnv}
    {p np : Ptr}
    {q : Option Ptr}
    {d : LsckSocket}
    (hFlip : env.flipAnswer = 0)
    (hBack : env.flipBackAnswer = 0)
    (hNe : np ≠ p)
    (hData : ∀ r, q = some r → r ≠ p) :
    Leads p d.blocking d.blocking
      (csockServeDriven env d p np q) := by
  have hModify : ∀ f, LocalCmd (· ≠ p) (modifyCsock q f) :=
    fun f => LocalCmd.modifyCsock hData f
  have hName : ∀ name len,
      LocalCmd (· ≠ p) (setPeername np name len) := by
    intro name len
    apply LocalCmd.setPeername
    exact hNe
  unfold csockServeDriven
  rw [hFlip, hBack]
  apply Leads.bind (x := false)
  · apply Leads.ite
    · intro _
      exact leads_csockIoctl 1
    · intro hNot
      rw [Bool.eq_false_iff.mpr hNot]
      exact Leads.pure 0
  · intro _
    apply Leads.bind (Leads.beside (hModify _))
    intro _
    apply Leads.bind (Leads.beside
      (LocalCmd.read (reads_deref _ _)))
    intro _
    dsimp only
    apply Leads.bind (x := false)
    · split
      · exact Leads.pure ()
      · exact Leads.beside (hModify _)
    · intro _
      apply Leads.bind (x := d.blocking)
      · apply Leads.ite
        · intro hBlocking
          rw [hBlocking]
          exact leads_csockIoctl 0
        · intro hNot
          rw [Bool.eq_false_iff.mpr hNot]
          exact Leads.pure 0
      · intro _
        apply Leads.ite
        · intro _
          exact Leads.beside (local_failCsock _ _)
        · intro _
          apply Leads.bind (Leads.beside (hName _ _))
          intro _
          exact Leads.pure 0

theorem leads_csockAccept
    {env : CsockTriesEnv}
    {p np : Ptr}
    (hFlip : env.flipAnswer = 0)
    (hBack : env.flipBackAnswer = 0)
    (hNe : np ≠ p)
    (b : Bool) :
    Leads p b b (csockAcceptDriven env p np) := by
  have hHang : ∀ f, LocalCmd (· ≠ p) (modifySocket np f) := by
    intro f
    apply LocalCmd.modifySocket
    exact hNe
  unfold csockAcceptDriven
  apply Leads.bind_with
  · intro t d t' hMode hRun
    exact derefSocket_mode hMode hRun
  · intro d hBlocking
    apply Leads.bind (Leads.beside
      (LocalCmd.read (reads_derefSocket np)))
    intro nd
    apply Leads.ite
    · intro _
      exact Leads.beside (LocalCmd.fail _)
    · intro _
      apply Leads.bind_with (x := b)
        (R := fun q => ∀ r, q = some r → r ≠ p)
      · intro t q t' hMode hRun
        obtain ⟨hMalloc, hDriver⟩ := beside_eq_ok.mp hRun
        obtain ⟨⟨d', hSocket, hMine⟩, hSide⟩ := hMode
        unfold InMode
        obtain ⟨hNone, hSame⟩ | ⟨r, hSome, -, hFree, hNew⟩ :=
          malloc_ok hMalloc
        · rw [hSame, hDriver]
          refine ⟨⟨⟨d', hSocket, hMine⟩, hSide⟩, ?_⟩
          rw [hNone]
          exact fun _ hR => nomatch hR
        · have hOther : r ≠ p := by
            intro hSame
            rw [hSame, hSocket] at hFree
            cases hFree
          rw [hNew, hDriver, Process.heap_setBlock,
            Function.update_of_ne hOther.symm]
          refine ⟨⟨⟨d', hSocket, hMine⟩, hSide⟩, ?_⟩
          rw [hSome]
          rintro _ ⟨⟩
          exact hOther
      · intro q hData
        apply Leads.bind (Leads.beside (hHang _))
        intro _
        apply Leads.ite
        · intro _
          exact Leads.beside (LocalCmd.fail _)
        · intro _
          rw [← hBlocking]
          exact leads_csockServe hFlip hBack hNe hData

theorem local_failReceive
    (own : Ptr → Prop)
    (e : Errno) :
    LocalCmd own (failReceive e) := by
  unfold failReceive
  exact (LocalCmd.fail e).bind fun _ => LocalCmd.pure _

theorem local_csockReceived
    (own : Ptr → Prop)
    (env : CsockRecvEnv)
    (name : Option Bytes) :
    LocalCmd own (csockReceived env name) := by
  unfold csockReceived
  apply Within.ite
  · exact (local_failCsock own _).bind fun _ =>
      LocalCmd.pure _
  · exact LocalCmd.pure _

theorem leads_csockRecvfrom
    {env : CsockRecvEnv}
    {p : Ptr}
    (hFlip : env.flipAnswer = 0)
    (hBack : env.flipBackAnswer = 0)
    (flags : Nat)
    (source : Bool)
    (fromlen : Option Nat)
    (b : Bool) :
    Leads p b b
      (csockRecvfromDriven env p flags source fromlen) := by
  unfold csockRecvfromDriven
  rw [hFlip, hBack]
  apply Leads.bind_with
  · intro t d t' hMode hRun
    exact derefSocket_mode hMode hRun
  · intro d hBlocking
    apply Leads.bind (Leads.beside
      (LocalCmd.read (reads_deref _ _)))
    intro _
    apply Leads.ite
    · intro _
      exact Leads.beside (local_failReceive _ _)
    · intro _
      apply Leads.ite
      · intro _
        exact Leads.beside (local_failReceive _ _)
      · intro _
        rw [hBlocking]
        by_cases hVersion : env.version < 1
        · simp only [when, if_pos hVersion]
          apply Leads.bind (x := !b)
          · apply Leads.bind (x := !b)
            · cases b with
              | true => exact leads_csockIoctl 1
              | false => exact leads_csockIoctl 0
            · intro _
              exact Leads.pure ()
          · intro _
            apply Leads.bind (x := b)
            · apply Leads.bind (x := b)
              · cases b with
                | true => exact leads_csockIoctl 0
                | false => exact leads_csockIoctl 1
              · intro _
                exact Leads.pure ()
            · intro _
              exact Leads.beside (local_csockReceived _ _ _)
        · simp only [when, if_neg hVersion]
          apply Leads.bind (Leads.pure ())
          intro _
          apply Leads.bind (Leads.pure ())
          intro _
          exact Leads.beside (local_csockReceived _ _ _)

theorem local_wsockSelectWaits
    (own : Ptr → Prop)
    (env : WsockWaitEnv) :
    LocalCmd own (wsockSelectWaits env) := by
  unfold wsockSelectWaits
  apply (local_callVxd own _).bind
  intro _
  apply Within.ite (LocalCmd.pure _)
  apply (local_callVxd own _).bind
  intro _
  exact Within.ite (LocalCmd.pure _) (LocalCmd.pure _)

theorem leads_wsockConnect
    {env : WsockWaitsEnv}
    {p : Ptr}
    (hFlip : vxdFails env.flip.code = false)
    (hFlipParam : env.flip.param = 1)
    (hBack : vxdFails env.flipBack.code = false)
    (hBackParam : env.flipBack.param = 0)
    (b : Bool) :
    Leads p b b (wsockConnectDriven env p) := by
  have hReturn : ∀ r : Int, Leads p false true
      (do
        let _ ← wsockIoctlDriven env.flipBack p 0
        return r) := by
    intro r
    apply Leads.bind (x := true)
    · intro t a t' hMode hRun
      exact (leads_wsockIoctl hBack hBackParam hMode hRun).1
    · intro _
      exact Leads.pure r
  unfold wsockConnectDriven
  apply Leads.bind_with
  · intro t d t' hMode hRun
    exact derefSocket_mode hMode hRun
  · intro d hBlocking
    apply Leads.bind (Leads.beside
      (LocalCmd.read (reads_deref _ _)))
    intro _
    rw [hBlocking]
    apply Leads.ite
    · intro hMode
      cases hMode
      apply Leads.bind_with
      · intro t r t' hMode hRun
        exact leads_wsockIoctl hFlip hFlipParam hMode hRun
      · rintro ⟨_, flag⟩ hParam
        cases hParam
        apply Leads.bind (Leads.beside (local_callVxd _ _))
        intro _
        apply Leads.bind (Leads.beside
          (LocalCmd.read (Within.get fun _ => rfl)))
        intro s
        apply Leads.ite
        · intro _
          exact hReturn (-1)
        · intro _
          apply Leads.bind (Leads.beside
            (local_wsockSelectWaits _ _))
          intro _
          exact hReturn 0
    · intro _
      apply Leads.bind (Leads.beside (local_callVxd _ _))
      intro _
      apply Leads.ite
      · intro _
        exact Leads.pure _
      · intro _
        exact Leads.pure _

end Libsocket
