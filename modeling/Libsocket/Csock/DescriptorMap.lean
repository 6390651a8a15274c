import Libsocket.Csock.Usage
import Libsocket.Library.Transition

/-
  The table of descriptors against the descriptors that the
  sockets have and those that the driver has given out.

  Main declarations:
    * `KeepsMarked`, `TakesFree`
    * `exists_scan`
    * `CsockWorld`, `csockSystem`
    * `CsockWorld.Mapped`
    * `descriptor_map`
-/

namespace Libsocket

------------------------------------------------------------
-- Descriptors That Stay Marked
------------------------------------------------------------

/-
  A descriptor that is ours and marked in the table stays
  both.
-/
def KeepsMarked (s s' : CsockFds) : Prop :=
  ∀ fd, s.ours fd = true → s.table.getLsbD fd = true →
    s'.ours fd = true ∧ s'.table.getLsbD fd = true

theorem KeepsMarked.refl (s : CsockFds) : KeepsMarked s s :=
  fun _ hOurs hMarked => ⟨hOurs, hMarked⟩

theorem KeepsMarked.trans
    {s t u : CsockFds}
    (hFirst : KeepsMarked s t)
    (hRest : KeepsMarked t u) :
    KeepsMarked s u := by
  intro fd hOurs hMarked
  obtain ⟨hOurs, hMarked⟩ := hFirst fd hOurs hMarked
  exact hRest fd hOurs hMarked

theorem keepsMarked_setUsed
    (s : CsockFds)
    (fd : Nat) :
    KeepsMarked s (s.setUsed fd) :=
  fun _ hOurs hMarked =>
    ⟨hOurs, BitTable.getLsbD_set_of hMarked⟩

section Driver

variable (command : Nat) (env : TakeEnv) (fd : Nat)
variable (s : CsockFds)

theorem takeFd_owner
    (hRet : (takeFd command env fd s).1 = 0) :
    (takeFd command env fd s).2.ours =
      Function.update s.ours fd true := by
  simp only [takeFd] at hRet ⊢
  rw [if_pos hRet]

/- A call that fails changes no owner. -/
theorem takeFd_ours
    (hRet : (takeFd command env fd s).1 ≠ 0) :
    (takeFd command env fd s).2.ours = s.ours := by
  simp only [takeFd] at hRet ⊢
  rw [if_neg hRet]

theorem keepsMarked_takeFd :
    KeepsMarked s (takeFd command env fd s).2 := by
  intro i hOurs hMarked
  refine ⟨?_, hMarked⟩
  by_cases hRet : (takeFd command env fd s).1 = 0
  · rw [takeFd_owner command env fd s hRet]
    by_cases hSame : i = fd
    · rw [hSame, Function.update_self]
    · rw [Function.update_of_ne hSame]
      exact hOurs
  · rw [takeFd_ours command env fd s hRet]
    exact hOurs

/- A call that succeeds takes a descriptor nobody holds. -/
theorem takeFd_ok
    (hRet : (takeFd command env fd s).1 = 0) :
    s.ours fd = false ∧
      (takeFd command env fd s).2.ours fd = true ∧
      (takeFd command env fd s).2.calls.head? =
        some ⟨command, fd, false, 0⟩ := by
  have hFree : s.inUse env.others fd = false := by
    cases hUsed : s.inUse env.others fd with
    | false => rfl
    | true =>
        simp only [takeFd, hUsed, if_true] at hRet
        exact absurd hRet (by decide)
  have hOurs : s.ours fd = false :=
    (Bool.or_eq_false_iff.mp hFree).1
  simp only [takeFd, hFree, Bool.false_eq_true, if_false]
    at hRet ⊢
  rw [if_pos hRet, hRet, Function.update_self]
  exact ⟨hOurs, rfl, rfl⟩

theorem returnFd_ours_of_ne
    (answer : Int)
    {i : Nat}
    (hNe : i ≠ fd) :
    (returnFd answer fd s).2.ours i = s.ours i := by
  simp only [returnFd]
  split
  · exact Function.update_of_ne hNe _ _
  · rfl

end Driver

/-
  The probe gives back only what it took, and it probes what
  the table does not have.
-/
theorem keepsMarked_probe
    (env : UsageEnv)
    (fd : Nat)
    (s : CsockFds) :
    KeepsMarked s (csockFdProbe env fd s).2 := by
  unfold csockFdProbe
  by_cases hHere : s.table.getLsbD fd = true
  · rw [if_pos hHere]
    exact KeepsMarked.refl s
  · rw [if_neg hHere]
    have hTake := keepsMarked_takeFd vxdCreate env.create fd s
    have hClose : KeepsMarked s (returnFd env.closeAnswer fd
        (takeFd vxdCreate env.create fd s).2).2 := by
      intro i hOurs hMarked
      have hNe : i ≠ fd := by
        intro hSame
        rw [hSame] at hMarked
        exact hHere hMarked
      rw [returnFd_ours_of_ne fd _ _ hNe]
      exact hTake i hOurs hMarked
    dsimp only
    split
    · split
      · exact hClose
      · exact hClose.trans (keepsMarked_setUsed _ fd)
    · exact hTake.trans (keepsMarked_setUsed _ fd)

/- The mask marks what is in use, unless it is all ones. -/
theorem getLsbD_usageMask
    {env : MaskEnv}
    {s : CsockFds}
    (hMask : usageMask env s ≠ BitVec.allOnes 32)
    {fd : Nat}
    (hBound : fd < 32) :
    (usageMask env s).getLsbD fd =
      s.inUse env.others fd := by
  unfold usageMask at hMask ⊢
  dsimp only at hMask ⊢
  split at hMask
  · exact absurd rfl hMask
  · rename_i hOther
    rw [if_neg hOther, BitTable.getLsbD_ofFlags hBound]

theorem keepsMarked_getUsage
    (version : Nat)
    (env : UsageEnv)
    (fd : Nat)
    (s : CsockFds) :
    KeepsMarked s (csockFdGetUsage version env fd s).2 := by
  unfold csockFdGetUsage
  dsimp only
  split
  · by_cases hOnes : usageMask env.mask s = BitVec.allOnes 32
    · rw [if_pos hOnes]
      exact KeepsMarked.refl s
    · rw [if_neg hOnes]
      split
      · refine KeepsMarked.trans ?_
          (keepsMarked_probe env fd _)
        intro i hOurs hMarked
        refine ⟨hOurs, ?_⟩
        change (usageMask env.mask s).getLsbD i = true
        rw [getLsbD_usageMask hOnes
          (BitVec.lt_of_getLsbD hMarked), CsockFds.inUse,
          hOurs]
        rfl
      · exact keepsMarked_probe env fd s
  · exact keepsMarked_probe env fd s

------------------------------------------------------------
-- The Loop
------------------------------------------------------------

/-
  The calls that try to use a descriptor: a marked one stays
  marked, and one that is taken was free when the driver was
  called with the command.
-/
structure TakesFree (command : Nat) (tries : TryFd) : Prop where
  keeps : ∀ i s, KeepsMarked s (tries i s).2
  takes : ∀ i s, (tries i s).1 = 0 →
    s.ours i = false ∧ (tries i s).2.ours i = true ∧
      (tries i s).2.calls.head? =
        some ⟨command, i, false, 0⟩

theorem takesFree_create (env : Nat → TakeEnv) :
    TakesFree vxdCreate
      (fun i => takeFd vxdCreate (env i) i) where
  keeps := fun i s => keepsMarked_takeFd vxdCreate (env i) i s
  takes := fun i s => takeFd_ok vxdCreate (env i) i s

theorem takesFree_accept
    (blocking : Bool)
    (tries : Nat → AcceptTries) :
    TakesFree vxdAccept (fun i =>
      csockTryAccept blocking (tries i).last i
        (tries i).early) where
  keeps := by
    intro i s
    generalize (tries i).early = early
    induction early generalizing s with
    | nil => exact keepsMarked_takeFd _ _ _ _
    | cons env early ih =>
        have hHere := keepsMarked_takeFd vxdAccept env i s
        simp only [csockTryAccept]
        split
        · exact hHere.trans (ih _)
        · exact hHere
  takes := by
    intro i s
    generalize (tries i).early = early
    induction early generalizing s with
    | nil => exact takeFd_ok _ _ _ _
    | cons env early ih =>
        simp only [csockTryAccept]
        by_cases hAgain : blocking ∧
            (takeFd vxdAccept env i s).1 =
              -csockErrWouldBlock
        · rw [if_pos hAgain]
          have hSame := takeFd_ours vxdAccept env i s (by
            rw [hAgain.2]
            decide)
          intro hRet
          have hRest := ih _ hRet
          rw [hSame] at hRest
          exact hRest
        · rw [if_neg hAgain]
          exact takeFd_ok vxdAccept env i s

section Search

variable {version : Nat} {usage : Nat → UsageEnv}
variable {command : Nat} {tries : TryFd}

theorem keepsMarked_search
    (hTries : TakesFree command tries)
    (remaining i : Nat)
    (ret : Int)
    (s : CsockFds) :
    KeepsMarked s (csockSearch version usage tries remaining
      i ret s).2 := by
  induction remaining generalizing i ret s with
  | zero => exact KeepsMarked.refl s
  | succ remaining ih =>
      have hUsage :=
        keepsMarked_getUsage version (usage i) i s
      have hTry := hUsage.trans (hTries.keeps i
        (csockFdGetUsage version (usage i) i s).2)
      simp only [csockSearch]
      split
      · exact hUsage.trans (ih _ _ _)
      · split
        · exact hTry
        · split
          · exact hTry
          · exact (hTry.trans (keepsMarked_setUsed _ i)).trans
              (ih _ _ _)

/- What the loop takes was not one of our marked ones. -/
theorem search_takes
    (hTries : TakesFree command tries)
    {remaining i fd : Nat}
    {ret ret' : Int}
    {s s' : CsockFds}
    (hRun : csockSearch version usage tries remaining i ret s =
      ((some fd, ret'), s')) :
    fd < i + remaining ∧ s'.ours fd = true ∧
      ¬ (s.ours fd = true ∧ s.table.getLsbD fd = true) ∧
      s'.calls.head? = some ⟨command, fd, false, 0⟩ := by
  induction remaining generalizing i ret s with
  | zero => cases hRun
  | succ remaining ih =>
      have hUsage :=
        keepsMarked_getUsage version (usage i) i s
      have hTry := hUsage.trans (hTries.keeps i
        (csockFdGetUsage version (usage i) i s).2)
      have hLater : ∀ {ret t}, KeepsMarked s t →
          csockSearch version usage tries remaining (i + 1)
            ret t = ((some fd, ret'), s') →
          fd < i + (remaining + 1) ∧ s'.ours fd = true ∧
            ¬ (s.ours fd = true ∧
              s.table.getLsbD fd = true) ∧
            s'.calls.head? =
              some ⟨command, fd, false, 0⟩ := by
        intro ret t hKeeps hRest
        obtain ⟨hBound, hOurs, hNot, hCall⟩ := ih hRest
        refine ⟨by omega, hOurs, ?_, hCall⟩
        intro hMarked
        exact hNot (hKeeps fd hMarked.1 hMarked.2)
      simp only [csockSearch] at hRun
      split at hRun
      · exact hLater hUsage hRun
      · split at hRun
        · rename_i hRet
          obtain ⟨hFree, hOurs, hCall⟩ := hTries.takes i _ hRet
          cases hRun
          refine ⟨by omega, hOurs, ?_, hCall⟩
          intro hMarked
          have hStill := hUsage fd hMarked.1 hMarked.2
          rw [hFree] at hStill
          cases hStill.1
        · split at hRun
          · cases hRun
          · exact hLater
              (hTry.trans (keepsMarked_setUsed _ i)) hRun

end Search

------------------------------------------------------------
-- The Earlier Model Of The Loop
------------------------------------------------------------

/- The loop looks at no descriptor below the first. -/
theorem csockScan_congr
    {scan scan' : CsockScan}
    {remaining i : Nat}
    {ret : Int}
    (hSame : ∀ j, i ≤ j → scan.usage j = scan'.usage j ∧
      scan.answer j = scan'.answer j) :
    csockScan scan remaining i ret =
      csockScan scan' remaining i ret := by
  induction remaining generalizing i ret with
  | zero => rfl
  | succ remaining ih =>
      obtain ⟨hUsage, hAnswer⟩ := hSame i (Nat.le_refl i)
      have hRest : ∀ ret,
          csockScan scan remaining (i + 1) ret =
            csockScan scan' remaining (i + 1) ret := by
        intro ret
        apply ih
        intro j hLater
        exact hSame j (by omega)
      simp only [csockScan, hUsage, hAnswer, hRest]

/-
  With the answers that the loop gets in a run, the model
  that is given its answers takes the same descriptor.
-/
theorem exists_scan
    (version : Nat)
    (usage : Nat → UsageEnv)
    (tries : TryFd)
    (remaining i : Nat)
    (ret : Int)
    (s : CsockFds) :
    ∃ scan, csockScan scan remaining i ret =
      (csockSearch version usage tries remaining i ret s).1 := by
  induction remaining generalizing i ret s with
  | zero => exact ⟨⟨fun _ => false, fun _ => 0⟩, rfl⟩
  | succ remaining ih =>
      let used := (csockFdGetUsage version (usage i) i s).1
      let now := (csockFdGetUsage version (usage i) i s).2
      let last := (tries i now).1
      -- The answers for `i`, in front of those behind it.
      have hFront : ∀ scan : CsockScan, ∃ scan' : CsockScan,
          scan'.usage i = used ∧ scan'.answer i = last ∧
            ∀ ret, csockScan scan' remaining (i + 1) ret =
              csockScan scan remaining (i + 1) ret := by
        intro scan
        refine ⟨⟨Function.update scan.usage i used,
          Function.update scan.answer i last⟩,
          Function.update_self _ _ _,
          Function.update_self _ _ _, ?_⟩
        intro ret
        apply csockScan_congr
        intro j hLater
        have hNe : j ≠ i := by omega
        exact ⟨Function.update_of_ne hNe _ _,
          Function.update_of_ne hNe _ _⟩
      cases hUsed : used with
      | true =>
          obtain ⟨scan, hScan⟩ := ih (i + 1) ret now
          obtain ⟨scan', hUsage, -, hRest⟩ := hFront scan
          refine ⟨scan', ?_⟩
          simp only [csockScan, csockSearch, hUsage, hUsed,
            hRest, hScan]
          simp only [used] at hUsed
          rw [hUsed]
          rfl
      | false =>
          obtain ⟨scan, hScan⟩ := ih (i + 1) last
            ((tries i now).2.setUsed i)
          obtain ⟨scan', hUsage, hAnswer, hRest⟩ :=
            hFront scan
          refine ⟨scan', ?_⟩
          simp only [csockScan, csockSearch, hUsage, hAnswer,
            hUsed, hRest, hScan]
          simp only [used] at hUsed
          rw [hUsed]
          simp only [Bool.false_eq_true, if_false]
          change _ = Prod.fst (if last = 0 then _ else
            if last ≠ -csockErrFdInuse then _ else _)
          split
          · rfl
          · split
            · rfl
            · rfl

------------------------------------------------------------
-- Runs
------------------------------------------------------------

/- The library's table and the live sockets' descriptors. -/
structure CsockWorld where
  fds : CsockFds
  live : Nat → Option Nat

/-
  A call on sockets. After a close that fails the descriptor
  structure may be gone all the same.
-/
inductive FdsCall
  | socket (p : Nat) (env : SocketFdsEnv)
  | accept (p np : Nat) (env : AcceptFdsEnv)
  | close (p : Nat) (answer : Int) (kept : Bool)

namespace CsockWorld

/- A new socket at `p`, if it got a descriptor. -/
def adopt
    (w : CsockWorld)
    (p : Nat)
    (result : Option Nat × CsockFds) : CsockWorld where
  fds := result.2
  live :=
    match result.1 with
    | none => w.live
    | some fd => Function.update w.live p (some fd)

/- The socket at `p` closed, or gone without that. -/
def leave
    (w : CsockWorld)
    (p : Nat)
    (kept : Bool)
    (result : Bool × CsockFds) : CsockWorld where
  fds := result.2
  live :=
    if result.1 = false ∧ kept then
      w.live
    else
      Function.update w.live p none

end CsockWorld

def csockStep
    (version : Nat)
    (w : CsockWorld)
    (call : FdsCall)
    (w' : CsockWorld) : Prop :=
  match call with
  | .socket p env =>
      w.live p = none ∧
        w' = w.adopt p (csockSocketFds version env w.fds)
  | .accept p np env =>
      (∃ fd, w.live p = some fd) ∧ w.live np = none ∧
        w' = w.adopt np (csockAcceptFds version env w.fds)
  | .close p answer kept =>
      ∃ fd, w.live p = some fd ∧
        w' = w.leave p kept (csockCloseFds answer fd w.fds)

/- All runs with one version of the driver. -/
def csockSystem (version : Nat) :
    TransitionSystem CsockWorld FdsCall where
  init := fun w => w = ⟨.start, fun _ => none⟩
  step := csockStep version

/-
  The driver has given each live socket its descriptor, the
  table has it, and no two sockets share one.
-/
structure CsockWorld.Mapped (w : CsockWorld) : Prop where
  ours : ∀ p fd, w.live p = some fd → w.fds.ours fd = true
  marked : ∀ p fd, w.live p = some fd →
    w.fds.table.getLsbD fd = true
  apart : ∀ p q fd, w.live p = some fd →
    w.live q = some fd → p = q

section Steps

variable {version : Nat} {w : CsockWorld}

/-
  A descriptor that is adopted is ours and marked; it was not
  both before, and the last call found it free.
-/
def Adopts
    (s : CsockFds)
    (result : Option Nat × CsockFds) : Prop :=
  KeepsMarked s result.2 ∧ ∀ fd, result.1 = some fd →
    result.2.ours fd = true ∧
      result.2.table.getLsbD fd = true ∧
      ¬ (s.ours fd = true ∧ s.table.getLsbD fd = true) ∧
      ∃ command, result.2.calls.head? =
        some ⟨command, fd, false, 0⟩

theorem adopts_csockAdopt
    {command : Nat}
    {tries : TryFd}
    (hTries : TakesFree command tries)
    (usage : Nat → UsageEnv)
    (s : CsockFds) :
    Adopts s (csockAdopt version usage tries s) := by
  have hKeeps := @keepsMarked_search version usage command
    tries hTries 31 1 (-1) s
  unfold csockAdopt
  cases hRun : csockSearch version usage tries 31 1 (-1) s with
  | mk found s₁ =>
      obtain ⟨taken, ret⟩ := found
      rw [hRun] at hKeeps
      cases taken with
      | none => exact ⟨hKeeps, fun _ hNone => nomatch hNone⟩
      | some i =>
          obtain ⟨hBound, hOurs, hNot, hCall⟩ :=
            search_takes hTries hRun
          refine ⟨hKeeps.trans (keepsMarked_setUsed s₁ i), ?_⟩
          intro fd hFd
          cases hFd
          exact ⟨hOurs, BitTable.getLsbD_set_self hBound,
            hNot, command, hCall⟩

theorem adopts_none (s : CsockFds) : Adopts s (none, s) :=
  ⟨KeepsMarked.refl s, fun _ hNone => nomatch hNone⟩

theorem adopts_socket (env : SocketFdsEnv) (s : CsockFds) :
    Adopts s (csockSocketFds version env s) := by
  unfold csockSocketFds
  split
  · exact adopts_csockAdopt (takesFree_create _) _ s
  · exact adopts_none s

theorem adopts_accept (env : AcceptFdsEnv) (s : CsockFds) :
    Adopts s (csockAcceptFds version env s) := by
  unfold csockAcceptFds
  split
  · exact adopts_csockAdopt (takesFree_accept _ _) _ s
  · exact adopts_none s

theorem CsockWorld.Mapped.adopt
    {p : Nat}
    {result : Option Nat × CsockFds}
    (hMapped : w.Mapped)
    (hAdopts : Adopts w.fds result) :
    (w.adopt p result).Mapped := by
  obtain ⟨hKeeps, hNew⟩ := hAdopts
  -- What the live sockets have stays theirs.
  have hOld : ∀ q fd, w.live q = some fd →
      result.2.ours fd = true ∧
        result.2.table.getLsbD fd = true := by
    intro q fd hLive
    exact hKeeps fd (hMapped.ours q fd hLive)
      (hMapped.marked q fd hLive)
  cases hResult : result.1 with
  | none =>
      have hSame : (w.adopt p result).live = w.live := by
        simp only [CsockWorld.adopt, hResult]
      refine ⟨?_, ?_, ?_⟩
      · intro q fd hLive
        rw [hSame] at hLive
        exact (hOld q fd hLive).1
      · intro q fd hLive
        rw [hSame] at hLive
        exact (hOld q fd hLive).2
      · intro q r fd hLeft hRight
        rw [hSame] at hLeft hRight
        exact hMapped.apart q r fd hLeft hRight
  | some i =>
      obtain ⟨hOurs, hMarked, hNot, -⟩ := hNew i hResult
      have hOther : ∀ q, w.live q ≠ some i := by
        intro q hLive
        exact hNot ⟨hMapped.ours q i hLive,
          hMapped.marked q i hLive⟩
      have hNow : (w.adopt p result).live =
          Function.update w.live p (some i) := by
        simp only [CsockWorld.adopt, hResult]
      have hCases : ∀ q fd,
          (w.adopt p result).live q = some fd →
          q = p ∧ fd = i ∨ q ≠ p ∧ w.live q = some fd := by
        intro q fd hLive
        rw [hNow] at hLive
        by_cases hSame : q = p
        · rw [hSame, Function.update_self] at hLive
          exact .inl ⟨hSame, (Option.some.inj hLive).symm⟩
        · rw [Function.update_of_ne hSame] at hLive
          exact .inr ⟨hSame, hLive⟩
      refine ⟨?_, ?_, ?_⟩
      · intro q fd hLive
        obtain ⟨-, rfl⟩ | ⟨-, hLive⟩ := hCases q fd hLive
        · exact hOurs
        · exact (hOld q fd hLive).1
      · intro q fd hLive
        obtain ⟨-, rfl⟩ | ⟨-, hLive⟩ := hCases q fd hLive
        · exact hMarked
        · exact (hOld q fd hLive).2
      · intro q r fd hLeft hRight
        obtain ⟨hQ, hI⟩ | ⟨-, hLeft⟩ := hCases q fd hLeft
        · obtain ⟨hR, -⟩ | ⟨-, hRight⟩ := hCases r fd hRight
          · rw [hQ, hR]
          · rw [hI] at hRight
            exact absurd hRight (hOther r)
        · obtain ⟨-, hI⟩ | ⟨-, hRight⟩ := hCases r fd hRight
          · rw [hI] at hLeft
            exact absurd hLeft (hOther q)
          · exact hMapped.apart q r fd hLeft hRight

/- A close that succeeds, and one that fails. -/
theorem csockCloseFds_closed
    (fd : Nat)
    (s : CsockFds) :
    (csockCloseFds 0 fd s).1 = true ∧
      (csockCloseFds 0 fd s).2.ours =
        Function.update s.ours fd false ∧
      (csockCloseFds 0 fd s).2.table =
        BitTable.toggle s.table fd :=
  ⟨rfl, rfl, rfl⟩

theorem csockCloseFds_failed
    {answer : Int}
    (hAnswer : answer ≠ 0)
    (fd : Nat)
    (s : CsockFds) :
    (csockCloseFds answer fd s).1 = false ∧
      (csockCloseFds answer fd s).2.ours = s.ours ∧
      (csockCloseFds answer fd s).2.table = s.table := by
  simp only [csockCloseFds, returnFd, if_neg hAnswer]
  exact ⟨trivial, trivial, trivial⟩

theorem CsockWorld.Mapped.leave
    {p fd : Nat}
    {answer : Int}
    {kept : Bool}
    (hMapped : w.Mapped)
    (hLive : w.live p = some fd) :
    (w.leave p kept (csockCloseFds answer fd w.fds)).Mapped := by
  have hLater : ∀ {result : Bool × CsockFds} {q i},
      (w.leave p kept result).live q = some i →
      w.live q = some i ∧ (result.1 = true → q ≠ p) := by
    intro result q i hLive
    simp only [CsockWorld.leave] at hLive
    split at hLive
    · rename_i hFailed
      refine ⟨hLive, ?_⟩
      intro hClosed
      rw [hFailed.1] at hClosed
      cases hClosed
    · by_cases hSame : q = p
      · rw [hSame, Function.update_self] at hLive
        cases hLive
      · rw [Function.update_of_ne hSame] at hLive
        exact ⟨hLive, fun _ => hSame⟩
  have hOld : ∀ q i,
      (w.leave p kept (csockCloseFds answer fd w.fds)).live q =
        some i →
      (csockCloseFds answer fd w.fds).2.ours i = true ∧
        (csockCloseFds answer fd w.fds).2.table.getLsbD i =
          true := by
    intro q i hAfter
    obtain ⟨hBefore, hNe⟩ := hLater hAfter
    have hOurs := hMapped.ours q i hBefore
    have hMarked := hMapped.marked q i hBefore
    by_cases hRet : answer = 0
    · cases hRet
      obtain ⟨hClosed, hOwner, hTable⟩ :=
        csockCloseFds_closed fd w.fds
      have hApart : i ≠ fd := by
        intro hSame
        rw [hSame] at hBefore
        exact hNe hClosed
          (hMapped.apart q p fd hBefore hLive)
      rw [hOwner, hTable, Function.update_of_ne hApart,
        BitTable.getLsbD_toggle_of_ne _ hApart]
      exact ⟨hOurs, hMarked⟩
    · obtain ⟨-, hOwner, hTable⟩ :=
        csockCloseFds_failed hRet fd w.fds
      rw [hOwner, hTable]
      exact ⟨hOurs, hMarked⟩
  refine ⟨fun q i hLive => (hOld q i hLive).1,
    fun q i hLive => (hOld q i hLive).2, ?_⟩
  intro q r i hLeft hRight
  exact hMapped.apart q r i (hLater hLeft).1
    (hLater hRight).1

theorem mapped_step
    {w' : CsockWorld}
    {call : FdsCall}
    (hMapped : w.Mapped)
    (hStep : csockStep version w call w') :
    w'.Mapped := by
  cases call with
  | socket p env =>
      obtain ⟨-, rfl⟩ := hStep
      exact hMapped.adopt (adopts_socket env w.fds)
  | accept p np env =>
      obtain ⟨-, -, rfl⟩ := hStep
      exact hMapped.adopt (adopts_accept env w.fds)
  | close p answer kept =>
      obtain ⟨fd, hLive, rfl⟩ := hStep
      exact hMapped.leave hLive

theorem mapped_reachable
    (hReach : (csockSystem version).Reachable w) :
    w.Mapped := by
  apply hReach.invariant
  · intro w hInit
    cases hInit
    constructor
    · intro p fd hNone
      cases hNone
    · intro p fd hNone
      cases hNone
    · intro p q fd hNone
      cases hNone
  · intro w call w' hMapped _ hStep
    exact mapped_step hMapped hStep

/- Closing turns over a bit that is set. -/
theorem close_clears
    {p fd : Nat}
    (answer : Int)
    (hMapped : w.Mapped)
    (hLive : w.live p = some fd) :
    let s := (csockCloseFds answer fd w.fds).2
    (answer = 0 → s.table.getLsbD fd = false) ∧
      ∀ i, s.table.getLsbD i = true →
        w.fds.table.getLsbD i = true := by
  have hMarked := hMapped.marked p fd hLive
  dsimp only
  by_cases hRet : answer = 0
  · cases hRet
    rw [(csockCloseFds_closed fd w.fds).2.2]
    constructor
    · intro _
      exact BitTable.getLsbD_toggle_self hMarked
    · intro i hAfter
      exact BitTable.getLsbD_of_toggle hMarked hAfter
  · rw [(csockCloseFds_failed hRet fd w.fds).2.2]
    constructor
    · intro hZero
      exact absurd hZero hRet
    · intro i hAfter
      exact hAfter

/- A socket that is new has the descriptor of the last call. -/
theorem adopts_fresh
    {w' : CsockWorld}
    {call : FdsCall}
    (hStep : csockStep version w call w')
    {p fd : Nat}
    (hBefore : w.live p = none)
    (hAfter : w'.live p = some fd) :
    ∃ command, w'.fds.calls.head? =
      some ⟨command, fd, false, 0⟩ := by
  have hAdopted : ∀ {q} {result : Option Nat × CsockFds},
      Adopts w.fds result → w' = w.adopt q result →
      ∃ command, w'.fds.calls.head? =
        some ⟨command, fd, false, 0⟩ := by
    intro q result hAdopts hNow
    rw [hNow] at hAfter ⊢
    simp only [CsockWorld.adopt] at hAfter ⊢
    cases hResult : result.1 with
    | none =>
        rw [hResult] at hAfter
        dsimp only at hAfter
        rw [hBefore] at hAfter
        cases hAfter
    | some i =>
        rw [hResult] at hAfter
        have hSame : i = fd := by
          by_cases hQ : p = q
          · rw [hQ] at hAfter
            simpa using hAfter
          · dsimp only at hAfter
            rw [Function.update_of_ne hQ, hBefore] at hAfter
            cases hAfter
        rw [hSame] at hResult
        exact (hAdopts.2 fd hResult).2.2.2
  cases call with
  | socket q env =>
      exact hAdopted (adopts_socket env w.fds) hStep.2
  | accept q nq env =>
      exact hAdopted (adopts_accept env w.fds) hStep.2.2
  | close q answer kept =>
      obtain ⟨i, -, hNow⟩ := hStep
      rw [hNow] at hAfter
      simp only [CsockWorld.leave] at hAfter
      split at hAfter
      · rw [hBefore] at hAfter
        cases hAfter
      · by_cases hQ : p = q
        · rw [hQ, Function.update_self] at hAfter
          cases hAfter
        · rw [Function.update_of_ne hQ, hBefore] at hAfter
          cases hAfter

end Steps

/-
  In every run, whatever other processes do between the calls
  of the driver: the table has the descriptor of each live
  socket, a close clears its bit and sets none, and a new
  socket has a descriptor that was not in use when the driver
  gave it out.
-/
theorem descriptor_map
    {version : Nat}
    {w : CsockWorld}
    (hReach : (csockSystem version).Reachable w) :
    (∀ p fd, w.live p = some fd →
      w.fds.table.getLsbD fd = true) ∧
    (∀ p answer kept w',
      csockStep version w (.close p answer kept) w' →
      ∃ fd, w.live p = some fd ∧
        (answer = 0 → w'.fds.table.getLsbD fd = false) ∧
        ∀ i, w'.fds.table.getLsbD i = true →
          w.fds.table.getLsbD i = true) ∧
    (∀ call w' p fd, csockStep version w call w' →
      w.live p = none → w'.live p = some fd →
      ∃ command, w'.fds.calls.head? =
        some ⟨command, fd, false, 0⟩) := by
  have hMapped := mapped_reachable hReach
  refine ⟨hMapped.marked, ?_, ?_⟩
  · rintro p answer kept w' ⟨fd, hLive, rfl⟩
    exact ⟨fd, hLive, close_clears answer hMapped hLive⟩
  · intro call w' p fd hStep hBefore hAfter
    exact adopts_fresh hStep hBefore hAfter

/-
  Descriptor 1 is held by another process while a socket is
  created.
-/
def busyUsage : UsageEnv where
  mask := ⟨fun i => i == 1, false⟩
  create := ⟨fun i => i == 1, 0⟩
  closeAnswer := 0

def busyCreate : SocketFdsEnv where
  memory := true
  usage := fun _ => busyUsage
  create := fun _ => ⟨fun i => i == 1, 0⟩

def busyWorld : CsockWorld :=
  CsockWorld.adopt ⟨.start, fun _ => none⟩ 0
    (csockSocketFds 1 busyCreate .start)

theorem busy_mapped :
    busyWorld.live 0 = some 2 ∧
      busyWorld.fds.table.getLsbD 2 = true := by
  have hLive : busyWorld.live 0 = some 2 := by
    decide +kernel
  have hReach : (csockSystem 1).Reachable busyWorld :=
    .step (a := .socket 0 busyCreate) (.init rfl) trivial
      ⟨rfl, rfl⟩
  exact ⟨hLive, (descriptor_map hReach).1 0 2 hLive⟩

end Libsocket
