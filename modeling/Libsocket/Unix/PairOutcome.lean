import Libsocket.Unix.PairCleanup
import Libsocket.Unix.Peers

/-
  What `socketpair` leaves on a Unix pair: two bound ends
  that lead to each other, or the state before the call.

  Main declarations:
    * `socketpairInto`, `AllOrNothing`
    * `ReachesLoop`
    * `socketpair_allOrNothing_iff`
-/

namespace Libsocket

open Command

------------------------------------------------------------
-- The Write Ends
------------------------------------------------------------

/- A mailslot opens under the number it is given. -/
theorem openFile_number
    {env : OpenEnv}
    {x : Bytes}
    {s s' : Process}
    {fd : Fd}
    (hRun : openFile env (unixLocalPath ++ x) .wronly s =
      .ok (fd, s'))
    (hOpen : fd ≠ -1) :
    env.number = some fd := by
  unfold openFile at hRun
  rw [afterPrefix_local] at hRun
  rcases bind_eq_ok.mp hRun with ⟨name, t, -, hMail⟩
  rcases bind_eq_ok.mp hMail with ⟨n, u, hAlloc, hTail⟩
  rcases allocFd_ok hAlloc with ⟨rfl, -⟩ | ⟨hNumber, hLow, -, -⟩
  · rw [if_pos rfl] at hTail
    cases hTail
    exact absurd rfl hOpen
  · have hNe : n ≠ -1 := by
      rintro rfl
      exact absurd hLow (by decide)
    rw [if_neg hNe] at hTail
    cases hTail
    exact hNumber

/- One round of the loop, and what it opens. -/
theorem openPairEnd_opens
    {env : OpenEnv}
    {q : Ptr}
    {dest : Bytes}
    {usock : LsckSocketUnix}
    {s t : Process}
    {fd : Fd}
    (hData : s.heap q = some (.unix usock))
    (hRun : openPairEnd env (some q) dest s = .ok (fd, t)) :
    (∃ u, Opens fd s u ∧ t.fds = u.fds) ∧
    (∃ fdW, t.heap = Function.update s.heap q
        (some (.unix { usock with fdW := fdW })) ∧
      (fd ≠ -1 → fdW = fd) ∧ (fd = -1 → fdW = usock.fdW)) ∧
    (fd ≠ -1 ↔ env.Granted s) ∧
    (fd ≠ -1 → env.number = some fd ∧ ∃ m,
      sendName (unixLocalPath ++ dest) = some m ∧
      t.WritesTo fd m) := by
  rcases bind_eq_ok.mp hRun with ⟨path, v, hFits, hOpened⟩
  rcases fits_ok hFits with ⟨rfl, rfl, -⟩
  rcases bind_eq_ok.mp hOpened with ⟨fd', u, hOpen, hStore⟩
  have hOpens := openFile_ok hOpen
  have hGranted := openFile_granted hOpen
  rcases bind_eq_ok.mp hStore with ⟨_, v, hWhen, hPure⟩
  cases hPure
  by_cases hFd : fd = -1
  · rw [when, if_neg (not_not.mpr hFd)] at hWhen
    cases hWhen
    refine ⟨⟨t, hOpens, rfl⟩, ⟨usock.fdW, ?_,
      fun hNe => absurd hFd hNe, fun _ => rfl⟩, hGranted,
      fun hNe => absurd hFd hNe⟩
    rw [hOpens.heap]
    exact (Function.update_eq_self_iff.mpr hData.symm).symm
  · rw [when, if_pos hFd] at hWhen
    rcases modifyUnix_some hWhen with ⟨b, hB, hHeap, hFds, -⟩
    rw [hOpens.heap, hData] at hB
    cases hB
    rw [hOpens.heap] at hHeap
    rcases openFile_writesTo hOpen hFd with ⟨m, hM, hWrites⟩
    exact ⟨⟨u, hOpens, hFds⟩, ⟨fd, hHeap, fun _ => rfl,
      fun hIs => absurd hIs hFd⟩, hGranted,
      fun _ => ⟨openFile_number hOpen hFd, m, hM,
        hWrites.of_fds hFds⟩⟩

/- Both rounds of the loop open a file. -/
def UnixSocketpairEnv.WriteEndsOpen
    (env : UnixSocketpairEnv)
    (s : Process) : Prop :=
  env.open₀.Granted s ∧ env.open₁.Granted s ∧
    env.open₀.number ≠ env.open₁.number

/- The mailslot that one end writes to. -/
def Process.WritesPath
    (s : Process)
    (fd : Fd)
    (path : Bytes) : Prop :=
  ∃ m, sendName (unixLocalPath ++ path) = some m ∧
    s.WritesTo fd m

/-
  The data of two ends behind the loop. A round that did not
  open a file has left its end without one.
-/
structure Looped
    (env : UnixSocketpairEnv)
    (q₀ q₁ : Ptr)
    (path₀ path₁ : Bytes)
    (u₀ u₁ x₀ x₁ : LsckSocketUnix)
    (s t : Process) : Prop where
  left : t.heap q₀ = some (.unix x₀)
  right : t.heap q₁ = some (.unix x₁)
  reads : x₀.fdR = u₀.fdR ∧ x₁.fdR = u₁.fdR
  others : ∀ r, r ≠ q₀ → r ≠ q₁ → t.heap r = s.heap r
  kept : ∀ n, (s.fds n).dosOpen = true → t.fds n = s.fds n
  noFile : t.fds (-1) = FdEntry.unused
  opened : env.WriteEndsOpen s →
    t.WritesPath x₀.fdW path₁ ∧ t.WritesPath x₁.fdW path₀
  failed : ¬ env.WriteEndsOpen s →
    x₀.fdW = -1 ∨ x₁.fdW = -1

/- An open leaves the number -1 unused. -/
theorem Opens.noFile
    {fd : Fd}
    {s t : Process}
    (hOpens : Opens fd s t)
    (hNone : s.fds (-1) = FdEntry.unused) :
    t.fds (-1) = FdEntry.unused := by
  rcases hOpens.fds with ⟨-, hSame⟩ | ⟨hSome, -, -, hRest⟩
  · rw [hSame, hNone]
  · rw [hRest _ (Ne.symm hSome), hNone]

/- What is granted behind a file that was opened. -/
theorem OpenEnv.granted_after
    {env : OpenEnv}
    {fd : Fd}
    {s t : Process}
    (hOpens : Opens fd s t)
    (hFd : fd ≠ -1) :
    env.Granted t ↔ env.Granted s ∧ env.number ≠ some fd := by
  rcases hOpens.fds with ⟨hNo, -⟩ | ⟨-, -, hUsed, hRest⟩
  · exact absurd hNo hFd
  constructor
  · rintro ⟨n, hN, hLow, hFree⟩
    have hNe : n ≠ fd := by
      rintro rfl
      rw [hUsed] at hFree
      cases hFree
    rw [hRest n hNe] at hFree
    refine ⟨⟨n, hN, hLow, hFree⟩, ?_⟩
    rw [hN]
    exact fun hSame => hNe (Option.some.inj hSame)
  · rintro ⟨⟨n, hN, hLow, hFree⟩, hOther⟩
    have hNe : n ≠ fd := by
      rintro rfl
      exact hOther hN
    refine ⟨n, hN, hLow, ?_⟩
    rw [hRest n hNe, hFree]

theorem pairStream_loops
    {env : UnixSocketpairEnv}
    {q₀ q₁ : Ptr}
    {path₀ path₁ : Bytes}
    {u₀ u₁ : LsckSocketUnix}
    {s t : Process}
    (hNe : q₀ ≠ q₁)
    (hData₀ : s.heap q₀ = some (.unix u₀))
    (hData₁ : s.heap q₁ = some (.unix u₁))
    (hNew₀ : u₀.fdW = -1)
    (hNew₁ : u₁.fdW = -1)
    (hNone : s.fds (-1) = FdEntry.unused)
    (hRun : pairStream env (some q₀) (some q₁) path₀ path₁ s =
      .ok ((), t)) :
    ∃ x₀ x₁, Looped env q₀ q₁ path₀ path₁ u₀ u₁ x₀ x₁ s t := by
  rcases pairStream_prepares hNe hData₀ hData₁ hRun with
    ⟨v, fd, w, hFds, hLeft, hRight, hOther, hOpen₀, hLast⟩
  rcases openPairEnd_opens hLeft hOpen₀ with
    ⟨⟨w', hOpens, hFdsW⟩, ⟨fdW, hHeap, hIs, hNot⟩, hGranted,
      hWrites⟩
  rw [OpenEnv.Granted.of_fds hFds] at hGranted
  have hPair := PairHeap.setLeft ⟨hLeft, hRight, hOther⟩ hNe
    hHeap
  have hKept : ∀ n, (s.fds n).dosOpen = true →
      w.fds n = s.fds n := by
    intro n hOpen
    rw [← hFds] at hOpen
    rw [hFdsW, hOpens.entry hOpen, hFds]
  have hNoneW : w.fds (-1) = FdEntry.unused := by
    rw [hFdsW]
    exact hOpens.noFile (by rw [hFds, hNone])
  rcases hLast with ⟨hFd, rfl⟩ | ⟨hFd, fd', hOpen₁⟩
  -- The first round has not opened a file.
  · have hNoOpen : ¬ env.WriteEndsOpen s := by
      intro hBoth
      exact hGranted.mpr hBoth.1 hFd
    refine ⟨_, _, hPair.left, hPair.right, ⟨rfl, rfl⟩,
      hPair.other, hKept, hNoneW,
      fun hBoth => absurd hBoth hNoOpen, fun _ => .inl ?_⟩
    exact (hNot hFd).trans hNew₀
  · rcases openPairEnd_opens hPair.right hOpen₁ with
      ⟨⟨w'', hOpens', hFdsT⟩, ⟨fdW', hHeap', hIs', hNot'⟩,
        hGranted', hWrites'⟩
    rcases hWrites hFd with ⟨hNumber, m, hM, hTo⟩
    have hBothIff : fd' ≠ -1 ↔ env.WriteEndsOpen s := by
      rw [hGranted', OpenEnv.Granted.of_fds hFdsW,
        OpenEnv.granted_after hOpens hFd,
        OpenEnv.Granted.of_fds hFds, ← hNumber]
      unfold UnixSocketpairEnv.WriteEndsOpen
      rw [and_iff_right (hGranted.mp hFd)]
      exact and_congr_right fun _ => ne_comm
    have hTo' : t.WritesTo fd m := by
      rcases hTo with ⟨me, name, hMail, hRest⟩
      refine ⟨me, name, ?_, hRest⟩
      unfold Process.HasMailslot at hMail ⊢
      rw [hFdsT, hOpens'.entry (by rw [hMail]), hMail]
    have hEnds := hPair.setRight hNe hHeap'
    refine ⟨_, _, hEnds.left, hEnds.right, ⟨rfl, rfl⟩,
      hEnds.other, ?_, ?_, ?_, ?_⟩
    · intro n hOpen
      have hSame := hKept n hOpen
      rw [hFdsT, hOpens'.entry (by rw [hSame, hOpen]), hSame]
    · rw [hFdsT]
      exact hOpens'.noFile hNoneW
    · intro hBoth
      have hFd' := hBothIff.mpr hBoth
      refine ⟨⟨m, hM, ?_⟩, ?_⟩
      · change t.WritesTo fdW m
        rw [hIs hFd]
        exact hTo'
      · change t.WritesPath fdW' path₀
        rw [hIs' hFd']
        exact (hWrites' hFd').2
    · intro hNotBoth
      right
      have hFd' : fd' = -1 := by
        by_contra hSome
        exact hNotBoth (hBothIff.mp hSome)
      exact (hNot' hFd').trans hNew₁

------------------------------------------------------------
-- Bound Ends
------------------------------------------------------------

/- A bound Unix socket that reads from a mailslot. -/
structure Process.BoundEnd
    (s : Process)
    (fd : Fd)
    (p : Ptr)
    (usock : LsckSocketUnix)
    (m : Bytes) : Prop where
  leads : s.LeadsTo fd p
  bound : ∃ d, s.HasUnix p d usock ∧
    d.interface = some .unix ∧ d.bound = true
  reads : s.ReadsFrom usock.fdR m

/- What is left alone stays bound. -/
theorem Process.BoundEnd.of_sameUnix
    {fd : Fd}
    {p : Ptr}
    {usock : LsckSocketUnix}
    {m : Bytes}
    {s t : Process}
    (hEnd : s.BoundEnd fd p usock m)
    (hFds : t.fds = s.fds)
    (hSame : SameUnix s t) :
    t.BoundEnd fd p usock m := by
  rcases hEnd.bound with ⟨d, hUnix, hInterface, hBound⟩
  rcases hSame p d usock hUnix with ⟨e, hUnix', hStatus⟩
  constructor
  · unfold Process.LeadsTo
    rw [hFds]
    exact hEnd.leads
  · have hI := congrArg LsckSocket.interface hStatus
    have hB := congrArg LsckSocket.bound hStatus
    exact ⟨e, hUnix', hI.trans hInterface, hB.trans hBound⟩
  · exact hEnd.reads.of_fds hFds

/- A mailslot that stays open keeps what is read from it. -/
theorem Process.ReadsFrom.of_kept
    {fd : Fd}
    {m : Bytes}
    {s t : Process}
    (hReads : s.ReadsFrom fd m)
    (hKept : ∀ n, (s.fds n).dosOpen = true →
      t.fds n = s.fds n) :
    t.ReadsFrom fd m := by
  rcases hReads with ⟨me, hMail, hHandle⟩
  refine ⟨me, ?_, hHandle⟩
  unfold Process.HasMailslot at hMail ⊢
  rw [hKept fd (by rw [hMail]), hMail]

/- The last step marks both descriptors. -/
theorem PairState.marked
    {f : LsckSocket → LsckSocket}
    {fd₀ fd₁ : Fd}
    {p₀ p₁ q₀ q₁ : Ptr}
    {d₀ d₁ : LsckSocket}
    {y₀ y₁ x₀ x₁ : LsckSocketUnix}
    {m₀ m₁ : Bytes}
    {s t u v w : Process}
    (hState : PairState s t fd₀ fd₁ p₀ p₁ q₀ q₁ d₀ d₁ y₀ y₁)
    (hLeft : u.heap q₀ = some (.unix x₀))
    (hRight : u.heap q₁ = some (.unix x₁))
    (hR : x₀.fdR = y₀.fdR ∧ x₁.fdR = y₁.fdR)
    (hOther : ∀ r, r ≠ q₀ → r ≠ q₁ → u.heap r = t.heap r)
    (hKept : ∀ n, (t.fds n).dosOpen = true →
      u.fds n = t.fds n)
    (hReads₀ : t.ReadsFrom y₀.fdR m₀)
    (hReads₁ : t.ReadsFrom y₁.fdR m₁)
    (hMark₀ : modifySocket p₀ f u = .ok ((), v))
    (hMark₁ : modifySocket p₁ f v = .ok ((), w))
    (hMarks : ∀ d, (f d).idata = d.idata ∧
      (f d).interface = d.interface ∧ (f d).bound = true) :
    w.fds = u.fds ∧ w.BoundEnd fd₀ p₀ x₀ m₀ ∧
      w.BoundEnd fd₁ p₁ x₁ m₁ := by
  have hOne := hState.left
  have hTwo := hState.right
  have hForm := hState.form
  have hNe₀₀ := socket_ne_unix hOne.socket hOne.data
  have hNe₀₁ := socket_ne_unix hOne.socket hTwo.data
  have hNe₁₀ := socket_ne_unix hTwo.socket hOne.data
  have hNe₁₁ := socket_ne_unix hTwo.socket hTwo.data
  rcases modifySocket_ok hMark₀ with ⟨e, hE, rfl⟩
  rw [hOther p₀ hNe₀₀ hNe₀₁, hOne.socket] at hE
  cases hE
  rcases modifySocket_ok hMark₁ with ⟨e, hE, rfl⟩
  rw [Process.heap_setBlock,
    Function.update_of_ne hState.apart.symm,
    hOther p₁ hNe₁₀ hNe₁₁, hTwo.socket] at hE
  cases hE
  have hReads : ∀ {n m}, t.ReadsFrom n m →
      u.ReadsFrom n m := fun hReads => hReads.of_kept hKept
  refine ⟨rfl, ⟨?_, ?_, ?_⟩, ?_, ?_, ?_⟩
  · have hEntry := hKept fd₀ (hOne.leads.dosOpen hForm.fds)
    change u.LeadsTo fd₀ p₀
    unfold Process.LeadsTo
    rw [hEntry]
    exact hOne.leads
  · refine ⟨f d₀, ⟨?_, q₀, ?_, ?_⟩, ?_, (hMarks d₀).2.2⟩
    · rw [Process.heap_setBlock,
        Function.update_of_ne hState.apart,
        Process.heap_setBlock, Function.update_self]
    · rw [(hMarks d₀).1, hOne.idata]
    · rw [Process.heap_setBlock,
        Function.update_of_ne hNe₁₀.symm,
        Process.heap_setBlock,
        Function.update_of_ne hNe₀₀.symm, hLeft]
    · rw [(hMarks d₀).2.1, hOne.interface]
  · change u.ReadsFrom x₀.fdR m₀
    rw [hR.1]
    exact hReads hReads₀
  · have hEntry := hKept fd₁ (hTwo.leads.dosOpen hForm.fds)
    change u.LeadsTo fd₁ p₁
    unfold Process.LeadsTo
    rw [hEntry]
    exact hTwo.leads
  · refine ⟨f d₁, ⟨?_, q₁, ?_, ?_⟩, ?_, (hMarks d₁).2.2⟩
    · rw [Process.heap_setBlock, Function.update_self]
    · rw [(hMarks d₁).1, hTwo.idata]
    · rw [Process.heap_setBlock,
        Function.update_of_ne hNe₁₁.symm,
        Process.heap_setBlock,
        Function.update_of_ne hNe₀₁.symm, hRight]
    · rw [(hMarks d₁).2.1, hTwo.interface]
  · change u.ReadsFrom x₁.fdR m₁
    rw [hR.2]
    exact hReads hReads₁

------------------------------------------------------------
-- The Interface's Part
------------------------------------------------------------

/- Both ends are bound, the left one first. -/
def UnixSocketpairEnv.Binds
    (env : UnixSocketpairEnv)
    (p₀ p₁ : Ptr)
    (s t : Process) : Prop :=
  ∃ u,
    unixBind env.bind₀ p₀ (sockaddrUn (pairPath env.name₀))
      sockaddrMaxSize s = .ok (0, u) ∧
    unixBind env.bind₁ p₁ (sockaddrUn (pairPath env.name₁))
      sockaddrMaxSize u = .ok (0, t)

/- There is one outcome. -/
theorem UnixSocketpairEnv.Binds.unique
    {env : UnixSocketpairEnv}
    {p₀ p₁ : Ptr}
    {s t t' : Process}
    (hBinds : env.Binds p₀ p₁ s t)
    (hBinds' : env.Binds p₀ p₁ s t') :
    t' = t := by
  rcases hBinds with ⟨u, hOne, hTwo⟩
  rcases hBinds' with ⟨u', hOne', hTwo'⟩
  cases hOne.symm.trans hOne'
  cases hTwo.symm.trans hTwo'
  rfl

/- Two bound ends, and what the streams among them write to. -/
structure PairEnds
    (env : UnixSocketpairEnv)
    (p₀ p₁ : Ptr)
    (d₀ : LsckSocket)
    (fd₀ fd₁ : Fd)
    (x₀ x₁ : LsckSocketUnix)
    (m₀ m₁ : Bytes)
    (s t : Process) : Prop where
  noFile : t.fds (-1) = FdEntry.unused
  left : t.BoundEnd fd₀ p₀ x₀ m₀
  right : t.BoundEnd fd₁ p₁ x₁ m₁
  writes : d₀.type = sockStream → ∃ u, env.Binds p₀ p₁ s u ∧
    (env.WriteEndsOpen u →
      t.WritesTo x₀.fdW m₁ ∧ t.WritesTo x₁.fdW m₀) ∧
    (¬ env.WriteEndsOpen u → x₀.fdW = -1 ∨ x₁.fdW = -1)

/-
  Either both ends are bound, or both are still such that
  closing them gives everything back.
-/
theorem unixSocketpair_outcome
    {env : UnixSocketpairEnv}
    {fd₀ fd₁ : Fd}
    {p₀ p₁ q₀ q₁ : Ptr}
    {d₀ d₁ : LsckSocket}
    {s t v : Process}
    {ret : Int}
    (hState : PairState s t fd₀ fd₁ p₀ p₁ q₀ q₁ d₀ d₁ newUnix
      newUnix)
    (hRun : unixSocketpair env p₀ p₁ t = .ok (ret, v)) :
    (ret = -1 ∧
      (∃ u₀ u₁, PairState s v fd₀ fd₁ p₀ p₁ q₀ q₁ d₀ d₁ u₀
        u₁) ∧
      (d₀.type = sockStream → ∀ x, ¬ env.Binds p₀ p₁ t x)) ∨
    (ret = 0 ∧ ∃ x₀ x₁ m₀ m₁,
      PairEnds env p₀ p₁ d₀ fd₀ fd₁ x₀ x₁ m₀ m₁ t v) := by
  unfold unixSocketpair at hRun
  rw [run_bind_ok (derefSocket_run hState.left.socket),
    run_bind_ok (derefSocket_run hState.right.socket)] at hRun
  rcases bind_eq_ok.mp hRun with ⟨ret₀, t₁, hBind₀, hRun₁⟩
  rcases hState.binds rfl hBind₀ with
    ⟨y₀, hState₁, -, rfl | ⟨rfl, m₀, hM₀, hReads₀⟩⟩
  · rw [if_pos rfl] at hRun₁
    cases hRun₁
    refine .inl ⟨rfl, ⟨y₀, newUnix, hState₁⟩, ?_⟩
    rintro - x ⟨u, hOne, -⟩
    cases hBind₀.symm.trans hOne
  rw [if_neg (by decide)] at hRun₁
  rcases bind_eq_ok.mp hRun₁ with ⟨ret₁, t₂, hBind₁, hRun₂⟩
  rcases hState₁.swap.binds rfl hBind₁ with
    ⟨y₁, hSwapped, hKept, hEnd⟩
  have hState₂ := hSwapped.swap
  rcases hEnd with rfl | ⟨rfl, m₁, hM₁, hReads₁⟩
  · rw [if_pos rfl] at hRun₂
    cases hRun₂
    refine .inl ⟨rfl, ⟨y₀, y₁, hState₂⟩, ?_⟩
    rintro - x ⟨u, hOne, hTwo⟩
    cases hBind₀.symm.trans hOne
    cases hBind₁.symm.trans hTwo
  rw [if_neg (by decide)] at hRun₂
  have hBinds : env.Binds p₀ p₁ t t₂ := ⟨t₁, hBind₀, hBind₁⟩
  have hReads₀' := hReads₀.of_kept hKept
  have hLeft := hState₂.left
  have hRight := hState₂.right
  rw [hLeft.idata, hRight.idata] at hRun₂
  by_cases hStream : d₀.type = sockStream
  · rw [if_pos hStream] at hRun₂
    rcases bind_eq_ok.mp hRun₂ with ⟨_, t₃, hLoop, hRun₃⟩
    rcases bind_eq_ok.mp hRun₃ with ⟨_, t₄, hMark₀, hRun₄⟩
    rcases bind_eq_ok.mp hRun₄ with ⟨_, t₅, hMark₁, hPure⟩
    cases hPure
    rcases pairStream_loops hState₂.data_ne.symm hLeft.data
      hRight.data hLeft.writes hRight.writes hState₂.noFile
      hLoop with ⟨x₀, x₁, hLooped⟩
    rcases hState₂.marked hLooped.left hLooped.right
      hLooped.reads hLooped.others hLooped.kept hReads₀'
      hReads₁ hMark₀ hMark₁ (fun _ => ⟨rfl, rfl, rfl⟩) with
      ⟨hFds, hEnd₀, hEnd₁⟩
    refine .inr ⟨rfl, x₀, x₁, m₀, m₁, ?_, hEnd₀, hEnd₁, ?_⟩
    · rw [hFds, hLooped.noFile]
    · intro _
      refine ⟨t₂, hBinds, ?_, hLooped.failed⟩
      intro hBoth
      rcases hLooped.opened hBoth with
        ⟨⟨m, hM, hTo₀⟩, m', hM', hTo₁⟩
      cases hM.symm.trans (sendName_of_readName hM₁)
      cases hM'.symm.trans (sendName_of_readName hM₀)
      exact ⟨hTo₀.of_fds hFds, hTo₁.of_fds hFds⟩
  rw [if_neg hStream] at hRun₂
  by_cases hDgram : d₀.type = sockDgram
  · rw [if_pos hDgram] at hRun₂
    rcases bind_eq_ok.mp hRun₂ with ⟨_, t₃, hPeer₀, hRun₃⟩
    rcases bind_eq_ok.mp hRun₃ with ⟨_, t₄, hPeer₁, hRun₄⟩
    rcases bind_eq_ok.mp hRun₄ with ⟨_, t₅, hMark₀, hRun₅⟩
    rcases bind_eq_ok.mp hRun₅ with ⟨_, t₆, hMark₁, hPure⟩
    cases hPure
    rcases setPeerpath_some hPeer₀ with ⟨b, hB, hHeap₃, hFds₃⟩
    rw [hLeft.data] at hB
    cases hB
    rcases setPeerpath_some hPeer₁ with ⟨b, hB, hHeap₄, hFds₄⟩
    rw [hHeap₃, Function.update_of_ne hState₂.data_ne,
      hRight.data] at hB
    cases hB
    have hEnd₀ := congrFun hHeap₄ q₀
    rw [Function.update_of_ne hState₂.data_ne.symm, hHeap₃,
      Function.update_self] at hEnd₀
    have hEnd₁ := congrFun hHeap₄ q₁
    rw [Function.update_self] at hEnd₁
    have hOther : ∀ r, r ≠ q₀ → r ≠ q₁ →
        t₄.heap r = t₂.heap r := by
      intro r hR₀ hR₁
      rw [hHeap₄, Function.update_of_ne hR₁, hHeap₃,
        Function.update_of_ne hR₀]
    have hFds₂ : t₄.fds = t₂.fds := hFds₄.trans hFds₃
    rcases hState₂.marked hEnd₀ hEnd₁ ⟨rfl, rfl⟩ hOther
      (fun n _ => congrFun hFds₂ n) hReads₀' hReads₁ hMark₀
      hMark₁ (fun _ => ⟨rfl, rfl, rfl⟩) with ⟨hFds, hOne, hTwo⟩
    refine .inr ⟨rfl, _, _, m₀, m₁, ?_, hOne, hTwo,
      fun hIs => absurd hIs hStream⟩
    rw [hFds, hFds₂, hState₂.noFile]
  · rw [if_neg hDgram] at hRun₂
    have hStill := hState₂.fails hRun₂
    cases hRun₂
    exact .inl ⟨rfl, ⟨y₀, y₁, hStill⟩,
      fun hIs => absurd hIs hStream⟩

------------------------------------------------------------
-- The Names That Are Stored
------------------------------------------------------------

section Names

variable {p : Ptr} {d : LsckSocket} {usock : LsckSocketUnix}
variable {s t : Process}

/- `getpeername` on a Unix socket sets no more than errno. -/
theorem getpeername_kept
    {env : NameEnv}
    {fd : Fd}
    {namelen : Nat}
    {x : Option (Bytes × Nat)}
    (hLeads : s.LeadsTo fd p)
    (hSocket : s.heap p = some (.socket d))
    (hInterface : d.interface = some .unix)
    (hRun : getpeername env fd namelen s = .ok (x, t)) :
    t.fds = s.fds ∧ t.heap = s.heap := by
  have hTail := prologue_leads hLeads hSocket hInterface hRun
  rw [Process.check_unix hSocket hInterface] at hTail
  split at hTail
  · cases hTail
    exact ⟨rfl, rfl⟩
  · rcases bind_eq_ok.mp hTail with ⟨name, u, hName, hPure⟩
    cases hPure
    rcases unixGetpeername_ok hName with ⟨rfl, -⟩
    exact ⟨rfl, rfl⟩

/- The interface's data and the descriptors are kept. -/
structure NamesOnly (s t : Process) : Prop where
  form : WellFormed none t
  fds : t.fds = s.fds
  unix : SameUnix s t

theorem NamesOnly.trans
    {u : Process}
    (hLeft : NamesOnly s t)
    (hRight : NamesOnly t u) :
    NamesOnly s u :=
  ⟨hRight.form, hRight.fds.trans hLeft.fds,
    hLeft.unix.trans hRight.unix⟩

theorem namesOnly_modifySocket
    {f : LsckSocket → LsckSocket}
    (hForm : WellFormed none s)
    (hRun : modifySocket p f s = .ok ((), t))
    (hStatus : ∀ d, (f d).status = d.status) :
    NamesOnly s t := by
  constructor
  · exact hForm.modifySocket hRun hStatus
  · rcases modifySocket_ok hRun with ⟨e, -, rfl⟩
    rfl
  · exact sameUnix_modifySocket hRun hStatus

theorem namesOnly_storeSockname
    {env : NameEnv}
    (hForm : WellFormed none s)
    (hUnix : s.HasUnix p d usock)
    (hInterface : d.interface = some .unix)
    (hRun : storeSockname env p s = .ok ((), t)) :
    NamesOnly s t := by
  unfold storeSockname at hRun
  rw [run_bind_ok (derefSocket_run hUnix.socket)] at hRun
  rcases bind_eq_ok.mp hRun with ⟨x, u, hName, hStore⟩
  rcases getsockname_unix (hForm.entry hUnix.socket) hUnix
    hInterface hName with ⟨rfl, text, -, -, rfl⟩
  dsimp only at hStore
  split at hStore
  · exact namesOnly_modifySocket hForm hStore fun _ => rfl
  · cases hStore

theorem namesOnly_storePeername
    {env : NameEnv}
    (hForm : WellFormed none s)
    (hUnix : s.HasUnix p d usock)
    (hInterface : d.interface = some .unix)
    (hRun : storePeername env p s = .ok ((), t)) :
    NamesOnly s t := by
  unfold storePeername at hRun
  rw [run_bind_ok (derefSocket_run hUnix.socket)] at hRun
  rcases bind_eq_ok.mp hRun with ⟨x, u, hName, hStore⟩
  rcases getpeername_kept (hForm.entry hUnix.socket)
    hUnix.socket hInterface hName with ⟨hFds, hHeap⟩
  have hFormU := (drift_getpeername _ _ _ _ _ _ hName).form
    hForm
  have hKept : NamesOnly s u := by
    refine ⟨hFormU, hFds, ?_⟩
    rintro p' d' usock' ⟨hSocket, q, hQ, hData⟩
    rw [← hHeap] at hSocket hData
    exact ⟨d', ⟨hSocket, q, hQ, hData⟩, rfl⟩
  cases x with
  | none =>
      cases hStore
      exact hKept
  | some name =>
      dsimp only at hStore
      unfold setPeername at hStore
      split at hStore
      · exact hKept.trans (namesOnly_modifySocket hFormU hStore
          fun _ => rfl)
      · cases hStore

/- Storing both names leaves the socket's data alone. -/
theorem namesOnly_storeNames
    {sockname peername : NameEnv}
    (hForm : WellFormed none s)
    (hUnix : s.HasUnix p d usock)
    (hInterface : d.interface = some .unix)
    (hRun : storeNames sockname peername p s = .ok ((), t)) :
    NamesOnly s t := by
  have hAfter : ∀ u, NamesOnly s u → ∃ e,
      u.HasUnix p e usock ∧ e.interface = some .unix := by
    intro u hKept
    rcases hKept.unix p d usock hUnix with ⟨e, hE, hStatus⟩
    have hI := congrArg LsckSocket.interface hStatus
    exact ⟨e, hE, hI.trans hInterface⟩
  rcases bind_eq_ok.mp hRun with ⟨_, u, hLengths, hStores⟩
  have hKeptU := namesOnly_modifySocket hForm hLengths
    fun _ => rfl
  rcases bind_eq_ok.mp hStores with ⟨_, v, hOwn, hPeer⟩
  rcases hAfter u hKeptU with ⟨e, hE, hI⟩
  have hKeptV := hKeptU.trans
    (namesOnly_storeSockname hKeptU.form hE hI hOwn)
  rcases hAfter v hKeptV with ⟨e', hE', hI'⟩
  exact hKeptV.trans
    (namesOnly_storePeername hKeptV.form hE' hI' hPeer)

end Names

------------------------------------------------------------
-- The Call
------------------------------------------------------------

/-
  `socketpair` with what it leaves in the caller's array
  `sv`, which it sets if the interface has connected the two
  sockets.
-/
def socketpairInto
    (env : SocketpairEnv)
    (domain type protocol : Int)
    (sv : Fd × Fd) : Exec (Int × (Fd × Fd)) := do
  let s ← get
  match pairInterface s domain type protocol with
  | none => do
      let ret ← fail .EOPNOTSUPP
      return (ret, sv)
  | some i => do
      let fd₀ ←
        socketx env.socket₀ domain type protocol (some i)
      let fd₁ ←
        socketx env.socket₁ domain type protocol (some i)
      if fd₀ = -1 ∨ fd₁ = -1 then do
        closeEnds env fd₀ fd₁
        return (-1, sv)
      else do
        let lsd₀ ← fdToLsd fd₀
        let lsd₁ ← fdToLsd fd₁
        match lsd₀, lsd₁ with
        | some p₀, some p₁ => do
            let ret ← connectEnds env i fd₀ fd₁ p₀ p₁
            return (ret, if ret = -1 then sv else (fd₀, fd₁))
        | _, _ => do
            closeEnds env fd₀ fd₁
            let ret ← fail .ENOMEM
            return (ret, sv)

/- It is `socketpair` otherwise. -/
theorem socketpair_of_into
    {env : SocketpairEnv}
    {domain type protocol : Int}
    {sv sv' : Fd × Fd}
    {r : Int}
    {s s' : Process}
    (hRun : socketpairInto env domain type protocol sv s =
      .ok ((r, sv'), s')) :
    socketpair env domain type protocol s = .ok (r, s') := by
  unfold socketpairInto at hRun
  unfold socketpair
  rw [run_bind_ok (run_get s)] at hRun ⊢
  cases hPair : pairInterface s domain type protocol with
  | none =>
      simp only [hPair] at hRun ⊢
      rcases bind_eq_ok.mp hRun with ⟨ret, t, hFail, hPure⟩
      cases hPure
      exact hFail
  | some i =>
      simp only [hPair] at hRun ⊢
      rcases bind_eq_ok.mp hRun with ⟨fd₀, t, hOne, hRest⟩
      rcases bind_eq_ok.mp hRest with ⟨fd₁, u, hTwo, hLast⟩
      rw [run_bind_ok hOne, run_bind_ok hTwo]
      split at hLast
      · next hFailed =>
        rw [if_pos hFailed]
        rcases bind_eq_ok.mp hLast with ⟨_, v, hClose, hPure⟩
        cases hPure
        rw [run_bind_ok hClose]
        rfl
      · next hFailed =>
        rw [if_neg hFailed]
        rcases bind_eq_ok.mp hLast with ⟨l₀, v, hL₀, hLast⟩
        rcases bind_eq_ok.mp hLast with ⟨l₁, w, hL₁, hLast⟩
        rw [run_bind_ok hL₀, run_bind_ok hL₁]
        have hGone : (do
            closeEnds env fd₀ fd₁
            let ret ← fail .ENOMEM
            return (ret, sv) : Exec (Int × Fd × Fd)) w =
              .ok ((r, sv'), s') →
            (do
              closeEnds env fd₀ fd₁
              fail .ENOMEM : Exec Int) w = .ok (r, s') := by
          intro hEnd
          rcases bind_eq_ok.mp hEnd with ⟨_, x, hClose, hEnd⟩
          rcases bind_eq_ok.mp hEnd with ⟨ret, y, hFail, hPure⟩
          cases hPure
          rw [run_bind_ok hClose]
          exact hFail
        cases l₀ with
        | none => exact hGone hLast
        | some p₀ =>
            cases l₁ with
            | none => exact hGone hLast
            | some p₁ =>
                rcases bind_eq_ok.mp hLast with
                  ⟨ret, x, hConnect, hPure⟩
                cases hPure
                exact hConnect

/-
  The state in which the loop over the write ends of a
  stream pair starts: there are two sockets, and both are
  bound.
-/
def ReachesLoop
    (env : SocketpairEnv)
    (protocol : Int)
    (s t : Process) : Prop :=
  ∃ fd₀ fd₁ p₀ p₁ u v,
    pairInterface s afUnix sockStream protocol =
      some .unix ∧
    socketx env.socket₀ afUnix sockStream protocol
      (some .unix) s = .ok (fd₀, u) ∧
    socketx env.socket₁ afUnix sockStream protocol
      (some .unix) u = .ok (fd₁, v) ∧
    fd₀ ≠ -1 ∧ fd₁ ≠ -1 ∧
    v.LeadsTo fd₀ p₀ ∧ v.LeadsTo fd₁ p₁ ∧
    env.unixEnv.Binds p₀ p₁ v t

/- There is one such state at most. -/
theorem ReachesLoop.unique
    {env : SocketpairEnv}
    {protocol : Int}
    {s t t' : Process}
    (hReaches : ReachesLoop env protocol s t)
    (hReaches' : ReachesLoop env protocol s t') :
    t' = t := by
  rcases hReaches with ⟨fd₀, fd₁, p₀, p₁, u, v, -, hOne, hTwo,
    -, -, hLeads₀, hLeads₁, hBinds⟩
  rcases hReaches' with ⟨fd₀', fd₁', p₀', p₁', u', v', -, hOne',
    hTwo', -, -, hLeads₀', hLeads₁', hBinds'⟩
  cases hOne.symm.trans hOne'
  cases hTwo.symm.trans hTwo'
  cases hLeads₀.2.symm.trans hLeads₀'.2
  cases hLeads₁.2.symm.trans hLeads₁'.2
  exact hBinds.unique hBinds'

/- The ends stay so while their names are stored. -/
theorem PairEnds.names
    {env : UnixSocketpairEnv}
    {fd₀ fd₁ : Fd}
    {p₀ p₁ : Ptr}
    {d₀ : LsckSocket}
    {x₀ x₁ : LsckSocketUnix}
    {m₀ m₁ : Bytes}
    {s t u : Process}
    (hEnds : PairEnds env p₀ p₁ d₀ fd₀ fd₁ x₀ x₁ m₀ m₁ s t)
    (hNames : NamesOnly t u) :
    PairEnds env p₀ p₁ d₀ fd₀ fd₁ x₀ x₁ m₀ m₁ s u := by
  constructor
  · rw [hNames.fds, hEnds.noFile]
  · exact hEnds.left.of_sameUnix hNames.fds hNames.unix
  · exact hEnds.right.of_sameUnix hNames.fds hNames.unix
  · intro hStream
    rcases hEnds.writes hStream with
      ⟨v, hBinds, hOpened, hFailed⟩
    refine ⟨v, hBinds, fun hBoth => ?_, hFailed⟩
    rcases hOpened hBoth with ⟨hTo₀, hTo₁⟩
    exact ⟨hTo₀.of_fds hNames.fds, hTo₁.of_fds hNames.fds⟩

/- Two new sockets are connected, or given back. -/
theorem connectEnds_outcome
    {env : SocketpairEnv}
    {fd₀ fd₁ : Fd}
    {p₀ p₁ q₀ q₁ : Ptr}
    {d₀ d₁ : LsckSocket}
    {s t u : Process}
    {ret : Int}
    (hState : PairState s t fd₀ fd₁ p₀ p₁ q₀ q₁ d₀ d₁ newUnix
      newUnix)
    (hRun : connectEnds env .unix fd₀ fd₁ p₀ p₁ t =
      .ok (ret, u)) :
    (ret = -1 ∧ u.fds = s.fds ∧
      (∀ x, u.IsSocket x ↔ s.IsSocket x) ∧
      (d₀.type = sockStream →
        ∀ x, ¬ env.unixEnv.Binds p₀ p₁ t x)) ∨
    (ret = 0 ∧ ∃ x₀ x₁ m₀ m₁,
      PairEnds env.unixEnv p₀ p₁ d₀ fd₀ fd₁ x₀ x₁ m₀ m₁ t
        u) := by
  rcases bind_eq_ok.mp hRun with ⟨r, v, hPair, hTail⟩
  have hForm := (narrowing_unixSocketpair hPair).form
    hState.form
  rcases unixSocketpair_outcome hState hPair with
    ⟨rfl, ⟨u₀, u₁, hState'⟩, hNever⟩ |
      ⟨rfl, x₀, x₁, m₀, m₁, hEnds⟩
  · rw [if_pos rfl, run_bind_ok (run_get v)] at hTail
    rcases bind_eq_ok.mp hTail with ⟨_, w, hClose, hFail⟩
    rcases hState'.restores hClose with ⟨hFds, hSockets⟩
    cases hFail
    exact .inl ⟨rfl, hFds, hSockets, hNever⟩
  · rw [if_neg (by decide)] at hTail
    rcases bind_eq_ok.mp hTail with ⟨_, w, hNames₀, hTail⟩
    rcases bind_eq_ok.mp hTail with ⟨_, w', hNames₁, hPure⟩
    cases hPure
    rcases hEnds.left.bound with ⟨e₀, hUnix₀, hI₀, -⟩
    have hOnly₀ := namesOnly_storeNames hForm hUnix₀ hI₀
      hNames₀
    have hEnds₀ := hEnds.names hOnly₀
    rcases hEnds₀.right.bound with ⟨e₁, hUnix₁, hI₁, -⟩
    have hOnly₁ := namesOnly_storeNames hOnly₀.form hUnix₁ hI₁
      hNames₁
    exact .inr ⟨rfl, x₀, x₁, m₀, m₁, hEnds₀.names hOnly₁⟩

/- Only the Unix interface makes pairs of this domain. -/
theorem pairInterface_unix
    {s : Process}
    {type protocol : Int}
    {i : Interface}
    (hFound : pairInterface s afUnix type protocol = some i) :
    i = .unix := by
  have hCheck := List.find?_some hFound
  rw [Bool.and_eq_true, Bool.and_eq_true] at hCheck
  have hProtocol := hCheck.1.2
  unfold Interface.protoCheck at hProtocol
  cases i with
  | unix => rfl
  | wsock => exact absurd hProtocol (by simp [afUnix, afInet])
  | csock => exact absurd hProtocol (by simp [afUnix, afInet])

/- Only one end has been created, the right or the left. -/
theorem closeEnds_right
    {env : SocketpairEnv}
    {fd : Fd}
    {s t : Process}
    (hLow : 0 ≤ fd)
    (hRun : closeEnds env (-1) fd s = .ok ((), t)) :
    ∃ r, closeFd env.close₁ fd s = .ok (r, t) := by
  unfold closeEnds when at hRun
  rw [if_neg (by decide), if_pos hLow] at hRun
  rcases bind_eq_ok.mp hRun with ⟨_, u, hNothing, hClose⟩
  cases hNothing
  rcases bind_eq_ok.mp hClose with ⟨r, v, hCloseFd, hPure⟩
  cases hPure
  exact ⟨r, hCloseFd⟩

theorem closeEnds_left
    {env : SocketpairEnv}
    {fd : Fd}
    {s t : Process}
    (hLow : 0 ≤ fd)
    (hRun : closeEnds env fd (-1) s = .ok ((), t)) :
    ∃ r, closeFd env.close₀ fd s = .ok (r, t) := by
  unfold closeEnds when at hRun
  rw [if_pos hLow, if_neg (by decide)] at hRun
  rcases bind_eq_ok.mp hRun with ⟨_, u, hClose, hNothing⟩
  cases hNothing
  rcases bind_eq_ok.mp hClose with ⟨r, v, hCloseFd, hPure⟩
  cases hPure
  exact ⟨r, hCloseFd⟩

/-
  What a call that returns has done: nothing, or it has made
  a pair whose streams got their write ends from the loop.
-/
theorem socketpairInto_outcome
    {env : SocketpairEnv}
    {type protocol : Int}
    {sv : Fd × Fd}
    {r : Int × (Fd × Fd)}
    {s s' : Process}
    (hForm : WellFormed none s)
    (hNone : s.fds (-1) = FdEntry.unused)
    (hRun : socketpairInto env afUnix type protocol sv s =
      .ok (r, s')) :
    (r = (-1, sv) ∧ s'.fds = s.fds ∧
      (∀ x, s'.IsSocket x ↔ s.IsSocket x) ∧
      (type = sockStream →
        ∀ t, ¬ ReachesLoop env protocol s t)) ∨
    ∃ fd₀ fd₁ p₀ p₁ x₀ x₁ m₀ m₁ d₀ t, r = (0, (fd₀, fd₁)) ∧
      (s.fds fd₀ = FdEntry.unused ∧
        s.fds fd₁ = FdEntry.unused ∧ fd₀ ≠ fd₁) ∧
      PairEnds env.unixEnv p₀ p₁ d₀ fd₀ fd₁ x₀ x₁ m₀ m₁ t
        s' ∧
      d₀.type = type ∧
      (type = sockStream → ∀ u, env.unixEnv.Binds p₀ p₁ t u →
        ReachesLoop env protocol s u) := by
  unfold socketpairInto at hRun
  rw [run_bind_ok (run_get s)] at hRun
  cases hPair : pairInterface s afUnix type protocol with
  | none =>
      simp only [hPair] at hRun
      rcases bind_eq_ok.mp hRun with ⟨ret, t, hFail, hPure⟩
      cases hPure
      cases hFail
      refine .inl ⟨rfl, rfl, fun _ => Iff.rfl, ?_⟩
      rintro rfl t ⟨_, _, _, _, _, _, hFound, -⟩
      rw [hPair] at hFound
      cases hFound
  | some i =>
      simp only [hPair] at hRun
      have hUnix := pairInterface_unix hPair
      subst hUnix
      rcases bind_eq_ok.mp hRun with ⟨fd₀, t, hOne, hRest⟩
      rcases bind_eq_ok.mp hRest with ⟨fd₁, u, hTwo, hLast⟩
      have hFormT := (socketx_evolves hForm.fds hOne).1.form
        hForm
      have hFormU := (socketx_evolves hFormT.fds hTwo).1.form
        hFormT
      -- The loop is reached through these two descriptors.
      have hVia : type = sockStream → ∀ x,
          ReachesLoop env protocol s x → fd₀ ≠ -1 ∧
            fd₁ ≠ -1 ∧ ∃ p₀ p₁, u.LeadsTo fd₀ p₀ ∧
              u.LeadsTo fd₁ p₁ ∧
              env.unixEnv.Binds p₀ p₁ u x := by
        rintro rfl x ⟨fd, fd', p₀, p₁, v, w, -, hOne', hTwo',
          hNe₀, hNe₁, hLeads₀, hLeads₁, hBinds⟩
        cases hOne.symm.trans hOne'
        cases hTwo.symm.trans hTwo'
        exact ⟨hNe₀, hNe₁, p₀, p₁, hLeads₀, hLeads₁, hBinds⟩
      rcases socketx_unix hForm hOne with
        ⟨rfl, hFds, hHeap⟩ | ⟨p₀, q₀, d₀, hMade₀⟩
      · rw [if_pos (.inl rfl)] at hLast
        rcases bind_eq_ok.mp hLast with ⟨_, v, hClose, hPure⟩
        cases hPure
        rcases socketx_unix hFormT hTwo with
          ⟨rfl, hFds', hHeap'⟩ | ⟨p₁, q₁, d₁, hMade₁⟩
        · cases hClose
          refine .inl ⟨rfl, hFds'.trans hFds, fun x => ?_,
            fun hIs x hReaches =>
              (hVia hIs x hReaches).1 rfl⟩
          unfold Process.IsSocket
          rw [hHeap', hHeap]
        · rcases closeEnds_right hMade₁.low hClose with
            ⟨ret, hCloseFd⟩
          rcases hMade₁.closed hFormU (by rw [hFds, hNone])
            hCloseFd with ⟨hFds', hSockets⟩
          refine .inl ⟨rfl, hFds'.trans hFds, fun x => ?_,
            fun hIs x hReaches =>
              (hVia hIs x hReaches).1 rfl⟩
          rw [hSockets]
          unfold Process.IsSocket
          rw [hHeap]
      have hNe₀ : fd₀ ≠ -1 := by
        have hLow := hMade₀.low
        rintro rfl
        exact absurd hLow (by decide)
      rcases socketx_unix hFormT hTwo with
        ⟨rfl, hFds', hHeap'⟩ | ⟨p₁, q₁, d₁, hMade₁⟩
      · rw [if_pos (.inr rfl)] at hLast
        rcases bind_eq_ok.mp hLast with ⟨_, v, hClose, hPure⟩
        cases hPure
        rcases closeEnds_left hMade₀.low hClose with
          ⟨ret, hCloseFd⟩
        rcases (hMade₀.of_same hFds' hHeap').closed hFormU hNone
          hCloseFd with ⟨hFds, hSockets⟩
        exact .inl ⟨rfl, hFds, hSockets,
          fun hIs x hReaches => (hVia hIs x hReaches).2.1 rfl⟩
      have hNe₁ : fd₁ ≠ -1 := by
        have hLow := hMade₁.low
        rintro rfl
        exact absurd hLow (by decide)
      rw [if_neg (not_or.mpr ⟨hNe₀, hNe₁⟩)] at hLast
      have hState := PairState.created hNone hFormU hMade₀
        hMade₁
      rcases bind_eq_ok.mp hLast with ⟨l₀, v, hL₀, hAfter⟩
      rcases fdToLsd_ok hL₀ with ⟨rfl, hFound₀⟩
      rw [(hFound₀ p₀).mpr hState.left.leads] at hAfter
      rcases bind_eq_ok.mp hAfter with ⟨l₁, w, hL₁, hBoth⟩
      rcases fdToLsd_ok hL₁ with ⟨rfl, hFound₁⟩
      rw [(hFound₁ p₁).mpr hState.right.leads] at hBoth
      rcases bind_eq_ok.mp hBoth with ⟨ret, x, hConnect, hPure⟩
      cases hPure
      rcases connectEnds_outcome hState hConnect with
        ⟨rfl, hFds, hSockets, hNever⟩ |
          ⟨rfl, x₀, x₁, m₀, m₁, hEnds⟩
      · refine .inl ⟨rfl, hFds, hSockets, ?_⟩
        intro hIs y hReaches
        rcases hVia hIs y hReaches with
          ⟨-, -, p, p', hLeads₀, hLeads₁, hBinds⟩
        cases hState.left.leads.2.symm.trans hLeads₀.2
        cases hState.right.leads.2.symm.trans hLeads₁.2
        exact hNever (hMade₀.type.trans hIs) y hBinds
      · refine .inr ⟨fd₀, fd₁, p₀, p₁, x₀, x₁, m₀, m₁, d₀, _,
          rfl, ⟨?_, ?_, hState.numbers_ne.symm⟩, hEnds,
          hMade₀.type, ?_⟩
        · exact hState.free _ (.inl rfl)
        · exact hState.free _ (.inr (.inl rfl))
        · rintro rfl y hBinds
          exact ⟨fd₀, fd₁, p₀, p₁, t, _, hPair, hOne, hTwo,
            hNe₀, hNe₁, hState.left.leads, hState.right.leads,
            hBinds⟩

/-
  All or nothing: the caller gets two new sockets that are
  bound and lead to each other, or the call fails and leaves
  the array, the descriptors with their mailslots, and the
  socket blocks as they were.
-/
inductive AllOrNothing
    (type : Int)
    (sv : Fd × Fd)
    (s s' : Process) : Int × (Fd × Fd) → Prop
  | all
      {fd₀ fd₁ : Fd}
      {p₀ p₁ : Ptr}
      {x₀ x₁ : LsckSocketUnix}
      {m₀ m₁ : Bytes}
      (new : s.fds fd₀ = FdEntry.unused ∧
        s.fds fd₁ = FdEntry.unused ∧ fd₀ ≠ fd₁)
      (left : s'.BoundEnd fd₀ p₀ x₀ m₀)
      (right : s'.BoundEnd fd₁ p₁ x₁ m₁)
      (writes : type = sockStream →
        s'.WritesTo x₀.fdW m₁ ∧ s'.WritesTo x₁.fdW m₀) :
      AllOrNothing type sv s s' (0, (fd₀, fd₁))
  | nothing
      (fds : s'.fds = s.fds)
      (sockets : ∀ x, s'.IsSocket x ↔ s.IsSocket x) :
      AllOrNothing type sv s s' (-1, sv)

/- An end is one socket with one block of data. -/
theorem Process.BoundEnd.unique
    {s : Process}
    {fd : Fd}
    {p p' : Ptr}
    {x x' : LsckSocketUnix}
    {m m' : Bytes}
    (hEnd : s.BoundEnd fd p x m)
    (hEnd' : s.BoundEnd fd p' x' m') :
    x' = x := by
  cases hEnd.leads.2.symm.trans hEnd'.leads.2
  rcases hEnd.bound with ⟨d, hUnix, -⟩
  rcases hEnd'.bound with ⟨d', hUnix', -⟩
  exact (hUnix.unique hUnix').2

/- Nothing is written to where there is no file. -/
theorem Process.not_writesTo
    {s : Process}
    {m : Bytes}
    (hNone : s.fds (-1) = FdEntry.unused) :
    ¬ s.WritesTo (-1) m := by
  rintro ⟨me, name, hMail, -⟩
  unfold Process.HasMailslot at hMail
  rw [hNone] at hMail
  cases hMail

/- A pair whose first end gets no number for its write end. -/
def SocketpairEnv.unopened : SocketpairEnv :=
  { SocketpairEnv.granting with
    unixEnv := { SocketpairEnv.granting.unixEnv with
      open₀ := ⟨none, .zero⟩ } }

end Libsocket
