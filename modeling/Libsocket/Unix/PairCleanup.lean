import Libsocket.Core.HalfClose
import Libsocket.Unix.Leaks

/-
  What closing the ends of an unfinished pair gives back:
  the two socket numbers and the mailslots that they read.

  Main declarations:
    * `Process.OpenEnd`
    * `closeFd_end`
    * `PairState`, `PairState.restores`
    * `PairState.binds`
-/

namespace Libsocket

open Command

------------------------------------------------------------
-- Closing An End
------------------------------------------------------------

section Unused

variable {fd : Fd} {s t : Process} {r : Int}

/- Nothing comes of a number that is not in use. -/
theorem closeFd_unused
    {env : CloseEnv}
    (hUnused : s.fds fd = FdEntry.unused)
    (hRun : closeFd env fd s = .ok (r, t)) :
    t.fds = s.fds ∧ t.heap = s.heap := by
  cases env with
  | leaf => cases hRun
  | node answer closeR closeW =>
      unfold closeFd at hRun
      rw [run_bind_ok (run_get s), hUnused] at hRun
      cases hRun
      exact ⟨rfl, rfl⟩

theorem fcntlNonblock_unused
    (hUnused : s.fds fd = FdEntry.unused)
    (hRun : fcntlNonblock fd s = .ok (r, t)) :
    t.fds = s.fds ∧ t.heap = s.heap := by
  unfold fcntlNonblock modifyMailslot at hRun
  rcases bind_eq_ok.mp hRun with ⟨_, u, hModify, hPure⟩
  cases hPure
  rw [run_bind_ok (run_get s), hUnused] at hModify
  cases hModify
  exact ⟨rfl, rfl⟩

theorem writeFd_unused
    {env : WriteEnv}
    {message : Bytes}
    (hUnused : s.fds fd = FdEntry.unused)
    (hRun : writeFd env fd message s = .ok (r, t)) :
    t.fds = s.fds ∧ t.heap = s.heap := by
  unfold writeFd at hRun
  rw [run_bind_ok (run_get s), hUnused] at hRun
  cases hRun
  exact ⟨rfl, rfl⟩

end Unused

/-
  An end of a pair that is not connected yet: it may read
  from a mailslot of its own, and writes to none.
-/
structure Process.OpenEnd
    (s : Process)
    (fd : Fd)
    (p q : Ptr)
    (d : LsckSocket)
    (usock : LsckSocketUnix) : Prop where
  leads : s.LeadsTo fd p
  socket : s.heap p = some (.socket d)
  number : d.fd = fd
  interface : d.interface = some .unix
  idata : d.idata = some q
  data : s.heap q = some (.unix usock)
  reads : usock.fdR = -1 ∨ ∃ m, s.ReadsFrom usock.fdR m
  writes : usock.fdW = -1

/- Only blocks and descriptors matter. -/
theorem Process.OpenEnd.of_same
    {s t : Process}
    {fd : Fd}
    {p q : Ptr}
    {d : LsckSocket}
    {usock : LsckSocketUnix}
    (hEnd : s.OpenEnd fd p q d usock)
    (hFds : t.fds = s.fds)
    (hHeap : t.heap = s.heap) :
    t.OpenEnd fd p q d usock := by
  constructor
  · unfold Process.LeadsTo
    rw [hFds]
    exact hEnd.leads
  · rw [hHeap]
    exact hEnd.socket
  · exact hEnd.number
  · exact hEnd.interface
  · exact hEnd.idata
  · rw [hHeap]
    exact hEnd.data
  · rcases hEnd.reads with hIs | ⟨m, hReads⟩
    · exact .inl hIs
    · exact .inr ⟨m, hReads.of_fds hFds⟩
  · exact hEnd.writes

/- What it reads from is closed, if it reads. -/
theorem closeFd_reads
    {env : CloseEnv}
    {fd : Fd}
    {s t : Process}
    {r : Int}
    (hNone : s.fds (-1) = FdEntry.unused)
    (hReads : fd = -1 ∨ ∃ m, s.ReadsFrom fd m)
    (hRun : closeFd env fd s = .ok (r, t)) :
    t.fds = Function.update s.fds fd FdEntry.unused ∧
      t.heap = s.heap := by
  rcases hReads with rfl | ⟨m, hReads⟩
  · rcases closeFd_unused hNone hRun with ⟨hFds, hHeap⟩
    refine ⟨?_, hHeap⟩
    rw [hFds, ← hNone, Function.update_eq_self]
  · exact closeFd_reader hReads hRun

section Closing

variable {fd : Fd} {p q : Ptr} {d : LsckSocket}
variable {usock : LsckSocketUnix} {s t : Process} {r : Int}

/- The interface closes the mailslot of the end. -/
theorem unixClose_end
    {er ew : CloseEnv}
    {write : WriteEnv}
    (hNone : s.fds (-1) = FdEntry.unused)
    (hEnd : s.OpenEnd fd p q d usock)
    (hRun : unixClose (closeFd er) (closeFd ew) write p s =
      .ok (r, t)) :
    r = 0 ∧
      t.fds = Function.update s.fds usock.fdR
        FdEntry.unused ∧
      ∃ usock', t.heap = Function.update s.heap q
        (some (.unix usock')) := by
  unfold unixClose at hRun
  rw [run_bind_ok (derefSocket_run hEnd.socket), hEnd.idata,
    run_bind_ok (derefUnixAt_run hEnd.data)] at hRun
  rw [hEnd.writes] at hRun
  rcases bind_eq_ok.mp hRun with ⟨_, t₁, hFcntl, hRun⟩
  rcases fcntlNonblock_unused hNone hFcntl with ⟨hF₁, hH₁⟩
  rcases bind_eq_ok.mp hRun with ⟨_, t₂, hWrite, hRun⟩
  rcases writeFd_unused (by rw [hF₁, hNone]) hWrite with
    ⟨hF₂, hH₂⟩
  rcases bind_eq_ok.mp hRun with ⟨_, t₃, hNumber, hRun⟩
  rcases modifyUnix_some hNumber with ⟨u, hU, hH₃, hF₃, -⟩
  rw [hH₂, hH₁, hEnd.data] at hU
  cases hU
  have hData₃ : t₃.heap q = some (.unix { usock with
      seqW := Word.signed (usock.seqW + 1) }) := by
    rw [hH₃, Function.update_self]
  rw [run_bind_ok (derefUnixAt_run hData₃)] at hRun
  rcases bind_eq_ok.mp hRun with ⟨_, t₄, hCloseR, hRun⟩
  have hFds₃ : t₃.fds = s.fds := by
    rw [hF₃, hF₂, hF₁]
  have hReads₃ : usock.fdR = -1 ∨
      ∃ m, t₃.ReadsFrom usock.fdR m := by
    rcases hEnd.reads with hNo | ⟨m, hReads⟩
    · exact .inl hNo
    · exact .inr ⟨m, hReads.of_fds hFds₃⟩
  rcases closeFd_reads (by rw [hFds₃, hNone]) hReads₃ hCloseR
    with ⟨hF₄, hH₄⟩
  have hData₄ : t₄.heap q = some (.unix { usock with
      seqW := Word.signed (usock.seqW + 1) }) := by
    rw [hH₄, hData₃]
  rw [run_bind_ok (derefUnixAt_run hData₄)] at hRun
  rcases bind_eq_ok.mp hRun with ⟨_, t₅, hCloseW, hRun⟩
  have hNone₄ : t₄.fds (-1) = FdEntry.unused := by
    rw [hF₄, hFds₃]
    by_cases hR : usock.fdR = -1
    · rw [hR, Function.update_self]
    · rw [Function.update_of_ne (Ne.symm hR), hNone]
  dsimp only at hCloseW
  rw [hEnd.writes] at hCloseW
  rcases closeFd_unused hNone₄ hCloseW with ⟨hF₅, hH₅⟩
  rcases bind_eq_ok.mp hRun with ⟨_, t₆, hClear, hPure⟩
  cases hPure
  rcases modifyUnix_some hClear with ⟨u, hU, hH₆, hF₆, -⟩
  refine ⟨rfl, ?_, { u with fdR := -1, fdW := -1 }, ?_⟩
  · rw [hF₆, hF₅, hF₄, hFds₃]
  · rw [hH₆, hH₅, hH₄, hH₃, hH₂, hH₁, Function.update_idem]

/-
  Closing an end frees its number, its mailslot and its
  blocks, and touches nothing else.
-/
theorem closeFd_end
    {env : CloseEnv}
    (hForm : WellFormed none s)
    (hNone : s.fds (-1) = FdEntry.unused)
    (hEnd : s.OpenEnd fd p q d usock)
    (hRun : closeFd env fd s = .ok (r, t)) :
    WellFormed none t ∧
      t.fds = Function.update
        (Function.update s.fds usock.fdR FdEntry.unused) fd
          FdEntry.unused ∧
      (∀ x, x ≠ p → x ≠ q → t.heap x = s.heap x) ∧
      ∀ x, t.IsSocket x ↔ s.IsSocket x ∧ x ≠ p := by
  have hFormT := (drift_closeFd _ _ _ _ _ hRun).form hForm
  refine ⟨hFormT, ?_⟩
  cases env with
  | leaf => cases hRun
  | node answer er ew =>
      unfold closeFd at hRun
      rw [run_bind_ok (run_get s), hEnd.leads.1] at hRun
      dsimp only at hRun
      rcases bind_eq_ok.mp hRun with ⟨rv, u, hClose, hRelease⟩
      have hKind : interfaceOf d s = .ok (.unix, s) := by
        unfold interfaceOf
        rw [hEnd.interface]
        rfl
      unfold closesocket at hClose
      rw [run_bind_ok (enter_run hEnd.leads hEnd.socket
          hEnd.interface _),
        Process.check_unix hEnd.socket hEnd.interface]
        at hClose
      dsimp only at hClose
      rw [run_bind_ok (derefSocket_run hEnd.socket),
        run_bind_ok hKind, if_pos (by rfl)] at hClose
      rcases bind_eq_ok.mp hClose with ⟨ret, v, hUnix, hFree⟩
      rcases unixClose_end hNone hEnd hUnix with
        ⟨rfl, hFds, usock', hHeap⟩
      have hFormV := (drift_unixClose (drift_closeFd er)
        (drift_closeFd ew) answer.write p s 0 v hUnix).form
          hForm
      have hNe := socket_ne_unix hEnd.socket hEnd.data
      have hSocket : v.heap p = some (.socket d) := by
        rw [hHeap, Function.update_of_ne hNe]
        exact hEnd.socket
      rcases bind_eq_ok.mp hFree with ⟨_, w, hFreed, hPure⟩
      cases hPure
      rcases bind_eq_ok.mp hRelease with ⟨_, x, hFd, hPure⟩
      cases hPure
      rw [when, if_pos rfl] at hFreed hFd
      rw [← hEnd.number] at hFd
      rcases release_ok hFormV hSocket hFreed hFd with
        ⟨i, -, -, hRemoved⟩
      have hOthers : ∀ x, x ≠ p → x ≠ q →
          t.heap x = s.heap x := by
        intro x hP hQ
        rcases hRemoved.heap x hP with hSame | ⟨hOwn, -⟩
        · rw [hSame, hHeap, Function.update_of_ne hQ]
        · rw [hEnd.idata] at hOwn
          cases hOwn
          exact absurd rfl hQ
      have hData : ¬ t.IsSocket q := by
        rintro ⟨e, hE⟩
        rcases hRemoved.heap q hNe.symm with
          hSame | ⟨-, hGone⟩
        · rw [hSame, hHeap, Function.update_self] at hE
          cases hE
        · rw [hGone] at hE
          cases hE
      refine ⟨?_, hOthers, fun x => ?_⟩
      · rw [hRemoved.fds, hFds, hEnd.number]
      · by_cases hP : x = p
        · subst hP
          apply iff_of_false
          · rintro ⟨e, hE⟩
            rw [hRemoved.gone] at hE
            cases hE
          · exact fun hBoth => hBoth.2 rfl
        · by_cases hQ : x = q
          · subst hQ
            apply iff_of_false hData
            rintro ⟨⟨e, hE⟩, -⟩
            rw [hEnd.data] at hE
            cases hE
          · unfold Process.IsSocket
            rw [hOthers x hP hQ, and_iff_left hP]

end Closing

------------------------------------------------------------
-- Binding An End
------------------------------------------------------------

/- A bind that fails leaves at most a cleared name behind. -/
theorem unixBind_failed
    {env : UnixBindEnv}
    {p q : Ptr}
    {addr : Bytes}
    {addrlen : Nat}
    {d : LsckSocket}
    {usock : LsckSocketUnix}
    {s t : Process}
    (hSocket : s.heap p = some (.socket d))
    (hQ : d.idata = some q)
    (hData : s.heap q = some (.unix usock))
    (hNew : usock.fdR = -1)
    (hRun : unixBind env p addr addrlen s = .ok (-1, t)) :
    t.fds = s.fds ∧ ∃ usock', usock'.fdR = -1 ∧
      usock'.fdW = usock.fdW ∧
      t.heap = Function.update s.heap q
        (some (.unix usock')) := by
  have hKept : ∀ {e : Errno} {r : Int} {v w : Process},
      v.fds = s.fds → v.heap = s.heap →
      fail e v = .ok (r, w) →
      w.fds = s.fds ∧ ∃ usock', usock'.fdR = -1 ∧
        usock'.fdW = usock.fdW ∧
        w.heap = Function.update s.heap q
          (some (.unix usock')) := by
    intro e r v w hFds hHeap hFail
    cases hFail
    refine ⟨hFds, usock, hNew, rfl, ?_⟩
    change v.heap = _
    rw [hHeap, ← hData, Function.update_eq_self]
  unfold unixBind at hRun
  rw [run_bind_ok (derefSocket_run hSocket), hQ,
    run_bind_ok (derefUnixAt_run hData)] at hRun
  split at hRun
  · exact hKept rfl rfl hRun
  split at hRun
  · exact hKept rfl rfl hRun
  rcases bind_eq_ok.mp hRun with ⟨name, u, hSun, hNamed⟩
  have hSame := (readString_ok hSun).1
  rw [hSame] at hNamed
  cases hBuilt : bindPath env.cwd name with
  | none =>
      rw [hBuilt] at hNamed
      exact hKept rfl rfl hNamed
  | some built =>
      simp only [hBuilt] at hNamed
      rcases bind_eq_ok.mp hNamed with ⟨path, u, hFits, hFile⟩
      have hSame' := (fits_ok hFits).1
      rw [hSame'] at hFile
      rcases bind_eq_ok.mp hFile with ⟨fd, v, hOpen, hStore⟩
      have hOpens := openFile_ok hOpen
      rcases bind_eq_ok.mp hStore with ⟨_, w, hStored, hLast⟩
      rcases modifyUnix_some hStored with ⟨b, hB, hHeap, hFds, -⟩
      rw [hOpens.heap, hData] at hB
      cases hB
      by_cases hFd : fd = -1
      · rw [if_neg (not_not.mpr hFd)] at hLast
        rcases bind_eq_ok.mp hLast with ⟨_, x, hClear, hPure⟩
        cases hPure
        rcases modifyUnix_some hClear with
          ⟨b, hB, hHeap', hFds', -⟩
        rw [hHeap, Function.update_self] at hB
        cases hB
        have hSameFds : v.fds = s.fds := by
          rcases hOpens.fds with ⟨-, hKeeps⟩ | ⟨hSome, -⟩
          · exact hKeeps
          · exact absurd hFd hSome
        refine ⟨by rw [hFds', hFds, hSameFds], { usock with
          fdR := fd
          sockpath := List.replicate sockaddrMaxSize 0 },
          hFd, rfl, ?_⟩
        rw [hHeap', hHeap, hOpens.heap, Function.update_idem]
      · rw [if_pos hFd] at hLast
        rcases bind_eq_ok.mp hLast with ⟨_, x, -, hStored'⟩
        rcases bind_eq_ok.mp hStored' with ⟨_, y, -, hPure⟩
        cases hPure

------------------------------------------------------------
-- Creating An End
------------------------------------------------------------

/- The data of a new Unix socket. -/
def newUnix : LsckSocketUnix :=
  { LsckSocketUnix.cleared with fdW := -1, fdR := -1 }

/- The interface allocates the data, or changes nothing. -/
theorem unixSocket_ok
    {memory : Option Ptr}
    {p : Ptr}
    {d : LsckSocket}
    {s t : Process}
    {r : Int}
    (hSocket : s.heap p = some (.socket d))
    (hRun : unixSocket memory p s = .ok (r, t)) :
    t.fds = s.fds ∧ t.table = s.table ∧
      (r = -1 ∧ (∀ x, x ≠ p → t.heap x = s.heap x) ∨
        r = 0 ∧ ∃ q, s.heap q = none ∧
          t.heap p = some (.socket { d with idata := some q }) ∧
          t.heap q = some (.unix newUnix) ∧
          ∀ x, x ≠ p → x ≠ q → t.heap x = s.heap x) := by
  rcases bind_eq_ok.mp hRun with ⟨memory', u, hMalloc, hHung⟩
  rcases bind_eq_ok.mp hHung with ⟨_, v, hHang, hLast⟩
  rcases malloc_ok hMalloc with
    ⟨rfl, rfl⟩ | ⟨q, rfl, -, hFree, rfl⟩
  · rcases modifySocket_ok hHang with ⟨e, -, rfl⟩
    rw [if_pos rfl] at hLast
    cases hLast
    refine ⟨rfl, rfl, .inl ⟨rfl, fun x hNe => ?_⟩⟩
    change Function.update _ p _ x = _
    rw [Function.update_of_ne hNe]
  · have hNe : p ≠ q := by
      rintro rfl
      rw [hFree] at hSocket
      cases hSocket
    rcases modifySocket_ok hHang with ⟨e, hE, rfl⟩
    rw [Process.heap_setBlock, Function.update_of_ne hNe,
      hSocket] at hE
    cases hE
    rw [if_neg (by simp)] at hLast
    rcases bind_eq_ok.mp hLast with ⟨_, w, hClear, hPure⟩
    cases hPure
    rcases modifyUnix_ok hClear with ⟨q', b, hQ, hB, rfl⟩
    cases hQ
    rw [Process.heap_setBlock, Function.update_of_ne hNe.symm,
      Process.heap_setBlock, Function.update_self] at hB
    cases hB
    refine ⟨rfl, rfl, .inr ⟨rfl, q, hFree, ?_, ?_, ?_⟩⟩
    · rw [Process.heap_setBlock, Function.update_of_ne hNe,
        Process.heap_setBlock, Function.update_self]
    · rw [Process.heap_setBlock, Function.update_self]
      rfl
    · intro x hP hQ
      rw [Process.heap_setBlock, Function.update_of_ne hQ,
        Process.heap_setBlock, Function.update_of_ne hP,
        Process.heap_setBlock, Function.update_of_ne hQ]

/- A new end, and what its creation has taken. -/
structure Created
    (env : SocketEnv)
    (type : Int)
    (s t : Process)
    (fd : Fd)
    (p q : Ptr)
    (d : LsckSocket) : Prop where
  number : env.number = some fd
  low : 0 ≤ fd
  free : s.fds fd = FdEntry.unused
  fds : t.fds = Function.update s.fds fd (FdEntry.ofSocket p)
  fresh : s.heap p = none ∧ s.heap q = none
  open_end : t.OpenEnd fd p q d newUnix
  type : d.type = type
  others : ∀ x, x ≠ p → x ≠ q → t.heap x = s.heap x

/- `__socketx` on the Unix interface. -/
theorem socketx_unix
    {env : SocketEnv}
    {domain type protocol : Int}
    {s t : Process}
    {fd : Fd}
    (hForm : WellFormed none s)
    (hRun : socketx env domain type protocol (some .unix) s =
      .ok (fd, t)) :
    fd = -1 ∧ t.fds = s.fds ∧ t.heap = s.heap ∨
      ∃ p q d, Created env type s t fd p q d := by
  rcases socketx_ok hForm.fds hRun with ⟨rfl, e, rfl⟩ |
    ⟨-, n, slot, p, hReserved, hOn⟩
  · exact .inl ⟨rfl, rfl, rfl⟩
  have hUnused := hForm.fds.unused hReserved.closed
  generalize hD : reservedSocket s n domain type protocol
    (some .unix) = d at hOn
  have hFd : d.fd = n := by
    rw [← hD]
    rfl
  have hType : d.type = type := by
    rw [← hD]
    rfl
  have hInterface : d.interface = some .unix := by
    rw [← hD]
    rfl
  have hHere := Reserved.socket_withSocket s slot p d
  have hHeap := Reserved.heap_withSocket s slot p d
  have hFds : (s.withSocket slot p d).fds =
      Function.update s.fds n (FdEntry.ofSocket p) := by
    rw [← hFd]
    rfl
  change (do
    let ret ← unixSocket env.unixMemory p
    if ret = -1 then do
      let s ← get
      socketCleanup n slot p
      fail s.errno
    else
      return n : Exec Int) _ = _ at hOn
  rcases bind_eq_ok.mp hOn with ⟨ret, u, hUnix, hRest⟩
  rcases unixSocket_ok hHere hUnix with ⟨hFds', -, hEnd⟩
  rcases hEnd with ⟨rfl, hSame⟩ | ⟨rfl, q, hQ, hP, hData, hSame⟩
  · left
    rw [if_pos rfl, run_bind_ok (run_get u)] at hRest
    rcases bind_eq_ok.mp hRest with ⟨_, v, hClean, hFail⟩
    cases hFail
    have hV := socketCleanup_ok hClean
    refine ⟨rfl, ?_, ?_⟩
    · change v.fds = _
      rw [hV]
      change Function.update u.fds n FdEntry.unused = _
      rw [hFds', hFds, Function.update_idem, ← hUnused,
        Function.update_eq_self]
    · change v.heap = _
      rw [hV]
      change Function.update u.heap p none = _
      funext x
      by_cases hX : x = p
      · rw [hX, Function.update_self, hReserved.heap]
      · rw [Function.update_of_ne hX, hSame x hX, hHeap,
          Function.update_of_ne hX]
  · right
    rw [if_neg (by decide)] at hRest
    cases hRest
    have hNe : q ≠ p := by
      rintro rfl
      rw [hHere] at hQ
      cases hQ
    rw [hHeap, Function.update_of_ne hNe] at hQ
    have hFdsU := hFds'.trans hFds
    refine ⟨p, q, _, hReserved.number, hReserved.low, hUnused,
      hFdsU, ⟨hReserved.heap, hQ⟩, ⟨?_, hP, hFd, hInterface,
        rfl, hData, .inl rfl, rfl⟩, hType, ?_⟩
    · unfold Process.LeadsTo
      rw [hFdsU, Function.update_self]
      exact ⟨rfl, rfl⟩
    · intro x hX hX'
      rw [hSame x hX hX', hHeap, Function.update_of_ne hX]

namespace Created

variable {env : SocketEnv} {type : Int} {s t u : Process}
variable {fd : Fd} {p q : Ptr} {d : LsckSocket}

/- Only blocks and descriptors matter. -/
theorem of_same
    (hMade : Created env type s t fd p q d)
    (hFds : u.fds = t.fds)
    (hHeap : u.heap = t.heap) :
    Created env type s u fd p q d := by
  constructor
  · exact hMade.number
  · exact hMade.low
  · exact hMade.free
  · rw [hFds, hMade.fds]
  · exact hMade.fresh
  · exact hMade.open_end.of_same hFds hHeap
  · exact hMade.type
  · intro x hP hQ
    rw [hHeap, hMade.others x hP hQ]

/- One block is a descriptor that was none. -/
theorem sockets
    (hMade : Created env type s t fd p q d)
    (x : Ptr) :
    t.IsSocket x ↔ s.IsSocket x ∨ x = p := by
  have hNone : ∀ y, s.heap y = none → ¬ s.IsSocket y := by
    rintro y hY ⟨e, hE⟩
    rw [hY] at hE
    cases hE
  by_cases hP : x = p
  · subst hP
    exact iff_of_true ⟨d, hMade.open_end.socket⟩ (.inr rfl)
  by_cases hQ : x = q
  · subst hQ
    apply iff_of_false
    · rintro ⟨e, hE⟩
      rw [hMade.open_end.data] at hE
      cases hE
    · rintro (hOld | hIs)
      · exact hNone x hMade.fresh.2 hOld
      · exact hP hIs
  · unfold Process.IsSocket
    rw [hMade.others x hP hQ, or_iff_left hP]

/- Closing it again gives everything back. -/
theorem closed
    {close : CloseEnv}
    {r : Int}
    (hMade : Created env type s t fd p q d)
    (hForm : WellFormed none t)
    (hNone : s.fds (-1) = FdEntry.unused)
    (hRun : closeFd close fd t = .ok (r, u)) :
    u.fds = s.fds ∧ ∀ x, u.IsSocket x ↔ s.IsSocket x := by
  have hFd : (-1 : Fd) ≠ fd := by
    have hLow := hMade.low
    rintro rfl
    exact absurd hLow (by decide)
  have hNone' : t.fds (-1) = FdEntry.unused := by
    rw [hMade.fds, Function.update_of_ne hFd, hNone]
  rcases closeFd_end hForm hNone' hMade.open_end hRun with
    ⟨-, hFds, -, hSockets⟩
  constructor
  · change u.fds = Function.update (Function.update t.fds (-1)
      FdEntry.unused) fd FdEntry.unused at hFds
    have hBack : Function.update t.fds (-1) FdEntry.unused =
        t.fds := by
      rw [← hNone', Function.update_eq_self]
    rw [hFds, hBack, hMade.fds, Function.update_idem,
      ← hMade.free, Function.update_eq_self]
  · intro x
    rw [hSockets, hMade.sockets]
    constructor
    · rintro ⟨hOld | hNew, hNe⟩
      · exact hOld
      · exact absurd hNew hNe
    · intro hOld
      refine ⟨.inl hOld, ?_⟩
      rintro rfl
      rcases hOld with ⟨e, hE⟩
      rw [hMade.fresh.1] at hE
      cases hE

end Created

------------------------------------------------------------
-- Closing Both Ends
------------------------------------------------------------

/-
  Two open ends in a state that has nothing else beyond an
  earlier one: what is new are their numbers, the mailslots
  that they read, and their descriptors.
-/
structure PairState
    (s t : Process)
    (fd₀ fd₁ : Fd)
    (p₀ p₁ q₀ q₁ : Ptr)
    (d₀ d₁ : LsckSocket)
    (u₀ u₁ : LsckSocketUnix) : Prop where
  form : WellFormed none t
  left : t.OpenEnd fd₀ p₀ q₀ d₀ u₀
  right : t.OpenEnd fd₁ p₁ q₁ d₁ u₁
  apart : p₀ ≠ p₁
  readers : u₀.fdR = u₁.fdR → u₁.fdR = -1
  low : 0 ≤ fd₀ ∧ 0 ≤ fd₁
  noFile : t.fds (-1) = FdEntry.unused
  free : ∀ n, n = fd₀ ∨ n = fd₁ ∨ n = u₀.fdR ∨ n = u₁.fdR →
    s.fds n = FdEntry.unused
  same : ∀ n, n ≠ fd₀ → n ≠ fd₁ → n ≠ u₀.fdR →
    n ≠ u₁.fdR → t.fds n = s.fds n
  sockets : ∀ x, t.IsSocket x ↔ s.IsSocket x ∨ x = p₀ ∨ x = p₁
  fresh : ¬ s.IsSocket p₀ ∧ ¬ s.IsSocket p₁

/- The number of a socket is in use. -/
theorem Process.LeadsTo.dosOpen
    {s : Process}
    {fd : Fd}
    {p : Ptr}
    (hLeads : s.LeadsTo fd p)
    (hFds : FdsOk s.fds) :
    (s.fds fd).dosOpen = true := by
  by_contra hNot
  have hFunction := hFds.closed fd (by simpa using hNot)
  rw [hLeads.1] at hFunction
  cases hFunction

namespace PairState

variable {s t u : Process} {fd₀ fd₁ : Fd}
variable {p₀ p₁ q₀ q₁ : Ptr} {d₀ d₁ : LsckSocket}
variable {u₀ u₁ : LsckSocketUnix}

/- An end's number is no mailslot, and none at all is -1. -/
theorem number_ne
    {fd n : Fd}
    {p : Ptr}
    (hLeads : t.LeadsTo fd p)
    (hReads : n = -1 ∨ ∃ m, t.ReadsFrom n m)
    (hNone : t.fds (-1) = FdEntry.unused) :
    fd ≠ n := by
  rintro rfl
  rcases hReads with rfl | ⟨m, me, hMail, -⟩
  · have hFunction := hLeads.1
    rw [hNone] at hFunction
    cases hFunction
  · have hFunction := hLeads.1
    rw [hMail] at hFunction
    cases hFunction

/- The two numbers are different ones. -/
theorem numbers_ne
    (hState : PairState s t fd₀ fd₁ p₀ p₁ q₀ q₁ d₀ d₁ u₀ u₁) :
    fd₁ ≠ fd₀ := by
  intro hSame
  have hRight := hState.right.leads.2
  rw [hSame, hState.left.leads.2] at hRight
  cases hRight
  exact hState.apart rfl

/- So are the blocks of their data. -/
theorem data_ne
    (hState : PairState s t fd₀ fd₁ p₀ p₁ q₀ q₁ d₀ d₁ u₀ u₁) :
    q₁ ≠ q₀ := by
  intro hSame
  apply hState.apart
  apply hState.form.own p₀ p₁ d₀ d₁ hState.left.socket
    hState.right.socket (by simp) (by simp)
  rw [hState.left.idata, hState.right.idata, hSame]

/- The right end is open still when the left one is closed. -/
theorem right_closed
    {env : CloseEnv}
    {r : Int}
    (hState : PairState s t fd₀ fd₁ p₀ p₁ q₀ q₁ d₀ d₁ u₀ u₁)
    (hRun : closeFd env fd₀ t = .ok (r, u)) :
    u.fds (-1) = FdEntry.unused ∧
      u.OpenEnd fd₁ p₁ q₁ d₁ u₁ := by
  rcases closeFd_end hState.form hState.noFile hState.left hRun
    with ⟨-, hFds, hHeap, -⟩
  have hLeft := hState.left
  have hRight := hState.right
  have hKept : ∀ n, n ≠ fd₀ → n ≠ u₀.fdR →
      u.fds n = t.fds n := by
    intro n hFd hR
    rw [hFds, Function.update_of_ne hFd,
      Function.update_of_ne hR]
  constructor
  · have hFd : (-1 : Fd) ≠ fd₀ := by
      have hLow := hState.low.1
      rintro rfl
      exact absurd hLow (by decide)
    by_cases hR : (-1 : Fd) = u₀.fdR
    · rw [hFds, Function.update_of_ne hFd, hR,
        Function.update_self]
    · rw [hKept _ hFd hR, hState.noFile]
  constructor
  · have hEntry := hKept fd₁ hState.numbers_ne
      (number_ne hRight.leads hLeft.reads hState.noFile)
    unfold Process.LeadsTo
    rw [hEntry]
    exact hRight.leads
  · rw [hHeap p₁ hState.apart.symm
      (socket_ne_unix hRight.socket hLeft.data)]
    exact hRight.socket
  · exact hRight.number
  · exact hRight.interface
  · exact hRight.idata
  · rw [hHeap q₁ (socket_ne_unix hLeft.socket
      hRight.data).symm hState.data_ne]
    exact hRight.data
  · by_cases hNo : u₁.fdR = -1
    · exact .inl hNo
    · rcases hRight.reads with hIs | ⟨m, me, hMail, hHandle⟩
      · exact absurd hIs hNo
      · have hEntry := hKept u₁.fdR
          (number_ne hLeft.leads hRight.reads
            hState.noFile).symm
          (fun hSame => hNo (hState.readers hSame.symm))
        refine .inr ⟨m, me, ?_, hHandle⟩
        unfold Process.HasMailslot
        rw [hEntry]
        exact hMail
  · exact hRight.writes

/- Closing both ends gives everything back. -/
theorem restores
    {env : SocketpairEnv}
    (hState : PairState s t fd₀ fd₁ p₀ p₁ q₀ q₁ d₀ d₁ u₀ u₁)
    (hRun : closeEnds env fd₀ fd₁ t = .ok ((), u)) :
    u.fds = s.fds ∧ ∀ x, u.IsSocket x ↔ s.IsSocket x := by
  unfold closeEnds when at hRun
  rw [if_pos hState.low.1, if_pos hState.low.2] at hRun
  rcases bind_eq_ok.mp hRun with ⟨_, v, hOne, hTwo⟩
  rcases bind_eq_ok.mp hOne with ⟨r₀, v', hLeft, hPure⟩
  cases hPure
  rcases bind_eq_ok.mp hTwo with ⟨r₁, v', hRight, hPure⟩
  cases hPure
  rcases closeFd_end hState.form hState.noFile hState.left hLeft
    with ⟨hFormV, hFds, -, hSockets⟩
  rcases hState.right_closed hLeft with ⟨hNone, hEnd⟩
  rcases closeFd_end hFormV hNone hEnd hRight with
    ⟨-, hFds', -, hSockets'⟩
  constructor
  · funext n
    rw [hFds', hFds]
    by_cases hOwn : n = fd₀ ∨ n = fd₁ ∨ n = u₀.fdR ∨ n = u₁.fdR
    · rw [hState.free n hOwn]
      simp only [Function.update_apply]
      grind
    · rw [not_or, not_or, not_or] at hOwn
      rcases hOwn with ⟨hFd₀, hFd₁, hR₀, hR₁⟩
      rw [Function.update_of_ne hFd₁,
        Function.update_of_ne hR₁, Function.update_of_ne hFd₀,
        Function.update_of_ne hR₀]
      exact hState.same n hFd₀ hFd₁ hR₀ hR₁
  · intro x
    rw [hSockets', hSockets, hState.sockets]
    constructor
    · rintro ⟨⟨hOld | hNew | hNew, hNe₀⟩, hNe₁⟩
      · exact hOld
      · exact absurd hNew hNe₀
      · exact absurd hNew hNe₁
    · intro hOld
      refine ⟨⟨.inl hOld, ?_⟩, ?_⟩
      · rintro rfl
        exact hState.fresh.1 hOld
      · rintro rfl
        exact hState.fresh.2 hOld

/- Two new ends. -/
theorem created
    {env₀ env₁ : SocketEnv}
    {type : Int}
    {v : Process}
    (hNone : s.fds (-1) = FdEntry.unused)
    (hForm : WellFormed none t)
    (hOne : Created env₀ type s v fd₀ p₀ q₀ d₀)
    (hTwo : Created env₁ type v t fd₁ p₁ q₁ d₁) :
    PairState s t fd₀ fd₁ p₀ p₁ q₀ q₁ d₀ d₁ newUnix
      newUnix := by
  have hLeft := hOne.open_end
  have hFd : fd₁ ≠ fd₀ := by
    rintro rfl
    have hFree := hTwo.free
    rw [hOne.fds, Function.update_self] at hFree
    cases hFree
  have hLive : ∀ {x b}, v.heap x = some b → x ≠ p₁ ∧
      x ≠ q₁ := by
    intro x b hX
    constructor
    · rintro rfl
      rw [hTwo.fresh.1] at hX
      cases hX
    · rintro rfl
      rw [hTwo.fresh.2] at hX
      cases hX
  have hP := hLive hLeft.socket
  have hQ := hLive hLeft.data
  have hLow : ∀ n : Fd, 0 ≤ n → (-1 : Fd) ≠ n := by
    rintro n hN rfl
    exact absurd hN (by decide)
  have hLeft' : t.OpenEnd fd₀ p₀ q₀ d₀ newUnix := by
    refine ⟨?_, ?_, hLeft.number, hLeft.interface, hLeft.idata,
      ?_, .inl rfl, rfl⟩
    · unfold Process.LeadsTo
      rw [hTwo.fds, Function.update_of_ne hFd.symm]
      exact hLeft.leads
    · rw [hTwo.others p₀ hP.1 hP.2]
      exact hLeft.socket
    · rw [hTwo.others q₀ hQ.1 hQ.2]
      exact hLeft.data
  have hOld : s.heap p₁ = none := by
    rw [← hOne.others p₁ hP.1.symm hQ.1.symm]
    exact hTwo.fresh.1
  constructor
  · exact hForm
  · exact hLeft'
  · exact hTwo.open_end
  · exact hP.1
  · exact fun _ => rfl
  · exact ⟨hOne.low, hTwo.low⟩
  · rw [hTwo.fds, Function.update_of_ne (hLow fd₁ hTwo.low),
      hOne.fds, Function.update_of_ne (hLow fd₀ hOne.low),
      hNone]
  · rintro n (rfl | rfl | rfl | rfl)
    · exact hOne.free
    · have hFree := hTwo.free
      rw [hOne.fds, Function.update_of_ne hFd] at hFree
      exact hFree
    · exact hNone
    · exact hNone
  · intro n hFd₀ hFd₁ _ _
    rw [hTwo.fds, Function.update_of_ne hFd₁, hOne.fds,
      Function.update_of_ne hFd₀]
  · intro x
    rw [hTwo.sockets, hOne.sockets, or_assoc]
  · constructor
    · rintro ⟨e, hE⟩
      rw [hOne.fresh.1] at hE
      cases hE
    · rintro ⟨e, hE⟩
      rw [hOld] at hE
      cases hE

/-
  The left end gets other data. Its mailslot is one that was
  not open, if it has one now.
-/
theorem reads_new
    {v w : Process}
    {usock : LsckSocketUnix}
    (hState : PairState s t fd₀ fd₁ p₀ p₁ q₀ q₁ d₀ d₁ u₀ u₁)
    (hNone : u₀.fdR = -1)
    (hForm : WellFormed none v)
    (hHeap : v.heap = Function.update t.heap q₀
      (some (.unix usock)))
    (hReads : usock.fdR = -1 ∨ ∃ m, v.ReadsFrom usock.fdR m)
    (hOpens : Opens usock.fdR t w)
    (hFds : v.fds = w.fds)
    (hWrites : usock.fdW = -1) :
    PairState s v fd₀ fd₁ p₀ p₁ q₀ q₁ d₀ d₁ usock u₁ := by
  have hLeft := hState.left
  have hRight := hState.right
  have hKept : ∀ n, (t.fds n).dosOpen = true →
      v.fds n = t.fds n := by
    intro n hOpen
    rw [hFds, hOpens.entry hOpen]
  have hOther : ∀ n, n ≠ usock.fdR → v.fds n = t.fds n := by
    intro n hNe
    rw [hFds]
    rcases hOpens.fds with ⟨-, hSame⟩ | ⟨-, -, -, hRest⟩
    · rw [hSame]
    · exact hRest n hNe
  have hNew : usock.fdR = -1 ∨
      t.fds usock.fdR = FdEntry.unused := by
    rcases hOpens.fds with ⟨hIs, -⟩ | ⟨-, hClosed, -⟩
    · exact .inl hIs
    · exact .inr (hState.form.fds.unused hClosed)
  have hOpenNe : ∀ n, (t.fds n).dosOpen = true →
      n ≠ usock.fdR := by
    rintro n hOpen rfl
    rcases hNew with hIs | hUnused
    · rw [hIs, hState.noFile] at hOpen
      cases hOpen
    · rw [hUnused] at hOpen
      cases hOpen
  have hNumber₀ := hLeft.leads.dosOpen hState.form.fds
  have hNumber₁ := hRight.leads.dosOpen hState.form.fds
  constructor
  · exact hForm
  · constructor
    · unfold Process.LeadsTo
      rw [hKept fd₀ hNumber₀]
      exact hLeft.leads
    · rw [hHeap, Function.update_of_ne
        (socket_ne_unix hLeft.socket hLeft.data)]
      exact hLeft.socket
    · exact hLeft.number
    · exact hLeft.interface
    · exact hLeft.idata
    · rw [hHeap, Function.update_self]
    · exact hReads
    · exact hWrites
  · constructor
    · unfold Process.LeadsTo
      rw [hKept fd₁ hNumber₁]
      exact hRight.leads
    · rw [hHeap, Function.update_of_ne
        (socket_ne_unix hRight.socket hLeft.data)]
      exact hRight.socket
    · exact hRight.number
    · exact hRight.interface
    · exact hRight.idata
    · rw [hHeap, Function.update_of_ne hState.data_ne]
      exact hRight.data
    · rcases hRight.reads with hIs | ⟨m, me, hMail, hHandle⟩
      · exact .inl hIs
      · refine .inr ⟨m, me, ?_, hHandle⟩
        unfold Process.HasMailslot at hMail ⊢
        rw [hKept u₁.fdR (by rw [hMail]), hMail]
    · exact hRight.writes
  · exact hState.apart
  · intro hSame
    rcases hRight.reads with hIs | ⟨m, me, hMail, -⟩
    · exact hIs
    · have hOpen : (t.fds u₁.fdR).dosOpen = true := by
        rw [hMail]
      exact absurd hSame.symm (hOpenNe u₁.fdR hOpen)
  · exact hState.low
  · by_cases hIs : (-1 : Fd) = usock.fdR
    · rcases hOpens.fds with ⟨-, hSame⟩ | ⟨hSome, -⟩
      · rw [hFds, hSame, hState.noFile]
      · exact absurd hIs.symm hSome
    · rw [hOther _ hIs, hState.noFile]
  · rintro n (hIs | hIs | hIs | hIs)
    · exact hState.free n (.inl hIs)
    · exact hState.free n (.inr (.inl hIs))
    · subst hIs
      rcases hNew with hNone' | hUnused
      · rw [hNone', ← hNone]
        exact hState.free _ (.inr (.inr (.inl rfl)))
      · by_cases hOwn : usock.fdR = fd₀ ∨ usock.fdR = fd₁ ∨
            usock.fdR = u₀.fdR ∨ usock.fdR = u₁.fdR
        · exact hState.free _ hOwn
        · rw [not_or, not_or, not_or] at hOwn
          rcases hOwn with ⟨hFd₀, hFd₁, hR₀, hR₁⟩
          rw [← hState.same _ hFd₀ hFd₁ hR₀ hR₁, hUnused]
    · exact hState.free n (.inr (.inr (.inr hIs)))
  · intro n hFd₀ hFd₁ hR₀ hR₁
    rw [hOther n hR₀]
    by_cases hIs : n = u₀.fdR
    · subst hIs
      rw [hState.free _ (.inr (.inr (.inl rfl))), hNone,
        hState.noFile]
    · exact hState.same n hFd₀ hFd₁ hIs hR₁
  · intro x
    rw [← hState.sockets]
    unfold Process.IsSocket
    rw [hHeap]
    by_cases hIs : x = q₀
    · subst hIs
      rw [Function.update_self, hLeft.data]
      simp
    · rw [Function.update_of_ne hIs]
  · exact hState.fresh

/- The two ends play the same part. -/
theorem swap
    (hState : PairState s t fd₀ fd₁ p₀ p₁ q₀ q₁ d₀ d₁ u₀ u₁) :
    PairState s t fd₁ fd₀ p₁ p₀ q₁ q₀ d₁ d₀ u₁ u₀ := by
  constructor
  · exact hState.form
  · exact hState.right
  · exact hState.left
  · exact hState.apart.symm
  · intro hSame
    rw [← hSame]
    exact hState.readers hSame.symm
  · exact hState.low.symm
  · exact hState.noFile
  · rintro n (hIs | hIs | hIs | hIs)
    · exact hState.free n (.inr (.inl hIs))
    · exact hState.free n (.inl hIs)
    · exact hState.free n (.inr (.inr (.inr hIs)))
    · exact hState.free n (.inr (.inr (.inl hIs)))
  · intro n hFd₁ hFd₀ hR₁ hR₀
    exact hState.same n hFd₀ hFd₁ hR₀ hR₁
  · intro x
    rw [hState.sockets, or_comm (a := x = p₀)]
  · exact hState.fresh.symm

/- An error leaves both ends as they are. -/
theorem fails
    {e : Errno}
    {r : Int}
    (hState : PairState s t fd₀ fd₁ p₀ p₁ q₀ q₁ d₀ d₁ u₀ u₁)
    (hRun : fail e t = .ok (r, u)) :
    PairState s u fd₀ fd₁ p₀ p₁ q₀ q₁ d₀ d₁ u₀ u₁ := by
  have hForm := hState.form.still (StillCmd.fail e t r u hRun)
  cases hRun
  exact ⟨hForm, hState.left.of_same rfl rfl,
    hState.right.of_same rfl rfl, hState.apart, hState.readers,
    hState.low, hState.noFile, hState.free, hState.same,
    hState.sockets, hState.fresh⟩

/- Binding the left end gives it a mailslot, or fails. -/
theorem binds
    {env : UnixBindEnv}
    {n : Fin 2147483648}
    {r : Int}
    (hState : PairState s t fd₀ fd₁ p₀ p₁ q₀ q₁ d₀ d₁ u₀ u₁)
    (hNone : u₀.fdR = -1)
    (hRun : unixBind env p₀ (sockaddrUn (pairPath n))
      sockaddrMaxSize t = .ok (r, u)) :
    ∃ usock,
      PairState s u fd₀ fd₁ p₀ p₁ q₀ q₁ d₀ d₁ usock u₁ ∧
      (∀ n, (t.fds n).dosOpen = true → u.fds n = t.fds n) ∧
      (r = -1 ∨ r = 0 ∧ ∃ m,
        readName (unixLocalPath ++ pairPath n) = some m ∧
        u.ReadsFrom usock.fdR m) := by
  have hLeft := hState.left
  have hForm := hState.form.still
    (still_unixBind _ _ _ _ _ _ _ hRun)
  by_cases hRet : r = -1
  · subst hRet
    rcases unixBind_failed hLeft.socket hLeft.idata hLeft.data
      hNone hRun with ⟨hFds, usock, hR, hW, hHeap⟩
    have hOpens : Opens usock.fdR t t :=
      ⟨rfl, rfl, .inl ⟨hR, rfl⟩⟩
    refine ⟨usock, ?_, fun n _ => congrFun hFds n, .inl rfl⟩
    exact hState.reads_new hNone hForm hHeap (.inl hR) hOpens
      hFds (hW.trans hLeft.writes)
  · have hZero := unixBind_answer hRun hRet
    subst hZero
    rcases unixBind_ok hRun with ⟨d, q, usock, name, built, fd,
      v, hD, hQ, hU, hName, hBuilt, hOpen, hSome, hFds, hHeap⟩
    rw [hLeft.socket] at hD
    cases hD
    rw [hLeft.idata] at hQ
    cases hQ
    rw [hLeft.data] at hU
    cases hU
    rw [read?_pairPath] at hName
    cases hName
    have hLocal : built = unixLocalPath ++ pairPath n :=
      (Option.some.inj hBuilt).symm
    subst hLocal
    rcases openFile_readsFrom hOpen hSome with ⟨m, hM, hNew⟩
    have hReads : u.ReadsFrom fd m := hNew.of_fds hFds
    have hOpens := openFile_ok hOpen
    refine ⟨u₀.boundAs fd (pairPath n), ?_, ?_,
      .inr ⟨rfl, m, hM, hReads⟩⟩
    · exact hState.reads_new hNone hForm hHeap
        (.inr ⟨m, hReads⟩) hOpens hFds hLeft.writes
    · intro n hUsed
      rw [hFds, hOpens.entry hUsed]

end PairState

end Libsocket
