import Libsocket.Frame
import Libsocket.Library.HandleTable

/-
  The slot table, the extension map and the live descriptors
  as one table of handles, and what holds of them between
  any two steps of a call.

  Main declarations:
    * `Process.registry`
    * `WellFormed`
    * `WellFormed.still`, `WellFormed.create`,
      `WellFormed.remove`
    * `Attached`, `Attaches`
    * `WellFormed.adopted`
-/

namespace Libsocket

open Command

------------------------------------------------------------
-- The Registry
------------------------------------------------------------

/- What a socket descriptor's extension data refers to. -/
def FdEntry.target (entry : FdEntry) : Option (Option Ptr) :=
  if entry.function = some .lsckSocketFsext then
    match entry.data with
    | some (.lsd p) => some (some p)
    | _ => some none
  else
    none

/- The library's three structures as a table of handles. -/
def Process.registry (s : Process) :
    HandleTable Nat Fd Ptr where
  slot := s.table
  handle fd := (s.fds fd).target
  owner p := (s.socket? p).map LsckSocket.fd

/- Only indices inside the array count. -/
abbrev InTable (i : Nat) : Prop :=
  i < lsckNumSocket

theorem FdEntry.target_eq_some
    {entry : FdEntry}
    {p : Ptr} :
    entry.target = some (some p) ↔
      entry.function = some .lsckSocketFsext ∧
        entry.data = some (.lsd p) := by
  unfold target
  by_cases hSocket :
      entry.function = some .lsckSocketFsext
  · rw [if_pos hSocket]
    split
    next q hData =>
        simp [hSocket, hData]
    next hOther =>
        have hNone := hOther p
        simpa [hSocket] using hNone
  · simp [hSocket]

theorem FdEntry.target_eq_none
    {entry : FdEntry} :
    entry.target = none ↔
      entry.function ≠ some .lsckSocketFsext := by
  unfold target
  by_cases hSocket :
      entry.function = some .lsckSocketFsext
  · rw [if_pos hSocket]
    split <;> simp [hSocket]
  · simp [hSocket]

theorem Process.socket?_eq_some
    {s : Process}
    {p : Ptr}
    {d : LsckSocket} :
    s.socket? p = some d ↔
      s.heap p = some (.socket d) := by
  unfold Process.socket?
  cases hBlock : s.heap p with
  | none => simp
  | some b => cases b <;> simp [Block.socket?]

theorem Process.owner_eq_some
    {s : Process}
    {p : Ptr}
    {fd : Fd} :
    s.registry.owner p = some fd ↔
      ∃ d, s.heap p = some (.socket d) ∧ d.fd = fd := by
  simp only [registry, Option.map_eq_some_iff,
    Process.socket?_eq_some]

theorem Process.owner_eq_none
    {s : Process}
    {p : Ptr} :
    s.registry.owner p = none ↔
      ∀ d, s.heap p ≠ some (.socket d) := by
  simp only [registry, Option.map_eq_none_iff]
  rw [Option.eq_none_iff_forall_ne_some]
  simp only [ne_eq, Process.socket?_eq_some]

------------------------------------------------------------
-- Well-Formed States
------------------------------------------------------------

/-
  What holds in the middle of any call. All sockets but the
  one that is being created have an interface and data of
  its kind, which belongs to them alone.
-/
structure WellFormed
    (fresh : Option Ptr)
    (s : Process) : Prop where
  fds : FdsOk s.fds
  table : s.registry.Consistent InTable
  data : ∀ p d, s.heap p = some (.socket d) →
    fresh ≠ some p →
    ∃ i q b, d.interface = some i ∧ d.idata = some q ∧
      s.heap q = some b ∧ b.kind = some i
  own : ∀ p p' d d',
    s.heap p = some (.socket d) →
    s.heap p' = some (.socket d') →
    fresh ≠ some p → fresh ≠ some p' →
    d.idata = d'.idata → p = p'

/- A still command leaves the registry as it is. -/
theorem Still.registry
    {s s' : Process}
    (hStill : Still s s')
    (hFds : FdsOk s.fds) :
    s'.registry = s.registry := by
  have hHandle : s'.registry.handle = s.registry.handle := by
    funext fd
    by_cases hEither :
        (s.fds fd).function = some .lsckSocketFsext ∨
          (s'.fds fd).function = some .lsckSocketFsext
    · simp [Process.registry, hStill.entry hFds fd hEither]
    · rcases not_or.mp hEither with ⟨hLeft, hRight⟩
      exact (FdEntry.target_eq_none.mpr hRight).trans
        (FdEntry.target_eq_none.mpr hLeft).symm
  have hOwner : s'.registry.owner = s.registry.owner := by
    funext p
    cases hBefore : s.registry.owner p with
    | some fd =>
        rcases Process.owner_eq_some.mp hBefore with
          ⟨d, hSocket, hFd⟩
        rcases hStill.socket hSocket with
          ⟨d', hSocket', hStatus⟩
        exact Process.owner_eq_some.mpr ⟨d', hSocket',
          (LsckSocket.same_of_status hStatus).1.trans hFd⟩
    | none =>
        refine Process.owner_eq_none.mpr fun d' hSocket' => ?_
        rcases hStill.socket_back hSocket' with
          ⟨d, hSocket, -⟩
        exact Process.owner_eq_none.mp hBefore d hSocket
  have hSlot : s'.registry.slot = s.registry.slot :=
    hStill.table
  calc s'.registry
      = ⟨s'.registry.slot, s'.registry.handle,
          s'.registry.owner⟩ := rfl
    _ = s.registry := by rw [hSlot, hHandle, hOwner]

/- Well-formed states stay so under still commands. -/
theorem WellFormed.still
    {fresh : Option Ptr}
    {s s' : Process}
    (hForm : WellFormed fresh s)
    (hStill : Still s s') :
    WellFormed fresh s' := by
  refine ⟨hStill.fdsOk hForm.fds, ?_, ?_, ?_⟩
  · rw [hStill.registry hForm.fds]
    exact hForm.table
  · intro p d' hSocket' hFresh
    rcases hStill.socket_back hSocket' with
      ⟨d, hSocket, hStatus⟩
    rcases hForm.data p d hSocket hFresh with
      ⟨i, q, b, hInterface, hData, hBlock, hKind⟩
    rcases hStill.kind hBlock with ⟨b', hBlock', hKind'⟩
    rcases LsckSocket.same_of_status hStatus with
      ⟨-, hSameI, hSameQ⟩
    exact ⟨i, q, b', hSameI.trans hInterface,
      hSameQ.trans hData, hBlock', hKind'.trans hKind⟩
  · intro p r d' e' hSocket hSocket' hFresh hFresh' hSame
    rcases hStill.socket_back hSocket with ⟨d, hD, hStatus⟩
    rcases hStill.socket_back hSocket' with ⟨e, hE, hStatus'⟩
    have hLeft := (LsckSocket.same_of_status hStatus).2.2
    have hRight := (LsckSocket.same_of_status hStatus').2.2
    exact hForm.own p r d e hD hE hFresh hFresh'
      (hLeft.symm.trans (hSame.trans hRight))

/- The socket that a registered descriptor refers to. -/
theorem WellFormed.target
    {fresh : Option Ptr}
    {s : Process}
    (hForm : WellFormed fresh s)
    {fd : Fd}
    (hHandler :
      (s.fds fd).function = some .lsckSocketFsext) :
    ∃ p d, (s.fds fd).data = some (.lsd p) ∧
      s.heap p = some (.socket d) ∧ d.fd = fd := by
  cases hTarget : (s.fds fd).target with
  | none =>
      exact absurd hHandler
        (FdEntry.target_eq_none.mp hTarget)
  | some target =>
      rcases hForm.table.handle_owner fd target hTarget with
        ⟨p, rfl, hOwner⟩
      rcases Process.owner_eq_some.mp hOwner with
        ⟨d, hSocket, hFd⟩
      exact ⟨p, d, (FdEntry.target_eq_some.mp hTarget).2,
        hSocket, hFd⟩

/- A live socket is the one its descriptor refers to. -/
theorem WellFormed.entry
    {fresh : Option Ptr}
    {s : Process}
    (hForm : WellFormed fresh s)
    {p : Ptr}
    {d : LsckSocket}
    (hSocket : s.heap p = some (.socket d)) :
    (s.fds d.fd).function = some .lsckSocketFsext ∧
      (s.fds d.fd).data = some (.lsd p) :=
  FdEntry.target_eq_some.mp <|
    hForm.table.handle_of_owner <|
      Process.owner_eq_some.mpr ⟨d, hSocket, rfl⟩

/-
  A descriptor may change as long as its number, its
  interface and its data stay the same.
-/
theorem WellFormed.setSocket
    {fresh : Option Ptr}
    {s : Process}
    {p : Ptr}
    {d d' : LsckSocket}
    (hForm : WellFormed fresh s)
    (hSocket : s.heap p = some (.socket d))
    (hFd : d'.fd = d.fd)
    (hInterface : d'.interface = d.interface)
    (hData : d'.idata = d.idata) :
    WellFormed fresh
      (s.setBlock p (some (.socket d'))) := by
  have hBack : ∀ r e',
      (s.setBlock p (some (.socket d'))).heap r =
        some (.socket e') →
      ∃ e, s.heap r = some (.socket e) ∧ e'.fd = e.fd ∧
        e'.interface = e.interface ∧ e'.idata = e.idata := by
    intro r e' hE'
    by_cases hSame : r = p
    · subst hSame
      have hEq : d' = e' := by simpa using hE'
      subst hEq
      exact ⟨d, hSocket, hFd, hInterface, hData⟩
    · exact ⟨e', by simpa [hSame] using hE', rfl, rfl, rfl⟩
  have hOwner :
      (s.setBlock p (some (.socket d'))).registry.owner =
        s.registry.owner := by
    funext r
    by_cases hSame : r = p
    · subst hSame
      rw [Process.owner_eq_some.mpr ⟨d, hSocket, rfl⟩]
      exact Process.owner_eq_some.mpr ⟨d', by simp, hFd⟩
    · simp [Process.registry, Process.socket?, hSame]
  have hRegistry :
      (s.setBlock p (some (.socket d'))).registry =
        s.registry := by
    simp only [Process.registry] at hOwner ⊢
    rw [hOwner]
    rfl
  refine ⟨hForm.fds, ?_, ?_, ?_⟩
  · rw [hRegistry]
    exact hForm.table
  · intro r e' hE' hFresh
    rcases hBack r e' hE' with ⟨e, hE, -, hI, hQ⟩
    rcases hForm.data r e hE hFresh with
      ⟨i, q, b, hInt, hIdata, hBlock, hKind⟩
    have hNe : q ≠ p := by
      rintro rfl
      rw [hSocket] at hBlock
      cases hBlock
      cases hKind
    exact ⟨i, q, b, hI.trans hInt, hQ.trans hIdata,
      by simpa [hNe] using hBlock, hKind⟩
  · intro r r' e e' hE hE' hFresh hFresh' hSame
    rcases hBack r e hE with ⟨g, hG, -, -, hQ⟩
    rcases hBack r' e' hE' with ⟨g', hG', -, -, hQ'⟩
    exact hForm.own r r' g g' hG hG' hFresh hFresh'
      (hQ.symm.trans (hSame.trans hQ'))

------------------------------------------------------------
-- New And Released Sockets
------------------------------------------------------------

/- The entry of a socket descriptor. -/
def FdEntry.ofSocket (p : Ptr) : FdEntry :=
  ⟨true, some .lsckSocketFsext, some (.lsd p)⟩

theorem FdEntry.target_ofSocket (p : Ptr) :
    (FdEntry.ofSocket p).target = some (some p) :=
  rfl

theorem FdEntry.target_unused :
    FdEntry.unused.target = none :=
  rfl

/- A state with a new socket in an empty slot. -/
def Process.withSocket
    (s : Process)
    (i : Nat)
    (p : Ptr)
    (d : LsckSocket) : Process :=
  ((s.setEntry d.fd (FdEntry.ofSocket p)).setBlock p
    (some (.socket d))).setSlot i (some p)

theorem Process.registry_withSocket
    (s : Process)
    (i : Nat)
    (p : Ptr)
    (d : LsckSocket) :
    (s.withSocket i p d).registry =
      s.registry.insert i d.fd p := by
  have hHandle :
      (s.withSocket i p d).registry.handle =
        (s.registry.insert i d.fd p).handle := by
    funext fd
    by_cases hSame : fd = d.fd
    · subst hSame
      simp [registry, withSocket, HandleTable.insert,
        FdEntry.target_ofSocket]
    · simp [registry, withSocket, HandleTable.insert, hSame]
  have hOwner :
      (s.withSocket i p d).registry.owner =
        (s.registry.insert i d.fd p).owner := by
    funext r
    by_cases hSame : r = p
    · subst hSame
      simp [registry, withSocket, HandleTable.insert,
        socket?, Block.socket?]
    · simp [registry, withSocket, HandleTable.insert,
        socket?, hSame]
  simp only [registry, HandleTable.insert]
    at hHandle hOwner ⊢
  rw [hHandle, hOwner]
  rfl

/- A new socket keeps the state well formed. -/
theorem WellFormed.create
    {s : Process}
    {i : Nat}
    {p : Ptr}
    {d : LsckSocket}
    (hForm : WellFormed none s)
    (hSlot : freeSlot s.table = some i)
    (hClosed : (s.fds d.fd).dosOpen = false)
    (hMemory : s.heap p = none) :
    WellFormed (some p) (s.withSocket i p d) := by
  rcases freeSlot_eq_some hSlot with ⟨hIn, hEmpty⟩
  have hBack : ∀ r e,
      (s.withSocket i p d).heap r = some (.socket e) →
      some p ≠ some r →
      r ≠ p ∧ s.heap r = some (.socket e) := by
    intro r e hE hFresh
    have hNe : r ≠ p := by
      rintro rfl
      exact hFresh rfl
    exact ⟨hNe, by simpa [Process.withSocket, hNe] using hE⟩
  refine ⟨?_, ?_, ?_, ?_⟩
  · exact hForm.fds.update (by simp [FdEntry.ofSocket])
      (by simp [FdEntry.ofSocket])
  · rw [Process.registry_withSocket]
    refine hForm.table.insert hIn hEmpty ?_ ?_
    · refine FdEntry.target_eq_none.mpr ?_
      simp [hForm.fds.closed _ hClosed]
    · refine Process.owner_eq_none.mpr fun e hE => ?_
      rw [hMemory] at hE
      cases hE
  · intro r e hE hFresh
    rcases hBack r e hE hFresh with ⟨hNe, hOld⟩
    rcases hForm.data r e hOld (by simp) with
      ⟨j, q, b, hInterface, hData, hBlock, hKind⟩
    have hNeQ : q ≠ p := by
      rintro rfl
      rw [hMemory] at hBlock
      cases hBlock
    exact ⟨j, q, b, hInterface, hData,
      by simpa [Process.withSocket, hNeQ] using hBlock,
      hKind⟩
  · intro r r' e e' hE hE' hFresh hFresh' hSame
    exact hForm.own r r' e e' (hBack r e hE hFresh).2
      (hBack r' e' hE' hFresh').2 (by simp) (by simp) hSame

/-
  `s'` is `s` without a socket and its slot, and perhaps
  without its interface data.
-/
structure Removed
    (p : Ptr)
    (d : LsckSocket)
    (i : Nat)
    (s s' : Process) : Prop where
  table : s'.table = Function.update s.table i none
  fds : s'.fds = Function.update s.fds d.fd FdEntry.unused
  gone : s'.heap p = none
  heap : ∀ r, r ≠ p →
    s'.heap r = s.heap r ∨
      d.idata = some r ∧ s'.heap r = none

/- The interface data is certainly gone as well. -/
structure Erased
    (p : Ptr)
    (d : LsckSocket)
    (i : Nat)
    (s s' : Process) : Prop extends Removed p d i s s' where
  data : ∀ r, d.idata = some r → s'.heap r = none

theorem Removed.socket_back
    {p : Ptr}
    {d : LsckSocket}
    {i : Nat}
    {s s' : Process}
    (hRemoved : Removed p d i s s')
    {r : Ptr}
    {e : LsckSocket}
    (hSocket : s'.heap r = some (.socket e)) :
    r ≠ p ∧ s.heap r = some (.socket e) := by
  have hNe : r ≠ p := by
    rintro rfl
    rw [hRemoved.gone] at hSocket
    cases hSocket
  refine ⟨hNe, ?_⟩
  rcases hRemoved.heap r hNe with hSame | ⟨-, hGone⟩
  · rw [← hSame]
    exact hSocket
  · rw [hGone] at hSocket
    cases hSocket

/-
  Removing a socket keeps the state well formed, when no
  other socket uses its data.
-/
theorem WellFormed.remove
    {x : Option Ptr}
    {p : Ptr}
    {d : LsckSocket}
    {i : Nat}
    {s s' : Process}
    (hForm : WellFormed x s)
    (hOnly : x = none ∨ x = some p)
    (hSocket : s.heap p = some (.socket d))
    (hIn : InTable i)
    (hSlot : s.table i = some p)
    (hRemoved : Removed p d i s s')
    (hData : ∀ q b, d.idata = some q →
      s.heap q = some b → b.kind ≠ none)
    (hOwn : ∀ r e, r ≠ p → s.heap r = some (.socket e) →
      e.idata ≠ d.idata) :
    WellFormed none s' := by
  have hFresh : ∀ r, r ≠ p → x ≠ some r := by
    intro r hNe
    rcases hOnly with rfl | rfl
    · simp
    · simpa using Ne.symm hNe
  have hRegistry :
      s'.registry = s.registry.remove i d.fd p := by
    have hHandle :
        s'.registry.handle =
          (s.registry.remove i d.fd p).handle := by
      funext fd
      by_cases hSame : fd = d.fd
      · subst hSame
        simp [Process.registry, HandleTable.remove,
          hRemoved.fds, FdEntry.target_unused]
      · simp [Process.registry, HandleTable.remove,
          hRemoved.fds, hSame]
    have hOwner :
        s'.registry.owner =
          (s.registry.remove i d.fd p).owner := by
      funext r
      by_cases hSame : r = p
      · subst hSame
        simp [Process.registry, HandleTable.remove,
          Process.socket?, hRemoved.gone]
      · have hUnchanged :
            (s.registry.remove i d.fd p).owner r =
              s.registry.owner r := by
          simp [HandleTable.remove, hSame]
        rw [hUnchanged]
        rcases hRemoved.heap r hSame with h | ⟨hQ, hGone⟩
        · simp [Process.registry, Process.socket?, h]
        · have hNone : s.registry.owner r = none := by
            refine Process.owner_eq_none.mpr fun e hE => ?_
            exact hData r _ hQ hE rfl
          rw [hNone]
          refine Process.owner_eq_none.mpr fun e hE => ?_
          rw [hGone] at hE
          cases hE
    simp only [Process.registry, HandleTable.remove]
      at hHandle hOwner ⊢
    rw [hHandle, hOwner, hRemoved.table]
  refine ⟨?_, ?_, ?_, ?_⟩
  · rw [hRemoved.fds]
    exact hForm.fds.update (by simp [FdEntry.unused])
      (by simp [FdEntry.unused])
  · rw [hRegistry]
    exact hForm.table.remove hIn hSlot
      (Process.owner_eq_some.mpr ⟨d, hSocket, rfl⟩)
  · intro r e hE _
    rcases hRemoved.socket_back hE with ⟨hNe, hOld⟩
    rcases hForm.data r e hOld (hFresh r hNe) with
      ⟨j, q, b, hInterface, hQ, hBlock, hKind⟩
    have hNeQ : q ≠ p := by
      rintro rfl
      rw [hSocket] at hBlock
      cases hBlock
      cases hKind
    refine ⟨j, q, b, hInterface, hQ, ?_, hKind⟩
    rcases hRemoved.heap q hNeQ with h | ⟨hShared, -⟩
    · exact h.trans hBlock
    · exact absurd (hQ.trans hShared.symm)
        (hOwn r e hNe hOld)
  · intro r r' e e' hE hE' _ _ hSame
    rcases hRemoved.socket_back hE with ⟨hNe, hOld⟩
    rcases hRemoved.socket_back hE' with ⟨hNe', hOld'⟩
    exact hForm.own r r' e e' hOld hOld' (hFresh r hNe)
      (hFresh r' hNe') hSame

------------------------------------------------------------
-- Attaching Data To A Descriptor
------------------------------------------------------------

/-
  A new block for an interface's data is hung on a
  descriptor, or none when there is no memory.
-/
def Attached
    (i : Interface)
    (p : Ptr)
    (q : Option Ptr)
    (s s' : Process) : Prop :=
  ∃ d, s.heap p = some (.socket d) ∧
    match q with
    | none =>
        s' = s.setBlock p
          (some (.socket { d with idata := none }))
    | some q =>
        s.heap q = none ∧ ∃ b, b.kind = some i ∧
          s' = (s.setBlock q (some b)).setBlock p
            (some (.socket { d with idata := some q }))

/- The allocation that every interface starts with. -/
theorem attached_of_run
    {i : Interface}
    {memory q : Option Ptr}
    {content : Block}
    {p : Ptr}
    {s t s' : Process}
    (hKind : content.kind = some i)
    (hMalloc : malloc memory content s = .ok (q, t))
    (hHang : modifySocket p
      (fun d => { d with idata := q }) t = .ok ((), s')) :
    Attached i p q s s' := by
  rcases modifySocket_ok hHang with ⟨d, hSocket, rfl⟩
  rcases malloc_ok hMalloc with
    ⟨rfl, rfl⟩ | ⟨q', rfl, -, hFree, rfl⟩
  · exact ⟨d, hSocket, rfl⟩
  · by_cases hSame : p = q'
    · subst hSame
      have hBlock : content = .socket d := by
        simpa using hSocket
      subst hBlock
      cases hKind
    · have hOld : s.heap p = some (.socket d) := by
        simpa [hSame] using hSocket
      exact ⟨d, hOld, hFree, content, hKind, rfl⟩

namespace Attached

variable {i : Interface} {p : Ptr} {q : Option Ptr}
variable {s s' : Process}

/- Tables and descriptors are untouched. -/
theorem tables
    (hAttached : Attached i p q s s') :
    s'.table = s.table ∧ s'.fds = s.fds := by
  rcases hAttached with ⟨d, -, hRest⟩
  cases q with
  | none =>
      cases hRest
      exact ⟨rfl, rfl⟩
  | some q =>
      rcases hRest with ⟨-, b, -, rfl⟩
      exact ⟨rfl, rfl⟩

/- The descriptor points to the new data. -/
theorem socket
    (hAttached : Attached i p q s s')
    {d : LsckSocket}
    (hSocket : s.heap p = some (.socket d)) :
    s'.heap p = some (.socket { d with idata := q }) := by
  rcases hAttached with ⟨e, hE, hRest⟩
  rw [hSocket] at hE
  cases hE
  cases q with
  | none =>
      cases hRest
      simp
  | some q =>
      rcases hRest with ⟨-, b, -, rfl⟩
      simp

/- Every other block that was live is still there. -/
theorem other
    (hAttached : Attached i p q s s')
    {r : Ptr}
    {b : Block}
    (hNe : r ≠ p)
    (hBlock : s.heap r = some b) :
    s'.heap r = some b := by
  rcases hAttached with ⟨d, -, hRest⟩
  cases q with
  | none =>
      cases hRest
      simpa [hNe] using hBlock
  | some q =>
      rcases hRest with ⟨hFree, b', -, rfl⟩
      have hNeQ : r ≠ q := by
        rintro rfl
        rw [hFree] at hBlock
        cases hBlock
      simpa [hNe, hNeQ] using hBlock

/- No other socket appears. -/
theorem socket_back
    (hAttached : Attached i p q s s')
    {r : Ptr}
    {d' : LsckSocket}
    (hNe : r ≠ p)
    (hSocket' : s'.heap r = some (.socket d')) :
    s.heap r = some (.socket d') ∧ q ≠ some r := by
  rcases hAttached with ⟨d, -, hRest⟩
  cases q with
  | none =>
      cases hRest
      exact ⟨by simpa [hNe] using hSocket', by simp⟩
  | some q =>
      rcases hRest with ⟨hFree, b', hKind, rfl⟩
      by_cases hNeQ : r = q
      · subst hNeQ
        have hBlock : b' = .socket d' := by
          simpa [hNe] using hSocket'
        subst hBlock
        cases hKind
      · refine ⟨by simpa [hNe, hNeQ] using hSocket', ?_⟩
        rintro hSame
        exact hNeQ (Option.some.inj hSame).symm

/- The new block was free and has the interface's kind. -/
theorem data
    (hAttached : Attached i p (some r) s s') :
    s.heap r = none ∧
      ∃ b, s'.heap r = some b ∧ b.kind = some i := by
  rcases hAttached with ⟨d, hSocket, hFree, b, hKind, rfl⟩
  have hNe : r ≠ p := by
    rintro rfl
    rw [hFree] at hSocket
    cases hSocket
  exact ⟨hFree, b, by simp [hNe], hKind⟩

/- The registry does not notice. -/
theorem registry
    (hAttached : Attached i p q s s') :
    s'.registry = s.registry := by
  rcases hAttached.tables with ⟨hTable, hFds⟩
  have hOwner : s'.registry.owner = s.registry.owner := by
    funext r
    by_cases hSame : r = p
    · subst hSame
      rcases hAttached with ⟨d, hSocket, hRest⟩
      have hSocket' :=
        Attached.socket ⟨d, hSocket, hRest⟩ hSocket
      rw [Process.owner_eq_some.mpr ⟨_, hSocket, rfl⟩]
      exact Process.owner_eq_some.mpr ⟨_, hSocket', rfl⟩
    · cases hBefore : s.registry.owner r with
      | some fd =>
          rcases Process.owner_eq_some.mp hBefore with
            ⟨d, hSocket, hFd⟩
          exact Process.owner_eq_some.mpr
            ⟨d, hAttached.other hSame hSocket, hFd⟩
      | none =>
          refine Process.owner_eq_none.mpr fun d' hD' => ?_
          exact Process.owner_eq_none.mp hBefore d'
            (hAttached.socket_back hSame hD').1
  simp only [Process.registry] at hOwner ⊢
  rw [hTable, hFds, hOwner]

end Attached

/- Attaching data keeps a state well formed. -/
theorem WellFormed.attached
    {i : Interface}
    {p : Ptr}
    {q : Option Ptr}
    {s s' : Process}
    (hForm : WellFormed (some p) s)
    (hAttached : Attached i p q s s') :
    WellFormed (some p) s' := by
  have hOther : ∀ r d',
      s'.heap r = some (.socket d') → some p ≠ some r →
      r ≠ p ∧ s.heap r = some (.socket d') := by
    intro r d' hSocket' hFresh
    have hNe : r ≠ p := by
      rintro rfl
      exact hFresh rfl
    exact ⟨hNe, (hAttached.socket_back hNe hSocket').1⟩
  refine ⟨?_, ?_, ?_, ?_⟩
  · rw [hAttached.tables.2]
    exact hForm.fds
  · rw [hAttached.registry]
    exact hForm.table
  · intro r d hSocket' hFresh
    rcases hOther r d hSocket' hFresh with ⟨hNe, hSocket⟩
    rcases hForm.data r d hSocket hFresh with
      ⟨j, q', b, hInterface, hData, hBlock, hKind⟩
    have hNe' : q' ≠ p := by
      rintro rfl
      rcases hAttached with ⟨e, hE, -⟩
      rw [hBlock] at hE
      cases hE
      cases hKind
    exact ⟨j, q', b, hInterface, hData,
      hAttached.other hNe' hBlock, hKind⟩
  · intro r r' d d' hD hD' hFresh hFresh' hSame
    exact hForm.own r r' d d'
      (hOther r d hD hFresh).2 (hOther r' d' hD' hFresh').2
      hFresh hFresh' hSame

/-
  A new descriptor that has got its data is like all the
  others.
-/
theorem WellFormed.adopted
    {i : Interface}
    {p q : Ptr}
    {d : LsckSocket}
    {s s' : Process}
    (hForm : WellFormed (some p) s)
    (hAttached : Attached i p (some q) s s')
    (hSocket : s.heap p = some (.socket d))
    (hInterface : d.interface = some i) :
    WellFormed none s' := by
  have hForm' := hForm.attached hAttached
  rcases hAttached.data with ⟨hFree, b, hBlock, hKind⟩
  have hNew := hAttached.socket hSocket
  have hOwn : ∀ r e, r ≠ p →
      s'.heap r = some (.socket e) → e.idata ≠ some q := by
    intro r e hNe hE hData
    have hOld := (hAttached.socket_back hNe hE).1
    rcases hForm.data r e hOld (by simpa using hNe.symm) with
      ⟨j, q', b', -, hData', hBlock', -⟩
    rw [hData] at hData'
    cases hData'
    rw [hFree] at hBlock'
    cases hBlock'
  refine ⟨hForm'.fds, hForm'.table, ?_, ?_⟩
  · intro r e hE _
    by_cases hSame : r = p
    · subst hSame
      rw [hNew] at hE
      cases hE
      exact ⟨i, q, b, hInterface, rfl, hBlock, hKind⟩
    · exact hForm'.data r e hE (by simpa using Ne.symm hSame)
  · intro r r' e e' hE hE' _ _ hData
    by_cases hSame : r = p <;> by_cases hSame' : r' = p
    · rw [hSame, hSame']
    · subst hSame
      rw [hNew] at hE
      cases hE
      exact absurd hData.symm (hOwn r' e' hSame' hE')
    · subst hSame'
      rw [hNew] at hE'
      cases hE'
      exact absurd hData (hOwn r e hSame hE)
    · exact hForm'.own r r' e e' hE hE'
        (by simpa using Ne.symm hSame)
        (by simpa using Ne.symm hSame') hData

/-
  From a state, a callback gives data to a descriptor and
  otherwise leaves things alone; without data it does not
  succeed.
-/
def AttachesFrom
    (i : Interface)
    (p : Ptr)
    (m : Exec Int)
    (s : Process) : Prop :=
  ∀ r s', m s = .ok (r, s') →
    ∃ q t, Attached i p q s t ∧ Still t s' ∧
      (r ≠ -1 → q ≠ none)

/- A callback that does so from any state. -/
abbrev Attaches
    (i : Interface)
    (p : Ptr)
    (m : Exec Int) : Prop :=
  ∀ s, AttachesFrom i p m s

/- Reading the state first makes no difference. -/
theorem Attaches.after_read
    {α : Type}
    {i : Interface}
    {p : Ptr}
    {first : Exec α}
    {rest : α → Exec Int}
    (hReads : ∀ s a s', first s = .ok (a, s') → s' = s)
    (hRest : ∀ a, Attaches i p (rest a)) :
    Attaches i p (first >>= rest) := by
  intro s r s' hRun
  rcases bind_eq_ok.mp hRun with ⟨a, t, hFirst, hTail⟩
  have hSame := hReads s a t hFirst
  subst hSame
  exact hRest a t r s' hTail

/- The allocation, and a rest that needs its result. -/
theorem Attaches.of_malloc_rest
    {i : Interface}
    {p : Ptr}
    {memory : Option Ptr}
    {content : Block}
    {rest : Option Ptr → Exec Int}
    (hKind : content.kind = some i)
    (hRest : ∀ q, StillCmd (rest q))
    (hNone : ∀ s r s', rest none s = .ok (r, s') →
      r = -1) :
    Attaches i p (do
      let q ← malloc memory content
      modifySocket p fun d => { d with idata := q }
      rest q) := by
  intro s r s' hRun
  rcases bind_eq_ok.mp hRun with ⟨q, t, hMalloc, hTail⟩
  rcases bind_eq_ok.mp hTail with ⟨_, u, hHang, hLast⟩
  refine ⟨q, u, attached_of_run hKind hMalloc hHang,
    hRest q u r s' hLast, ?_⟩
  rintro hNe rfl
  exact hNe (hNone u r s' hLast)

/- The shape of most of these callbacks. -/
theorem Attaches.of_malloc
    {i : Interface}
    {p : Ptr}
    {memory : Option Ptr}
    {content : Block}
    {e : Errno}
    {rest : Option Ptr → Exec Int}
    (hKind : content.kind = some i)
    (hRest : ∀ q, StillCmd (rest q)) :
    Attaches i p (do
      let q ← malloc memory content
      modifySocket p fun d => { d with idata := q }
      if q = none then fail e else rest q) := by
  refine Attaches.of_malloc_rest hKind ?_ ?_
  · exact fun q => StillCmd.ite (StillCmd.fail e) (hRest q)
  · intro s r s' hRun
    cases hRun
    rfl

end Libsocket
