import Libsocket.Core.Create

/-
  Reserving a descriptor number, a slot and memory for a new
  socket, and what becomes of the reservation.

  Main declarations:
    * `Reserved`, `reserve_ok`
    * `evolves_adopt`
    * `evolves_cleanup`
-/

namespace Libsocket

open Command

------------------------------------------------------------
-- Reserving A Descriptor
------------------------------------------------------------

/- The entry of a socket number that has no socket yet. -/
def FdEntry.reserved : FdEntry :=
  ⟨true, some .lsckSocketFsext, none⟩

/- Reserving a number for a socket. -/
theorem allocFd_socket_ok
    {number : Option Fd}
    {s s' : Process}
    {fd : Fd}
    (hFds : FdsOk s.fds)
    (hRun :
      allocFd number .lsckSocketFsext s = .ok (fd, s')) :
    fd = -1 ∧ s' = s ∨
      number = some fd ∧ 0 ≤ fd ∧
        (s.fds fd).dosOpen = false ∧
        s' = s.setEntry fd FdEntry.reserved := by
  rcases allocFd_ok hRun with hNone |
    ⟨hNumber, hLow, hFree, rfl⟩
  · exact .inl hNone
  · refine .inr ⟨hNumber, hLow, hFree, ?_⟩
    rw [hFds.unused hFree]
    rfl

/- An abandoned number is free as before. -/
theorem abandonFd_ok
    {s s' : Process}
    {fd : Fd}
    {e : Errno}
    {r : Int}
    (hFds : FdsOk s.fds)
    (hFree : (s.fds fd).dosOpen = false)
    (hRun : abandonFd fd e
      (s.setEntry fd FdEntry.reserved) = .ok (r, s')) :
    r = -1 ∧ s' = { s with errno := e } := by
  have hUnused := hFds.unused hFree
  cases hRun
  refine ⟨rfl, ?_⟩
  simp [Process.setEntry, hUnused, FdEntry.unused,
    FdEntry.reserved]

/-
  The steps that put a new descriptor in place: its memory,
  its slot, its extension data and its fields.
-/
theorem reserve_ok
    {s s' : Process}
    {fd : Fd}
    {slot : Nat}
    {memory : Option Ptr}
    {d : LsckSocket}
    {e : Errno}
    {rest : Ptr → Exec Int}
    {r : Int}
    (hFds : FdsOk s.fds)
    (hFree : (s.fds fd).dosOpen = false)
    (hSlot : freeSlot s.table = some slot)
    (hFd : d.fd = fd)
    (hRun : (do
      let lsd ← malloc memory (.socket .cleared)
      modify fun s => s.setSlot slot lsd
      match lsd with
      | none => abandonFd fd e
      | some p => do
          setData fd (some (.lsd p))
          modifySocket p fun _ => d
          rest p : Exec Int)
      (s.setEntry fd FdEntry.reserved) = .ok (r, s')) :
    r = -1 ∧ s' = { s with errno := e } ∨
      ∃ p, memory = some p ∧ s.heap p = none ∧
        rest p (s.withSocket slot p d) = .ok (r, s') := by
  rcases bind_eq_ok.mp hRun with ⟨lsd, t, hMalloc, hTail⟩
  rw [run_bind_ok (run_modify _ _)] at hTail
  rcases malloc_ok hMalloc with
    ⟨rfl, rfl⟩ | ⟨p, rfl, hAddress, hMemory, rfl⟩
  · have hEmpty := (freeSlot_eq_some hSlot).2
    have hSame :
        (s.setEntry fd FdEntry.reserved).setSlot slot none =
          s.setEntry fd FdEntry.reserved := by
      simp [Process.setEntry, Process.setSlot, hEmpty]
    rw [hSame] at hTail
    exact .inl (abandonFd_ok hFds hFree hTail)
  · refine .inr ⟨p, hAddress, hMemory, ?_⟩
    rcases bind_eq_ok.mp hTail with ⟨_, t, hData, hTail⟩
    cases hData
    rcases bind_eq_ok.mp hTail with ⟨_, t, hSocket, hTail⟩
    rcases modifySocket_ok hSocket with ⟨_, -, rfl⟩
    subst hFd
    have hSame : s.withSocket slot p d =
        ((((s.setEntry d.fd FdEntry.reserved).setBlock p
          (some (.socket .cleared))).setSlot slot
          (some p)).setEntry d.fd
            (FdEntry.ofSocket p)).setBlock p
              (some (.socket d)) := by
      simp [Process.withSocket, Process.setEntry,
        Process.setBlock, Process.setSlot]
    rw [hSame]
    simpa [FdEntry.ofSocket, FdEntry.reserved] using hTail


/- What a reservation has taken from the state before. -/
structure Reserved
    (number : Option Fd)
    (memory : Option Ptr)
    (s : Process)
    (fd : Fd)
    (slot : Nat)
    (p : Ptr) : Prop where
  number : number = some fd
  low : 0 ≤ fd
  closed : (s.fds fd).dosOpen = false
  slot : freeSlot s.table = some slot
  memory : memory = some p
  heap : s.heap p = none

theorem Reserved.form
    {number : Option Fd}
    {memory : Option Ptr}
    {s : Process}
    {slot : Nat}
    {p : Ptr}
    {d : LsckSocket}
    (hReserved : Reserved number memory s d.fd slot p)
    (hForm : WellFormed none s) :
    WellFormed (some p) (s.withSocket slot p d) :=
  hForm.create hReserved.slot hReserved.closed hReserved.heap

theorem Reserved.heap_withSocket
    (s : Process)
    (slot : Nat)
    (p : Ptr)
    (d : LsckSocket) :
    (s.withSocket slot p d).heap =
      Function.update s.heap p (some (.socket d)) :=
  rfl

theorem Reserved.socket_withSocket
    (s : Process)
    (slot : Nat)
    (p : Ptr)
    (d : LsckSocket) :
    (s.withSocket slot p d).heap p = some (.socket d) := by
  simp [heap_withSocket]

/- What can be reserved is reserved. -/
theorem Reserved.allocFd_run
    {number : Option Fd}
    {memory : Option Ptr}
    {s : Process}
    {fd : Fd}
    {slot : Nat}
    {p : Ptr}
    (hReserved : Reserved number memory s fd slot p)
    (hFds : FdsOk s.fds) :
    allocFd number .lsckSocketFsext s =
      .ok (fd, s.setEntry fd FdEntry.reserved) := by
  have hFree : 0 ≤ fd ∧ (s.fds fd).dosOpen = false :=
    ⟨hReserved.low, hReserved.closed⟩
  unfold allocFd
  rw [run_bind_ok (run_get s), hReserved.number]
  simp only [if_pos hFree]
  rw [run_bind_ok (run_modify _ s),
    hFds.unused hReserved.closed]
  rfl

/- The steps that put the new descriptor in place. -/
theorem Reserved.reserve_run
    {number : Option Fd}
    {memory : Option Ptr}
    {s : Process}
    {fd : Fd}
    {slot : Nat}
    {p : Ptr}
    {d : LsckSocket}
    {e : Errno}
    {rest : Ptr → Exec Int}
    (hReserved : Reserved number memory s fd slot p)
    (hFd : d.fd = fd) :
    (do
      let lsd ← malloc memory (.socket .cleared)
      modify fun s => s.setSlot slot lsd
      match lsd with
      | none => abandonFd fd e
      | some p => do
          setData fd (some (.lsd p))
          modifySocket p fun _ => d
          rest p : Exec Int)
      (s.setEntry fd FdEntry.reserved) =
        rest p (s.withSocket slot p d) := by
  subst hFd
  have hMalloc : malloc memory (.socket .cleared)
      (s.setEntry d.fd FdEntry.reserved) =
        .ok (some p, (s.setEntry d.fd
          FdEntry.reserved).setBlock p
            (some (.socket .cleared))) := by
    unfold malloc
    rw [run_bind_ok (run_get _), hReserved.memory]
    simp only [Process.heap_setEntry, hReserved.heap,
      Option.isSome_none, Bool.false_eq_true, if_false]
    rfl
  rw [run_bind_ok hMalloc, run_bind_ok (run_modify _ _)]
  dsimp only
  unfold setData
  have hThere : ∀ e : FdEntry,
      ((((s.setEntry d.fd FdEntry.reserved).setBlock p
        (some (.socket .cleared))).setSlot slot
          (some p)).setEntry d.fd e).heap p =
            some (.socket .cleared) := by
    intro e
    simp
  rw [run_bind_ok (run_modify _ _),
    run_bind_ok (modifySocket_run (hThere _))]
  congr 1
  simp [Process.withSocket, Process.setEntry,
    Process.setBlock, Process.setSlot, FdEntry.ofSocket,
    FdEntry.reserved]

/- Taking everything back restores the state. -/
theorem Reserved.withSocket_undone
    {number : Option Fd}
    {memory : Option Ptr}
    {s : Process}
    {fd : Fd}
    {slot : Nat}
    {p : Ptr}
    {d : LsckSocket}
    (hReserved : Reserved number memory s fd slot p)
    (hFds : FdsOk s.fds)
    (hFd : d.fd = fd) :
    (((s.withSocket slot p d).setEntry fd
      FdEntry.unused).setBlock p none).setSlot slot none =
        s := by
  subst hFd
  have hUnused := hFds.unused hReserved.closed
  have hEmpty := (freeSlot_eq_some hReserved.slot).2
  have hEntry : Function.update s.fds d.fd FdEntry.unused =
      s.fds := by
    rw [← hUnused, Function.update_eq_self]
  have hHeap : Function.update s.heap p none = s.heap := by
    rw [← hReserved.heap, Function.update_eq_self]
  have hTable : Function.update s.table slot none =
      s.table := by
    rw [← hEmpty, Function.update_eq_self]
  simp [Process.withSocket, Process.setEntry,
    Process.setBlock, Process.setSlot, hEntry, hHeap, hTable]

/- Taking back the slot and the number of a reservation. -/
theorem Reserved.undone
    {number : Option Fd}
    {memory : Option Ptr}
    {s : Process}
    {slot : Nat}
    {p : Ptr}
    {d : LsckSocket}
    (hReserved : Reserved number memory s d.fd slot p)
    (hFds : FdsOk s.fds) :
    Function.update (s.withSocket slot p d).table slot none =
        s.table ∧
      Function.update (s.withSocket slot p d).fds d.fd
        FdEntry.unused = s.fds := by
  have hSlot := (freeSlot_eq_some hReserved.slot).2
  have hUnused := hFds.unused hReserved.closed
  constructor
  · show Function.update (Function.update s.table slot _) slot
      none = s.table
    rw [Function.update_idem, ← hSlot,
      Function.update_eq_self]
  · show Function.update (Function.update s.fds d.fd _) d.fd
      FdEntry.unused = s.fds
    rw [Function.update_idem, ← hUnused,
      Function.update_eq_self]

------------------------------------------------------------
-- Finished And Abandoned Descriptors
------------------------------------------------------------

section Reservation

variable {s v w s' : Process}
variable {i : Interface}
variable {slot : Nat}
variable {p : Ptr}
variable {q : Option Ptr}
variable {d d' : LsckSocket}
variable {New : LsckSocket → Prop}

/- Sockets other than the reserved one were there before. -/
theorem reserved_back
    (hAttached : Attached i p q (s.withSocket slot p d) v)
    (hStill : Still v w)
    {r : Ptr}
    {e : LsckSocket}
    (hNe : r ≠ p)
    (hSocket : w.heap r = some (.socket e)) :
    q ≠ some r ∧ ∃ e', s.heap r = some (.socket e') ∧
      (s.withSocket slot p d).heap r =
        some (.socket e') ∧
      e.status = e'.status := by
  rcases hStill.socket_back hSocket with ⟨e', hE', hStatus⟩
  rcases hAttached.socket_back hNe hE' with ⟨hOld, hNeQ⟩
  refine ⟨hNeQ, e', ?_, hOld, hStatus⟩
  simpa [Reserved.heap_withSocket, hNe] using hOld

/- The reserved descriptor after the callback. -/
theorem reserved_socket
    (hAttached : Attached i p q (s.withSocket slot p d) v)
    (hStill : Still v w)
    (hSocket : w.heap p = some (.socket d')) :
    d'.status = { d with idata := q }.status := by
  rcases hStill.socket_back hSocket with ⟨e, hE, hStatus⟩
  rw [hAttached.socket
    (Reserved.socket_withSocket s slot p d)] at hE
  cases hE
  exact hStatus

/- A descriptor that has its data joins the others. -/
theorem evolves_adopt
    (hReserved :
      (s.fds d.fd).dosOpen = false ∧
        freeSlot s.table = some slot ∧ s.heap p = none)
    (hAttached : Attached i p q (s.withSocket slot p d) v)
    (hSome : q ≠ none)
    (hStill : Still v w)
    (hInterface : d.interface = some i)
    (hNew : ∀ d',
      d'.status = { d with idata := q }.status → New d') :
    Evolves New s w := by
  rcases hReserved with ⟨hClosed, hSlot, hMemory⟩
  rcases Option.ne_none_iff_exists'.mp hSome with ⟨q', rfl⟩
  refine ⟨fun hForm => ?_, ?_⟩
  · have hForm' := hForm.create hSlot hClosed hMemory
    refine WellFormed.still ?_ hStill
    exact hForm'.adopted hAttached
      (Reserved.socket_withSocket s slot p d) hInterface
  · intro hForm r e hE
    by_cases hSame : r = p
    · subst hSame
      exact .inr (hNew e
        (reserved_socket hAttached hStill hE))
    · rcases reserved_back hAttached hStill hSame hE with
        ⟨-, e', hE', -, hStatus⟩
      exact .inl ⟨e', hE', .of_status hStatus⟩

/- A descriptor that is removed again leaves no trace. -/
theorem evolves_cleanup
    (hReserved :
      (s.fds d.fd).dosOpen = false ∧
        freeSlot s.table = some slot ∧ s.heap p = none)
    (hAttached : Attached i p q (s.withSocket slot p d) v)
    (hStill : Still v w)
    (hSocket : w.heap p = some (.socket d'))
    (hRemoved : Removed p d' slot w s') :
    Evolves New s s' := by
  rcases hReserved with ⟨hClosed, hSlot, hMemory⟩
  have hStatus := reserved_socket hAttached hStill hSocket
  have hData : d'.idata = q :=
    (LsckSocket.same_of_status hStatus).2.2
  refine ⟨fun hForm => ?_, ?_⟩
  · have hFormU := hForm.create hSlot hClosed hMemory
    have hFormW := (hFormU.attached hAttached).still hStill
    refine hFormW.remove (.inr rfl) hSocket
      (freeSlot_eq_some hSlot).1 ?_ hRemoved ?_ ?_
    · rw [hStill.table, hAttached.tables.1]
      simp [Process.withSocket]
    · intro r b hR hB
      rw [hData] at hR
      subst hR
      rcases hAttached.data with ⟨-, b', hB', hKind⟩
      rcases hStill.kind hB' with ⟨b'', hB'', hKind'⟩
      rw [hB] at hB''
      cases hB''
      simp [hKind', hKind]
    · intro r e hNe hE hShared
      rcases reserved_back hAttached hStill hNe hE with
        ⟨-, e', -, hE', hStatus'⟩
      rcases hFormU.data r e' hE'
        (by simpa using Ne.symm hNe) with
        ⟨j, q', b, -, hQ', hB, -⟩
      have hIdata := (LsckSocket.same_of_status hStatus').2.2
      have hQ : q = some q' :=
        hData.symm.trans (hShared.symm.trans
          (hIdata.trans hQ'))
      subst hQ
      rw [hAttached.data.1] at hB
      cases hB
  · intro hForm r e hE
    rcases hRemoved.socket_back hE with ⟨hNe, hOld⟩
    rcases reserved_back hAttached hStill hNe hOld with
      ⟨-, e', hE', -, hStatus'⟩
    exact .inl ⟨e', hE', .of_status hStatus'⟩

end Reservation

end Libsocket
