import Libsocket.Core.Invariant

/-
  The slot table, the extension map and the live descriptors
  agree in every state that a run reaches.

  Main declarations:
    * `TableInv`
    * `tableInv_of_reachable`
-/

namespace Libsocket

open Command

------------------------------------------------------------
-- Table Invariant
------------------------------------------------------------

/-
  A slot holds a live descriptor whose number leads back to
  it, no two slots share a descriptor or a number, and every
  number of the socket extension leads to a live descriptor
  in exactly one slot.
-/
structure TableInv (s : Process) : Prop where
  slot_live : ∀ i p, i < lsckNumSocket →
    s.table i = some p →
    ∃ d, s.heap p = some (.socket d) ∧
      (s.fds d.fd).function = some .lsckSocketFsext ∧
      (s.fds d.fd).data = some (.lsd p)
  block_inj : ∀ i j p, i < lsckNumSocket →
    j < lsckNumSocket → s.table i = some p →
    s.table j = some p → i = j
  fd_inj : ∀ i j p q d e, i < lsckNumSocket →
    j < lsckNumSocket → s.table i = some p →
    s.table j = some q → s.heap p = some (.socket d) →
    s.heap q = some (.socket e) → d.fd = e.fd → i = j
  fd_live : ∀ fd,
    (s.fds fd).function = some .lsckSocketFsext →
    ∃ p d i, (s.fds fd).data = some (.lsd p) ∧
      s.heap p = some (.socket d) ∧
      i < lsckNumSocket ∧ s.table i = some p ∧
      ∀ j, j < lsckNumSocket → s.table j = some p → j = i

theorem WellFormed.slot_live
    {s : Process}
    (hForm : WellFormed none s)
    {i : Nat}
    {p : Ptr}
    (hIn : i < lsckNumSocket)
    (hSlot : s.table i = some p) :
    ∃ d, s.heap p = some (.socket d) ∧
      (s.fds d.fd).function = some .lsckSocketFsext ∧
      (s.fds d.fd).data = some (.lsd p) := by
  rcases hForm.table.slot_owner i p hIn hSlot with
    ⟨fd, hOwner, -⟩
  rcases Process.owner_eq_some.mp hOwner with
    ⟨d, hSocket, -⟩
  exact ⟨d, hSocket, hForm.entry hSocket⟩

/- Well-formed states satisfy the table invariant. -/
theorem WellFormed.tableInv
    {s : Process}
    (hForm : WellFormed none s) :
    TableInv s := by
  refine ⟨?_, ?_, ?_, ?_⟩
  · intro i p hIn hSlot
    exact hForm.slot_live hIn hSlot
  · intro i j p hI hJ hSlotI hSlotJ
    exact hForm.table.slot_inj i j p hI hJ hSlotI hSlotJ
  · intro i j p q d e hI hJ hSlotI hSlotJ hD hE hFd
    exact hForm.table.slot_owner_inj hI hJ hSlotI hSlotJ
      (Process.owner_eq_some.mpr ⟨d, hD, rfl⟩)
      (Process.owner_eq_some.mpr ⟨e, hE, hFd.symm⟩)
  · intro fd hHandler
    rcases hForm.target hHandler with
      ⟨p, d, hData, hSocket, hFd⟩
    have hHandle : s.registry.handle fd = some (some p) :=
      FdEntry.target_eq_some.mpr ⟨hHandler, hData⟩
    rcases hForm.table.handle_slot hHandle with
      ⟨p', i, hP, -, hIn, hSlot, hOnly⟩
    cases hP
    exact ⟨p, d, i, hData, hSocket, hIn, hSlot, hOnly⟩

/- What `__fd_to_lsd` answers for a socket's number. -/
theorem TableInv.fdToLsd
    {s : Process}
    (hInv : TableInv s)
    {fd : Fd}
    (hHandler :
      (s.fds fd).function = some .lsckSocketFsext) :
    ∃ p d, fdToLsd fd s = .ok (some p, s) ∧
      s.heap p = some (.socket d) := by
  rcases hInv.fd_live fd hHandler with
    ⟨p, d, -, hData, hSocket, -⟩
  refine ⟨p, d, ?_, hSocket⟩
  simp [Libsocket.fdToLsd, run_bind, fdIsSocket, hHandler,
    hData]

/-
  Every reachable state keeps slots, numbers and descriptors
  in step, so that `__fd_to_lsd` leads from a socket's number
  to a live descriptor.
-/
theorem tableInv_of_reachable
    {s : Process}
    (hReach : lsckSystem.Reachable s) :
    TableInv s ∧ ∀ fd,
      (s.fds fd).function = some .lsckSocketFsext →
      ∃ p d, Libsocket.fdToLsd fd s = .ok (some p, s) ∧
        s.heap p = some (.socket d) := by
  have hInv := (wellFormed_of_reachable hReach).tableInv
  exact ⟨hInv, fun fd hHandler => hInv.fdToLsd hHandler⟩

theorem tableInv_of_first_socket :
    ∃ s, runCalls [streamCall] bareProcess = some s ∧
      TableInv s ∧ ∀ fd,
        (s.fds fd).function = some .lsckSocketFsext →
        ∃ p d, Libsocket.fdToLsd fd s = .ok (some p, s) ∧
          s.heap p = some (.socket d) := by
  have hSome :
      (runCalls [streamCall] bareProcess).isSome = true := by
    decide +kernel
  rcases Option.isSome_iff_exists.mp hSome with ⟨s, hRun⟩
  exact ⟨s, hRun,
    tableInv_of_reachable (reachable_of_calls hRun)⟩

end Libsocket
