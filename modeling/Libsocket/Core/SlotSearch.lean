import Libsocket.Unix.Names
import Mathlib.Order.Bounds.Basic

/-
  The search for a free slot in `__socketx` and `accept`. The
  loop looks at a slot before it tests the bound, so that on
  a full table it looks behind the table's end.

  Main declarations:
    * `searchReads`
    * `SearchRight`, `FullGivesUp`
    * `slotSearch_iff`
-/

namespace Libsocket

open Command

------------------------------------------------------------
-- Slots That Are Read
------------------------------------------------------------

/-
  The slots that the loop reads from slot `i` on, with
  `remaining` slots to go. At the bound the slot is read once
  more before the bound ends the loop.
-/
def slotReads
    (table : Nat → Option Ptr) : Nat → Nat → List Nat
| 0, i => [i]
| remaining + 1, i =>
    if (table i).isSome then
      i :: slotReads table remaining (i + 1)
    else
      [i]

/-
  All reads of the search. The test behind the loop reads the
  slot again when it is the last one.
-/
def searchReads (table : Nat → Option Ptr) : List Nat :=
  let i := firstFree table lsckNumSocket 0
  slotReads table lsckNumSocket 0 ++
    if i = lsckNumSocket - 1 then [i] else []

/- The loop reads every slot up to where it stops. -/
theorem mem_slotReads
    (table : Nat → Option Ptr)
    (remaining i j : Nat) :
    j ∈ slotReads table remaining i ↔
      i ≤ j ∧ j ≤ firstFree table remaining i := by
  induction remaining generalizing i with
  | zero =>
      simp only [slotReads, firstFree, List.mem_singleton]
      omega
  | succ remaining ih =>
      by_cases hTaken : (table i).isSome
      · have hLow :=
          (firstFree_spec table remaining (i + 1)).1
        simp only [slotReads, firstFree, if_pos hTaken,
          List.mem_cons, ih (i + 1)]
        omega
      · simp only [slotReads, firstFree, if_neg hTaken,
          List.mem_singleton]
        omega

theorem mem_searchReads
    (table : Nat → Option Ptr)
    (j : Nat) :
    j ∈ searchReads table ↔
      j ≤ firstFree table lsckNumSocket 0 := by
  simp only [searchReads, List.mem_append, mem_slotReads]
  constructor
  · rintro (⟨-, hHigh⟩ | hLast)
    · exact hHigh
    · split at hLast
      · exact (List.mem_singleton.mp hLast).le
      · cases hLast
  · exact fun hHigh => .inl ⟨Nat.zero_le j, hHigh⟩

/- The loop stops in the table if there is a free slot. -/
theorem firstFree_lt_iff (table : Nat → Option Ptr) :
    firstFree table lsckNumSocket 0 < lsckNumSocket ↔
      ∃ i, i < lsckNumSocket ∧ table i = none := by
  rcases firstFree_spec table lsckNumSocket 0 with
    ⟨-, -, hNone, hFull⟩
  rw [Nat.zero_add] at hNone
  constructor
  · exact fun hLess => ⟨_, hLess, hNone hLess⟩
  · rintro ⟨i, hIn, hFree⟩
    by_contra hNot
    have hTaken := hFull i (Nat.zero_le i)
      (lt_of_lt_of_le hIn (Nat.not_lt.mp hNot))
    rw [hFree] at hTaken
    cases hTaken

/- The special case for the last slot changes nothing. -/
theorem freeSlot_eq (table : Nat → Option Ptr) :
    freeSlot table =
      if firstFree table lsckNumSocket 0 < lsckNumSocket then
        some (firstFree table lsckNumSocket 0)
      else
        none := by
  simp only [freeSlot]
  by_cases hLast :
      firstFree table lsckNumSocket 0 = lsckNumSocket - 1 ∧
        (table (firstFree table lsckNumSocket 0)).isNone
  · have hLess :
        firstFree table lsckNumSocket 0 < lsckNumSocket := by
      rw [hLast.1]
      decide
    rw [if_pos hLast, if_pos hLess]
  · rw [if_neg hLast]

------------------------------------------------------------
-- Results Of The Search
------------------------------------------------------------

/- No slot is read outside of the table. -/
def SearchInside (table : Nat → Option Ptr) : Prop :=
  ∀ i, i ∈ searchReads table → i < lsckNumSocket

/- The slot that is found is the first free one. -/
structure SearchRight
    (table : Nat → Option Ptr) : Prop where
  found : ∀ i, freeSlot table = some i ↔
    IsLeast { j | j < lsckNumSocket ∧ table j = none } i
  none : freeSlot table = none ↔
    ∀ j, j < lsckNumSocket → table j ≠ none

theorem searchInside_iff (table : Nat → Option Ptr) :
    SearchInside table ↔
      ∃ i, i < lsckNumSocket ∧ table i = none := by
  rw [← firstFree_lt_iff]
  constructor
  · intro hInside
    exact hInside _ ((mem_searchReads table _).mpr le_rfl)
  · intro hLess i hRead
    exact lt_of_le_of_lt ((mem_searchReads table i).mp hRead)
      hLess

theorem searchRight
    (table : Nat → Option Ptr) : SearchRight table := by
  rcases firstFree_spec table lsckNumSocket 0 with
    ⟨-, -, hNone, hFull⟩
  rw [Nat.zero_add] at hNone
  by_cases hLess :
      firstFree table lsckNumSocket 0 < lsckNumSocket
  · have hFound : freeSlot table =
        some (firstFree table lsckNumSocket 0) := by
      rw [freeSlot_eq, if_pos hLess]
    have hLeast : IsLeast
        { j | j < lsckNumSocket ∧ table j = Option.none }
        (firstFree table lsckNumSocket 0) := by
      refine ⟨⟨hLess, hNone hLess⟩, ?_⟩
      rintro j ⟨-, hFree⟩
      by_contra hBefore
      have hTaken := hFull j (Nat.zero_le j)
        (Nat.not_le.mp hBefore)
      rw [hFree] at hTaken
      cases hTaken
    constructor
    · intro i
      rw [hFound, Option.some.injEq]
      constructor
      · rintro rfl
        exact hLeast
      · exact fun hOther => hLeast.unique hOther
    · rw [hFound]
      constructor
      · intro hAbsent
        cases hAbsent
      · exact fun hTaken =>
          absurd (hNone hLess) (hTaken _ hLess)
  · have hAbsent : freeSlot table = Option.none := by
      rw [freeSlot_eq, if_neg hLess]
    have hTaken : ∀ j, j < lsckNumSocket →
        table j ≠ Option.none := fun j hIn hFree =>
      hLess ((firstFree_lt_iff table).mpr ⟨j, hIn, hFree⟩)
    constructor
    · intro i
      rw [hAbsent]
      constructor
      · intro hFound
        cases hFound
      · exact fun hLeast =>
          absurd hLeast.1.2 (hTaken i hLeast.1.1)
    · exact ⟨fun _ => hTaken, fun _ => hAbsent⟩

------------------------------------------------------------
-- Calls On A Full Table
------------------------------------------------------------

/-
  A call that gives up with an error: slots and memory are
  untouched, and no number has stayed allocated.
-/
structure GivenUp
    (e : Errno)
    (s s' : Process) : Prop where
  errno : s'.errno = e
  table : s'.table = s.table
  heap : s'.heap = s.heap
  released : ∀ fd, s'.fds fd = s.fds fd ∨
    (s.fds fd).dosOpen = false ∧
      s'.fds fd = { s.fds fd with function := none }

/-
  Without a free slot both calls fail and give back the
  number that they have allocated.
-/
structure FullGivesUp
    (table : Nat → Option Ptr) : Prop where
  socketx : freeSlot table = none →
    ∀ (env : SocketEnv) (domain type protocol : Int)
      (interface : Option Interface) (s : Process),
      s.table = table → s.inited = true →
      ∃ s', socketx env domain type protocol interface s =
          .ok (-1, s') ∧ GivenUp .EMFILE s s'
  accept : freeSlot table = none →
    ∀ (env : AcceptEnv) (fd : Fd) (s : Process) (p : Ptr)
      (d : LsckSocket) (i : Interface),
      s.table = table → s.LeadsTo fd p →
      s.heap p = some (.socket d) → d.interface = some i →
      acceptRefusal (d.checked env.writable) true true =
        none →
      ∃ s', accept env fd true true s = .ok (-1, s') ∧
        GivenUp .ENFILE (s.check p d env.writable) s'

/- An allocation, and the number given back at once. -/
theorem allocFd_abandoned
    (number : Option Fd)
    (e : Errno)
    (s : Process) :
    ∃ fd t, allocFd number .lsckSocketFsext s =
        .ok (fd, t) ∧ t.table = s.table ∧
      (fd < 0 ∧ t = s ∨ ¬ fd < 0 ∧ ∃ s',
        abandonFd fd e t = .ok (-1, s') ∧
          GivenUp e s s') := by
  have hNone : ∃ fd t,
      (.ok (-1, s) : Except Stop (Fd × Process)) =
        .ok (fd, t) ∧ t.table = s.table ∧
      (fd < 0 ∧ t = s ∨ ¬ fd < 0 ∧ ∃ s',
        abandonFd fd e t = .ok (-1, s') ∧
          GivenUp e s s') :=
    ⟨-1, s, rfl, rfl, .inl ⟨by decide, rfl⟩⟩
  unfold allocFd
  rw [run_bind_ok (run_get s)]
  cases number with
  | none => exact hNone
  | some fd =>
      by_cases hFree : 0 ≤ fd ∧ (s.fds fd).dosOpen = false
      · simp only [if_pos hFree]
        refine ⟨fd, _, rfl, rfl, .inr
          ⟨Int.not_lt.mpr hFree.1, _, rfl, rfl, rfl, rfl,
            fun other => ?_⟩⟩
        by_cases hSame : other = fd
        · subst hSame
          refine .inr ⟨hFree.2, ?_⟩
          simp [hFree.2]
        · exact .inl (by simp [hSame])
      · simp only [if_neg hFree]
        exact hNone

theorem fullGivesUp
    (table : Nat → Option Ptr) : FullGivesUp table := by
  constructor
  · rintro hFull env domain type protocol interface s rfl
      hInited
    rcases allocFd_abandoned env.number .EMFILE s with
      ⟨fd, t, hAlloc, hTable, hRest⟩
    have hOn : ¬ s.inited = false := by simp [hInited]
    unfold Libsocket.socketx
    rw [run_bind_ok (run_get s)]
    simp only [if_neg hOn]
    rw [run_bind_ok hAlloc]
    rcases hRest with ⟨hLess, rfl⟩ | ⟨hMore, s', hRun, hUp⟩
    · rw [if_pos hLess]
      exact ⟨_, rfl, rfl, rfl, rfl, fun _ => .inl rfl⟩
    · rw [if_neg hMore, hFull]
      exact ⟨s', hRun, hUp⟩
  · rintro hFull env fd s p d i rfl hLeads hSocket hInterface
      hPassed
    rcases allocFd_abandoned env.number .ENFILE
        (s.check p d env.writable) with
      ⟨nfd, t, hAlloc, hTable, hRest⟩
    have hFull' : freeSlot t.table = none := by
      rw [hTable]
      exact hFull
    rcases hRest with ⟨hLess, rfl⟩ | ⟨hMore, s', hRun, hUp⟩
    · refine ⟨{ s.check p d env.writable with
          errno := .ENFILE },
        (prologue_run hLeads hSocket hInterface _).trans ?_,
        rfl, rfl, rfl, fun _ => .inl rfl⟩
      simp only [hPassed, refuseOr]
      rw [run_bind_ok hAlloc, if_pos hLess]
      rfl
    · refine ⟨s', (prologue_run hLeads hSocket hInterface
        _).trans ?_, hUp⟩
      simp only [hPassed, refuseOr]
      rw [run_bind_ok hAlloc, if_neg hMore,
        run_bind_ok (run_get t)]
      simp only [hFull']
      exact hRun

------------------------------------------------------------
-- The Search
------------------------------------------------------------

/-
  The result is the right one on every table, and both calls
  fail on a full one as they should. The search stays within
  the table if and only if there is a free slot.
-/
theorem slotSearch_iff (table : Nat → Option Ptr) :
    ((SearchInside table ∧ SearchRight table ∧
        FullGivesUp table) ↔
      ∃ i, i < lsckNumSocket ∧ table i = none) ∧
    SearchRight table ∧ FullGivesUp table := by
  refine ⟨?_, searchRight table, fullGivesUp table⟩
  rw [← searchInside_iff]
  exact ⟨fun hAll => hAll.1, fun hInside =>
    ⟨hInside, searchRight table, fullGivesUp table⟩⟩

/- A full table is read behind its end. -/
theorem fullTable_overread :
    ¬ ∀ table : Nat → Option Ptr, SearchInside table ∧
      SearchRight table ∧ FullGivesUp table := by
  intro hAlways
  rcases (searchInside_iff fun i => some i).mp
    (hAlways _).1 with ⟨i, -, hFree⟩
  cases hFree

end Libsocket
