import Libsocket.MailslotTable.Outcomes
import Mathlib.Data.List.Nodup

/-
  What holds of the mailslot tables in every run.

  Whatever fails on the way, recorded mailslots and their
  buffers are allocated and distinct, and the descriptors of
  the extension correspond to the entries of its table.

  Main declarations:
    * `SlotsSound`, `FsextSound`
    * `SlotsSound.record`, `SlotsSound.discard`
    * `FsextSound.addFsext`, `FsextSound.clearFsext`
-/

namespace Libsocket

open Command

------------------------------------------------------------
-- The Invariant
------------------------------------------------------------

/- The table of mailslots, and what it records. -/
structure SlotsSound (s : MailTables) : Prop where
  idle : s.inited = false →
    s.slots = List.replicate mailslotMax none ∧
      s.transfer = none ∧ s.dosMemory = ∅ ∧ s.mailslots = ∅
  handles : (s.entries.map MailslotEntry.handle).Nodup
  sels : (s.entries.map MailslotEntry.sel).Nodup
  allocated : ∀ entry ∈ s.entries,
    entry.handle ∈ s.mailslots ∧
      entry.sel ∈ s.dosMemory ∧ entry.sel ≠ 0
  transfer : ∀ block, s.transfer = some block →
    block.sel ∈ s.dosMemory ∧
      ∀ entry ∈ s.entries, entry.sel ≠ block.sel

/- The table of descriptors, and the descriptors. -/
structure FsextSound (s : MailTables) : Prop where
  idle : s.fsextInited = false →
    s.fsext = List.replicate mailslotMax none
  inited : s.fsextInited = true → s.inited = true
  fds : (s.fsextEntries.map FsextEntry.fd).Nodup
  data : ∀ fd d, s.descriptors fd = some d →
    ∃ me, d = some me ∧ me.fd = fd ∧ me ∈ s.fsextEntries
  owned : ∀ me ∈ s.fsextEntries,
    s.descriptors me.fd = some (some me)

/-
  The part about the descriptors is the same, and the
  library stays initialised.
-/
structure SameFsext (s s' : MailTables) : Prop where
  fsextInited : s'.fsextInited = s.fsextInited
  fsext : s'.fsext = s.fsext
  descriptors : s'.descriptors = s.descriptors
  inited : s.inited = true → s'.inited = true

/- The part about the mailslots is the same. -/
def SameSlots (s s' : MailTables) : Prop :=
  s'.inited = s.inited ∧ s'.slots = s.slots ∧
    s'.transfer = s.transfer ∧
    s'.dosMemory = s.dosMemory ∧ s'.mailslots = s.mailslots

theorem SlotsSound.of_same
    {s s' : MailTables}
    (hSound : SlotsSound s)
    (hSame : SameSlots s s') :
    SlotsSound s' := by
  rcases hSame with
    ⟨hInited, hSlots, hTransfer, hMemory, hMailslots⟩
  have hEntries : s'.entries = s.entries := by
    simp [MailTables.entries, hSlots]
  constructor
  · rw [hInited, hSlots, hTransfer, hMemory, hMailslots]
    exact hSound.idle
  · rw [hEntries]
    exact hSound.handles
  · rw [hEntries]
    exact hSound.sels
  · rw [hEntries, hMailslots, hMemory]
    exact hSound.allocated
  · rw [hEntries, hTransfer, hMemory]
    exact hSound.transfer

theorem FsextSound.of_same
    {s s' : MailTables}
    (hSound : FsextSound s)
    (hSame : SameFsext s s') :
    FsextSound s' := by
  rcases hSame with ⟨hInstalled, hFsext, hData, hInited⟩
  have hEntries : s'.fsextEntries = s.fsextEntries := by
    simp [MailTables.fsextEntries, hFsext]
  constructor
  · rw [hInstalled, hFsext]
    exact hSound.idle
  · rw [hInstalled]
    exact fun hOn => hInited (hSound.inited hOn)
  · rw [hEntries]
    exact hSound.fds
  · rw [hEntries, hData]
    exact hSound.data
  · rw [hEntries, hData]
    exact hSound.owned

------------------------------------------------------------
-- Operations On Mailslots
------------------------------------------------------------

section Mailslots

variable {s : MailTables}

/- A mailslot that exists has been made after the start. -/
theorem SlotsSound.inited_of_mem
    (hSound : SlotsSound s)
    {handle : Nat}
    (hMem : handle ∈ s.mailslots) :
    s.inited = true := by
  cases hInited : s.inited with
  | true => rfl
  | false =>
      rw [(hSound.idle hInited).2.2.2] at hMem
      exact absurd hMem (Finset.notMem_empty _)

theorem SlotsSound.withTransfer
    (hSound : SlotsSound s)
    (hIdle : s.inited = false)
    (block : DosBlock) :
    SlotsSound (s.withTransfer block) := by
  have hNone : s.entries = [] := by
    rw [MailTables.entries, (hSound.idle hIdle).1]
    exact Slots.entries_replicate mailslotMax
  have hEntries : (s.withTransfer block).entries = [] := hNone
  constructor
  · intro hOff
    cases hOff
  · simp [hEntries]
  · simp [hEntries]
  · simp [hEntries]
  · intro other hSome
    cases hSome
    constructor
    · exact Finset.mem_insert_self _ _
    · simp [hEntries]

theorem SlotsSound.withBlock
    (hSound : SlotsSound s)
    (hInited : s.inited = true)
    (block : DosBlock) :
    SlotsSound (s.withBlock block) := by
  constructor
  · intro hOff
    rw [show s.inited = false from hOff] at hInited
    cases hInited
  · exact hSound.handles
  · exact hSound.sels
  · intro entry hEntry
    rcases hSound.allocated entry hEntry with
      ⟨hHandle, hSel, hZero⟩
    exact ⟨hHandle, Finset.mem_insert_of_mem hSel, hZero⟩
  · intro other hSome
    rcases hSound.transfer other hSome with ⟨hSel, hNe⟩
    exact ⟨Finset.mem_insert_of_mem hSel, hNe⟩

theorem SlotsSound.withMailslot
    (hSound : SlotsSound s)
    (hInited : s.inited = true)
    (handle : Nat) :
    SlotsSound (s.withMailslot handle) := by
  constructor
  · intro hOff
    rw [show s.inited = false from hOff] at hInited
    cases hInited
  · exact hSound.handles
  · exact hSound.sels
  · intro entry hEntry
    rcases hSound.allocated entry hEntry with
      ⟨hHandle, hSel, hZero⟩
    exact ⟨Finset.mem_insert_of_mem hHandle, hSel, hZero⟩
  · exact hSound.transfer

/- The entries after one has been taken out. -/
theorem entries_discard
    {i : Nat}
    {entry : MailslotEntry}
    (hTaken : s.slots[i]? = some (some entry)) :
    s.entries.Perm
      (entry :: (s.discard i entry).entries) :=
  Slots.perm_set_none hTaken

theorem SlotsSound.record
    (hSound : SlotsSound s)
    (hInited : s.inited = true)
    {i : Nat}
    {entry : MailslotEntry}
    {block : DosBlock}
    (hFree : s.slots[i]? = some none)
    (hHandle : entry.handle ∉ s.mailslots)
    (hSel : block.sel ∉ s.dosMemory)
    (hZero : block.sel ≠ 0)
    (hEntry : entry.sel = block.sel) :
    SlotsSound (((s.withBlock block).withMailslot
      entry.handle).record i entry) := by
  have hPerm : (((s.withBlock block).withMailslot
      entry.handle).record i entry).entries.Perm
        (entry :: s.entries) :=
    Slots.perm_set_some hFree entry
  constructor
  · intro hOff
    rw [show s.inited = false from hOff] at hInited
    cases hInited
  · rw [(hPerm.map _).nodup_iff, List.map_cons,
      List.nodup_cons]
    constructor
    · intro hMem
      rcases List.mem_map.mp hMem with ⟨other, hOther, hEq⟩
      exact hHandle
        (hEq ▸ (hSound.allocated other hOther).1)
    · exact hSound.handles
  · rw [(hPerm.map _).nodup_iff, List.map_cons,
      List.nodup_cons]
    constructor
    · intro hMem
      rcases List.mem_map.mp hMem with ⟨other, hOther, hEq⟩
      rw [hEntry] at hEq
      exact hSel
        (hEq ▸ (hSound.allocated other hOther).2.1)
    · exact hSound.sels
  · intro other hOther
    rcases List.mem_cons.mp (hPerm.mem_iff.mp hOther) with
      rfl | hOld
    · refine ⟨Finset.mem_insert_self _ _, ?_, ?_⟩
      · rw [hEntry]
        exact Finset.mem_insert_self _ _
      · rw [hEntry]
        exact hZero
    · rcases hSound.allocated other hOld with
        ⟨hHandle', hSel', hZero'⟩
      exact ⟨Finset.mem_insert_of_mem hHandle',
        Finset.mem_insert_of_mem hSel', hZero'⟩
  · intro other hSome
    rcases hSound.transfer other hSome with ⟨hIn, hNe⟩
    constructor
    · exact Finset.mem_insert_of_mem hIn
    · intro one hOne
      rcases List.mem_cons.mp (hPerm.mem_iff.mp hOne) with
        rfl | hOld
      · intro hSame
        rw [hEntry] at hSame
        exact hSel (hSame ▸ hIn)
      · exact hNe one hOld

theorem SlotsSound.forget
    (hSound : SlotsSound s)
    (hInited : s.inited = true)
    {handle : Nat}
    (hAbsent : ∀ entry ∈ s.entries, entry.handle ≠ handle) :
    SlotsSound (s.forget handle) := by
  constructor
  · intro hOff
    rw [show s.inited = false from hOff] at hInited
    cases hInited
  · exact hSound.handles
  · exact hSound.sels
  · intro entry hEntry
    rcases hSound.allocated entry hEntry with
      ⟨hHandle, hSel, hZero⟩
    exact ⟨Finset.mem_erase.mpr
      ⟨hAbsent entry hEntry, hHandle⟩, hSel, hZero⟩
  · exact hSound.transfer

/- Entries that stay have other keys than the one gone. -/
theorem SlotsSound.ne_of_discard
    (hSound : SlotsSound s)
    {i : Nat}
    {entry other : MailslotEntry}
    (hTaken : s.slots[i]? = some (some entry))
    (hOther : other ∈ (s.discard i entry).entries) :
    other.handle ≠ entry.handle ∧ other.sel ≠ entry.sel := by
  have hPerm := entries_discard hTaken
  have hHandles := hSound.handles
  have hSels := hSound.sels
  rw [(hPerm.map _).nodup_iff, List.map_cons,
    List.nodup_cons] at hHandles hSels
  constructor
  · intro hSame
    exact hHandles.1
      (hSame ▸ List.mem_map_of_mem hOther)
  · intro hSame
    exact hSels.1 (hSame ▸ List.mem_map_of_mem hOther)

theorem SlotsSound.discard
    (hSound : SlotsSound s)
    (hInited : s.inited = true)
    {i : Nat}
    {entry : MailslotEntry}
    (hTaken : s.slots[i]? = some (some entry)) :
    SlotsSound (s.discard i entry) := by
  have hPerm := entries_discard hTaken
  have hOld : ∀ other ∈ (s.discard i entry).entries,
      other ∈ s.entries := fun other hOther =>
    hPerm.mem_iff.mpr (List.mem_cons_of_mem _ hOther)
  have hEntry : entry ∈ s.entries :=
    Slots.mem_entries_of_getElem? hTaken
  constructor
  · intro hOff
    rw [show s.inited = false from hOff] at hInited
    cases hInited
  · have hHandles := hSound.handles
    rw [(hPerm.map _).nodup_iff, List.map_cons,
      List.nodup_cons] at hHandles
    exact hHandles.2
  · have hSels := hSound.sels
    rw [(hPerm.map _).nodup_iff, List.map_cons,
      List.nodup_cons] at hSels
    exact hSels.2
  · intro other hOther
    have hNe := hSound.ne_of_discard hTaken hOther
    rcases hSound.allocated other (hOld other hOther) with
      ⟨hHandle, hSel, hZero⟩
    exact ⟨Finset.mem_erase.mpr ⟨hNe.1, hHandle⟩,
      Finset.mem_erase.mpr ⟨hNe.2, hSel⟩, hZero⟩
  · intro other hSome
    rcases hSound.transfer other hSome with ⟨hIn, hNe⟩
    constructor
    · exact Finset.mem_erase.mpr
        ⟨fun hSame => hNe entry hEntry hSame.symm, hIn⟩
    · exact fun one hOne => hNe one (hOld one hOne)

end Mailslots

------------------------------------------------------------
-- Operations On Descriptors
------------------------------------------------------------

section Descriptors

variable {s : MailTables}

theorem FsextSound.addFsext
    (hSound : FsextSound s)
    (hInited : s.fsextInited = true)
    {i : Nat}
    {me : FsextEntry}
    (hFree : s.fsext[i]? = some none)
    (hNew : s.descriptors me.fd = none) :
    FsextSound (s.addFsext i me) := by
  have hPerm : (s.addFsext i me).fsextEntries.Perm
      (me :: s.fsextEntries) :=
    Slots.perm_set_some hFree me
  constructor
  · intro hOff
    rw [show s.fsextInited = false from hOff] at hInited
    cases hInited
  · intro _
    exact hSound.inited hInited
  · rw [(hPerm.map _).nodup_iff, List.map_cons,
      List.nodup_cons]
    constructor
    · intro hMem
      rcases List.mem_map.mp hMem with ⟨other, hOther, hEq⟩
      have hOwned := hSound.owned other hOther
      rw [hEq, hNew] at hOwned
      cases hOwned
    · exact hSound.fds
  · intro fd d hData
    by_cases hSame : fd = me.fd
    · subst hSame
      refine ⟨me, ?_, rfl, ?_⟩
      · simpa [MailTables.addFsext] using hData.symm
      · exact hPerm.mem_iff.mpr List.mem_cons_self
    · have hOld : s.descriptors fd = some d := by
        simpa [MailTables.addFsext, hSame] using hData
      rcases hSound.data fd d hOld with
        ⟨other, hOther, hFd, hMem⟩
      exact ⟨other, hOther, hFd,
        hPerm.mem_iff.mpr (List.mem_cons_of_mem _ hMem)⟩
  · intro other hOther
    rcases List.mem_cons.mp (hPerm.mem_iff.mp hOther) with
      rfl | hOld
    · simp [MailTables.addFsext]
    · have hOwned := hSound.owned other hOld
      have hNe : other.fd ≠ me.fd := by
        intro hSame
        rw [hSame, hNew] at hOwned
        cases hOwned
      simp [MailTables.addFsext, hNe, hOwned]

/- A descriptor goes together with its entry. -/
theorem FsextSound.clearFsext
    (hSound : FsextSound s)
    (hInited : s.fsextInited = true)
    {i : Nat}
    {me : FsextEntry}
    (hTaken : s.fsext[i]? = some (some me)) :
    FsextSound ((s.release me.fd).clearFsext i) := by
  have hPerm : s.fsextEntries.Perm
      (me :: ((s.release me.fd).clearFsext i).fsextEntries) :=
    Slots.perm_set_none hTaken
  have hFds := hSound.fds
  rw [(hPerm.map _).nodup_iff, List.map_cons,
    List.nodup_cons] at hFds
  constructor
  · intro hOff
    rw [show s.fsextInited = false from hOff] at hInited
    cases hInited
  · intro _
    exact hSound.inited hInited
  · exact hFds.2
  · intro fd d hData
    have hNe : fd ≠ me.fd := by
      rintro rfl
      simp [MailTables.release, MailTables.clearFsext] at hData
    have hOld : s.descriptors fd = some d := by
      simpa [MailTables.release, MailTables.clearFsext, hNe]
        using hData
    rcases hSound.data fd d hOld with
      ⟨other, hOther, hFd, hMem⟩
    rcases List.mem_cons.mp (hPerm.mem_iff.mp hMem) with
      rfl | hStays
    · exact absurd hFd.symm hNe
    · exact ⟨other, hOther, hFd, hStays⟩
  · intro other hOther
    have hNe : other.fd ≠ me.fd := by
      intro hSame
      exact hFds.1 (hSame ▸ List.mem_map_of_mem hOther)
    have hOwned := hSound.owned other
      (hPerm.mem_iff.mpr (List.mem_cons_of_mem _ hOther))
    simp [MailTables.release, MailTables.clearFsext, hNe,
      hOwned]

end Descriptors

end Libsocket
