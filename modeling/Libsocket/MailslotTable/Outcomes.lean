import Libsocket.MailslotTable

/-
  What the functions on the mailslot tables can do.

  Each outcome is an operation on the tables; the lemmas say
  which of them a call that finishes has performed.

  Main declarations:
    * `MailTables.withTransfer`, `withBlock`, `withMailslot`,
      `record`, `forget`, `discard`
    * `MailTables.addFsext`, `dropFsext`
    * `Makes`, `makeRecorded_ok`
    * `mailslotInit_ok`, `mailslotCreate_ok`
    * `dropMailslot_run`, `mailslotDestroy_run`
    * `addDescriptor_ok`, `dropDescriptor_run`
-/

namespace Libsocket

open Command

------------------------------------------------------------
-- Operations On The Tables
------------------------------------------------------------

namespace MailTables

def entries (s : MailTables) : List MailslotEntry :=
  s.slots.reduceOption

def fsextEntries (s : MailTables) : List FsextEntry :=
  s.fsext.reduceOption

/- The transfer buffer has been allocated. -/
def withTransfer
    (s : MailTables)
    (block : DosBlock) : MailTables :=
  { s with
    dosMemory := insert block.sel s.dosMemory
    transfer := some block
    inited := true }

/- A block has been allocated. -/
def withBlock
    (s : MailTables)
    (block : DosBlock) : MailTables :=
  { s with dosMemory := insert block.sel s.dosMemory }

/- A mailslot has been made. -/
def withMailslot
    (s : MailTables)
    (handle : Nat) : MailTables :=
  { s with mailslots := insert handle s.mailslots }

/- A mailslot has been entered into slot `i`. -/
def record
    (s : MailTables)
    (i : Nat)
    (entry : MailslotEntry) : MailTables :=
  { s with slots := s.slots.set i (some entry) }

/- A mailslot has been deleted, and nothing else. -/
def forget
    (s : MailTables)
    (handle : Nat) : MailTables :=
  { s with mailslots := s.mailslots.erase handle }

/- The entry in slot `i` is gone, with all it records. -/
def discard
    (s : MailTables)
    (i : Nat)
    (entry : MailslotEntry) : MailTables :=
  { s with
    mailslots := s.mailslots.erase entry.handle
    dosMemory := s.dosMemory.erase entry.sel
    slots := s.slots.set i none }

/- A descriptor has been entered into slot `i`. -/
def addFsext
    (s : MailTables)
    (i : Nat)
    (me : FsextEntry) : MailTables :=
  { s with
    fsext := s.fsext.set i (some me)
    descriptors := Function.update s.descriptors me.fd
      (some (some me)) }

/- A descriptor does not belong to the extension any more. -/
def release
    (s : MailTables)
    (fd : Fd) : MailTables :=
  { s with
    descriptors := Function.update s.descriptors fd none }

/- Slot `i` is empty. -/
def clearFsext
    (s : MailTables)
    (i : Nat) : MailTables :=
  { s with fsext := s.fsext.set i none }

end MailTables

------------------------------------------------------------
-- Initialisation
------------------------------------------------------------

/- `__mailslot_init` succeeds, if DOS grants a new block. -/
def MailTables.Ready
    (s : MailTables)
    (env : InitEnv) : Prop :=
  s.inited = true ∨
    env.lanManager = true ∧ env.transfer.isSome = true

instance
    (s : MailTables)
    (env : InitEnv) :
    Decidable (s.Ready env) := by
  unfold MailTables.Ready
  infer_instance

theorem allocateDosMemory_ok
    {answer granted : Option DosBlock}
    {s s' : MailTables}
    (hRun : allocateDosMemory answer s = .ok (granted, s')) :
    granted = answer ∧
      (answer = none ∧ s' = s ∨
        ∃ block, answer = some block ∧ block.sel ≠ 0 ∧
          block.sel ∉ s.dosMemory ∧
          s' = s.withBlock block) := by
  cases answer with
  | none =>
      cases hRun
      exact ⟨rfl, .inl ⟨rfl, rfl⟩⟩
  | some block =>
      unfold allocateDosMemory at hRun
      dsimp only at hRun
      rw [run_bind_ok (run_get s)] at hRun
      split at hRun
      · cases hRun
      · rename_i hFree
        cases hRun
        exact ⟨rfl, .inr ⟨block, rfl,
          fun hZero => hFree (.inl hZero),
          fun hTaken => hFree (.inr hTaken), rfl⟩⟩

/-
  Nothing has changed, or the transfer buffer is there and
  the table has been cleared.
-/
theorem mailslotInit_ok
    {env : InitEnv}
    {ready : Bool}
    {s s₀ : MailTables}
    (hSlots : s.inited = false →
      s.slots = List.replicate mailslotMax none)
    (hRun : mailslotInit env s = .ok (ready, s₀)) :
    (ready = false ∧ ¬ s.Ready env ∧ s₀ = s) ∨
      (ready = true ∧ s.Ready env ∧ s.inited = true ∧
        s₀ = s) ∨
      (ready = true ∧ s.Ready env ∧ s.inited = false ∧
        ∃ block, block.sel ≠ 0 ∧
          s₀ = s.withTransfer block) := by
  unfold mailslotInit at hRun
  rw [run_bind_ok (run_get s)] at hRun
  split at hRun
  · rename_i hInited
    cases hRun
    exact .inr (.inl ⟨rfl, .inl hInited, hInited, rfl⟩)
  rename_i hInited
  have hIdle : s.inited = false := by simpa using hInited
  have hSame :
      { s with slots := List.replicate mailslotMax none } =
        s := by
    rw [← hSlots hIdle]
  split at hRun
  · rename_i hNone
    cases hRun
    left
    refine ⟨rfl, ?_, rfl⟩
    rintro (hYes | hYes)
    · exact hInited hYes
    · exact hNone hYes.1
  · rename_i hManager
    have hLan : env.lanManager = true := by
      simpa using hManager
    rw [run_bind_ok (run_modify _ s), hSame] at hRun
    rcases bind_eq_ok.mp hRun with
      ⟨granted, s₁, hAlloc, hRest⟩
    rcases allocateDosMemory_ok hAlloc with
      ⟨rfl, ⟨hNone, rfl⟩ | ⟨block, hSome, hSel, -, rfl⟩⟩
    · rw [hNone] at hRest
      cases hRest
      left
      refine ⟨rfl, ?_, rfl⟩
      rintro (hYes | hYes)
      · exact hInited hYes
      · rw [hNone] at hYes
        exact absurd hYes.2 (by simp)
    · rw [hSome] at hRest
      cases hRest
      right
      right
      exact ⟨rfl, .inr ⟨hLan, by simp [hSome]⟩, hIdle, block,
        hSel, rfl⟩

theorem mailslotInit_run
    {s : MailTables}
    (hInited : s.inited = true)
    (env : InitEnv) :
    mailslotInit env s = .ok (true, s) := by
  unfold mailslotInit
  rw [run_bind_ok (run_get s), if_pos hInited]
  rfl

------------------------------------------------------------
-- Creation
------------------------------------------------------------

/- How the making of a mailslot can end. -/
inductive Makes
    (env : CreateEnv)
    (s : MailTables) :
    MailAnswer Nat → MailTables → Prop
  | noMemory
      (hBuffer : env.buffer = none) :
      Makes env s (.error none) s
  | noMailslot {block : DosBlock} {e : Errno}
      (hBuffer : env.buffer = some block)
      (hSel : block.sel ∉ s.dosMemory)
      (hHandle : env.handle = .error e) :
      Makes env s (.error (some e)) (s.withBlock block)
  | full {block : DosBlock} {h : Nat}
      (hBuffer : env.buffer = some block)
      (hHandle : env.handle = .ok h)
      (hNew : h ∉ s.mailslots)
      (hFull : Slots.firstFree s.slots = none) :
      Makes env s (.ok h) ((s.withBlock block).withMailslot h)
  | noEntry {block : DosBlock} {h : Nat}
      (hBuffer : env.buffer = some block)
      (hHandle : env.handle = .ok h)
      (hNew : h ∉ s.mailslots)
      (hMemory : env.memory = false) :
      Makes env s (.error none)
        ((s.withBlock block).withMailslot h)
  | recorded {i : Nat} {entry : MailslotEntry}
      {block : DosBlock}
      (hBuffer : env.buffer = some block)
      (hSel : block.sel ≠ 0 ∧ block.sel ∉ s.dosMemory)
      (hHandle : env.handle = .ok entry.handle)
      (hNew : entry.handle ∉ s.mailslots)
      (hFree : Slots.firstFree s.slots = some i)
      (hMemory : env.memory = true)
      (hEntry : entry.sel = block.sel) :
      Makes env s (.ok entry.handle)
        (((s.withBlock block).withMailslot
          entry.handle).record i entry)

theorem makeMailslot_ok
    {answer : Except Errno Nat}
    {r : MailAnswer Nat}
    {s s' : MailTables}
    (hRun : makeMailslot answer s = .ok (r, s')) :
    (∃ e, answer = .error e ∧ r = .error (some e) ∧
        s' = s) ∨
      ∃ h, answer = .ok h ∧ r = .ok h ∧ h ∉ s.mailslots ∧
        s' = s.withMailslot h := by
  cases answer with
  | error e =>
      cases hRun
      exact .inl ⟨e, rfl, rfl, rfl⟩
  | ok h =>
      unfold makeMailslot at hRun
      dsimp only at hRun
      rw [run_bind_ok (run_get s)] at hRun
      split at hRun
      · cases hRun
      · rename_i hNew
        cases hRun
        exact .inr ⟨h, rfl, rfl, hNew, rfl⟩

theorem makeRecorded_ok
    {env : CreateEnv}
    {newname : Bytes}
    {len : Int}
    {r : MailAnswer Nat}
    {s s' : MailTables}
    (hRun : makeRecorded env newname len s = .ok (r, s')) :
    Makes env s r s' := by
  unfold makeRecorded at hRun
  rcases bind_eq_ok.mp hRun with
    ⟨granted, s₁, hAlloc, hRest⟩
  rcases allocateDosMemory_ok hAlloc with
    ⟨rfl, ⟨hNone, rfl⟩ | ⟨block, hSome, hZero, hSel, rfl⟩⟩
  · rw [hNone] at hRest
    cases hRest
    exact .noMemory hNone
  rw [hSome] at hRest
  rcases bind_eq_ok.mp hRest with ⟨made, s₂, hMake, hLast⟩
  rcases makeMailslot_ok hMake with
    ⟨e, hAnswer, rfl, rfl⟩ | ⟨h, hAnswer, rfl, hNew, rfl⟩
  · cases hLast
    exact .noMailslot hSome hSel hAnswer
  unfold recordMailslot at hLast
  dsimp only at hLast
  rw [run_bind_ok (run_get _)] at hLast
  cases hFree : Slots.firstFree
      ((s.withBlock block).withMailslot h).slots with
  | none =>
      rw [hFree] at hLast
      cases hLast
      exact .full hSome hAnswer hNew hFree
  | some i =>
      rw [hFree] at hLast
      dsimp only at hLast
      cases hMemory : env.memory with
      | true =>
          rw [hMemory, if_pos rfl] at hLast
          cases hLast
          exact @Makes.recorded env s i
            (newEntry env newname len block h) block hSome
            ⟨hZero, hSel⟩ hAnswer hNew hFree hMemory rfl
      | false =>
          rw [hMemory, if_neg (by decide)] at hLast
          cases hLast
          exact .noEntry hSome hAnswer hNew hMemory

/- A creation that finishes is refused, or it has made. -/
theorem mailslotCreate_ok
    {env : CreateEnv}
    {name : Option Bytes}
    {len : Int}
    {r : MailAnswer Nat}
    {s s' : MailTables}
    (hRun : mailslotCreate env name len s = .ok (r, s')) :
    ∃ ready s₀, mailslotInit env.init s = .ok (ready, s₀) ∧
      ((ready = false ∨ name = none ∨
          len < mailslotMinsize ∨ len > mailslotMaxsize) ∧
        r.isOk = false ∧ s' = s₀ ∨
      ready = true ∧ name.isSome = true ∧
        mailslotMinsize ≤ len ∧ len ≤ mailslotMaxsize ∧
        Makes env s₀ r s') := by
  unfold mailslotCreate at hRun
  rcases bind_eq_ok.mp hRun with ⟨ready, s₀, hInit, hRest⟩
  refine ⟨ready, s₀, hInit, ?_⟩
  cases ready with
  | false =>
      rw [if_pos rfl] at hRest
      cases hRest
      exact .inl ⟨.inl rfl, rfl, rfl⟩
  | true =>
      rw [if_neg (by decide)] at hRest
      cases name with
      | none =>
          cases hRest
          exact .inl ⟨.inr (.inl rfl), rfl, rfl⟩
      | some name =>
          dsimp only at hRest
          split at hRest
          · rename_i hLen
            cases hRest
            exact .inl ⟨.inr (.inr hLen), rfl, rfl⟩
          · rename_i hLen
            split at hRest
            · exact .inr ⟨rfl, rfl, by omega, by omega,
                makeRecorded_ok hRest⟩
            · cases hRest

------------------------------------------------------------
-- Deletion
------------------------------------------------------------

/-
  The look-up stops at an empty slot. It finds nothing, or
  it empties the slot that it finds.
-/
theorem dropMailslot_run
    {s : MailTables}
    (hSels : ∀ entry ∈ s.entries, entry.sel ≠ 0)
    (handle : Nat) :
    (¬ Slots.Unbroken MailslotEntry.handle handle s.slots ∧
        dropMailslot handle s = .error .nullSlot) ∨
      (Slots.Unbroken MailslotEntry.handle handle s.slots ∧
        (∀ entry ∈ s.entries, entry.handle ≠ handle) ∧
        dropMailslot handle s = .ok (.error none, s)) ∨
      (Slots.Unbroken MailslotEntry.handle handle s.slots ∧
        ∃ i entry, s.slots[i]? = some (some entry) ∧
          entry.handle = handle ∧
          dropMailslot handle s = .ok (.ok (), { s with
            dosMemory := s.dosMemory.erase entry.sel
            slots := s.slots.set i none })) := by
  unfold dropMailslot
  rw [run_bind_ok (run_get s)]
  rcases Slots.scan_cases MailslotEntry.handle handle
      s.slots with ⟨hScan, hHole⟩ | ⟨hScan, hBroken, hNone⟩ |
    ⟨i, entry, hScan, hBroken, hTaken, hKey⟩
  · rw [hScan]
    exact .inl ⟨hHole, rfl⟩
  · rw [hScan]
    exact .inr (.inl ⟨hBroken, hNone, rfl⟩)
  · have hSel : entry.sel ≠ 0 :=
      hSels entry (Slots.mem_entries_of_getElem? hTaken)
    rw [hScan]
    refine .inr (.inr ⟨hBroken, i, entry, hTaken, hKey, ?_⟩)
    dsimp only
    rw [hTaken]
    simp [hSel, run_bind]

theorem deleteMailslot_run
    (deleted : Bool)
    (handle : Nat)
    (s : MailTables) :
    deleteMailslot deleted handle s =
      if deleted = true ∧ handle ∈ s.mailslots then
        .ok (true, s.forget handle)
      else
        .ok (false, s) := by
  unfold deleteMailslot
  rw [run_bind_ok (run_get s)]
  by_cases hBoth : deleted = true ∧ handle ∈ s.mailslots
  · rw [if_pos hBoth, if_pos hBoth]
    rfl
  · rw [if_neg hBoth, if_neg hBoth]
    rfl

/- A deletion, once the library is initialised. -/
theorem mailslotDestroy_run
    {s : MailTables}
    (hInited : s.inited = true)
    (env : DestroyEnv)
    (handle : Nat) :
    mailslotDestroy env (some handle) s =
      if env.deleted = true ∧ handle ∈ s.mailslots then
        dropMailslot handle (s.forget handle)
      else
        .ok (.error (some env.errno), s) := by
  unfold mailslotDestroy
  rw [run_bind_ok (mailslotInit_run hInited env.init),
    if_neg (by decide)]
  dsimp only
  have hDelete := deleteMailslot_run env.deleted handle s
  by_cases hBoth : env.deleted = true ∧ handle ∈ s.mailslots
  · rw [if_pos hBoth] at hDelete ⊢
    rw [run_bind_ok hDelete, if_pos rfl]
  · rw [if_neg hBoth] at hDelete ⊢
    rw [run_bind_ok hDelete, if_neg (by decide)]
    rfl

------------------------------------------------------------
-- Descriptors
------------------------------------------------------------

/- A descriptor is added, or nothing has changed. -/
theorem addDescriptor_ok
    {env : HandlerEnv}
    {msd : Nat}
    {handle : Option Nat}
    {name : Option Bytes}
    {r : MailAnswer Fd}
    {s s' : MailTables}
    (hRun : addDescriptor env msd handle name s =
      .ok (r, s')) :
    ((env.number = none ∨ env.memory = false) ∧
        r.isOk = false ∧ s' = s) ∨
      ∃ me, env.number = some me.fd ∧ env.memory = true ∧
        s.descriptors me.fd = none ∧ me.handle = handle ∧
        r = .ok me.fd ∧ s' = s.addFsext msd me := by
  unfold addDescriptor at hRun
  cases hNumber : env.number with
  | none =>
      rw [hNumber] at hRun
      cases hRun
      exact .inl ⟨.inl rfl, rfl, rfl⟩
  | some fd =>
      rw [hNumber] at hRun
      dsimp only at hRun
      rw [run_bind_ok (run_get s)] at hRun
      split at hRun
      · cases hRun
      rename_i hFree
      have hNew : s.descriptors fd = none := by
        simpa using hFree
      cases hMemory : env.memory with
      | false =>
          rw [hMemory, if_neg (by decide)] at hRun
          cases hRun
          exact .inl ⟨.inr rfl, rfl, rfl⟩
      | true =>
          rw [hMemory, if_pos rfl] at hRun
          cases hRun
          exact .inr ⟨⟨fd, handle, name, true, false⟩, rfl,
            rfl, hNew, rfl, rfl, rfl⟩

/- The look-up of a descriptor stops at an empty slot. -/
theorem dropDescriptor_run
    (s : MailTables)
    (fd : Fd) :
    (¬ Slots.Unbroken FsextEntry.fd fd s.fsext ∧
        dropDescriptor fd s = .error .nullSlot) ∨
      (Slots.Unbroken FsextEntry.fd fd s.fsext ∧
        (∀ me ∈ s.fsextEntries, me.fd ≠ fd) ∧
        dropDescriptor fd s = .ok ((), s)) ∨
      (Slots.Unbroken FsextEntry.fd fd s.fsext ∧
        ∃ i me, s.fsext[i]? = some (some me) ∧ me.fd = fd ∧
          dropDescriptor fd s =
            .ok ((), s.clearFsext i)) := by
  unfold dropDescriptor
  rw [run_bind_ok (run_get s)]
  rcases Slots.scan_cases FsextEntry.fd fd s.fsext with
    ⟨hScan, hHole⟩ | ⟨hScan, hBroken, hNone⟩ |
    ⟨i, me, hScan, hBroken, hTaken, hKey⟩
  · rw [hScan]
    exact .inl ⟨hHole, rfl⟩
  · rw [hScan]
    exact .inr (.inl ⟨hBroken, hNone, rfl⟩)
  · rw [hScan]
    exact .inr (.inr ⟨hBroken, i, me, hTaken, hKey, rfl⟩)

end Libsocket
