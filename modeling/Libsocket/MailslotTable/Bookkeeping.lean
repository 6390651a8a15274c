import Libsocket.MailslotTable.Close

/-
  What the table of mailslots records, against what is
  allocated.

  A creation allocates its buffer before DOS makes the
  mailslot, and DOS makes the mailslot before it is entered
  into the table. `CallSafe` says that nothing fails between
  these steps, nor after them on the way to a descriptor.

  Main declarations:
    * `MailTables.Balanced`, `MailTables.buffers`
    * `MailCall.Accounted`
    * `MailTables.CallSafe`
    * `accounted_iff`
    * `balanced_of_reachable`
-/

namespace Libsocket

open Command

------------------------------------------------------------
-- Recorded And Allocated
------------------------------------------------------------

/-
  The allocated mailslots are the recorded ones, and the
  allocated DOS memory is the recorded blocks and the
  transfer buffer.
-/
structure MailTables.Balanced (s : MailTables) : Prop where
  mailslots : ∀ h, h ∈ s.mailslots ↔
    ∃ entry ∈ s.entries, entry.handle = h
  dosMemory : ∀ sel, sel ∈ s.dosMemory ↔
    (∃ block, s.transfer = some block ∧ block.sel = sel) ∨
      ∃ entry ∈ s.entries, entry.sel = sel

/- The DOS memory apart from the transfer buffer. -/
def MailTables.buffers (s : MailTables) : Finset Nat :=
  match s.transfer with
  | none => s.dosMemory
  | some block => s.dosMemory.erase block.sel

/- The call is to give a new handle or descriptor. -/
def MailCall.opens : MailCall → Bool
| .create _ _ _ => true
| .openFile _ _ _ => true
| _ => false

/- The handle of a mailslot that the call is to delete. -/
def MailCall.letsGo
    (s : MailTables) : MailCall → Option Nat
| .destroy _ handle => handle
| .close _ fd =>
    match s.descriptors fd with
    | some (some me) => me.handle
    | _ => none
| _ => none

/-
  What the call owes: the books balance after it, a failing
  creation or open leaves nothing behind, and a mailslot
  goes together with its own buffer.
-/
structure MailCall.Accounted
    (call : MailCall)
    (s : MailTables)
    (ok : Bool)
    (s' : MailTables) : Prop where
  balanced : s'.Balanced
  failed : call.opens = true → ok = false →
    s'.mailslots = s.mailslots ∧ s'.buffers = s.buffers
  freed : ∀ h, call.letsGo s = some h → h ∈ s.mailslots →
    h ∉ s'.mailslots →
      ∃ entry ∈ s.entries, entry.handle = h ∧
        s'.mailslots = s.mailslots.erase h ∧
        s'.dosMemory = s.dosMemory.erase entry.sel

/- Once its buffer is allocated, the creation goes through. -/
def CreateEnv.Goes
    (env : CreateEnv)
    (s : MailTables) : Prop :=
  (∃ h, env.handle = .ok h) ∧
    Slots.firstFree s.slots ≠ none ∧ env.memory = true

/-
  The call fails before it has allocated anything or not at
  all, and its look-ups meet no empty slot. The condition is
  about the state before the call and the answers of DOS and
  the library.
-/
def MailTables.CallSafe (s : MailTables) : MailCall → Prop
| .install _ => True
| .create env name len =>
    s.Ready env.init → name.isSome = true →
      mailslotMinsize ≤ len → len ≤ mailslotMaxsize →
        env.buffer ≠ none → env.Goes s
| .destroy env handle =>
    ∀ h, handle = some h → s.Deletes env h →
      Slots.Unbroken MailslotEntry.handle h s.slots
| .openFile env file mode =>
    ∀ p rest, env.fileCopied = true →
      afterPrefix mailslotDev (slashify file) = some p →
      mode = .rdonly →
      afterPrefix mailslotLocal p = some rest →
      env.create.buffer ≠ none →
        env.create.Goes s ∧
          Slots.firstFree s.fsext ≠ none ∧
          env.number ≠ none ∧ env.memory = true
| .close env fd =>
    ∀ me, s.descriptors fd = some (some me) →
      s.ScanClear env me

------------------------------------------------------------
-- Operations And The Books
------------------------------------------------------------

section Books

variable {s s' : MailTables}

theorem MailTables.Balanced.of_same
    (hBalanced : s.Balanced)
    (hSame : SameSlots s s') :
    s'.Balanced := by
  rcases hSame with ⟨-, hSlots, hTransfer, hMemory, hMail⟩
  have hEntries : s'.entries = s.entries := by
    simp [MailTables.entries, hSlots]
  constructor
  · rw [hMail, hEntries]
    exact hBalanced.mailslots
  · rw [hMemory, hTransfer, hEntries]
    exact hBalanced.dosMemory

theorem Initialised.balanced
    (hInit : Initialised s s')
    (hSound : SlotsSound s)
    (hBalanced : s.Balanced) :
    s'.Balanced := by
  rcases hInit with rfl | ⟨hIdle, block, -, rfl⟩
  · exact hBalanced
  have hEmpty := hSound.idle hIdle
  constructor
  · exact hBalanced.mailslots
  · intro sel
    have hNone : (s.withTransfer block).entries = [] := by
      rw [MailTables.entries]
      change s.slots.reduceOption = []
      rw [hEmpty.1, Slots.entries_replicate]
    rw [hNone]
    change sel ∈ insert block.sel s.dosMemory ↔
      (∃ other, some block = some other ∧
        other.sel = sel) ∨ _
    simp [hEmpty.2.2.1, @eq_comm _ sel]

theorem Initialised.buffers
    (hInit : Initialised s s')
    (hSound : SlotsSound s) :
    s'.buffers = s.buffers := by
  rcases hInit with rfl | ⟨hIdle, block, -, rfl⟩
  · rfl
  have hEmpty := hSound.idle hIdle
  simp [MailTables.buffers, MailTables.withTransfer,
    hEmpty.2.1, hEmpty.2.2.1]

/- A block that nothing records unbalances the books. -/
theorem not_balanced_withBlock
    (hSound : SlotsSound s)
    {block : DosBlock}
    (hSel : block.sel ∉ s.dosMemory) :
    ¬ (s.withBlock block).Balanced := by
  intro hBalanced
  rcases (hBalanced.dosMemory block.sel).mp
      (Finset.mem_insert_self _ _) with
    ⟨other, hSome, hSame⟩ | ⟨entry, hEntry, hSame⟩
  · exact hSel (hSame ▸ (hSound.transfer other hSome).1)
  · exact hSel (hSame ▸ (hSound.allocated entry hEntry).2.1)

/- So does a mailslot that nothing records. -/
theorem not_balanced_withMailslot
    (hSound : SlotsSound s)
    {block : DosBlock}
    {h : Nat}
    (hNew : h ∉ s.mailslots) :
    ¬ ((s.withBlock block).withMailslot h).Balanced := by
  intro hBalanced
  rcases (hBalanced.mailslots h).mp
      (Finset.mem_insert_self _ _) with
    ⟨entry, hEntry, hSame⟩
  exact hNew (hSame ▸ (hSound.allocated entry hEntry).1)

theorem MailTables.Balanced.record
    (hBalanced : s.Balanced)
    {i : Nat}
    {entry : MailslotEntry}
    {block : DosBlock}
    (hFree : s.slots[i]? = some none)
    (hEntry : entry.sel = block.sel) :
    (((s.withBlock block).withMailslot
      entry.handle).record i entry).Balanced := by
  have hPerm : (((s.withBlock block).withMailslot
      entry.handle).record i entry).entries.Perm
        (entry :: s.entries) :=
    Slots.perm_set_some hFree entry
  constructor
  · intro h
    simp only [hPerm.mem_iff, List.mem_cons,
      exists_eq_or_imp, ← hBalanced.mailslots]
    change h ∈ insert entry.handle s.mailslots ↔ _
    rw [Finset.mem_insert, eq_comm]
  · intro sel
    simp only [hPerm.mem_iff, List.mem_cons,
      exists_eq_or_imp]
    change sel ∈ insert block.sel s.dosMemory ↔
      (∃ other, s.transfer = some other ∧ other.sel = sel) ∨
        _
    rw [Finset.mem_insert, hBalanced.dosMemory, hEntry,
      @eq_comm _ sel, or_left_comm]

theorem MailTables.Balanced.discard
    (hBalanced : s.Balanced)
    (hSound : SlotsSound s)
    {i : Nat}
    {entry : MailslotEntry}
    (hTaken : s.slots[i]? = some (some entry)) :
    (s.discard i entry).Balanced := by
  have hPerm := entries_discard hTaken
  have hEntry : entry ∈ s.entries :=
    Slots.mem_entries_of_getElem? hTaken
  constructor
  · intro h
    change h ∈ s.mailslots.erase entry.handle ↔ _
    rw [Finset.mem_erase, hBalanced.mailslots]
    constructor
    · rintro ⟨hNe, other, hOther, rfl⟩
      rcases List.mem_cons.mp (hPerm.mem_iff.mp hOther) with
        rfl | hStays
      · exact absurd rfl hNe
      · exact ⟨other, hStays, rfl⟩
    · rintro ⟨other, hOther, rfl⟩
      exact ⟨(hSound.ne_of_discard hTaken hOther).1, other,
        hPerm.mem_iff.mpr (List.mem_cons_of_mem _ hOther),
        rfl⟩
  · intro sel
    change sel ∈ s.dosMemory.erase entry.sel ↔
      (∃ block, s.transfer = some block ∧ block.sel = sel) ∨
        _
    rw [Finset.mem_erase, hBalanced.dosMemory]
    constructor
    · rintro ⟨hNe, hTransfer | ⟨other, hOther, rfl⟩⟩
      · exact .inl hTransfer
      · rcases List.mem_cons.mp
            (hPerm.mem_iff.mp hOther) with rfl | hStays
        · exact absurd rfl hNe
        · exact .inr ⟨other, hStays, rfl⟩
    · rintro (⟨block, hSome, rfl⟩ | ⟨other, hOther, rfl⟩)
      · exact ⟨fun hSame => (hSound.transfer block
          hSome).2 entry hEntry hSame.symm,
            .inl ⟨block, hSome, rfl⟩⟩
      · exact ⟨(hSound.ne_of_discard hTaken hOther).2,
          .inr ⟨other, hPerm.mem_iff.mpr
            (List.mem_cons_of_mem _ hOther), rfl⟩⟩

end Books

------------------------------------------------------------
-- Creations
------------------------------------------------------------

/- The books balance, and a failure leaves nothing. -/
def Settled
    {α : Type}
    (s : MailTables)
    (r : MailAnswer α)
    (s' : MailTables) : Prop :=
  s'.Balanced ∧
    (r.isOk = false →
      s'.mailslots = s.mailslots ∧ s'.buffers = s.buffers)

theorem Makes.settled_iff
    {env : CreateEnv}
    {r : MailAnswer Nat}
    {s s' : MailTables}
    (hMakes : Makes env s r s')
    (hSound : SlotsSound s)
    (hBalanced : s.Balanced) :
    Settled s r s' ↔ (env.buffer ≠ none → env.Goes s) := by
  cases hMakes with
  | noMemory hBuffer =>
      apply iff_of_true
      · exact ⟨hBalanced, fun _ => ⟨rfl, rfl⟩⟩
      · exact fun hSome => absurd hBuffer hSome
  | noMailslot hBuffer hSel hHandle =>
      apply iff_of_false
      · exact fun hSettled =>
          not_balanced_withBlock hSound hSel hSettled.1
      · intro hGoes
        rcases (hGoes (by simp [hBuffer])).1 with ⟨h, hOk⟩
        rw [hHandle] at hOk
        cases hOk
  | full hBuffer hHandle hNew hFull =>
      apply iff_of_false
      · exact fun hSettled =>
          not_balanced_withMailslot hSound hNew hSettled.1
      · exact fun hGoes =>
          (hGoes (by simp [hBuffer])).2.1 hFull
  | noEntry hBuffer hHandle hNew hMemory =>
      apply iff_of_false
      · exact fun hSettled =>
          not_balanced_withMailslot hSound hNew hSettled.1
      · intro hGoes
        have hYes := (hGoes (by simp [hBuffer])).2.2
        rw [hMemory] at hYes
        cases hYes
  | recorded hBuffer hSel hHandle hNew hFree hMemory
      hEntry =>
      apply iff_of_true
      · refine ⟨hBalanced.record
          (Slots.firstFree_some hFree) hEntry, ?_⟩
        intro hFail
        cases hFail
      · exact fun _ => ⟨⟨_, hHandle⟩, by simp [hFree],
          hMemory⟩

/- A creation that finishes, from balanced books. -/
theorem mailslotCreate_settled_iff
    {env : CreateEnv}
    {name : Option Bytes}
    {len : Int}
    {r : MailAnswer Nat}
    {s s' : MailTables}
    (hSound : SlotsSound s)
    (hBalanced : s.Balanced)
    (hRun : mailslotCreate env name len s = .ok (r, s')) :
    Settled s r s' ↔ s.CallSafe (.create env name len) := by
  rcases mailslotCreate_ok hRun with
    ⟨ready, s₀, hInit, hEnd⟩
  rcases initialised_ok hSound hInit with
    ⟨hFirst, hReady, -⟩
  have hBooks := hFirst.balanced hSound hBalanced
  have hBuffers := hFirst.buffers hSound
  rcases hEnd with
    ⟨hWhy, hFail, rfl⟩ | ⟨rfl, hName, hMin, hMax, hMakes⟩
  · apply iff_of_true
    · exact ⟨hBooks, fun _ => ⟨hFirst.mailslots, hBuffers⟩⟩
    · intro hYes hSome hMin hMax
      rcases hWhy with hNot | rfl | hLess | hMore
      · rw [hReady.mpr hYes] at hNot
        cases hNot
      · cases hSome
      · omega
      · omega
  · have hStep := hMakes.settled_iff
      (hFirst.sound hSound) hBooks
    have hSame : Settled s r s' ↔ Settled s₀ r s' := by
      unfold Settled
      rw [hFirst.mailslots, hBuffers]
    have hGoes : env.Goes s₀ ↔ env.Goes s := by
      unfold CreateEnv.Goes
      rw [hFirst.slots]
    rw [hSame, hStep, hGoes]
    constructor
    · intro hSafe _ _ _ _
      exact hSafe
    · intro hSafe
      exact hSafe (hReady.mp rfl) hName hMin hMax

------------------------------------------------------------
-- Opening
------------------------------------------------------------

/- What an open for reading needs to leave nothing behind. -/
def HandlerEnv.ReadSafe
    (env : HandlerEnv)
    (p : Bytes)
    (s : MailTables) : Prop :=
  ∀ rest, afterPrefix mailslotLocal p = some rest →
    env.create.buffer ≠ none →
      env.create.Goes s ∧
        Slots.firstFree s.fsext ≠ none ∧
        env.number ≠ none ∧ env.memory = true

theorem readSafe_create
    {env : HandlerEnv}
    {rest : Bytes}
    {s : MailTables}
    (hInited : s.inited = true) :
    s.CallSafe (.create env.create (some (localName rest))
        mailslotMaxsize) ↔
      (env.create.buffer ≠ none → env.create.Goes s) := by
  constructor
  · intro hSafe
    exact hSafe (.inl hInited) rfl (by decide) (by decide)
  · intro hGoes _ _ _ _
    exact hGoes

/-
  With the library initialised, a creation for an open fails
  without a trace only if there is no memory for its buffer.
-/
theorem mailslotCreate_failed
    {env : CreateEnv}
    {name : Bytes}
    {e : Option Errno}
    {s s' : MailTables}
    (hInited : s.inited = true)
    (hGoes : env.buffer ≠ none → env.Goes s)
    (hRun : mailslotCreate env (some name) mailslotMaxsize s =
      .ok (.error e, s')) :
    env.buffer = none := by
  rcases mailslotCreate_ok hRun with ⟨ready, s₀, hInit, hEnd⟩
  rw [mailslotInit_run hInited] at hInit
  cases hInit
  rcases hEnd with ⟨hWhy, -, -⟩ | ⟨-, -, -, -, hMakes⟩
  · rcases hWhy with hNot | hNone | hLess | hMore
    · cases hNot
    · cases hNone
    · exact absurd hLess (by decide)
    · exact absurd hMore (by decide)
  · cases hMakes with
    | noMemory hBuffer => exact hBuffer
    | noMailslot hBuffer _ hHandle =>
        rcases (hGoes (by simp [hBuffer])).1 with ⟨h, hOk⟩
        rw [hHandle] at hOk
        cases hOk
    | noEntry hBuffer _ _ hMemory =>
        have hYes := (hGoes (by simp [hBuffer])).2.2
        rw [hMemory] at hYes
        cases hYes

/- A handle that was not there before is still there. -/
theorem mailslotCreate_new
    {env : CreateEnv}
    {name : Option Bytes}
    {len : Int}
    {h : Nat}
    {s s' : MailTables}
    (hSound : SlotsSound s)
    (hRun : mailslotCreate env name len s =
      .ok (.ok h, s')) :
    env.buffer ≠ none ∧ s'.mailslots ≠ s.mailslots := by
  rcases mailslotCreate_ok hRun with
    ⟨ready, s₀, hInit, ⟨-, hFail, -⟩ |
      ⟨-, -, -, -, hMakes⟩⟩
  · cases hFail
  have hFirst := (initialised_ok hSound hInit).1
  have hInsert : ∀ h : Nat, h ∉ s₀.mailslots →
      insert h s₀.mailslots ≠ s.mailslots := by
    intro h hNew hSame
    rw [hFirst.mailslots] at hNew hSame
    exact hNew (hSame ▸ Finset.mem_insert_self _ _)
  cases hMakes with
  | full hBuffer _ hNew =>
      exact ⟨by simp [hBuffer], hInsert _ hNew⟩
  | recorded hBuffer _ _ hNew =>
      exact ⟨by simp [hBuffer], hInsert _ hNew⟩

/- An open for reading that finishes, from balanced books. -/
theorem OpensMailslot.settled_iff
    {env : HandlerEnv}
    {p : Bytes}
    {r : MailAnswer Fd}
    {s s' : MailTables}
    (hOpens : OpensMailslot env p s r s')
    (hSound : SlotsSound s)
    (hInited : s.inited = true)
    (hBalanced : s.Balanced) :
    Settled s r s' ↔ env.ReadSafe p s := by
  cases hOpens with
  | badName hName =>
      apply iff_of_true
      · exact ⟨hBalanced, fun _ => ⟨rfl, rfl⟩⟩
      · intro rest hSome
        rw [hName] at hSome
        cases hSome
  | refused hName hCreate =>
      have hStep := mailslotCreate_settled_iff hSound
        hBalanced hCreate
      rw [readSafe_create hInited] at hStep
      refine Iff.trans hStep ?_
      constructor
      · intro hGoes rest _ hBuffer
        exact absurd
          (mailslotCreate_failed hInited hGoes hCreate)
          hBuffer
      · exact fun hSafe hBuffer =>
          (hSafe _ hName hBuffer).1
  | lost hName hCreate hFail hWhy =>
      rcases mailslotCreate_new hSound hCreate with
        ⟨hBuffer, hMail⟩
      apply iff_of_false
      · exact fun hSettled => hMail (hSettled.2 hFail).1
      · intro hSafe
        rcases hSafe _ hName hBuffer with
          ⟨-, hFree, hNumber, hMemory⟩
        rcases hWhy with hFull | hNone | hNo
        · exact hFree hFull
        · exact hNumber hNone
        · rw [hMemory] at hNo
          cases hNo
  | opened hName hCreate hFree hNumber hMemory hNew =>
      have hStep := mailslotCreate_settled_iff hSound
        hBalanced hCreate
      rw [readSafe_create hInited] at hStep
      have hBooks : ∀ {t : MailTables} {i : Nat}
          {me : FsextEntry}, t.Balanced ↔
            (t.addFsext i me).Balanced := by
        intro t i me
        constructor
        · exact fun h => h.of_same ⟨rfl, rfl, rfl, rfl, rfl⟩
        · exact fun h => h.of_same ⟨rfl, rfl, rfl, rfl, rfl⟩
      constructor
      · intro hSettled rest _ hBuffer
        have hGoes := hStep.mp
          ⟨hBooks.mpr hSettled.1, fun hFail => nomatch hFail⟩
        exact ⟨hGoes hBuffer, by simp [hFree],
          by simp [hNumber], hMemory⟩
      · intro hSafe
        have hSettled := hStep.mpr fun hBuffer =>
          (hSafe _ hName hBuffer).1
        exact ⟨hBooks.mp hSettled.1,
          fun hFail => nomatch hFail⟩

------------------------------------------------------------
-- Deletions
------------------------------------------------------------

/- A mailslot that is deleted takes its buffer with it. -/
theorem Destroys.freed
    {env : DestroyEnv}
    {handle : Option Nat}
    {r : MailAnswer Unit}
    {s s' : MailTables}
    (hDestroys : Destroys env handle s r s')
    (hSound : SlotsSound s)
    (hBalanced : s.Balanced) :
    s'.Balanced ∧
      ∀ h, handle = some h → h ∈ s.mailslots →
        h ∉ s'.mailslots →
          ∃ entry ∈ s.entries, entry.handle = h ∧
            s'.mailslots = s.mailslots.erase h ∧
            s'.dosMemory = s.dosMemory.erase entry.sel := by
  cases hDestroys with
  | refused hInit =>
      refine ⟨hInit.balanced hSound hBalanced, ?_⟩
      intro h _ hMem hGone
      rw [hInit.mailslots] at hGone
      exact absurd hMem hGone
  | absent _ _ hMem _ hAbsent =>
      -- balanced books record every mailslot
      rcases (hBalanced.mailslots _).mp hMem with
        ⟨entry, hEntry, hSame⟩
      exact absurd hSame (hAbsent entry hEntry)
  | found hHandle _ _ _ hTaken =>
      refine ⟨hBalanced.discard hSound hTaken, ?_⟩
      intro h hSome _ _
      rw [hHandle] at hSome
      cases hSome
      exact ⟨_, Slots.mem_entries_of_getElem? hTaken, rfl,
        rfl, rfl⟩

theorem Releases.freed
    {env : DestroyEnv}
    {me : FsextEntry}
    {s t : MailTables}
    (hReleases : Releases env s me t)
    (hSound : SlotsSound s)
    (hBalanced : s.Balanced) :
    t.Balanced ∧
      ∀ h, me.handle = some h → h ∈ s.mailslots →
        h ∉ t.mailslots →
          ∃ entry ∈ s.entries, entry.handle = h ∧
            t.mailslots = s.mailslots.erase h ∧
            t.dosMemory = s.dosMemory.erase entry.sel := by
  have hBooks : (s.release me.fd).Balanced :=
    hBalanced.of_same ⟨rfl, rfl, rfl, rfl, rfl⟩
  cases hReleases with
  | writing hNone =>
      refine ⟨hBooks, ?_⟩
      intro h hSome
      rw [hNone] at hSome
      cases hSome
  | reading hHandle hDestroys =>
      rcases hDestroys.freed (hSound.release me.fd) hBooks
        with ⟨hAfter, hFreed⟩
      refine ⟨hAfter, ?_⟩
      intro h hSome
      rw [hHandle] at hSome
      exact hFreed h hSome

------------------------------------------------------------
-- Every Call
------------------------------------------------------------

section Step

variable {s s' : MailTables}

theorem accounted_install_iff
    {env : InitEnv}
    {ok : Bool}
    (hSound : Sound s)
    (hBalanced : s.Balanced)
    (hRun : installHandler env s = .ok (ok, s')) :
    (MailCall.install env).Accounted s ok s' ↔
      s.CallSafe (.install env) := by
  rcases sound_install hSound hRun with
    ⟨s₀, hFirst, -, -, hSame⟩
  apply iff_of_true
  · constructor
    · exact (hFirst.balanced hSound.1 hBalanced).of_same hSame
    · intro hNo
      cases hNo
    · intro h hNone
      cases hNone
  · trivial

theorem accounted_of_settled
    {α : Type}
    {call : MailCall}
    {r : MailAnswer α}
    (hOpens : call.opens = true)
    (hKeeps : call.letsGo s = none) :
    call.Accounted s r.isOk s' ↔ Settled s r s' := by
  constructor
  · intro hAccounted
    exact ⟨hAccounted.balanced, hAccounted.failed hOpens⟩
  · intro hSettled
    constructor
    · exact hSettled.1
    · exact fun _ => hSettled.2
    · intro h hSome
      rw [hKeeps] at hSome
      cases hSome

theorem accounted_openFile_iff
    {env : HandlerEnv}
    {file : Bytes}
    {mode : HandlerMode}
    {answer : Option (MailAnswer Fd)}
    (hSound : Sound s)
    (hBalanced : s.Balanced)
    (hRun : openHandler env file mode s = .ok (answer, s')) :
    (MailCall.openFile env file mode).Accounted s
        (answer.any Except.isOk) s' ↔
      s.CallSafe (.openFile env file mode) := by
  rcases openHandler_ok hRun with
    ⟨hInstalled, ⟨hNone, rfl, hOther⟩ | ⟨p, r, hFile, hPath,
      rfl, ⟨rfl, hOpen⟩ | ⟨rfl, hOpen⟩⟩⟩
  · apply iff_of_true
    · constructor
      · exact hBalanced
      · exact fun _ _ => ⟨rfl, rfl⟩
      · intro h hKeeps
        cases hKeeps
    · intro p rest hFile hPath hMode
      rw [hOther p hFile hPath] at hMode
      cases hMode
  · change (MailCall.openFile env file .wronly).Accounted s
      r.isOk s' ↔ _
    rw [accounted_of_settled rfl rfl]
    apply iff_of_true
    · rcases openForWriting_ok hOpen with
        ⟨-, rfl⟩ | ⟨i, me, -, -, rfl, rfl⟩
      · exact ⟨hBalanced, fun _ => ⟨rfl, rfl⟩⟩
      · exact ⟨hBalanced.of_same ⟨rfl, rfl, rfl, rfl, rfl⟩,
          fun _ => ⟨rfl, rfl⟩⟩
    · intro p rest _ _ hMode
      cases hMode
  · change (MailCall.openFile env file .rdonly).Accounted s
      r.isOk s' ↔ _
    rw [accounted_of_settled rfl rfl,
      (openForReading_ok hSound.1 hOpen).settled_iff hSound.1
        (hSound.2.inited hInstalled) hBalanced]
    constructor
    · intro hSafe q rest _ hQ _ hRest hBuffer
      rw [hPath] at hQ
      cases hQ
      exact hSafe rest hRest hBuffer
    · intro hSafe rest hRest hBuffer
      exact hSafe p rest hFile hPath rfl hRest hBuffer

theorem accounted_close_iff
    {env : DestroyEnv}
    {fd : Fd}
    {r : MailAnswer Unit}
    (hSound : Sound s)
    (hBalanced : s.Balanced)
    (hRun : closeHandler env fd s = .ok (r, s')) :
    (MailCall.close env fd).Accounted s r.isOk s' ↔
      s.CallSafe (.close env fd) := by
  rcases closeHandler_ok hSound.1 hSound.2 hRun with
    ⟨-, i, me, t, rfl, hData, -, -, hReleases, rfl⟩
  rcases hReleases.freed hSound.1 hBalanced with
    ⟨hAfter, hFreed⟩
  apply iff_of_true
  · constructor
    · exact hAfter.of_same ⟨rfl, rfl, rfl, rfl, rfl⟩
    · intro hNo
      cases hNo
    · intro h hSome
      have hHandle : me.handle = some h := by
        simpa [MailCall.letsGo, hData] using hSome
      exact hFreed h hHandle
  · intro other hOther
    rw [hData] at hOther
    cases hOther
    exact (closeHandler_tables hSound hData hRun).2.2.2

/- A call that finishes is accounted for if it is safe. -/
theorem accounted_iff
    {call : MailCall}
    {ok : Bool}
    (hSound : Sound s)
    (hBalanced : s.Balanced)
    (hRun : call.exec s = .ok (ok, s')) :
    call.Accounted s ok s' ↔ s.CallSafe call := by
  cases call with
  | install env =>
      exact accounted_install_iff hSound hBalanced hRun
  | create env name len =>
      rcases bind_eq_ok.mp hRun with
        ⟨r, t, hCreate, hReturn⟩
      cases hReturn
      rw [accounted_of_settled rfl rfl]
      exact mailslotCreate_settled_iff hSound.1 hBalanced
        hCreate
  | destroy env handle =>
      rcases bind_eq_ok.mp hRun with
        ⟨r, t, hDestroy, hReturn⟩
      cases hReturn
      have hDestroys := mailslotDestroy_ok hSound.1 hDestroy
      rcases hDestroys.freed hSound.1 hBalanced with
        ⟨hAfter, hFreed⟩
      apply iff_of_true
      · constructor
        · exact hAfter
        · intro hNo
          cases hNo
        · exact hFreed
      · intro h hSome
        subst hSome
        exact (hDestroys.slotsWithout hSound.1).2
  | openFile env file mode =>
      rcases bind_eq_ok.mp hRun with ⟨r, t, hOpen, hReturn⟩
      cases hReturn
      exact accounted_openFile_iff hSound hBalanced hOpen
  | close env fd =>
      rcases bind_eq_ok.mp hRun with ⟨r, t, hClose, hReturn⟩
      cases hReturn
      exact accounted_close_iff hSound hBalanced hClose

/- A safe call that is to delete a mailslot goes through. -/
theorem exec_of_letsGo
    {call : MailCall}
    {h : Nat}
    (hSound : Sound s)
    (hHandle : call.letsGo s = some h)
    (hMem : h ∈ s.mailslots)
    (hSafe : s.CallSafe call) :
    ∃ ok s', call.exec s = .ok (ok, s') := by
  cases call with
  | install env => cases hHandle
  | create env name len => cases hHandle
  | openFile env file mode => cases hHandle
  | destroy env handle =>
      have hSome : handle = some h := hHandle
      subst hSome
      rcases mailslotDestroy_total hSound.1
          (hSound.1.inited_of_mem hMem) (hSafe h rfl) with
        ⟨r, t, hRun⟩
      exact ⟨r.isOk, t, run_bind_ok hRun⟩
  | close env fd =>
      cases hData : s.descriptors fd with
      | none => simp [MailCall.letsGo, hData] at hHandle
      | some d =>
          rcases hSound.2.data fd d hData with
            ⟨me, rfl, rfl, -⟩
          rcases closeHandler_total hSound hData
              (hSafe me hData) with ⟨r, t, hRun⟩
          exact ⟨r.isOk, t, run_bind_ok hRun⟩

end Step

theorem balanced_start : MailTables.start.Balanced := by
  have hEmpty : MailTables.start.entries = [] :=
    Slots.entries_replicate mailslotMax
  constructor
  · intro h
    rw [hEmpty]
    simp [MailTables.start]
  · intro sel
    rw [hEmpty]
    simp [MailTables.start]

/-
  In a run of safe calls the books balance in every state;
  the next call owes nothing exactly if it is safe, and a
  safe deletion goes through.
-/
theorem balanced_of_reachable
    {s : MailTables}
    (hReach : mailSystem.ReachableUnder
      MailTables.CallSafe s) :
    s.Balanced ∧
      (∀ (call : MailCall) (ok : Bool) (s' : MailTables),
        call.exec s = .ok (ok, s') →
          (call.Accounted s ok s' ↔ s.CallSafe call)) ∧
      ∀ (call : MailCall) (h : Nat),
        call.letsGo s = some h → h ∈ s.mailslots →
          s.CallSafe call →
            ∃ ok s', call.exec s = .ok (ok, s') := by
  have hSound := sound_of_reachable hReach
  have hBalanced : s.Balanced := by
    apply hReach.invariant_of
      (fun t hT => sound_of_reachable hT)
    · intro t hInit
      rw [hInit]
      exact balanced_start
    · intro t call t' hPrior hBooks hSafe hStep
      rcases hStep with ⟨ok, hRun⟩
      exact ((accounted_iff hPrior hBooks hRun).mpr
        hSafe).balanced
  refine ⟨hBalanced, ?_, ?_⟩
  · intro call ok s' hRun
    exact accounted_iff hSound hBalanced hRun
  · intro call h hHandle hMem hSafe
    exact exec_of_letsGo hSound hHandle hMem hSafe

/- A mailslot is created. -/
theorem balanced_after_creation :
    ∃ s : MailTables, s.mailslots = {7} ∧ s.Balanced := by
  have hRun : ∃ s₁,
      MailCall.exec (.install .granting) .start =
        .ok (true, s₁) ∧
      Slots.firstFree s₁.slots = some 0 ∧
      ∃ s₂, MailCall.exec (.create (.granting 2 7)
          (some (bytes "/mailslot/a")) mailslotMaxsize) s₁ =
        .ok (true, s₂) ∧ s₂.mailslots = {7} :=
    ⟨_, rfl, rfl, _, rfl, by decide⟩
  rcases hRun with ⟨s₁, hInstall, hFree, s₂, hCreate, hSeven⟩
  have hGoes : (CreateEnv.granting 2 7).Goes s₁ :=
    ⟨⟨7, rfl⟩, by simp [hFree], rfl⟩
  have hFirst :
      mailSystem.ReachableUnder MailTables.CallSafe s₁ := by
    refine .step (.init rfl) ?_ ⟨true, hInstall⟩
    trivial
  have hSecond :
      mailSystem.ReachableUnder MailTables.CallSafe s₂ := by
    refine .step hFirst ?_ ⟨true, hCreate⟩
    exact fun _ _ _ _ _ => hGoes
  exact ⟨s₂, hSeven, (balanced_of_reachable hSecond).1⟩

/-
  DOS refuses to make the mailslot: the buffer allocated for
  it stays allocated, and nothing records it.
-/
theorem refused_creation_leaks :
    ¬ ∀ s, mailSystem.Reachable s → s.Balanced := by
  intro hAll
  rcases exists_mailTables [.install .granting,
      .create { CreateEnv.granting 2 7 with
        handle := .error .EBUSY }
        (some (bytes "/mailslot/a")) mailslotMaxsize]
      (fun s => s.dosMemory == {1, 2} &&
        s.transfer == some ⟨1, 1⟩ && s.entries == [])
      (by decide +kernel) with ⟨s, hReach, hCheck⟩
  simp only [Bool.and_eq_true, beq_iff_eq] at hCheck
  rcases hCheck with ⟨⟨hMemory, hTransfer⟩, hEmpty⟩
  have hBooks := ((hAll s hReach).dosMemory 2).mp
    (by rw [hMemory]; decide)
  rw [hTransfer, hEmpty] at hBooks
  rcases hBooks with ⟨block, hSome, hSel⟩ | ⟨entry, hNone, -⟩
  · cases hSome
    cases hSel
  · cases hNone

end Libsocket
