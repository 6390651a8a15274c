import Libsocket.MailslotTable.Invariant

/-
  Runs of calls on the mailslot tables.

  Every call leaves the tables sound, whatever DOS and the
  library grant it.

  Main declarations:
    * `Initialised`, `Destroys`, `Closes`, `OpensMailslot`
    * `mailslotDestroy_ok`, `closeHandler_ok`
    * `openForReading_ok`
    * `sound_of_reachable`
-/

namespace Libsocket

open Command

------------------------------------------------------------
-- Initialisation
------------------------------------------------------------

/- The library is initialised now, if it was not before. -/
def Initialised (s s₀ : MailTables) : Prop :=
  s₀ = s ∨
    s.inited = false ∧
      ∃ block : DosBlock, block.sel ≠ 0 ∧
        s₀ = s.withTransfer block

namespace Initialised

variable {s s₀ : MailTables}

theorem sound
    (hInit : Initialised s s₀)
    (hSound : SlotsSound s) :
    SlotsSound s₀ := by
  rcases hInit with rfl | ⟨hIdle, block, -, rfl⟩
  · exact hSound
  · exact hSound.withTransfer hIdle block

theorem sameFsext (hInit : Initialised s s₀) :
    SameFsext s s₀ := by
  rcases hInit with rfl | ⟨-, block, -, rfl⟩
  · exact ⟨rfl, rfl, rfl, id⟩
  · exact ⟨rfl, rfl, rfl, fun _ => rfl⟩

theorem slots (hInit : Initialised s s₀) :
    s₀.slots = s.slots := by
  rcases hInit with rfl | ⟨-, block, -, rfl⟩ <;> rfl

theorem mailslots (hInit : Initialised s s₀) :
    s₀.mailslots = s.mailslots := by
  rcases hInit with rfl | ⟨-, block, -, rfl⟩ <;> rfl

end Initialised

theorem initialised_ok
    {env : InitEnv}
    {ready : Bool}
    {s s₀ : MailTables}
    (hSound : SlotsSound s)
    (hRun : mailslotInit env s = .ok (ready, s₀)) :
    Initialised s s₀ ∧ (ready = true ↔ s.Ready env) ∧
      (ready = true → s₀.inited = true) := by
  rcases mailslotInit_ok
      (fun hIdle => (hSound.idle hIdle).1) hRun with
    ⟨rfl, hNot, rfl⟩ | ⟨rfl, hReady, hInited, rfl⟩ |
      ⟨rfl, hReady, hIdle, block, hSel, rfl⟩
  · refine ⟨.inl rfl, ?_, ?_⟩
    · exact iff_of_false (by decide) hNot
    · intro hTrue
      cases hTrue
  · exact ⟨.inl rfl, iff_of_true rfl hReady,
      fun _ => hInited⟩
  · exact ⟨.inr ⟨hIdle, block, hSel, rfl⟩,
      iff_of_true rfl hReady, fun _ => rfl⟩

------------------------------------------------------------
-- Creation
------------------------------------------------------------

theorem Makes.sound
    {env : CreateEnv}
    {r : MailAnswer Nat}
    {s s' : MailTables}
    (hMakes : Makes env s r s')
    (hSound : SlotsSound s)
    (hInited : s.inited = true) :
    SlotsSound s' ∧ SameFsext s s' := by
  cases hMakes with
  | noMemory => exact ⟨hSound, ⟨rfl, rfl, rfl, id⟩⟩
  | noMailslot =>
      exact ⟨hSound.withBlock hInited _, ⟨rfl, rfl, rfl, id⟩⟩
  | full =>
      exact ⟨(hSound.withBlock hInited _).withMailslot
        hInited _, ⟨rfl, rfl, rfl, id⟩⟩
  | noEntry =>
      exact ⟨(hSound.withBlock hInited _).withMailslot
        hInited _, ⟨rfl, rfl, rfl, id⟩⟩
  | recorded _ hSel _ hNew hFree _ hEntry =>
      exact ⟨hSound.record hInited
        (Slots.firstFree_some hFree) hNew hSel.2 hSel.1
        hEntry, ⟨rfl, rfl, rfl, id⟩⟩

theorem SameFsext.trans
    {s t u : MailTables}
    (hFirst : SameFsext s t)
    (hSecond : SameFsext t u) :
    SameFsext s u where
  fsextInited :=
    hSecond.fsextInited.trans hFirst.fsextInited
  fsext := hSecond.fsext.trans hFirst.fsext
  descriptors :=
    hSecond.descriptors.trans hFirst.descriptors
  inited := fun hOn => hSecond.inited (hFirst.inited hOn)

theorem mailslotCreate_sound
    {env : CreateEnv}
    {name : Option Bytes}
    {len : Int}
    {r : MailAnswer Nat}
    {s s' : MailTables}
    (hSound : SlotsSound s)
    (hRun : mailslotCreate env name len s = .ok (r, s')) :
    SlotsSound s' ∧ SameFsext s s' := by
  rcases mailslotCreate_ok hRun with
    ⟨ready, s₀, hInit, ⟨-, -, rfl⟩ |
      ⟨rfl, -, -, -, hMakes⟩⟩
  · have hFirst := (initialised_ok hSound hInit).1
    exact ⟨hFirst.sound hSound, hFirst.sameFsext⟩
  · rcases initialised_ok hSound hInit with
      ⟨hFirst, -, hInited⟩
    rcases hMakes.sound (hFirst.sound hSound)
        (hInited rfl) with ⟨hAfter, hSame⟩
    exact ⟨hAfter, hFirst.sameFsext.trans hSame⟩

------------------------------------------------------------
-- Deletion
------------------------------------------------------------

/- How a deletion can end. -/
inductive Destroys
    (env : DestroyEnv)
    (handle : Option Nat)
    (s : MailTables) :
    MailAnswer Unit → MailTables → Prop
  | refused {r : MailAnswer Unit} {s₀ : MailTables}
      (hInit : Initialised s s₀)
      (hFail : r.isOk = false)
      (hKept : ∀ h, handle = some h →
        ¬ (env.deleted = true ∧ h ∈ s.mailslots)) :
      Destroys env handle s r s₀
  | absent {h : Nat}
      (hHandle : handle = some h)
      (hDeleted : env.deleted = true)
      (hMem : h ∈ s.mailslots)
      (hBroken :
        Slots.Unbroken MailslotEntry.handle h s.slots)
      (hAbsent : ∀ entry ∈ s.entries, entry.handle ≠ h) :
      Destroys env handle s (.error none) (s.forget h)
  | found {i : Nat} {entry : MailslotEntry}
      (hHandle : handle = some entry.handle)
      (hDeleted : env.deleted = true)
      (hMem : entry.handle ∈ s.mailslots)
      (hBroken : Slots.Unbroken MailslotEntry.handle
        entry.handle s.slots)
      (hTaken : s.slots[i]? = some (some entry)) :
      Destroys env handle s (.ok ()) (s.discard i entry)

/- An existing mailslot is looked up, when DOS deletes it. -/
theorem mailslotDestroy_deleted
    {env : DestroyEnv}
    {h : Nat}
    {s : MailTables}
    (hSound : SlotsSound s)
    (hDeleted : env.deleted = true)
    (hMem : h ∈ s.mailslots) :
    (¬ Slots.Unbroken MailslotEntry.handle h s.slots ∧
        mailslotDestroy env (some h) s =
          .error .nullSlot) ∨
      Slots.Unbroken MailslotEntry.handle h s.slots ∧
        ∃ r s', mailslotDestroy env (some h) s =
            .ok (r, s') ∧
          Destroys env (some h) s r s' := by
  rw [mailslotDestroy_run (hSound.inited_of_mem hMem),
    if_pos ⟨hDeleted, hMem⟩]
  have hSels : ∀ entry ∈ (s.forget h).entries,
      entry.sel ≠ 0 := fun entry hEntry =>
    (hSound.allocated entry hEntry).2.2
  rcases dropMailslot_run hSels h with
    ⟨hHole, hRun⟩ | ⟨hBroken, hAbsent, hRun⟩ |
      ⟨hBroken, i, entry, hTaken, rfl, hRun⟩
  · exact .inl ⟨hHole, hRun⟩
  · exact .inr ⟨hBroken, _, _, hRun,
      .absent rfl hDeleted hMem hBroken hAbsent⟩
  · exact .inr ⟨hBroken, _, _, hRun,
      .found rfl hDeleted hMem hBroken hTaken⟩

theorem mailslotDestroy_ok
    {env : DestroyEnv}
    {handle : Option Nat}
    {r : MailAnswer Unit}
    {s s' : MailTables}
    (hSound : SlotsSound s)
    (hRun : mailslotDestroy env handle s = .ok (r, s')) :
    Destroys env handle s r s' := by
  by_cases hGone : ∃ h, handle = some h ∧
      env.deleted = true ∧ h ∈ s.mailslots
  · rcases hGone with ⟨h, rfl, hDeleted, hMem⟩
    rcases mailslotDestroy_deleted hSound hDeleted hMem with
      ⟨-, hStop⟩ | ⟨-, r', t, hOk, hDestroys⟩
    · rw [hStop] at hRun
      cases hRun
    · rw [hOk] at hRun
      cases hRun
      exact hDestroys
  have hKept : ∀ h, handle = some h →
      ¬ (env.deleted = true ∧ h ∈ s.mailslots) := by
    rintro h hHandle ⟨hDeleted, hMem⟩
    exact hGone ⟨h, hHandle, hDeleted, hMem⟩
  unfold mailslotDestroy at hRun
  rcases bind_eq_ok.mp hRun with ⟨ready, s₀, hInit, hRest⟩
  have hFirst := (initialised_ok hSound hInit).1
  split at hRest
  · cases hRest
    exact .refused hFirst rfl hKept
  · cases handle with
    | none =>
        cases hRest
        exact .refused hFirst rfl hKept
    | some h =>
        dsimp only at hRest
        rcases bind_eq_ok.mp hRest with
          ⟨deleted, s₁, hDelete, hLast⟩
        have hNot :
            ¬ (env.deleted = true ∧ h ∈ s₀.mailslots) := by
          rw [hFirst.mailslots]
          exact hKept h rfl
        rw [deleteMailslot_run, if_neg hNot] at hDelete
        cases hDelete
        rw [if_neg (by decide)] at hLast
        cases hLast
        exact .refused hFirst rfl hKept

theorem Destroys.sound
    {env : DestroyEnv}
    {handle : Option Nat}
    {r : MailAnswer Unit}
    {s s' : MailTables}
    (hDestroys : Destroys env handle s r s')
    (hSound : SlotsSound s) :
    SlotsSound s' ∧ SameFsext s s' := by
  cases hDestroys with
  | refused hInit =>
      exact ⟨hInit.sound hSound, hInit.sameFsext⟩
  | absent _ _ hMem _ hAbsent =>
      exact ⟨hSound.forget (hSound.inited_of_mem hMem)
        hAbsent, ⟨rfl, rfl, rfl, id⟩⟩
  | found _ _ hMem _ hTaken =>
      exact ⟨hSound.discard (hSound.inited_of_mem hMem)
        hTaken, ⟨rfl, rfl, rfl, id⟩⟩

------------------------------------------------------------
-- Closing
------------------------------------------------------------

/- How the mailslot of a descriptor is let go. -/
inductive Releases
    (env : DestroyEnv)
    (s : MailTables)
    (me : FsextEntry) : MailTables → Prop
  | writing
      (hHandle : me.handle = none) :
      Releases env s me (s.release me.fd)
  | reading {h : Nat} {r : MailAnswer Unit}
      {t : MailTables}
      (hHandle : me.handle = some h)
      (hDestroys :
        Destroys env (some h) (s.release me.fd) r t) :
      Releases env s me t

theorem SlotsSound.release
    {s : MailTables}
    (hSound : SlotsSound s)
    (fd : Fd) :
    SlotsSound (s.release fd) :=
  hSound.of_same ⟨rfl, rfl, rfl, rfl, rfl⟩

theorem Releases.sound
    {env : DestroyEnv}
    {me : FsextEntry}
    {s t : MailTables}
    (hReleases : Releases env s me t)
    (hSound : SlotsSound s) :
    SlotsSound t ∧ SameFsext (s.release me.fd) t := by
  cases hReleases with
  | writing =>
      exact ⟨hSound.release _, ⟨rfl, rfl, rfl, id⟩⟩
  | reading _ hDestroys =>
      exact hDestroys.sound (hSound.release _)

theorem closeHandler_ok
    {env : DestroyEnv}
    {fd : Fd}
    {r : MailAnswer Unit}
    {s s' : MailTables}
    (hSlots : SlotsSound s)
    (hFsext : FsextSound s)
    (hRun : closeHandler env fd s = .ok (r, s')) :
    r = .ok () ∧
      ∃ i me t, me.fd = fd ∧
        s.descriptors fd = some (some me) ∧
        s.fsext[i]? = some (some me) ∧
        Slots.Unbroken FsextEntry.fd fd s.fsext ∧
        Releases env s me t ∧ s' = t.clearFsext i := by
  unfold closeHandler at hRun
  rw [run_bind_ok (run_get s)] at hRun
  cases hData : s.descriptors fd with
  | none =>
      rw [hData] at hRun
      cases hRun
  | some d =>
      rcases hFsext.data fd d hData with
        ⟨me, rfl, rfl, hMember⟩
      rw [hData] at hRun
      dsimp only at hRun
      rw [run_bind_ok (run_modify _ s)] at hRun
      -- one statement covers both kinds of descriptor
      have hSplit : ∃ t, Releases env s me t ∧
          ∃ u : Unit, dropDescriptor me.fd t = .ok (u, s') ∧
            r = .ok () := by
        cases hHandle : me.handle with
        | none =>
            rw [hHandle] at hRun
            rcases bind_eq_ok.mp hRun with
              ⟨u, t, hDrop, hReturn⟩
            cases hReturn
            exact ⟨_, .writing hHandle, u, hDrop, rfl⟩
        | some h =>
            rw [hHandle] at hRun
            rcases bind_eq_ok.mp hRun with
              ⟨r', t', hDestroy, hRest⟩
            rcases bind_eq_ok.mp hRest with
              ⟨u, t, hDrop, hReturn⟩
            cases hReturn
            exact ⟨t', .reading hHandle (mailslotDestroy_ok
              (hSlots.release me.fd) hDestroy),
              u, hDrop, rfl⟩
      rcases hSplit with ⟨t, hReleases, u, hDrop, hReturn⟩
      have hSame : t.fsext = s.fsext :=
        (hReleases.sound hSlots).2.fsext
      rcases dropDescriptor_run t me.fd with
        ⟨-, hStop⟩ | ⟨-, hAbsent, -⟩ |
          ⟨hBroken, i, other, hTaken, hFd, hClear⟩
      · rw [hStop] at hDrop
        cases hDrop
      · have hIn : me ∈ t.fsextEntries := by
          rw [MailTables.fsextEntries, hSame]
          exact hMember
        exact absurd rfl (hAbsent me hIn)
      · rw [hSame] at hBroken hTaken
        rw [hClear] at hDrop
        cases hDrop
        have hOwned := hFsext.owned other
          (Slots.mem_entries_of_getElem? hTaken)
        rw [hFd, hData] at hOwned
        cases hOwned
        exact ⟨hReturn, i, me, t, rfl, rfl, hTaken, hBroken,
          hReleases, rfl⟩

------------------------------------------------------------
-- Opening
------------------------------------------------------------

/- How an open for reading can end. -/
inductive OpensMailslot
    (env : HandlerEnv)
    (p : Bytes)
    (s : MailTables) :
    MailAnswer Fd → MailTables → Prop
  | badName
      (hName : afterPrefix mailslotLocal p = none) :
      OpensMailslot env p s (.error (some .EINVAL)) s
  | refused {rest : Bytes} {e : Option Errno}
      {s' : MailTables}
      (hName : afterPrefix mailslotLocal p = some rest)
      (hCreate : mailslotCreate env.create
        (some (localName rest)) mailslotMaxsize s =
          .ok (.error e, s')) :
      OpensMailslot env p s (.error e) s'
  | lost {rest : Bytes} {h : Nat} {r : MailAnswer Fd}
      {s' : MailTables}
      (hName : afterPrefix mailslotLocal p = some rest)
      (hCreate : mailslotCreate env.create
        (some (localName rest)) mailslotMaxsize s =
          .ok (.ok h, s'))
      (hFail : r.isOk = false)
      (hWhy : Slots.firstFree s.fsext = none ∨
        env.number = none ∨ env.memory = false) :
      OpensMailslot env p s r s'
  | opened {rest : Bytes} {h : Nat} {i : Nat}
      {me : FsextEntry} {s₁ : MailTables}
      (hName : afterPrefix mailslotLocal p = some rest)
      (hCreate : mailslotCreate env.create
        (some (localName rest)) mailslotMaxsize s =
          .ok (.ok h, s₁))
      (hFree : Slots.firstFree s.fsext = some i)
      (hNumber : env.number = some me.fd)
      (hMemory : env.memory = true)
      (hNew : s.descriptors me.fd = none) :
      OpensMailslot env p s (.ok me.fd) (s₁.addFsext i me)

theorem openForReading_ok
    {env : HandlerEnv}
    {p : Bytes}
    {r : MailAnswer Fd}
    {s s' : MailTables}
    (hSound : SlotsSound s)
    (hRun : openForReading env p s = .ok (r, s')) :
    OpensMailslot env p s r s' := by
  unfold openForReading at hRun
  cases hName : afterPrefix mailslotLocal p with
  | none =>
      rw [hName] at hRun
      cases hRun
      exact .badName hName
  | some rest =>
      rw [hName] at hRun
      dsimp only at hRun
      split at hRun
      · rcases bind_eq_ok.mp hRun with
          ⟨created, s₁, hCreate, hRest⟩
        rcases (mailslotCreate_sound hSound hCreate).2 with
          ⟨-, hFsext, hData, -⟩
        cases created with
        | error e =>
            cases hRest
            exact .refused hName hCreate
        | ok h =>
            dsimp only at hRest
            rw [run_bind_ok (run_get s₁)] at hRest
            cases hFree : Slots.firstFree s₁.fsext with
            | none =>
                rw [hFree] at hRest
                cases hRest
                rw [hFsext] at hFree
                exact .lost hName hCreate rfl (.inl hFree)
            | some i =>
                rw [hFree] at hRest
                rw [hFsext] at hFree
                rcases addDescriptor_ok hRest with
                  ⟨hWhy, hFail, rfl⟩ |
                    ⟨me, hNumber, hMemory, hNew, -, rfl, rfl⟩
                · exact .lost hName hCreate hFail (.inr hWhy)
                · rw [hData] at hNew
                  exact .opened hName hCreate hFree hNumber
                    hMemory hNew
      · cases hRun

/- An open for writing adds a descriptor or does nothing. -/
theorem openForWriting_ok
    {env : HandlerEnv}
    {p : Bytes}
    {r : MailAnswer Fd}
    {s s' : MailTables}
    (hRun : openForWriting env p s = .ok (r, s')) :
    (r.isOk = false ∧ s' = s) ∨
      ∃ i me, Slots.firstFree s.fsext = some i ∧
        s.descriptors me.fd = none ∧ r = .ok me.fd ∧
        s' = s.addFsext i me := by
  unfold openForWriting at hRun
  rw [run_bind_ok (run_get s)] at hRun
  cases hFree : Slots.firstFree s.fsext with
  | none =>
      rw [hFree] at hRun
      cases hRun
      exact .inl ⟨rfl, rfl⟩
  | some i =>
      rw [hFree] at hRun
      dsimp only at hRun
      split at hRun
      · rcases addDescriptor_ok hRun with
          ⟨-, hFail, rfl⟩ | ⟨me, -, -, hNew, -, rfl, rfl⟩
        · exact .inl ⟨hFail, rfl⟩
        · exact .inr ⟨i, me, rfl, hNew, rfl, rfl⟩
      · cases hRun

/- An open of either kind, or none at all. -/
theorem openHandler_ok
    {env : HandlerEnv}
    {file : Bytes}
    {mode : HandlerMode}
    {answer : Option (MailAnswer Fd)}
    {s s' : MailTables}
    (hRun : openHandler env file mode s = .ok (answer, s')) :
    s.fsextInited = true ∧
      ((answer.any Except.isOk = false ∧ s' = s ∧
          ∀ p, env.fileCopied = true →
            afterPrefix mailslotDev (slashify file) = some p →
            mode = .rdwr) ∨
        ∃ p r, env.fileCopied = true ∧
          afterPrefix mailslotDev (slashify file) = some p ∧
          answer = some r ∧
          (mode = .wronly ∧
              openForWriting env p s = .ok (r, s') ∨
            mode = .rdonly ∧
              openForReading env p s = .ok (r, s'))) := by
  unfold openHandler at hRun
  rw [run_bind_ok (run_get s)] at hRun
  split at hRun
  · cases hRun
  rename_i hInstalled
  refine ⟨by simpa using hInstalled, ?_⟩
  split at hRun
  · rename_i hCopied
    cases hRun
    left
    refine ⟨rfl, rfl, ?_⟩
    intro p hYes
    rw [hCopied] at hYes
    cases hYes
  rename_i hCopied
  have hFile : env.fileCopied = true := by
    simpa using hCopied
  cases hPath : afterPrefix mailslotDev (slashify file) with
  | none =>
      rw [hPath] at hRun
      cases hRun
      left
      refine ⟨rfl, rfl, ?_⟩
      intro p _ hSome
      cases hSome
  | some p =>
      rw [hPath] at hRun
      cases mode with
      | rdwr =>
          cases hRun
          exact .inl ⟨rfl, rfl, fun _ _ _ => rfl⟩
      | wronly =>
          rcases bind_eq_ok.mp hRun with
            ⟨r, s₁, hOpen, hReturn⟩
          cases hReturn
          exact .inr ⟨p, r, hFile, rfl, rfl,
            .inl ⟨rfl, hOpen⟩⟩
      | rdonly =>
          rcases bind_eq_ok.mp hRun with
            ⟨r, s₁, hOpen, hReturn⟩
          cases hReturn
          exact .inr ⟨p, r, hFile, rfl, rfl,
            .inr ⟨rfl, hOpen⟩⟩

------------------------------------------------------------
-- Every Call
------------------------------------------------------------

/- Both parts of the tables are sound. -/
def Sound (s : MailTables) : Prop :=
  SlotsSound s ∧ FsextSound s

theorem sound_start : Sound .start := by
  have hEmpty : MailTables.start.entries = [] :=
    Slots.entries_replicate mailslotMax
  have hEmptyFsext : MailTables.start.fsextEntries = [] :=
    Slots.entries_replicate mailslotMax
  constructor
  · constructor
    · intro _
      exact ⟨rfl, rfl, rfl, rfl⟩
    · simp [hEmpty]
    · simp [hEmpty]
    · simp [hEmpty]
    · intro block hSome
      cases hSome
  · constructor
    · intro _
      rfl
    · intro hOn
      cases hOn
    · simp [hEmptyFsext]
    · intro fd d hData
      cases hData
    · simp [hEmptyFsext]

theorem sound_install
    {env : InitEnv}
    {ok : Bool}
    {s s' : MailTables}
    (hSound : Sound s)
    (hRun : installHandler env s = .ok (ok, s')) :
    ∃ s₀, Initialised s s₀ ∧ SlotsSound s' ∧
      FsextSound s' ∧ SameSlots s₀ s' := by
  unfold installHandler at hRun
  rw [run_bind_ok (run_get s)] at hRun
  split at hRun
  · cases hRun
    exact ⟨s, .inl rfl, hSound.1, hSound.2,
      ⟨rfl, rfl, rfl, rfl, rfl⟩⟩
  rename_i hInstalled
  rcases bind_eq_ok.mp hRun with ⟨ready, s₀, hInit, hRest⟩
  rcases initialised_ok hSound.1 hInit with
    ⟨hFirst, -, hReady⟩
  have hSlots := hFirst.sound hSound.1
  have hFsext := hSound.2.of_same hFirst.sameFsext
  refine ⟨s₀, hFirst, ?_⟩
  split at hRest
  · cases hRest
    exact ⟨hSlots, hFsext, ⟨rfl, rfl, rfl, rfl, rfl⟩⟩
  · rename_i hNotFalse
    cases hRest
    have hIdle : s₀.fsextInited = false := by
      rw [hFirst.sameFsext.fsextInited]
      simpa using hInstalled
    have hTable := hFsext.idle hIdle
    refine ⟨hSlots.of_same ⟨rfl, rfl, rfl, rfl, rfl⟩, ?_,
      ⟨rfl, rfl, rfl, rfl, rfl⟩⟩
    have hSame : ∀ t : MailTables,
        t.fsext = List.replicate mailslotMax none →
          t.fsextEntries = s₀.fsextEntries := by
      intro t hT
      simp [MailTables.fsextEntries, hT, hTable]
    constructor
    · intro hOff
      cases hOff
    · intro _
      exact hReady (by simpa using hNotFalse)
    · rw [hSame _ rfl]
      exact hFsext.fds
    · rw [hSame _ rfl]
      exact hFsext.data
    · rw [hSame _ rfl]
      exact hFsext.owned

theorem sound_openHandler
    {env : HandlerEnv}
    {file : Bytes}
    {mode : HandlerMode}
    {answer : Option (MailAnswer Fd)}
    {s s' : MailTables}
    (hSound : Sound s)
    (hRun : openHandler env file mode s = .ok (answer, s')) :
    Sound s' := by
  rcases openHandler_ok hRun with
    ⟨hInstalled, ⟨-, rfl, -⟩ | ⟨p, r, -, -, -,
      ⟨-, hOpen⟩ | ⟨-, hOpen⟩⟩⟩
  · exact hSound
  · rcases openForWriting_ok hOpen with
      ⟨-, rfl⟩ | ⟨i, me, hFree, hNew, -, rfl⟩
    · exact hSound
    · exact ⟨hSound.1.of_same ⟨rfl, rfl, rfl, rfl, rfl⟩,
        hSound.2.addFsext hInstalled
          (Slots.firstFree_some hFree) hNew⟩
  · cases openForReading_ok hSound.1 hOpen with
    | badName => exact hSound
    | refused _ hCreate =>
        rcases mailslotCreate_sound hSound.1 hCreate with
          ⟨hSlots, hSame⟩
        exact ⟨hSlots, hSound.2.of_same hSame⟩
    | lost _ hCreate =>
        rcases mailslotCreate_sound hSound.1 hCreate with
          ⟨hSlots, hSame⟩
        exact ⟨hSlots, hSound.2.of_same hSame⟩
    | opened _ hCreate hFree _ _ hNew =>
        rcases mailslotCreate_sound hSound.1 hCreate with
          ⟨hSlots, hSame⟩
        refine ⟨hSlots.of_same ⟨rfl, rfl, rfl, rfl, rfl⟩,
          (hSound.2.of_same hSame).addFsext ?_ ?_ ?_⟩
        · rw [hSame.fsextInited]
          exact hInstalled
        · rw [hSame.fsext]
          exact Slots.firstFree_some hFree
        · rw [hSame.descriptors]
          exact hNew

theorem sound_closeHandler
    {env : DestroyEnv}
    {fd : Fd}
    {r : MailAnswer Unit}
    {s s' : MailTables}
    (hSound : Sound s)
    (hRun : closeHandler env fd s = .ok (r, s')) :
    Sound s' := by
  rcases closeHandler_ok hSound.1 hSound.2 hRun with
    ⟨-, i, me, t, rfl, hData, hTaken, -, hReleases, rfl⟩
  rcases hReleases.sound hSound.1 with ⟨hSlots, hSame⟩
  have hInstalled : s.fsextInited = true := by
    cases hInited : s.fsextInited with
    | true => rfl
    | false =>
        have hMember := Slots.mem_entries_of_getElem? hTaken
        rw [hSound.2.idle hInited, Slots.entries_replicate]
          at hMember
        cases hMember
  refine ⟨hSlots.of_same ⟨rfl, rfl, rfl, rfl, rfl⟩, ?_⟩
  apply (hSound.2.clearFsext hInstalled hTaken).of_same
  refine ⟨hSame.fsextInited, ?_, hSame.descriptors,
    hSame.inited⟩
  simp [MailTables.clearFsext, hSame.fsext]

/- A call that finishes leaves the tables sound. -/
theorem sound_step
    {call : MailCall}
    {ok : Bool}
    {s s' : MailTables}
    (hSound : Sound s)
    (hRun : call.exec s = .ok (ok, s')) :
    Sound s' := by
  cases call with
  | install env =>
      rcases sound_install hSound hRun with
        ⟨s₀, -, hSlots, hFsext, -⟩
      exact ⟨hSlots, hFsext⟩
  | create env name len =>
      rcases bind_eq_ok.mp hRun with
        ⟨r, t, hCreate, hReturn⟩
      cases hReturn
      rcases mailslotCreate_sound hSound.1 hCreate with
        ⟨hSlots, hSame⟩
      exact ⟨hSlots, hSound.2.of_same hSame⟩
  | destroy env handle =>
      rcases bind_eq_ok.mp hRun with
        ⟨r, t, hDestroy, hReturn⟩
      cases hReturn
      rcases (mailslotDestroy_ok hSound.1 hDestroy).sound
          hSound.1 with ⟨hSlots, hSame⟩
      exact ⟨hSlots, hSound.2.of_same hSame⟩
  | openFile env file mode =>
      rcases bind_eq_ok.mp hRun with ⟨r, t, hOpen, hReturn⟩
      cases hReturn
      exact sound_openHandler hSound hOpen
  | close env fd =>
      rcases bind_eq_ok.mp hRun with ⟨r, t, hClose, hReturn⟩
      cases hReturn
      exact sound_closeHandler hSound hClose

theorem sound_of_reachable
    {ok : MailTables → MailCall → Prop}
    {s : MailTables}
    (hReach : mailSystem.ReachableUnder ok s) :
    Sound s := by
  apply hReach.invariant
  · intro t hInit
    rw [hInit]
    exact sound_start
  · intro t call t' hSound _ hStep
    rcases hStep with ⟨r, hRun⟩
    exact sound_step hSound hRun

end Libsocket
