import Libsocket.MailslotTable.Run

/-
  Closing a mailslot descriptor, and the empty slots that its
  look-ups may meet.

  A look-up reads every slot up to the entry it wants. It
  goes through exactly if none of them is empty, and then it
  takes out that entry and no other.

  Main declarations:
    * `MailTables.ScanClear`
    * `ClosesExactly`, `DestroysExactly`
    * `closes_exactly_iff`
    * `close_meets_empty_slot`
-/

namespace Libsocket

open Command

------------------------------------------------------------
-- Exact Removal
------------------------------------------------------------

/- LAN Manager deletes the mailslot of a handle. -/
def MailTables.Deletes
    (s : MailTables)
    (env : DestroyEnv)
    (handle : Nat) : Prop :=
  env.deleted = true ∧ handle ∈ s.mailslots

instance
    (s : MailTables)
    (env : DestroyEnv)
    (handle : Nat) :
    Decidable (s.Deletes env handle) := by
  unfold MailTables.Deletes
  infer_instance

/- The table of mailslots once a handle has been let go. -/
def MailTables.slotsWithout
    (s : MailTables)
    (env : DestroyEnv)
    (handle : Nat) : List (Option MailslotEntry) :=
  if s.Deletes env handle then
    Slots.without MailslotEntry.handle handle s.slots
  else
    s.slots

/-
  No look-up of the close meets an empty slot in front of
  the entry that it wants.
-/
def MailTables.ScanClear
    (s : MailTables)
    (env : DestroyEnv)
    (me : FsextEntry) : Prop :=
  Slots.Unbroken FsextEntry.fd me.fd s.fsext ∧
    ∀ h, me.handle = some h → s.Deletes env h →
      Slots.Unbroken MailslotEntry.handle h s.slots

/-
  The close goes through, takes out the entries of the
  descriptor, and leaves all others as they were.
-/
def ClosesExactly
    (env : DestroyEnv)
    (me : FsextEntry)
    (s : MailTables) : Prop :=
  ∃ s', closeHandler env me.fd s = .ok (.ok (), s') ∧
    s'.fsext = Slots.without FsextEntry.fd me.fd s.fsext ∧
    s'.slots =
      match me.handle with
      | none => s.slots
      | some h => s.slotsWithout env h

/- The same for a deletion of its own. -/
def DestroysExactly
    (env : DestroyEnv)
    (handle : Nat)
    (s : MailTables) : Prop :=
  ∃ r s', mailslotDestroy env (some handle) s =
      .ok (r, s') ∧
    s'.slots = s.slotsWithout env handle

------------------------------------------------------------
-- Deletions
------------------------------------------------------------

/- A deletion runs, unless it meets an empty slot. -/
theorem mailslotDestroy_total
    {env : DestroyEnv}
    {h : Nat}
    {s : MailTables}
    (hSound : SlotsSound s)
    (hInited : s.inited = true)
    (hClear : s.Deletes env h →
      Slots.Unbroken MailslotEntry.handle h s.slots) :
    ∃ r s', mailslotDestroy env (some h) s = .ok (r, s') := by
  by_cases hDeletes : s.Deletes env h
  · rcases mailslotDestroy_deleted hSound hDeletes.1
        hDeletes.2 with
      ⟨hHole, -⟩ | ⟨-, r, s', hRun, -⟩
    · exact absurd (hClear hDeletes) hHole
    · exact ⟨r, s', hRun⟩
  · have hRun := mailslotDestroy_run hInited env h
    unfold MailTables.Deletes at hDeletes
    rw [if_neg hDeletes] at hRun
    exact ⟨_, _, hRun⟩

/- What a deletion leaves of the table. -/
theorem Destroys.slotsWithout
    {env : DestroyEnv}
    {h : Nat}
    {r : MailAnswer Unit}
    {s s' : MailTables}
    (hDestroys : Destroys env (some h) s r s')
    (hSound : SlotsSound s) :
    s'.slots = s.slotsWithout env h ∧
      (s.Deletes env h →
        Slots.Unbroken MailslotEntry.handle h s.slots) := by
  unfold MailTables.slotsWithout
  cases hDestroys with
  | refused hInit _ hKept =>
      have hNot : ¬ s.Deletes env h := hKept h rfl
      rw [if_neg hNot]
      exact ⟨hInit.slots, fun hYes => absurd hYes hNot⟩
  | absent hHandle hDeleted hMem hBroken hAbsent =>
      cases hHandle
      have hYes : s.Deletes env h := ⟨hDeleted, hMem⟩
      rw [if_pos hYes]
      constructor
      · exact (Slots.without_of_absent hAbsent).symm
      · exact fun _ => hBroken
  | found hHandle hDeleted hMem hBroken hTaken =>
      cases hHandle
      rw [if_pos ⟨hDeleted, hMem⟩]
      constructor
      · exact Slots.set_none_eq_without hSound.handles
          hTaken rfl
      · exact fun _ => hBroken

theorem destroys_exactly_iff
    {env : DestroyEnv}
    {h : Nat}
    {s : MailTables}
    (hSound : SlotsSound s)
    (hInited : s.inited = true) :
    DestroysExactly env h s ↔
      (s.Deletes env h →
        Slots.Unbroken MailslotEntry.handle h s.slots) := by
  constructor
  · rintro ⟨r, s', hRun, -⟩
    exact ((mailslotDestroy_ok hSound hRun).slotsWithout
      hSound).2
  · intro hClear
    rcases mailslotDestroy_total hSound hInited hClear with
      ⟨r, s', hRun⟩
    exact ⟨r, s', hRun, ((mailslotDestroy_ok hSound
      hRun).slotsWithout hSound).1⟩

------------------------------------------------------------
-- Closes
------------------------------------------------------------

/- A close runs, unless it meets an empty slot. -/
theorem closeHandler_total
    {env : DestroyEnv}
    {me : FsextEntry}
    {s : MailTables}
    (hSound : Sound s)
    (hData : s.descriptors me.fd = some (some me))
    (hClear : s.ScanClear env me) :
    ∃ r s', closeHandler env me.fd s = .ok (r, s') := by
  have hDrop : ∀ t : MailTables, t.fsext = s.fsext →
      ∃ s', dropDescriptor me.fd t = .ok ((), s') := by
    intro t hFsext
    rcases dropDescriptor_run t me.fd with
      ⟨hHole, -⟩ | ⟨-, -, hRun⟩ | ⟨-, i, other, -, -, hRun⟩
    · rw [hFsext] at hHole
      exact absurd hClear.1 hHole
    · exact ⟨_, hRun⟩
    · exact ⟨_, hRun⟩
  rcases hSound.2.data me.fd _ hData with
    ⟨other, hOther, -, hMember⟩
  cases hOther
  have hInited : s.inited = true := by
    cases hInstalled : s.fsextInited with
    | true => exact hSound.2.inited hInstalled
    | false =>
        rw [MailTables.fsextEntries,
          hSound.2.idle hInstalled, Slots.entries_replicate]
          at hMember
        cases hMember
  unfold closeHandler
  rw [run_bind_ok (run_get s), hData]
  dsimp only
  rw [run_bind_ok (run_modify _ s)]
  cases hHandle : me.handle with
  | none =>
      rcases hDrop (s.release me.fd) rfl with ⟨s', hRun⟩
      exact ⟨.ok (), s', run_bind_ok hRun⟩
  | some h =>
      rcases mailslotDestroy_total
          (hSound.1.release me.fd) hInited
          (hClear.2 h hHandle) with ⟨r, t, hDestroy⟩
      have hSame := ((mailslotDestroy_ok
        (hSound.1.release me.fd) hDestroy).sound
          (hSound.1.release me.fd)).2
      rcases hDrop t hSame.fsext with ⟨s', hRun⟩
      exact ⟨.ok (), s', (run_bind_ok hDestroy).trans
        (run_bind_ok hRun)⟩

/- What a close leaves of both tables. -/
theorem closeHandler_tables
    {env : DestroyEnv}
    {me : FsextEntry}
    {r : MailAnswer Unit}
    {s s' : MailTables}
    (hSound : Sound s)
    (hData : s.descriptors me.fd = some (some me))
    (hRun : closeHandler env me.fd s = .ok (r, s')) :
    r = .ok () ∧
      s'.fsext =
        Slots.without FsextEntry.fd me.fd s.fsext ∧
      s'.slots =
        (match me.handle with
        | none => s.slots
        | some h => s.slotsWithout env h) ∧
      s.ScanClear env me := by
  rcases closeHandler_ok hSound.1 hSound.2 hRun with
    ⟨hReturn, i, other, t, -, hOther, hTaken, hBroken,
      hReleases, rfl⟩
  rw [hData] at hOther
  cases hOther
  have hFsext : (t.clearFsext i).fsext =
      Slots.without FsextEntry.fd me.fd s.fsext := by
    have hSame := (hReleases.sound hSound.1).2.fsext
    calc (t.clearFsext i).fsext
      _ = s.fsext.set i none := by
          simp [MailTables.clearFsext, hSame,
            MailTables.release]
      _ = Slots.without FsextEntry.fd me.fd s.fsext :=
          Slots.set_none_eq_without hSound.2.fds hTaken rfl
  refine ⟨hReturn, hFsext, ?_, hBroken, ?_⟩
  · cases hReleases with
    | writing hHandle =>
        rw [hHandle]
        rfl
    | reading hHandle hDestroys =>
        rw [hHandle]
        exact (hDestroys.slotsWithout
          (hSound.1.release me.fd)).1
  · intro h hHandle
    cases hReleases with
    | writing hNone =>
        rw [hNone] at hHandle
        cases hHandle
    | reading hSome hDestroys =>
        rw [hSome] at hHandle
        cases hHandle
        exact (hDestroys.slotsWithout
          (hSound.1.release me.fd)).2

/-
  In every state that a run reaches, the close of an open
  descriptor and the deletion of a mailslot find and remove
  exactly their entries, if and only if no empty slot comes
  in front of them.
-/
theorem closes_exactly_iff
    {s : MailTables}
    (hReach : mailSystem.Reachable s) :
    (∀ (env : DestroyEnv) (me : FsextEntry),
      s.descriptors me.fd = some (some me) →
        (ClosesExactly env me s ↔ s.ScanClear env me)) ∧
      ∀ (env : DestroyEnv) (h : Nat), h ∈ s.mailslots →
        (DestroysExactly env h s ↔
          (s.Deletes env h →
            Slots.Unbroken MailslotEntry.handle h
              s.slots)) := by
  have hSound := sound_of_reachable hReach
  constructor
  · intro env me hData
    constructor
    · rintro ⟨s', hRun, -⟩
      exact (closeHandler_tables hSound hData hRun).2.2.2
    · intro hClear
      rcases closeHandler_total hSound hData hClear with
        ⟨r, s', hRun⟩
      rcases closeHandler_tables hSound hData hRun with
        ⟨rfl, hFsext, hSlots, -⟩
      exact ⟨s', hRun, hFsext, hSlots⟩
  · intro env h hMem
    exact destroys_exactly_iff hSound.1
      (hSound.1.inited_of_mem hMem)

------------------------------------------------------------
-- Closing In The Order Of Opening
------------------------------------------------------------

/- DOS and the library grant everything. -/
def InitEnv.granting : InitEnv where
  lanManager := true
  transfer := some ⟨1, 1⟩

def DestroyEnv.granting : DestroyEnv where
  init := .granting
  deleted := true
  errno := .zero

def CreateEnv.granting (sel handle : Nat) : CreateEnv where
  init := .granting
  buffer := some ⟨sel, sel⟩
  handle := .ok handle
  memory := true
  nameCopied := true

def HandlerEnv.granting
    (number : Fd)
    (sel handle : Nat) : HandlerEnv where
  create := .granting sel handle
  fileCopied := true
  number := some number
  memory := true
  nameCopied := true

/- Two mailslots are opened for reading. -/
def openTwo : List MailCall :=
  [.install .granting,
    .openFile (.granting 5 2 7)
      (bytes "/dev/mailslot/local/a") .rdonly,
    .openFile (.granting 6 3 8)
      (bytes "/dev/mailslot/local/b") .rdonly]

/- What the extension stores about the second of them. -/
def secondEntry : FsextEntry where
  fd := 6
  handle := some 8
  name := none
  blocking := true
  peeking := false

/- A run of calls and a check of the state it reaches. -/
theorem exists_mailTables
    (calls : List MailCall)
    (check : MailTables → Bool)
    (hCheck : (TransitionSystem.runUnder MailCall.exec
      (fun _ _ => true) calls .start).any check = true) :
    ∃ s, mailSystem.Reachable s ∧ check s = true := by
  rcases (Option.any_eq_true _ _).mp hCheck with
    ⟨s, hRun, hHolds⟩
  exact ⟨s, TransitionSystem.reachableUnder_of_runUnder
    (fun _ _ _ => trivial) (.init rfl) hRun, hHolds⟩

/- The descriptor opened last can be closed exactly. -/
theorem closes_last_exactly :
    ∃ (s : MailTables) (me : FsextEntry),
      mailSystem.Reachable s ∧
        s.descriptors me.fd = some (some me) ∧
        ClosesExactly .granting me s := by
  rcases exists_mailTables openTwo (fun s =>
    s.descriptors secondEntry.fd ==
      some (some secondEntry) &&
    (closeHandler .granting secondEntry.fd s).isOk)
    (by decide +kernel) with ⟨s, hReach, hAll⟩
  simp only [Bool.and_eq_true, beq_iff_eq] at hAll
  rcases hAll with ⟨hData, hOk⟩
  cases hRun : closeHandler .granting secondEntry.fd s with
  | error e => simp [hRun, Except.isOk, Except.toBool] at hOk
  | ok next =>
      have hClear := (closeHandler_tables
        (sound_of_reachable hReach) hData hRun).2.2.2
      exact ⟨s, _, hReach, hData,
        ((closes_exactly_iff hReach).1 _ _ hData).mpr hClear⟩

/-
  The descriptors are closed in the order of opening: the
  second close reads the slot that the first has emptied.
-/
theorem close_meets_empty_slot :
    ∃ (s : MailTables) (me : FsextEntry),
      mailSystem.Reachable s ∧
        s.descriptors me.fd = some (some me) ∧
        closeHandler .granting me.fd s = .error .nullSlot ∧
        ¬ ClosesExactly .granting me s := by
  rcases exists_mailTables (openTwo ++ [.close .granting 5])
    (fun s =>
      s.descriptors secondEntry.fd ==
        some (some secondEntry) &&
      match closeHandler .granting secondEntry.fd s with
      | .error e => e == .nullSlot
      | .ok _ => false)
    (by decide +kernel) with ⟨s, hReach, hAll⟩
  simp only [Bool.and_eq_true, beq_iff_eq] at hAll
  rcases hAll with ⟨hData, hStop⟩
  cases hRun : closeHandler .granting secondEntry.fd s with
  | ok next => simp [hRun] at hStop
  | error e =>
      have hNull : e = .nullSlot := by
        simpa [hRun] using hStop
      subst hNull
      refine ⟨s, _, hReach, hData, hRun, ?_⟩
      rintro ⟨s', hOk, -⟩
      rw [hRun] at hOk
      cases hOk

end Libsocket
