import Libsocket.Mailslot

/-
  Which mailslot the path of an open leads to. An open for
  reading and one for writing meet when they lead to the
  same mailslot.

  Main declarations:
    * `Process.HasMailslot`
    * `Process.ReadsFrom`, `Process.WritesTo`
    * `readName`, `sendName`
    * `sendName_of_readName`, `length_eq_of_meet`
    * `openFile_readsFrom`, `openFile_writesTo`
    * `within_openFile`
-/

namespace Libsocket

open Command

------------------------------------------------------------
-- Open Mailslots
------------------------------------------------------------

namespace Process

/- The descriptor number is open on a mailslot. -/
def HasMailslot
    (s : Process)
    (fd : Fd)
    (me : MailslotFsext) : Prop :=
  s.fds fd =
    ⟨true, some .mailslotHandler, some (.mailslot me)⟩

/- A read of the number takes messages of a mailslot. -/
def ReadsFrom
    (s : Process)
    (fd : Fd)
    (m : Bytes) : Prop :=
  ∃ me, s.HasMailslot fd me ∧ me.handle = some m

/- A write to the number puts messages into a mailslot. -/
def WritesTo
    (s : Process)
    (fd : Fd)
    (m : Bytes) : Prop :=
  ∃ me name, s.HasMailslot fd me ∧ me.handle = none ∧
    me.name = some name ∧ m = backslashify name

/- The mailslot behind a number is one. -/
theorem HasMailslot.unique
    {s : Process}
    {fd : Fd}
    {me me' : MailslotFsext}
    (hMail : s.HasMailslot fd me)
    (hMail' : s.HasMailslot fd me') :
    me' = me := by
  unfold HasMailslot at hMail hMail'
  rw [hMail] at hMail'
  cases hMail'
  rfl

/- Only the table of descriptors matters. -/
theorem HasMailslot.of_fds
    {s s' : Process}
    {fd : Fd}
    {me : MailslotFsext}
    (hFds : s'.fds = s.fds)
    (hMail : s.HasMailslot fd me) :
    s'.HasMailslot fd me := by
  unfold HasMailslot at hMail ⊢
  rw [hFds, hMail]

theorem ReadsFrom.of_fds
    {s s' : Process}
    {fd : Fd}
    {m : Bytes}
    (hFds : s'.fds = s.fds)
    (hReads : s.ReadsFrom fd m) :
    s'.ReadsFrom fd m := by
  rcases hReads with ⟨me, hMail, hHandle⟩
  exact ⟨me, hMail.of_fds hFds, hHandle⟩

theorem WritesTo.of_fds
    {s s' : Process}
    {fd : Fd}
    {m : Bytes}
    (hFds : s'.fds = s.fds)
    (hWrites : s.WritesTo fd m) :
    s'.WritesTo fd m := by
  rcases hWrites with ⟨me, name, hMail, hRest⟩
  exact ⟨me, name, hMail.of_fds hFds, hRest⟩

theorem ReadsFrom.unique
    {s : Process}
    {fd : Fd}
    {m m' : Bytes}
    (hReads : s.ReadsFrom fd m)
    (hReads' : s.ReadsFrom fd m') :
    m' = m := by
  rcases hReads with ⟨me, hMail, hHandle⟩
  rcases hReads' with ⟨me', hMail', hHandle'⟩
  rw [hMail.unique hMail', hHandle] at hHandle'
  exact (Option.some.inj hHandle').symm

theorem WritesTo.unique
    {s : Process}
    {fd : Fd}
    {m m' : Bytes}
    (hWrites : s.WritesTo fd m)
    (hWrites' : s.WritesTo fd m') :
    m' = m := by
  rcases hWrites with ⟨me, name, hMail, -, hName, rfl⟩
  rcases hWrites' with ⟨me', name', hMail', -, hName', rfl⟩
  rw [hMail.unique hMail', hName] at hName'
  rw [Option.some.inj hName']

end Process

------------------------------------------------------------
-- Names
------------------------------------------------------------

/- The mailslot that an open for reading creates. -/
def readName (path : Bytes) : Option Bytes :=
  ((afterPrefix mailslotDev (slashify path)).bind
    (afterPrefix mailslotLocal)).map
      fun rest => backslashify (localName rest)

/- The mailslot that an open for writing leads to. -/
def sendName (path : Bytes) : Option Bytes :=
  (afterPrefix mailslotDev (slashify path)).map
    fun p => backslashify (writeName p)

theorem afterPrefix_append (front rest : Bytes) :
    afterPrefix front (front ++ rest) = some rest := by
  simp [afterPrefix]

theorem afterPrefix_eq_some
    {front text rest : Bytes}
    (hFound : afterPrefix front text = some rest) :
    text = front ++ rest := by
  unfold afterPrefix at hFound
  split at hFound
  next hPrefix =>
      cases hFound
      rw [List.isPrefixOf_iff_prefix] at hPrefix
      rcases hPrefix with ⟨tail, rfl⟩
      simp
  next => cases hFound

@[simp] theorem length_slashify (file : Bytes) :
    (slashify file).length = file.length :=
  List.length_map _

@[simp] theorem length_backslashify (name : Bytes) :
    (backslashify name).length = name.length :=
  List.length_map _

/- What follows the device in a local path. -/
theorem afterPrefix_local (x : Bytes) :
    afterPrefix mailslotDev (slashify (unixLocalPath ++ x)) =
      some (bytes "local" ++ slashify x) := by
  have hShape : slashify (unixLocalPath ++ x) =
      mailslotDev ++ (bytes "local" ++ slashify x) := by
    unfold slashify
    rw [List.map_append]
    rfl
  rw [hShape, afterPrefix_append]

/- A path that can be read from stands below the device. -/
theorem afterPrefix_local_rest
    {x rest : Bytes}
    (hFound : afterPrefix mailslotLocal
      (bytes "local" ++ slashify x) = some rest) :
    slashify x = slash :: rest := by
  have hShape := afterPrefix_eq_some hFound
  have hSplit : mailslotLocal ++ rest =
      bytes "local" ++ slash :: rest := rfl
  rw [hSplit] at hShape
  exact List.append_cancel_left hShape

/- Who writes to a path that is read reaches the reader. -/
theorem sendName_of_readName
    {path m : Bytes}
    (hRead : readName path = some m) :
    sendName path = some m := by
  unfold readName at hRead
  rcases Option.map_eq_some_iff.mp hRead with
    ⟨rest, hFound, rfl⟩
  rcases Option.bind_eq_some_iff.mp hFound with
    ⟨p, hDev, hLocal⟩
  unfold sendName
  rw [hDev, Option.map_some, writeName, hLocal]

theorem readName_length
    {x m : Bytes}
    (hRead : readName (unixLocalPath ++ x) = some m) :
    m.length = x.length + 9 ∧
      m[1]? = some 109 := by
  unfold readName at hRead
  rw [afterPrefix_local, Option.bind_some] at hRead
  rcases Option.map_eq_some_iff.mp hRead with
    ⟨rest, hFound, rfl⟩
  have hLength :=
    congrArg List.length (afterPrefix_local_rest hFound)
  constructor
  · simp only [length_slashify, List.length_cons] at hLength
    rw [length_backslashify, localName, List.length_append,
      hLength]
    have hFront : (bytes "/mailslot/").length = 10 := rfl
    omega
  · rfl

/-
  A local path that does not go on with a separator leads to
  another machine.
-/
theorem sendName_remote
    {x m : Bytes}
    (hLocal : afterPrefix mailslotLocal
      (bytes "local" ++ slashify x) = none)
    (hSend : sendName (unixLocalPath ++ x) = some m) :
    m[1]? = some backslash := by
  unfold sendName at hSend
  rw [afterPrefix_local, Option.map_some] at hSend
  have hCast : afterPrefix mailslotBroadcast
      (bytes "local" ++ slashify x) = none := rfl
  rw [writeName, hLocal, hCast] at hSend
  dsimp only at hSend
  split at hSend
  · cases hSend
    rfl
  · cases hSend
    rfl

/- Local paths that meet are equally long. -/
theorem length_eq_of_meet
    {x y m : Bytes}
    (hRead : readName (unixLocalPath ++ x) = some m)
    (hSend : sendName (unixLocalPath ++ y) = some m) :
    x.length = y.length := by
  rcases readName_length hRead with ⟨hLength, hByte⟩
  cases hLocal : afterPrefix mailslotLocal
      (bytes "local" ++ slashify y) with
  | none =>
      rw [sendName_remote hLocal hSend] at hByte
      cases hByte
  | some rest =>
      have hReadY : readName (unixLocalPath ++ y) =
          some m := by
        rw [← hSend]
        unfold readName sendName
        rw [afterPrefix_local, Option.bind_some, hLocal,
          Option.map_some, Option.map_some, writeName,
          hLocal]
      have hLengthY := (readName_length hReadY).1
      omega

------------------------------------------------------------
-- Opening
------------------------------------------------------------

/- A mailslot that opens has its data from the start. -/
theorem openMailslot_has
    {env : OpenEnv}
    {me : MailslotFsext}
    {s s' : Process}
    {fd : Fd}
    (hRun : openMailslot env me s = .ok (fd, s'))
    (hOpen : fd ≠ -1) :
    (s.fds fd).dosOpen = false ∧
      s' = s.setEntry fd
        ⟨true, some .mailslotHandler, some (.mailslot me)⟩ := by
  rcases bind_eq_ok.mp hRun with ⟨n, t, hAlloc, hTail⟩
  rcases allocFd_ok hAlloc with
    ⟨rfl, rfl⟩ | ⟨-, hLow, hFree, rfl⟩
  · rw [if_pos rfl] at hTail
    cases hTail
    exact absurd rfl hOpen
  · have hNe : n ≠ -1 := by
      rintro rfl
      exact absurd hLow (by decide)
    rw [if_neg hNe] at hTail
    cases hTail
    refine ⟨hFree, ?_⟩
    simp only [Process.fds_setEntry, Function.update_self,
      Process.setEntry_setEntry]

/- A mailslot that does not open leaves the files alone. -/
theorem openMailslot_failed
    {env : OpenEnv}
    {me : MailslotFsext}
    {s s' : Process}
    (hRun : openMailslot env me s = .ok (-1, s')) :
    s' = { s with errno := env.errno } := by
  rcases bind_eq_ok.mp hRun with ⟨n, t, hAlloc, hTail⟩
  rcases allocFd_ok hAlloc with
    ⟨rfl, rfl⟩ | ⟨-, hLow, -, rfl⟩
  · rw [if_pos rfl] at hTail
    cases hTail
    rfl
  · have hNe : n ≠ -1 := by
      rintro rfl
      exact absurd hLow (by decide)
    rw [if_neg hNe] at hTail
    cases hTail
    exact absurd rfl hNe

/-
  An open for reading creates the mailslot that it names, and
  that is empty.
-/
theorem openFile_creates
    {env : OpenEnv}
    {x : Bytes}
    {s s' : Process}
    {fd : Fd}
    (hRun : openFile env (unixLocalPath ++ x) .rdonly s =
      .ok (fd, s'))
    (hOpen : fd ≠ -1) :
    ∃ m, readName (unixLocalPath ++ x) = some m ∧
      s'.HasMailslot fd ⟨some m, none, true, false⟩ ∧
      s'.mail m = [] := by
  unfold openFile at hRun
  rw [afterPrefix_local] at hRun
  dsimp only at hRun
  cases hLocal : afterPrefix mailslotLocal
      (bytes "local" ++ slashify x) with
  | none =>
      rw [hLocal] at hRun
      cases hRun
      exact absurd rfl hOpen
  | some rest =>
      simp only [hLocal] at hRun
      rcases bind_eq_ok.mp hRun with ⟨name, t, hFits, hTail⟩
      have hName : name = localName rest := by
        unfold fits at hFits
        split at hFits <;> cases hFits
        rfl
      rcases bind_eq_ok.mp hTail with ⟨n, u, hMail, hLast⟩
      rcases bind_eq_ok.mp hLast with ⟨_, v, hQueue, hPure⟩
      cases hPure
      rw [when, if_pos hOpen] at hQueue
      cases hQueue
      rcases openMailslot_has hMail hOpen with ⟨-, rfl⟩
      refine ⟨backslashify name, ?_, ?_, ?_⟩
      · unfold readName
        rw [afterPrefix_local, Option.bind_some, hLocal,
          Option.map_some, hName]
      · exact Function.update_self _ _ _
      · exact Function.update_self _ _ _

/- An open for reading reads from the mailslot it names. -/
theorem openFile_readsFrom
    {env : OpenEnv}
    {x : Bytes}
    {s s' : Process}
    {fd : Fd}
    (hRun : openFile env (unixLocalPath ++ x) .rdonly s =
      .ok (fd, s'))
    (hOpen : fd ≠ -1) :
    ∃ m, readName (unixLocalPath ++ x) = some m ∧
      s'.ReadsFrom fd m := by
  rcases openFile_creates hRun hOpen with
    ⟨m, hName, hMail, -⟩
  exact ⟨m, hName, _, hMail, rfl⟩

/- An open for writing gives a descriptor that blocks. -/
theorem openFile_writer
    {env : OpenEnv}
    {x : Bytes}
    {s s' : Process}
    {fd : Fd}
    (hRun : openFile env (unixLocalPath ++ x) .wronly s =
      .ok (fd, s'))
    (hOpen : fd ≠ -1) :
    s'.HasMailslot fd
      ⟨none, some (writeName (bytes "local" ++ slashify x)),
        true, false⟩ := by
  unfold openFile at hRun
  rw [afterPrefix_local] at hRun
  rcases bind_eq_ok.mp hRun with ⟨name, t, hFits, hMail⟩
  rcases fits_ok hFits with ⟨rfl, rfl, -⟩
  rcases openMailslot_has hMail hOpen with ⟨-, rfl⟩
  exact Function.update_self _ _ _

/- An open for writing writes to the mailslot it names. -/
theorem openFile_writesTo
    {env : OpenEnv}
    {x : Bytes}
    {s s' : Process}
    {fd : Fd}
    (hRun : openFile env (unixLocalPath ++ x) .wronly s =
      .ok (fd, s'))
    (hOpen : fd ≠ -1) :
    ∃ m, sendName (unixLocalPath ++ x) = some m ∧
      s'.WritesTo fd m := by
  refine ⟨_, ?_, _, _, openFile_writer hRun hOpen, rfl, rfl,
    rfl⟩
  unfold sendName
  rw [afterPrefix_local, Option.map_some]

------------------------------------------------------------
-- Whatever An Open Keeps
------------------------------------------------------------

/-
  A relation that holds for a new error number, an entry in
  place of a closed one and the mailslot that is created
  empty holds for an open.
-/
theorem within_openFile
    {env : OpenEnv}
    {path : Bytes}
    {mode : OpenMode}
    {R : Process → Process → Prop}
    (hRefl : ∀ s, R s s)
    (hTrans : ∀ s t u, R s t → R t u → R s u)
    (hErrno : ∀ s e, R s { s with errno := e })
    (hEntry : ∀ s fd e, (s.fds fd).dosOpen = false →
      R s (s.setEntry fd e))
    (hEmpty : ∀ s m, mode = .rdonly → readName path = some m →
      R s (s.setMail m [])) :
    Within R (openFile env path mode) := by
  have hFail : ∀ e, Within R (fail e) :=
    fun e => Within.bind hTrans
      (Within.modify fun s => hErrno s e)
      fun _ => Within.pure hRefl _
  have hOpen : ∀ me, Within R (openMailslot env me) := by
    intro me s fd t hRun
    by_cases hFd : fd = -1
    · subst hFd
      rw [openMailslot_failed hRun]
      exact hErrno s _
    · rcases openMailslot_has hRun hFd with ⟨hFree, rfl⟩
      exact hEntry s fd _ hFree
  have hFits : ∀ x, Within R (fits maxPath x) :=
    fun x => (reads_fits _ x).within hRefl
  unfold openFile
  cases hDev : afterPrefix mailslotDev (slashify path) with
  | none =>
      dsimp only
      unfold openOther
      apply Within.get_bind
      intro s fd t hRun
      cases hNumber : env.number with
      | none =>
          rw [hNumber] at hRun
          exact hFail _ s fd t hRun
      | some n =>
          rw [hNumber] at hRun
          dsimp only at hRun
          by_cases hFree : 0 ≤ n ∧ (s.fds n).dosOpen = false
          · rw [if_pos hFree] at hRun
            cases hRun
            exact hEntry s fd _ hFree.2
          · rw [if_neg hFree] at hRun
            exact hFail _ s fd t hRun
  | some p =>
      cases mode with
      | wronly =>
          apply Within.bind hTrans (hFits _)
          exact fun name => hOpen _
      | rdonly =>
          dsimp only
          cases hLocal : afterPrefix mailslotLocal p with
          | none => exact hFail _
          | some rest =>
              dsimp only
              intro s fd t hRun
              rcases bind_eq_ok.mp hRun with
                ⟨name, t₁, hName, hTail⟩
              have hCopy := (fits_ok hName).2.1
              have hCreated : readName path =
                  some (backslashify name) := by
                unfold readName
                rw [hDev, Option.bind_some, hLocal,
                  Option.map_some, hCopy]
              have hRest : Within R (do
                  let fd ← openMailslot env
                    ⟨some (backslashify name), none, true,
                      false⟩
                  when (fd ≠ -1) (modify fun s =>
                    s.setMail (backslashify name) [])
                  return fd : Exec Fd) := by
                apply Within.bind hTrans (hOpen _)
                intro fd
                apply Within.bind hTrans
                · apply Within.when hRefl
                  apply Within.modify
                  exact fun s => hEmpty s _ rfl hCreated
                · exact fun _ => Within.pure hRefl _
              exact hTrans _ _ _ (hFits _ _ _ _ hName)
                (hRest _ _ _ hTail)

end Libsocket
