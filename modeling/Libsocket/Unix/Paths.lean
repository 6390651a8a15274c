import Libsocket.Library.Avoid
import Libsocket.Unix.Names

/-
  The strings that name mailslots, and the buffers they are
  built in.

  A path that is longer than its buffer runs over the end of
  it, which the model has as a fault; nothing is measured
  before.

  Main declarations:
    * `OpenFits`, `avoids_openFile`
    * `NameFits`, `avoids_unixBind_iff`
    * `avoids_readFd`, `avoids_writeFd`, `avoids_closeFd`
-/

namespace Libsocket

open Command

------------------------------------------------------------
-- Strings
------------------------------------------------------------

theorem avoids_fits
    {size : Nat}
    {text : Bytes}
    {s : Process} :
    Avoids .fault (fits size text) s ↔ text.length < size := by
  unfold fits
  by_cases hFits : text.length < size
  · simp [hFits]
  · simp [hFits, fault]

theorem avoids_readString
    {buffer : Bytes}
    {s : Process} :
    Avoids .fault (readString buffer) s ↔
      ∃ text, CString.read? buffer = some text := by
  unfold readString
  cases hRead : CString.read? buffer with
  | none => simp [fault]
  | some text => simp

theorem avoids_copyInto
    {buffer text : Bytes}
    {s : Process} :
    Avoids .fault (copyInto buffer text) s ↔
      text.length < buffer.length := by
  unfold copyInto
  by_cases hFits : text.length < buffer.length
  · simp [hFits]
  · simp [hFits, fault]

theorem avoids_fail (e : Errno) (s : Process) :
    Avoids .fault (fail e) s :=
  avoids_of_ok (rfl :
    fail e s = .ok (-1, { s with errno := e }))

------------------------------------------------------------
-- Opening
------------------------------------------------------------

/- The name of a mailslot that an open builds, if any. -/
def openName (path : Bytes) (mode : OpenMode) : Option Bytes :=
  match afterPrefix mailslotDev (slashify path) with
  | none => none
  | some p =>
      match mode with
      | .wronly => some (writeName p)
      | .rdonly => (afterPrefix mailslotLocal p).map localName

/- It fits `newname`. -/
def OpenFits (path : Bytes) (mode : OpenMode) : Prop :=
  ∀ name, openName path mode = some name →
    name.length < maxPath

theorem avoids_openMailslot
    (env : OpenEnv)
    (me : MailslotFsext)
    (s : Process) :
    Avoids .fault (openMailslot env me) s := by
  unfold openMailslot allocFd
  apply Avoids.bind
  · rw [avoids_bind_ok (run_get s)]
    cases env.number with
    | none => exact avoids_pure _
    | some fd =>
        apply Avoids.ite
        · intro _
          exact (avoids_modify _).bind
            fun _ _ _ => avoids_pure _
        · exact fun _ => avoids_pure _
  · intro fd t _
    apply Avoids.ite
    · exact fun _ => avoids_fail _ _
    · intro _
      exact (avoids_modify _).bind fun _ _ _ => avoids_pure _

theorem avoids_openOther (env : OpenEnv) (s : Process) :
    Avoids .fault (openOther env) s := by
  unfold openOther
  rw [avoids_bind_ok (run_get s)]
  cases env.number with
  | none => exact avoids_fail _ _
  | some fd =>
      apply Avoids.ite
      · intro _
        exact (avoids_modify _).bind fun _ _ _ => avoids_pure _
      · exact fun _ => avoids_fail _ _

/- The open case of the mailslot extension. -/
theorem avoids_openFile
    {env : OpenEnv}
    {path : Bytes}
    {mode : OpenMode}
    {s : Process} :
    Avoids .fault (openFile env path mode) s ↔
      OpenFits path mode := by
  unfold openFile OpenFits openName
  cases afterPrefix mailslotDev (slashify path) with
  | none => simpa using avoids_openOther env s
  | some p =>
      cases mode with
      | wronly =>
          dsimp only
          simp only [Option.some.injEq, forall_eq']
          rw [avoids_bind, avoids_fits]
          constructor
          · exact And.left
          · exact fun hFits => ⟨hFits,
              fun _ t _ => avoids_openMailslot _ _ t⟩
      | rdonly =>
          dsimp only
          cases afterPrefix mailslotLocal p with
          | none => simpa using avoids_fail Errno.EINVAL s
          | some rest =>
              dsimp only
              simp only [Option.map_some, Option.some.injEq,
                forall_eq']
              rw [avoids_bind, avoids_fits]
              constructor
              · exact And.left
              · intro hFits
                constructor
                · exact hFits
                · intro name t _
                  apply (avoids_openMailslot _ _ t).bind
                  intro fd u _
                  apply Avoids.bind
                  · exact Avoids.when fun _ => avoids_modify _
                  · exact fun _ _ _ => avoids_pure _

theorem length_localName (rest : Bytes) :
    (localName rest).length = 10 + rest.length := by
  rw [localName, List.length_append]
  rfl

/- What a name behind the device grows by. -/
theorem length_writeName (p : Bytes) :
    (writeName p).length ≤ p.length + 11 := by
  unfold writeName
  cases hLocal : afterPrefix mailslotLocal p with
  | some rest =>
      have hLength := congrArg List.length
        (afterPrefix_eq_some hLocal)
      have hFront : mailslotLocal.length = 6 := rfl
      rw [List.length_append] at hLength
      rw [length_localName]
      omega
  | none =>
      dsimp only
      cases hCast : afterPrefix mailslotBroadcast p with
      | some rest =>
          have hLength := congrArg List.length
            (afterPrefix_eq_some hCast)
          have hFront : mailslotBroadcast.length = 6 := rfl
          have hNew : (bytes "//*/mailslot/").length = 13 := rfl
          rw [List.length_append] at hLength
          rw [List.length_append]
          omega
      | none =>
          have hWhole := congrArg List.length
            (List.takeWhile_append_dropWhile
              (p := fun b => b != slash) (l := p))
          have hFront : (bytes "//").length = 2 := rfl
          have hMiddle : (bytes "/mailslot").length = 9 := rfl
          rw [List.length_append] at hWhole
          dsimp only
          split
          · simp only [List.length_append]
            omega
          · simp only [List.length_append]
            omega

/- The name that an open builds is shorter than the path. -/
theorem length_openName
    {path name : Bytes}
    {mode : OpenMode}
    (hName : openName path mode = some name) :
    name.length < path.length := by
  unfold openName at hName
  cases hDev : afterPrefix mailslotDev (slashify path) with
  | none =>
      rw [hDev] at hName
      cases hName
  | some p =>
      rw [hDev] at hName
      have hPath : path.length = 14 + p.length := by
        have hShape := congrArg List.length
          (afterPrefix_eq_some hDev)
        rw [length_slashify, List.length_append] at hShape
        exact hShape
      cases mode with
      | wronly =>
          cases hName
          have hLess := length_writeName p
          omega
      | rdonly =>
          rcases Option.map_eq_some_iff.mp hName with
            ⟨rest, hRest, rfl⟩
          have hShape := congrArg List.length
            (afterPrefix_eq_some hRest)
          rw [List.length_append] at hShape
          have hFront : mailslotLocal.length = 6 := rfl
          rw [length_localName]
          omega

/- So a path that fits its buffer can be opened. -/
theorem openFits_of_length
    {path : Bytes}
    (hFits : path.length < maxPath)
    (mode : OpenMode) :
    OpenFits path mode := by
  intro name hName
  have hLess := length_openName hName
  omega

------------------------------------------------------------
-- Binding
------------------------------------------------------------

/-
  The local path of a name is short enough: an absolute name
  of at most 60 characters, or a relative one that leaves
  room for the working directory without its drive.
-/
def NameFits (cwd : Option Bytes) (name : Bytes) : Prop :=
  (IsAbsolute name → name.length ≤ 60) ∧
    (¬ IsAbsolute name → ∀ buf, cwd = some buf →
      (buf.length - 2) + name.length ≤ 59)

theorem length_unixLocalPath : unixLocalPath.length = 19 := rfl

theorem nameFits_iff (cwd : Option Bytes) (name : Bytes) :
    NameFits cwd name ↔
      ∀ built, bindPath cwd name = some built →
        built.length < maxPath := by
  have hFront := length_unixLocalPath
  unfold NameFits bindPath maxPath
  by_cases hSlash : IsAbsolute name
  · have hHead : name.head? = some slash := hSlash
    simp only [hSlash, if_pos hHead, true_implies,
      not_true_eq_false, false_implies, and_true,
      Option.some.injEq, forall_eq', List.length_append]
    omega
  · have hHead : ¬ name.head? = some slash := hSlash
    simp only [hSlash, if_neg hHead, false_implies, true_and,
      not_false_eq_true, true_implies]
    constructor
    · intro hShort built hBuilt
      rcases Option.map_eq_some_iff.mp hBuilt with
        ⟨buf, hCwd, rfl⟩
      have hLess := hShort buf hCwd
      simp only [List.length_append, List.length_drop,
        List.length_singleton]
      omega
    · intro hBuilt buf hCwd
      subst hCwd
      have hLess := hBuilt _ rfl
      simp only [List.length_append, List.length_drop,
        List.length_singleton] at hLess
      omega

/-
  A bind is defined exactly when the name is short enough,
  unless the length of the address has already been refused.
-/
theorem avoids_unixBind_iff
    {env : UnixBindEnv}
    {p : Ptr}
    {addr name : Bytes}
    {addrlen : Nat}
    {lsd : LsckSocket}
    {usock : LsckSocketUnix}
    {s : Process}
    (hUnix : s.HasUnix p lsd usock)
    (hSize : usock.sockpath.length = sockaddrMaxSize)
    (hName : CString.read? (addr.drop 2) = some name)
    (hShort : name.length < 108) :
    Avoids .fault (unixBind env p addr addrlen) s ↔
      (addrlen = sockaddrMaxSize → NameFits env.cwd name) := by
  rcases hUnix.data with ⟨q, hQ, hData⟩
  unfold unixBind
  rw [avoids_bind_ok (derefSocket_run hUnix.socket),
    avoids_bind_ok (derefUnix_run hUnix)]
  by_cases hLow : addrlen < sockaddrMaxSize
  · rw [if_pos hLow]
    constructor
    · intro _ hSame
      omega
    · exact fun _ => avoids_fail _ _
  by_cases hHigh : addrlen > sockaddrMaxSize
  · rw [if_neg hLow, if_pos hHigh]
    constructor
    · intro _ hSame
      omega
    · exact fun _ => avoids_fail _ _
  have hSame : addrlen = sockaddrMaxSize := by omega
  unfold sunPath
  rw [if_neg hLow, if_neg hHigh,
    avoids_bind_ok (readString_run hName s), nameFits_iff]
  simp only [hSame, true_implies]
  cases hBuilt : bindPath env.cwd name with
  | none => simpa using avoids_fail Errno.EACCES s
  | some built =>
      simp only [Option.some.injEq, forall_eq']
      rw [avoids_bind, avoids_fits]
      constructor
      · exact And.left
      · intro hFits
        constructor
        · exact hFits
        · intro path s₁ hPath
          rcases fits_ok hPath with ⟨rfl, rfl, -⟩
          apply (avoids_openFile.mpr
            (openFits_of_length hFits _)).bind
          intro fd t hOpen
          have hHeap : t.heap q = some (.unix usock) := by
            rw [(openFile_ok hOpen).heap, hData]
          rw [hQ, avoids_bind_ok (modifyUnix_run hHeap _),
            avoids_ite]
          have hNew : (t.setBlock q (some (.unix
              { usock with fdR := fd }))).heap q =
                some (.unix { usock with fdR := fd }) := by
            rw [Process.heap_setBlock, Function.update_self]
          constructor
          · intro _
            have hRoom : name.length <
                usock.sockpath.length := by
              rw [hSize]
              unfold sockaddrMaxSize
              omega
            rw [avoids_bind_ok (copyInto_run hRoom _),
              avoids_bind_ok (modifyUnix_run hNew _)]
            exact avoids_pure _
          · intro _
            rw [avoids_bind_ok (modifyUnix_run hNew _)]
            exact avoids_pure _

------------------------------------------------------------
-- Reading And Writing
------------------------------------------------------------

/- What a mailslot's handler finds behind the number. -/
def Process.FileOk (s : Process) (fd : Fd) : Prop :=
  (s.fds fd).function = some .mailslotHandler →
    ∀ p, (s.fds fd).data ≠ some (.lsd p)

theorem Process.HasMailslot.fileOk
    {s : Process}
    {fd : Fd}
    {me : MailslotFsext}
    (hMail : s.HasMailslot fd me) :
    s.FileOk fd := by
  intro _ p hData
  unfold Process.HasMailslot at hMail
  rw [hMail] at hData
  cases hData

theorem Process.FileOk.of_fds
    {s t : Process}
    {fd : Fd}
    (hFile : s.FileOk fd)
    (hFds : t.fds = s.fds) :
    t.FileOk fd := by
  unfold Process.FileOk at hFile ⊢
  rw [hFds]
  exact hFile

theorem avoids_readFd
    {env : ReadEnv}
    {fd : Fd}
    {s : Process}
    (hFile : s.FileOk fd) :
    Avoids .fault (readFd env fd) s := by
  have hErr : ∀ (e : Errno) (t : Process), Avoids .fault (do
      setErrno e
      return none : Exec (Option (List Bytes))) t :=
    fun e t => (avoids_modify _).bind fun _ _ _ => avoids_pure _
  unfold readFd
  rw [avoids_bind_ok (run_get s)]
  cases hFunction : (s.fds fd).function with
  | none =>
      apply Avoids.ite
      · intro _
        simp
      · exact fun _ => hErr _ _
  | some handler =>
      cases handler with
      | lsckSocketFsext => simp
      | mailslotHandler =>
          cases hData : (s.fds fd).data with
          | none => exact hErr _ _
          | some data =>
              cases data with
              | lsd p => exact absurd hData (hFile hFunction p)
              | mailslot me =>
                  dsimp only
                  cases hHandle : me.handle with
                  | none => exact hErr _ _
                  | some handle =>
                      apply Avoids.bind (avoids_modify _)
                      intro _ t _
                      cases hQueue : s.mail handle ++
                          env.arrivals with
                      | nil =>
                          apply Avoids.ite
                          · intro _
                            simp
                          · intro _
                            apply Avoids.ite
                            · exact fun _ => hErr _ _
                            · exact fun _ => avoids_pure _
                      | cons m rest =>
                          apply Avoids.ite
                          · intro _
                            apply Avoids.ite
                            · intro _
                              simp
                            · exact fun _ => avoids_pure _
                          intro _
                          apply Avoids.ite
                          · intro _
                            exact (avoids_modify _).bind
                              fun _ _ _ => avoids_pure _
                          intro _
                          cases deliver s.reportsNext
                              (m :: rest) with
                          | none => simp
                          | some next =>
                              exact (avoids_modify _).bind
                                fun _ _ _ => avoids_pure _

theorem avoids_writeFd
    {env : WriteEnv}
    {fd : Fd}
    {message : Bytes}
    {s : Process}
    (hFile : s.FileOk fd) :
    Avoids .fault (writeFd env fd message) s := by
  unfold writeFd
  rw [avoids_bind_ok (run_get s)]
  cases hFunction : (s.fds fd).function with
  | none =>
      apply Avoids.ite
      · intro _
        apply Avoids.ite
        · exact fun _ => avoids_pure _
        · exact fun _ => avoids_fail _ _
      · exact fun _ => avoids_fail _ _
  | some handler =>
      cases handler with
      | lsckSocketFsext => simp
      | mailslotHandler =>
          cases hData : (s.fds fd).data with
          | none => exact avoids_fail _ _
          | some data =>
              cases data with
              | lsd p => exact absurd hData (hFile hFunction p)
              | mailslot me =>
                  dsimp only
                  cases hName : me.name with
                  | none => exact avoids_fail _ _
                  | some name =>
                      apply Avoids.ite
                      · exact fun _ => avoids_fail _ _
                      intro _
                      apply Avoids.ite
                      · intro _
                        exact (avoids_modify _).bind
                          fun _ _ _ => avoids_pure _
                      intro _
                      apply Avoids.ite
                      · intro _
                        simp
                      · exact fun _ => avoids_fail _ _

/- A close of a mailslot's number. -/
theorem avoids_closeFd
    {env : CloseEnv}
    {fd : Fd}
    {me : MailslotFsext}
    {s : Process}
    (hMail : s.HasMailslot fd me) :
    Avoids .fault (closeFd env fd) s := by
  cases env with
  | leaf =>
      unfold closeFd
      simp
  | node answer closeR closeW =>
      unfold Process.HasMailslot at hMail
      unfold closeFd
      rw [avoids_bind_ok (run_get s), hMail]
      dsimp only
      unfold closeMailslot
      rw [avoids_bind_ok (run_get s), hMail]
      dsimp only
      apply Avoids.bind (avoids_modify _)
      intro _ t _
      apply Avoids.bind (avoids_modify _)
      intro _ u _
      apply Avoids.bind (avoids_modify _)
      intro _ v _
      cases me.handle with
      | none => exact avoids_pure _
      | some handle =>
          exact (avoids_modify _).bind fun _ _ _ => avoids_pure _

end Libsocket
