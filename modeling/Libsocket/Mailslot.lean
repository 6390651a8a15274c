import Libsocket.Frame
import Libsocket.Library.CString

/-
  Mailslots behind file descriptors: opening, closing,
  reading, writing and switching modes, as the mailslot
  extension does it on top of the LAN Manager calls.

  The extension's own array of open mailslots and the DOS
  memory behind it are not part of the state; whether an
  open succeeds is the environment's choice.

  Main declarations:
    * `writeName`
    * `deliver`
    * `openFile`, `closeMailslot`
    * `readFd`, `writeFd`
-/

namespace Libsocket

open Command

------------------------------------------------------------
-- C Strings
------------------------------------------------------------

/- A string built in a local buffer must fit into it. -/
def fits (size : Nat) (text : Bytes) : Exec Bytes :=
  if text.length < size then
    return text
  else
    fault

/- What a string function sees in a buffer. -/
def readString (buffer : Bytes) : Exec Bytes :=
  match CString.read? buffer with
  | some text => return text
  | none => fault

/- `strcpy` of a string into a buffer. -/
def copyInto (buffer text : Bytes) : Exec Bytes :=
  if text.length < buffer.length then
    return CString.store text ++
      buffer.drop (text.length + 1)
  else
    fault

theorem fits_ok
    {size : Nat}
    {text text' : Bytes}
    {s s' : Process}
    (hRun : fits size text s = .ok (text', s')) :
    s' = s ∧ text' = text ∧ text.length < size := by
  unfold fits at hRun
  split at hRun
  next hFits =>
      cases hRun
      exact ⟨rfl, rfl, hFits⟩
  next => cases hRun

theorem fits_run
    {size : Nat}
    {text : Bytes}
    (hFits : text.length < size)
    (s : Process) :
    fits size text s = .ok (text, s) := by
  unfold fits
  rw [if_pos hFits]
  rfl

theorem readString_ok
    {buffer text : Bytes}
    {s s' : Process}
    (hRun : readString buffer s = .ok (text, s')) :
    s' = s ∧ CString.read? buffer = some text := by
  unfold readString at hRun
  cases hText : CString.read? buffer with
  | none =>
      rw [hText] at hRun
      cases hRun
  | some text' =>
      rw [hText] at hRun
      cases hRun
      exact ⟨rfl, rfl⟩

theorem readString_run
    {buffer text : Bytes}
    (hRead : CString.read? buffer = some text)
    (s : Process) :
    readString buffer s = .ok (text, s) := by
  unfold readString
  rw [hRead]
  rfl

theorem copyInto_ok
    {buffer text copy : Bytes}
    {s s' : Process}
    (hRun : copyInto buffer text s = .ok (copy, s')) :
    s' = s ∧ text.length < buffer.length ∧
      copy = CString.store text ++
        buffer.drop (text.length + 1) := by
  unfold copyInto at hRun
  split at hRun
  next hFits =>
      cases hRun
      exact ⟨rfl, hFits, rfl⟩
  next => cases hRun

theorem copyInto_run
    {buffer text : Bytes}
    (hFits : text.length < buffer.length)
    (s : Process) :
    copyInto buffer text s =
      .ok (CString.store text ++
        buffer.drop (text.length + 1), s) := by
  unfold copyInto
  rw [if_pos hFits]
  rfl

/- The low `k` hexadecimal digits of a number. -/
def hexDigits : Nat → Nat → Bytes
| 0, _ => []
| k + 1, n =>
    hexDigits k (n / 16) ++
      [if n % 16 < 10 then UInt8.ofNat (48 + n % 16)
       else UInt8.ofNat (87 + n % 16)]

instance neZero_random : @NeZero Nat Zero.ofOfNat0 2147483648 :=
  ⟨Nat.succ_ne_zero 2147483647⟩

/- `%08lx` of what `random` returns. -/
def hex8 (n : Fin 2147483648) : Bytes :=
  hexDigits 8 n

------------------------------------------------------------
-- Names
------------------------------------------------------------

def slash : UInt8 := 47
def backslash : UInt8 := 92

/- `UNIX_LOCAL_PATH` -/
def unixLocalPath : Bytes := bytes "/dev/mailslot/local"

/- `MAILSLOT_DEV` -/
def mailslotDev : Bytes := bytes "/dev/mailslot/"

/- `MAILSLOT_LOCAL` -/
def mailslotLocal : Bytes := bytes "local/"

/- `MAILSLOT_BROADCAST` -/
def mailslotBroadcast : Bytes := bytes "bcast/"

/- Forward-slashify a file name. -/
def slashify (file : Bytes) : Bytes :=
  file.map fun b => if b = backslash then slash else b

/- Backward-slashify a mailslot name. -/
def backslashify (name : Bytes) : Bytes :=
  name.map fun b => if b = slash then backslash else b

/- What follows a string that stands at the start. -/
def afterPrefix (front text : Bytes) : Option Bytes :=
  if front.isPrefixOf text then
    some (text.drop front.length)
  else
    none

/- The name of a local mailslot. -/
def localName (rest : Bytes) : Bytes :=
  bytes "/mailslot/" ++ rest

/- The mailslot that a path behind `MAILSLOT_DEV` names. -/
def writeName (p : Bytes) : Bytes :=
  match afterPrefix mailslotLocal p with
  | some rest => localName rest
  | none =>
      match afterPrefix mailslotBroadcast p with
      | some rest => bytes "//*/mailslot/" ++ rest
      | none =>
          let host := p.takeWhile fun b => b != slash
          let path := p.dropWhile fun b => b != slash
          if path = [] then
            bytes "//" ++ host
          else
            bytes "//" ++ host ++ bytes "/mailslot" ++ path

------------------------------------------------------------
-- Queues
------------------------------------------------------------

def Process.setMail
    (s : Process)
    (name : Bytes)
    (queue : List Bytes) : Process :=
  { s with mail := Function.update s.mail name queue }

/- The length that a DOS read reports for what is next. -/
def nextLength : List Bytes → Nat
| [] => 0
| m :: _ => m.length

/-
  `__mailslot_read`, repeated until it has some data: empty
  messages are taken and dropped, and one call takes further
  messages as long as DOS reports a next one. The result is
  the messages taken and the queue that is left; there is
  none when nothing but empty messages is queued.
-/
def deliver
    (reportsNext : Bool) :
    List Bytes → Option (List Bytes × List Bytes)
| [] => none
| m :: rest =>
    if m = [] then
      deliver reportsNext rest
    else if reportsNext = true ∧ nextLength rest ≠ 0 then
      match deliver reportsNext rest with
      | some (more, left) => some (m :: more, left)
      | none => some ([m], rest)
    else
      some ([m], rest)

------------------------------------------------------------
-- Opening And Closing
------------------------------------------------------------

inductive OpenMode
  | rdonly
  | wronly
deriving DecidableEq, Repr

/- The descriptor an open gets, or the error it fails with. -/
structure OpenEnv where
  number : Option Fd
  errno : Errno
deriving DecidableEq, Repr

/- Allocate a descriptor for an open mailslot. -/
def openMailslot
    (env : OpenEnv)
    (me : MailslotFsext) : Exec Fd := do
  let fd ← allocFd env.number .mailslotHandler
  if fd = -1 then
    fail env.errno
  else do
    setData fd (some (.mailslot me))
    return fd

/- `open` for a path that the extension leaves to DOS. -/
def openOther (env : OpenEnv) : Exec Fd := do
  let s ← get
  match env.number with
  | none => fail env.errno
  | some fd =>
      if 0 ≤ fd ∧ (s.fds fd).dosOpen = false then do
        modify fun s => s.setEntry fd
          { s.fds fd with dosOpen := true }
        return fd
      else
        fail env.errno

/- `open` -/
def openFile
    (env : OpenEnv)
    (path : Bytes)
    (mode : OpenMode) : Exec Fd :=
  match afterPrefix mailslotDev (slashify path) with
  | none => openOther env
  | some p =>
      match mode with
      | .wronly => do
          let name ← fits maxPath (writeName p)
          openMailslot env ⟨none, some name, true, false⟩
      | .rdonly =>
          match afterPrefix mailslotLocal p with
          | none => fail .EINVAL
          | some rest => do
              let name ← fits maxPath (localName rest)
              let handle := backslashify name
              let fd ← openMailslot env
                ⟨some handle, none, true, false⟩
              when (fd ≠ -1)
                (modify fun s => s.setMail handle [])
              return fd

/- The close case of `__mailslot_handler`. -/
def closeMailslot (fd : Fd) : Exec Int := do
  let s ← get
  match (s.fds fd).data with
  | none => fail .EBADF
  | some (.lsd _) => fault
  | some (.mailslot me) => do
      setData fd none
      setFunction fd none
      dosClose fd
      match me.handle with
      | none => return 0
      | some handle => do
          modify fun s => s.setMail handle []
          return 0

------------------------------------------------------------
-- Reading And Writing
------------------------------------------------------------

/-
  What the environment adds to a read: messages that arrive
  before it is served, and how a non-blocking read of an
  empty mailslot ends.
-/
structure ReadEnv where
  arrivals : List Bytes
  emptyFails : Bool
  errno : Errno
deriving DecidableEq, Repr

/- A read of an empty mailslot that does not wait. -/
def readNothing (env : ReadEnv) : Exec (Option (List Bytes)) :=
  if env.emptyFails then do
    setErrno env.errno
    return none
  else
    return some []

/-
  `read` from a mailslot descriptor. The result is the
  messages taken, one after the other, or none for `-1`; the
  byte count is their total length.
-/
def readFd
    (env : ReadEnv)
    (fd : Fd) : Exec (Option (List Bytes)) := do
  let s ← get
  match (s.fds fd).function with
  | none =>
      if (s.fds fd).dosOpen then
        stop .foreign
      else do
        setErrno .EBADF
        return none
  | some .lsckSocketFsext => stop .foreign
  | some .mailslotHandler =>
      match (s.fds fd).data with
      | none => do
          setErrno .EBADF
          return none
      | some (.lsd _) => fault
      | some (.mailslot me) =>
          match me.handle with
          | none => do
              setErrno .EPERM
              return none
          | some handle => do
              let queue := s.mail handle ++ env.arrivals
              modify fun s => s.setMail handle queue
              match queue with
              | [] =>
                  if me.blocking then stop .blocked
                  else readNothing env
              | m :: rest =>
                  if me.peeking then
                    if m = [] ∧ me.blocking then
                      stop .blocked
                    else
                      return some [m]
                  else if m = [] ∧ me.blocking = false then do
                    modify fun s => s.setMail handle rest
                    return some []
                  else
                    match deliver s.reportsNext queue with
                    | none => stop .blocked
                    | some (ms, left) => do
                        modify fun s => s.setMail handle left
                        return some ms

/- Whether the network takes a message. -/
structure WriteEnv where
  delivered : Bool
  errno : Errno
deriving DecidableEq, Repr

/- Hand one message to the network. -/
def Process.deliverTo
    (s : Process)
    (name message : Bytes) : Process :=
  { s with
    mail := Function.update s.mail name
      (s.mail name ++ [message])
    sent := s.sent ++ [(name, message)] }

/-
  `write` of one message of at most `MAILSLOT_SENDSIZE`
  bytes. A blocking descriptor tries until it succeeds.
-/
def writeFd
    (env : WriteEnv)
    (fd : Fd)
    (message : Bytes) : Exec Int := do
  let s ← get
  match (s.fds fd).function with
  | none =>
      if (s.fds fd).dosOpen then
        if env.delivered then
          return message.length
        else
          fail env.errno
      else
        fail .EBADF
  | some .lsckSocketFsext => stop .foreign
  | some .mailslotHandler =>
      match (s.fds fd).data with
      | none => fail .EBADF
      | some (.lsd _) => fault
      | some (.mailslot me) =>
          match me.name with
          | none => fail .EPERM
          | some name =>
              if message = [] then
                fail .EINVAL
              else if env.delivered then do
                modify fun s =>
                  s.deliverTo (backslashify name) message
                return message.length
              else if me.blocking then
                stop .blocked
              else
                fail env.errno

------------------------------------------------------------
-- Modes
------------------------------------------------------------

/- Change the extension data of a mailslot descriptor. -/
def modifyMailslot
    (fd : Fd)
    (f : MailslotFsext → MailslotFsext) : Exec Unit := do
  let s ← get
  match (s.fds fd).function with
  | none => setErrno .EBADF
  | some .lsckSocketFsext => stop .foreign
  | some .mailslotHandler =>
      match (s.fds fd).data with
      | none => setErrno .EBADF
      | some (.lsd _) => fault
      | some (.mailslot me) =>
          setData fd (some (.mailslot (f me)))

/- `fcntl (fd, F_SETFL, O_NONBLOCK)`; it answers `-1`. -/
def fcntlNonblock (fd : Fd) : Exec Int := do
  modifyMailslot fd fun me => { me with blocking := false }
  return -1

/- `ioctl (fd, MIOPEEK, &pflag)` -/
def ioctlPeek (fd : Fd) (pflag : Bool) : Exec Unit :=
  modifyMailslot fd fun me =>
    if me.handle.isSome then
      { me with peeking := pflag }
    else
      me

------------------------------------------------------------
-- Frame
------------------------------------------------------------

theorem reads_fits (size : Nat) (text : Bytes) :
    Reads (fits size text) :=
  Within.ite (Reads.pure _) (Within.stop _)

theorem reads_readString (buffer : Bytes) :
    Reads (readString buffer) := by
  unfold readString
  cases CString.read? buffer with
  | none => exact Within.stop _
  | some text => exact Reads.pure text

theorem reads_copyInto (buffer text : Bytes) :
    Reads (copyInto buffer text) :=
  Within.ite (Reads.pure _) (Within.stop _)

theorem still_fits (size : Nat) (text : Bytes) :
    StillCmd (fits size text) :=
  (reads_fits size text).within Still.refl

theorem still_readString (buffer : Bytes) :
    StillCmd (readString buffer) :=
  (reads_readString buffer).within Still.refl

theorem still_copyInto (buffer text : Bytes) :
    StillCmd (copyInto buffer text) :=
  (reads_copyInto buffer text).within Still.refl

/- Queues are not part of what the frame mentions. -/
theorem Still.setMail
    (s : Process)
    (name : Bytes)
    (queue : List Bytes) :
    Still s (s.setMail name queue) :=
  ⟨rfl, id, fun _ _ _ => rfl, fun _ => rfl⟩

theorem still_setMail
    (name : Bytes)
    (queue : Process → List Bytes) :
    StillCmd (modify fun s => s.setMail name (queue s) :
      Exec Unit) :=
  StillCmd.modify fun _ => Still.setMail _ _ _

/- A number that was free becomes a mailslot's. -/
theorem still_openMailslot
    (env : OpenEnv)
    (me : MailslotFsext) :
    StillCmd (openMailslot env me) := by
  intro s a s' hRun
  unfold openMailslot at hRun
  rcases bind_eq_ok.mp hRun with ⟨fd, t, hAlloc, hRest⟩
  rcases allocFd_ok hAlloc with
    ⟨rfl, rfl⟩ | ⟨-, hLow, hFree, rfl⟩
  · rw [if_pos rfl] at hRest
    exact StillCmd.fail env.errno _ a s' hRest
  · have hNe : fd ≠ -1 := by
      rintro rfl
      exact absurd hLow (by decide)
    rw [if_neg hNe] at hRest
    cases hRest
    simp only [Process.fds_setEntry, Function.update_self,
      Process.setEntry_setEntry]
    refine Still.setEntry ?_ (by simp) (by simp) (by simp)
    intro hFds
    simp [hFds.closed _ hFree]

/- DOS opens a number that was free. -/
theorem still_openOther (env : OpenEnv) :
    StillCmd (openOther env) := by
  refine StillCmd.get_bind fun s a s' hRun => ?_
  cases hNumber : env.number with
  | none =>
      rw [hNumber] at hRun
      exact StillCmd.fail _ s a s' hRun
  | some fd =>
      rw [hNumber] at hRun
      by_cases hFree : 0 ≤ fd ∧ (s.fds fd).dosOpen = false
      · simp only [if_pos hFree] at hRun
        cases hRun
        refine Still.setEntry ?_ ?_ (by simp) ?_
        · intro hFds
          simp [hFds.closed _ hFree.2]
        · intro hFds
          simp [hFds.closed _ hFree.2]
        · intro hFds _
          exact hFds.plain _ (hFds.closed _ hFree.2)
      · simp only [if_neg hFree] at hRun
        exact StillCmd.fail _ s a s' hRun

theorem still_openFile
    (env : OpenEnv)
    (path : Bytes)
    (mode : OpenMode) :
    StillCmd (openFile env path mode) := by
  unfold openFile
  split
  · exact still_openOther env
  · cases mode with
    | wronly =>
        refine (still_fits _ _).bind fun name => ?_
        exact still_openMailslot _ _
    | rdonly =>
        dsimp only
        split
        · exact StillCmd.fail _
        · refine (still_fits _ _).bind fun name => ?_
          refine (still_openMailslot _ _).bind fun fd => ?_
          refine (StillCmd.when ?_).bind fun _ => ?_
          · exact still_setMail _ _
          · exact StillCmd.pure fd

theorem still_readNothing (env : ReadEnv) :
    StillCmd (readNothing env) := by
  refine StillCmd.ite ?_ (StillCmd.pure _)
  exact (StillCmd.setErrno _).bind fun _ => StillCmd.pure _

theorem still_readFd (env : ReadEnv) (fd : Fd) :
    StillCmd (readFd env fd) := by
  refine StillCmd.get.bind fun s => ?_
  split
  · refine StillCmd.ite (StillCmd.stop _) ?_
    exact (StillCmd.setErrno _).bind fun _ => StillCmd.pure _
  · exact StillCmd.stop _
  · split
    · exact (StillCmd.setErrno _).bind
        fun _ => StillCmd.pure _
    · exact StillCmd.fault
    · split
      · exact (StillCmd.setErrno _).bind
          fun _ => StillCmd.pure _
      · refine (still_setMail _ _).bind fun _ => ?_
        split
        · exact StillCmd.ite (StillCmd.stop _)
            (still_readNothing env)
        · refine StillCmd.ite ?_ (StillCmd.ite ?_ ?_)
          · exact StillCmd.ite (StillCmd.stop _)
              (StillCmd.pure _)
          · exact (still_setMail _ _).bind
              fun _ => StillCmd.pure _
          · split
            · exact StillCmd.stop _
            · exact (still_setMail _ _).bind
                fun _ => StillCmd.pure _

theorem still_writeFd
    (env : WriteEnv)
    (fd : Fd)
    (message : Bytes) :
    StillCmd (writeFd env fd message) := by
  refine StillCmd.get.bind fun s => ?_
  split
  · refine StillCmd.ite (StillCmd.ite ?_ ?_)
      (StillCmd.fail _)
    · exact StillCmd.pure _
    · exact StillCmd.fail _
  · exact StillCmd.stop _
  · split
    · exact StillCmd.fail _
    · exact StillCmd.fault
    · split
      · exact StillCmd.fail _
      · refine StillCmd.ite (StillCmd.fail _)
          (StillCmd.ite ?_
            (StillCmd.ite (StillCmd.stop _)
              (StillCmd.fail _)))
        refine (StillCmd.modify fun _ => ?_).bind
          fun _ => StillCmd.pure _
        exact ⟨rfl, id, fun _ _ _ => rfl, fun _ => rfl⟩

/- Only mailslot descriptors change their data. -/
theorem still_modifyMailslot
    (fd : Fd)
    (f : MailslotFsext → MailslotFsext) :
    StillCmd (modifyMailslot fd f) := by
  refine StillCmd.get_bind fun s a s' hRun => ?_
  cases hFunction : (s.fds fd).function with
  | none =>
      rw [hFunction] at hRun
      exact StillCmd.setErrno _ s a s' hRun
  | some handler =>
      cases handler with
      | lsckSocketFsext =>
          rw [hFunction] at hRun
          cases hRun
      | mailslotHandler =>
          rw [hFunction] at hRun
          cases hData : (s.fds fd).data with
          | none =>
              rw [hData] at hRun
              exact StillCmd.setErrno _ s a s' hRun
          | some data =>
              cases data with
              | lsd p =>
                  rw [hData] at hRun
                  cases hRun
              | mailslot me =>
                  rw [hData] at hRun
                  cases hRun
                  refine Still.setEntry ?_ ?_ ?_ ?_
                  · simp [hFunction]
                  · simp [hFunction]
                  · intro hFds hClosed
                    simp [hFds.closed fd hClosed]
                      at hFunction
                  · simp [hFunction]

theorem still_fcntlNonblock (fd : Fd) :
    StillCmd (fcntlNonblock fd) :=
  (still_modifyMailslot _ _).bind fun _ => StillCmd.pure _

theorem still_ioctlPeek (fd : Fd) (pflag : Bool) :
    StillCmd (ioctlPeek fd pflag) :=
  still_modifyMailslot _ _

end Libsocket
