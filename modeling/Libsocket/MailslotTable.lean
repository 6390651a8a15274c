import Libsocket.Mailslot
import Libsocket.Library.Slots
import Libsocket.Library.Transition
import Mathlib.Data.Finset.Basic

/-
  The tables that the mailslot library keeps.

  `__mailslot` records the mailslots that were created and
  the DOS memory of each, `__mailslot_fsext` the descriptors
  that the extension has opened. The state has both tables
  next to what they are meant to record: the allocated DOS
  memory, the mailslots that LAN Manager knows, and the data
  of each descriptor. Reading through an empty slot of a
  table stops the command.

  Main declarations:
    * `MailslotEntry`, `FsextEntry`, `MailTables`
    * `mailslotCreate`, `mailslotDestroy`
    * `openHandler`, `closeHandler`
    * `MailCall`, `mailSystem`
-/

namespace Libsocket

open Command

------------------------------------------------------------
-- Tables
------------------------------------------------------------

/- `MAILSLOT_MAX` -/
def mailslotMax : Nat := 256

/- `MAILSLOT_MINSIZE` and `MAILSLOT_MAXSIZE` -/
def mailslotMinsize : Int := 0x1000
def mailslotMaxsize : Int := 0xFFF6

/- A block of DOS memory, known by its selector. -/
structure DosBlock where
  seg : Nat
  sel : Nat
deriving DecidableEq, Repr

/- `MAILSLOT` -/
structure MailslotEntry where
  name : Option Bytes
  handle : Nat
  sel : Nat
  seg : Nat
  off : Nat
  len : Int
  maxlen : Int
deriving DecidableEq, Repr

/- `MAILSLOT_FSEXT`; the handle `-1` is `none`. -/
structure FsextEntry where
  fd : Fd
  handle : Option Nat
  name : Option Bytes
  blocking : Bool
  peeking : Bool
deriving DecidableEq, Repr

/- The static variables, and what they are to record. -/
structure MailTables where
  inited : Bool
  transfer : Option DosBlock
  slots : List (Option MailslotEntry)
  fsextInited : Bool
  fsext : List (Option FsextEntry)
  descriptors : Fd → Option (Option FsextEntry)
  dosMemory : Finset Nat
  mailslots : Finset Nat

/- Static variables start as zero. -/
def MailTables.start : MailTables where
  inited := false
  transfer := none
  slots := List.replicate mailslotMax none
  fsextInited := false
  fsext := List.replicate mailslotMax none
  descriptors := fun _ => none
  dosMemory := ∅
  mailslots := ∅

/-
  Why a command stops: it reads through an empty slot, it
  runs over the end of a string, the call is for another
  handler, or DOS and the library are asked to grant what is
  in use already.
-/
inductive MailStop
  | nullSlot
  | overrun
  | notOurs
  | inUse
deriving DecidableEq, Repr

abbrev MailCommand (α : Type) : Type :=
  Command MailStop MailTables α

/- A result, or `-1` with the `errno` that was set, if any. -/
abbrev MailAnswer (α : Type) : Type :=
  Except (Option Errno) α

------------------------------------------------------------
-- What DOS Grants
------------------------------------------------------------

/- `__dpmi_allocate_dos_memory` -/
def allocateDosMemory :
    Option DosBlock → MailCommand (Option DosBlock)
| none => return none
| some block => do
    let s ← get
    if block.sel = 0 ∨ block.sel ∈ s.dosMemory then
      stop .inUse
    else do
      modify fun s =>
        { s with dosMemory := insert block.sel s.dosMemory }
      return some block

/- The call that makes a mailslot. -/
def makeMailslot :
    Except Errno Nat → MailCommand (MailAnswer Nat)
| .error e => return .error (some e)
| .ok handle => do
    let s ← get
    if handle ∈ s.mailslots then
      stop .inUse
    else do
      modify fun s =>
        { s with mailslots := insert handle s.mailslots }
      return .ok handle

/- The call that deletes a mailslot. It has to exist. -/
def deleteMailslot
    (deleted : Bool)
    (handle : Nat) : MailCommand Bool := do
  let s ← get
  if deleted = true ∧ handle ∈ s.mailslots then do
    modify fun s =>
      { s with mailslots := s.mailslots.erase handle }
    return true
  else
    return false

------------------------------------------------------------
-- Mailslots
------------------------------------------------------------

/- LAN Manager, and the answer for the transfer buffer. -/
structure InitEnv where
  lanManager : Bool
  transfer : Option DosBlock

/- `__mailslot_init` -/
def mailslotInit (env : InitEnv) : MailCommand Bool := do
  let s ← get
  if s.inited then
    return true
  else if ¬ env.lanManager then
    return false
  else do
    modify fun s =>
      { s with slots := List.replicate mailslotMax none }
    match ← allocateDosMemory env.transfer with
    | none => return false
    | some block => do
        modify fun s =>
          { s with transfer := some block, inited := true }
        return true

/-
  What a creation meets: the answers for the DOS memory and
  for the mailslot, and whether the two `malloc` succeed.
-/
structure CreateEnv where
  init : InitEnv
  buffer : Option DosBlock
  handle : Except Errno Nat
  memory : Bool
  nameCopied : Bool

/- The details that are stored about a new mailslot. -/
def newEntry
    (env : CreateEnv)
    (newname : Bytes)
    (len : Int)
    (block : DosBlock)
    (handle : Nat) : MailslotEntry where
  name := if env.nameCopied then some newname else none
  handle := handle
  sel := block.sel
  seg := block.seg
  off := 0
  len := len + 9
  maxlen := len

/- Enter a new mailslot into the table. -/
def recordMailslot
    (env : CreateEnv)
    (newname : Bytes)
    (len : Int)
    (block : DosBlock)
    (handle : Nat) : MailCommand (MailAnswer Nat) := do
  let s ← get
  match Slots.firstFree s.slots with
  | none => return .ok handle
  | some i =>
      if env.memory then do
        modify fun s => { s with
          slots := s.slots.set i
            (some (newEntry env newname len block handle)) }
        return .ok handle
      else
        return .error none

/- Make a mailslot with a buffer of its own. -/
def makeRecorded
    (env : CreateEnv)
    (newname : Bytes)
    (len : Int) : MailCommand (MailAnswer Nat) := do
  match ← allocateDosMemory env.buffer with
  | none => return .error none
  | some block =>
      match ← makeMailslot env.handle with
      | .error e => return .error e
      | .ok handle =>
          recordMailslot env newname len block handle

/- `__mailslot_create` -/
def mailslotCreate
    (env : CreateEnv)
    (name : Option Bytes)
    (len : Int) : MailCommand (MailAnswer Nat) := do
  let ready ← mailslotInit env.init
  if ready = false then
    return .error none
  else
    match name with
    | none => return .error (some .EINVAL)
    | some name =>
        if len < mailslotMinsize ∨ len > mailslotMaxsize then
          return .error (some .EINVAL)
        else if name.length < maxPath then
          makeRecorded env (backslashify name) len
        else
          stop .overrun

/- What a deletion meets. -/
structure DestroyEnv where
  init : InitEnv
  deleted : Bool
  errno : Errno

/-
  The look-up loop of `__mailslot_destroy` and what follows
  it. A handle that is not found leaves `sel` at `0`.
-/
def dropMailslot
    (handle : Nat) : MailCommand (MailAnswer Unit) := do
  let s ← get
  match Slots.scan MailslotEntry.handle handle s.slots with
  | none => stop .nullSlot
  | some none => return .error none
  | some (some i) =>
      match (s.slots[i]?).join with
      | none => return .error none
      | some entry =>
          if entry.sel ≠ 0 then do
            modify fun s => { s with
              dosMemory := s.dosMemory.erase entry.sel
              slots := s.slots.set i none }
            return .ok ()
          else
            return .error none

/- `__mailslot_destroy` -/
def mailslotDestroy
    (env : DestroyEnv)
    (handle : Option Nat) : MailCommand (MailAnswer Unit) := do
  let ready ← mailslotInit env.init
  if ready = false then
    return .error none
  else
    match handle with
    | none => return .error (some .EINVAL)
    | some handle => do
        let deleted ← deleteMailslot env.deleted handle
        if deleted then
          dropMailslot handle
        else
          return .error (some env.errno)

------------------------------------------------------------
-- Descriptors Of The Extension
------------------------------------------------------------

/- `__mailslot_install_handler` -/
def installHandler (env : InitEnv) : MailCommand Bool := do
  let s ← get
  if s.fsextInited then
    return true
  else do
    let ready ← mailslotInit env
    if ready = false then
      return false
    else do
      modify fun s => { s with
        fsext := List.replicate mailslotMax none
        fsextInited := true }
      return true

/- The modes of an open. -/
inductive HandlerMode
  | rdonly
  | wronly
  | rdwr
deriving DecidableEq, Repr

/- What an open meets; `number` is for the descriptor. -/
structure HandlerEnv where
  create : CreateEnv
  fileCopied : Bool
  number : Option Fd
  memory : Bool
  nameCopied : Bool

/-
  Allocate a descriptor and the block that describes it, and
  enter the block into slot `msd`.
-/
def addDescriptor
    (env : HandlerEnv)
    (msd : Nat)
    (handle : Option Nat)
    (name : Option Bytes) : MailCommand (MailAnswer Fd) := do
  match env.number with
  | none => return .error none
  | some fd => do
      let s ← get
      if (s.descriptors fd).isSome then
        stop .inUse
      else if env.memory then do
        let me : FsextEntry := {
          fd := fd
          handle := handle
          name := name
          blocking := true
          peeking := false }
        modify fun s => { s with
          fsext := s.fsext.set msd (some me)
          descriptors := Function.update s.descriptors fd
            (some (some me)) }
        return .ok fd
      else
        -- the descriptor is closed again
        return .error (some .ENOMEM)

/- Open the mailslot for writing. -/
def openForWriting
    (env : HandlerEnv)
    (p : Bytes) : MailCommand (MailAnswer Fd) := do
  let s ← get
  match Slots.firstFree s.fsext with
  | none => return .error (some .EAGAIN)
  | some msd =>
      if (writeName p).length < maxPath then
        addDescriptor env msd none
          (if env.nameCopied then some (writeName p) else none)
      else
        stop .overrun

/- Create the mailslot and open it for reading. -/
def openForReading
    (env : HandlerEnv)
    (p : Bytes) : MailCommand (MailAnswer Fd) := do
  match afterPrefix mailslotLocal p with
  | none => return .error (some .EINVAL)
  | some rest =>
      if (localName rest).length < maxPath then do
        let created ← mailslotCreate env.create
          (some (localName rest)) mailslotMaxsize
        match created with
        | .error e => return .error e
        | .ok handle => do
            let s ← get
            match Slots.firstFree s.fsext with
            | none => return .error (some .EAGAIN)
            | some msd =>
                addDescriptor env msd (some handle) none
      else
        stop .overrun

/-
  The open case of `__mailslot_handler`. There is no answer
  when the call is left to DOS.
-/
def openHandler
    (env : HandlerEnv)
    (file : Bytes)
    (mode : HandlerMode) :
    MailCommand (Option (MailAnswer Fd)) := do
  let s ← get
  if s.fsextInited = false then
    stop .notOurs
  else if env.fileCopied = false then
    return none
  else
    match afterPrefix mailslotDev (slashify file) with
    | none => return none
    | some p =>
        match mode with
        | .rdwr => return some (.error (some .EPERM))
        | .wronly => do
            let answer ← openForWriting env p
            return some answer
        | .rdonly => do
            let answer ← openForReading env p
            return some answer

/- The loop of the close case and what follows it. -/
def dropDescriptor (fd : Fd) : MailCommand Unit := do
  let s ← get
  match Slots.scan FsextEntry.fd fd s.fsext with
  | none => stop .nullSlot
  | some none => return ()
  | some (some msd) =>
      modify fun s => { s with fsext := s.fsext.set msd none }

/- The close case of `__mailslot_handler`. -/
def closeHandler
    (env : DestroyEnv)
    (fd : Fd) : MailCommand (MailAnswer Unit) := do
  let s ← get
  match s.descriptors fd with
  | none => stop .notOurs
  | some none => return .error (some .EBADF)
  | some (some me) => do
      modify fun s => { s with
        descriptors := Function.update s.descriptors fd none }
      match me.handle with
      | none => dropDescriptor fd
      | some handle => do
          -- the result is ignored
          let _ ← mailslotDestroy env (some handle)
          dropDescriptor fd
      return .ok ()

------------------------------------------------------------
-- Runs Of Calls
------------------------------------------------------------

inductive MailCall
  | install (env : InitEnv)
  | create (env : CreateEnv) (name : Option Bytes) (len : Int)
  | destroy (env : DestroyEnv) (handle : Option Nat)
  | openFile (env : HandlerEnv) (file : Bytes)
      (mode : HandlerMode)
  | close (env : DestroyEnv) (fd : Fd)

/- Execute a call; the result says whether it succeeded. -/
def MailCall.exec : MailCall → MailCommand Bool
| .install env => installHandler env
| .create env name len => do
    let answer ← mailslotCreate env name len
    return answer.isOk
| .destroy env handle => do
    let answer ← mailslotDestroy env handle
    return answer.isOk
| .openFile env file mode => do
    let answer ← openHandler env file mode
    return answer.any Except.isOk
| .close env fd => do
    let answer ← closeHandler env fd
    return answer.isOk

/- The process that makes the calls. -/
abbrev mailSystem : TransitionSystem MailTables MailCall :=
  .ofExec (fun s => s = .start) MailCall.exec

end Libsocket
