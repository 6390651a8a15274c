import Libsocket.Descriptor
import Libsocket.Library.Cut
import Libsocket.Library.Transition

/-
  The host, node and domain names of the computer.

  The three names are kept in static character arrays. A
  string that does not fit the array it is copied to stops
  the command with the array it overflows, so a name that is
  stored always fits.

  Main declarations:
    * `NameArray`, `HostNames`
    * `gethostname`, `sethostname`
    * `getdomainname`, `setdomainname`
    * `NameCall`, `nameSystem`
    * `storeParts_run`, `gethostname_run`,
      `setdomainname_run`
-/

namespace Libsocket

open Command

------------------------------------------------------------
-- Names And Their Arrays
------------------------------------------------------------

/- `MAXGETHOSTNAME` of `sys/param.h` -/
def maxGetHostName : Nat := 128

/- `MAXGETDOMAINNAME` -/
def maxGetDomainName : Nat := maxGetHostName

/- The size of `dosbuf` in the old `gethostname`. -/
def dosbufSize : Nat := 16

/- `'.'` and `' '` -/
def dot : UInt8 := 46
def blank : UInt8 := 32

/- `tolower` of the `"C"` locale -/
def tolower (c : UInt8) : UInt8 :=
  if 65 ≤ c ∧ c ≤ 90 then c + 32 else c

/- A string in an array of `MAXGETHOSTNAME` characters. -/
structure NameArray where
  text : Bytes
  fits : text.length < maxGetHostName
deriving DecidableEq

/- An array that is not initialised holds no string yet. -/
def NameArray.empty : NameArray := ⟨[], by decide⟩

/- Cut the string at the first `c`. -/
def NameArray.cut (array : NameArray) (c : UInt8) :
    NameArray where
  text := Cut.before c array.text
  fits := Nat.lt_of_le_of_lt
    (Cut.length_before_le c array.text) array.fits

/- What comes after the first `c`. -/
def NameArray.rest (array : NameArray) (c : UInt8) :
    NameArray where
  text := Cut.after c array.text
  fits := Nat.lt_of_le_of_lt
    (Cut.length_after_le c array.text) array.fits

/- The static variables of the host-name functions. -/
structure HostNames where
  hostname : NameArray
  nodename : NameArray
  domainname : NameArray
  gothostname : Bool
  gotnodename : Bool
  gotdomainname : Bool
deriving DecidableEq

/- No name is known at the start. -/
def HostNames.unknown : HostNames where
  hostname := .empty
  nodename := .empty
  domainname := .empty
  gothostname := false
  gotnodename := false
  gotdomainname := false

/- The arrays that a string is copied to. -/
inductive NameBuffer
  | hostname
  | nodename
  | domainname
  | caller
deriving DecidableEq

/- A host-name function; it stops at an overflow. -/
abbrev NameCommand (α : Type) : Type :=
  Command NameBuffer HostNames α

/- Copy a string to a static array. -/
def strcpyStatic
    (buffer : NameBuffer)
    (text : Bytes) : NameCommand NameArray :=
  if hRoom : text.length < maxGetHostName then
    pure ⟨text, hRoom⟩
  else
    stop buffer

/- Copy a string to the caller's array of `size` bytes. -/
def strcpyCaller
    (size : Nat)
    (text : Bytes) : NameCommand Unit :=
  if text.length < size then
    pure ()
  else
    stop .caller

------------------------------------------------------------
-- Where A Host Name Comes From
------------------------------------------------------------

/- The address list of an interface, as far as it is read. -/
structure AddrTable where
  family : Int
  inet : List NameArray

/-
  What a call of `gethostname` meets: the outcome of each
  allocation it may make, `$HOSTNAME`, the value of
  `hostname` in the configuration file, the address lists of
  the interfaces, the machine name that DOS gives, and the
  string that an unwritten block happens to hold.
-/
structure HostEnv where
  hostnameCopy : Bool
  environment : Option Bytes
  environmentCopy : Bool
  configBuffer : Bool
  configuration : Option Bytes
  interfaces : List (Option AddrTable × Bool)
  lastBuffer : Bool
  machineName :
    Option { text : Bytes // text.length < dosbufSize }
  leftover : Bytes

/- `strdup (hostname)` -/
def HostEnv.storedName
    (env : HostEnv)
    (s : HostNames) : Option Bytes :=
  if s.gothostname ∧ env.hostnameCopy then
    some s.hostname.text
  else
    none

/- `strdup (getenv ("HOSTNAME"))` -/
def HostEnv.environmentName
    (env : HostEnv) : Option Bytes :=
  if env.environmentCopy then env.environment else none

/- `GetPrivateProfileString` cuts the value to the buffer. -/
def HostEnv.configurationName
    (env : HostEnv) : Option Bytes :=
  match env.configuration with
  | none => none
  | some value =>
      if value.take (maxGetHostName - 1) = [] then
        none
      else
        some (value.take (maxGetHostName - 1))

/-
  The scan of the interfaces. Each entry comes with the
  outcome of the `strdup` made for it.
-/
def interfaceName :
    List (Option AddrTable × Bool) → Option Bytes
| [] => none
| (none, _) :: rest => interfaceName rest
| (some table, copied) :: rest =>
    if table.family ≠ afInet then
      interfaceName rest
    else
      match table.inet.find? fun inet => inet.text ≠ [] with
      | none => interfaceName rest
      | some inet =>
          if copied then
            some inet.text
          else
            interfaceName rest

/- The machine name without the blanks that pad it. -/
def trimRight (text : Bytes) : Bytes :=
  (text.reverse.dropWhile (· == blank)).reverse

/- The name that the old `gethostname` picks. -/
def HostEnv.oldName (env : HostEnv) : Bytes :=
  match env.machineName with
  | some name => trimRight name.val
  | none => env.environment.getD (bytes "pc")

/-
  `__old_djgpp_libc_gethostname`. It leaves the buffer
  alone when `$HOSTNAME` does not fit.
-/
def oldGethostname (env : HostEnv) : Option Bytes :=
  if env.oldName.length + 1 > maxGetHostName then
    none
  else
    some env.oldName

/-
  The name that `gethostname` settles for; `none` when a
  `malloc` fails on the way.
-/
def HostEnv.findName
    (env : HostEnv)
    (s : HostNames) : Option Bytes :=
  match (env.storedName s).or env.environmentName with
  | some name => some name
  | none =>
      if ¬ env.configBuffer then
        none
      else
        match env.configurationName.or
            (interfaceName env.interfaces) with
        | some name => some name
        | none =>
            if ¬ env.lastBuffer then
              none
            else
              -- the result of the old function is ignored
              some ((oldGethostname env).getD env.leftover)

/- Cut at the first blank, in lower case. -/
def cleanName (name : Bytes) : Bytes :=
  (Cut.before blank name).map tolower

------------------------------------------------------------
-- The Four Functions
------------------------------------------------------------

/- Store a name and the parts it has. -/
def storeParts (name : Bytes) : NameCommand Unit := do
  let host ← strcpyStatic .hostname name
  modify fun s =>
    { s with hostname := host, gothostname := true }
  let node ← strcpyStatic .nodename name
  modify fun s =>
    { s with nodename := node, gotnodename := true }
  if dot ∈ name then do
    modify fun s => { s with nodename := s.nodename.cut dot }
    let domain ← strcpyStatic .domainname
      (Cut.after dot name)
    modify fun s =>
      { s with domainname := domain, gotdomainname := true }

/-
  `gethostname`. The result is the string in the caller's
  buffer; `buf` says that there is one.
-/
def gethostname
    (env : HostEnv)
    (buf : Bool)
    (size : Int) : NameCommand (Except Errno Bytes) := do
  if size ≤ 0 then
    return .error .EINVAL
  else if buf = false then
    return .error .EINVAL
  else do
    let s ← get
    match env.findName s with
    | none => return .error .ENOMEM
    | some found =>
        if ((cleanName found).length + 1 : Int) > size then
          return .error .EINVAL
        else do
          strcpyCaller size.toNat (cleanName found)
          storeParts (cleanName found)
          return .ok (cleanName found)

/- `sethostname` -/
def sethostname
    (buf : Bytes)
    (size : Int) : NameCommand (Except Errno Unit) := do
  if size ≤ 0 ∨ size > maxGetHostName then
    return .error .EINVAL
  else do
    storeParts buf
    return .ok ()

/- `getdomainname` -/
def getdomainname
    (name : Bool)
    (len : Nat) : NameCommand (Except Errno Bytes) := do
  if len ≤ 0 ∨ len > maxGetDomainName then
    return .error .EINVAL
  else if name = false then
    return .error .EFAULT
  else do
    let s ← get
    let text :=
      if s.gotdomainname then s.domainname.text else []
    strcpyCaller len text
    return .ok text

/- `setdomainname` -/
def setdomainname
    (name : Option Bytes)
    (len : Nat) : NameCommand (Except Errno Unit) := do
  if len ≤ 0 ∨ len > maxGetDomainName then
    return .error .EINVAL
  else
    match name with
    | none => return .error .EFAULT
    | some name => do
        let domain ← strcpyStatic .domainname name
        modify fun s => { s with
          domainname := domain, gotdomainname := true }
        let s ← get
        -- the two `strcat` come after the `strcpy`
        let host ← strcpyStatic .hostname s.nodename.text
        let host ← strcpyStatic .hostname (host.text ++ [dot])
        let host ← strcpyStatic .hostname
          (host.text ++ domain.text)
        modify fun s =>
          { s with hostname := host, gothostname := true }
        return .ok ()

------------------------------------------------------------
-- What The Functions Do
------------------------------------------------------------

theorem strcpyStatic_run
    {buffer : NameBuffer}
    {text : Bytes}
    (hRoom : text.length < maxGetHostName)
    (s : HostNames) :
    strcpyStatic buffer text s = .ok (⟨text, hRoom⟩, s) := by
  simp [strcpyStatic, hRoom]

theorem strcpyStatic_overflow
    {buffer : NameBuffer}
    {text : Bytes}
    (hLong : ¬ text.length < maxGetHostName)
    (s : HostNames) :
    strcpyStatic buffer text s = .error buffer := by
  simp [strcpyStatic, hLong]

/- The state after a name has been stored. -/
def HostNames.store
    (s : HostNames)
    (name : NameArray) : HostNames where
  hostname := name
  nodename := if dot ∈ name.text then name.cut dot else name
  domainname :=
    if dot ∈ name.text then name.rest dot else s.domainname
  gothostname := true
  gotnodename := true
  gotdomainname :=
    if dot ∈ name.text then true else s.gotdomainname

theorem storeParts_run
    (name : NameArray)
    (s : HostNames) :
    storeParts name.text s = .ok ((), s.store name) := by
  have hRest :
      (Cut.after dot name.text).length < maxGetHostName :=
    (name.rest dot).fits
  unfold storeParts
  rw [run_bind_ok (strcpyStatic_run name.fits s),
    run_bind_ok (run_modify _ _),
    run_bind_ok (strcpyStatic_run name.fits _),
    run_bind_ok (run_modify _ _)]
  by_cases hDot : dot ∈ name.text
  · rw [if_pos hDot, run_bind_ok (run_modify _ _),
      run_bind_ok (strcpyStatic_run hRest _)]
    simp [HostNames.store, NameArray.rest, hDot]
  · rw [if_neg hDot]
    simp [HostNames.store, hDot]

theorem storeParts_overflow
    {name : Bytes}
    (hLong : ¬ name.length < maxGetHostName)
    (s : HostNames) :
    storeParts name s = .error .hostname := by
  unfold storeParts
  rw [run_bind_error (strcpyStatic_overflow hLong s)]

/- The state after a domain has been set. -/
def HostNames.storeDomain
    (s : HostNames)
    (domain host : NameArray) : HostNames :=
  { s with
    domainname := domain
    gotdomainname := true
    hostname := host
    gothostname := true }

/- The host name that a new domain gives. -/
def HostNames.withDomain
    (s : HostNames)
    (domain : Bytes) : Bytes :=
  s.nodename.text ++ dot :: domain

theorem gethostname_run
    (env : HostEnv)
    (buf : Bool)
    (size : Int)
    (s : HostNames) :
    gethostname env buf size s =
      if size ≤ 0 ∨ buf = false then
        .ok (.error .EINVAL, s)
      else
        match env.findName s with
        | none => .ok (.error .ENOMEM, s)
        | some found =>
            if ((cleanName found).length + 1 : Int) > size then
              .ok (.error .EINVAL, s)
            else if hRoom :
                (cleanName found).length < maxGetHostName then
              .ok (.ok (cleanName found),
                s.store ⟨cleanName found, hRoom⟩)
            else
              .error .hostname := by
  unfold gethostname
  by_cases hSize : size ≤ 0
  · simp [hSize]
  by_cases hBuf : buf = false
  · simp [hSize, hBuf]
  rw [if_neg hSize, if_neg hBuf, if_neg (by tauto),
    run_bind_ok (run_get s)]
  cases env.findName s with
  | none => rfl
  | some found =>
      dsimp only
      by_cases hFit :
          ((cleanName found).length + 1 : Int) > size
      · rw [if_pos hFit, if_pos hFit]
        rfl
      · have hCaller :
            strcpyCaller size.toNat (cleanName found) s =
              .ok ((), s) := by
          have hShort :
              (cleanName found).length < size.toNat := by
            omega
          simp [strcpyCaller, hShort]
        rw [if_neg hFit, if_neg hFit, run_bind_ok hCaller]
        by_cases hRoom :
            (cleanName found).length < maxGetHostName
        · rw [dif_pos hRoom,
            run_bind_ok (storeParts_run ⟨_, hRoom⟩ s)]
          rfl
        · rw [dif_neg hRoom,
            run_bind_error (storeParts_overflow hRoom s)]

theorem sethostname_run
    (buf : Bytes)
    (size : Int)
    (s : HostNames) :
    sethostname buf size s =
      if size ≤ 0 ∨ size > maxGetHostName then
        .ok (.error .EINVAL, s)
      else if hRoom : buf.length < maxGetHostName then
        .ok (.ok (), s.store ⟨buf, hRoom⟩)
      else
        .error .hostname := by
  unfold sethostname
  by_cases hSize : size ≤ 0 ∨ size > maxGetHostName
  · rw [if_pos hSize, if_pos hSize]
    rfl
  · rw [if_neg hSize, if_neg hSize]
    by_cases hRoom : buf.length < maxGetHostName
    · rw [dif_pos hRoom,
        run_bind_ok (storeParts_run ⟨buf, hRoom⟩ s)]
      rfl
    · rw [dif_neg hRoom,
        run_bind_error (storeParts_overflow hRoom s)]

/- The domain name in force, empty when there is none. -/
def HostNames.domain (s : HostNames) : Bytes :=
  if s.gotdomainname then s.domainname.text else []

theorem getdomainname_run
    (name : Bool)
    (len : Nat)
    (s : HostNames) :
    getdomainname name len s =
      if len ≤ 0 ∨ len > maxGetDomainName then
        .ok (.error .EINVAL, s)
      else if name = false then
        .ok (.error .EFAULT, s)
      else if s.domain.length < len then
        .ok (.ok s.domain, s)
      else
        .error .caller := by
  unfold getdomainname
  by_cases hLen : len ≤ 0 ∨ len > maxGetDomainName
  · rw [if_pos hLen, if_pos hLen]
    rfl
  rw [if_neg hLen, if_neg hLen]
  by_cases hName : name = false
  · rw [if_pos hName, if_pos hName]
    rfl
  rw [if_neg hName, if_neg hName, run_bind_ok (run_get s)]
  by_cases hRoom : s.domain.length < len
  · have hCopy :
        strcpyCaller len s.domain s = .ok ((), s) := by
      simp [strcpyCaller, hRoom]
    rw [if_pos hRoom]
    exact run_bind_ok hCopy
  · have hCopy :
        strcpyCaller len s.domain s = .error .caller := by
      simp [strcpyCaller, hRoom]
    rw [if_neg hRoom]
    exact run_bind_error hCopy

theorem setdomainname_run
    (name : Option Bytes)
    (len : Nat)
    (s : HostNames) :
    setdomainname name len s =
      if len ≤ 0 ∨ len > maxGetDomainName then
        .ok (.error .EINVAL, s)
      else
        match name with
        | none => .ok (.error .EFAULT, s)
        | some name =>
            if hName : name.length < maxGetHostName then
              if hHost :
                  (s.withDomain name).length <
                    maxGetHostName then
                .ok (.ok (), s.storeDomain ⟨name, hName⟩
                  ⟨s.withDomain name, hHost⟩)
              else
                .error .hostname
            else
              .error .domainname := by
  unfold setdomainname
  by_cases hLen : len ≤ 0 ∨ len > maxGetDomainName
  · rw [if_pos hLen, if_pos hLen]
    rfl
  rw [if_neg hLen, if_neg hLen]
  cases name with
  | none => rfl
  | some name =>
      dsimp only
      by_cases hName : name.length < maxGetHostName
      · rw [dif_pos hName, run_bind_ok
            (strcpyStatic_run hName s),
          run_bind_ok (run_modify _ _),
          run_bind_ok (run_get _),
          run_bind_ok (strcpyStatic_run s.nodename.fits _)]
        by_cases hHost :
            (s.withDomain name).length < maxGetHostName
        · have hNode : (s.nodename.text ++ [dot]).length <
              maxGetHostName := by
            simp only [HostNames.withDomain,
              List.length_append, List.length_cons,
              List.length_nil] at hHost ⊢
            omega
          have hWhole :
              ((s.nodename.text ++ [dot]) ++ name).length <
                maxGetHostName := by
            simpa [HostNames.withDomain] using hHost
          rw [dif_pos hHost, run_bind_ok
              (strcpyStatic_run hNode _),
            run_bind_ok (strcpyStatic_run hWhole _)]
          simp [run_bind, HostNames.storeDomain,
            HostNames.withDomain]
        · rw [dif_neg hHost]
          by_cases hNode : (s.nodename.text ++ [dot]).length <
              maxGetHostName
          · have hWhole :
                ¬ ((s.nodename.text ++ [dot]) ++ name).length <
                  maxGetHostName := by
              simpa [HostNames.withDomain] using hHost
            rw [run_bind_ok
                (strcpyStatic_run hNode _),
              run_bind_error (strcpyStatic_overflow hWhole _)]
          · rw [run_bind_error
              (strcpyStatic_overflow hNode _)]
      · rw [dif_neg hName,
          run_bind_error (strcpyStatic_overflow hName s)]

------------------------------------------------------------
-- Runs Of Calls
------------------------------------------------------------

/- The calls, each with what it is given and meets. -/
inductive NameCall
  | gethostname (env : HostEnv) (buf : Bool) (size : Int)
  | sethostname (buf : Bytes) (size : Int)
  | getdomainname (name : Bool) (len : Nat)
  | setdomainname (name : Option Bytes) (len : Nat)

/- Execute one call. -/
def NameCall.exec : NameCall → NameCommand Unit
| .gethostname env buf size => do
    let _ ← Libsocket.gethostname env buf size
| .sethostname buf size => do
    let _ ← Libsocket.sethostname buf size
| .getdomainname name len => do
    let _ ← Libsocket.getdomainname name len
| .setdomainname name len => do
    let _ ← Libsocket.setdomainname name len

/- The process that makes the calls. -/
abbrev nameSystem : TransitionSystem HostNames NameCall :=
  .ofExec (fun s => s = .unknown) NameCall.exec

end Libsocket
