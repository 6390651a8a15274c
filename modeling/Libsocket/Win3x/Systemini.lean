import Libsocket.Addr.Getconfig
import Libsocket.Library.Strtok

/-
  What the configuration file of Windows 3.x tells: the
  interfaces and their addresses, the name servers and the
  names of the host.

  Main declarations:
    * `getinterfaces`, `getinterfaceaddr`, `getdnsaddrs`
    * `value_short`, `systemini_eq`
    * `getinterfaces_eq`
-/

namespace Libsocket.Win3x

------------------------------------------------------------
-- Look-Ups
------------------------------------------------------------

/-
  What `system.ini` holds, if it can be opened, what the
  buffers of a look-up hold at first, and which requests for
  memory are granted.
-/
structure SysiniEnv where
  file : Option Bytes
  line : Bytes → Bytes → Fin iniBufSize → UInt8
  buf : Bytes → Bytes → Nat → UInt8
  list : Bool
  copy : Nat → Bool
  dnsList : Bool
  hostCopy : Bool
  domainCopy : Bool
  loopback : Bool
  table : Bool

/- The size of `buf`. -/
def bufSize : Nat := 256

/- The look-up of each function, in a buffer of its own. -/
def systemini
    (env : SysiniEnv)
    (appname keyname : Bytes)
    (size : Nat) : Option (Bytes × Nat) :=
  getPrivateProfileString (env.line appname keyname)
    (some appname) (some keyname) none
    (List.ofFn fun i : Fin size => env.buf appname keyname i)
    size env.file

def comma : UInt8 := 44

------------------------------------------------------------
-- Interfaces
------------------------------------------------------------

/- `strdup`, which gives `NULL` for `NULL`. -/
def strdup
    (memory : Bool)
    (p : Option Bytes) : Option Bytes :=
  if memory then p else none

/- The copies in the list, up to the first `NULL`. -/
def copies (env : SysiniEnv) : Nat → List Bytes → List Bytes
| _, [] => []
| i, p :: ps =>
    match strdup (env.copy i) (some p) with
    | none => []
    | some p => p :: copies env (i + 1) ps

/-
  `__win3x_systemini_getinterfaces`: the strings of the list
  that is returned, or `none` for `NULL`. Names beyond those
  that were counted are stored behind the list.
-/
def getinterfaces
    (env : SysiniEnv) : Option (Option (List Bytes)) := do
  let (buf, n) ← systemini env (bytes "MSTCP")
    (bytes "Interfaces") bufSize
  if n = 0 then
    return none
  else
    let first := Strtok.strtok (· == equals) buf (some 0)
    if first.token = none then
      return none
    else
      let counted := Strtok.strtokRest (· == comma)
        first.buffer first.last
      if ¬ env.list then
        return none
      else
        let again := Strtok.strtok (· == equals) counted.2
          (some 0)
        let names := Strtok.strtokRest (· == comma)
          again.buffer again.last
        if counted.1.length < names.1.length then
          none
        else
          return some (copies env 0 names.1)

------------------------------------------------------------
-- Addresses
------------------------------------------------------------

/- `__win3x_systemini_getinterfaceaddr` -/
def getinterfaceaddr
    (env : SysiniEnv)
    (interface keyname : Bytes) : Option (Option InAddr) := do
  let (buf, n) ← systemini env interface keyname bufSize
  if n = 0 then
    return none
  else
    let text ← CString.read? buf
    return inetAton text

/- An address that must not be zero. -/
def nonZeroAddr
    (env : SysiniEnv)
    (keyname interface : Bytes) : Option (Option InAddr) :=
  (getinterfaceaddr env interface keyname).map fun ret =>
    ret.filter fun addr => decide (addr ≠ .any)

/- `__win3x_systemini_getipaddr` -/
def getipaddr (env : SysiniEnv) :
    Bytes → Option (Option InAddr) :=
  nonZeroAddr env (bytes "IPAddress")

/- `__win3x_systemini_getnetmask` -/
def getnetmask (env : SysiniEnv) :
    Bytes → Option (Option InAddr) :=
  nonZeroAddr env (bytes "IPMask")

/- `__win3x_systemini_getgwaddr` -/
def getgwaddr (env : SysiniEnv) :
    Bytes → Option (Option InAddr) :=
  nonZeroAddr env (bytes "DefaultGateway")

/- `__win3x_systemini_getdnsaddr` -/
def getdnsaddr
    (env : SysiniEnv)
    (interface : Bytes)
    (n : Nat) : Option (Option InAddr) :=
  if n < 1 ∨ 9 < n then
    some none
  else
    getinterfaceaddr env interface
      (bytes "NameServer" ++ decimal n)

/-
  `__win3x_systemini_getdnsaddrs`: the entries in front of
  the `NULL` at the end of the list. They point into the
  buffer of the function, and may be `NULL` themselves.
-/
def getdnsaddrs
    (env : SysiniEnv) :
    Option (Option (List (Option Nat))) := do
  let (buf, n) ← systemini env (bytes "DNS")
    (bytes "DNSServers") bufSize
  if n = 0 then
    return none
  else
    let text ← CString.read? buf
    if text = [] then
      return none
    else if ¬ env.dnsList then
      return none
    else
      return some (addrs buf (some 0)
        (text.count comma + 1))
where
  addrs (buf : Bytes) (last : Option Nat) :
      Nat → List (Option Nat)
  | 0 => []
  | n + 1 =>
      let found := Strtok.strtok (· == comma) buf last
      found.token :: addrs found.buffer found.last n

------------------------------------------------------------
-- Names
------------------------------------------------------------

/- The value of a key, in memory of its own. -/
def nameCopy
    (env : SysiniEnv)
    (keyname : Bytes)
    (size : Nat)
    (memory : Bool) : Option (Option Bytes) := do
  let (buf, n) ← systemini env (bytes "DNS") keyname size
  if n = 0 then
    return none
  else
    let text ← CString.read? buf
    return strdup memory (some text)

/- `__win3x_systemini_gethostname` -/
def gethostname (env : SysiniEnv) : Option (Option Bytes) :=
  nameCopy env (bytes "HostName") maxGetHostName env.hostCopy

/- `__win3x_systemini_getdomainname` -/
def getdomainname (env : SysiniEnv) : Option (Option Bytes) :=
  nameCopy env (bytes "DomainName") maxGetDomainName
    env.domainCopy

------------------------------------------------------------
-- What A Look-Up Gives
------------------------------------------------------------

/- A value is shorter than the line that it stands in. -/
theorem value_short
    {file : Option Bytes}
    {appname keyname value : Bytes}
    (hValue : valueIn file appname keyname = some value) :
    value.length < iniBufSize := by
  obtain ⟨text, -, hLookup⟩ :=
    Option.bind_eq_some_iff.mp hValue
  obtain ⟨i, ⟨-, line, hAt, hEntry⟩, -⟩ :=
    lookup_eq_some hLookup
  obtain ⟨read, hRead, rfl⟩ :=
    List.mem_map.mp (List.mem_of_getElem? hAt)
  have hLine : (lineText read).length ≤ read.length :=
    (List.takeWhile_sublist _).length_le
  have hShort := length_fgetsAll hRead
  have hAfter := Cut.length_after_le equals (lineText read)
  unfold pairOf? at hEntry
  split at hEntry
  · cases hEntry
    have hTrimmed :
        (trimmed (Cut.after equals (lineText read))).length ≤
          (Cut.after equals (lineText read)).length :=
      ((List.rdropWhile_prefix _ _).sublist.trans
        (List.dropWhile_sublist _)).length_le
    omega
  · cases hEntry

/- What a value leaves in the buffer, and the count of it. -/
theorem systemini_eq
    (env : SysiniEnv)
    (appname keyname : Bytes) :
    ∃ buf n, systemini env appname keyname bufSize =
        some (buf, n) ∧
      CString.read? buf =
        some ((valueIn env.file appname keyname).getD []) ∧
      (n = 0 ↔
        (valueIn env.file appname keyname).getD [] = []) := by
  have hDefault : ∀ text, (none : Option Bytes) = some text →
      CString.IsText text := by
    intro text hNone
    cases hNone
  have hRoom : bufSize ≤ (List.ofFn fun i : Fin bufSize =>
      env.buf appname keyname i).length := by
    rw [List.length_ofFn]
  obtain ⟨buf, n, hRun, hReceives, hCount⟩ :=
    getPrivateProfileString_receives
      (env.line appname keyname) appname keyname env.file
      hRoom (by decide) hDefault
  have hShort : ((valueIn env.file appname keyname).getD
      []).length ≤ bufSize - 1 := by
    cases hValue : valueIn env.file appname keyname with
    | none => exact Nat.zero_le _
    | some value => exact Nat.le_pred_of_lt (value_short hValue)
  have hReads := hReceives.reads
  simp only [Option.getD_none] at hReads hCount
  rw [List.take_of_length_le hShort] at hReads hCount
  refine ⟨buf, n, hRun, hReads, ?_⟩
  cases hFile : env.file with
  | none =>
      have hNone : systemini env appname keyname bufSize =
          some (buf, n) := hRun
      unfold systemini getPrivateProfileString at hNone
      rw [hFile] at hNone
      obtain ⟨dest, -, hEnd⟩ :=
        Option.bind_eq_some_iff.mp hNone
      cases hEnd
      exact ⟨fun _ => rfl, fun _ => rfl⟩
  | some file =>
      rw [hFile] at hCount
      rw [hCount rfl, List.length_eq_zero_iff]

------------------------------------------------------------
-- The List Of Interfaces
------------------------------------------------------------

/- The value of the key, or nothing. -/
def interfaceValue (file : Option Bytes) : Bytes :=
  (valueIn file (bytes "MSTCP") (bytes "Interfaces")).getD []

/-
  The list is always empty: what stands in front of the first
  equals sign of the value is taken for the key, and when the
  names are to be copied the first count has cut the value
  off behind it.
-/
theorem getinterfaces_eq (env : SysiniEnv) :
    getinterfaces env =
      if (∃ b ∈ interfaceValue env.file, b ≠ equals) ∧
          env.list = true then
        some (some [])
      else
        some none := by
  obtain ⟨buf, n, hRun, hReads, hCount⟩ :=
    systemini_eq env (bytes "MSTCP") (bytes "Interfaces")
  change CString.read? buf = some (interfaceValue env.file)
    at hReads
  change n = 0 ↔ interfaceValue env.file = [] at hCount
  have hHolds := CString.holdsAt_of_read? hReads
  have hFirst := @Strtok.strtok_none_iff (· == equals) buf _ 0
    hHolds (by decide)
  unfold getinterfaces
  simp only [hRun, Option.bind_eq_bind, Option.bind_some,
    Option.pure_def]
  by_cases hKey : ∃ b ∈ interfaceValue env.file, b ≠ equals
  · obtain ⟨b, hMem, hPlain⟩ := hKey
    have hSome : n ≠ 0 := by
      intro hZero
      rw [hCount.mp hZero] at hMem
      cases hMem
    cases hToken : (Strtok.strtok (· == equals) buf
        (some 0)).token with
    | none =>
        have hEquals := hFirst.mp hToken b hMem
        exact absurd (beq_iff_eq.mp hEquals) hPlain
    | some t =>
        have hAgain := @Strtok.strtok_again (· == equals) buf _
          0 (· == comma) t hHolds (by decide) hToken
        dsimp only at hAgain
        rw [if_neg hSome, if_neg (by simp), hAgain]
        cases hList : env.list with
        | false => simp
        | true =>
            simp only [Strtok.strtokRest_none,
              not_true_eq_false, if_false, List.length_nil,
              Nat.not_lt_zero, copies]
            rw [if_pos ⟨⟨b, hMem, hPlain⟩, trivial⟩]
  · have hNot : ¬ ((∃ b ∈ interfaceValue env.file,
        b ≠ equals) ∧ env.list = true) :=
      fun hBoth => hKey hBoth.1
    have hNone := hFirst.mpr (by
      intro b hMem
      by_contra hOther
      apply hKey
      refine ⟨b, hMem, ?_⟩
      intro hSame
      exact hOther (beq_iff_eq.mpr hSame))
    rw [if_neg hNot, if_pos hNone]
    split
    · rfl
    · rfl

end Libsocket.Win3x
