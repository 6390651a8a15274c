import Libsocket.Addr
import Libsocket.Library.Cursor

/-
  The options that DHCP left in the registry of Windows '9x.
  They lie in one block of bytes, and every access to it is
  checked: one outside the block stops the look-up.

  Main declarations:
    * `dhcpGetkeyvalue`, `dhcpFind`
    * `dhcpGetoptaddrs`, `dhcpGetname`
    * `DhcpLookup`
    * `stays_in_block_iff`
-/

namespace Libsocket

open Cursor

------------------------------------------------------------
-- The Block
------------------------------------------------------------

/- The size of the buffer that a value is read into. -/
def dhcpBufferSize : Nat := 256

/-
  The answers for a DHCP info key: those of the calls that
  open the keys, that of the query for `DhcpIndex` and its
  value, the value called `OptionInfo`, and whether there is
  memory for a copy.
-/
structure DhcpEnv where
  openInfo : Int
  openSubkey : Int
  indexAnswer : Int
  valid : Nat
  optionInfo : Option Bytes
  memory : Bool
deriving DecidableEq

/- The key is there and in use. -/
def DhcpEnv.isValid (env : DhcpEnv) : Bool :=
  env.openInfo == 0 && env.openSubkey == 0 &&
    env.indexAnswer == 0 && env.valid != 0xffffffff

/-
  `__win9x_dhcp_getkeyvalue` for `OptionInfo`. A longer value
  is copied behind the end of the buffer.
-/
def dhcpGetkeyvalue (env : DhcpEnv) : Checked (Option Bytes) :=
  if env.isValid then
    match env.optionInfo with
    | none => .ok none
    | some value =>
        if dhcpBufferSize < value.length then
          .error dhcpBufferSize
        else if env.memory then
          .ok (some value)
        else
          .ok none
  else
    .ok none

/- The value of a `char`, which is signed. -/
def signedChar (b : UInt8) : Int :=
  if b.toNat < 128 then b.toNat else (b.toNat : Int) - 256

/- The first byte that equals the code of an option. -/
def dhcpFind (opt : Int) (i : Nat) : Bytes → Option Nat
| [] => none
| b :: bs =>
    if signedChar b = opt then
      some i
    else
      dhcpFind opt (i + 1) bs

------------------------------------------------------------
-- Addresses
------------------------------------------------------------

/- What a look-up leaves with its caller. -/
structure DhcpAnswer where
  ret : Int
  ip : List InAddr
  name : Option Bytes
  bufferlen : Nat
deriving DecidableEq

/- `memcpy` to an address -/
def dhcpReadAddr (p : Bytes) (i : Int) : Checked InAddr := do
  let b ← fetch p 4 i
  return InAddr.ofBytes b

/- The loop that copies addresses while there is room. -/
def dhcpCopyAddrs
    (p : Bytes) : Nat → Int → Int → Checked (List InAddr)
| 0, _, _ => return []
| room + 1, i, addrlen =>
    if addrlen > 0 then do
      let a ← dhcpReadAddr p i
      let as ← dhcpCopyAddrs p room (i + 4) (addrlen - 4)
      return a :: as
    else
      return []

/-
  The test for a length that is not a multiple of 4, as it is
  computed: in unsigned arithmetic of 32 bits.
-/
def dhcpCheckLen (addrlen : Int) : Bool :=
  (4 * addrlen) % 4294967296 / 4 == addrlen % 4294967296

/- What is done with the option at `i`. -/
def dhcpAddrsAt
    (ipMax : Int)
    (p : Bytes)
    (i : Nat) : Checked DhcpAnswer := do
  let addrlen := signedChar (← peek p (i + 1))
  if addrlen = 0 then
    return ⟨0, [], none, 0⟩
  else if dhcpCheckLen addrlen = false then
    return ⟨0, [], none, 0⟩
  else do
    let ip ← dhcpCopyAddrs p ipMax.toNat (i + 2) addrlen
    return ⟨1, ip, none, 0⟩

/- `__win9x_dhcp_getoptaddrs` -/
def dhcpGetoptaddrs
    (env : DhcpEnv)
    (opt ipMax : Int) : Checked DhcpAnswer := do
  match ← dhcpGetkeyvalue env with
  | none => return ⟨0, [], none, 0⟩
  | some p =>
      match dhcpFind opt 0 p with
      | none => return ⟨0, [], none, 0⟩
      | some i => dhcpAddrsAt ipMax p i

------------------------------------------------------------
-- Names
------------------------------------------------------------

/-
  What `strncpy` stores: the string, and then NULs. `n` bytes
  are still to be stored.
-/
def strncpyFrom
    (p : Bytes) : Nat → Int → Checked Bytes
| 0, _ => return []
| n + 1, i => do
    let b ← peek p i
    if b = 0 then
      return List.replicate (n + 1) 0
    else do
      let bs ← strncpyFrom p n (i + 1)
      return b :: bs

/-
  What is done with the option at `i`. The last store was
  meant for the caller's buffer, and goes into the block.
-/
def dhcpNameAt
    (bufferlen : Nat)
    (p : Bytes)
    (i : Nat) : Checked DhcpAnswer := do
  let namelen := signedChar (← peek p (i + 1))
  if namelen ≤ 0 then
    return ⟨1, [], none, bufferlen⟩
  else do
    let p ← poke p (i + 2 + namelen) 0
    let n :=
      if namelen < bufferlen then namelen.toNat
      else bufferlen
    let name ← strncpyFrom p n (i + 2)
    let _ ← poke p (n - 1) 0
    return ⟨1, [], some name, n⟩

/-
  `__win9x_dhcp_gethostname` and `__win9x_dhcp_getdomainname`,
  which differ in the option.
-/
def dhcpGetname
    (env : DhcpEnv)
    (opt : Int)
    (bufferlen : Nat) : Checked DhcpAnswer := do
  match ← dhcpGetkeyvalue env with
  | none => return ⟨0, [], none, bufferlen⟩
  | some p =>
      match dhcpFind opt 0 p with
      | none => return ⟨1, [], none, bufferlen⟩
      | some i => dhcpNameAt bufferlen p i

/- `DHCP_OPT_HOST_NAME` and `DHCP_OPT_DOMAIN_NAME` -/
def dhcpOptHostName : UInt8 := 12
def dhcpOptDomainName : UInt8 := 15

/- `__win9x_dhcp_gethostname` -/
def dhcpGethostname (env : DhcpEnv) (bufferlen : Nat) :
    Checked DhcpAnswer :=
  dhcpGetname env dhcpOptHostName.toNat bufferlen

/- `__win9x_dhcp_getdomainname` -/
def dhcpGetdomainname (env : DhcpEnv) (bufferlen : Nat) :
    Checked DhcpAnswer :=
  dhcpGetname env dhcpOptDomainName.toNat bufferlen

------------------------------------------------------------
-- The Three Look-Ups
------------------------------------------------------------

/- A call, with the buffer that a name is to be stored in. -/
inductive DhcpLookup
| addrs (opt : UInt8) (ipMax : Int)
| hostname (buffer : Bytes)
| domainname (buffer : Bytes)
deriving DecidableEq

namespace DhcpLookup

/- The code of the option that is looked up. -/
def code : DhcpLookup → UInt8
| addrs opt _ => opt
| hostname _ => dhcpOptHostName
| domainname _ => dhcpOptDomainName

def run (env : DhcpEnv) : DhcpLookup → Checked DhcpAnswer
| addrs opt ipMax => dhcpGetoptaddrs env opt.toNat ipMax
| hostname buffer => dhcpGethostname env buffer.length
| domainname buffer => dhcpGetdomainname env buffer.length

end DhcpLookup

/- The caller's buffer afterwards. -/
def DhcpAnswer.buffer (r : DhcpAnswer) (buffer : Bytes) :
    Bytes :=
  overlay buffer (r.name.getD [])

------------------------------------------------------------
-- What The Loops Make Of The Block
------------------------------------------------------------

/- The addresses that some bytes hold, in whole. -/
def optionAddrs : Bytes → List InAddr
| b₀ :: b₁ :: b₂ :: b₃ :: bs =>
    ⟨b₀, b₁, b₂, b₃⟩ :: optionAddrs bs
| _ => []

/- How many times the loop over the addresses is run. -/
def addrRounds (room len : Nat) : Nat :=
  min room ((len + 3) / 4)

/- The bytes that `strncpy` stores for a string. -/
def strncpy (n : Nat) (src : Bytes) : Bytes :=
  let text := (src.take n).takeWhile fun b => b != 0
  text ++ List.replicate (n - text.length) 0

theorem dhcpReadAddr_eq
    {p : Bytes}
    {i : Nat}
    (hInside : i + 4 ≤ p.length) :
    dhcpReadAddr p i = .ok (InAddr.ofBytes (p.drop i)) := by
  rw [dhcpReadAddr, fetch_eq hInside, ok_bind]
  change Except.ok _ = Except.ok _
  congr 1
  simp [InAddr.ofBytes, List.getD]

/- A block that holds an address begins with it. -/
theorem optionAddrs_cons
    {b : Bytes}
    (hLong : 4 ≤ b.length) :
    optionAddrs b =
      InAddr.ofBytes b :: optionAddrs (b.drop 4) := by
  match b, hLong with
  | b₀ :: b₁ :: b₂ :: b₃ :: bs, _ => rfl

/- The loop that copies addresses stays in the block. -/
theorem dhcpCopyAddrs_eq
    {p : Bytes}
    {room i : Nat}
    {addrlen : Int}
    (hInside :
      i + 4 * addrRounds room addrlen.toNat ≤ p.length) :
    dhcpCopyAddrs p room i addrlen =
      .ok ((optionAddrs (p.drop i)).take
        (addrRounds room addrlen.toNat)) := by
  induction room generalizing i addrlen with
  | zero =>
      have hNone : addrRounds 0 addrlen.toNat = 0 := by
        unfold addrRounds
        omega
      rw [hNone]
      rfl
  | succ room ih =>
      rw [dhcpCopyAddrs]
      by_cases hMore : addrlen > 0
      · have hRounds : addrRounds (room + 1) addrlen.toNat =
            addrRounds room (addrlen - 4).toNat + 1 := by
          unfold addrRounds
          omega
        rw [hRounds] at hInside ⊢
        have hRest := @ih (i + 4) (addrlen - 4) (by omega)
        have hNext : ((i + 4 : Nat) : Int) = (i : Int) + 4 :=
          rfl
        rw [hNext] at hRest
        have hLong : 4 ≤ (p.drop i).length := by
          rw [List.length_drop]
          omega
        rw [if_pos hMore, dhcpReadAddr_eq (by omega), ok_bind,
          hRest, ok_bind, optionAddrs_cons hLong,
          List.take_succ_cons, List.drop_drop]
        rfl
      · have hNone : addrRounds (room + 1) addrlen.toNat = 0 := by
          unfold addrRounds
          omega
        rw [if_neg hMore, hNone]
        rfl

/- The loop leaves the block. -/
theorem dhcpCopyAddrs_outside
    {p : Bytes}
    {room i : Nat}
    {addrlen : Int}
    (hInside : i ≤ p.length)
    (hOutside :
      p.length < i + 4 * addrRounds room addrlen.toNat)
    (ip : List InAddr) :
    dhcpCopyAddrs p room i addrlen ≠ .ok ip := by
  induction room generalizing i addrlen ip with
  | zero =>
      have hNone : addrRounds 0 addrlen.toNat = 0 := by
        unfold addrRounds
        omega
      omega
  | succ room ih =>
      intro hRun
      rw [dhcpCopyAddrs] at hRun
      have hMore : addrlen > 0 := by
        unfold addrRounds at hOutside
        omega
      have hRounds : addrRounds (room + 1) addrlen.toNat =
          addrRounds room (addrlen - 4).toNat + 1 := by
        unfold addrRounds
        omega
      rw [hRounds] at hOutside
      rw [if_pos hMore] at hRun
      by_cases hHere : i + 4 ≤ p.length
      · have hNext : ((i + 4 : Nat) : Int) = (i : Int) + 4 :=
          rfl
        rw [dhcpReadAddr_eq hHere, ok_bind, ← hNext] at hRun
        cases hRest : dhcpCopyAddrs p room ((i + 4 : Nat) : Int)
            (addrlen - 4) with
        | error e =>
            rw [hRest] at hRun
            cases hRun
        | ok as => exact ih hHere (by omega) as hRest
      · rw [dhcpReadAddr] at hRun
        cases hRead : fetch p 4 (i : Int) with
        | error e =>
            rw [hRead] at hRun
            cases hRun
        | ok b =>
            exact fetch_outside (by decide) (by omega) b hRead

theorem strncpy_cons
    (n : Nat)
    (b : UInt8)
    (bs : Bytes) :
    strncpy (n + 1) (b :: bs) =
      if b = 0 then
        List.replicate (n + 1) 0
      else
        b :: strncpy n bs := by
  by_cases hEnd : b = 0
  · simp [strncpy, hEnd]
  · simp [strncpy, hEnd]

theorem strncpyFrom_eq
    {p : Bytes}
    {n i : Nat}
    (hInside : i + n ≤ p.length) :
    strncpyFrom p n i = .ok (strncpy n (p.drop i)) := by
  induction n generalizing i with
  | zero => rfl
  | succ n ih =>
      have hHere : i < p.length := by omega
      have hNext : ((i + 1 : Nat) : Int) = (i : Int) + 1 := rfl
      have hRest := @ih (i + 1) (by omega)
      rw [hNext] at hRest
      rw [strncpyFrom, peek_of_lt hHere, ok_bind, hRest,
        ok_bind, List.drop_eq_getElem_cons hHere, List.getD,
        List.getElem?_eq_getElem hHere]
      change (if p[i] = 0 then _ else _) = Except.ok _
      rw [strncpy_cons]
      by_cases hEnd : p[i] = 0
      · rw [if_pos hEnd, if_pos hEnd]
        rfl
      · rw [if_neg hEnd, if_neg hEnd]
        rfl

------------------------------------------------------------
-- The Look-Ups In Parts
------------------------------------------------------------

namespace DhcpLookup

/- The answer when there is no block. -/
def unread : DhcpLookup → DhcpAnswer
| addrs _ _ => ⟨0, [], none, 0⟩
| hostname buffer => ⟨0, [], none, buffer.length⟩
| domainname buffer => ⟨0, [], none, buffer.length⟩

/- The answer when no byte equals the code. -/
def notFound : DhcpLookup → DhcpAnswer
| addrs _ _ => ⟨0, [], none, 0⟩
| hostname buffer => ⟨1, [], none, buffer.length⟩
| domainname buffer => ⟨1, [], none, buffer.length⟩

/- What is done when a byte does. -/
def foundAt : DhcpLookup → Bytes → Nat → Checked DhcpAnswer
| addrs _ ipMax => dhcpAddrsAt ipMax
| hostname buffer => dhcpNameAt buffer.length
| domainname buffer => dhcpNameAt buffer.length

variable {env : DhcpEnv} {p : Bytes} {i : Nat}

/- The three calls differ in what they do with the block. -/
theorem run_eq (call : DhcpLookup) :
    call.run env = dhcpGetkeyvalue env >>= fun
      | none => .ok call.unread
      | some p =>
          match dhcpFind call.code.toNat 0 p with
          | none => .ok call.notFound
          | some i => call.foundAt p i := by
  cases call with
  | addrs opt ipMax => rfl
  | hostname buffer => rfl
  | domainname buffer => rfl

theorem run_unread
    (call : DhcpLookup)
    (hNone : dhcpGetkeyvalue env = .ok none) :
    call.run env = .ok call.unread := by
  rw [run_eq, hNone, ok_bind]

theorem run_notFound
    (call : DhcpLookup)
    (hBlock : dhcpGetkeyvalue env = .ok (some p))
    (hFind : dhcpFind call.code.toNat 0 p = none) :
    call.run env = .ok call.notFound := by
  rw [run_eq, hBlock, ok_bind]
  simp only [hFind]

theorem run_found
    (call : DhcpLookup)
    (hBlock : dhcpGetkeyvalue env = .ok (some p))
    (hFind : dhcpFind call.code.toNat 0 p = some i) :
    call.run env = call.foundAt p i := by
  rw [run_eq, hBlock, ok_bind]
  simp only [hFind]

end DhcpLookup

/- A byte that is found lies in the block. -/
theorem dhcpFind_lt
    {opt : Int}
    {p : Bytes}
    {i k : Nat}
    (hFind : dhcpFind opt i p = some k) :
    k < i + p.length := by
  induction p generalizing i with
  | nil => cases hFind
  | cons b bs ih =>
      rw [dhcpFind] at hFind
      split at hFind
      · cases hFind
        simp
      · have hRest := ih hFind
        rw [List.length_cons]
        omega

/- The lengths that the test lets pass. -/
theorem dhcpCheckLen_eq
    {addrlen : Int}
    (hLow : -128 ≤ addrlen)
    (hHigh : addrlen < 128) :
    dhcpCheckLen addrlen = decide (0 ≤ addrlen) := by
  unfold dhcpCheckLen
  by_cases hNeg : 0 ≤ addrlen
  · rw [decide_eq_true hNeg, beq_iff_eq]
    omega
  · rw [decide_eq_false hNeg, beq_eq_false_iff_ne]
    omega

theorem signedChar_bounds (b : UInt8) :
    -128 ≤ signedChar b ∧ signedChar b < 128 := by
  have hByte := b.toNat_lt
  unfold signedChar
  split
  · omega
  · omega

------------------------------------------------------------
-- What Is Done With An Option
------------------------------------------------------------

/- The length of the option at an index. -/
def optionLength (p : Bytes) (i : Nat) : Int :=
  signedChar (p.getD (i + 1) 0)

theorem dhcpAddrsAt_short
    {ipMax : Int}
    {p : Bytes}
    {i : Nat}
    (hInside : i + 1 < p.length)
    (hLength : optionLength p i ≤ 0) :
    dhcpAddrsAt ipMax p i = .ok ⟨0, [], none, 0⟩ := by
  have hPeek := peek_of_lt hInside
  have hNext : ((i + 1 : Nat) : Int) = (i : Int) + 1 := rfl
  rw [hNext] at hPeek
  have hBounds := signedChar_bounds (p.getD (i + 1) 0)
  unfold optionLength at hLength
  rw [dhcpAddrsAt, hPeek, ok_bind]
  by_cases hZero : signedChar (p.getD (i + 1) 0) = 0
  · rw [if_pos hZero]
    rfl
  · have hCheck := dhcpCheckLen_eq hBounds.1 hBounds.2
    rw [decide_eq_false (by omega)] at hCheck
    rw [if_neg hZero, if_pos hCheck]
    rfl

theorem dhcpAddrsAt_long
    {ipMax : Int}
    {p : Bytes}
    {i : Nat}
    (hInside : i + 1 < p.length)
    (hLength : 0 < optionLength p i) :
    dhcpAddrsAt ipMax p i = (do
      let ip ← dhcpCopyAddrs p ipMax.toNat ((i + 2 : Nat) : Int)
        (optionLength p i)
      return ⟨1, ip, none, 0⟩) := by
  have hPeek := peek_of_lt hInside
  have hNext : ((i + 1 : Nat) : Int) = (i : Int) + 1 := rfl
  rw [hNext] at hPeek
  have hBounds := signedChar_bounds (p.getD (i + 1) 0)
  unfold optionLength at hLength ⊢
  have hCheck := dhcpCheckLen_eq hBounds.1 hBounds.2
  rw [decide_eq_true (by omega)] at hCheck
  rw [dhcpAddrsAt, hPeek, ok_bind, if_neg (by omega),
    if_neg (by rw [hCheck]; decide)]
  rfl

theorem dhcpNameAt_short
    {bufferlen : Nat}
    {p : Bytes}
    {i : Nat}
    (hInside : i + 1 < p.length)
    (hLength : optionLength p i ≤ 0) :
    dhcpNameAt bufferlen p i =
      .ok ⟨1, [], none, bufferlen⟩ := by
  have hPeek := peek_of_lt hInside
  have hNext : ((i + 1 : Nat) : Int) = (i : Int) + 1 := rfl
  rw [hNext] at hPeek
  unfold optionLength at hLength
  rw [dhcpNameAt, hPeek, ok_bind, if_pos hLength]
  rfl

/- The number of bytes of a name that are copied. -/
def nameLength (bufferlen : Nat) (p : Bytes) (i : Nat) : Nat :=
  min (optionLength p i).toNat bufferlen

/- A byte behind the name does not change what is copied. -/
theorem strncpy_set
    {p : Bytes}
    {n i k : Nat}
    (hBehind : i + n ≤ k) :
    strncpy n ((p.set k 0).drop i) = strncpy n (p.drop i) := by
  have hTake : ((p.set k 0).drop i).take n =
      (p.drop i).take n := by
    rw [List.drop_set, if_neg (by omega),
      List.take_set_of_le (by omega)]
  unfold strncpy
  rw [hTake]

theorem dhcpNameAt_long
    {bufferlen : Nat}
    {p : Bytes}
    {i : Nat}
    (hLength : 0 < optionLength p i)
    (hBehind : i + 2 + optionLength p i < p.length)
    (hRoom : 0 < bufferlen) :
    dhcpNameAt bufferlen p i =
      .ok ⟨1, [], some (strncpy (nameLength bufferlen p i)
        (p.drop (i + 2))), nameLength bufferlen p i⟩ := by
  have hPeek := @peek_of_lt p (i + 1) (by omega)
  have hNext : ((i + 1 : Nat) : Int) = (i : Int) + 1 := rfl
  rw [hNext] at hPeek
  obtain ⟨len, hLen⟩ := Int.eq_ofNat_of_zero_le (by omega :
    0 ≤ optionLength p i)
  have hCount : nameLength bufferlen p i =
      if optionLength p i < bufferlen then
        (optionLength p i).toNat else bufferlen := by
    unfold nameLength
    split
    · omega
    · omega
  have hSmall : nameLength bufferlen p i ≤ len := by
    unfold nameLength
    omega
  have hPositive : 0 < nameLength bufferlen p i := by
    unfold nameLength
    omega
  have hPoke := @poke_of_lt p (i + 2 + len) (by omega) 0
  have hCopy := @strncpyFrom_eq (p.set (i + 2 + len) 0)
    (nameLength bufferlen p i) (i + 2)
    (by rw [List.length_set]; omega)
  rw [strncpy_set (by omega)] at hCopy
  have hLast := @poke_of_lt (p.set (i + 2 + len) 0)
    (nameLength bufferlen p i - 1)
    (by rw [List.length_set]; omega) 0
  have hEnd : ((i + 2 + len : Nat) : Int) =
      (i : Int) + 2 + optionLength p i := by
    rw [hLen]
    rfl
  have hBefore : ((nameLength bufferlen p i - 1 : Nat) : Int) =
      (nameLength bufferlen p i : Int) - 1 := by
    omega
  rw [hEnd] at hPoke
  rw [hBefore] at hLast
  have hStart : ((i + 2 : Nat) : Int) = (i : Int) + 2 := rfl
  rw [hStart] at hCopy
  unfold optionLength at hLength hPoke hCount
  rw [dhcpNameAt, hPeek, ok_bind, if_neg (by omega), hPoke,
    ok_bind, ← hCount]
  dsimp only
  rw [hCopy, ok_bind, hLast, ok_bind]
  rfl

/- A name that is not copied inside the block. -/
theorem dhcpNameAt_outside
    {bufferlen : Nat}
    {p : Bytes}
    {i : Nat}
    (hLength : 0 < optionLength p i)
    (hOutside : p.length ≤ i + 2 + optionLength p i ∨
      bufferlen = 0)
    (r : DhcpAnswer) :
    dhcpNameAt bufferlen p i ≠ .ok r := by
  intro hRun
  unfold optionLength at hLength hOutside
  rw [dhcpNameAt] at hRun
  cases hPeek : peek p ((i : Int) + 1) with
  | error e =>
      rw [hPeek] at hRun
      cases hRun
  | ok b =>
    have hByte : p.getD (i + 1) 0 = b := by
      unfold peek at hPeek
      split at hPeek
      · cases hPeek
        rfl
      · cases hPeek
    rw [hByte] at hLength hOutside
    rw [hPeek, ok_bind, if_neg (by omega)] at hRun
    cases hPoke : poke p ((i : Int) + 2 + signedChar b) 0 with
    | error e =>
        rw [hPoke] at hRun
        cases hRun
    | ok p' =>
      have hInside : (i : Int) + 2 + signedChar b <
          p.length := by
        unfold poke at hPoke
        split at hPoke
        next hBounds => exact hBounds.2
        next => cases hPoke
      have hNone : bufferlen = 0 := by omega
      subst hNone
      rw [hPoke, ok_bind, if_neg (by omega)] at hRun
      cases hRun

------------------------------------------------------------
-- Look-Ups That Stay In The Block
------------------------------------------------------------

/-
  What holds of an answer whatever the block is: an option
  whose length is not a multiple of 4 gives no addresses, no
  more addresses are stored than there is room for, and a
  name is terminated in the caller's buffer.
-/
def DhcpLookup.Bounded
    (env : DhcpEnv)
    (r : DhcpAnswer) : DhcpLookup → Prop
| addrs opt ipMax =>
    r.ip.length ≤ ipMax.toNat ∧
      ∀ p i, env.optionInfo = some p →
        dhcpFind opt.toNat 0 p = some i →
          optionLength p i % 4 ≠ 0 → r.ret = 0
| hostname buffer => r.name ≠ none → 0 ∈ r.buffer buffer
| domainname buffer => r.name ≠ none → 0 ∈ r.buffer buffer

/- Every access lies in the block, and the answer is bounded. -/
def StaysInBlock (env : DhcpEnv) (call : DhcpLookup) : Prop :=
  ∃ r, call.run env = .ok r ∧ call.Bounded env r

/-
  The name of the option at `i` can be copied: a byte of the
  block follows it, and it is terminated where it is copied
  to.
-/
def TextFits (buffer p : Bytes) (i : Nat) : Prop :=
  i + 2 + optionLength p i < p.length ∧ 0 < buffer.length ∧
    (0 ∈ (p.drop (i + 2)).take
        (nameLength buffer.length p i) ∨
      0 ∈ buffer.drop (nameLength buffer.length p i))

/-
  The addresses of the option at `i` can be copied: its
  length is a multiple of 4, and those that there is room for
  lie in the block.
-/
def AddrsFit (ipMax : Int) (p : Bytes) (i : Nat) : Prop :=
  optionLength p i % 4 = 0 ∧
    i + 2 + 4 * addrRounds ipMax.toNat
      (optionLength p i).toNat ≤ p.length

def DhcpLookup.Fits (p : Bytes) (i : Nat) :
    DhcpLookup → Prop
| addrs _ ipMax => AddrsFit ipMax p i
| hostname buffer => TextFits buffer p i
| domainname buffer => TextFits buffer p i

/-
  The condition on the block: it fits the buffer it is read
  into, and if one of its bytes equals the code, another
  follows, which is no positive length or the length of an
  option that fits.
-/
def BlockFits (env : DhcpEnv) (call : DhcpLookup) : Prop :=
  env.isValid = true → ∀ p, env.optionInfo = some p →
    p.length ≤ dhcpBufferSize ∧
      (env.memory = true →
        ∀ i, dhcpFind call.code.toNat 0 p = some i →
          i + 1 < p.length ∧
            (optionLength p i ≤ 0 ∨ call.Fits p i))

/- A string that is copied is terminated in what is stored. -/
theorem zero_mem_strncpy
    {n : Nat}
    {src : Bytes}
    (hLong : n ≤ src.length) :
    0 ∈ strncpy n src ↔ 0 ∈ src.take n := by
  have hTake : (src.take n).length = n := by
    rw [List.length_take]
    omega
  unfold strncpy
  by_cases hEnds : 0 ∈ src.take n
  · have hLess := CString.length_takeWhile_lt hEnds
    simp only [hEnds, iff_true, List.mem_append,
      List.mem_replicate]
    right
    constructor
    · omega
    · trivial
  · have hAll : ((src.take n).takeWhile fun b => b != 0) =
        src.take n := by
      rw [List.takeWhile_eq_self_iff]
      intro b hB
      rw [bne_iff_ne]
      exact fun hZero => hEnds (hZero ▸ hB)
    dsimp only
    rw [hAll, hTake, Nat.sub_self, List.replicate_zero,
      List.append_nil]

theorem length_strncpy (n : Nat) (src : Bytes) :
    (strncpy n src).length = n := by
  have hLe := (List.takeWhile_prefix
    (l := src.take n) fun b => b != 0).length_le
  rw [List.length_take] at hLe
  unfold strncpy
  dsimp only
  rw [List.length_append, List.length_replicate]
  omega

/- Behind a name the caller's buffer is as it was. -/
theorem zero_mem_buffer
    {n : Nat}
    {src buffer : Bytes}
    (hLong : n ≤ src.length)
    (hRoom : n ≤ buffer.length) :
    0 ∈ overlay buffer (strncpy n src) ↔
      0 ∈ src.take n ∨ 0 ∈ buffer.drop n := by
  have hLength := length_strncpy n src
  rw [overlay, hLength, List.take_of_length_le (by omega),
    List.mem_append, zero_mem_strncpy hLong]

/- The addresses of the option at an index. -/
theorem dhcpAddrsAt_stays_iff
    {env : DhcpEnv}
    {opt : UInt8}
    {ipMax : Int}
    {p : Bytes}
    {i : Nat}
    (hInfo : env.optionInfo = some p)
    (hFind : dhcpFind opt.toNat 0 p = some i) :
    (∃ r, dhcpAddrsAt ipMax p i = .ok r ∧
        (DhcpLookup.addrs opt ipMax).Bounded env r) ↔
      i + 1 < p.length ∧
        (optionLength p i ≤ 0 ∨ AddrsFit ipMax p i) := by
  have hIndex := dhcpFind_lt hFind
  rw [Nat.zero_add] at hIndex
  by_cases hInside : i + 1 < p.length
  · by_cases hLength : optionLength p i ≤ 0
    · simp only [hInside, hLength, true_or, and_self, iff_true]
      refine ⟨_, dhcpAddrsAt_short hInside hLength, ?_⟩
      exact ⟨Nat.zero_le _, fun _ _ _ _ _ => rfl⟩
    · simp only [hInside, hLength, false_or, true_and]
      rw [dhcpAddrsAt_long hInside (by omega)]
      constructor
      · rintro ⟨r, hRun, hBounded⟩
        cases hCopy : dhcpCopyAddrs p ipMax.toNat
            ((i + 2 : Nat) : Int) (optionLength p i) with
        | error e =>
            rw [hCopy] at hRun
            cases hRun
        | ok ip =>
            rw [hCopy, ok_bind] at hRun
            cases hRun
            constructor
            · by_contra hQuad
              have hRejects := hBounded.2 p i hInfo hFind hQuad
              cases hRejects
            · by_contra hOutside
              exact dhcpCopyAddrs_outside (by omega)
                (by omega) ip hCopy
      · rintro ⟨hQuad, hBlock⟩
        rw [dhcpCopyAddrs_eq hBlock, ok_bind]
        refine ⟨_, rfl, ?_, ?_⟩
        · rw [List.length_take]
          unfold addrRounds
          omega
        · intro p' i' hInfo' hFind' hOdd
          rw [hInfo] at hInfo'
          cases hInfo'
          rw [hFind] at hFind'
          cases hFind'
          exact absurd hQuad hOdd
  · simp only [hInside, false_and, iff_false]
    rintro ⟨r, hRun, -⟩
    have hPeek := @peek_of_le p (i + 1) (by omega)
    have hNext : ((i + 1 : Nat) : Int) = (i : Int) + 1 := rfl
    rw [hNext] at hPeek
    rw [dhcpAddrsAt, hPeek] at hRun
    cases hRun

/- The name of the option at an index. -/
theorem dhcpNameAt_stays_iff
    {buffer p : Bytes}
    {i : Nat} :
    (∃ r, dhcpNameAt buffer.length p i = .ok r ∧
        (r.name ≠ none → 0 ∈ r.buffer buffer)) ↔
      i + 1 < p.length ∧
        (optionLength p i ≤ 0 ∨ TextFits buffer p i) := by
  by_cases hInside : i + 1 < p.length
  · by_cases hLength : optionLength p i ≤ 0
    · simp only [hInside, hLength, true_or, and_self, iff_true]
      refine ⟨_, dhcpNameAt_short hInside hLength, ?_⟩
      exact fun hSome => absurd rfl hSome
    · simp only [hInside, hLength, false_or, true_and]
      by_cases hCopies : i + 2 + optionLength p i < p.length ∧
          0 < buffer.length
      · have hRun := dhcpNameAt_long (by omega) hCopies.1
          hCopies.2
        have hLong : nameLength buffer.length p i ≤
            (p.drop (i + 2)).length := by
          rw [List.length_drop]
          unfold nameLength
          omega
        have hRoom : nameLength buffer.length p i ≤
            buffer.length := Nat.min_le_right _ _
        have hEnds := @zero_mem_buffer _ _ buffer hLong hRoom
        constructor
        · rintro ⟨r, hRun', hName⟩
          rw [hRun] at hRun'
          cases hRun'
          exact ⟨hCopies.1, hCopies.2, hEnds.mp
            (hName fun hNone => Option.some_ne_none _ hNone)⟩
        · rintro ⟨-, -, hText⟩
          exact ⟨_, hRun, fun _ => hEnds.mpr hText⟩
      · constructor
        · rintro ⟨r, hRun, -⟩
          exact absurd hRun
            (dhcpNameAt_outside (by omega) (by omega) r)
        · rintro ⟨hBehind, hRoom, -⟩
          exact absurd ⟨hBehind, hRoom⟩ hCopies
  · simp only [hInside, false_and, iff_false]
    rintro ⟨r, hRun, -⟩
    have hPeek := @peek_of_le p (i + 1) (by omega)
    have hNext : ((i + 1 : Nat) : Int) = (i : Int) + 1 := rfl
    rw [hNext] at hPeek
    rw [dhcpNameAt, hPeek] at hRun
    cases hRun

namespace DhcpLookup

variable {env : DhcpEnv} {p : Bytes} {i : Nat}

theorem bounded_unread (call : DhcpLookup) :
    call.Bounded env call.unread := by
  cases call with
  | addrs opt ipMax =>
      exact ⟨Nat.zero_le _, fun _ _ _ _ _ => rfl⟩
  | hostname buffer => exact fun hSome => absurd rfl hSome
  | domainname buffer => exact fun hSome => absurd rfl hSome

theorem bounded_notFound (call : DhcpLookup) :
    call.Bounded env call.notFound := by
  cases call with
  | addrs opt ipMax =>
      exact ⟨Nat.zero_le _, fun _ _ _ _ _ => rfl⟩
  | hostname buffer => exact fun hSome => absurd rfl hSome
  | domainname buffer => exact fun hSome => absurd rfl hSome

/- The option at an index, for any of the look-ups. -/
theorem foundAt_stays_iff
    (call : DhcpLookup)
    (hInfo : env.optionInfo = some p)
    (hFind : dhcpFind call.code.toNat 0 p = some i) :
    (∃ r, call.foundAt p i = .ok r ∧ call.Bounded env r) ↔
      i + 1 < p.length ∧
        (optionLength p i ≤ 0 ∨ call.Fits p i) := by
  cases call with
  | addrs opt ipMax => exact dhcpAddrsAt_stays_iff hInfo hFind
  | hostname buffer => exact dhcpNameAt_stays_iff
  | domainname buffer => exact dhcpNameAt_stays_iff

end DhcpLookup

/- What there is for a block, by the answers. -/
theorem dhcpGetkeyvalue_block
    {env : DhcpEnv}
    {p : Bytes}
    (hValid : env.isValid = true)
    (hInfo : env.optionInfo = some p) :
    dhcpGetkeyvalue env =
      if dhcpBufferSize < p.length then
        .error dhcpBufferSize
      else if env.memory then
        .ok (some p)
      else
        .ok none := by
  rw [dhcpGetkeyvalue, if_pos hValid, hInfo]

theorem dhcpGetkeyvalue_unread
    {env : DhcpEnv}
    (hNone : env.isValid = false ∨ env.optionInfo = none) :
    dhcpGetkeyvalue env = .ok none := by
  unfold dhcpGetkeyvalue
  split
  next hValid =>
      rcases hNone with hInvalid | hInfo
      · rw [hInvalid] at hValid
        cases hValid
      · rw [hInfo]
  next => rfl

theorem run_too_long
    {env : DhcpEnv}
    (call : DhcpLookup)
    {e : Int}
    (hError : dhcpGetkeyvalue env = .error e)
    (r : DhcpAnswer) :
    call.run env ≠ .ok r := by
  cases call with
  | addrs opt ipMax =>
      rw [DhcpLookup.run, dhcpGetoptaddrs, hError]
      exact fun h => nomatch h
  | hostname buffer =>
      rw [DhcpLookup.run, dhcpGethostname, dhcpGetname, hError]
      exact fun h => nomatch h
  | domainname buffer =>
      rw [DhcpLookup.run, dhcpGetdomainname, dhcpGetname,
        hError]
      exact fun h => nomatch h

/-
  The accesses of a look-up stay in the block and its answer
  is bounded exactly when the block fits.
-/
theorem stays_in_block_iff
    (env : DhcpEnv)
    (call : DhcpLookup) :
    StaysInBlock env call ↔ BlockFits env call := by
  by_cases hNone : env.isValid = false ∨ env.optionInfo = none
  · have hRun := call.run_unread (dhcpGetkeyvalue_unread hNone)
    constructor
    · intro _ hValid p hInfo
      rcases hNone with hInvalid | hNothing
      · rw [hInvalid] at hValid
        cases hValid
      · rw [hNothing] at hInfo
        cases hInfo
    · intro _
      exact ⟨_, hRun, call.bounded_unread⟩
  · have hValid : env.isValid = true := by
      by_contra hInvalid
      exact hNone (.inl (Bool.eq_false_iff.mpr hInvalid))
    obtain ⟨p, hInfo⟩ := Option.ne_none_iff_exists'.mp
      fun h => hNone (.inr h)
    have hBlock := dhcpGetkeyvalue_block hValid hInfo
    have hCondition : BlockFits env call ↔
        p.length ≤ dhcpBufferSize ∧
          (env.memory = true →
            ∀ i, dhcpFind call.code.toNat 0 p = some i →
              i + 1 < p.length ∧
                (optionLength p i ≤ 0 ∨ call.Fits p i)) := by
      constructor
      · intro hFits
        exact hFits hValid p hInfo
      · intro hFits _ p' hInfo'
        rw [hInfo] at hInfo'
        cases hInfo'
        exact hFits
    rw [hCondition]
    by_cases hLong : dhcpBufferSize < p.length
    · rw [if_pos hLong] at hBlock
      constructor
      · rintro ⟨r, hRun, -⟩
        exact absurd hRun (run_too_long call hBlock r)
      · rintro ⟨hShort, -⟩
        omega
    · rw [if_neg hLong] at hBlock
      have hShort : p.length ≤ dhcpBufferSize := by omega
      cases hMemory : env.memory with
      | false =>
          rw [hMemory] at hBlock
          constructor
          · intro _
            exact ⟨hShort, fun h => nomatch h⟩
          · intro _
            exact ⟨_, call.run_unread hBlock,
              call.bounded_unread⟩
      | true =>
          rw [hMemory, if_pos rfl] at hBlock
          simp only [hShort, true_and, forall_const]
          cases hFind : dhcpFind call.code.toNat 0 p with
          | none =>
              constructor
              · intro _ i hSome
                cases hSome
              · intro _
                exact ⟨_, call.run_notFound hBlock hFind,
                  call.bounded_notFound⟩
          | some i =>
              have hStays := call.foundAt_stays_iff hInfo hFind
              unfold StaysInBlock
              rw [call.run_found hBlock hFind, hStays]
              constructor
              · intro hFits i' hSame
                cases hSame
                exact hFits
              · intro hFits
                exact hFits i rfl

/- A key whose only option is the last thing in the block. -/
def lastOptionEnv : DhcpEnv where
  openInfo := 0
  openSubkey := 0
  indexAnswer := 0
  valid := 0
  optionInfo := some (12 :: 2 :: bytes "pc")
  memory := true

/- The terminator of its name is stored behind the block. -/
theorem last_option_leaves_block :
    ¬ StaysInBlock lastOptionEnv
      (.hostname (List.replicate 128 0)) := by
  rintro ⟨r, hRun, -⟩
  have hError : (DhcpLookup.hostname
      (List.replicate 128 0)).run lastOptionEnv =
        .error 4 := by
    decide +kernel
  rw [hError] at hRun
  cases hRun

end Libsocket
