import Libsocket.Inet
import Libsocket.Dnsaddr.Pipeline
import Libsocket.Library.Words

/-
  The databases of hosts, services and networks: their files
  are read line by line, and a line is taken apart in place.

  Main declarations:
    * `fgets`, `dbTurn`, `readEntry`
    * `parseHost`, `gethtent`
    * `parseServ`, `getservent`
    * `parseNet`, `getnetent`
-/

namespace Libsocket

------------------------------------------------------------
-- Lines Of A File
------------------------------------------------------------

/- `BUFSIZ` -/
def bufsiz : Nat := 16384

/-
  What `fgets` reads with room for so many characters, and
  what is left of the file.
-/
def fgets : Nat → Bytes → Bytes × Bytes
| 0, s => ([], s)
| _ + 1, [] => ([], [])
| room + 1, b :: s =>
    if b = newline then
      ([b], s)
    else
      (b :: (fgets room s).1, (fgets room s).2)

theorem length_fgets
    (room : Nat)
    (s : Bytes) :
    (fgets room s).1.length + (fgets room s).2.length =
      s.length := by
  induction room generalizing s with
  | zero => simp [fgets]
  | succ room ih =>
      cases s with
      | nil => rfl
      | cons b s =>
          have hRest := ih s
          unfold fgets
          split
          · simp only [List.length_cons, List.length_nil]
            omega
          · simp only [List.length_cons]
            omega

/- With room for a character, `fgets` reads one. -/
theorem fgets_shorter
    (room : Nat)
    (b : UInt8)
    (s : Bytes) :
    (fgets (room + 1) (b :: s)).2.length <
      (b :: s).length := by
  have hLength := length_fgets (room + 1) (b :: s)
  have hSome : 0 < (fgets (room + 1) (b :: s)).1.length := by
    unfold fgets
    split
    · exact Nat.one_pos
    · exact Nat.succ_pos _
  omega

/-
  One turn of the loop over the lines: what the line that is
  read gives, and what is left of the file.
-/
def dbTurn
    {ε : Type}
    (parse : Bytes → Option ε)
    (s : Bytes) : Option ε × Bytes :=
  (parse (fgets (bufsiz - 1) s).1, (fgets (bufsiz - 1) s).2)

/-
  The loop over the lines: the entry of the first line that
  has one.
-/
def readEntry
    {ε : Type}
    (parse : Bytes → Option ε) : Bytes → Option ε × Bytes
| [] => (none, [])
| b :: s =>
    match (dbTurn parse (b :: s)).1 with
    | some entry => (some entry, (dbTurn parse (b :: s)).2)
    | none => readEntry parse (dbTurn parse (b :: s)).2
termination_by s => s.length
decreasing_by exact fgets_shorter _ b s

------------------------------------------------------------
-- Taking A Line Apart
------------------------------------------------------------

/- `MAXALIASES` -/
def maxAliases : Nat := 35

def isBlank (b : UInt8) : Bool := b == 32 || b == 9

/- The characters that end the part of a line that counts. -/
def endsEntry (b : UInt8) : Bool := b == hash || b == newline

/- The characters in front of the protocol of a service. -/
def endsPort (b : UInt8) : Bool := b == 44 || b == 47

/-
  The part of a line in front of a comment or the newline; a
  comment line has none, nor has a line without either.
-/
def entryPart (line : Bytes) : Option Bytes :=
  let p := line.takeWhile (· ≠ 0)
  if p.head? = some hash then
    none
  else
    (Words.cut endsEntry p).map Prod.fst

/- The loop over the aliases, from a cursor that may be NULL. -/
def dbAliases (cp : Option Bytes) : List Bytes :=
  Words.collect isBlank (maxAliases - 1) cp

------------------------------------------------------------
-- Hosts
------------------------------------------------------------

/- `inet_addr` -/
def inetAddr (cp : Bytes) : InAddr :=
  (inetAton cp).getD ⟨255, 255, 255, 255⟩

/- `struct hostent` -/
structure Hostent where
  name : Bytes
  aliases : List Bytes
  addrtype : Int
  length : Nat
  addr : InAddr
deriving DecidableEq, Repr

/- The line of a host -/
def parseHost (line : Bytes) : Option Hostent := do
  let p ← entryPart line
  let (p, cp) ← Words.cut isBlank p
  let (name, cp) := Words.word isBlank (cp.dropWhile isBlank)
  return {
    name := name
    aliases := dbAliases cp
    addrtype := afInet
    length := 4
    addr := inetAddr p }

/- `_gethtent` -/
def gethtent : Bytes → Option Hostent × Bytes :=
  readEntry parseHost

------------------------------------------------------------
-- Services
------------------------------------------------------------

/- The number that the digits at the front make. -/
def atoiDigits (n : Nat) : Bytes → Nat
| [] => n
| c :: cp =>
    if isDigit c then
      atoiDigits (n * 10 + (c.toNat - 48)) cp
    else
      n

/- `atoi` -/
def atoi (s : Bytes) : Int :=
  match s.dropWhile isSpace with
  | [] => 0
  | c :: cp =>
      if c = 45 then
        max (-2147483648) (-(atoiDigits 0 cp : Int))
      else if c = 43 then
        min 2147483647 (atoiDigits 0 cp)
      else
        min 2147483647 (atoiDigits 0 (c :: cp))

/- `struct servent` -/
structure Servent where
  name : Bytes
  aliases : List Bytes
  port : Nat
  proto : Bytes
deriving DecidableEq, Repr

/- The line of a service -/
def parseServ (line : Bytes) : Option Servent := do
  let p ← entryPart line
  let (name, p) ← Words.cut isBlank p
  let (p, cp) ← Words.cut endsPort (p.dropWhile isBlank)
  let (proto, cp) := Words.word isBlank cp
  return {
    name := name
    aliases := dbAliases cp
    port := htons ((atoi p % 65536).toNat)
    proto := proto }

/- `getservent` -/
def getservent : Bytes → Option Servent × Bytes :=
  readEntry parseServ

------------------------------------------------------------
-- Networks
------------------------------------------------------------

/-
  The numbers of a network with dots between them, and the
  rest of the string; none when there is a dot too much. The
  number behind a fourth dot is stored behind the array, and
  refused then.
-/
def networkParts :
    Nat → List Nat → Bytes → Option (List Nat × Bytes)
| room, parts, cp =>
    let next := atonNumber cp
    if next.2.head? = some fullStop then
      match room with
      | 0 => none
      | room + 1 =>
          networkParts room (parts ++ [next.1]) next.2.tail
    else
      some (parts ++ [next.1], next.2)

/- `INADDR_NONE` -/
def inaddrNone : Nat := 4294967295

/- `inet_network` -/
def inetNetwork (cp : Bytes) : Nat :=
  match networkParts 4 [] cp with
  | none => inaddrNone
  | some (parts, rest) =>
      if rest.head?.any fun c => !isSpace c then
        inaddrNone
      else if 4 < parts.length then
        inaddrNone
      else
        parts.foldl (fun val part =>
          (val <<< 8 ||| part % 256) % 4294967296) 0

/- `struct netent` -/
structure Netent where
  name : Bytes
  aliases : List Bytes
  addrtype : Int
  net : Nat
deriving DecidableEq, Repr

/-
  The line of a network. Without anything behind the number
  the cursor stays at the number.
-/
def parseNet (line : Bytes) : Option Netent := do
  let p ← entryPart line
  let (name, cp) ← Words.cut isBlank p
  let (cp, p) := Words.word isBlank (cp.dropWhile isBlank)
  return {
    name := name
    aliases := dbAliases (some (p.getD cp))
    addrtype := afInet
    net := inetNetwork cp }

/- `getnetent` -/
def getnetent : Bytes → Option Netent × Bytes :=
  readEntry parseNet

end Libsocket
