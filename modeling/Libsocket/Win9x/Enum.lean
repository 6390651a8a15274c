import Libsocket.Addr
import Libsocket.Library.Resource

/-
  The enumeration of the network cards in the registry of
  Windows '9x. What the registry answers is given for each
  turn of the loops, so that any call may fail in any turn.

  Main declarations:
    * `EnumInstance`, `EnumDevice`, `EnumTree`
    * `instanceTurn`, `instanceLoop`, `deviceLoop`
    * `enuminterfaces`
-/

namespace Libsocket

open Resource

------------------------------------------------------------
-- The Registry
------------------------------------------------------------

/- `ERROR_NO_MORE_ITEMS` and `ERROR_CANTREAD` -/
def errorNoMoreItems : Int := 259
def errorCantread : Int := 1012

/- `LSCK_IF_ADDR_TABLE_MAX` -/
def lsckIfAddrTableMax : Nat := 16

/- `LSCK_IF_HW_TYPE_DIALUP` -/
def lsckIfHwTypeDialup : Nat := 2

/-
  What a loop enumerates, and the answer, not success, that
  ends it behind the last item.
-/
structure Listing (α : Type) where
  items : List α
  last : Int
  ends : last ≠ 0

/-
  A binding: the answer of `RegEnumValue` and the name of the
  value, and the answers for the key `NETWORK_KEY` and for
  the key of that name below it.
-/
structure EnumBinding where
  answer : Int
  valname : Bytes
  network : Int
  mstcp : Int

/-
  An instance of a device: the answers of the calls that are
  made for it, in their order, and the values that are read.
  `card` is what `__win9x_getethcardaddrs` makes of a record
  and of the number of DHCP cards so far; `stale` is the
  outcome of comparing a string that is freed already.
-/
structure EnumInstance where
  enumKey : Int
  openKey : Int
  classAnswer : Int
  cls : Bytes
  driverAnswer : Int
  classKey : Int
  netKey : Int
  bindingsKey : Int
  bindings : Listing EnumBinding
  mstcpDriver : Int
  netTransKey : Int
  descAnswer : Int
  desc : Bytes
  ndiKey : Int
  lowerAnswer : Int
  lower : Bytes
  rasActive : Bool
  stale : Bool
  card : LsckIfAddrInet → Int → LsckIfAddrInet × Int
  memory : Bool

/- A device, and the enumeration of its instances. -/
structure EnumDevice where
  enumKey : Int
  openKey : Int
  instances : Listing EnumInstance

/- The base key, and the enumeration of the devices. -/
structure EnumTree where
  openKey : Int
  devices : Listing EnumDevice

------------------------------------------------------------
-- Keys And Strings
------------------------------------------------------------

/-
  The keys and strings of an instance; `desc` and `lower` are
  the strings `p` and `q`.
-/
inductive EnumRole
| enum
| cls
| net
| bindings
| network
| mstcp
| netTrans
| interface
| desc
| lower
deriving DecidableEq, Repr

/-
  A key or a string. One of an instance is named by the turn
  of the loops as well.
-/
inductive EnumResource
| base
| dev (i : Nat)
| inst (i j : Nat) (role : EnumRole)
deriving DecidableEq, Repr

/- What is computed, and what is done with keys and strings. -/
abbrev Enum (ρ α : Type) : Type := Traced (Event ρ) α

/- `RegOpenKey`; a call that fails opens no key. -/
def regOpenKey {ρ : Type} (answer : Int) (r : ρ) :
    Enum ρ (Option ρ) :=
  if answer = 0 then do
    Traced.emit (.acquire r)
    return some r
  else
    return none

/- `RegCloseKey` -/
def regCloseKey {ρ : Type} : Option ρ → Enum ρ Unit
| some r => Traced.emit (.release r)
| none => Traced.emit .stray

/- `strdup`, for which there is memory. -/
def enumStrdup {ρ : Type} (r : ρ) : Enum ρ ρ := do
  Traced.emit (.acquire r)
  return r

def enumFree {ρ : Type} (r : ρ) : Enum ρ Unit :=
  Traced.emit (.release r)

/- `strcmp` with a copied string -/
def enumStrcmp {ρ : Type} (r : ρ) (equal : Bool) :
    Enum ρ Bool := do
  Traced.emit (.use r)
  return equal

section Calls

variable {ρ : Type} {answer : Int} (r : ρ)

theorem regOpenKey_ok (hAnswer : answer = 0) :
    regOpenKey answer r = ⟨[.acquire r], some r⟩ :=
  if_pos hAnswer

theorem regOpenKey_failed (hAnswer : ¬ answer = 0) :
    regOpenKey answer r = ⟨[], none⟩ :=
  if_neg hAnswer

@[simp] theorem log_regCloseKey :
    (regCloseKey (some r)).log = [.release r] := rfl

@[simp] theorem log_regCloseKey_none :
    (regCloseKey (none : Option ρ)).log = [.stray] := rfl

@[simp] theorem log_enumStrdup :
    (enumStrdup r).log = [.acquire r] := rfl

@[simp] theorem value_enumStrdup :
    (enumStrdup r).value = r := rfl

@[simp] theorem log_enumFree :
    (enumFree r).log = [.release r] := rfl

@[simp] theorem log_enumStrcmp (equal : Bool) :
    (enumStrcmp r equal).log = [.use r] := rfl

@[simp] theorem value_enumStrcmp (equal : Bool) :
    (enumStrcmp r equal).value = equal := rfl

end Calls

------------------------------------------------------------
-- One Instance
------------------------------------------------------------

/- An entry of the table, and the turn it was added in. -/
structure EnumEntry where
  device : Nat
  inst : Nat
  record : LsckIfAddrInet

/-
  The entries that are added, the number of entries in the
  table, and the numbers of dial-up and DHCP devices.
-/
structure EnumState where
  entries : List EnumEntry
  ifCount : Nat
  dialupCount : Int
  dhcpCount : Int

/- How a turn ends: with `break`, or at the end of the body. -/
inductive EnumFlow
| leave (res : Int)
| turn (res : Int)
deriving DecidableEq, Repr

/- The prefix of a binding to MSTCP -/
def mstcpPrefix : Bytes := bytes "MSTCP\\"

/- `DIALUP_DESC`, `DIALUP_IF_LOWER`, `ETHERNET_IF_LOWER` -/
def dialupDesc : Bytes := bytes "Dial-Up Adapter"
def dialupIfLower : Bytes := bytes "vcomm"
def ethernetIfLower : Bytes := bytes "ethernet"

/- The search for a binding to MSTCP, and its result code. -/
def bindingLoop (last : Int) :
    List EnumBinding → Enum EnumRole (Int × Option EnumRole)
| [] => return (last, none)
| binding :: rest => do
    if binding.answer ≠ 0 then
      return (binding.answer, none)
    else if ¬ mstcpPrefix.isPrefixOf binding.valname then
      bindingLoop last rest
    else do
      let hkNetwork ← regOpenKey binding.network
        .network
      if binding.network ≠ 0 then do
        regCloseKey hkNetwork
        return (binding.network, none)
      else do
        let hkMSTCP ← regOpenKey binding.mstcp
          .mstcp
        regCloseKey hkNetwork
        -- the loop ends here, whatever the answer is
        return (binding.mstcp, hkMSTCP)

/- The keys that are open when the addresses are read. -/
structure EnumKeys where
  enum : Option EnumRole
  net : Option EnumRole
  mstcp : Option EnumRole
  netTrans : Option EnumRole

def EnumKeys.close (hk : EnumKeys) : Enum EnumRole Unit := do
  regCloseKey hk.net
  regCloseKey hk.mstcp
  regCloseKey hk.netTrans
  regCloseKey hk.enum

/- Steps 2 and 3: the addresses, and the new entry. -/
def addEntry
    (inst : EnumInstance)
    (i j hwType : Nat)
    (s : EnumState) : EnumState :=
  let ifBuild := { LsckIfAddrInet.cleared with
    hwType := hwType }
  let (ifBuild, dhcpCount) :=
    if hwType = lsckIfHwTypeEthernet then
      inst.card ifBuild s.dhcpCount
    else
      (ifBuild, s.dhcpCount)
  if inst.memory then
    { s with
      entries := s.entries ++ [⟨i, j, ifBuild⟩]
      ifCount := s.ifCount + 1
      dhcpCount := dhcpCount }
  else
    { s with dhcpCount := dhcpCount }

/-
  The test for an Ethernet card, and what is done for a card
  of any type. `freed` says that the two strings were freed
  before.
-/
def finishEntry
    (inst : EnumInstance)
    (i j : Nat)
    (hk : EnumKeys)
    (p q : EnumRole)
    (freed : Bool)
    (s : EnumState) : Enum EnumRole (EnumState × EnumFlow) := do
  let ethernet ← enumStrcmp q
    (if freed then inst.stale
     else inst.lower == ethernetIfLower)
  if ethernet then do
    enumFree p
    enumFree q
    hk.close
    return (addEntry inst i j lsckIfHwTypeEthernet s, .turn 0)
  else do
    hk.close
    return (addEntry inst i j
      (if freed then lsckIfHwTypeDialup else 0) s, .turn 0)

/- Step 1: the type of the interface. -/
def interfaceType
    (inst : EnumInstance)
    (i j : Nat)
    (hk : EnumKeys)
    (p q : EnumRole)
    (s : EnumState) : Enum EnumRole (EnumState × EnumFlow) := do
  let isDesc ← enumStrcmp p (inst.desc == dialupDesc)
  let isLower ←
    (if isDesc then enumStrcmp q (inst.lower == dialupIfLower)
     else pure false)
  if isLower then do
    enumFree p
    enumFree q
    let s := { s with dialupCount := s.dialupCount + 1 }
    if ¬ inst.rasActive then do
      hk.close
      return (s, .turn 0)
    else
      finishEntry inst i j hk p q true s
  else
    finishEntry inst i j hk p q false s

/- The description and the lower binding of the driver. -/
def readDriver
    (inst : EnumInstance)
    (i j : Nat)
    (hk : EnumKeys)
    (s : EnumState) : Enum EnumRole (EnumState × EnumFlow) := do
  if inst.descAnswer ≠ 0 then do
    hk.close
    return (s, .leave inst.descAnswer)
  else do
    let p ← enumStrdup .desc
    let hkInterface ← regOpenKey inst.ndiKey
      .interface
    if inst.ndiKey ≠ 0 then do
      hk.close
      return (s, .leave inst.ndiKey)
    else if inst.lowerAnswer ≠ 0 then do
      regCloseKey hkInterface
      hk.close
      return (s, .leave inst.lowerAnswer)
    else do
      regCloseKey hkInterface
      let q ← enumStrdup .lower
      interfaceType inst i j hk p q s

/- From the MSTCP key to the NetTrans key. -/
def openNetTrans
    (inst : EnumInstance)
    (i j : Nat)
    (hkEnum hkClass hkNet hkMSTCP : Option EnumRole)
    (s : EnumState) : Enum EnumRole (EnumState × EnumFlow) := do
  if inst.mstcpDriver ≠ 0 then do
    regCloseKey hkClass
    regCloseKey hkNet
    regCloseKey hkMSTCP
    regCloseKey hkEnum
    return (s, .leave inst.mstcpDriver)
  else do
    let hkNetTrans ← regOpenKey inst.netTransKey
      .netTrans
    if inst.netTransKey ≠ 0 then do
      regCloseKey hkClass
      regCloseKey hkNet
      regCloseKey hkMSTCP
      regCloseKey hkEnum
      return (s, .leave inst.netTransKey)
    else do
      regCloseKey hkClass
      readDriver inst i j ⟨hkEnum, hkNet, hkMSTCP, hkNetTrans⟩
        s

/- From the instance to the keys of its driver. -/
def openDriver
    (inst : EnumInstance)
    (i j : Nat)
    (hkEnum : Option EnumRole)
    (s : EnumState) : Enum EnumRole (EnumState × EnumFlow) := do
  if inst.driverAnswer ≠ 0 then do
    regCloseKey hkEnum
    return (s, .leave inst.driverAnswer)
  else do
    let hkClass ← regOpenKey inst.classKey .cls
    if inst.classKey ≠ 0 then do
      regCloseKey hkEnum
      return (s, .leave inst.classKey)
    else do
      let hkNet ← regOpenKey inst.netKey .net
      if inst.netKey ≠ 0 then do
        regCloseKey hkEnum
        return (s, .leave inst.netKey)
      else do
        let hkBindings ← regOpenKey inst.bindingsKey
          .bindings
        if inst.bindingsKey ≠ 0 then do
          regCloseKey hkEnum
          regCloseKey hkNet
          return (s, .leave inst.bindingsKey)
        else do
          let (res, hkMSTCP) ← bindingLoop inst.bindings.last
            inst.bindings.items
          regCloseKey hkBindings
          if hkMSTCP = none then do
            regCloseKey hkNet
            return (s, .turn res)
          else
            openNetTrans inst i j hkEnum hkClass hkNet hkMSTCP
              s

/- One turn of the loop over the instances of a device. -/
def instanceTurn
    (inst : EnumInstance)
    (i j : Nat)
    (s : EnumState) : Enum EnumRole (EnumState × EnumFlow) := do
  if inst.enumKey ≠ 0 then
    return (s, .leave inst.enumKey)
  else do
    let hkEnum ← regOpenKey inst.openKey .enum
    if inst.openKey ≠ 0 then
      return (s, .leave inst.openKey)
    else if inst.classAnswer ≠ 0 then do
      regCloseKey hkEnum
      return (s, .leave
        (if inst.classAnswer = errorCantread then 0
         else inst.classAnswer))
    else if inst.cls ≠ bytes "Net" then do
      regCloseKey hkEnum
      return (s, .turn 0)
    else if ¬ s.ifCount < lsckIfAddrTableMax then do
      regCloseKey hkEnum
      return (s, .leave 0)
    else
      openDriver inst i j hkEnum s

------------------------------------------------------------
-- The Loops
------------------------------------------------------------

def instanceLoop (i : Nat) (last : Int) :
    Nat → List EnumInstance → EnumState →
      Enum EnumResource (EnumState × Int)
| _, [], s => return (s, last)
| j, inst :: rest, s => do
    let (s, flow) ← (instanceTurn inst i j s).rename
      (Event.map (.inst i j))
    match flow with
    | .leave res => return (s, res)
    | .turn res =>
        if res = 0 then
          instanceLoop i last (j + 1) rest s
        else
          return (s, res)

def deviceLoop :
    Nat → List EnumDevice → EnumState →
      Enum EnumResource EnumState
| _, [], s => return s
| i, dev :: rest, s => do
    if dev.enumKey ≠ 0 then
      return s
    else do
      let hkDev ← regOpenKey dev.openKey (.dev i)
      if dev.openKey ≠ 0 then
        return s
      else do
        let (s, res) ← instanceLoop i dev.instances.last 0
          dev.instances.items s
        regCloseKey hkDev
        if res = errorNoMoreItems ∨ res = 0 then
          deviceLoop (i + 1) rest s
        else
          return s

/- `__win9x_enuminterfaces` -/
def enuminterfaces (tree : EnumTree) (s : EnumState) :
    Enum EnumResource EnumState := do
  let hkBase ← regOpenKey tree.openKey .base
  if tree.openKey ≠ 0 then do
    regCloseKey hkBase
    return s
  else do
    let s ← deviceLoop 0 tree.devices.items s
    regCloseKey hkBase
    return s

end Libsocket
