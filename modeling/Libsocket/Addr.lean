import Libsocket.HostName
import Libsocket.Inet

/-
  The addresses of an interface, as the drivers or the
  configuration file give them.

  Main declarations:
    * `LsckIfAddrInet`
    * `LsckIfAddrTable`
-/

namespace Libsocket

/- `LSCK_IF_ADDR_INET_DNS_MAX` -/
def lsckIfAddrInetDnsMax : Nat := 4

/- `LSCK_IF_HW_TYPE_ETHERNET` and the length of its addresses -/
def lsckIfHwTypeEthernet : Nat := 1
def lsckIfHwAddrlenEthernet : Nat := 6

/- `LSCK_IF_ADDR_INET`, without the hardware address. -/
structure LsckIfAddrInet where
  addr : InAddr
  netmask : InAddr
  gwPresent : Bool
  gw : InAddr
  dns : List InAddr
  hwType : Nat
  hwAddrlen : Nat
  hostname : NameArray
  domainname : NameArray
  room : dns.length = lsckIfAddrInetDnsMax
deriving DecidableEq

/- A record cleared by `bzero`. -/
def LsckIfAddrInet.cleared : LsckIfAddrInet where
  addr := .any
  netmask := .any
  gwPresent := false
  gw := .any
  dns := List.replicate lsckIfAddrInetDnsMax .any
  hwType := 0
  hwAddrlen := 0
  hostname := .empty
  domainname := .empty
  room := List.length_replicate

/- `LSCK_IF_ADDR_TABLE`, with the entries up to the `NULL`. -/
structure LsckIfAddrTable where
  family : Int
  inet : List LsckIfAddrInet
deriving DecidableEq

/- The entries that are Internet addresses. -/
def inetEntries (table : Option LsckIfAddrTable) :
    List LsckIfAddrInet :=
  match table with
  | none => []
  | some table =>
      if table.family = afInet then table.inet else []

/- The bytes of an address. -/
def InAddr.bytes (a : InAddr) : Bytes :=
  [a.b₀, a.b₁, a.b₂, a.b₃]

/- The address that some bytes begin with. -/
def InAddr.ofBytes (b : Bytes) : InAddr where
  b₀ := b.getD 0 0
  b₁ := b.getD 1 0
  b₂ := b.getD 2 0
  b₃ := b.getD 3 0

@[simp] theorem InAddr.ofBytes_bytes (a : InAddr) :
    InAddr.ofBytes a.bytes = a := rfl

end Libsocket
