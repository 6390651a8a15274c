/-
  Socket descriptors and the data the interfaces hang on
  them.

  Main declarations:
    * `Errno`
    * `Interface`, `Interface.provides`
    * `LsckSocket`
    * `LsckSocketUnix`, `LsckSocketCsock`,
      `LsckSocketWsock`
-/

namespace Libsocket

------------------------------------------------------------
-- Basic Types
------------------------------------------------------------

abbrev Bytes : Type := List UInt8

/- The address of a heap block; `NULL` is `none`. -/
abbrev Ptr : Type := Nat

/- A file descriptor number. -/
abbrev Fd : Type := Int

/- The bytes of an ASCII string, without a terminator. -/
def bytes (text : String) : Bytes :=
  text.toList.map fun c => UInt8.ofNat c.toNat

------------------------------------------------------------
-- Constants
------------------------------------------------------------

/- `__LSCK_NUM_SOCKET` -/
def lsckNumSocket : Nat := 256

/- `__SOCKADDR_COMMON_SIZE`, `sizeof (struct sockaddr)` -/
def sockaddrCommonSize : Nat := 16

/- `__SOCKADDR_MAX_SIZE`, `sizeof (struct sockaddr_un)` -/
def sockaddrMaxSize : Nat := 110

/- `sizeof (struct sockaddr_in)` -/
def sockaddrInSize : Nat := 16

/- `MAXPATH` -/
def maxPath : Nat := 80

/- `MAXINT` -/
def maxInt : Int := 2147483647

def afUnix : Int := 1
def afInet : Int := 2

def sockStream : Int := 1
def sockDgram : Int := 2
def sockRaw : Int := 3

def ipprotoTcp : Int := 6
def ipprotoUdp : Int := 17

def shutRd : Int := 0
def shutWr : Int := 1
def shutRdwr : Int := 2

def msgPeek : Nat := 2

------------------------------------------------------------
-- Error Numbers
------------------------------------------------------------

/-
  Values of `errno`. `EWOULDBLOCK` and `EAGAIN` are one
  number.
-/
inductive Errno
  | zero
  | EACCES | EADDRINUSE | EADDRNOTAVAIL | EAFNOSUPPORT
  | EAGAIN | EALREADY | EBADF | EBUSY | ECONNABORTED
  | ECONNREFUSED | ECONNRESET | EDESTADDRREQ | EDQUOT
  | EFAULT | EHOSTDOWN | EHOSTUNREACH | EINPROGRESS
  | EINTR | EINVAL | EIO | EISCONN | ELOOP | EMFILE
  | EMSGSIZE | ENAMETOOLONG | ENETDOWN | ENETRESET
  | ENETUNREACH | ENFILE | ENOBUFS | ENODEV | ENOMEM
  | ENOPROTOOPT | ENOTCONN | ENOTEMPTY | ENOTSOCK
  | EOPNOTSUPP | EPERM | EPFNOSUPPORT | EPIPE
  | EPROTONOSUPPORT | EPROTOTYPE | EREMOTE | ESHUTDOWN
  | ESOCKTNOSUPPORT | ESTALE | ETIMEDOUT | ETOOMANYREFS
  | EUSERS
deriving DecidableEq, Repr

/- `EWOULDBLOCK` -/
def Errno.EWOULDBLOCK : Errno := .EAGAIN

------------------------------------------------------------
-- Interfaces
------------------------------------------------------------

/- The three interfaces of `__lsck_interface`. -/
inductive Interface
  | wsock
  | csock
  | unix
deriving DecidableEq, Repr

/- The callbacks of an `LSCK_IF` that the core calls. -/
inductive Callback
  | socket
  | socketpair
  | close
  | protoCheck
  | addrlenCheck
  | bind
  | listen
  | accept
  | connect
  | send
  | sendto
  | recv
  | recvfrom
  | getsockname
  | getpeername
  | shutdown
  | fcntl
  | ioctl
  | nonblockingCheck
deriving DecidableEq, Repr

/-
  Whether the interface's table holds a function there. Only
  the Unix interface leaves one of these entries `NULL`.
-/
def Interface.provides : Interface → Callback → Bool
| .unix, .nonblockingCheck => false
| _, _ => true

------------------------------------------------------------
-- Descriptors
------------------------------------------------------------

/- `LSCK_SOCKET`, with the padded names as raw bytes. -/
structure LsckSocket where
  fd : Fd
  family : Int
  type : Int
  protocol : Int
  sockname : Bytes
  socknamelen : Nat
  peername : Bytes
  peernamelen : Nat
  bound : Bool
  accepted : Bool
  connected : Bool
  connecting : Bool
  blocking : Bool
  outbound : Bool
  inbound : Bool
  listening : Bool
  backlog : Int
  urgentPid : Int
  interface : Option Interface
  idata : Option Ptr
deriving DecidableEq, Repr

/- A descriptor cleared by `memset`. -/
def LsckSocket.cleared : LsckSocket where
  fd := 0
  family := 0
  type := 0
  protocol := 0
  sockname := List.replicate sockaddrMaxSize 0
  socknamelen := 0
  peername := List.replicate sockaddrMaxSize 0
  peernamelen := 0
  bound := false
  accepted := false
  connected := false
  connecting := false
  blocking := false
  outbound := false
  inbound := false
  listening := false
  backlog := 0
  urgentPid := 0
  interface := none
  idata := none

/- `UNIX_MSG_SECRET` -/
structure UnixMsgSecret where
  n : UInt32
  pid : UInt32
deriving DecidableEq, Repr

/- `LSCK_SOCKET_UNIX`; the paths are raw buffers. -/
structure LsckSocketUnix where
  sockpath : Bytes
  peerpath : Bytes
  fdW : Fd
  fdR : Fd
  secret : UnixMsgSecret
  seqW : Int
  seqR : Int
deriving DecidableEq, Repr

/- Interface data cleared by `bzero`. -/
def LsckSocketUnix.cleared : LsckSocketUnix where
  sockpath := List.replicate sockaddrMaxSize 0
  peerpath := List.replicate sockaddrMaxSize 0
  fdW := 0
  fdR := 0
  secret := ⟨0, 0⟩
  seqW := 0
  seqR := 0

/- `LSCK_SOCKET_CSOCK` -/
structure LsckSocketCsock where
  fd : Int
deriving DecidableEq, Repr

/- `LSCK_SOCKET_WSOCK` -/
structure LsckSocketWsock where
  socket : Int
  socketHandle : Int
deriving DecidableEq, Repr

end Libsocket
