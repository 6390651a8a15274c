import Libsocket.Registry

/-
  Errors of the two Windows drivers and what the library
  turns them into.

  Main declarations:
    * `wsockErrno`, `callVxd`
    * `csockErrno`
-/

namespace Libsocket

open Command

------------------------------------------------------------
-- WSOCK.VXD
------------------------------------------------------------

/- `WSA_ERRORS`, as offsets from `WSABASEERR`. -/
def wsaErrors : List (Nat × Errno) :=
  [(4, .EINTR), (9, .EBADF), (14, .EFAULT), (22, .EINVAL),
    (24, .ENFILE), (35, .EAGAIN), (36, .EINPROGRESS),
    (37, .EALREADY), (38, .ENOTSOCK), (39, .EDESTADDRREQ),
    (40, .EMSGSIZE), (41, .EPROTOTYPE), (42, .ENOPROTOOPT),
    (43, .EPROTONOSUPPORT), (44, .ESOCKTNOSUPPORT),
    (45, .EOPNOTSUPP), (46, .EPFNOSUPPORT),
    (47, .EAFNOSUPPORT), (48, .EADDRINUSE),
    (49, .EADDRNOTAVAIL), (50, .ENETDOWN),
    (51, .ENETUNREACH), (52, .ENETRESET),
    (53, .ECONNABORTED), (54, .ECONNRESET), (55, .ENOBUFS),
    (56, .EISCONN), (57, .ENOTCONN), (58, .ESHUTDOWN),
    (59, .ETOOMANYREFS), (60, .ETIMEDOUT),
    (61, .ECONNREFUSED), (62, .ELOOP), (63, .ENAMETOOLONG),
    (64, .EHOSTDOWN), (65, .EHOSTUNREACH), (66, .ENOTEMPTY),
    (68, .EUSERS), (69, .EDQUOT), (70, .ESTALE),
    (71, .EREMOTE)]

/- `__wsock_errno`; what the table lacks becomes 0. -/
def wsockErrno (code : UInt16) : Errno :=
  match wsaErrors.find? fun e =>
      10000 + e.1 == code.toNat with
  | some (_, e) => e
  | none => .zero

/- The driver's answer counts as a failure. -/
def vxdFails (code : UInt16) : Bool :=
  code != 0 && code != 0xffff

/- `__wsock_callvxd`, with the driver's answer. -/
def callVxd (code : UInt16) : Exec Unit :=
  if code = 0xffff then
    setErrno .EAGAIN
  else if code ≠ 0 then
    setErrno (wsockErrno code)
  else
    return ()

------------------------------------------------------------
-- SOCK.VXD
------------------------------------------------------------

/- `CSOCK_ERR_FD_INUSE` -/
def csockErrFdInuse : Int := 0x800

/- `CSOCK_ERR_WOULD_BLOCK` -/
def csockErrWouldBlock : Int := 0xb00

/-
  `__csock_errno`: SOCK.VXD's own errors are negative, TDI
  status codes positive. Anything else keeps the current
  error number.
-/
def csockErrno (current : Errno) (ret : Int) : Errno :=
  if ret = -0x100 then .EINVAL
  else if ret = -0x200 then .ENOBUFS
  else if ret = -0x300 then .ENOTSOCK
  else if ret = -0x400 then .EINVAL
  else if ret = -0x500 then .EINVAL
  else if ret = -0x600 then .EACCES
  else if ret = -0x700 then .EAGAIN
  else if ret = -csockErrFdInuse then .EBUSY
  else if ret = -0x900 then .EBUSY
  else if ret = -0xa00 then .ENOTCONN
  else if ret = -csockErrWouldBlock then .EWOULDBLOCK
  else if ret = 0 then .zero
  else if ret = 1 then .ENOBUFS
  else if ret = 2 then .EADDRINUSE
  else if ret = 14 then .ECONNREFUSED
  else if ret = 15 then .ENOTCONN
  else if ret = 18 then .EISCONN
  else if ret = 19 then .ECONNREFUSED
  else if ret = 20 then .ECONNRESET
  else if ret = 21 then .ETIMEDOUT
  else if ret = 22 then .ECONNRESET
  else if ret = 27 then .ENETUNREACH
  else if ret = 28 then .EHOSTUNREACH
  else if ret = 30 then .EHOSTUNREACH
  else current

/- `errno = __csock_errno (ret); return (-1);` -/
def failCsock (ret : Int) : Exec Int := do
  let s ← get
  fail (csockErrno s.errno ret)

------------------------------------------------------------
-- Frame
------------------------------------------------------------

theorem still_callVxd (code : UInt16) :
    StillCmd (callVxd code) :=
  StillCmd.ite (StillCmd.setErrno _)
    (StillCmd.ite (StillCmd.setErrno _) (StillCmd.pure _))

theorem still_failCsock (ret : Int) :
    StillCmd (failCsock ret) :=
  StillCmd.get.bind fun _ => StillCmd.fail _

end Libsocket
