import Libsocket.Registry
import Libsocket.Unix.Message

/-
  The callbacks of the Unix interface that create, name and
  close sockets.

  Main declarations:
    * `unixSocket`, `unixBind`
    * `unixAccept`
    * `unixSocketpair`
    * `unixClose`
-/

namespace Libsocket

open Command

------------------------------------------------------------
-- Sequence Numbers
------------------------------------------------------------

/- `x % MAXINT` in signed arithmetic. -/
def modMaxint (x : Int) : Int :=
  (Word.signed x).tmod maxInt

/- `x % MAXINT` in unsigned arithmetic. -/
def modMaxintUnsigned (x : Int) : Int :=
  (Word.unsigned x : Int) % maxInt

------------------------------------------------------------
-- Addresses
------------------------------------------------------------

/- The string `sun_path` of a `sockaddr_un`. -/
def sunPath (sun : Bytes) : Exec Bytes :=
  readString (sun.drop 2)

/-
  A `sockaddr_un` up to the end of its path; the bytes after
  the path are never read.
-/
def sockaddrUn (path : Bytes) : Bytes :=
  Word.littleEndian 2 1 ++ CString.store path

------------------------------------------------------------
-- Creating And Naming
------------------------------------------------------------

/- `__unix_socket` -/
def unixSocket
    (memory : Option Ptr)
    (p : Ptr) : Exec Int := do
  let usock ← malloc memory (.unix .cleared)
  modifySocket p fun lsd => { lsd with idata := usock }
  if usock = none then
    fail .ENOMEM
  else do
    modifyUnix usock fun usock =>
      { usock with fdW := -1, fdR := -1 }
    return 0

structure UnixBindEnv where
  cwd : Option Bytes
  openEnv : OpenEnv
deriving DecidableEq, Repr

/- The path of the mailslot that a name is bound to. -/
def bindPath (cwd : Option Bytes) (path : Bytes) :
    Option Bytes :=
  if path.head? = some slash then
    some (unixLocalPath ++ path)
  else
    cwd.map fun buf =>
      unixLocalPath ++ buf.drop 2 ++ [slash] ++ path

/- `__unix_bind` -/
def unixBind
    (env : UnixBindEnv)
    (p : Ptr)
    (addr : Bytes)
    (addrlen : Nat) : Exec Int := do
  let lsd ← derefSocket p
  let usock ← deref Block.unix? lsd.idata
  if addrlen < sockaddrMaxSize then
    fail .EINVAL
  else if addrlen > sockaddrMaxSize then
    fail .ENAMETOOLONG
  else do
    let name ← sunPath addr
    match bindPath env.cwd name with
    | none => fail .EACCES
    | some built => do
        let path ← fits maxPath built
        let fd ← openFile env.openEnv path .rdonly
        modifyUnix lsd.idata fun usock =>
          { usock with fdR := fd }
        if fd ≠ -1 then do
          let sockpath ← copyInto usock.sockpath name
          modifyUnix lsd.idata fun usock =>
            { usock with sockpath := sockpath }
          return 0
        else do
          modifyUnix lsd.idata fun usock =>
            { usock with
              sockpath := List.replicate sockaddrMaxSize 0 }
          return -1

/- Bytes of a local `sun_path` before it is filled in. -/
abbrev SunJunk : Type := Fin 108 → UInt8

/- The address that names a path, as much as fits. -/
def nameOf
    (junk : SunJunk)
    (path : Bytes)
    (namelen : Nat) : Exec Bytes := do
  let text ← readString path
  let sun ← copyInto (List.ofFn junk) text
  return (Word.littleEndian 2 1 ++ sun).take namelen

/- `__unix_getsockname` -/
def unixGetsockname
    (junk : SunJunk)
    (p : Ptr)
    (namelen : Nat) : Exec Bytes := do
  let lsd ← derefSocket p
  let usock ← deref Block.unix? lsd.idata
  nameOf junk usock.sockpath namelen

/- `__unix_getpeername` -/
def unixGetpeername
    (junk : SunJunk)
    (p : Ptr)
    (namelen : Nat) : Exec Bytes := do
  let lsd ← derefSocket p
  let usock ← deref Block.unix? lsd.idata
  nameOf junk usock.peerpath namelen

/- `__unix_listen` -/
def unixListen : Exec Int := return 0

/- `__unix_shutdown` -/
def unixShutdown : Exec Int := return 0

/- `__unix_ioctl` for `FIONBIO` -/
def unixIoctl (p : Ptr) (param : Int) : Exec Int := do
  let lsd ← derefSocket p
  let usock ← deref Block.unix? lsd.idata
  if param = 1 then do
    let ret ← fcntlNonblock usock.fdW
    when (ret ≠ -1) (do
      let _ ← fcntlNonblock usock.fdR)
    return 0
  else
    fail .EINVAL

------------------------------------------------------------
-- Accepting
------------------------------------------------------------

structure UnixAcceptEnv where
  memory : Option Ptr
  content : LsckSocketUnix
  read : ReadEnv
  reqJunk : Fin 148 → UInt8
  slotRandom : Fin 2147483648
  openR : OpenEnv
  openW : OpenEnv
  sunJunk : SunJunk
  seqRandom : Fin 2147483648
  repJunk : Fin 128 → UInt8
  write : WriteEnv

/-
  The open request that a read leaves in `req`. What a read
  stores behind `req` when it takes more than one message is
  not followed.
-/
def receivedRequest
    (junk : Fin 148 → UInt8)
    (ms : List Bytes) : UnixMsgOpen :=
  UnixMsgOpen.decode (overlay (List.ofFn junk) ms.flatten)

/- The path of the mailslot a server reads a client from. -/
def slotPath (server : Bytes) (n : Fin 2147483648) : Bytes :=
  unixLocalPath ++ server ++ [slash] ++ hex8 n

/-
  The reply's header. `req` is cleared before its path is
  measured, so the length that counts is that of an empty
  path.
-/
def replyHeader
    (secret : UnixMsgSecret)
    (seqStart : Int)
    (measured : Bytes) : UnixMsgHeader where
  version := unixMsgVersion
  type := unixMsgServerOpen
  secret := secret
  seqStart := seqStart
  seqEnd := modMaxintUnsigned (seqStart + measured.length)
  offset := headerSize

/- Answer a request that has passed all checks. -/
def unixAcceptReply
    (env : UnixAcceptEnv)
    (np : Ptr)
    (nusock : Option Ptr)
    (req : UnixMsgOpen)
    (path client : Bytes)
    (fdW : Fd) : Exec Int := do
  let sun ← copyInto (List.ofFn env.sunJunk) client
  modifyUnix nusock fun usock =>
    { usock with
      secret := req.header.secret
      seqW := env.seqRandom
      seqR := modMaxint (req.header.seqEnd + 1) }
  let cleared :=
    UnixMsgOpen.decode (List.replicate openSize 0)
  let measured ← readString cleared.path
  let header :=
    replyHeader req.header.secret env.seqRandom measured
  let repPath ← copyInto (List.ofFn env.repJunk) path
  let ret ← writeFd env.write fdW
    (UnixMsgOpen.encode ⟨header, repPath⟩)
  if ret = -1 then
    return -1
  else do
    let usock ← deref Block.unix? nusock
    let peerpath ← copyInto usock.peerpath client
    modifyUnix nusock fun usock =>
      { usock with
        seqW := modMaxint (header.seqEnd + 1)
        peerpath := peerpath }
    setPeername np (Word.littleEndian 2 1 ++ sun)
      sockaddrMaxSize
    return 0

/-
  Check the request that was read and open both mailslots of
  the new connection.
-/
def unixAcceptRequest
    (env : UnixAcceptEnv)
    (lsd : LsckSocket)
    (np : Ptr)
    (nusock : Option Ptr)
    (req : UnixMsgOpen) : Exec Int :=
  if req.header.type ≠ unixMsgClientOpen then
    return -1
  else do
    let server ← sunPath lsd.sockname
    let path ← fits maxPath (slotPath server env.slotRandom)
    let fdR ← openFile env.openR path .rdonly
    modifyUnix nusock fun usock => { usock with fdR := fdR }
    if fdR = -1 then
      return -1
    else do
      let reqPath ← readString req.path
      let fdW ← openFile env.openW reqPath .wronly
      modifyUnix nusock fun usock =>
        { usock with fdW := fdW }
      if fdW = -1 then
        return -1
      else
        match afterPrefix unixLocalPath reqPath with
        | none => return -1
        | some client =>
            unixAcceptReply env np nusock req path client fdW

/- `__unix_accept` on the listener `p`, for `np`. -/
def unixAccept
    (env : UnixAcceptEnv)
    (p np : Ptr) : Exec Int := do
  let lsd ← derefSocket p
  let nusock ← malloc env.memory (.unix env.content)
  modifySocket np fun nsd => { nsd with idata := nusock }
  if nusock = none then
    fail .ENOMEM
  else do
    modifyUnix nusock fun usock =>
      { usock with
        peerpath := List.replicate sockaddrMaxSize 0 }
    let nsd ← derefSocket np
    if nsd.peernamelen < sockaddrMaxSize then
      fail .ENOBUFS
    else do
      let usock ← deref Block.unix? lsd.idata
      let taken ← readFd env.read usock.fdR
      match taken with
      | none => return -1
      | some ms =>
          unixAcceptRequest env lsd np nusock
            (receivedRequest env.reqJunk ms)

------------------------------------------------------------
-- Socket Pairs
------------------------------------------------------------

structure UnixSocketpairEnv where
  name₀ : Fin 2147483648
  name₁ : Fin 2147483648
  bind₀ : UnixBindEnv
  bind₁ : UnixBindEnv
  secret : Fin 2147483648
  seq₀ : Fin 2147483648
  seq₁ : Fin 2147483648
  open₀ : OpenEnv
  open₁ : OpenEnv
deriving DecidableEq, Repr

/- The address that one end of a pair is bound to. -/
def pairPath (n : Fin 2147483648) : Bytes :=
  bytes "/tmp/lsck/sockpair/" ++ hex8 n

/- One round of the loop that opens the write ends. -/
def openPairEnd
    (env : OpenEnv)
    (usock : Option Ptr)
    (dest : Bytes) : Exec Fd := do
  let path ← fits maxPath (unixLocalPath ++ dest)
  let fd ← openFile env path .wronly
  when (fd ≠ -1)
    (modifyUnix usock fun usock => { usock with fdW := fd })
  return fd

/- Store the path of the other end. -/
def setPeerpath
    (usock : Option Ptr)
    (path : Bytes) : Exec Unit := do
  let data ← deref Block.unix? usock
  let peerpath ← copyInto data.peerpath path
  modifyUnix usock fun usock =>
    { usock with peerpath := peerpath }

/-
  Connect two stream ends. The loop over the write ends
  stops at the first that does not open; what it leaves in
  `ret` is then overwritten.
-/
def pairStream
    (env : UnixSocketpairEnv)
    (data₀ data₁ : Option Ptr)
    (path₀ path₁ : Bytes) : Exec Unit := do
  let s ← get
  let secret : UnixMsgSecret :=
    ⟨UInt32.ofNat env.secret, s.pid⟩
  modifyUnix data₀ fun usock =>
    { usock with
      secret := secret
      seqW := env.seq₀
      seqR := env.seq₁ }
  modifyUnix data₁ fun usock =>
    { usock with
      secret := secret
      seqW := env.seq₁
      seqR := env.seq₀ }
  setPeerpath data₀ path₁
  setPeerpath data₁ path₀
  let fdW ← openPairEnd env.open₀ data₀ path₁
  when (fdW ≠ -1) (do
    let _ ← openPairEnd env.open₁ data₁ path₀)

/- `__unix_socketpair` -/
def unixSocketpair
    (env : UnixSocketpairEnv)
    (p₀ p₁ : Ptr) : Exec Int := do
  let lsd₀ ← derefSocket p₀
  let lsd₁ ← derefSocket p₁
  let path₀ := pairPath env.name₀
  let path₁ := pairPath env.name₁
  let ret₀ ← unixBind env.bind₀ p₀ (sockaddrUn path₀)
    sockaddrMaxSize
  if ret₀ = -1 then
    return -1
  else do
    let ret₁ ← unixBind env.bind₁ p₁ (sockaddrUn path₁)
      sockaddrMaxSize
    if ret₁ = -1 then
      return -1
    else if lsd₀.type = sockStream then do
      pairStream env lsd₀.idata lsd₁.idata path₀ path₁
      modifySocket p₀ fun lsd =>
        { lsd with connected := true, bound := true }
      modifySocket p₁ fun lsd =>
        { lsd with connected := true, bound := true }
      return 0
    else if lsd₀.type = sockDgram then do
      setPeerpath lsd₀.idata path₁
      setPeerpath lsd₁.idata path₀
      modifySocket p₀ fun lsd => { lsd with bound := true }
      modifySocket p₁ fun lsd => { lsd with bound := true }
      return 0
    else
      fail .EPROTONOSUPPORT

------------------------------------------------------------
-- Closing
------------------------------------------------------------

/- The packet that tells the peer of a close. -/
def closeHeader
    (lsd : LsckSocket)
    (usock : LsckSocketUnix) : UnixMsgHeader where
  version := unixMsgVersion
  type := if lsd.accepted then unixMsgServerClose
    else unixMsgClientClose
  secret := usock.secret
  seqStart := usock.seqW
  seqEnd := usock.seqW
  offset := headerSize

/-
  `__unix_close`, given what `close` does on the two
  descriptors of the socket.
-/
def unixClose
    (closeR closeW : Fd → Exec Int)
    (write : WriteEnv)
    (p : Ptr) : Exec Int := do
  let lsd ← derefSocket p
  let usock ← deref Block.unix? lsd.idata
  let header := closeHeader lsd usock
  let _ ← fcntlNonblock usock.fdW
  let _ ← writeFd write usock.fdW header.encode
  modifyUnix lsd.idata fun usock =>
    { usock with seqW := Word.signed (usock.seqW + 1) }
  let usock ← deref Block.unix? lsd.idata
  let _ ← closeR usock.fdR
  let usock ← deref Block.unix? lsd.idata
  let _ ← closeW usock.fdW
  modifyUnix lsd.idata fun usock =>
    { usock with fdR := -1, fdW := -1 }
  return 0

------------------------------------------------------------
-- Frame
------------------------------------------------------------

theorem still_sunPath (sun : Bytes) :
    StillCmd (sunPath sun) :=
  still_readString _

theorem attaches_unixSocket
    (memory : Option Ptr)
    (p : Ptr) :
    Attaches .unix p (unixSocket memory p) := by
  refine Attaches.of_malloc rfl fun q => ?_
  exact (StillCmd.modifyUnix _ _).bind
    fun _ => StillCmd.pure _

theorem still_unixBind
    (env : UnixBindEnv)
    (p : Ptr)
    (addr : Bytes)
    (addrlen : Nat) :
    StillCmd (unixBind env p addr addrlen) := by
  refine (StillCmd.derefSocket p).bind fun lsd => ?_
  refine (StillCmd.deref _ _).bind fun usock => ?_
  refine StillCmd.ite (StillCmd.fail _)
    (StillCmd.ite (StillCmd.fail _) ?_)
  refine (still_sunPath _).bind fun name => ?_
  split
  · exact StillCmd.fail _
  · refine (still_fits _ _).bind fun path => ?_
    refine (still_openFile _ _ _).bind fun fd => ?_
    refine (StillCmd.modifyUnix _ _).bind fun _ => ?_
    refine StillCmd.ite ?_ ?_
    · refine (still_copyInto _ _).bind fun _ => ?_
      exact (StillCmd.modifyUnix _ _).bind
        fun _ => StillCmd.pure _
    · exact (StillCmd.modifyUnix _ _).bind
        fun _ => StillCmd.pure _

theorem still_nameOf
    (junk : SunJunk)
    (path : Bytes)
    (namelen : Nat) :
    StillCmd (nameOf junk path namelen) := by
  refine (still_readString _).bind fun _ => ?_
  exact (still_copyInto _ _).bind fun _ => StillCmd.pure _

theorem still_unixGetsockname
    (junk : SunJunk)
    (p : Ptr)
    (namelen : Nat) :
    StillCmd (unixGetsockname junk p namelen) := by
  refine (StillCmd.derefSocket p).bind fun lsd => ?_
  exact (StillCmd.deref _ _).bind
    fun _ => still_nameOf _ _ _

theorem still_unixGetpeername
    (junk : SunJunk)
    (p : Ptr)
    (namelen : Nat) :
    StillCmd (unixGetpeername junk p namelen) := by
  refine (StillCmd.derefSocket p).bind fun lsd => ?_
  exact (StillCmd.deref _ _).bind
    fun _ => still_nameOf _ _ _

theorem still_unixIoctl (p : Ptr) (param : Int) :
    StillCmd (unixIoctl p param) := by
  refine (StillCmd.derefSocket p).bind fun lsd => ?_
  refine (StillCmd.deref _ _).bind fun usock => ?_
  refine StillCmd.ite ?_ (StillCmd.fail _)
  refine (still_fcntlNonblock _).bind fun ret => ?_
  refine (StillCmd.when ?_).bind fun _ => StillCmd.pure _
  exact (still_fcntlNonblock _).bind fun _ => StillCmd.pure _

theorem still_unixAcceptReply
    (env : UnixAcceptEnv)
    (np : Ptr)
    (nusock : Option Ptr)
    (req : UnixMsgOpen)
    (path client : Bytes)
    (fdW : Fd) :
    StillCmd (unixAcceptReply env np nusock req path client
      fdW) := by
  refine (still_copyInto _ _).bind fun sun => ?_
  refine (StillCmd.modifyUnix _ _).bind fun _ => ?_
  refine (still_readString _).bind fun measured => ?_
  refine (still_copyInto _ _).bind fun repPath => ?_
  refine (still_writeFd _ _ _).bind fun ret => ?_
  refine StillCmd.ite (StillCmd.pure _) ?_
  refine (StillCmd.deref _ _).bind fun usock => ?_
  refine (still_copyInto _ _).bind fun peerpath => ?_
  refine (StillCmd.modifyUnix _ _).bind fun _ => ?_
  exact (StillCmd.setPeername _ _ _).bind
    fun _ => StillCmd.pure _

/- From the request that was read to the answer. -/
theorem still_unixAcceptRequest
    (env : UnixAcceptEnv)
    (lsd : LsckSocket)
    (np : Ptr)
    (nusock : Option Ptr)
    (req : UnixMsgOpen) :
    StillCmd (unixAcceptRequest env lsd np nusock req) := by
  refine StillCmd.ite (StillCmd.pure _) ?_
  refine (still_sunPath _).bind fun server => ?_
  refine (still_fits _ _).bind fun path => ?_
  refine (still_openFile _ _ _).bind fun fdR => ?_
  refine (StillCmd.modifyUnix _ _).bind fun _ => ?_
  refine StillCmd.ite (StillCmd.pure _) ?_
  refine (still_readString _).bind fun reqPath => ?_
  refine (still_openFile _ _ _).bind fun fdW => ?_
  refine (StillCmd.modifyUnix _ _).bind fun _ => ?_
  refine StillCmd.ite (StillCmd.pure _) ?_
  split
  · exact StillCmd.pure _
  · exact still_unixAcceptReply _ _ _ _ _ _ _

theorem attaches_unixAccept
    (env : UnixAcceptEnv)
    (p np : Ptr) :
    Attaches .unix np (unixAccept env p np) := by
  refine Attaches.after_read
    (fun _ _ _ h => (derefSocket_ok h).1) fun lsd => ?_
  refine Attaches.of_malloc rfl fun q => ?_
  refine (StillCmd.modifyUnix _ _).bind fun _ => ?_
  refine (StillCmd.derefSocket np).bind fun nsd => ?_
  refine StillCmd.ite (StillCmd.fail _) ?_
  refine (StillCmd.deref _ _).bind fun usock => ?_
  refine (still_readFd _ _).bind fun taken => ?_
  split
  · exact StillCmd.pure _
  · exact still_unixAcceptRequest _ _ _ _ _

theorem still_openPairEnd
    (env : OpenEnv)
    (usock : Option Ptr)
    (dest : Bytes) :
    StillCmd (openPairEnd env usock dest) := by
  refine (still_fits _ _).bind fun path => ?_
  refine (still_openFile _ _ _).bind fun fd => ?_
  exact (StillCmd.when (StillCmd.modifyUnix _ _)).bind
    fun _ => StillCmd.pure _

theorem still_setPeerpath
    (usock : Option Ptr)
    (path : Bytes) :
    StillCmd (setPeerpath usock path) := by
  refine (StillCmd.deref _ _).bind fun data => ?_
  refine (still_copyInto _ _).bind fun peerpath => ?_
  exact StillCmd.modifyUnix _ _

theorem still_pairStream
    (env : UnixSocketpairEnv)
    (data₀ data₁ : Option Ptr)
    (path₀ path₁ : Bytes) :
    StillCmd (pairStream env data₀ data₁ path₀ path₁) := by
  refine StillCmd.get.bind fun s => ?_
  refine (StillCmd.modifyUnix _ _).bind fun _ => ?_
  refine (StillCmd.modifyUnix _ _).bind fun _ => ?_
  refine (still_setPeerpath _ _).bind fun _ => ?_
  refine (still_setPeerpath _ _).bind fun _ => ?_
  refine (still_openPairEnd _ _ _).bind fun fdW => ?_
  refine StillCmd.when ?_
  exact (still_openPairEnd _ _ _).bind
    fun _ => StillCmd.pure _

end Libsocket
