import Libsocket.Unix.Callbacks

/-
  Stream traffic of the Unix interface.

  Main declarations:
    * `unixSendStream`
    * `isClosePacket`, `isDataPacket`
    * `unixRecvStream`
-/

namespace Libsocket

open Command

------------------------------------------------------------
-- Sending
------------------------------------------------------------

/- The most data that one packet carries. -/
def packetData : Nat := mailslotSendsize - headerSize

/- The header of a data packet. -/
def dataHeader
    (usock : LsckSocketUnix)
    (sendlen : Nat) : UnixMsgHeader where
  version := unixMsgVersion
  type := unixMsgData
  secret := usock.secret
  seqStart := usock.seqW
  seqEnd := modMaxintUnsigned (usock.seqW + sendlen - 1)
  offset := headerSize

/-
  The loop over the packets of a message. The environment
  has one outcome for each write, as far as the call gets.
-/
def sendLoop
    (usock : Option Ptr) :
    List WriteEnv → Bytes → Nat → Exec Int
| _, [], total => return total
| [], _ :: _, _ => stop .blocked
| w :: ws, b :: bs, total => do
    let data := (b :: bs).take packetData
    let here ← deref Block.unix? usock
    let ret ← writeFd w here.fdW
      ((dataHeader here data.length).encode ++ data)
    if ret = -1 ∨ ret - headerSize ≠ data.length then
      fail Errno.EIO
    else do
      modifyUnix usock fun usock =>
        { usock with
          seqW := modMaxintUnsigned
            (usock.seqW + data.length) }
      sendLoop usock ws ((b :: bs).drop packetData)
        (total + data.length)

/- `__unix_send_stream` -/
def unixSendStream
    (writes : List WriteEnv)
    (p : Ptr)
    (msg : Bytes) : Exec Int := do
  let lsd ← derefSocket p
  sendLoop lsd.idata writes msg 0

------------------------------------------------------------
-- Packets
------------------------------------------------------------

/- The packet says that the peer has closed. -/
def isClosePacket
    (accepted : Bool)
    (secret : UnixMsgSecret)
    (header : UnixMsgHeader) : Bool :=
  (header.type == unixMsgServerClose && !accepted ||
    header.type == unixMsgClientClose && accepted) &&
    secret == header.secret

/- The packet passes both checks of the receive loop. -/
def isDataPacket
    (secret : UnixMsgSecret)
    (header : UnixMsgHeader) : Bool :=
  header.type &&& unixMsgData != 0 &&
    (header.type &&& unixMsgDgramBit != 0 ||
      header.secret == secret)

/- The length that the sequence numbers stand for. -/
def recvlen (header : UnixMsgHeader) : Nat :=
  Word.unsigned (header.seqEnd - header.seqStart + 1)

------------------------------------------------------------
-- Receiving
------------------------------------------------------------

/-
  One outcome for each read, as far as the call gets, the
  memory around the packet buffer, the write of a close
  packet, and what `close` does on the two descriptors.
-/
structure RecvEnv where
  reads : List ReadEnv
  around : Int → UInt8
  write : WriteEnv
  closeR : Fd → Exec Int
  closeW : Fd → Exec Int

/- The byte at an offset from the start of the buffer. -/
def memoryAt
    (buffer : Bytes)
    (around : Int → UInt8)
    (i : Int) : UInt8 :=
  if 0 ≤ i ∧ i < buffer.length then
    buffer.getD i.toNat 0
  else
    around i

/- `memcpy` of `n` bytes at the packet's data. -/
def copyOut
    (buffer : Bytes)
    (around : Int → UInt8)
    (offset : Int)
    (n : Nat) : Bytes :=
  (List.range n).map fun (i : Nat) =>
    memoryAt buffer around (offset + i)

/- Read one message, peeking if that is asked for. -/
def readPacket
    (env : ReadEnv)
    (peek : Bool)
    (fdR : Fd) : Exec (Option (List Bytes)) := do
  when peek (ioctlPeek fdR true)
  let taken ← readFd env fdR
  when peek (ioctlPeek fdR false)
  return taken

/-
  The receive loop: the return value and what is copied to
  the caller. A bad packet leads back to the loop's test
  with the byte count of the read in `ret`.
-/
def recvLoop
    (env : RecvEnv)
    (p : Ptr)
    (len : Nat)
    (peeking : Bool) :
    List ReadEnv → Bool → Exec (Int × Bytes)
| [], _ => stop .blocked
| r :: rs, badPacket => do
    let lsd ← derefSocket p
    let usock ← deref Block.unix? lsd.idata
    let taken ← readPacket r (!badPacket && peeking) usock.fdR
    match taken with
    | none => do
        setErrno Errno.EIO
        return (-1, [])
    | some ms => do
        modify fun s =>
          { s with recvBuf := overlay s.recvBuf ms.flatten }
        let s ← get
        let header := UnixMsgHeader.decode s.recvBuf
        if isClosePacket lsd.accepted usock.secret header
        then do
          let _ ← unixClose env.closeR env.closeW env.write p
          setErrno .ECONNRESET
          return (-1, [])
        else if isDataPacket usock.secret header = false then
          if ms.flatten = [] then
            recvLoop env p len peeking rs true
          else
            return (ms.flatten.length, [])
        else do
          when (header.type &&& unixMsgDgramBit = 0)
            (modifyUnix lsd.idata fun usock =>
              { usock with
                seqR := modMaxintUnsigned
                  (usock.seqR + recvlen header) })
          let n := min len (recvlen header)
          if 2147483648 ≤ n then
            fault
          else if n = 0 then
            recvLoop env p len peeking rs false
          else
            return (n, copyOut s.recvBuf env.around
              header.offset n)

/- `__unix_recv_stream` -/
def unixRecvStream
    (env : RecvEnv)
    (p : Ptr)
    (len : Nat)
    (flags : Nat) : Exec (Int × Bytes) :=
  recvLoop env p len (flags &&& msgPeek == msgPeek)
    env.reads false

end Libsocket
