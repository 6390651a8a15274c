import Libsocket.Mailslot
import Libsocket.Library.Word

/-
  The messages of the Unix interface and their layout in
  memory, as packed little-endian structures.

  Main declarations:
    * `UnixMsgHeader`
    * `UnixMsgHeader.encode`, `UnixMsgHeader.decode`
    * `UnixMsgHeader.decode_encode`
    * `UnixMsgHeader.clip`, `UnixMsgHeader.decode_clip`
    * `UnixMsgOpen`
-/

namespace Libsocket

------------------------------------------------------------
-- Message Types
------------------------------------------------------------

/- `UNIX_MSG_VERSION` -/
def unixMsgVersion : UInt8 := 0x01

/- `UNIX_MSG_DGRAM_BIT` -/
def unixMsgDgramBit : UInt8 := 0x20

/- `UNIX_MSG_CLIENT_OPEN` -/
def unixMsgClientOpen : UInt8 := 0x01

/- `UNIX_MSG_CLIENT_CLOSE` -/
def unixMsgClientClose : UInt8 := 0x02

/- `UNIX_MSG_SERVER_OPEN` -/
def unixMsgServerOpen : UInt8 := 0x11

/- `UNIX_MSG_SERVER_CLOSE` -/
def unixMsgServerClose : UInt8 := 0x12

/- `UNIX_MSG_DATA` -/
def unixMsgData : UInt8 := 0x08

/- `MAILSLOT_SENDSIZE` -/
def mailslotSendsize : Nat := 0x0FF0

------------------------------------------------------------
-- Header
------------------------------------------------------------

/- `UNIX_MSG_HEADER` -/
structure UnixMsgHeader where
  version : UInt8
  type : UInt8
  secret : UnixMsgSecret
  seqStart : Int
  seqEnd : Int
  offset : Int
deriving DecidableEq, Repr

/- `sizeof (UNIX_MSG_HEADER)` -/
def headerSize : Nat := 20

namespace UnixMsgHeader

/- A header's fields fit the types of the structure. -/
structure WellFormed (h : UnixMsgHeader) : Prop where
  seqStart_low : -2147483648 ≤ h.seqStart
  seqStart_high : h.seqStart < 2147483648
  seqEnd_low : -2147483648 ≤ h.seqEnd
  seqEnd_high : h.seqEnd < 2147483648
  offset_low : -32768 ≤ h.offset
  offset_high : h.offset < 32768

def nBytes (h : UnixMsgHeader) : Bytes :=
  Word.littleEndian 4 h.secret.n.toNat

def pidBytes (h : UnixMsgHeader) : Bytes :=
  Word.littleEndian 4 h.secret.pid.toNat

def startBytes (h : UnixMsgHeader) : Bytes :=
  Word.littleEndian 4 (Word.unsigned h.seqStart)

def endBytes (h : UnixMsgHeader) : Bytes :=
  Word.littleEndian 4 (Word.unsigned h.seqEnd)

def offsetBytes (h : UnixMsgHeader) : Bytes :=
  Word.littleEndian 2 (h.offset % 65536).toNat

/- The packed structure, field after field. -/
def encode (h : UnixMsgHeader) : Bytes :=
  [h.version, h.type] ++ nBytes h ++ pidBytes h ++
    startBytes h ++ endBytes h ++ offsetBytes h

/- The number stored in `width` bytes from `start` on. -/
def field (b : Bytes) (start width : Nat) : Nat :=
  Word.ofLittleEndian ((b.drop start).take width)

def decode (b : Bytes) : UnixMsgHeader where
  version := b.getD 0 0
  type := b.getD 1 0
  secret := ⟨UInt32.ofNat (field b 2 4),
    UInt32.ofNat (field b 6 4)⟩
  seqStart := Word.signed (field b 10 4)
  seqEnd := Word.signed (field b 14 4)
  offset := Word.signed16 (field b 18 2)

@[simp] theorem length_encode (h : UnixMsgHeader) :
    h.encode.length = headerSize := by
  simp [encode, nBytes, pidBytes, startBytes, endBytes,
    offsetBytes, headerSize]

/- A field between other bytes reads back. -/
theorem field_append
    {before value after : Bytes}
    {start width : Nat}
    (hStart : before.length = start)
    (hWidth : value.length = width) :
    field (before ++ (value ++ after)) start width =
      Word.ofLittleEndian value := by
  subst hStart hWidth
  simp [field]

/- Only the first bytes of a buffer matter. -/
theorem decode_append
    {b : Bytes}
    (hLength : headerSize ≤ b.length)
    (rest : Bytes) :
    decode (b ++ rest) = decode b := by
  unfold headerSize at hLength
  have hField : ∀ start width,
      start + width ≤ 20 →
      field (b ++ rest) start width = field b start width := by
    intro start width hBound
    unfold field
    rw [List.drop_append_of_le_length (by omega),
      List.take_append_of_le_length
        (by rw [List.length_drop]; omega)]
  have hByte : ∀ i, i < 20 →
      (b ++ rest).getD i 0 = b.getD i 0 := by
    intro i hBound
    rw [List.getD_eq_getElem?_getD,
      List.getD_eq_getElem?_getD,
      List.getElem?_append_left (by omega)]
  simp only [decode, hField _ _ (by omega : 2 + 4 ≤ 20),
    hField _ _ (by omega : 6 + 4 ≤ 20),
    hField _ _ (by omega : 10 + 4 ≤ 20),
    hField _ _ (by omega : 14 + 4 ≤ 20),
    hField _ _ (by omega : 18 + 2 ≤ 20),
    hByte 0 (by omega), hByte 1 (by omega)]

theorem word_lt (x : UInt32) : x.toNat < 256 ^ 4 := by
  have hBound := x.toNat_lt
  omega

/- A header reads back from what it is stored as. -/
theorem decode_encode
    {h : UnixMsgHeader}
    (hForm : h.WellFormed)
    (rest : Bytes) :
    decode (h.encode ++ rest) = h := by
  rw [decode_append (by simp)]
  have hN : field h.encode 2 4 = h.secret.n.toNat := by
    have hShape : h.encode = [h.version, h.type] ++
        (nBytes h ++ (pidBytes h ++ (startBytes h ++
          (endBytes h ++ offsetBytes h)))) := by
      simp [encode]
    rw [hShape, field_append (by simp) (by simp [nBytes]),
      nBytes, Word.ofLittleEndian_littleEndian (word_lt _)]
  have hPid : field h.encode 6 4 = h.secret.pid.toNat := by
    have hShape : h.encode =
        ([h.version, h.type] ++ nBytes h) ++
          (pidBytes h ++ (startBytes h ++
            (endBytes h ++ offsetBytes h))) := by
      simp [encode]
    rw [hShape, field_append (by simp [nBytes])
        (by simp [pidBytes]),
      pidBytes,
      Word.ofLittleEndian_littleEndian (word_lt _)]
  have hStart : field h.encode 10 4 =
      Word.unsigned h.seqStart := by
    have hShape : h.encode =
        ([h.version, h.type] ++ nBytes h ++ pidBytes h) ++
          (startBytes h ++
            (endBytes h ++ offsetBytes h)) := by
      simp [encode]
    rw [hShape, field_append (by simp [nBytes, pidBytes])
        (by simp [startBytes]),
      startBytes,
      Word.ofLittleEndian_littleEndian
        (Word.unsigned_lt _)]
  have hEnd : field h.encode 14 4 =
      Word.unsigned h.seqEnd := by
    have hShape : h.encode =
        ([h.version, h.type] ++ nBytes h ++ pidBytes h ++
          startBytes h) ++
          (endBytes h ++ offsetBytes h) := by
      simp [encode]
    rw [hShape, field_append
        (by simp [nBytes, pidBytes, startBytes])
        (by simp [endBytes]),
      endBytes,
      Word.ofLittleEndian_littleEndian
        (Word.unsigned_lt _)]
  have hOffset : field h.encode 18 2 =
      (h.offset % 65536).toNat := by
    have hShape : h.encode =
        ([h.version, h.type] ++ nBytes h ++ pidBytes h ++
          startBytes h ++ endBytes h) ++
          (offsetBytes h ++ []) := by
      simp [encode]
    rw [hShape, field_append
        (by simp [nBytes, pidBytes, startBytes, endBytes])
        (by simp [offsetBytes]),
      offsetBytes,
      Word.ofLittleEndian_littleEndian (by omega)]
  have hShort :
      Word.signed16 ((h.offset % 65536).toNat : Int) =
        h.offset := by
    have hLow := hForm.offset_low
    have hHigh := hForm.offset_high
    unfold Word.signed16
    omega
  have hVersion : h.encode.getD 0 0 = h.version := rfl
  have hType : h.encode.getD 1 0 = h.type := rfl
  simp only [decode, hVersion, hType, hN, hPid, hStart,
    hEnd, hOffset, hShort, Word.signed_unsigned,
    UInt32.ofNat_toNat,
    Word.signed_of_range hForm.seqStart_low
      hForm.seqStart_high,
    Word.signed_of_range hForm.seqEnd_low
      hForm.seqEnd_high]

/- The numbers of a header, cut to the width of its fields. -/
def clip (h : UnixMsgHeader) : UnixMsgHeader :=
  { h with
    seqStart := Word.signed h.seqStart
    seqEnd := Word.signed h.seqEnd
    offset := Word.signed16 h.offset }

theorem clip_wellFormed (h : UnixMsgHeader) :
    h.clip.WellFormed := by
  have hStart := Word.signed_range h.seqStart
  have hEnd := Word.signed_range h.seqEnd
  have hOffset : -32768 ≤ Word.signed16 h.offset ∧
      Word.signed16 h.offset < 32768 := by
    unfold Word.signed16
    omega
  exact ⟨hStart.1, hStart.2, hEnd.1, hEnd.2, hOffset.1,
    hOffset.2⟩

/- No more than that is stored. -/
theorem encode_clip (h : UnixMsgHeader) :
    h.clip.encode = h.encode := by
  have hUnsigned : ∀ x,
      Word.unsigned (Word.signed x) = Word.unsigned x := by
    intro x
    unfold Word.unsigned Word.signed
    omega
  have hShort : Word.signed16 h.offset % 65536 =
      h.offset % 65536 := by
    unfold Word.signed16
    omega
  unfold encode clip nBytes pidBytes startBytes endBytes
    offsetBytes
  simp only [hUnsigned, hShort]

/- Whatever the numbers, type and secret read back. -/
theorem decode_clip (h : UnixMsgHeader) (rest : Bytes) :
    decode (h.encode ++ rest) = h.clip := by
  rw [← encode_clip]
  exact decode_encode h.clip_wellFormed rest

end UnixMsgHeader

------------------------------------------------------------
-- Open Messages
------------------------------------------------------------

/-
  `UNIX_MSG_OPEN_REQUEST` and `UNIX_MSG_OPEN_REPLY`: a
  header and the path of a mailslot in a raw buffer.
-/
structure UnixMsgOpen where
  header : UnixMsgHeader
  path : Bytes
deriving DecidableEq, Repr

/- The size of the path field. -/
def openPathSize : Nat := 128

/- `sizeof (UNIX_MSG_OPEN_REQUEST)` -/
def openSize : Nat := headerSize + openPathSize

def UnixMsgOpen.encode (m : UnixMsgOpen) : Bytes :=
  m.header.encode ++ m.path

/- The structure a buffer of `openSize` bytes holds. -/
def UnixMsgOpen.decode (b : Bytes) : UnixMsgOpen where
  header := UnixMsgHeader.decode b
  path := (b.drop headerSize).take openPathSize

/- An open message reads back. -/
theorem UnixMsgOpen.decode_encode
    {m : UnixMsgOpen}
    (hForm : m.header.WellFormed)
    (hPath : m.path.length = openPathSize)
    (rest : Bytes) :
    decode (m.encode ++ rest) = m := by
  rcases m with ⟨header, path⟩
  have hHeader :
      UnixMsgHeader.decode (header.encode ++ path ++ rest) =
        header := by
    rw [List.append_assoc]
    exact UnixMsgHeader.decode_encode hForm _
  have hTail :
      ((header.encode ++ path ++ rest).drop headerSize).take
        openPathSize = path := by
    rw [List.append_assoc,
      List.drop_left' (UnixMsgHeader.length_encode header),
      List.take_left' hPath]
  simp only [decode, encode, hHeader, hTail]

end Libsocket
