import Libsocket.Addr
import Libsocket.Core.Invariant

/-
  Asking for the addresses of a socket with `ioctl`, where
  the interface leaves it to the emulation.

  Main declarations:
    * `ioctlsocketEmulated`
    * `IfreqAnswers`, `IfreqMeets`
    * `ifreq_answers_iff`
-/

namespace Libsocket

open Command

------------------------------------------------------------
-- Requests
------------------------------------------------------------

/- `SIOCGIFNAME` -/
def siocgifname : Int := 0x40047310

/- `SIOCGIFADDR`, `SIOCGIFDSTADDR` and `SIOCGIFNETMASK` -/
def siocgifaddr : Int := 0x40047315
def siocgifdstaddr : Int := 0x40047317
def siocgifnetmask : Int := 0x4004731b

/- The names of the interfaces -/
def Interface.ifName : Interface → Bytes
| .wsock => bytes "WSOCK.VXD"
| .csock => bytes "Coda SOCK.VXD"
| .unix => bytes "Unix->mailslot"

/- `sizeof (struct sockaddr)` -/
def sockaddrSize : Nat := 16

/- Where `ifr_ifru` lies in a `struct ifreq`. -/
def ifruOffset : Nat := 16

/- Where `sin_addr` lies in a `struct sockaddr_in`. -/
def sinAddrOffset : Nat := 4

/- `sizeof (ifr)`, which is a pointer. -/
def ifrPointerSize : Nat := 4

/- Copy bytes into memory that has room for them. -/
def memcpyAt
    (memory : Bytes)
    (i : Nat)
    (b : Bytes) : Exec Bytes :=
  if i + b.length ≤ memory.length then
    return memory.take i ++ b ++ memory.drop (i + b.length)
  else
    fault

/- The Internet address in the local name. -/
def LsckSocket.localAddr (lsd : LsckSocket) : InAddr :=
  .ofBytes (lsd.sockname.drop sinAddrOffset)

/- Neither an Internet stream nor such a datagram socket. -/
def LsckSocket.isForeign (lsd : LsckSocket) : Bool :=
  saFamily lsd.sockname ≠ afInet ||
    lsd.type ≠ sockStream && lsd.type ≠ sockDgram

/- Why there is no local address to tell. -/
def ifaddrRefusal (lsd : LsckSocket) : Option Errno :=
  if lsd.isForeign then
    some .EINVAL
  else if lsd.type = sockStream ∧ lsd.accepted = false ∧
      lsd.connected = false ∧ lsd.connecting = false then
    some .ENOTCONN
  else if lsd.type = sockDgram ∧ lsd.bound = false then
    some .EAGAIN
  else
    none

/-
  Why there is no peer. A datagram socket is refused if there
  is one.
-/
def ifdstaddrRefusal (lsd : LsckSocket) : Option Errno :=
  if lsd.isForeign then
    some .EINVAL
  else if lsd.type = sockStream ∧ lsd.accepted = false ∧
      lsd.connected = false then
    some .ENOTCONN
  else if lsd.type = sockDgram ∧ lsd.peernamelen ≠ 0 then
    some .EDESTADDRREQ
  else
    none

/- Fail, with the caller's memory as it is. -/
def failWith
    (param : Bytes)
    (e : Errno) : Exec (Int × Bytes) := do
  let ret ← fail e
  return (ret, param)

/-
  `ioctlsocket_emulated`: the result and what `param` points
  to afterwards. `addr` gives the table of an interface.
-/
def ioctlsocketEmulated
    (addr : Interface → Option LsckIfAddrTable)
    (p : Ptr)
    (request : Int)
    (param : Bytes) : Exec (Int × Bytes) := do
  let lsd ← derefSocket p
  if request = siocgifname then do
    let i ← interfaceOf lsd
    let param ← memcpyAt param 0 (CString.store i.ifName)
    return (0, param)
  else if request = siocgifaddr then
    match ifaddrRefusal lsd with
    | some e => failWith param e
    | none => do
        let param ← memcpyAt param ifruOffset
          (lsd.sockname.take sockaddrSize)
        return (0, param)
  else if request = siocgifdstaddr then
    match ifdstaddrRefusal lsd with
    | some e => failWith param e
    | none => do
        let param ← memcpyAt param ifruOffset
          (lsd.peername.take sockaddrSize)
        return (0, param)
  else if request = siocgifnetmask then
    match ifdstaddrRefusal lsd with
    | some e => failWith param e
    | none => do
        let param ← memcpyAt param 0
          (List.replicate ifrPointerSize 0)
        let i ← interfaceOf lsd
        match addr i with
        | none => failWith param .EINVAL
        | some table =>
            if table.family = afInet then
              match table.inet.find? fun inet =>
                  lsd.localAddr = inet.addr with
              | none => return (0, param)
              | some inet => do
                  let param ← memcpyAt param ifruOffset
                    (Word.littleEndian 2 afInet.toNat)
                  let param ← memcpyAt param
                    (ifruOffset + sinAddrOffset)
                    inet.netmask.bytes
                  return (0, param)
            else
              failWith param .EINVAL
  else
    failWith param .EINVAL

------------------------------------------------------------
-- What The Requests Promise
------------------------------------------------------------

/- A `struct ifreq` that holds a name. -/
def IfreqHolds (param name : Bytes) : Prop :=
  name.take sockaddrSize <+: param.drop ifruOffset

/- A `struct ifreq` that holds an Internet address. -/
def IfreqHoldsAddr (param : Bytes) (a : InAddr) : Prop :=
  Word.littleEndian 2 afInet.toNat <+:
      param.drop ifruOffset ∧
    a.bytes <+: param.drop (ifruOffset + sinAddrOffset)

/- What the result of a request and the memory should be. -/
structure IfreqAnswers
    (entries : List LsckIfAddrInet)
    (lsd : LsckSocket)
    (request ret : Int)
    (param : Bytes) : Prop where
  sockname : request = siocgifaddr → ret = 0 →
    IfreqHolds param lsd.sockname
  peername : request = siocgifdstaddr → ret = 0 →
    IfreqHolds param lsd.peername
  datagram : request = siocgifdstaddr →
    lsd.type = sockDgram → (ret = 0 ↔ lsd.peernamelen ≠ 0)
  netmask : request = siocgifnetmask → ret = 0 →
    ∃ inet ∈ entries, inet.addr = lsd.localAddr ∧
      IfreqHoldsAddr param inet.netmask
  unmatched : request = siocgifnetmask →
    (∀ inet ∈ entries, inet.addr ≠ lsd.localAddr) →
    ret = -1

/-
  An Internet stream with a peer, or a datagram socket of
  that kind without one.
-/
def LsckSocket.PeerTold (lsd : LsckSocket) : Prop :=
  saFamily lsd.sockname = afInet ∧
    (lsd.type = sockStream ∧
        (lsd.accepted = true ∨ lsd.connected = true) ∨
      lsd.type = sockDgram ∧ lsd.peernamelen = 0)

/-
  The peer of a datagram socket is asked for only where there
  is none and the local name is not an Internet address, and
  a mask only where an entry matches, or on another socket,
  or where there are no Internet addresses at all.
-/
def IfreqMeets
    (table : Option LsckIfAddrTable)
    (lsd : LsckSocket)
    (request : Int) : Prop :=
  (request = siocgifdstaddr → lsd.type = sockDgram →
    lsd.peernamelen = 0 ∧ saFamily lsd.sockname ≠ afInet) ∧
  (request = siocgifnetmask →
    (∃ inet ∈ inetEntries table,
        inet.addr = lsd.localAddr) ∨
      ¬ lsd.PeerTold ∨
      ∀ t, table = some t → t.family ≠ afInet)

------------------------------------------------------------
-- What The Code Does
------------------------------------------------------------

/- A copy changes the bytes it is made to, and no others. -/
theorem memcpyAt_ok
    {memory b memory' : Bytes}
    {i : Nat}
    {s t : Process}
    (hRun : memcpyAt memory i b s = .ok (memory', t)) :
    t = s ∧ b <+: memory'.drop i ∧
      memory'.take i = memory.take i := by
  unfold memcpyAt at hRun
  by_cases hRoom : i + b.length ≤ memory.length
  · rw [if_pos hRoom] at hRun
    cases hRun
    have hFront : (memory.take i).length = i := by
      rw [List.length_take]
      omega
    refine ⟨rfl, ?_, ?_⟩
    · rw [List.append_assoc, List.drop_left' hFront]
      exact List.prefix_append _ _
    · rw [List.append_assoc, List.take_left' hFront]
  · rw [if_neg hRoom] at hRun
    cases hRun

/- What lies in front of a later copy stays. -/
theorem prefix_of_take
    {memory memory' b : Bytes}
    {i k : Nat}
    (hHolds : b <+: memory.drop i)
    (hSame : memory'.take k = memory.take k)
    (hBefore : i + b.length ≤ k) :
    b <+: memory'.drop i := by
  have hEarly : memory'.take (i + b.length) =
      memory.take (i + b.length) := by
    have hBoth := congrArg (List.take (i + b.length)) hSame
    rw [List.take_take, List.take_take,
      Nat.min_eq_left hBefore] at hBoth
    exact hBoth
  have hTake : (memory.drop i).take b.length =
      (memory'.drop i).take b.length := by
    have hBoth := congrArg (List.drop i) hEarly
    rw [List.drop_take, List.drop_take,
      Nat.add_sub_cancel_left] at hBoth
    exact hBoth.symm
  rw [List.prefix_iff_eq_take] at hHolds ⊢
  rw [← hTake]
  exact hHolds

section Requests

variable {addr : Interface → Option LsckIfAddrTable}
variable {p : Ptr} {d : LsckSocket} {s t : Process}
variable {request ret : Int} {param param' : Bytes}

theorem ifaddr_ok
    (hSocket : s.heap p = some (.socket d))
    (hRun : ioctlsocketEmulated addr p siocgifaddr param s =
      .ok ((ret, param'), t)) :
    ret = -1 ∨ IfreqHolds param' d.sockname := by
  unfold ioctlsocketEmulated at hRun
  rw [run_bind_ok (derefSocket_run hSocket),
    if_neg (by decide), if_pos rfl] at hRun
  cases hRefusal : ifaddrRefusal d with
  | some e =>
      rw [hRefusal] at hRun
      cases hRun
      exact .inl rfl
  | none =>
      rw [hRefusal] at hRun
      rcases bind_eq_ok.mp hRun with ⟨memory, u, hCopy, hRest⟩
      cases hRest
      exact .inr (memcpyAt_ok hCopy).2.1

theorem ifdstaddr_ok
    (hSocket : s.heap p = some (.socket d))
    (hRun : ioctlsocketEmulated addr p siocgifdstaddr param s =
      .ok ((ret, param'), t)) :
    ifdstaddrRefusal d ≠ none ∧ ret = -1 ∨
      ifdstaddrRefusal d = none ∧ ret = 0 ∧
        IfreqHolds param' d.peername := by
  unfold ioctlsocketEmulated at hRun
  rw [run_bind_ok (derefSocket_run hSocket),
    if_neg (by decide), if_neg (by decide), if_pos rfl] at hRun
  cases hRefusal : ifdstaddrRefusal d with
  | some e =>
      rw [hRefusal] at hRun
      cases hRun
      exact .inl ⟨Option.some_ne_none e, rfl⟩
  | none =>
      rw [hRefusal] at hRun
      rcases bind_eq_ok.mp hRun with ⟨memory, u, hCopy, hRest⟩
      cases hRest
      exact .inr ⟨rfl, rfl, (memcpyAt_ok hCopy).2.1⟩

/-
  Once the request is not refused, it succeeds if there are
  Internet addresses at all.
-/
theorem ifnetmask_ok
    (hSocket : s.heap p = some (.socket d))
    (hRun : ioctlsocketEmulated addr p siocgifnetmask param s =
      .ok ((ret, param'), t)) :
    (ifdstaddrRefusal d ≠ none ∨
        ∀ table, d.interface.bind addr = some table →
          table.family ≠ afInet) ∧ ret = -1 ∨
      ifdstaddrRefusal d = none ∧ ret = 0 ∧
        (∃ table, d.interface.bind addr = some table ∧
          table.family = afInet) ∧
        ((∀ inet ∈ inetEntries (d.interface.bind addr),
            inet.addr ≠ d.localAddr) ∨
          ∃ inet ∈ inetEntries (d.interface.bind addr),
            inet.addr = d.localAddr ∧
              IfreqHoldsAddr param' inet.netmask) := by
  unfold ioctlsocketEmulated at hRun
  rw [run_bind_ok (derefSocket_run hSocket),
    if_neg (by decide), if_neg (by decide),
    if_neg (by decide), if_pos rfl] at hRun
  cases hRefusal : ifdstaddrRefusal d with
  | some e =>
      rw [hRefusal] at hRun
      cases hRun
      exact .inl ⟨.inl (Option.some_ne_none e), rfl⟩
  | none =>
      rw [hRefusal] at hRun
      rcases bind_eq_ok.mp hRun with ⟨memory, u, -, hRest⟩
      rcases bind_eq_ok.mp hRest with ⟨i, v, hI, hScan⟩
      have hInterface : d.interface = some i := by
        unfold interfaceOf at hI
        cases hD : d.interface with
        | none =>
            rw [hD] at hI
            cases hI
        | some j =>
            rw [hD] at hI
            cases hI
            rfl
      rw [hInterface, Option.bind_some]
      cases hTable : addr i with
      | none =>
          rw [hTable] at hScan
          cases hScan
          refine .inl ⟨.inr ?_, rfl⟩
          intro table hSome
          cases hSome
      | some table =>
          simp only [hTable] at hScan
          by_cases hFamily : table.family = afInet
          · have hEntries : inetEntries (some table) =
                table.inet := if_pos hFamily
            rw [hEntries]
            rw [if_pos hFamily] at hScan
            refine .inr ⟨rfl, ?_⟩
            cases hFind : table.inet.find? fun inet =>
                decide (d.localAddr = inet.addr) with
            | none =>
                simp only [hFind] at hScan
                cases hScan
                refine ⟨rfl, ⟨table, rfl, hFamily⟩, .inl ?_⟩
                intro inet hMem hSame
                exact List.find?_eq_none.mp hFind inet hMem
                  (decide_eq_true hSame.symm)
            | some inet =>
                simp only [hFind] at hScan
                have hSame : d.localAddr = inet.addr := by
                  simpa using List.find?_some hFind
                rcases bind_eq_ok.mp hScan with
                  ⟨first, w, hFirst, hNext⟩
                rcases bind_eq_ok.mp hNext with
                  ⟨last, x, hLast, hDone⟩
                cases hDone
                refine ⟨rfl, ⟨table, rfl, hFamily⟩, .inr
                  ⟨inet, List.mem_of_find?_eq_some hFind,
                    hSame.symm, ?_⟩⟩
                rcases memcpyAt_ok hFirst with ⟨-, hHolds, -⟩
                rcases memcpyAt_ok hLast with
                  ⟨-, hMask, hFront⟩
                exact ⟨prefix_of_take hHolds hFront (by decide),
                  hMask⟩
          · rw [if_neg hFamily] at hScan
            cases hScan
            refine .inl ⟨.inr ?_, rfl⟩
            intro t hSome
            cases hSome
            exact hFamily

/- These are the sockets that no check refuses. -/
theorem ifdstaddrRefusal_eq_none (d : LsckSocket) :
    ifdstaddrRefusal d = none ↔ d.PeerTold := by
  have hNot : sockDgram ≠ sockStream := by decide
  unfold ifdstaddrRefusal LsckSocket.isForeign
    LsckSocket.PeerTold
  by_cases hFamily : saFamily d.sockname = afInet
  · by_cases hStream : d.type = sockStream
    · cases hAccepted : d.accepted with
      | true => simp [hFamily, hStream, hNot.symm]
      | false =>
          cases hConnected : d.connected with
          | true => simp [hFamily, hStream, hNot.symm]
          | false => simp [hFamily, hStream, hNot.symm]
    · by_cases hDgram : d.type = sockDgram
      · simp [hFamily, hDgram, hNot]
      · simp [hFamily, hStream, hDgram]
  · simp [hFamily]

/- A peer of a datagram socket makes the request fail. -/
theorem ifdstaddrRefusal_of_datagram
    (hType : d.type = sockDgram) :
    ifdstaddrRefusal d = none ↔
      saFamily d.sockname = afInet ∧ d.peernamelen = 0 := by
  have hNot : sockDgram ≠ sockStream := by decide
  rw [ifdstaddrRefusal_eq_none]
  unfold LsckSocket.PeerTold
  simp [hType, hNot]

/-
  A request about the addresses of a socket is answered as it
  should be exactly when the condition is met.
-/
theorem ifreq_answers_iff
    (hSocket : s.heap p = some (.socket d))
    (hRun : ioctlsocketEmulated addr p request param s =
      .ok ((ret, param'), t)) :
    IfreqAnswers (inetEntries (d.interface.bind addr)) d
        request ret param' ↔
      IfreqMeets (d.interface.bind addr) d request := by
  constructor
  · intro hAnswers
    constructor
    · intro hRequest hType
      have hDatagram := hAnswers.datagram hRequest hType
      subst hRequest
      rcases ifdstaddr_ok hSocket hRun with
        ⟨hRefused, rfl⟩ | ⟨hNone, rfl, -⟩
      · have hPeer : d.peernamelen = 0 := by
          by_contra hStored
          exact absurd (hDatagram.mpr hStored) (by decide)
        refine ⟨hPeer, fun hFamily => hRefused ?_⟩
        exact (ifdstaddrRefusal_of_datagram hType).mpr
          ⟨hFamily, hPeer⟩
      · have hPeer :=
          ((ifdstaddrRefusal_of_datagram hType).mp hNone).2
        exact absurd hPeer (hDatagram.mp rfl)
    · intro hRequest
      have hMask := hAnswers.netmask hRequest
      subst hRequest
      rcases ifnetmask_ok hSocket hRun with
        ⟨hRefused | hTable, -⟩ | ⟨-, hZero, -, -⟩
      · rw [Ne, ifdstaddrRefusal_eq_none] at hRefused
        exact .inr (.inl hRefused)
      · exact .inr (.inr hTable)
      · rcases hMask hZero with ⟨inet, hMem, hSame, -⟩
        exact .inl ⟨inet, hMem, hSame⟩
  · intro hMeets
    have hFails : (-1 : Int) ≠ 0 := by decide
    constructor
    · intro hRequest hZero
      subst hRequest hZero
      rcases ifaddr_ok hSocket hRun with hFail | hHolds
      · cases hFail
      · exact hHolds
    · intro hRequest hZero
      subst hRequest hZero
      rcases ifdstaddr_ok hSocket hRun with
        ⟨-, hFail⟩ | ⟨-, -, hHolds⟩
      · cases hFail
      · exact hHolds
    · intro hRequest hType
      rcases hMeets.1 hRequest hType with ⟨hPeer, hFamily⟩
      subst hRequest
      rcases ifdstaddr_ok hSocket hRun with
        ⟨-, rfl⟩ | ⟨hNone, -⟩
      · simp [hPeer]
      · exact absurd
          ((ifdstaddrRefusal_of_datagram hType).mp hNone).1
          hFamily
    · intro hRequest hZero
      have hCond := hMeets.2 hRequest
      subst hRequest hZero
      rcases ifnetmask_ok hSocket hRun with
        ⟨-, hFail⟩ | ⟨hNone, -, ⟨table, hTable, hInet⟩, hScan⟩
      · cases hFail
      · rcases hCond with ⟨inet, hMem, hSame⟩ | hRefused |
          hForeign
        · rcases hScan with hNoMatch | hMatch
          · exact absurd hSame (hNoMatch inet hMem)
          · exact hMatch
        · exact absurd ((ifdstaddrRefusal_eq_none d).mp hNone)
            hRefused
        · exact absurd hInet (hForeign table hTable)
    · intro hRequest hNoMatch
      have hCond := hMeets.2 hRequest
      subst hRequest
      rcases ifnetmask_ok hSocket hRun with
        ⟨-, hFail⟩ | ⟨hNone, -, ⟨table, hTable, hInet⟩, -⟩
      · exact hFail
      · rcases hCond with ⟨inet, hMem, hSame⟩ | hRefused |
          hForeign
        · exact absurd hSame (hNoMatch inet hMem)
        · exact absurd ((ifdstaddrRefusal_eq_none d).mp hNone)
            hRefused
        · exact absurd hInet (hForeign table hTable)

end Requests

/- A datagram socket that has a local name and no peer. -/
def boundDatagram : Process :=
  (runCalls [.socketx (.granting 3 10 11) afInet sockDgram 0
    none, .bind .granting 3 (some wildcard) 16]
      bareProcess).getD bareProcess

/- A `struct ifreq` that is cleared. -/
def emptyIfreq : Bytes := List.replicate 32 0

/- What the descriptor at `p` is, if there is one. -/
def Process.socketAt (s : Process) (p : Ptr) : LsckSocket :=
  (s.socket? p).getD .cleared

theorem boundDatagram_socket :
    boundDatagram.heap 10 =
      some (.socket (boundDatagram.socketAt 10)) :=
  Process.socket?_eq_some.mp (by decide +kernel)

theorem reachable_boundDatagram :
    lsckSystem.Reachable boundDatagram := by
  have hSome : (runCalls [.socketx (.granting 3 10 11) afInet
      sockDgram 0 none,
      .bind .granting 3 (some wildcard) 16]
      bareProcess).isSome = true := by decide +kernel
  rcases Option.isSome_iff_exists.mp hSome with ⟨s, hS⟩
  unfold boundDatagram
  rw [hS]
  exact reachable_of_calls hS

/- An address and its mask, for every interface. -/
def oneAddress (_ : Interface) : Option LsckIfAddrTable :=
  some ⟨afInet,
    [{ LsckIfAddrInet.cleared with
        netmask := ⟨255, 255, 255, 0⟩ }]⟩

/- The `struct ifreq` that holds the mask. -/
def maskedIfreq : Bytes :=
  List.replicate 16 0 ++ [2, 0, 0, 0, 255, 255, 255, 0] ++
    List.replicate 8 0

/- The mask of the address in the table is told. -/
theorem ifnetmask_told :
    IfreqAnswers
      (inetEntries
        ((boundDatagram.socketAt 10).interface.bind
          oneAddress))
      (boundDatagram.socketAt 10) siocgifnetmask 0
      maskedIfreq := by
  have hRun : ioctlsocketEmulated oneAddress 10
      siocgifnetmask emptyIfreq boundDatagram =
      .ok ((0, maskedIfreq), _) :=
    run_after (by decide +kernel)
  apply (ifreq_answers_iff boundDatagram_socket hRun).mpr
  constructor
  · intro hRequest
    exact absurd hRequest (by decide)
  · intro _
    left
    decide +kernel

/- A peer is told that there is not. -/
theorem ifdstaddr_without_peer :
    ¬ ∀ (addr : Interface → Option LsckIfAddrTable) (p : Ptr)
        (d : LsckSocket) (s t : Process) (request ret : Int)
        (param param' : Bytes),
      lsckSystem.Reachable s →
      s.heap p = some (.socket d) →
      d.family = afInet →
      ioctlsocketEmulated addr p request param s =
        .ok ((ret, param'), t) →
      IfreqAnswers (inetEntries (d.interface.bind addr)) d
        request ret param' := by
  intro hAlways
  have hRun : ioctlsocketEmulated oneAddress 10
      siocgifdstaddr emptyIfreq boundDatagram =
      .ok ((0, emptyIfreq), _) :=
    run_after (by decide +kernel)
  have hAnswers := hAlways oneAddress 10 _ boundDatagram _
    siocgifdstaddr 0 emptyIfreq emptyIfreq
    reachable_boundDatagram boundDatagram_socket
    (by decide +kernel) hRun
  have hPeer : (boundDatagram.socketAt 10).peernamelen = 0 := by
    decide +kernel
  have hType : (boundDatagram.socketAt 10).type = sockDgram := by
    decide +kernel
  exact (hAnswers.datagram rfl hType).mp rfl hPeer

end Libsocket
