import Libsocket.Unix.Peers
import Libsocket.Unix.Stream

/-
  Sequence numbers of a stream, and the length that a
  receiver makes of them.

  A sender reduces modulo `MAXINT`, a receiver subtracts
  without reducing, so a packet that runs over the end of
  the numbers is given another length.

  Main declarations:
    * `Produced`, `Produced.range`
    * `DecodesLength`, `AdvancesAlike`
    * `length_decodes_iff`
-/

namespace Libsocket

open Command

------------------------------------------------------------
-- Ranges
------------------------------------------------------------

/- A number that reducing modulo `MAXINT` leaves alone. -/
def InRange (x : Int) : Prop := 0 ≤ x ∧ x ≤ maxInt

theorem modMaxintUnsigned_of_range
    {x : Int}
    (hLow : 0 ≤ x)
    (hHigh : x < 4294967296) :
    modMaxintUnsigned x = x % maxInt := by
  unfold modMaxintUnsigned
  rw [Word.unsigned_of_range hLow hHigh]

theorem inRange_modMaxintUnsigned (x : Int) :
    InRange (modMaxintUnsigned x) := by
  unfold InRange modMaxintUnsigned maxInt
  omega

theorem inRange_random (n : Fin 2147483648) :
    InRange (n : Nat) := by
  have hN := n.isLt
  unfold InRange maxInt
  omega

/- The number behind an open message's last. -/
theorem inRange_modMaxint_succ (x : Int) :
    InRange (modMaxint (modMaxintUnsigned x + 1)) := by
  unfold InRange modMaxint modMaxintUnsigned maxInt
  rw [Word.signed_of_range (by omega) (by omega),
    Int.tmod_eq_emod_of_nonneg (by omega)]
  omega

------------------------------------------------------------
-- Numbers That Are Produced
------------------------------------------------------------

/- The data after a packet of a length has been sent. -/
def LsckSocketUnix.sentPacket
    (usock : LsckSocketUnix)
    (n : Nat) : LsckSocketUnix :=
  { usock with seqW := modMaxintUnsigned (usock.seqW + n) }

/- The data after a packet has been received. -/
def LsckSocketUnix.gotPacket
    (usock : LsckSocketUnix)
    (header : UnixMsgHeader) : LsckSocketUnix :=
  { usock with
    seqR := modMaxintUnsigned (usock.seqR + recvlen header) }

/-
  The values that `seq_w` gets: from a connect, an accept or
  a pairing that succeeds, and from sends after that,
  whether they succeed or not.
-/
inductive Produced : Int → Prop
  | connect
      {env : UnixConnectEnv}
      {p : Ptr}
      {serv : Bytes}
      {d₀ d : LsckSocket}
      {usock : LsckSocketUnix}
      {s s' : Process}
      (form : WellFormed none s)
      (socket : s.heap p = some (.socket d₀))
      (interface : d₀.interface = some .unix)
      (run : unixConnect env p serv s = .ok (0, s'))
      (after : s'.HasUnix p d usock) :
      Produced usock.seqW
  | accept
      {env : UnixAcceptEnv}
      {p np : Ptr}
      {d : LsckSocket}
      {usock : LsckSocketUnix}
      {s s' : Process}
      (run : unixAccept env p np s = .ok (0, s'))
      (after : s'.HasUnix np d usock) :
      Produced usock.seqW
  | socketpair
      {env : UnixSocketpairEnv}
      {p₀ p₁ p : Ptr}
      {d₀ d₁ d : LsckSocket}
      {usock : LsckSocketUnix}
      {s s' : Process}
      (form : WellFormed none s)
      (two : p₀ ≠ p₁)
      (socket₀ : s.heap p₀ = some (.socket d₀))
      (socket₁ : s.heap p₁ = some (.socket d₁))
      (type : d₀.type = sockStream)
      (run : unixSocketpair env p₀ p₁ s = .ok (0, s'))
      (one : p = p₀ ∨ p = p₁)
      (after : s'.HasUnix p d usock) :
      Produced usock.seqW
  | send
      {writes : List WriteEnv}
      {p : Ptr}
      {msg : Bytes}
      {d d' : LsckSocket}
      {usock usock' : LsckSocketUnix}
      {s s' : Process}
      {r : Int}
      (before : s.HasUnix p d usock)
      (earlier : Produced usock.seqW)
      (run : unixSendStream writes p msg s = .ok (r, s'))
      (after : s'.HasUnix p d' usock') :
      Produced usock'.seqW

/- A send changes one block, and its number stays in range. -/
theorem sendLoop_range
    {q : Ptr}
    {writes : List WriteEnv}
    {msg : Bytes}
    {total : Nat}
    {usock : LsckSocketUnix}
    {s s' : Process}
    {r : Int}
    (hData : s.heap q = some (.unix usock))
    (hRange : InRange usock.seqW)
    (hRun : sendLoop (some q) writes msg total s =
      .ok (r, s')) :
    ∃ usock', s'.heap = Function.update s.heap q
      (some (.unix usock')) ∧ InRange usock'.seqW := by
  have hSelf : s.heap = Function.update s.heap q
      (some (.unix usock)) :=
    (Function.update_eq_self_iff.mpr hData.symm).symm
  induction writes generalizing msg total s usock with
  | nil =>
      cases msg with
      | nil =>
          cases hRun
          exact ⟨usock, hSelf, hRange⟩
      | cons b bs => cases hRun
  | cons w ws ih =>
      cases msg with
      | nil =>
          cases hRun
          exact ⟨usock, hSelf, hRange⟩
      | cons b bs =>
          rcases bind_eq_ok.mp hRun with
            ⟨here, s₁, hHere, hWritten⟩
          rcases derefUnix_ok hHere with ⟨rfl, q', hQ, hB⟩
          cases hQ
          cases hData.symm.trans hB
          rcases bind_eq_ok.mp hWritten with
            ⟨ret, t, hWrite, hTail⟩
          have hHeap : t.heap = s₁.heap := by
            funext x
            exact (local_writeFd (fun _ => False) w _ _ _ _ _
              hWrite).heap x (fun hOwn => hOwn)
          split at hTail
          · cases hTail
            exact ⟨usock, hHeap.trans hSelf, hRange⟩
          · rcases bind_eq_ok.mp hTail with ⟨_, u, hStep, hRest⟩
            rcases modifyUnix_some hStep with
              ⟨u₀, hU, hNew, -⟩
            rw [hHeap, hData] at hU
            cases hU
            have hNext : u.heap q = some (.unix
                (usock.sentPacket
                  ((b :: bs).take packetData).length)) := by
              rw [hNew, Function.update_self]
              rfl
            have hNextSelf : u.heap = Function.update u.heap q
                (some (.unix (usock.sentPacket
                  ((b :: bs).take packetData).length))) :=
              (Function.update_eq_self_iff.mpr
                hNext.symm).symm
            rcases ih hNext (inRange_modMaxintUnsigned _) hRest
              hNextSelf with ⟨usock', hFinal, hRange'⟩
            refine ⟨usock', ?_, hRange'⟩
            rw [hFinal, hNew, Function.update_idem, hHeap]

/- The request that a connect builds counts its path. -/
theorem ConnectStages.seqEnd
    {env : UnixConnectEnv}
    {p : Ptr}
    {serv : Bytes}
    {req : UnixMsgOpen}
    {ms : List Bytes}
    {s s' : Process}
    (hStages : ConnectStages env p serv req ms s s') :
    ∃ x, req.header.seqEnd = modMaxintUnsigned x := by
  rcases hStages with
    ⟨lsd, server, fd, ret, t₀, t₁, t₂, t₃, t₄, -, -, -, -, -, -,
      -, hReq, -⟩
  rcases unixConnectRequest_ok hReq with
    ⟨q, usock, sockpath, -, -, -, -, hHeader, -⟩
  rw [hHeader]
  exact ⟨_, rfl⟩

/- Whatever produced it, it is not negative. -/
theorem Produced.range
    {x : Int}
    (hProduced : Produced x) :
    InRange x := by
  induction hProduced with
  | connect hForm hSocket hInterface hRun hAfter =>
      rcases unixConnect_ok hRun with ⟨req, ms, hStages⟩
      rcases hForm.hasUnix hSocket hInterface with ⟨u, hUnix⟩
      rcases hStages.holds hForm hUnix hInterface with
        ⟨d', u', fdW, peer, rep, -, hHas, -⟩
      rcases hHas.unique hAfter with ⟨-, rfl⟩
      rcases hStages.seqEnd with ⟨x, hEnd⟩
      dsimp only [LsckSocketUnix.replied, LsckSocketUnix.asked]
      rw [hEnd]
      exact inRange_modMaxint_succ x
  | accept hRun hAfter =>
      rcases unixAccept_stages hRun with ⟨ms, hStages⟩
      rcases hStages.answers with
        ⟨lsd, server, client, mR, mW, nsd, fdR, fdW, req, -, -,
          -, -, -, -, -, -, -, hHas, -⟩
      rcases hHas.unique hAfter with ⟨-, rfl⟩
      dsimp only [LsckSocketUnix.answered, replyHeader]
      exact inRange_modMaxint_succ _
  | socketpair hForm hNe hSocket₀ hSocket₁ hType hRun hOne
      hAfter =>
      rcases unixSocketpair_ends hForm hNe hSocket₀ hSocket₁
        hType hRun (by decide) with
        ⟨-, u₀, u₁, fdR₀, fdR₁, fdW₀, fdW₁, secret, -, -,
          hUnix₀, hUnix₁⟩
      rcases hOne with rfl | rfl
      · rcases hUnix₀.unique hAfter with ⟨-, rfl⟩
        exact inRange_random _
      · rcases hUnix₁.unique hAfter with ⟨-, rfl⟩
        exact inRange_random _
  | send hBefore _ hRun hAfter ih =>
      rcases bind_eq_ok.mp hRun with ⟨lsd, t, hRead, hLoop⟩
      rcases derefSocket_ok hRead with ⟨rfl, hLsd⟩
      cases hBefore.socket.symm.trans hLsd
      rcases hBefore.data with ⟨q, hQ, hData⟩
      rw [hQ] at hLoop
      rcases sendLoop_range hData ih hLoop with
        ⟨u, hHeap, hRange⟩
      rcases hAfter with ⟨hSocket', q', hQ', hData'⟩
      rw [hHeap, Function.update_of_ne
        (socket_ne_unix hBefore.socket hData)] at hSocket'
      cases hBefore.socket.symm.trans hSocket'
      cases hQ.symm.trans hQ'
      rw [hHeap, Function.update_self] at hData'
      cases hData'
      exact hRange

------------------------------------------------------------
-- Lengths
------------------------------------------------------------

/- The numbers of a packet's header fit its fields. -/
theorem wellFormed_dataHeader
    {usock : LsckSocketUnix}
    (hRange : InRange usock.seqW)
    (n : Nat) :
    (dataHeader usock n).WellFormed := by
  rcases hRange with ⟨hLow, hHigh⟩
  unfold maxInt at hHigh
  unfold dataHeader modMaxintUnsigned maxInt headerSize
  constructor <;> dsimp only <;> omega

/- The length that the receiver computes is the payload's. -/
def DecodesLength (usock : LsckSocketUnix) (n : Nat) : Prop :=
  ∀ data : Bytes, data.length = n →
    recvlen (UnixMsgHeader.decode
      ((dataHeader usock n).encode ++ data)) = n

/- Both ends move on by the same amount. -/
def AdvancesAlike (usock : LsckSocketUnix) (n : Nat) : Prop :=
  ∀ (data : Bytes) (usock' : LsckSocketUnix),
    data.length = n → InRange usock'.seqR →
    ((usock.sentPacket n).seqW - usock.seqW) % maxInt =
      ((usock'.gotPacket (UnixMsgHeader.decode
        ((dataHeader usock n).encode ++ data))).seqR -
          usock'.seqR) % maxInt

/- The last number of a packet, before and after the wrap. -/
theorem seqEnd_dataHeader
    {usock : LsckSocketUnix}
    {n : Nat}
    (hRange : InRange usock.seqW)
    (hLow : 0 < n)
    (hHigh : n ≤ packetData) :
    (dataHeader usock n).seqEnd =
      if usock.seqW + n ≤ maxInt then usock.seqW + n - 1
      else usock.seqW + n - 1 - maxInt := by
  rcases hRange with ⟨hMin, hMax⟩
  unfold packetData mailslotSendsize headerSize at hHigh
  unfold maxInt at hMax
  change modMaxintUnsigned (usock.seqW + n - 1) = _
  rw [modMaxintUnsigned_of_range (by omega) (by omega)]
  unfold maxInt
  split
  · rw [Int.emod_eq_of_lt (by omega) (by omega)]
  · rw [← Int.sub_emod_right, Int.emod_eq_of_lt (by omega)
      (by omega)]

/- The two reductions disagree where the numbers wrap. -/
theorem recvlen_dataHeader
    {usock : LsckSocketUnix}
    {n : Nat}
    (hRange : InRange usock.seqW)
    (hLow : 0 < n)
    (hHigh : n ≤ packetData) :
    recvlen (dataHeader usock n) = n ↔
      usock.seqW + n ≤ maxInt := by
  have hEnd := seqEnd_dataHeader hRange hLow hHigh
  rcases hRange with ⟨hMin, hMax⟩
  unfold packetData mailslotSendsize headerSize at hHigh
  unfold maxInt at hMax
  change Word.unsigned ((dataHeader usock n).seqEnd -
    usock.seqW + 1) = n ↔ _
  rw [hEnd]
  unfold Word.unsigned maxInt
  split
  · have hSame : usock.seqW + n - 1 - usock.seqW + 1 = n := by
      omega
    rw [hSame, Int.emod_eq_of_lt (by omega) (by omega)]
    omega
  · have hLess : usock.seqW + n - 1 - 2147483647 -
        usock.seqW + 1 = n - 2147483647 := by
      omega
    rw [hLess]
    omega

/-
  The length of a packet is decoded, and both ends move on
  alike, if and only if its last number does not wrap.
-/
theorem length_decodes_iff
    {usock : LsckSocketUnix}
    {n : Nat}
    (hProduced : Produced usock.seqW)
    (hLow : 0 < n)
    (hHigh : n ≤ packetData) :
    DecodesLength usock n ∧ AdvancesAlike usock n ↔
      usock.seqW + n ≤ maxInt := by
  have hRange := hProduced.range
  have hDecode : ∀ data, UnixMsgHeader.decode
      ((dataHeader usock n).encode ++ data) =
        dataHeader usock n :=
    UnixMsgHeader.decode_encode (wellFormed_dataHeader hRange n)
  have hLength := recvlen_dataHeader hRange hLow hHigh
  constructor
  · rintro ⟨hDecodes, -⟩
    apply hLength.mp
    rw [← hDecode (List.replicate n 0)]
    exact hDecodes _ List.length_replicate
  · intro hFits
    have hN := hLength.mpr hFits
    constructor
    · intro data _
      rw [hDecode, hN]
    · intro data usock' _ hRange'
      rcases hRange with ⟨hMin, hMax⟩
      rcases hRange' with ⟨hMin', hMax'⟩
      unfold maxInt at hMax hMax'
      unfold packetData mailslotSendsize headerSize at hHigh
      unfold LsckSocketUnix.sentPacket
        LsckSocketUnix.gotPacket
      rw [hDecode, hN]
      dsimp only
      rw [modMaxintUnsigned_of_range (by omega) (by omega),
        modMaxintUnsigned_of_range (by omega) (by omega)]
      unfold maxInt
      omega

/- A send loop adds what each packet adds. -/
theorem sendLoop_cons
    (usock : Option Ptr)
    (w : WriteEnv)
    (ws : List WriteEnv)
    (b : UInt8)
    (bs : Bytes)
    (total : Nat) :
    sendLoop usock (w :: ws) (b :: bs) total = (do
      let data := (b :: bs).take packetData
      let here ← deref Block.unix? usock
      let ret ← writeFd w here.fdW
        ((dataHeader here data.length).encode ++ data)
      if ret = -1 ∨ ret - headerSize ≠ data.length then
        fail Errno.EIO
      else do
        modifyUnix usock fun u => u.sentPacket data.length
        sendLoop usock ws ((b :: bs).drop packetData)
          (total + data.length)) := rfl

------------------------------------------------------------
-- Two Pairs
------------------------------------------------------------

/- Two new Unix streams. -/
def twoStreams : Process :=
  afterCalls [.socketx (.granting 3 10 11) afUnix sockStream 0
    none, .socketx (.granting 4 20 21) afUnix sockStream 0 none]

def firstStream : LsckSocket :=
  (twoStreams.socket? 10).getD .cleared

def secondStream : LsckSocket :=
  (twoStreams.socket? 20).getD .cleared

/- A pairing that draws a number for the first end. -/
def UnixSocketpairEnv.drawing
    (n : Fin 2147483648) : UnixSocketpairEnv :=
  { SocketpairEnv.granting.unixEnv with seq₀ := n }

theorem produced_drawing
    {n : Fin 2147483648}
    (hRun : answer (unixSocketpair (.drawing n) 10 20)
      twoStreams = some 0) :
    ∃ usock : LsckSocketUnix, Produced usock.seqW ∧
      usock.seqW = (n : Nat) := by
  have hForm : WellFormed none twoStreams :=
    wellFormed_afterCalls (by decide +kernel)
  have hSocket₀ : twoStreams.heap 10 =
      some (.socket firstStream) :=
    Process.socket?_eq_some.mp (by decide +kernel)
  have hSocket₁ : twoStreams.heap 20 =
      some (.socket secondStream) :=
    Process.socket?_eq_some.mp (by decide +kernel)
  have hType : firstStream.type = sockStream := by
    decide +kernel
  rcases exists_run_of_answer hRun with ⟨s', hPaired⟩
  rcases unixSocketpair_ends hForm (by decide) hSocket₀ hSocket₁
    hType hPaired (by decide) with
    ⟨-, u₀, u₁, fdR₀, fdR₁, fdW₀, fdW₁, secret, -, -, hUnix, -⟩
  exact ⟨_, .socketpair hForm (by decide) hSocket₀ hSocket₁
    hType hPaired (.inl rfl) hUnix, rfl⟩

theorem length_decodes_at_zero :
    ∃ usock, DecodesLength usock 1 ∧ AdvancesAlike usock 1 := by
  rcases produced_drawing (n := 0) (by decide +kernel) with
    ⟨usock, hProduced, hZero⟩
  have hFits : usock.seqW + (1 : Nat) ≤ maxInt := by
    rw [hZero]
    decide
  exact ⟨usock, (length_decodes_iff hProduced (by decide)
    (by decide)).mpr hFits⟩

/- The last number of all decodes to another length. -/
theorem length_lost_at_wrap :
    ¬ ∀ (usock : LsckSocketUnix) (n : Nat),
      Produced usock.seqW → 0 < n → n ≤ packetData →
        DecodesLength usock n ∧ AdvancesAlike usock n := by
  intro hAlways
  rcases produced_drawing (n := 2147483647)
    (by decide +kernel) with ⟨usock, hProduced, hLast⟩
  have hRange := hProduced.range
  have hDecodes := (hAlways usock 1 hProduced (by decide)
    (by decide)).1 [0] rfl
  rw [UnixMsgHeader.decode_encode
    (wellFormed_dataHeader hRange 1)] at hDecodes
  have hFits := (recvlen_dataHeader hRange (by decide)
    (by decide)).mp hDecodes
  rw [hLast] at hFits
  revert hFits
  decide

end Libsocket
