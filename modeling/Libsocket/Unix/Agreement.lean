import Libsocket.Unix.Peers

/-
  What the two ends of a handshake agree on: the secret, the
  sequence numbers and the mailslots.

  A connect takes the reply's secret and path and nothing
  else of it. The number that the client expects next is the
  one it had before, and a mailslot of the server that could
  not be opened is not noticed.

  Main declarations:
    * `Handshake`
    * `EndsAgree`
    * `handshake_agrees_iff`
-/

namespace Libsocket

open Command

------------------------------------------------------------
-- Runs
------------------------------------------------------------

/- A run of `__unix_connect`. -/
structure ConnectRun where
  env : UnixConnectEnv
  socket : Ptr
  serv : Bytes
  before : Process
  after : Process

/- A run of `__unix_accept`. -/
structure AcceptRun where
  env : UnixAcceptEnv
  listener : Ptr
  socket : Ptr
  before : Process
  after : Process

/- The client has no name yet, or an absolute one. -/
def ConnectRun.Named (client : ConnectRun) : Prop :=
  ∀ d, client.before.heap client.socket = some (.socket d) →
    d.bound = true → ∃ name m,
      client.before.BoundAbsolutely client.socket name m

/-
  Both calls have returned zero, the server has read the
  request of the client, and the client the reply of the
  server.
-/
structure Handshake
    (client : ConnectRun)
    (server : AcceptRun) : Prop where
  form : WellFormed none client.before
  unix : ∃ d, client.before.heap client.socket =
    some (.socket d) ∧ d.interface = some .unix
  named : client.Named
  connected : unixConnect client.env client.socket client.serv
    client.before = .ok (0, client.after)
  accepted : unixAccept server.env server.listener
    server.socket server.before = .ok (0, server.after)
  exchanged : ∃ req m m' rep,
    answer (connectTakes client.env client.socket client.serv)
      client.before = some (req, some [rep]) ∧
    answer (acceptTakes server.env server.listener
      server.socket) server.before =
        some (some [UnixMsgOpen.encode req]) ∧
    newMessages client.before client.after =
      [(m, req.encode)] ∧
    newMessages server.before server.after = [(m', rep)]

------------------------------------------------------------
-- Agreement
------------------------------------------------------------

/- What one end writes is what the other end reads. -/
def Reaches
    (s : Process)
    (usock : LsckSocketUnix)
    (s' : Process)
    (usock' : LsckSocketUnix) : Prop :=
  ∃ m, usock.fdW ≠ -1 ∧ s.WritesTo usock.fdW m ∧
    s'.ReadsFrom usock'.fdR m

/- Two ends of one connection. -/
structure EndsAgree
    (s : Process)
    (usock : LsckSocketUnix)
    (s' : Process)
    (usock' : LsckSocketUnix) : Prop where
  secret : usock.secret = usock'.secret
  seq_up : usock.seqW = usock'.seqR
  seq_down : usock'.seqW = usock.seqR
  up : Reaches s usock s' usock'
  down : Reaches s' usock' s usock

/- The new ends of a client and a server agree. -/
def Agreed (client : ConnectRun) (server : AcceptRun) : Prop :=
  ∃ d usock d' usock',
    client.after.HasUnix client.socket d usock ∧
    server.after.HasUnix server.socket d' usock' ∧
    EndsAgree client.after usock server.after usock'

/- The number of the first byte after a server's reply. -/
def firstSeq (n : Fin 2147483648) : Int :=
  modMaxint ((replyHeader ⟨0, 0⟩ n []).seqEnd + 1)

/- The client already expects that number. -/
def ConnectRun.Expects
    (client : ConnectRun)
    (n : Fin 2147483648) : Prop :=
  ∃ d usock, client.before.HasUnix client.socket d usock ∧
    usock.seqR = firstSeq n

/- A connect up to the open of the reply's mailslot. -/
def connectOpens
    (env : UnixConnectEnv)
    (p : Ptr)
    (serv : Bytes) : Exec Fd := do
  let x ← connectTakes env p serv
  let path ← readString
    (receivedRequest env.repJunk (x.2.getD [])).path
  openFile env.openW path .wronly

/- DOS grants that open. -/
def ConnectRun.OpensReply (client : ConnectRun) : Prop :=
  ∃ fd, fd ≠ -1 ∧
    answer (connectOpens client.env client.socket client.serv)
      client.before = some fd

/- A new socket expects it for one random number only. -/
theorem firstSeq_eq_zero
    (n : Fin 2147483648) :
    firstSeq n = 0 ↔ (n : Nat) = 2147483646 := by
  have hN := n.isLt
  have hEnd : (replyHeader ⟨0, 0⟩ n []).seqEnd =
      ((n : Nat) : Int) % maxInt := by
    unfold replyHeader modMaxintUnsigned
    dsimp only
    rw [List.length_nil, Int.ofNat_zero, Int.add_zero,
      Word.unsigned_of_range (by omega) (by omega)]
  unfold firstSeq modMaxint maxInt at *
  rw [hEnd, Word.signed_of_range (by omega) (by omega),
    Int.tmod_eq_emod_of_nonneg (by omega)]
  omega

------------------------------------------------------------
-- The Client
------------------------------------------------------------

/- Who writes to the end's own name reaches the end. -/
structure Process.Awaits
    (s : Process)
    (usock : LsckSocketUnix)
    (name m : Bytes) : Prop where
  path : CString.read? usock.sockpath = some name
  mailslot : readName (unixLocalPath ++ name) = some m
  reads : s.ReadsFrom usock.fdR m

/- A bind on the way gives the client such a name. -/
theorem bindHere_awaits
    {env : BindEnv}
    {n : Fin 2147483648}
    {p : Ptr}
    {d : LsckSocket}
    {usock : LsckSocketUnix}
    {s s' : Process}
    {r : Int}
    (hForm : WellFormed none s)
    (hUnix : s.HasUnix p d usock)
    (hInterface : d.interface = some .unix)
    (hNamed : d.bound = true → ∃ name m,
      s.Awaits usock name m)
    (hRun : bindHere env n d s = .ok (r, s'))
    (hSuccess : r ≠ -1) :
    ∃ d' usock' name m, s'.HasUnix p d' usock' ∧
      d'.idata = d.idata ∧ usock'.seqR = usock.seqR ∧
      s'.Awaits usock' name m := by
  unfold bindHere at hRun
  by_cases hBound : d.bound
  · rw [if_pos hBound] at hRun
    cases hRun
    rcases hNamed hBound with ⟨name, m, hAwaits⟩
    exact ⟨d, usock, name, m, hUnix, rfl, rfl, hAwaits⟩
  · rw [if_neg hBound] at hRun
    rcases bind_unix_ok hForm (hForm.entry hUnix.socket)
      hUnix.socket hInterface rfl (read?_clientPath n) hRun
      hSuccess with
      ⟨m, usock₀, fdR, b, hUnix₀, hUnix', hPath, hReads, hName,
        -⟩
    rcases hUnix.unique hUnix₀ with ⟨-, rfl⟩
    have hSlot := hName (isAbsolute_clientPath n)
    exact ⟨d.named b, _, clientPath n, m, hUnix', rfl, rfl,
      ⟨hPath, hSlot, hReads⟩⟩

/- The exchange does not close the client's mailslot. -/
theorem exchange_readsFrom
    {env : UnixConnectEnv}
    {data : Option Ptr}
    {fd n : Fd}
    {req : UnixMsgOpen}
    {ms : List Bytes}
    {m m' : Bytes}
    {s s' : Process}
    (hWrites : s.WritesTo fd m)
    (hReads : s.ReadsFrom n m')
    (hRun : unixConnectExchange env data fd req s =
      .ok (some ms, s')) :
    s'.ReadsFrom n m' := by
  rcases bind_eq_ok.mp hRun with ⟨ret, t, hWrite, hTail⟩
  by_cases hRet : ret = -1
  · rw [if_pos hRet] at hTail
    cases hTail
  · rw [if_neg hRet] at hTail
    rcases writeFd_ok hWrites hWrite hRet with ⟨-, rfl⟩
    rcases bind_eq_ok.mp hTail with ⟨usock, u, hData, hRead⟩
    rcases derefUnix_ok hData with ⟨rfl, -⟩
    have hSent := hReads.of_fds
      (Process.fds_deliverTo s m req.encode)
    exact (steady_readFd _ _ _ _ _ hRead).readsFrom hSent

/- A name stays with data that keeps it. -/
theorem Process.Awaits.of_steady
    {s s' : Process}
    {usock usock' : LsckSocketUnix}
    {name m : Bytes}
    (hAwaits : s.Awaits usock name m)
    (hSteady : Steady s s')
    (hPath : usock'.sockpath = usock.sockpath)
    (hFd : usock'.fdR = usock.fdR) :
    s'.Awaits usock' name m := by
  constructor
  · rw [hPath]
    exact hAwaits.path
  · exact hAwaits.mailslot
  · rw [hFd]
    exact hSteady.readsFrom hAwaits.reads

/- A name that the descriptor knows is that of its data. -/
theorem Process.BoundAbsolutely.awaits
    {s : Process}
    {p : Ptr}
    {d : LsckSocket}
    {usock : LsckSocketUnix}
    {name m : Bytes}
    (hBound : s.BoundAbsolutely p name m)
    (hUnix : s.HasUnix p d usock) :
    s.Awaits usock name m := by
  rcases hBound with
    ⟨-, hRead, d', usock', hUnix', -, -, hPath, hReads⟩
  rcases hUnix.unique hUnix' with ⟨-, rfl⟩
  exact ⟨hPath, hRead, hReads⟩

/-
  What a client holds once it is connected. Its request says
  the same of it, and `seq_r` is what it was.
-/
structure Holds
    (env : UnixConnectEnv)
    (p : Ptr)
    (serv : Bytes)
    (req rep : UnixMsgOpen)
    (s s' : Process)
    (name m peer : Bytes)
    (usock usock' : LsckSocketUnix) : Prop where
  unix : ∃ d, s'.HasUnix p d usock'
  awaits : s'.Awaits usock' name m
  secret : usock'.secret = req.header.secret
  seqW : usock'.seqW = modMaxint (req.header.seqEnd + 1)
  seqR : usock'.seqR = usock.seqR
  header : req.header.WellFormed
  length : req.path.length = openPathSize
  path : CString.read? req.path =
    some (unixLocalPath ++ name)
  reply : CString.read? rep.path =
    some (unixLocalPath ++ peer)
  opens : answer (connectOpens env p serv) s =
    some usock'.fdW
  writes : usock'.fdW ≠ -1 → ∃ m',
    sendName (unixLocalPath ++ peer) = some m' ∧
    s'.WritesTo usock'.fdW m'

/- The header of a request fits its fields. -/
theorem wellFormed_requestHeader
    (secret : UnixMsgSecret)
    (n : Fin 2147483648)
    (path : Bytes) :
    (requestHeader secret n path).WellFormed := by
  have hN := n.isLt
  unfold requestHeader modMaxintUnsigned maxInt headerSize
  constructor <;> dsimp only <;> omega

/- A connect up to the open, from its stages. -/
theorem connectOpens_run
    {env : UnixConnectEnv}
    {p : Ptr}
    {serv path : Bytes}
    {req : UnixMsgOpen}
    {ms : List Bytes}
    {fd : Fd}
    {s t t' : Process}
    (hTakes : connectTakes env p serv s =
      .ok ((req, some ms), t))
    (hPath : CString.read?
      (receivedRequest env.repJunk ms).path = some path)
    (hOpen : openFile env.openW path .wronly t =
      .ok (fd, t')) :
    answer (connectOpens env p serv) s = some fd := by
  have hRead : readString
      (receivedRequest env.repJunk ms).path t =
        .ok (path, t) := by
    unfold readString
    rw [hPath]
    rfl
  have hRun : connectOpens env p serv s = .ok (fd, t') := by
    unfold connectOpens
    rw [run_bind_ok hTakes]
    exact (run_bind_ok hRead).trans hOpen
  exact answer_of_run hRun

/- A connect that succeeds holds all that. -/
theorem ConnectStages.holdsAll
    {env : UnixConnectEnv}
    {p : Ptr}
    {serv : Bytes}
    {req : UnixMsgOpen}
    {ms : List Bytes}
    {d : LsckSocket}
    {usock : LsckSocketUnix}
    {s s' : Process}
    (hForm : WellFormed none s)
    (hUnix : s.HasUnix p d usock)
    (hInterface : d.interface = some .unix)
    (hNamed : d.bound = true → ∃ name m,
      s.Awaits usock name m)
    (hStages : ConnectStages env p serv req ms s s') :
    ∃ usock' name m peer, Holds env p serv req
      (receivedRequest env.repJunk ms) s s' name m peer usock
      usock' := by
  rcases hStages with
    ⟨lsd, server, fd, ret, t₀, t₁, t₂, t₃, t₄, hLsd, hServer,
      hClear, hOpen, hFd, hBind, hRet, hReq, hTaken, hLast⟩
  rw [hUnix.socket] at hLsd
  cases hLsd
  have hTakes := connectTakes_run hUnix.socket hServer hClear
    hOpen hBind hReq hTaken
  -- The data without a peer, before the bind on the way.
  have hClearing := SteadyCmd.modifyUnix _ _ _ _ _ hClear
  have hOpening := steady_openFile _ _ _ _ _ _ hOpen
  have hForm₁ : WellFormed none t₁ :=
    (hForm.still (StillCmd.modifyUnix _ _ _ _ _ hClear)).still
      (still_openFile _ _ _ _ _ _ hOpen)
  have hClears := (modifyUnix_hasUnix hUnix hClear).1
  have hUnix₁ := hClears.of_heap (openFile_ok hOpen).heap
  have hNamed₁ : d.bound = true → ∃ name m, t₁.Awaits
      { usock with
        peerpath := List.replicate sockaddrMaxSize 0 }
      name m := by
    intro hBound
    rcases hNamed hBound with ⟨name, m, hAwaits⟩
    exact ⟨name, m, hAwaits.of_steady
      (hClearing.trans hOpening) rfl rfl⟩
  rcases openFile_writesTo hOpen hFd with ⟨mS, -, hWrites⟩
  rcases bindHere_awaits hForm₁ hUnix₁ hInterface hNamed₁ hBind
    hRet with
    ⟨d₂, usock₂, name, m, hUnix₂, hIdata, hSeqR, hAwaits⟩
  rw [← hIdata] at hReq hLast
  -- The request says what the data does.
  rcases unixConnectRequest_hasUnix hUnix₂ hReq with
    ⟨hUnix₃, ⟨block, q, hT₃⟩, sockpath, hPath, hFits, hHeader,
      hBuffer⟩
  cases hAwaits.path.symm.trans hPath
  have hFds₃ : t₃.fds = t₂.fds := by
    rw [hT₃]
    rfl
  have hReads₃ := hAwaits.reads.of_fds hFds₃
  have hWrites₃ := ((steady_bindHere _ _ _ _ _ _
    hBind).writesTo hWrites).of_fds hFds₃
  have hReads₄ := exchange_readsFrom hWrites₃ hReads₃ hTaken
  have hUnix₄ := hUnix₃.of_heap (heap_exchange hTaken)
  -- The reply names the server's mailslot.
  rcases unixConnectReply_hasUnix hUnix₄ hFd hLast with
    ⟨peer, fdW, t, hAfter, -, -, hReply, hFile, hFds⟩
  have hReads₅ := ((steady_openFile _ _ _ _ _ _ hFile).readsFrom
    hReads₄).of_fds hFds
  refine ⟨_, name, m, peer, ⟨d₂, hAfter⟩,
    ⟨hAwaits.path, hAwaits.mailslot, hReads₅⟩, rfl, rfl, hSeqR,
    ?_, ?_, ?_, hReply,
    connectOpens_run hTakes hReply hFile, ?_⟩
  · rw [hHeader]
    exact wellFormed_requestHeader _ _ _
  · rw [hBuffer, length_copy
      (by rw [List.length_replicate]; exact hFits),
      List.length_replicate]
  · rw [hBuffer]
    exact read?_published (CString.isText_of_read? hPath) _
  · intro hOpened
    rcases openFile_writesTo hFile hOpened with
      ⟨m', hSend, hWrites'⟩
    exact ⟨m', hSend, hWrites'.of_fds hFds⟩

------------------------------------------------------------
-- Both Ends
------------------------------------------------------------

/- A request that is read back is the one that was sent. -/
theorem receivedRequest_encode
    {req : UnixMsgOpen}
    (hForm : req.header.WellFormed)
    (hPath : req.path.length = openPathSize)
    (junk : Fin 148 → UInt8) :
    receivedRequest junk [req.encode] = req := by
  have hLength : req.encode.length =
      (List.ofFn junk).length := by
    rw [List.length_ofFn, UnixMsgOpen.encode,
      List.length_append, UnixMsgHeader.length_encode, hPath]
    rfl
  unfold receivedRequest overlay
  rw [List.flatten_cons, List.take_left' hLength,
    List.flatten_nil, List.append_nil]
  exact UnixMsgOpen.decode_encode hForm hPath _

/- The server's numbers do not depend on the secret. -/
theorem firstSeq_eq
    (secret : UnixMsgSecret)
    (n : Fin 2147483648) :
    modMaxint ((replyHeader secret n []).seqEnd + 1) =
      firstSeq n := rfl

/-
  The ends of a handshake: all but `seq_r` of the client and
  its mailslot for writing is as it should be.
-/
theorem Handshake.ends
    {client : ConnectRun}
    {server : AcceptRun}
    (hMade : Handshake client server) :
    ∃ d₀ usock₀ d usock d' usock',
      client.before.HasUnix client.socket d₀ usock₀ ∧
      client.after.HasUnix client.socket d usock ∧
      server.after.HasUnix server.socket d' usock' ∧
      usock.secret = usock'.secret ∧
      usock.seqW = usock'.seqR ∧
      usock'.seqW = firstSeq server.env.seqRandom ∧
      usock.seqR = usock₀.seqR ∧
      Reaches server.after usock' client.after usock ∧
      answer (connectOpens client.env client.socket
        client.serv) client.before = some usock.fdW ∧
      (usock.fdW ≠ -1 →
        Reaches client.after usock server.after usock') := by
  rcases hMade.unix with ⟨d₀, hSocket₀, hInterface⟩
  rcases hMade.form.hasUnix hSocket₀ hInterface with
    ⟨usock₀, hUnix₀⟩
  rcases hMade.exchanged with
    ⟨req, m, m', rep, hTakes, hTakes', hOut, hOut'⟩
  -- The client's end, as the parts of its run leave it.
  rcases unixConnect_ok hMade.connected with
    ⟨req₁, ms₁, hStages⟩
  cases hTakes.symm.trans hStages.takes
  have hNamed : d₀.bound = true → ∃ name m,
      client.before.Awaits usock₀ name m := by
    intro hBound
    rcases hMade.named d₀ hSocket₀ hBound with
      ⟨name, m, hIs⟩
    exact ⟨name, m, hIs.awaits hUnix₀⟩
  rcases hStages.holdsAll hMade.form hUnix₀ hInterface hNamed
    with ⟨usock, name, mC, peer, hHolds⟩
  rcases hHolds.unix with ⟨d, hUnix⟩
  -- The server's end.
  rcases unixAccept_stages hMade.accepted with
    ⟨ms₂, hStages'⟩
  cases hTakes'.symm.trans hStages'.takes
  rcases hStages'.answers with
    ⟨lsd, name', name₂, mR, mW, nsd, fdR, fdW, req₂, hReq₂, -,
      hName', -, hPath₂, hSlot, hSend₂, hFits, hSent, hUnix',
      hReads',
      hWrites', hFdW⟩
  rw [receivedRequest_encode hHolds.header hHolds.length]
    at hReq₂
  subst hReq₂
  -- The server writes to the client's own name.
  cases List.append_cancel_left
    (Option.some.inj (hHolds.path.symm.trans hPath₂))
  have hMeet := sendName_of_readName hHolds.awaits.mailslot
  cases hMeet.symm.trans hSend₂
  -- The reply that the client reads names the server's slot.
  have hReplied : rep = (acceptAnswer server.env req₂
      (slotPath name' server.env.slotRandom)).encode := by
    have hNew := newMessages_of_append hSent
    cases hOut'.symm.trans hNew
    rfl
  have hPeer := hHolds.reply
  rw [hReplied, path_received (acceptAnswer_path hFits),
    read?_acceptAnswer (CString.isText_of_read? hName'),
    slotPath_eq, Option.some.injEq,
    List.append_cancel_left_eq] at hPeer
  subst hPeer
  rw [slotPath_eq] at hSlot
  have hReach := sendName_of_readName hSlot
  have hSeq : ((server.env.content.opened fdR fdW).answered req₂
      server.env.seqRandom name).seqW =
        firstSeq server.env.seqRandom := by
    dsimp only [LsckSocketUnix.answered]
    exact firstSeq_eq req₂.header.secret server.env.seqRandom
  refine ⟨d₀, usock₀, d, usock, nsd, _, hUnix₀, hUnix, hUnix',
    hHolds.secret, hHolds.seqW, hSeq, hHolds.seqR,
    ⟨mC, hFdW, hWrites', hHolds.awaits.reads⟩, hHolds.opens,
    ?_⟩
  intro hOpened
  rcases hHolds.writes hOpened with ⟨m₁, hSend₁, hWrites₁⟩
  cases hReach.symm.trans hSend₁
  exact ⟨mR, hOpened, hWrites₁, hReads'⟩

/-
  The two ends agree if and only if the client expected the
  server's first number before the call, and DOS lets it open
  the server's mailslot.
-/
theorem handshake_agrees_iff
    {client : ConnectRun}
    {server : AcceptRun}
    (hMade : Handshake client server) :
    Agreed client server ↔
      client.Expects server.env.seqRandom ∧
        client.OpensReply := by
  rcases hMade.ends with
    ⟨d₀, usock₀, d, usock, d', usock', hUnix₀, hUnix, hUnix',
      hSecret, hUp, hSeqW, hSeqR, hDown, hOpens, hReaches⟩
  constructor
  · rintro ⟨e, u, e', u', hE, hE', hAgree⟩
    rcases hUnix.unique hE with ⟨-, rfl⟩
    rcases hUnix'.unique hE' with ⟨-, rfl⟩
    rcases hAgree.up with ⟨m, hOpened, -⟩
    constructor
    · refine ⟨d₀, usock₀, hUnix₀, ?_⟩
      rw [← hSeqR, ← hAgree.seq_down]
      exact hSeqW
    · exact ⟨_, hOpened, hOpens⟩
  · rintro ⟨⟨e₀, u₀, hE₀, hExpects⟩, fd, hFd, hOpens'⟩
    rcases hUnix₀.unique hE₀ with ⟨-, rfl⟩
    cases hOpens.symm.trans hOpens'
    refine ⟨d, usock, d', usock', hUnix, hUnix', hSecret, hUp,
      ?_, hReaches hFd, hDown⟩
    rw [hSeqW, hSeqR]
    exact hExpects.symm

------------------------------------------------------------
-- Two Handshakes
------------------------------------------------------------

/- An accept that draws the number after reading a request. -/
def UnixAcceptEnv.drawing
    (n : Fin 2147483648) : UnixAcceptEnv :=
  { AcceptEnv.asked.unixEnv with seqRandom := n }

/- The listener's state once a descriptor is reserved. -/
def acceptingProcess : Process :=
  serverProcess.withSocket 1 20 (acceptedCopy listenerSocket 5)

/- The listener's accept of the client's request. -/
def serverRun
    (n : Fin 2147483648)
    (after : Process) : AcceptRun where
  env := .drawing n
  listener := 10
  socket := 20
  before := acceptingProcess
  after := after

/- A connect that reads the reply to it. -/
def UnixConnectEnv.reading
    (n : Fin 2147483648) : UnixConnectEnv :=
  { ConnectEnv.answered.unixEnv with
    read := ⟨[(acceptAnswer (.drawing n) clientRequest
      (slotPath (bytes "/srv") 0)).encode], false, .zero⟩ }

/- The client's connect. -/
def clientRun
    (n : Fin 2147483648)
    (after : Process) : ConnectRun where
  env := .reading n
  socket := 10
  serv := serverAddress
  before := clientProcess
  after := after

/- The client succeeds, with one request. -/
def clientSucceeds (n : Fin 2147483648) : Bool :=
  (unixConnect (.reading n) 10 serverAddress
    clientProcess).toOption.any (fun x => x.1 == 0 &&
      newMessages clientProcess x.2 ==
        [(bytes "\\mailslot\\srv", clientRequest.encode)])

/- The server succeeds, with one reply. -/
def serverSucceeds (n : Fin 2147483648) : Bool :=
  (unixAccept (.drawing n) 10 20
    acceptingProcess).toOption.any (fun x =>
      x.1 == 0 &&
      newMessages acceptingProcess x.2 ==
        [(bytes "\\mailslot\\tmp\\lsck\\client\\00000000",
          (acceptAnswer (.drawing n) clientRequest
            (slotPath (bytes "/srv") 0)).encode)])

/- Two such calls are a handshake. -/
theorem exists_handshake
    {n : Fin 2147483648}
    (hClient : clientSucceeds n = true)
    (hServer : serverSucceeds n = true)
    (hTakes : answer (connectTakes (.reading n) 10
      serverAddress) clientProcess = some (clientRequest,
        some [(acceptAnswer (.drawing n) clientRequest
          (slotPath (bytes "/srv") 0)).encode]))
    (hTakes' : answer (acceptTakes (.drawing n) 10 20)
      acceptingProcess =
        some (some [clientRequest.encode])) :
    ∃ c v, Handshake (clientRun n c) (serverRun n v) := by
  have hSocket : clientProcess.heap 10 =
      some (.socket clientSocket) :=
    Process.socket?_eq_some.mp (by decide +kernel)
  have hFree : clientSocket.bound = false := by decide +kernel
  rcases exists_run_of_any hClient with ⟨r, c, hRun, hMore⟩
  rcases exists_run_of_any hServer with
    ⟨r', v, hRun', hMore'⟩
  rw [Bool.and_eq_true, beq_iff_eq, beq_iff_eq] at hMore hMore'
  rcases hMore with ⟨rfl, hAsked⟩
  rcases hMore' with ⟨rfl, hAnswered⟩
  have hForm := wellFormed_of_reachable client_reachable
  refine ⟨c, v, hForm, ⟨clientSocket, hSocket, by decide +kernel⟩,
    ?_, hRun, hRun', _, _, _, _, hTakes, hTakes', hAsked,
    hAnswered⟩
  intro d hD hBound
  cases hSocket.symm.trans hD
  rw [hFree] at hBound
  cases hBound

/- The data of the new client. -/
def clientData : LsckSocketUnix :=
  ((clientProcess.heap 11).bind Block.unix?).getD .cleared

theorem client_hasUnix :
    clientProcess.HasUnix 10 clientSocket clientData := by
  have hSocket : clientProcess.heap 10 =
      some (.socket clientSocket) :=
    Process.socket?_eq_some.mp (by decide +kernel)
  have hData : clientProcess.heap 11 =
      some (.unix clientData) := by decide +kernel
  exact ⟨hSocket, 11, by decide +kernel, hData⟩

/- When the server draws the one number, the ends agree. -/
theorem handshake_agrees_of_number :
    ∃ client server, Handshake client server ∧
      Agreed client server := by
  have hMade : ∃ c v, Handshake (clientRun 2147483646 c)
      (serverRun 2147483646 v) :=
    exists_handshake (by decide +kernel) (by decide +kernel)
      (by decide +kernel) (by decide +kernel)
  rcases hMade with ⟨c, v, hMade⟩
  have hExpects : (clientRun 2147483646 c).Expects
      2147483646 :=
    ⟨clientSocket, clientData, client_hasUnix,
      by decide +kernel⟩
  have hSix : answer (connectOpens (.reading 2147483646) 10
      serverAddress) clientProcess = some 6 := by
    decide +kernel
  have hOpens : (clientRun 2147483646 c).OpensReply :=
    ⟨6, by decide, hSix⟩
  exact ⟨_, _, hMade,
    (handshake_agrees_iff hMade).mpr ⟨hExpects, hOpens⟩⟩

/- A handshake whose ends disagree about the next number. -/
theorem handshake_disagrees :
    ¬ ∀ client server, Handshake client server →
      Agreed client server := by
  intro hAlways
  have hMade : ∃ c v, Handshake (clientRun 0 c)
      (serverRun 0 v) :=
    exists_handshake (by decide +kernel) (by decide +kernel)
      (by decide +kernel) (by decide +kernel)
  rcases hMade with ⟨c, v, hMade⟩
  rcases hAlways _ _ hMade with
    ⟨d, usock, d', usock', hUnix, hUnix', hAgree⟩
  rcases hMade.ends with
    ⟨d₀, usock₀, e, u, e', u', hUnix₀, hE, hE', -, -, hSeqW,
      hSeqR, -⟩
  rcases hUnix.unique hE with ⟨-, rfl⟩
  rcases hUnix'.unique hE' with ⟨-, rfl⟩
  rcases client_hasUnix.unique hUnix₀ with ⟨-, rfl⟩
  have hZero : firstSeq 0 = clientData.seqR := by
    rw [← hSeqR, ← hAgree.seq_down]
    exact hSeqW.symm
  revert hZero
  decide +kernel

end Libsocket
