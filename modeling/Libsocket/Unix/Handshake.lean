import Libsocket.Unix.ReplyAddress

/-
  What the two ends of a handshake do when they succeed: the
  stages of an accept, what the listener answers, and what
  both ends hold afterwards.

  Main declarations:
    * `AcceptStages`, `unixAccept_stages`
    * `AcceptStages.answers`
    * `ConnectStages.peer`
-/

namespace Libsocket

open Command

------------------------------------------------------------
-- Accepting
------------------------------------------------------------

/-
  The stages of an accept: allocate and clear the new data,
  read from the control mailslot, and act on the request.
-/
def AcceptStages
    (env : UnixAcceptEnv)
    (p np : Ptr)
    (ms : List Bytes)
    (s s' : Process) : Prop :=
  ∃ lsd usock q t₁ t₂ t₃ t₄,
    s.heap p = some (.socket lsd) ∧
    malloc env.memory (.unix env.content) s =
      .ok (some q, t₁) ∧
    modifySocket np (fun nsd => { nsd with idata := some q })
      t₁ = .ok ((), t₂) ∧
    modifyUnix (some q) (fun usock =>
      { usock with
        peerpath := List.replicate sockaddrMaxSize 0 }) t₂ =
      .ok ((), t₃) ∧
    deref Block.unix? lsd.idata t₃ = .ok (usock, t₃) ∧
    readFd env.read usock.fdR t₃ = .ok (some ms, t₄) ∧
    unixAcceptRequest env lsd np (some q)
      (receivedRequest env.reqJunk ms) t₄ = .ok (0, s')

/- An accept that succeeds goes through all of them. -/
theorem unixAccept_stages
    {env : UnixAcceptEnv}
    {p np : Ptr}
    {s s' : Process}
    (hRun : unixAccept env p np s = .ok (0, s')) :
    ∃ ms, AcceptStages env p np ms s s' := by
  rcases bind_eq_ok.mp hRun with ⟨lsd, s₁, hRead, hFound⟩
  rcases derefSocket_ok hRead with ⟨rfl, hLsd⟩
  rcases bind_eq_ok.mp hFound with ⟨data, t₁, hMalloc, hGot⟩
  rcases bind_eq_ok.mp hGot with ⟨_, t₂, hHang, hHung⟩
  rcases ite_fail_ok hHung (by decide) with ⟨hData, hBody⟩
  rcases bind_eq_ok.mp hBody with ⟨_, t₃, hClear, hCleared⟩
  rcases bind_eq_ok.mp hCleared with ⟨nsd, s₂, hNew, hNamed⟩
  rcases derefSocket_ok hNew with ⟨rfl, -⟩
  rcases ite_fail_ok hNamed (by decide) with ⟨-, hRoom⟩
  rcases bind_eq_ok.mp hRoom with ⟨usock, s₃, hUsock, hAsk⟩
  have hSame := (derefUnix_ok hUsock).1
  subst hSame
  rcases bind_eq_ok.mp hAsk with ⟨taken, t₄, hTaken, hLast⟩
  cases taken with
  | none => cases hLast
  | some ms =>
      cases data with
      | none => exact absurd rfl hData
      | some q =>
          exact ⟨ms, lsd, usock, q, t₁, t₂, _, t₄, hLsd,
            hMalloc, hHang, hClear, hUsock, hTaken, hLast⟩

/- What a change to known data has done. -/
theorem modifyUnix_some
    {q : Ptr}
    {f : LsckSocketUnix → LsckSocketUnix}
    {s s' : Process}
    (hRun : modifyUnix (some q) f s = .ok ((), s')) :
    ∃ usock, s.heap q = some (.unix usock) ∧
      s'.heap = Function.update s.heap q
        (some (.unix (f usock))) ∧
      s'.fds = s.fds ∧ s'.sent = s.sent := by
  rcases modifyUnix_ok hRun with ⟨q', usock, hQ, hB, rfl⟩
  cases hQ
  exact ⟨usock, hB, rfl, rfl, rfl⟩

/- The stages are those of one run. -/
theorem AcceptStages.unique
    {env : UnixAcceptEnv}
    {p np : Ptr}
    {ms ms' : List Bytes}
    {s t t' : Process}
    (hStages : AcceptStages env p np ms s t)
    (hStages' : AcceptStages env p np ms' s t') :
    ms' = ms ∧ t' = t := by
  rcases hStages with
    ⟨lsd, usock, q, t₁, t₂, t₃, t₄, hLsd, hMalloc, hHang,
      hClear, hUsock, hRead, hAnswer⟩
  rcases hStages' with
    ⟨lsd', usock', q', u₁, u₂, u₃, u₄, hLsd', hMalloc', hHang',
      hClear', hUsock', hRead', hAnswer'⟩
  cases hLsd.symm.trans hLsd'
  cases hMalloc.symm.trans hMalloc'
  cases hHang.symm.trans hHang'
  cases hClear.symm.trans hClear'
  cases hUsock.symm.trans hUsock'
  cases hRead.symm.trans hRead'
  cases hAnswer.symm.trans hAnswer'
  exact ⟨rfl, rfl⟩

/- A read does not touch the heap. -/
theorem heap_readFd
    {env : ReadEnv}
    {fd : Fd}
    {taken : Option (List Bytes)}
    {s s' : Process}
    (hRun : readFd env fd s = .ok (taken, s')) :
    s'.heap = s.heap := by
  funext r
  exact (local_readFd (fun _ => False) env fd s taken s'
    hRun).heap r (fun hOwn => hOwn)

/- What follows on a request that is accepted. -/
theorem unixAcceptRequest_stages
    {env : UnixAcceptEnv}
    {lsd : LsckSocket}
    {np : Ptr}
    {data : Option Ptr}
    {req : UnixMsgOpen}
    {s s' : Process}
    (hRun : unixAcceptRequest env lsd np data req s =
      .ok (0, s')) :
    ∃ server client fdR fdW t₁ t₂ t₃ t₄,
      req.header.type = unixMsgClientOpen ∧
      CString.read? (lsd.sockname.drop 2) = some server ∧
      openFile env.openR (slotPath server env.slotRandom)
        .rdonly s = .ok (fdR, t₁) ∧ fdR ≠ -1 ∧
      modifyUnix data (fun usock =>
        { usock with fdR := fdR }) t₁ = .ok ((), t₂) ∧
      CString.read? req.path =
        some (unixLocalPath ++ client) ∧
      openFile env.openW (unixLocalPath ++ client) .wronly
        t₂ = .ok (fdW, t₃) ∧ fdW ≠ -1 ∧
      modifyUnix data (fun usock =>
        { usock with fdW := fdW }) t₃ = .ok ((), t₄) ∧
      unixAcceptReply env np data req
        (slotPath server env.slotRandom) client fdW t₄ =
        .ok (0, s') := by
  rcases ite_return_ok hRun (by decide) with ⟨hType, hBody⟩
  rcases bind_eq_ok.mp hBody with ⟨server, s₁, hSun, hNamed⟩
  rcases readString_ok hSun with ⟨rfl, hServer⟩
  rcases bind_eq_ok.mp hNamed with ⟨path, s₂, hFits, hBuilt⟩
  rcases fits_ok hFits with ⟨rfl, rfl, -⟩
  rcases bind_eq_ok.mp hBuilt with ⟨fdR, t₁, hOpenR, hOpened⟩
  rcases bind_eq_ok.mp hOpened with ⟨_, t₂, hStoreR, hStored⟩
  rcases ite_return_ok hStored (by decide) with ⟨hFdR, hNext⟩
  rcases bind_eq_ok.mp hNext with ⟨reqPath, s₃, hRead, hAsked⟩
  rcases readString_ok hRead with ⟨rfl, hPath⟩
  rcases bind_eq_ok.mp hAsked with ⟨fdW, t₃, hOpenW, hSecond⟩
  rcases bind_eq_ok.mp hSecond with ⟨_, t₄, hStoreW, hLast⟩
  rcases ite_return_ok hLast (by decide) with ⟨hFdW, hReply⟩
  cases hClient : afterPrefix unixLocalPath reqPath with
  | none =>
      rw [hClient] at hReply
      cases hReply
  | some client =>
      rw [hClient] at hReply
      have hShape := afterPrefix_eq_some hClient
      subst hShape
      exact ⟨server, client, fdR, fdW, t₁, _, t₃, t₄,
        not_not.mp hType, hServer, hOpenR, hFdR, hStoreR,
        hPath, hOpenW, hFdW, hStoreW, hReply⟩

/- The new end's data after the reply. -/
def LsckSocketUnix.answered
    (usock : LsckSocketUnix)
    (req : UnixMsgOpen)
    (seqRandom : Int)
    (client : Bytes) : LsckSocketUnix :=
  { usock with
    secret := req.header.secret
    seqR := modMaxint (req.header.seqEnd + 1)
    seqW := modMaxint
      ((replyHeader req.header.secret seqRandom []).seqEnd + 1)
    peerpath := CString.store client ++
      usock.peerpath.drop (client.length + 1) }

/- The reply as it is sent. -/
def acceptAnswer
    (env : UnixAcceptEnv)
    (req : UnixMsgOpen)
    (path : Bytes) : UnixMsgOpen where
  header := replyHeader req.header.secret env.seqRandom []
  path := CString.store path ++
    (List.ofFn env.repJunk).drop (path.length + 1)

/- A request's path is empty once it has been cleared. -/
theorem read?_cleared :
    CString.read? (UnixMsgOpen.decode
      (List.replicate openSize 0)).path = some [] := by
  decide +kernel

/- The reply is sent, and what it says is stored. -/
theorem unixAcceptReply_ok
    {env : UnixAcceptEnv}
    {np q : Ptr}
    {req : UnixMsgOpen}
    {path client m : Bytes}
    {fdW : Fd}
    {s s' : Process}
    (hWrites : s.WritesTo fdW m)
    (hRun : unixAcceptReply env np (some q) req path client
      fdW s = .ok (0, s')) :
    path.length < openPathSize ∧
    s'.sent = s.sent ++
      [(m, (acceptAnswer env req path).encode)] ∧
    s'.fds = s.fds ∧
    ∃ usock nsd nsd', s.heap q = some (.unix usock) ∧
      s.heap np = some (.socket nsd) ∧
      nsd'.status = nsd.status ∧
      s'.heap = Function.update
        (Function.update s.heap q
          (some (.unix (usock.answered req env.seqRandom
            client))))
        np (some (.socket nsd')) := by
  rcases bind_eq_ok.mp hRun with ⟨sun, s₁, hSun, hStored⟩
  have hSame := (copyInto_ok hSun).1
  subst hSame
  rcases bind_eq_ok.mp hStored with ⟨_, t, hFirst, hPart⟩
  rcases modifyUnix_ok hFirst with ⟨q', usock, hQ, hB, rfl⟩
  cases hQ
  rcases bind_eq_ok.mp hPart with ⟨measured, t₁, hLen, hHead⟩
  rcases readString_ok hLen with ⟨rfl, hMeasured⟩
  rw [read?_cleared] at hMeasured
  cases hMeasured
  rcases bind_eq_ok.mp hHead with ⟨repPath, t₂, hCopy, hSend⟩
  rcases copyInto_ok hCopy with ⟨rfl, hFits, rfl⟩
  rw [List.length_ofFn] at hFits
  rcases bind_eq_ok.mp hSend with ⟨ret, u, hWrite, hSent⟩
  rcases ite_return_ok hSent (by decide) with ⟨hRet, hLast⟩
  have hDelivered :=
    fun (hOpen : Process.WritesTo _ fdW m) =>
      writeFd_ok hOpen hWrite hRet
  rcases hDelivered (hWrites.of_fds rfl) with ⟨-, rfl⟩
  rcases bind_eq_ok.mp hLast with ⟨data, u₁, hData, hPeer⟩
  rcases derefUnix_ok hData with ⟨rfl, q', hQ, hB'⟩
  cases hQ
  change Function.update _ q _ q = _ at hB'
  rw [Function.update_self] at hB'
  cases hB'
  rcases bind_eq_ok.mp hPeer with ⟨peerpath, u₂, hPath, hSet⟩
  rcases copyInto_ok hPath with ⟨rfl, -, rfl⟩
  rcases bind_eq_ok.mp hSet with ⟨_, v, hStore, hName⟩
  rcases modifyUnix_ok hStore with ⟨q', usock', hQ, hB', rfl⟩
  cases hQ
  change Function.update _ q _ q = _ at hB'
  rw [Function.update_self] at hB'
  cases hB'
  rcases bind_eq_ok.mp hName with ⟨_, w, hPeername, hPure⟩
  cases hPure
  unfold setPeername at hPeername
  split at hPeername
  · rcases modifySocket_ok hPeername with ⟨nsd, hNew, rfl⟩
    have hNe : np ≠ q := by
      rintro rfl
      change Function.update _ np _ np = _ at hNew
      rw [Function.update_self] at hNew
      cases hNew
    change Function.update (Function.update _ q _) q _ np = _
      at hNew
    rw [Function.update_of_ne hNe, Function.update_of_ne hNe]
      at hNew
    refine ⟨hFits, rfl, rfl, usock, nsd,
      { nsd with
        peername := overlay nsd.peername
          (Word.littleEndian 2 1 ++ sun)
        peernamelen := sockaddrMaxSize },
      hB, hNew, rfl, ?_⟩
    change Function.update (Function.update
      (Function.update _ q _) q _) np _ = _
    rw [Function.update_idem]
    rfl
  · cases hPeername

/- The name of the mailslot a server reads a client from. -/
def slotName (server : Bytes) (n : Fin 2147483648) : Bytes :=
  server ++ [slash] ++ hex8 n

theorem slotPath_eq (server : Bytes) (n : Fin 2147483648) :
    slotPath server n = unixLocalPath ++ slotName server n := by
  simp only [slotPath, slotName, List.append_assoc]

theorem length_lt_slotName
    (server : Bytes)
    (n : Fin 2147483648) :
    server.length < (slotName server n).length := by
  simp only [slotName, List.length_append,
    List.length_singleton]
  omega

/- The data of a new end between the opens and the reply. -/
def LsckSocketUnix.opened
    (content : LsckSocketUnix)
    (fdR fdW : Fd) : LsckSocketUnix :=
  { content with
    peerpath := List.replicate sockaddrMaxSize 0
    fdR := fdR
    fdW := fdW }

/-
  An accept that succeeds has answered the client that the
  request names, and the new end holds what the request and
  the reply say.
-/
theorem AcceptStages.answers
    {env : UnixAcceptEnv}
    {p np : Ptr}
    {ms : List Bytes}
    {s s' : Process}
    (hStages : AcceptStages env p np ms s s') :
    ∃ lsd server client mR mW nsd fdR fdW req,
      req = receivedRequest env.reqJunk ms ∧
      s.heap p = some (.socket lsd) ∧
      CString.read? (lsd.sockname.drop 2) = some server ∧
      req.header.type = unixMsgClientOpen ∧
      CString.read? req.path =
        some (unixLocalPath ++ client) ∧
      readName (slotPath server env.slotRandom) = some mR ∧
      sendName (unixLocalPath ++ client) = some mW ∧
      (slotPath server env.slotRandom).length <
        openPathSize ∧
      s'.sent = s.sent ++ [(mW, (acceptAnswer env req
        (slotPath server env.slotRandom)).encode)] ∧
      s'.HasUnix np nsd ((env.content.opened fdR fdW).answered
        req env.seqRandom client) ∧
      s'.ReadsFrom fdR mR ∧ s'.WritesTo fdW mW ∧
      fdW ≠ -1 := by
  rcases hStages with
    ⟨lsd, usock, q, t₁, t₂, t₃, t₄, hLsd, hMalloc, hHang,
      hClear, hUsock, hRead, hAnswer⟩
  rcases unixAcceptRequest_stages hAnswer with
    ⟨server, client, fdR, fdW, u₁, u₂, u₃, u₄, hType, hServer,
      hOpenR, hFdR, hStoreR, hPath, hOpenW, hFdW, hStoreW,
      hReply⟩
  rcases malloc_ok hMalloc with ⟨hNone, -⟩ |
    ⟨q', hQ, -, hFree, rfl⟩
  · cases hNone
  cases hQ
  rcases modifySocket_ok hHang with ⟨nsd, hNew, hT₂⟩
  have hNe : np ≠ q := by
    rintro rfl
    rw [Process.heap_setBlock, Function.update_self] at hNew
    cases hNew
  rcases modifyUnix_some hClear with ⟨cleared, hB, hT₃, hF₃, hS₃⟩
  rcases modifyUnix_some hStoreR with ⟨u, hU, hU₂, hF₂, hS₂⟩
  rcases modifyUnix_some hStoreW with ⟨w, hW, hU₄, hF₄, hS₄⟩
  have hCleared : cleared = env.content := by
    rw [hT₂, Process.heap_setBlock,
      Function.update_of_ne hNe.symm, Process.heap_setBlock,
      Function.update_self] at hB
    cases hB
    rfl
  subst hCleared
  have hHeap₁ : u₁.heap = t₃.heap :=
    (openFile_ok hOpenR).heap.trans (heap_readFd hRead)
  rw [hHeap₁, hT₃, Function.update_self] at hU
  cases hU
  rw [(openFile_ok hOpenW).heap, hU₂, Function.update_self]
    at hW
  cases hW
  rw [slotPath_eq] at hOpenR
  rcases openFile_readsFrom hOpenR hFdR with
    ⟨mR, hNameR, hReads⟩
  rcases openFile_writesTo hOpenW hFdW with
    ⟨mW, hNameW, hWrites⟩
  have hReads' : u₄.ReadsFrom fdR mR :=
    ((steady_openFile _ _ _ _ _ _ hOpenW).readsFrom
      (hReads.of_fds hF₂)).of_fds hF₄
  have hWrites' : u₄.WritesTo fdW mW := hWrites.of_fds hF₄
  rcases unixAcceptReply_ok hWrites' hReply with
    ⟨hFits, hSent, hFds, usock', nsd', nsd'', hData, hNewer,
      hStatus, hHeap⟩
  rw [hU₄, Function.update_self] at hData
  cases hData
  have hNewest : u₄.heap np = t₂.heap np := by
    rw [hU₄, Function.update_of_ne hNe,
      (openFile_ok hOpenW).heap, hU₂,
      Function.update_of_ne hNe, hHeap₁, hT₃,
      Function.update_of_ne hNe]
  rw [hNewest, hT₂, Process.heap_setBlock,
    Function.update_self] at hNewer
  cases hNewer
  have hBefore : u₄.sent = s.sent := by
    rw [hS₄, (steady_openFile _ _ _ _ _ _ hOpenW).sent, hS₂,
      (steady_openFile _ _ _ _ _ _ hOpenR).sent,
      (steady_readFd _ _ _ _ _ hRead).sent, hS₃, hT₂]
    rfl
  have hIdata : nsd''.idata = some q := by
    have hSame := congrArg LsckSocket.idata hStatus
    exact hSame
  refine ⟨lsd, server, client, mR, mW, nsd'', fdR, fdW, _, rfl,
    hLsd, hServer, hType, hPath, ?_, hNameW, hFits, ?_,
    ⟨?_, q, hIdata, ?_⟩, hReads'.of_fds hFds,
    hWrites'.of_fds hFds, hFdW⟩
  · rw [slotPath_eq]
    exact hNameR
  · rw [hSent, hBefore]
  · rw [hHeap, Function.update_self]
  · rw [hHeap, Function.update_of_ne hNe.symm,
      Function.update_self]
    rfl

------------------------------------------------------------
-- Connecting
------------------------------------------------------------

/- A client's data once its request is built. -/
def LsckSocketUnix.asked
    (usock : LsckSocketUnix)
    (req : UnixMsgOpen) : LsckSocketUnix :=
  { usock with
    secret := req.header.secret
    seqW := modMaxint (req.header.seqEnd + 1) }

/- A client's data once the reply has come. -/
def LsckSocketUnix.replied
    (usock : LsckSocketUnix)
    (fdW : Fd)
    (peer : Bytes) : LsckSocketUnix :=
  { usock with
    fdW := fdW
    peerpath := CString.store peer ++
      usock.peerpath.drop (peer.length + 1) }

/- What is left of a socket's state by a bind on the way. -/
structure LsckSocket.Keeps (d d' : LsckSocket) : Prop where
  fd : d'.fd = d.fd
  type : d'.type = d.type
  accepted : d'.accepted = d.accepted
  interface : d'.interface = d.interface
  idata : d'.idata = d.idata

/- A bind on the way leaves the sequence numbers alone. -/
theorem bindHere_unix
    {env : BindEnv}
    {n : Fin 2147483648}
    {p : Ptr}
    {d : LsckSocket}
    {usock : LsckSocketUnix}
    {s s' : Process}
    {r : Int}
    (hForm : WellFormed none s)
    (hUnix : s.HasUnix p d usock)
    (hInterface : d.interface = some .unix)
    (hRun : bindHere env n d s = .ok (r, s'))
    (hSuccess : r ≠ -1) :
    ∃ d' usock', s'.HasUnix p d' usock' ∧ d.Keeps d' ∧
      usock'.seqR = usock.seqR := by
  unfold bindHere at hRun
  by_cases hBound : d.bound
  · rw [if_pos hBound] at hRun
    cases hRun
    exact ⟨d, usock, hUnix, ⟨rfl, rfl, rfl, rfl, rfl⟩, rfl⟩
  · rw [if_neg hBound] at hRun
    rcases bind_unix_ok hForm (hForm.entry hUnix.socket)
      hUnix.socket hInterface rfl (read?_clientPath n) hRun
      hSuccess with
      ⟨m, usock₀, fdR, b, hUnix₀, hUnix', -⟩
    rcases hUnix.unique hUnix₀ with ⟨-, rfl⟩
    exact ⟨d.named b, _, hUnix', ⟨rfl, rfl, rfl, rfl, rfl⟩, rfl⟩

/- Neither does the exchange with the server. -/
theorem heap_exchange
    {env : UnixConnectEnv}
    {data : Option Ptr}
    {fd : Fd}
    {req : UnixMsgOpen}
    {taken : Option (List Bytes)}
    {s s' : Process}
    (hRun : unixConnectExchange env data fd req s =
      .ok (taken, s')) :
    s'.heap = s.heap := by
  rcases bind_eq_ok.mp hRun with ⟨ret, t, hWrite, hTail⟩
  have hHeap : t.heap = s.heap := by
    funext r
    exact (local_writeFd (fun _ => False) env.write fd _ s ret
      t hWrite).heap r (fun hOwn => hOwn)
  by_cases hRet : ret = -1
  · rw [if_pos hRet] at hTail
    cases hTail
    exact hHeap
  · rw [if_neg hRet] at hTail
    rcases bind_eq_ok.mp hTail with ⟨usock, u, hData, hRead⟩
    rcases derefUnix_ok hData with ⟨rfl, -⟩
    exact (heap_readFd hRead).trans hHeap

/- The data that a path is stored in. -/
theorem setPeerpath_some
    {q : Ptr}
    {path : Bytes}
    {s s' : Process}
    (hRun : setPeerpath (some q) path s = .ok ((), s')) :
    ∃ usock, s.heap q = some (.unix usock) ∧
      s'.heap = Function.update s.heap q (some (.unix
        (usock.replied usock.fdW path))) ∧
      s'.fds = s.fds := by
  rcases bind_eq_ok.mp hRun with ⟨usock, s₁, hData, hTail⟩
  rcases derefUnix_ok hData with ⟨rfl, q', hQ, hB⟩
  cases hQ
  rcases bind_eq_ok.mp hTail with ⟨buf, s₂, hCopy, hStore⟩
  rcases copyInto_ok hCopy with ⟨rfl, -, rfl⟩
  rcases modifyUnix_some hStore with ⟨u, hU, hHeap, hFds, -⟩
  rw [hB] at hU
  cases hU
  exact ⟨usock, hB, hHeap, hFds⟩

/- The peer's name is recorded beside the other data. -/
theorem setPeerpath_hasUnix
    {p : Ptr}
    {d : LsckSocket}
    {usock : LsckSocketUnix}
    {peer : Bytes}
    {s s' : Process}
    (hUnix : s.HasUnix p d usock)
    (hRun : setPeerpath d.idata peer s = .ok ((), s')) :
    s'.HasUnix p d (usock.replied usock.fdW peer) ∧
      s'.fds = s.fds := by
  rcases hUnix.data with ⟨q, hQ, hData⟩
  rw [hQ] at hRun
  rcases setPeerpath_some hRun with ⟨u, hU, hHeap, hFds⟩
  cases hData.symm.trans hU
  exact ⟨hUnix.update hQ hHeap, hFds⟩

/- The request says what the data does from then on. -/
theorem unixConnectRequest_hasUnix
    {env : UnixConnectEnv}
    {p : Ptr}
    {d : LsckSocket}
    {usock : LsckSocketUnix}
    {req : UnixMsgOpen}
    {s s' : Process}
    (hUnix : s.HasUnix p d usock)
    (hRun : unixConnectRequest env d.idata s = .ok (req, s')) :
    s'.HasUnix p d (usock.asked req) ∧
      (∃ block q, s' = s.setBlock q block) ∧
      ∃ sockpath, CString.read? usock.sockpath =
          some sockpath ∧
        (unixLocalPath ++ sockpath).length < openPathSize ∧
        req.header = requestHeader
          ⟨UInt32.ofNat env.secretRandom, s.pid⟩ env.seqRandom
          (unixLocalPath ++ sockpath) ∧
        req.path = CString.store (unixLocalPath ++ sockpath) ++
          (List.replicate openPathSize 0).drop
            ((unixLocalPath ++ sockpath).length + 1) := by
  rcases unixConnectRequest_ok hRun with
    ⟨q, u, sockpath, hQ, hU, hPath, hFits, hHeader, hBuffer,
      rfl⟩
  rcases hUnix.data with ⟨q', hQ', hData⟩
  cases hQ.symm.trans hQ'
  cases hData.symm.trans hU
  exact ⟨hUnix.update hQ rfl, ⟨_, q, rfl⟩, sockpath, hPath,
    hFits, hHeader, hBuffer⟩

/- The reply names the peer, and what is written to. -/
theorem unixConnectReply_hasUnix
    {env : UnixConnectEnv}
    {p : Ptr}
    {d : LsckSocket}
    {usock : LsckSocketUnix}
    {here : Bool}
    {fd : Fd}
    {rep : UnixMsgOpen}
    {s s' : Process}
    (hUnix : s.HasUnix p d usock)
    (hFd : fd ≠ -1)
    (hRun : unixConnectReply env p d.idata here fd rep s =
      .ok (0, s')) :
    ∃ peer fdW t,
      s'.HasUnix p d (usock.replied fdW peer) ∧
      rep.header.secret = usock.secret ∧
      rep.header.type = unixMsgServerOpen ∧
      CString.read? rep.path =
        some (unixLocalPath ++ peer) ∧
      openFile env.openW (unixLocalPath ++ peer) .wronly s =
        .ok (fdW, t) ∧
      s'.fds = t.fds := by
  rcases unixConnectReply_ok hFd hRun with
    ⟨u, peer, fdW, t, v, hData, hSecret, hType, hPath, hFile,
      hStore, hSet⟩
  cases (derefUnix_run hUnix).symm.trans hData
  have hOpened := hUnix.of_heap (openFile_ok hFile).heap
  rcases modifyUnix_hasUnix hOpened hStore with
    ⟨hStored, hFds, -⟩
  rcases setPeerpath_hasUnix hStored hSet with ⟨hAfter, hFds'⟩
  exact ⟨peer, fdW, t, hAfter, hSecret, hType, hPath, hFile,
    hFds'.trans hFds⟩

/- The stages of a connect are those of one run. -/
theorem ConnectStages.unique
    {env : UnixConnectEnv}
    {p : Ptr}
    {serv : Bytes}
    {req req' : UnixMsgOpen}
    {ms ms' : List Bytes}
    {s t t' : Process}
    (hStages : ConnectStages env p serv req ms s t)
    (hStages' : ConnectStages env p serv req' ms' s t') :
    req' = req ∧ ms' = ms ∧ t' = t := by
  rcases hStages with
    ⟨lsd, server, fd, ret, t₀, t₁, t₂, t₃, t₄, hLsd, hServer,
      hClear, hOpen, -, hBind, -, hReq, hTaken, hLast⟩
  rcases hStages' with
    ⟨lsd', server', fd', ret', u₀, u₁, u₂, u₃, u₄, hLsd',
      hServer', hClear', hOpen', -, hBind', -, hReq', hTaken',
      hLast'⟩
  cases hLsd.symm.trans hLsd'
  cases hServer.symm.trans hServer'
  cases hClear.symm.trans hClear'
  cases hOpen.symm.trans hOpen'
  cases hBind.symm.trans hBind'
  cases hReq.symm.trans hReq'
  cases hTaken.symm.trans hTaken'
  cases hLast.symm.trans hLast'
  exact ⟨rfl, rfl, rfl⟩

/-
  A connect that succeeds holds what its request said, and
  the path of the reply as that of its peer.
-/
theorem ConnectStages.holds
    {env : UnixConnectEnv}
    {p : Ptr}
    {serv : Bytes}
    {req : UnixMsgOpen}
    {ms : List Bytes}
    {d : LsckSocket}
    {usock : LsckSocketUnix}
    {s s' : Process}
    (hForm : WellFormed none s)
    (hUnix : s.HasUnix p d usock)
    (hInterface : d.interface = some .unix)
    (hStages : ConnectStages env p serv req ms s s') :
    ∃ d', ∃ usock' : LsckSocketUnix, ∃ fdW peer rep,
      rep = receivedRequest env.repJunk ms ∧
      s'.HasUnix p d' ((usock'.asked req).replied fdW peer) ∧
      d.Keeps d' ∧ usock'.seqR = usock.seqR ∧
      rep.header.secret = req.header.secret ∧
      rep.header.type = unixMsgServerOpen ∧
      CString.read? rep.path =
        some (unixLocalPath ++ peer) := by
  rcases hStages with
    ⟨lsd, server, fd, ret, t₀, t₁, t₂, t₃, t₄, hLsd, hServer,
      hClear, hOpen, hFd, hBind, hRet, hReq, hTaken, hLast⟩
  rw [hUnix.socket] at hLsd
  cases hLsd
  -- The data without a peer, before the bind on the way.
  have hClears := (modifyUnix_hasUnix hUnix hClear).1
  have hUnix₁ := hClears.of_heap (openFile_ok hOpen).heap
  have hForm₁ : WellFormed none t₁ :=
    (hForm.still (StillCmd.modifyUnix _ _ _ _ _ hClear)).still
      (still_openFile _ _ _ _ _ _ hOpen)
  rcases bindHere_unix hForm₁ hUnix₁ hInterface hBind hRet with
    ⟨d₂, usock₂, hUnix₂, hKeeps, hSeqR⟩
  rw [← hKeeps.idata] at hReq hLast
  have hUnix₃ := (unixConnectRequest_hasUnix hUnix₂ hReq).1
  rcases unixConnectReply_hasUnix
    (hUnix₃.of_heap (heap_exchange hTaken)) hFd hLast with
    ⟨peer, fdW, t, hAfter, hSecret, hType, hPath, -, -⟩
  exact ⟨d₂, usock₂, fdW, peer, _, rfl, hAfter, hKeeps, hSeqR,
    hSecret, hType, hPath⟩

------------------------------------------------------------
-- Messages
------------------------------------------------------------

/- A read that starts with an open message finds it. -/
theorem path_received
    {m : UnixMsgOpen}
    (hPath : m.path.length = openPathSize)
    (junk : Fin 148 → UInt8)
    (more : List Bytes) :
    (receivedRequest junk (m.encode :: more)).path =
      m.path := by
  have hLength : m.encode.length =
      (List.ofFn junk).length := by
    rw [List.length_ofFn, UnixMsgOpen.encode,
      List.length_append, UnixMsgHeader.length_encode, hPath]
    rfl
  unfold receivedRequest overlay
  rw [List.flatten_cons, List.take_left' hLength]
  exact UnixMsgOpen.path_decode hPath _

/- The reply's path is the new mailslot's. -/
theorem acceptAnswer_path
    {env : UnixAcceptEnv}
    {req : UnixMsgOpen}
    {path : Bytes}
    (hFits : path.length < openPathSize) :
    (acceptAnswer env req path).path.length =
      openPathSize := by
  have hBuffer : path.length < (List.ofFn env.repJunk).length :=
    by rw [List.length_ofFn]; exact hFits
  unfold acceptAnswer
  dsimp only
  rw [length_copy hBuffer, List.length_ofFn]
  rfl

/- Read as a string, it is the mailslot's path. -/
theorem read?_acceptAnswer
    {env : UnixAcceptEnv}
    {server : Bytes}
    (hText : CString.IsText server)
    (req : UnixMsgOpen) :
    CString.read? (acceptAnswer env req
      (slotPath server env.slotRandom)).path =
        some (slotPath server env.slotRandom) := by
  apply CString.read?_store
  rw [slotPath_eq]
  apply CString.IsText.append (by decide)
  apply CString.IsText.append
  · apply CString.IsText.append hText
    decide
  · exact isText_hexDigits 8 _

end Libsocket
