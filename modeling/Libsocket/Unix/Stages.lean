import Libsocket.Unix.Traffic

/-
  The stages of a bind, a connect and a datagram that
  succeed: what they have opened, stored and sent.

  Main declarations:
    * `Process.HasUnix`, `Process.BoundTo`
    * `unixBind_ok`, `unixBind_reads`
    * `sendName_iff`
    * `ConnectStages`, `unixConnect_ok`,
      `ConnectStages.sends`
    * `unixSendDgram_ok`, `unixSendDgram_sends`
-/

namespace Libsocket

open Command

------------------------------------------------------------
-- Bound Sockets
------------------------------------------------------------

/- A socket of the Unix interface and its data. -/
structure Process.HasUnix
    (s : Process)
    (p : Ptr)
    (lsd : LsckSocket)
    (usock : LsckSocketUnix) : Prop where
  socket : s.heap p = some (.socket lsd)
  data : ∃ q, lsd.idata = some q ∧
    s.heap q = some (.unix usock)

/- The socket reads from the mailslot. -/
def Process.SocketReads
    (s : Process)
    (p : Ptr)
    (m : Bytes) : Prop :=
  ∃ lsd usock, s.HasUnix p lsd usock ∧
    s.ReadsFrom usock.fdR m

/-
  The socket is bound to a name, which both of its copies
  say, and reads from the mailslot.
-/
def Process.BoundTo
    (s : Process)
    (p : Ptr)
    (name m : Bytes) : Prop :=
  ∃ lsd usock, s.HasUnix p lsd usock ∧
    lsd.bound = true ∧
    CString.read? (lsd.sockname.drop 2) = some name ∧
    CString.read? usock.sockpath = some name ∧
    s.ReadsFrom usock.fdR m

/- The path is taken as it is. -/
def IsAbsolute (path : Bytes) : Prop :=
  path.head? = some slash

instance (path : Bytes) : Decidable (IsAbsolute path) := by
  unfold IsAbsolute
  infer_instance

/- The data that a socket's pointer leads to. -/
theorem derefUnix_ok
    {data : Option Ptr}
    {usock : LsckSocketUnix}
    {s s' : Process}
    (hRun : deref Block.unix? data s = .ok (usock, s')) :
    s' = s ∧ ∃ q, data = some q ∧
      s.heap q = some (.unix usock) := by
  rcases deref_ok hRun with ⟨hSame, q, b, hQ, hB, hKind⟩
  cases b <;> cases hKind
  exact ⟨hSame, q, hQ, hB⟩

/- The data of a socket that a bind gave a name. -/
def LsckSocketUnix.boundAs
    (usock : LsckSocketUnix)
    (fd : Fd)
    (name : Bytes) : LsckSocketUnix :=
  { usock with
    fdR := fd
    sockpath := CString.store name ++
      usock.sockpath.drop (name.length + 1) }

/- What a bind that succeeds has done behind its open. -/
theorem unixBind_opens
    {env : UnixBindEnv}
    {p : Ptr}
    {addr : Bytes}
    {addrlen : Nat}
    {s s' : Process}
    (hRun : unixBind env p addr addrlen s = .ok (0, s')) :
    ∃ lsd q usock name built fd t,
      s.heap p = some (.socket lsd) ∧
      lsd.idata = some q ∧ s.heap q = some (.unix usock) ∧
      CString.read? (addr.drop 2) = some name ∧
      bindPath env.cwd name = some built ∧
      openFile env.openEnv built .rdonly s = .ok (fd, t) ∧
      fd ≠ -1 ∧
      s' = t.setBlock q
        (some (.unix (usock.boundAs fd name))) := by
  rcases bind_eq_ok.mp hRun with ⟨lsd, s₁, hRead, hTail⟩
  rcases derefSocket_ok hRead with ⟨rfl, hSocket⟩
  rcases bind_eq_ok.mp hTail with ⟨usock, s₂, hData, hChecks⟩
  rcases derefUnix_ok hData with ⟨rfl, q, hQ, hB⟩
  rcases ite_fail_ok hChecks (by decide) with ⟨-, hCheck⟩
  rcases ite_fail_ok hCheck (by decide) with ⟨-, hBody⟩
  rcases bind_eq_ok.mp hBody with ⟨name, s₃, hSun, hNamed⟩
  rcases readString_ok hSun with ⟨rfl, hName⟩
  cases hBuilt : bindPath env.cwd name with
  | none =>
      rw [hBuilt] at hNamed
      cases hNamed
  | some built =>
      simp only [hBuilt] at hNamed
      rcases bind_eq_ok.mp hNamed with
        ⟨path, s₄, hFits, hFitted⟩
      rcases fits_ok hFits with ⟨rfl, rfl, -⟩
      rcases bind_eq_ok.mp hFitted with
        ⟨fd, t, hOpen, hOpened⟩
      have hHeap := (openFile_ok hOpen).heap
      rcases bind_eq_ok.mp hOpened with
        ⟨_, u, hStore, hStored⟩
      rcases modifyUnix_ok hStore with
        ⟨q', usock', hQ', hB', rfl⟩
      rw [hQ] at hQ'
      cases hQ'
      rw [hHeap, hB] at hB'
      cases hB'
      by_cases hFailed : fd ≠ -1
      · rw [if_pos hFailed] at hStored
        rcases bind_eq_ok.mp hStored with
          ⟨sockpath, v, hCopy, hCopied⟩
        rcases copyInto_ok hCopy with ⟨rfl, -, rfl⟩
        rcases bind_eq_ok.mp hCopied with
          ⟨_, w, hLast, hPure⟩
        cases hPure
        rcases modifyUnix_ok hLast with
          ⟨q', usock', hQ', hB', rfl⟩
        rw [hQ] at hQ'
        cases hQ'
        rw [Process.heap_setBlock, Function.update_self]
          at hB'
        cases hB'
        refine ⟨lsd, q, usock, name, path, fd, t, hSocket, hQ,
          hB, hName, hBuilt, hOpen, hFailed, ?_⟩
        simp [Process.setBlock, LsckSocketUnix.boundAs]
      · rw [if_neg hFailed] at hStored
        rcases bind_eq_ok.mp hStored with ⟨_, v, _, hPure⟩
        cases hPure

theorem unixBind_ok
    {env : UnixBindEnv}
    {p : Ptr}
    {addr : Bytes}
    {addrlen : Nat}
    {s s' : Process}
    (hRun : unixBind env p addr addrlen s = .ok (0, s')) :
    ∃ lsd q usock name built fd t,
      s.heap p = some (.socket lsd) ∧
      lsd.idata = some q ∧ s.heap q = some (.unix usock) ∧
      CString.read? (addr.drop 2) = some name ∧
      bindPath env.cwd name = some built ∧
      openFile env.openEnv built .rdonly s = .ok (fd, t) ∧
      fd ≠ -1 ∧
      s'.fds = t.fds ∧
      s'.heap = Function.update s.heap q
        (some (.unix (usock.boundAs fd name))) := by
  rcases unixBind_opens hRun with
    ⟨lsd, q, usock, name, built, fd, t, hSocket, hQ, hB, hName,
      hBuilt, hOpen, hFd, rfl⟩
  refine ⟨lsd, q, usock, name, built, fd, t, hSocket, hQ, hB,
    hName, hBuilt, hOpen, hFd, rfl, ?_⟩
  rw [Process.heap_setBlock, (openFile_ok hOpen).heap]

------------------------------------------------------------
-- Meeting At A Path
------------------------------------------------------------

/- Only a relative name is extended. -/
theorem bindPath_cases
    {cwd : Option Bytes}
    {name built : Bytes}
    (hBuilt : bindPath cwd name = some built) :
    ∃ x, built = unixLocalPath ++ x ∧
      (IsAbsolute name → x = name) ∧
      (¬ IsAbsolute name → name.length < x.length) := by
  unfold bindPath at hBuilt
  by_cases hSlash : name.head? = some slash
  · rw [if_pos hSlash] at hBuilt
    cases hBuilt
    exact ⟨name, rfl, fun _ => rfl,
      fun hNot => absurd hSlash hNot⟩
  · rw [if_neg hSlash] at hBuilt
    rcases Option.map_eq_some_iff.mp hBuilt with
      ⟨buf, -, rfl⟩
    refine ⟨buf.drop 2 ++ [slash] ++ name, ?_,
      fun hIs => absurd hIs hSlash, fun _ => ?_⟩
    · simp only [List.append_assoc]
    · simp only [List.length_append, List.length_singleton]
      omega

/- Who writes to a name reaches those bound to it absolutely. -/
theorem sendName_iff
    {cwd : Option Bytes}
    {name built m : Bytes}
    (hBuilt : bindPath cwd name = some built)
    (hRead : readName built = some m) :
    sendName (unixLocalPath ++ name) = some m ↔
      IsAbsolute name := by
  rcases bindPath_cases hBuilt with ⟨x, rfl, hSame, hLonger⟩
  constructor
  · intro hSend
    have hLength := length_eq_of_meet hRead hSend
    by_contra hNot
    have hMore := hLonger hNot
    omega
  · intro hIs
    rw [hSame hIs] at hRead
    exact sendName_of_readName hRead

/- A bound socket has its name and a mailslot to read. -/
theorem unixBind_reads
    {env : UnixBindEnv}
    {p : Ptr}
    {addr name : Bytes}
    {addrlen : Nat}
    {s s' : Process}
    (hRun : unixBind env p addr addrlen s = .ok (0, s'))
    (hName : CString.read? (addr.drop 2) = some name) :
    ∃ m lsd usock fdR, s.HasUnix p lsd usock ∧
      s'.HasUnix p lsd (usock.boundAs fdR name) ∧
      CString.read? (usock.boundAs fdR name).sockpath =
        some name ∧
      s'.ReadsFrom fdR m ∧
      (sendName (unixLocalPath ++ name) = some m ↔
        IsAbsolute name) ∧
      (IsAbsolute name →
        readName (unixLocalPath ++ name) = some m) := by
  rcases unixBind_ok hRun with
    ⟨lsd, q, usock, name', built, fd, t, hSocket, hQ, hB,
      hName', hBuilt, hOpen, hFd, hFds, hHeap⟩
  rw [hName] at hName'
  cases hName'
  rcases bindPath_cases hBuilt with ⟨x, rfl, hAs, -⟩
  rcases openFile_readsFrom hOpen hFd with ⟨m, hRead, hReads⟩
  have hNe : p ≠ q := by
    rintro rfl
    rw [hSocket] at hB
    cases hB
  refine ⟨m, lsd, usock, fd, ⟨hSocket, q, hQ, hB⟩,
    ⟨?_, q, hQ, ?_⟩, ?_, ?_, sendName_iff hBuilt hRead, ?_⟩
  · rw [hHeap, Function.update_of_ne hNe, hSocket]
  · rw [hHeap, Function.update_self]
  · exact CString.read?_store (CString.isText_of_read? hName) _
  · exact hReads.of_fds hFds
  · intro hIs
    rw [← hAs hIs]
    exact hRead

------------------------------------------------------------
-- Connecting
------------------------------------------------------------

/-
  The stages of a connect: open the server's mailslot, bind,
  build the request, send it and wait for the reply, and act
  on the reply.
-/
def ConnectStages
    (env : UnixConnectEnv)
    (p : Ptr)
    (serv : Bytes)
    (req : UnixMsgOpen)
    (ms : List Bytes)
    (s s' : Process) : Prop :=
  ∃ lsd server fd ret t₀ t₁ t₂ t₃ t₄,
    s.heap p = some (.socket lsd) ∧
    CString.read? (serv.drop 2) = some server ∧
    modifyUnix lsd.idata (fun usock =>
      { usock with
        peerpath := List.replicate sockaddrMaxSize 0 }) s =
      .ok ((), t₀) ∧
    openFile env.openCtl (unixLocalPath ++ server)
      .wronly t₀ = .ok (fd, t₁) ∧ fd ≠ -1 ∧
    bindHere env.bind env.nameRandom lsd t₁ =
      .ok (ret, t₂) ∧ ret ≠ -1 ∧
    unixConnectRequest env lsd.idata t₂ = .ok (req, t₃) ∧
    unixConnectExchange env lsd.idata fd req t₃ =
      .ok (some ms, t₄) ∧
    unixConnectReply env p lsd.idata (!lsd.bound) fd
      (receivedRequest env.repJunk ms) t₄ = .ok (0, s')

/- A connect that succeeds goes through all of them. -/
theorem unixConnect_ok
    {env : UnixConnectEnv}
    {p : Ptr}
    {serv : Bytes}
    {s s' : Process}
    (hRun : unixConnect env p serv s = .ok (0, s')) :
    ∃ req ms, ConnectStages env p serv req ms s s' := by
  rcases bind_eq_ok.mp hRun with ⟨lsd, s₁, hRead, hSocket⟩
  rcases derefSocket_ok hRead with ⟨rfl, hLsd⟩
  rcases bind_eq_ok.mp hSocket with ⟨_, t₀, hClear, hCleared⟩
  rcases bind_eq_ok.mp hCleared with ⟨server, s₂, hSun, hNamed⟩
  rcases readString_ok hSun with ⟨rfl, hServer⟩
  rcases bind_eq_ok.mp hNamed with ⟨path, s₃, hFits, hBuilt⟩
  rcases fits_ok hFits with ⟨rfl, rfl, -⟩
  rcases bind_eq_ok.mp hBuilt with ⟨fd, t₁, hOpen, hOpened⟩
  rcases ite_return_ok hOpened (by decide) with ⟨hFd, hBody⟩
  rcases bind_eq_ok.mp hBody with ⟨ret, t₂, hBind, hBound⟩
  rcases ite_return_ok hBound (by decide) with ⟨hRet, hAsk⟩
  rcases bind_eq_ok.mp hAsk with ⟨req, t₃, hReq, hAsked⟩
  rcases bind_eq_ok.mp hAsked with ⟨taken, t₄, hTaken, hLast⟩
  cases taken with
  | none =>
      rcases bind_eq_ok.mp hLast with ⟨_, u, _, hFail⟩
      cases hFail
  | some ms =>
      exact ⟨req, ms, lsd, server, fd, ret, _, t₁, t₂, t₃, t₄,
        hLsd, hServer, hClear, hOpen, hFd, hBind, hRet, hReq,
        hTaken, hLast⟩

/- The request that a connect builds. -/
theorem unixConnectRequest_ok
    {env : UnixConnectEnv}
    {data : Option Ptr}
    {req : UnixMsgOpen}
    {s s' : Process}
    (hRun : unixConnectRequest env data s = .ok (req, s')) :
    ∃ q usock sockpath, data = some q ∧
      s.heap q = some (.unix usock) ∧
      CString.read? usock.sockpath = some sockpath ∧
      (unixLocalPath ++ sockpath).length < openPathSize ∧
      req.header = requestHeader
        ⟨UInt32.ofNat env.secretRandom, s.pid⟩ env.seqRandom
        (unixLocalPath ++ sockpath) ∧
      req.path = CString.store (unixLocalPath ++ sockpath) ++
        (List.replicate openPathSize 0).drop
          ((unixLocalPath ++ sockpath).length + 1) ∧
      s' = s.setBlock q (some (.unix
        { usock with
          secret := req.header.secret
          seqW := modMaxint (req.header.seqEnd + 1) })) := by
  unfold unixConnectRequest at hRun
  rw [run_bind_ok (run_get s)] at hRun
  rcases bind_eq_ok.mp hRun with ⟨usock, s₁, hData, hTail⟩
  rcases derefUnix_ok hData with ⟨rfl, q, rfl, hB⟩
  rcases bind_eq_ok.mp hTail with ⟨sockpath, s₂, hRead, hNamed⟩
  rcases readString_ok hRead with ⟨rfl, hPath⟩
  rcases bind_eq_ok.mp hNamed with ⟨path, s₃, hCopy, hCopied⟩
  rcases copyInto_ok hCopy with ⟨rfl, hFits, rfl⟩
  rcases bind_eq_ok.mp hCopied with ⟨_, s₄, hStore, hPure⟩
  cases hPure
  rcases modifyUnix_ok hStore with ⟨q', usock', hQ', hB', rfl⟩
  cases hQ'
  rw [hB] at hB'
  cases hB'
  rw [List.length_replicate] at hFits
  exact ⟨q, usock, sockpath, rfl, hB, hPath, hFits, rfl, rfl,
    rfl⟩

/- Only the request is sent between the two. -/
theorem unixConnectExchange_ok
    {env : UnixConnectEnv}
    {data : Option Ptr}
    {fd : Fd}
    {req : UnixMsgOpen}
    {ms : List Bytes}
    {m : Bytes}
    {s s' : Process}
    (hWrites : s.WritesTo fd m)
    (hRun : unixConnectExchange env data fd req s =
      .ok (some ms, s')) :
    s'.sent = s.sent ++ [(m, req.encode)] := by
  rcases bind_eq_ok.mp hRun with ⟨ret, t, hWrite, hTail⟩
  by_cases hRet : ret = -1
  · rw [if_pos hRet] at hTail
    cases hTail
  · rw [if_neg hRet] at hTail
    rcases writeFd_ok hWrites hWrite hRet with ⟨-, rfl⟩
    rcases bind_eq_ok.mp hTail with ⟨usock, u, hData, hRead⟩
    rcases derefUnix_ok hData with ⟨rfl, -⟩
    rw [(steady_readFd _ _ _ _ _ hRead).sent,
      Process.sent_deliverTo]

/-
  A reply that is accepted names the mailslot of the peer,
  and nothing is sent in answer to it.
-/
theorem unixConnectReply_ok
    {env : UnixConnectEnv}
    {p : Ptr}
    {data : Option Ptr}
    {here : Bool}
    {fd : Fd}
    {rep : UnixMsgOpen}
    {s s' : Process}
    (hFd : fd ≠ -1)
    (hRun : unixConnectReply env p data here fd rep s =
      .ok (0, s')) :
    ∃ usock peer fdW t u,
      deref Block.unix? data s = .ok (usock, s) ∧
      rep.header.secret = usock.secret ∧
      rep.header.type = unixMsgServerOpen ∧
      CString.read? rep.path =
        some (unixLocalPath ++ peer) ∧
      openFile env.openW (unixLocalPath ++ peer) .wronly s =
        .ok (fdW, t) ∧
      modifyUnix data (fun usock =>
        { usock with fdW := fdW }) t = .ok ((), u) ∧
      setPeerpath data peer u = .ok ((), s') := by
  rcases bind_eq_ok.mp hRun with ⟨usock, s₁, hData, hTail⟩
  have hSame := (derefUnix_ok hData).1
  subst hSame
  split at hTail
  next =>
      rcases bind_eq_ok.mp hTail with ⟨_, u, _, hFail⟩
      cases hFail
  next hPass =>
      rw [not_or, not_ne_iff, not_ne_iff] at hPass
      rcases bind_eq_ok.mp hTail with ⟨path, s₂, hRead, hOpen⟩
      rcases readString_ok hRead with ⟨rfl, hPath⟩
      rcases bind_eq_ok.mp hOpen with ⟨fdW, t, hFile, hStore⟩
      rcases bind_eq_ok.mp hStore with ⟨_, u, hStored, hLast⟩
      cases hPeer : afterPrefix unixLocalPath path with
      | none =>
          rw [hPeer] at hLast
          rcases bind_eq_ok.mp hLast with ⟨_, v, _, hFail⟩
          cases hFail
      | some peer =>
          rw [hPeer] at hLast
          rcases bind_eq_ok.mp hLast with ⟨_, v, hSet, hPure⟩
          cases hPure
          have hShape := afterPrefix_eq_some hPeer
          subst hShape
          exact ⟨usock, peer, fdW, t, u, hData, hPass.1,
            hPass.2, hPath, hFile, hStored, hSet⟩

/- A path copied into a buffer reads back. -/
theorem read?_published
    {sockpath : Bytes}
    (hPath : CString.IsText sockpath)
    (rest : Bytes) :
    CString.read? (CString.store (unixLocalPath ++ sockpath) ++
      rest) = some (unixLocalPath ++ sockpath) := by
  apply CString.read?_store
  exact CString.IsText.append (by decide) hPath

/- A path buffer keeps its size. -/
theorem length_copy
    {text buffer : Bytes}
    (hFits : text.length < buffer.length) :
    (CString.store text ++
      buffer.drop (text.length + 1)).length =
        buffer.length := by
  simp only [CString.store, List.length_append,
    List.length_singleton, List.length_drop]
  omega

/-
  A connect that succeeds has sent one request to the
  server's path, and published the name that it has stored.
-/
theorem ConnectStages.sends
    {env : UnixConnectEnv}
    {p : Ptr}
    {serv server : Bytes}
    {req : UnixMsgOpen}
    {ms : List Bytes}
    {s s' : Process}
    (hStages : ConnectStages env p serv req ms s s')
    (hServ : CString.read? (serv.drop 2) = some server) :
    ∃ m sockpath,
      sendName (unixLocalPath ++ server) = some m ∧
      s'.sent = s.sent ++ [(m, UnixMsgOpen.encode req)] ∧
      req.path.length = openPathSize ∧
      CString.read? req.path =
        some (unixLocalPath ++ sockpath) ∧
      ∀ lsd usock, s.HasUnix p lsd usock →
        lsd.bound = true →
        CString.read? usock.sockpath = some sockpath := by
  rcases hStages with
    ⟨lsd, server', fd, ret, t₀, t₁, t₂, t₃, t₄,
      hLsd, hServer, hClear, hOpen, hFd, hBind, hRet, hReq,
      hTaken, hLast⟩
  rw [hServ] at hServer
  cases hServer
  rcases unixConnectRequest_ok hReq with
    ⟨q, usock, sockpath, hQ, hB, hPath, hFits, hHeader,
      hBuffer, hState⟩
  rcases openFile_writesTo hOpen hFd with ⟨m, hSend, hWrites⟩
  have hBound := steady_bindHere _ _ _ _ _ _ hBind
  have hWrites' : t₃.WritesTo fd m := by
    refine (hBound.writesTo hWrites).of_fds ?_
    rw [hState]
    rfl
  have hExchange := unixConnectExchange_ok hWrites' hTaken
  rcases unixConnectReply_ok hFd hLast with
    ⟨-, peer, fdW, v, w, -, -, -, -, hFile, hStore, hSet⟩
  have hQuiet : s'.sent = t₄.sent := by
    rw [(steady_setPeerpath _ _ _ _ _ hSet).sent,
      (SteadyCmd.modifyUnix _ _ _ _ _ hStore).sent,
      (steady_openFile _ _ _ _ _ _ hFile).sent]
  refine ⟨m, sockpath, hSend, ?_, ?_, ?_, ?_⟩
  · rw [hQuiet, hExchange]
    have hBefore : t₃.sent = s.sent := by
      rw [hState]
      change t₂.sent = s.sent
      rw [hBound.sent, (steady_openFile _ _ _ _ _ _ hOpen).sent,
        (SteadyCmd.modifyUnix _ _ _ _ _ hClear).sent]
    rw [hBefore]
  · rw [hBuffer, length_copy
      (by rw [List.length_replicate]; exact hFits),
      List.length_replicate]
  · rw [hBuffer]
    exact read?_published (CString.isText_of_read? hPath) _
  · intro lsd' usock' hUnix hIs
    rcases hUnix with ⟨hLsd', q', hQ', hB'⟩
    rw [hLsd] at hLsd'
    cases hLsd'
    rw [hQ] at hQ'
    cases hQ'
    -- A bound socket keeps the data that the call began with.
    rcases modifyUnix_ok hClear with ⟨q'', u, hQ'', hU, rfl⟩
    rw [hQ] at hQ''
    cases hQ''
    rw [hB'] at hU
    cases hU
    unfold bindHere at hBind
    rw [if_pos hIs] at hBind
    cases hBind
    rw [(openFile_ok hOpen).heap, Process.heap_setBlock,
      Function.update_self] at hB
    cases hB
    exact hPath

------------------------------------------------------------
-- Sending Datagrams
------------------------------------------------------------

/- Closing a mailslot that was open for writing. -/
theorem closeFd_writer
    {env : CloseEnv}
    {fd : Fd}
    {m : Bytes}
    {s s' : Process}
    {r : Int}
    (hWrites : s.WritesTo fd m)
    (hRun : closeFd env fd s = .ok (r, s')) :
    s' = s.setEntry fd FdEntry.unused := by
  rcases hWrites with ⟨me, name, hMail, hHandle, -, -⟩
  unfold Process.HasMailslot at hMail
  cases env with
  | leaf => cases hRun
  | node answer closeR closeW =>
      unfold closeFd at hRun
      rw [run_bind_ok (run_get s), hMail] at hRun
      dsimp only at hRun
      unfold closeMailslot at hRun
      rw [run_bind_ok (run_get s), hMail] at hRun
      dsimp only at hRun
      simp only [hHandle] at hRun
      cases hRun
      simp only [Process.fds_setEntry, Function.update_self,
        Process.setEntry_setEntry, FdEntry.unused]

/-
  The stages of a datagram that is sent: bind, open the
  mailslot of the receiver, send the packets, and close.
-/
theorem unixSendDgram_ok
    {env : UnixSendDgramEnv}
    {p : Ptr}
    {msg sun : Bytes}
    {tolen : Nat}
    {s s' : Process}
    {r : Int}
    (hRun : unixSendDgram env p msg (some sun) tolen s =
      .ok (r, s'))
    (hSuccess : r ≠ -1) :
    ∃ lsd₀ lsd ret source target path fd t₁ t₂ t₃,
      s.heap p = some (.socket lsd₀) ∧
      bindHere env.bind env.nameRandom lsd₀ s =
        .ok (ret, t₁) ∧ ret ≠ -1 ∧
      t₁.heap p = some (.socket lsd) ∧
      CString.read? (lsd.sockname.drop 2) = some source ∧
      (unixLocalPath ++ source).length < openPathSize ∧
      path = CString.store (unixLocalPath ++ source) ++
        (List.ofFn env.pathJunk).drop
          ((unixLocalPath ++ source).length + 1) ∧
      CString.read? (sun.drop 2) = some target ∧
      openFile env.openW (unixLocalPath ++ target) .wronly
        t₁ = .ok (fd, t₂) ∧ fd ≠ -1 ∧
      sendDgramLoop fd ⟨dgramHeader msg.length, path⟩
        env.writes msg 0 t₂ = .ok (r, t₃) ∧
      ∃ x, closeFd env.close fd t₃ = .ok (x, s') := by
  rcases bind_eq_ok.mp hRun with ⟨lsd₀, s₁, hRead, hTail⟩
  rcases derefSocket_ok hRead with ⟨rfl, hLsd₀⟩
  rcases ite_fail_ok hTail hSuccess with ⟨-, hTyped⟩
  rcases ite_fail_ok hTyped hSuccess with ⟨-, hBody⟩
  rcases bind_eq_ok.mp hBody with ⟨ret, t₁, hBind, hBound⟩
  rcases ite_return_ok hBound hSuccess with ⟨hRet, hSend⟩
  rcases bind_eq_ok.mp hSend with ⟨lsd, s₂, hAgain, hNamed⟩
  rcases derefSocket_ok hAgain with ⟨rfl, hLsd⟩
  rcases bind_eq_ok.mp hNamed with ⟨source, s₃, hSun, hFrom⟩
  rcases readString_ok hSun with ⟨rfl, hSource⟩
  rcases bind_eq_ok.mp hFrom with ⟨path, s₄, hCopy, hCopied⟩
  rcases copyInto_ok hCopy with ⟨rfl, hFits, hPath⟩
  rw [List.length_ofFn] at hFits
  rcases bind_eq_ok.mp hCopied with ⟨target, s₅, hTo, hDest⟩
  rcases readString_ok hTo with ⟨rfl, hTarget⟩
  rcases bind_eq_ok.mp hDest with ⟨dest, s₆, hFit, hBuilt⟩
  rcases fits_ok hFit with ⟨rfl, rfl, -⟩
  rcases bind_eq_ok.mp hBuilt with ⟨fd, t₂, hOpen, hOpened⟩
  rcases ite_return_ok hOpened hSuccess with ⟨hFd, hAll⟩
  rcases bind_eq_ok.mp hAll with ⟨total, t₃, hLoop, hSent⟩
  rcases ite_return_ok hSent hSuccess with ⟨-, hClose⟩
  rcases bind_eq_ok.mp hClose with ⟨x, t₄, hClosed, hPure⟩
  cases hPure
  exact ⟨lsd₀, lsd, ret, source, target, path, fd, _, t₂, t₃,
    hLsd₀, hBind, hRet, hLsd, hSource, hFits, hPath, hTarget,
    hOpen, hFd, hLoop, x, hClosed⟩

/-
  A datagram that is sent goes to the path of the receiver
  packet by packet, and each packet publishes the name that
  the sender's descriptor has.
-/
theorem unixSendDgram_sends
    {env : UnixSendDgramEnv}
    {p : Ptr}
    {msg sun target : Bytes}
    {tolen : Nat}
    {s s' : Process}
    {r : Int}
    (hRun : unixSendDgram env p msg (some sun) tolen s =
      .ok (r, s'))
    (hSuccess : r ≠ -1)
    (hTo : CString.read? (sun.drop 2) = some target) :
    ∃ m req, ∃ parts : List Bytes, ∃ source,
      sendName (unixLocalPath ++ target) = some m ∧
      s'.sent = s.sent ++ parts.map (fun data =>
        (m, UnixMsgOpen.encode req ++ data)) ∧
      parts.flatten = msg ∧
      req.header = dgramHeader msg.length ∧
      req.path.length = openPathSize ∧
      CString.read? req.path =
        some (unixLocalPath ++ source) ∧
      ∀ lsd, s.heap p = some (.socket lsd) →
        lsd.bound = true →
        CString.read? (lsd.sockname.drop 2) =
          some source := by
  rcases unixSendDgram_ok hRun hSuccess with
    ⟨lsd₀, lsd, ret, source, target', path, fd, t₁, t₂, t₃,
      hLsd₀, hBind, hRet, hLsd, hSource, hFits, hPath,
      hTarget, hOpen, hFd, hLoop, x, hClose⟩
  rw [hTo] at hTarget
  cases hTarget
  rcases openFile_writesTo hOpen hFd with ⟨m, hSend, hWrites⟩
  rcases sendDgramLoop_ok hWrites hLoop hSuccess with
    ⟨parts, hParts, hSent, hFds, -⟩
  have hClosed := closeFd_writer (hWrites.of_fds hFds) hClose
  refine ⟨m, ⟨dgramHeader msg.length, path⟩, parts, source,
    hSend, ?_, hParts, rfl, ?_, ?_, ?_⟩
  · have hLast : s'.sent = t₃.sent := by
      rw [hClosed]
      rfl
    rw [hLast, hSent, (steady_openFile _ _ _ _ _ _ hOpen).sent,
      (steady_bindHere _ _ _ _ _ _ hBind).sent]
  · dsimp only
    rw [hPath, length_copy
      (by rw [List.length_ofFn]; exact hFits),
      List.length_ofFn]
    rfl
  · dsimp only
    rw [hPath]
    exact read?_published (CString.isText_of_read? hSource) _
  · intro lsd' hLsd' hIs
    rw [hLsd₀] at hLsd'
    cases hLsd'
    unfold bindHere at hBind
    rw [if_pos hIs] at hBind
    cases hBind
    rw [hLsd₀] at hLsd
    cases hLsd
    exact hSource

end Libsocket
