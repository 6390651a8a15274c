import Libsocket.Unix.Agreement
import Libsocket.Unix.Isolation
import Libsocket.Unix.Paths

/-
  The paths of a client: those that a bind on the way, a
  connect and its open request build.

  Main declarations:
    * `Process.Tidy`, `Process.BoundHere`
    * `ServerWrites`, `FromServer`
    * `avoids_unixConnect_iff`
-/

namespace Libsocket

open Command

------------------------------------------------------------
-- Binding
------------------------------------------------------------

/- A bind that has been answered records the name. -/
theorem avoids_recordName
    {env : BindEnv}
    {p : Ptr}
    {lsd : LsckSocket}
    {usock : LsckSocketUnix}
    {text : Bytes}
    {s : Process}
    (hUnix : s.HasUnix p lsd usock)
    (hInterface : lsd.interface = some .unix)
    (hLeads : s.LeadsTo lsd.fd p)
    (hText : CString.read? usock.sockpath = some text)
    (hShort : text.length < 108) :
    Avoids .fault (recordName env p) s := by
  have hName : unixGetsockname env.name.junk p sockaddrMaxSize
      s = .ok (addressOf env.name.junk text, s) := by
    unfold unixGetsockname
    rw [run_bind_ok (derefSocket_run hUnix.socket),
      run_bind_ok (derefUnix_run hUnix)]
    exact nameOf_run hText hShort s
  have hAsk : getsockname env.name lsd.fd sockaddrMaxSize s =
      .ok (some (addressOf env.name.junk text,
        sockaddrMaxSize), s) := by
    apply (prologue_run hLeads hUnix.socket hInterface _).trans
    rw [Process.check_unix hUnix.socket hInterface,
      if_pos (by decide)]
    unfold interfaceGetsockname
    dsimp only
    rw [run_bind_ok hName, length_addressOf hShort]
    rfl
  unfold recordName
  rw [avoids_bind_ok (derefSocket_run hUnix.socket),
    avoids_bind_ok hAsk]
  dsimp only
  rw [if_pos (Nat.le_refl _)]
  exact avoids_of_ok (modifySocket_run hUnix.socket)

/- `bind` of a Unix socket to a name that is short enough. -/
theorem avoids_bind_unix
    {env : BindEnv}
    {fd : Fd}
    {p : Ptr}
    {d : LsckSocket}
    {usock : LsckSocketUnix}
    {addr name : Bytes}
    {addrlen : Nat}
    {s : Process}
    (hForm : WellFormed none s)
    (hLeads : s.LeadsTo fd p)
    (hUnix : s.HasUnix p d usock)
    (hInterface : d.interface = some .unix)
    (hFd : d.fd = fd)
    (hSize : usock.sockpath.length = sockaddrMaxSize)
    (hName : CString.read? (addr.drop 2) = some name)
    (hShort : name.length < 108)
    (hFits : NameFits env.unixEnv.cwd name) :
    Avoids .fault (bind env fd (some addr) addrlen) s := by
  have hKind : interfaceOf d s = .ok (.unix, s) := by
    unfold interfaceOf
    rw [hInterface]
    rfl
  unfold bind
  rw [avoids_bind_ok
    (enter_run hLeads hUnix.socket hInterface _)]
  dsimp only
  rw [Process.check_unix hUnix.socket hInterface,
    avoids_bind_ok (derefSocket_run hUnix.socket),
    avoids_bind_ok hKind]
  unfold refuseOr
  cases bindRefusal d (some addr) with
  | some e => exact avoids_fail _ _
  | none =>
      dsimp only
      apply Avoids.bind
      · exact (avoids_unixBind_iff hUnix hSize hName
          hShort).mpr fun _ => hFits
      intro ret t hBind
      have hStill := still_unixBind _ _ _ _ _ _ _ hBind
      apply Avoids.ite
      · rintro rfl
        rcases unixBind_reads hBind hName with
          ⟨m, lsd, usock', fdR, hBefore, hAfter, hPath, -⟩
        rcases hUnix.unique hBefore with ⟨rfl, rfl⟩
        have hEntry : t.LeadsTo lsd.fd p := by
          rw [hFd]
          unfold Process.LeadsTo
          rw [hStill.entry hForm.fds fd (.inl hLeads.1)]
          exact hLeads
        apply Avoids.bind
        · exact avoids_recordName hAfter hInterface hEntry
            hPath hShort
        · exact fun _ _ _ => avoids_pure _
      · intro _
        rcases hStill.socket hUnix.socket with ⟨d', hD, -⟩
        apply Avoids.bind
        · exact avoids_of_ok (modifySocket_run hD)
        · exact fun _ _ _ => avoids_pure _

/- A name that the code makes up is short. -/
theorem length_clientPath (n : Fin 2147483648) :
    (clientPath n).length = 25 := by
  rw [clientPath, List.length_append, hex8, length_hexDigits]
  rfl

------------------------------------------------------------
-- Sockets In Use
------------------------------------------------------------

/-
  What the library keeps of a Unix socket: its arrays have
  their sizes, and both copies of the name of a bound one
  are strings.
-/
structure Process.Tidy
    (s : Process)
    (p : Ptr)
    (d : LsckSocket)
    (usock : LsckSocketUnix) : Prop where
  unix : s.HasUnix p d usock
  sockpath : usock.sockpath.length = sockaddrMaxSize
  peerpath : usock.peerpath.length = sockaddrMaxSize
  sockname : d.sockname.length = sockaddrMaxSize
  named : d.bound = true → ∃ name,
    CString.read? usock.sockpath = some name ∧
      name.length < 108
  source : d.bound = true → ∃ name,
    CString.read? (d.sockname.drop 2) = some name ∧
      name.length < 108
  file : s.FileOk usock.fdR

/- The socket is bound, and reads from a mailslot if new. -/
structure Process.BoundHere
    (s : Process)
    (p : Ptr)
    (d d' : LsckSocket)
    (usock' : LsckSocketUnix) : Prop where
  tidy : s.Tidy p d' usock'
  bound : d'.bound = true
  data : d'.idata = d.idata
  reads : d.bound = false → ∃ m, s.ReadsFrom usock'.fdR m

section BindHere

variable {env : BindEnv} {p : Ptr} {d : LsckSocket}
variable {usock : LsckSocketUnix} {s : Process}

theorem avoids_bindHere
    (hForm : WellFormed none s)
    (hTidy : s.Tidy p d usock)
    (n : Fin 2147483648) :
    Avoids .fault (bindHere env n d) s := by
  have hSocket := hTidy.unix.socket
  rcases hTidy.unix.data with ⟨q, hQ, hData⟩
  have hLength := length_clientPath n
  have hAbsolute := isAbsolute_clientPath n
  unfold bindHere
  apply Avoids.ite
  · exact fun _ => avoids_pure _
  · intro _
    apply avoids_bind_unix hForm (hForm.entry hSocket)
      hTidy.unix (hForm.interface_unix hSocket hQ hData) rfl
      hTidy.sockpath (read?_clientPath n) (by omega)
    constructor
    · intro _
      omega
    · exact fun hNot => absurd hAbsolute hNot

theorem boundHere_of_run
    {n : Fin 2147483648}
    {t : Process}
    {r : Int}
    (hForm : WellFormed none s)
    (hTidy : s.Tidy p d usock)
    (hRun : bindHere env n d s = .ok (r, t))
    (hSuccess : r ≠ -1) :
    ∃ d' usock', t.BoundHere p d d' usock' := by
  have hSocket := hTidy.unix.socket
  rcases hTidy.unix.data with ⟨q, hQ, hData⟩
  unfold bindHere at hRun
  by_cases hBound : d.bound = true
  · rw [if_pos hBound] at hRun
    cases hRun
    refine ⟨d, usock, hTidy, hBound, rfl, fun hNot => ?_⟩
    rw [hBound] at hNot
    cases hNot
  · rw [if_neg hBound] at hRun
    have hLength := length_clientPath n
    rcases bind_unix_ok hForm (hForm.entry hSocket) hSocket
      (hForm.interface_unix hSocket hQ hData) rfl
      (read?_clientPath n) hRun hSuccess with
      ⟨m, usock₀, fdR, b, hBefore, hAfter, hPath, hReads, -,
        hB, hSize⟩
    rcases hTidy.unix.unique hBefore with ⟨-, rfl⟩
    have hOver : overlay d.sockname b = b :=
      overlay_of_length_eq (by rw [hSize, hTidy.sockname])
    refine ⟨d.named b, _, ⟨hAfter, ?_, hTidy.peerpath, ?_, ?_,
      ?_, ?_⟩, rfl, rfl, fun _ => ⟨m, hReads⟩⟩
    · have hRoom : (clientPath n).length <
          usock₀.sockpath.length := by
        rw [hTidy.sockpath]
        unfold sockaddrMaxSize
        omega
      exact (length_copy hRoom).trans hTidy.sockpath
    · unfold LsckSocket.named
      rw [length_overlay, hTidy.sockname]
    · exact fun _ => ⟨_, hPath, by omega⟩
    · intro _
      unfold LsckSocket.named
      rw [hOver]
      exact ⟨_, hB, by omega⟩
    · rcases hReads with ⟨me, hMail, -⟩
      exact hMail.fileOk

end BindHere

/- Other data of the socket may change. -/
theorem Process.BoundHere.congr
    {s t : Process}
    {p : Ptr}
    {d d' : LsckSocket}
    {usock usock' : LsckSocketUnix}
    (hBound : s.BoundHere p d d' usock)
    (hUnix : t.HasUnix p d' usock')
    (hFds : t.fds = s.fds)
    (hPath : usock'.sockpath = usock.sockpath)
    (hPeer : usock'.peerpath = usock.peerpath)
    (hFd : usock'.fdR = usock.fdR) :
    t.BoundHere p d d' usock' := by
  rcases hBound with ⟨hTidy, hIs, hData, hReads⟩
  refine ⟨⟨hUnix, ?_, ?_, hTidy.sockname, ?_, hTidy.source,
    ?_⟩, hIs, hData, ?_⟩
  · rw [hPath]
    exact hTidy.sockpath
  · rw [hPeer]
    exact hTidy.peerpath
  · rw [hPath]
    exact hTidy.named
  · rw [hFd]
    exact hTidy.file.of_fds hFds
  · intro hNew
    rcases hReads hNew with ⟨m, hFrom⟩
    rw [hFd]
    exact ⟨m, hFrom.of_fds hFds⟩

/- Undoing the bind closes the mailslot. -/
theorem avoids_unbindHere
    {env : CloseEnv}
    {p : Ptr}
    {d d' : LsckSocket}
    {usock : LsckSocketUnix}
    {s : Process}
    (hUnix : s.HasUnix p d' usock)
    (hReads : d.bound = false → ∃ m, s.ReadsFrom usock.fdR m) :
    Avoids .fault (unbindHere env (!d.bound) p) s := by
  unfold unbindHere
  apply Avoids.when
  intro hHere
  rcases hReads (by simpa using hHere) with ⟨m, me, hMail, -⟩
  rcases hUnix with ⟨hSocket, q, hQ, hData⟩
  rw [avoids_bind_ok (modifySocket_run hSocket)]
  have hAfter : (s.setBlock p (some (.socket
      { d' with bound := false }))).HasUnix p
        { d' with bound := false } usock := by
    refine ⟨?_, q, hQ, ?_⟩
    · rw [Process.heap_setBlock, Function.update_self]
    · rw [Process.heap_setBlock, Function.update_of_ne
        (socket_ne_unix hSocket hData).symm]
      exact hData
  rw [avoids_bind_ok (derefSocket_run hAfter.socket),
    avoids_bind_ok (derefUnix_run hAfter)]
  apply Avoids.bind
  · exact avoids_closeFd (hMail.of_fds rfl)
  · exact fun _ _ _ => avoids_pure _

------------------------------------------------------------
-- Connecting
------------------------------------------------------------

/- Opening a mailslot leaves the others as they are. -/
theorem Opens.fileOk
    {s t : Process}
    {fd n : Fd}
    {me : MailslotFsext}
    (hOpens : Opens fd s t)
    (hMail : t.HasMailslot fd me)
    (hFile : s.FileOk n) :
    t.FileOk n := by
  by_cases hSame : n = fd
  · subst hSame
    exact hMail.fileOk
  · have hEntry : t.fds n = s.fds n := by
      rcases hOpens.fds with ⟨-, hFds⟩ | ⟨-, -, -, hFds⟩
      · rw [hFds]
      · exact hFds n hSame
    unfold Process.FileOk
    rw [hEntry]
    exact hFile

/- A reply that an accept sends. -/
def ServerWrites (m : Bytes) : Prop :=
  ∃ env p np s t x, unixAccept env p np s = .ok (0, t) ∧
    newMessages s t = [(x, m)]

/- An open reply, among what was read, comes from a server. -/
def FromServer
    (junk : Fin 148 → UInt8)
    (ms : List Bytes) : Prop :=
  (receivedRequest junk ms).header.type = unixMsgServerOpen →
    ∃ m more, ms = m :: more ∧ ServerWrites m

/- The path of a new mailslot has been measured by its run. -/
theorem slotPath_fits
    {env : UnixAcceptEnv}
    {lsd : LsckSocket}
    {np : Ptr}
    {data : Option Ptr}
    {req : UnixMsgOpen}
    {server : Bytes}
    {s t : Process}
    (hRun : unixAcceptRequest env lsd np data req s =
      .ok (0, t))
    (hServer : CString.read? (lsd.sockname.drop 2) =
      some server) :
    (slotPath server env.slotRandom).length < maxPath := by
  rcases ite_return_ok hRun (by decide) with ⟨-, hBody⟩
  rcases bind_eq_ok.mp hBody with ⟨server', s₁, hSun, hNamed⟩
  rcases readString_ok hSun with ⟨rfl, hServer'⟩
  cases hServer.symm.trans hServer'
  rcases bind_eq_ok.mp hNamed with ⟨path, s₂, hFits, -⟩
  exact (fits_ok hFits).2.2

/- So the path of a reply is short. -/
theorem FromServer.path
    {junk : Fin 148 → UInt8}
    {ms : List Bytes}
    (hFrom : FromServer junk ms)
    (hType : (receivedRequest junk ms).header.type =
      unixMsgServerOpen) :
    ∃ path, CString.read? (receivedRequest junk ms).path =
      some path ∧ path.length < maxPath := by
  rcases hFrom hType with
    ⟨m, more, rfl, env, p, np, s, t, x, hRun, hSent⟩
  rcases unixAccept_stages hRun with ⟨taken, hStages⟩
  rcases hStages.answers with
    ⟨lsd, server, client, mR, mW, nsd, fdR, fdW, req, -, hLsd,
      hServer, -, -, -, -, hLess, hAdds, -⟩
  rw [newMessages_of_append hAdds] at hSent
  cases hSent
  rw [path_received (acceptAnswer_path hLess)]
  refine ⟨_, read?_acceptAnswer
    (CString.isText_of_read? hServer) req, ?_⟩
  rcases hStages with
    ⟨lsd', usock, q, t₁, t₂, t₃, t₄, hLsd', -, -, -, -, -,
      hAnswer⟩
  cases hLsd.symm.trans hLsd'
  exact slotPath_fits hAnswer hServer

/- The request holds the prefix and any name. -/
theorem avoids_unixConnectRequest
    {env : UnixConnectEnv}
    {p : Ptr}
    {d d' : LsckSocket}
    {usock : LsckSocketUnix}
    {s : Process}
    (hBound : s.BoundHere p d d' usock) :
    Avoids .fault (unixConnectRequest env d.idata) s := by
  rcases hBound.tidy.named hBound.bound with
    ⟨name, hName, hShort⟩
  rcases hBound.tidy.unix.data with ⟨q, hQ, hData⟩
  have hFront := length_unixLocalPath
  have hRoom : (unixLocalPath ++ name).length <
      (List.replicate openPathSize (0 : UInt8)).length := by
    rw [List.length_append, List.length_replicate]
    unfold openPathSize
    omega
  unfold unixConnectRequest
  rw [← hBound.data, avoids_bind_ok (run_get s),
    avoids_bind_ok (derefUnix_run hBound.tidy.unix),
    avoids_bind_ok (readString_run hName s),
    avoids_bind_ok (copyInto_run hRoom s), hQ,
    avoids_bind_ok (modifyUnix_run hData _)]
  exact avoids_pure _

theorem boundHere_request
    {env : UnixConnectEnv}
    {p : Ptr}
    {d d' : LsckSocket}
    {usock : LsckSocketUnix}
    {req : UnixMsgOpen}
    {s t : Process}
    (hBound : s.BoundHere p d d' usock)
    (hRun : unixConnectRequest env d.idata s = .ok (req, t)) :
    t.fds = s.fds ∧ ∃ usock', t.BoundHere p d d' usock' := by
  rw [← hBound.data] at hRun
  rcases unixConnectRequest_hasUnix hBound.tidy.unix hRun with
    ⟨hUnix, ⟨block, q, rfl⟩, -⟩
  exact ⟨rfl, _, hBound.congr hUnix rfl rfl rfl rfl⟩

theorem avoids_exchange
    {env : UnixConnectEnv}
    {p : Ptr}
    {d d' : LsckSocket}
    {usock : LsckSocketUnix}
    {req : UnixMsgOpen}
    {fd : Fd}
    {s : Process}
    (hBound : s.BoundHere p d d' usock)
    (hFile : s.FileOk fd) :
    Avoids .fault (unixConnectExchange env d.idata fd req)
      s := by
  unfold unixConnectExchange
  apply Avoids.bind (avoids_writeFd hFile)
  intro ret t hWrite
  have hLocal := local_writeFd (fun _ => False) env.write fd
    req.encode s ret t hWrite
  have hHeap : t.heap = s.heap := by
    funext r
    exact hLocal.heap r id
  have hUnix := hBound.tidy.unix.of_heap hHeap
  apply Avoids.ite
  · exact fun _ => avoids_pure _
  · intro _
    rw [← hBound.data, avoids_bind_ok (derefUnix_run hUnix)]
    exact avoids_readFd (hBound.tidy.file.of_fds hLocal.fds)

/- What the exchange leaves alone. -/
theorem fds_exchange
    {env : UnixConnectEnv}
    {data : Option Ptr}
    {fd : Fd}
    {req : UnixMsgOpen}
    {taken : Option (List Bytes)}
    {s s' : Process}
    (hRun : unixConnectExchange env data fd req s =
      .ok (taken, s')) :
    s'.fds = s.fds := by
  rcases bind_eq_ok.mp hRun with ⟨ret, t, hWrite, hTail⟩
  have hFds := (local_writeFd (fun _ => False) env.write fd _ s
    ret t hWrite).fds
  by_cases hRet : ret = -1
  · rw [if_pos hRet] at hTail
    cases hTail
    exact hFds
  · rw [if_neg hRet] at hTail
    rcases bind_eq_ok.mp hTail with ⟨usock, u, hData, hRead⟩
    rcases derefUnix_ok hData with ⟨rfl, -⟩
    exact (local_readFd (fun _ => False) env.read usock.fdR u
      taken s' hRead).fds.trans hFds

/- A reply of a server of this code is taken in safely. -/
theorem avoids_unixConnectReply
    {env : UnixConnectEnv}
    {p : Ptr}
    {d d' : LsckSocket}
    {usock : LsckSocketUnix}
    {fd : Fd}
    {rep : UnixMsgOpen}
    {s : Process}
    (hBound : s.BoundHere p d d' usock)
    (hReply : rep.header.type = unixMsgServerOpen →
      ∃ path, CString.read? rep.path = some path ∧
        path.length < maxPath) :
    Avoids .fault
      (unixConnectReply env p d.idata (!d.bound) fd rep) s := by
  have hUnix := hBound.tidy.unix
  unfold unixConnectReply
  rw [← hBound.data, avoids_bind_ok (derefUnix_run hUnix)]
  apply Avoids.ite
  · intro _
    apply Avoids.bind (avoids_unbindHere hUnix hBound.reads)
    exact fun _ _ _ => avoids_fail _ _
  intro hSame
  rcases hReply (not_not.mp (not_or.mp hSame).2) with
    ⟨path, hPath, hShort⟩
  rw [avoids_bind_ok (readString_run hPath s)]
  apply Avoids.bind
  · exact avoids_openFile.mpr (openFits_of_length hShort _)
  intro fdW t hOpen
  have hOpened := hUnix.of_heap (openFile_ok hOpen).heap
  have hReads : d.bound = false →
      ∃ m, t.ReadsFrom usock.fdR m := by
    intro hNew
    rcases hBound.reads hNew with ⟨m, hFrom⟩
    exact ⟨m, (steady_openFile _ _ _ _ _ _
      hOpen).readsFrom hFrom⟩
  rcases hOpened.data with ⟨q, hQ, hData⟩
  have hStore : modifyUnix d'.idata
      (fun usock => { usock with fdW := fdW }) t = .ok ((),
        t.setBlock q (some (.unix
          { usock with fdW := fdW }))) := by
    rw [hQ]
    exact modifyUnix_run hData _
  have hNew := (modifyUnix_hasUnix hOpened hStore).1
  rw [avoids_bind_ok hStore]
  have hUndo : Avoids .fault (unbindHere env.close (!d.bound) p)
      (t.setBlock q (some (.unix
        { usock with fdW := fdW }))) := by
    apply avoids_unbindHere hNew
    intro hFresh
    rcases hReads hFresh with ⟨m, hFrom⟩
    exact ⟨m, hFrom.of_fds rfl⟩
  apply Avoids.ite
  · intro _
    apply Avoids.bind hUndo
    exact fun _ _ _ => avoids_pure _
  intro _
  cases hPrefix : afterPrefix unixLocalPath path with
  | none =>
      apply Avoids.bind hUndo
      exact fun _ _ _ => avoids_fail _ _
  | some peer =>
      have hLength := congrArg List.length
        (afterPrefix_eq_some hPrefix)
      rw [List.length_append] at hLength
      have hRoom : peer.length < usock.peerpath.length := by
        rw [hBound.tidy.peerpath]
        unfold sockaddrMaxSize
        unfold maxPath at hShort
        omega
      dsimp only
      unfold setPeerpath
      rcases hNew.data with ⟨q', hQ', hData'⟩
      apply Avoids.bind
      · rw [avoids_bind_ok (derefUnix_run hNew),
          avoids_bind_ok (copyInto_run hRoom _), hQ']
        exact avoids_of_ok (modifyUnix_run hData' _)
      · exact fun _ _ _ => avoids_pure _

/-
  A connect is defined exactly when the name of the server
  is short enough for its path.
-/
theorem avoids_unixConnect_iff
    {env : UnixConnectEnv}
    {p : Ptr}
    {serv server : Bytes}
    {d : LsckSocket}
    {usock : LsckSocketUnix}
    {s : Process}
    (hForm : WellFormed none s)
    (hTidy : s.Tidy p d usock)
    (hServer : CString.read? (serv.drop 2) = some server)
    (hReply : ∀ req ms,
      answer (connectTakes env p serv) s = some (req, some ms) →
        FromServer env.repJunk ms) :
    Avoids .fault (unixConnect env p serv) s ↔
      server.length ≤ 60 := by
  have hFront := length_unixLocalPath
  rcases hTidy.unix with ⟨hSocket, q, hQ, hData⟩
  have hClear : modifyUnix d.idata (fun usock =>
      { usock with
        peerpath := List.replicate sockaddrMaxSize 0 }) s =
      .ok ((), s.setBlock q (some (.unix { usock with
        peerpath := List.replicate sockaddrMaxSize 0 }))) := by
    rw [hQ]
    exact modifyUnix_run hData _
  have hCleared := (modifyUnix_hasUnix hTidy.unix hClear).1
  generalize hT₀ : s.setBlock q (some (.unix { usock with
    peerpath := List.replicate sockaddrMaxSize 0 })) = t₀
    at hClear hCleared
  have hFds₀ : t₀.fds = s.fds := by
    rw [← hT₀]
    rfl
  have hForm₀ := hForm.still
    (StillCmd.modifyUnix _ _ _ _ _ hClear)
  unfold unixConnect sunPath
  rw [avoids_bind_ok (derefSocket_run hSocket),
    avoids_bind_ok hClear,
    avoids_bind_ok (readString_run hServer t₀), avoids_bind,
    avoids_fits, List.length_append]
  have hLength : unixLocalPath.length + server.length <
      maxPath ↔ server.length ≤ 60 := by
    unfold maxPath
    omega
  rw [hLength]
  constructor
  · exact And.left
  intro hFits
  constructor
  · exact hFits
  intro path t' hPath
  rcases fits_ok hPath with ⟨rfl, rfl, hRoom⟩
  apply Avoids.bind
  · exact avoids_openFile.mpr (openFits_of_length hRoom _)
  intro fd t₁ hOpen
  apply Avoids.ite
  · exact fun _ => avoids_pure _
  intro hFd
  rcases openFile_writesTo hOpen hFd with ⟨m, -, hWrites⟩
  have hOpened := hWrites
  rcases hOpened with ⟨me, -, hMail, -⟩
  have hForm₁ := hForm₀.still
    (still_openFile _ _ _ _ _ _ hOpen)
  have hUnix₁ := hCleared.of_heap (openFile_ok hOpen).heap
  have hTidy₁ : t₁.Tidy p d { usock with
      peerpath := List.replicate sockaddrMaxSize 0 } := by
    refine ⟨hUnix₁, hTidy.sockpath, List.length_replicate,
      hTidy.sockname, hTidy.named, hTidy.source, ?_⟩
    exact (openFile_ok hOpen).fileOk hMail
      (hTidy.file.of_fds hFds₀)
  apply Avoids.bind (avoids_bindHere hForm₁ hTidy₁ _)
  intro ret t₂ hBind
  apply Avoids.ite
  · exact fun _ => avoids_pure _
  intro hRet
  rcases boundHere_of_run hForm₁ hTidy₁ hBind hRet with
    ⟨d₂, usock₂, hBound₂⟩
  have hWrites₂ := (steady_bindHere _ _ _ _ _ _
    hBind).writesTo hWrites
  apply Avoids.bind (avoids_unixConnectRequest hBound₂)
  intro req t₃ hReq
  rcases boundHere_request hBound₂ hReq with
    ⟨hFds₃, usock₃, hBound₃⟩
  rcases hWrites₂.of_fds hFds₃ with ⟨me₃, -, hMail₃, -⟩
  apply Avoids.bind (avoids_exchange hBound₃ hMail₃.fileOk)
  intro taken t₄ hTaken
  have hBound₄ := hBound₃.congr
    (hBound₃.tidy.unix.of_heap (heap_exchange hTaken))
    (fds_exchange hTaken) rfl rfl rfl
  cases taken with
  | none =>
      apply Avoids.bind
      · exact avoids_unbindHere hBound₄.tidy.unix
          hBound₄.reads
      · exact fun _ _ _ => avoids_fail _ _
  | some ms =>
      apply avoids_unixConnectReply hBound₄
      exact (hReply req ms (answer_of_run (connectTakes_run
        hSocket hServer hClear hOpen hBind hReq hTaken))).path

end Libsocket
