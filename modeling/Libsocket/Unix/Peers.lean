import Libsocket.Core.Fresh
import Libsocket.Unix.Pair

/-
  What the two ends of a stream connection report as their
  own name and as that of their peer.

  Main declarations:
    * `ReportsSock`, `ReportsPeer`
    * `Established`
    * `NamesLineUp`
    * `names_line_up_iff`
-/

namespace Libsocket

open Command

------------------------------------------------------------
-- Reports
------------------------------------------------------------

/- An address is not longer than what is asked for. -/
theorem take_addressOf
    {text : Bytes}
    (hFits : text.length < 108)
    (junk : SunJunk) :
    (addressOf junk text).take sockaddrMaxSize =
      addressOf junk text :=
  List.take_of_length_le (Nat.le_of_eq (length_addressOf hFits))

/- A path that fits is named. -/
theorem nameOf_run
    {junk : SunJunk}
    {path text : Bytes}
    (hRead : CString.read? path = some text)
    (hFits : text.length < 108)
    (s : Process) :
    nameOf junk path sockaddrMaxSize s =
      .ok (addressOf junk text, s) := by
  have hText : readString path s = .ok (text, s) := by
    unfold readString
    rw [hRead]
    rfl
  have hCopy : copyInto (List.ofFn junk) text s =
      .ok (CString.store text ++
        (List.ofFn junk).drop (text.length + 1), s) := by
    unfold copyInto
    rw [if_pos (by rw [List.length_ofFn]; exact hFits)]
    rfl
  unfold nameOf
  rw [run_bind_ok hText, run_bind_ok hCopy]
  change Except.ok ((addressOf junk text).take sockaddrMaxSize,
    s) = _
  rw [take_addressOf hFits]

/- An end reports its own name. -/
theorem getsockname_run
    {s : Process}
    {fd : Fd}
    {p : Ptr}
    {own peer : Bytes}
    (hForm : WellFormed none s)
    (hNames : s.Names fd p own peer)
    (hFits : own.length < 108)
    (env : NameEnv) :
    getsockname env fd sockaddrMaxSize s =
      .ok (some (addressOf env.junk own, sockaddrMaxSize),
        s) := by
  have hLeads := hNames.leadsTo hForm
  rcases hNames with
    ⟨d, usock, hUnix, -, hI, -, hOwn, -⟩
  have hName : unixGetsockname env.junk p sockaddrMaxSize s =
      .ok (addressOf env.junk own, s) := by
    unfold unixGetsockname
    rw [run_bind_ok (derefSocket_run hUnix.socket),
      run_bind_ok (derefUnix_run hUnix)]
    exact nameOf_run hOwn hFits s
  have hAsk : interfaceGetsockname .unix env p sockaddrMaxSize
      s = .ok (some (addressOf env.junk own,
        sockaddrMaxSize), s) := by
    unfold interfaceGetsockname
    dsimp only
    rw [run_bind_ok hName, length_addressOf hFits]
    rfl
  apply (prologue_run hLeads hUnix.socket hI _).trans
  rw [Process.check_unix hUnix.socket hI,
    if_pos (by decide)]
  exact hAsk

/- A connected end reports the name of its peer. -/
theorem getpeername_run
    {s : Process}
    {fd : Fd}
    {p : Ptr}
    {own peer : Bytes}
    (hForm : WellFormed none s)
    (hNames : s.Names fd p own peer)
    (hFits : peer.length < 108)
    (env : NameEnv) :
    getpeername env fd sockaddrMaxSize s =
      .ok (some (addressOf env.junk peer, sockaddrMaxSize),
        s) := by
  have hLeads := hNames.leadsTo hForm
  rcases hNames with
    ⟨d, usock, hUnix, -, hI, hConnected, -, hPeer⟩
  have hName : unixGetpeername env.junk p sockaddrMaxSize s =
      .ok (addressOf env.junk peer, s) := by
    unfold unixGetpeername
    rw [run_bind_ok (derefSocket_run hUnix.socket),
      run_bind_ok (derefUnix_run hUnix)]
    exact nameOf_run hPeer hFits s
  have hAsk : interfaceGetpeername .unix env p sockaddrMaxSize
      s = .ok (some (addressOf env.junk peer,
        sockaddrMaxSize), s) := by
    unfold interfaceGetpeername
    dsimp only
    rw [run_bind_ok hName, length_addressOf hFits]
    rfl
  apply (prologue_run hLeads hUnix.socket hI _).trans
  rw [Process.check_unix hUnix.socket hI,
    LsckSocket.checked_unix hI, hConnected,
    if_neg (by simp), if_pos (by decide)]
  exact hAsk

/- `getsockname` succeeds and returns the path. -/
def ReportsSock
    (s : Process)
    (fd : Fd)
    (path : Bytes) : Prop :=
  ∀ env, ∃ b s',
    getsockname env fd sockaddrMaxSize s =
      .ok (some (b, sockaddrMaxSize), s') ∧
    CString.read? (b.drop 2) = some path

/- `getpeername` succeeds and returns the path. -/
def ReportsPeer
    (s : Process)
    (fd : Fd)
    (path : Bytes) : Prop :=
  ∀ env, ∃ b s',
    getpeername env fd sockaddrMaxSize s =
      .ok (some (b, sockaddrMaxSize), s') ∧
    CString.read? (b.drop 2) = some path

theorem Process.Names.reportsSock
    {s : Process}
    {fd : Fd}
    {p : Ptr}
    {own peer : Bytes}
    (hNames : s.Names fd p own peer)
    (hForm : WellFormed none s)
    (hFits : own.length < 108) :
    ReportsSock s fd own := by
  intro env
  have hRun := getsockname_run hForm hNames hFits env
  rcases hNames with ⟨d, usock, -, -, -, -, hOwn, -⟩
  have hText := CString.isText_of_read? hOwn
  exact ⟨_, _, hRun, read?_addressOf hText _⟩

theorem Process.Names.reportsPeer
    {s : Process}
    {fd : Fd}
    {p : Ptr}
    {own peer : Bytes}
    (hNames : s.Names fd p own peer)
    (hForm : WellFormed none s)
    (hFits : peer.length < 108) :
    ReportsPeer s fd peer := by
  intro env
  have hRun := getpeername_run hForm hNames hFits env
  rcases hNames with ⟨d, usock, -, -, -, -, -, hPeer⟩
  have hText := CString.isText_of_read? hPeer
  exact ⟨_, _, hRun, read?_addressOf hText _⟩

/- What a connected Unix socket reports as its peer. -/
theorem reportsPeer_data
    {s : Process}
    {fd : Fd}
    {p : Ptr}
    {d : LsckSocket}
    {usock : LsckSocketUnix}
    {path : Bytes}
    (hLeads : s.LeadsTo fd p)
    (hUnix : s.HasUnix p d usock)
    (hInterface : d.interface = some .unix)
    (hConnected : d.connected = true)
    (hReports : ReportsPeer s fd path) :
    CString.read? usock.peerpath = some path := by
  rcases hReports ⟨true, fun _ => 0, 0, 0, 0, 0, []⟩ with
    ⟨b, s', hRun, hPath⟩
  rcases getpeername_unix hLeads hUnix hInterface hConnected
    hRun with ⟨-, text, hText, hFits, hName⟩
  rw [take_addressOf hFits, Option.some.injEq, Prod.mk.injEq]
    at hName
  rw [hName.1, read?_addressOf (CString.isText_of_read? hText)]
    at hPath
  cases hPath
  exact hText

------------------------------------------------------------
-- Connections
------------------------------------------------------------

/- A process and a descriptor number of it. -/
structure End where
  process : Process
  fd : Fd

/-
  A stream has connected to an address: the request that it
  has built, and the messages that it has read for a reply.
-/
def ClientConnects
    (serv : Bytes)
    (req : UnixMsgOpen)
    (ms : List Bytes)
    (s : Process)
    (e : End) : Prop :=
  WellFormed none s ∧ ∃ env p d addrlen t,
    s.LeadsTo e.fd p ∧ s.heap p = some (.socket d) ∧
    d.interface = some .unix ∧ d.type = sockStream ∧
    connect env e.fd (some serv) addrlen s =
      .ok (0, e.process) ∧
    ConnectStages env.unixEnv p serv req ms s t

/-
  A listener that is bound to an absolute name has accepted
  a connection, with the messages that it has read for a
  request.
-/
def ServerAccepts
    (name m : Bytes)
    (ms : List Bytes)
    (s : Process)
    (e : End) : Prop :=
  WellFormed none s ∧ ∃ env fd p d slot np t,
    s.LeadsTo fd p ∧ s.heap p = some (.socket d) ∧
    d.interface = some .unix ∧
    s.BoundAbsolutely p name m ∧
    accept env fd true true s = .ok (e.fd, e.process) ∧
    e.fd ≠ -1 ∧
    Reserved env.number env.memory s e.fd slot np ∧
    AcceptStages env.unixEnv p np ms
      (s.withSocket slot np (acceptedCopy d e.fd)) t

/- How a connection was made. -/
inductive Making
  | handshake (serv : Bytes)
  | socketpair

/-
  A stream connection and its two ends, the connecting one
  first. In a handshake the client's request has reached the
  listener's mailslot, the listener has read it, and the
  client has read the listener's reply.
-/
inductive Established : Making → End → End → Prop
  | handshake
      {serv name m m' rep : Bytes}
      {req : UnixMsgOpen}
      {more more' : List Bytes}
      {s s' : Process}
      {e e' : End}
      (client : ClientConnects serv req (rep :: more) s e)
      (server :
        ServerAccepts name m (req.encode :: more') s' e')
      (asked : (m, req.encode) ∈ newMessages s e.process)
      (answered : (m', rep) ∈ newMessages s' e'.process) :
      Established (.handshake serv) e e'
  | socketpair
      {env : SocketpairEnv}
      {domain protocol : Int}
      {s : Process}
      {e e' : End}
      (same : e'.process = e.process)
      (made : PairMade env domain protocol e.fd e'.fd s
        e.process) :
      Established .socketpair e e'

/- One end calls its peer by the other end's name. -/
def End.Knows (e e' : End) : Prop :=
  ∃ path, ReportsPeer e.process e.fd path ∧
    ReportsSock e'.process e'.fd path

/-
  Each end knows the other by its name, and the connecting
  end by the address that was passed to `connect`.
-/
def NamesLineUp (made : Making) (e e' : End) : Prop :=
  e.Knows e' ∧ e'.Knows e ∧
    ∀ serv, made = .handshake serv → ∃ path,
      CString.read? (serv.drop 2) = some path ∧
      ReportsPeer e.process e.fd path

------------------------------------------------------------
-- The Client
------------------------------------------------------------

/- The rest of a text is text. -/
theorem isText_after
    {front rest : Bytes}
    (hText : CString.IsText (front ++ rest)) :
    CString.IsText rest := by
  intro b hB
  exact hText b (List.mem_append_right front hB)

/- Changing a Unix socket leaves its data alone. -/
theorem Process.HasUnix.modifySocket
    {s s' : Process}
    {p : Ptr}
    {d : LsckSocket}
    {usock : LsckSocketUnix}
    {f : LsckSocket → LsckSocket}
    (hUnix : s.HasUnix p d usock)
    (hRun : modifySocket p f s = .ok ((), s'))
    (hIdata : (f d).idata = d.idata) :
    s'.sent = s.sent ∧ s'.HasUnix p (f d) usock := by
  rcases hUnix with ⟨hSocket, q, hQ, hData⟩
  rcases modifySocket_ok hRun with ⟨d', hSocket', rfl⟩
  rw [hSocket] at hSocket'
  cases hSocket'
  refine ⟨rfl, ?_, q, hIdata.trans hQ, ?_⟩
  · rw [Process.heap_setBlock, Function.update_self]
  · rw [Process.heap_setBlock, Function.update_of_ne
      (socket_ne_unix hSocket hData).symm]
    exact hData

/- A connect that is done keeps the interface's data. -/
theorem connectDone_unix
    {env : ConnectEnv}
    {p : Ptr}
    {serv : Bytes}
    {addrlen : Nat}
    {d : LsckSocket}
    {usock : LsckSocketUnix}
    {s s' : Process}
    {r : Int}
    (hUnix : s.HasUnix p d usock)
    (hRun : connectDone env .unix p serv addrlen s =
      .ok (r, s')) :
    s'.sent = s.sent ∧ ∃ d', s'.HasUnix p d' usock ∧
      d.Keeps d' ∧ d'.connected = true := by
  rcases bind_eq_ok.mp hRun with ⟨_, t, hPeer, hTail⟩
  unfold setPeername at hPeer
  split at hPeer
  case isFalse => cases hPeer
  rcases hUnix.modifySocket hPeer rfl with ⟨hSentT, hUnixT⟩
  rcases bind_eq_ok.mp hTail with ⟨_, u, hName, hMarked⟩
  rw [when, if_pos (by decide)] at hName
  rcases bind_eq_ok.mp hName with ⟨x, t', hAsk, hStore⟩
  rcases bind_eq_ok.mp hAsk with ⟨b, t'', hReport, hPure⟩
  cases hPure
  rcases unixGetsockname_ok hReport with ⟨rfl, -⟩
  dsimp only at hStore
  split at hStore
  case isFalse => cases hStore
  rcases hUnixT.modifySocket hStore rfl with ⟨hSentU, hUnixU⟩
  rcases bind_eq_ok.mp hMarked with ⟨_, v, hMark, hPure⟩
  cases hPure
  rcases hUnixU.modifySocket hMark rfl with ⟨hSentV, hUnixV⟩
  refine ⟨hSentV.trans (hSentU.trans hSentT), _, hUnixV, ?_, ?_⟩
  · exact ⟨rfl, rfl, rfl, rfl, rfl⟩
  · rfl

/- A connect of a Unix stream that succeeds is done. -/
theorem connect_unix_ok
    {env : ConnectEnv}
    {fd : Fd}
    {p : Ptr}
    {d : LsckSocket}
    {serv : Bytes}
    {addrlen : Nat}
    {s s' : Process}
    (hLeads : s.LeadsTo fd p)
    (hSocket : s.heap p = some (.socket d))
    (hInterface : d.interface = some .unix)
    (hType : d.type = sockStream)
    (hRun : connect env fd (some serv) addrlen s =
      .ok (0, s')) :
    ∃ t, unixConnect env.unixEnv p serv s = .ok (0, t) ∧
      connectDone env .unix p serv addrlen t = .ok (0, s') := by
  rcases prologue_ok hRun with ⟨hFail, -, -⟩ |
    ⟨q, d', i, hLeads', hSocket', hI, hTail⟩
  · cases hFail
  cases hLeads.2.symm.trans hLeads'.2
  cases hSocket.symm.trans hSocket'
  cases hInterface.symm.trans hI
  rw [Process.check_unix hSocket hInterface,
    LsckSocket.checked_unix hInterface] at hTail
  cases hRefusal : connectRefusal d (some serv) addrlen with
  | some e =>
      rw [hRefusal] at hTail
      cases hTail
  | none =>
      rw [hRefusal, refuseOr, hType, if_neg (by decide)]
        at hTail
      cases hAddress : connectAddressRefusal d (some serv) with
      | some e =>
          rw [hAddress] at hTail
          cases hTail
      | none =>
          rw [hAddress, refuseOr] at hTail
          rcases bind_eq_ok.mp hTail with
            ⟨ret, t, hConnect, hRest⟩
          rw [run_bind_ok (run_get t)] at hRest
          rcases bind_eq_ok.mp hRest with ⟨c, u, hRead, hEnd⟩
          rcases derefSocket_ok hRead with ⟨rfl, -⟩
          by_cases hRet : ret = 0
          · rw [if_pos hRet] at hEnd
            subst hRet
            exact ⟨u, hConnect, hEnd⟩
          rw [if_neg hRet] at hEnd
          split at hEnd
          · cases (connectPending_ok hEnd).1
          · cases (connectFailed_ok hEnd).1

/-
  What a stream that has connected reports as its peer is
  the path of the reply, and its one message is the request.
-/
theorem ClientConnects.reports
    {serv : Bytes}
    {req : UnixMsgOpen}
    {ms : List Bytes}
    {s : Process}
    {e : End}
    (hClient : ClientConnects serv req ms s e) :
    ∃ server m peer junk,
      CString.read? (serv.drop 2) = some server ∧
      sendName (unixLocalPath ++ server) = some m ∧
      newMessages s e.process = [(m, req.encode)] ∧
      CString.read? (receivedRequest junk ms).path =
        some (unixLocalPath ++ peer) ∧
      ∀ path, ReportsPeer e.process e.fd path →
        path = peer := by
  rcases hClient with
    ⟨hForm, env, p, d, addrlen, t, hLeads, hSocket, hI, hType,
      hRun, hStages⟩
  have hForm' := wellFormed_connect hForm hRun
  rcases hForm.socket_of_leadsTo hLeads with ⟨d', hD', hFd⟩
  cases hSocket.symm.trans hD'
  rcases connect_unix_ok hLeads hSocket hI hType hRun with
    ⟨t', hConnect, hDone⟩
  rcases unixConnect_ok hConnect with ⟨req', ms', hStages'⟩
  rcases hStages.unique hStages' with ⟨rfl, rfl, rfl⟩
  have hServer : ∃ server,
      CString.read? (serv.drop 2) = some server := by
    rcases hStages with
      ⟨_, server, _, _, _, _, _, _, _, -, hServer, -⟩
    exact ⟨server, hServer⟩
  rcases hServer with ⟨server, hServer⟩
  rcases hStages.sends hServer with
    ⟨m, sockpath, hSend, hSent, -, -, -⟩
  rcases hForm.hasUnix hSocket hI with ⟨usock, hUnix⟩
  rcases hStages.holds hForm hUnix hI with
    ⟨d₁, usock₁, fdW, peer, rep, rfl, hUnix₁, hKeeps₁, -, -, -,
      hPath⟩
  rcases connectDone_unix hUnix₁ hDone with
    ⟨hSame, d₂, hUnix₂, hKeeps₂, hConnected⟩
  refine ⟨server, m, peer, _, hServer, hSend, ?_, hPath, ?_⟩
  · apply newMessages_of_append
    rw [hSame, hSent]
  · intro path hReports
    have hLeads' := hForm'.entry hUnix₂.socket
    rw [hKeeps₂.fd, hKeeps₁.fd, hFd] at hLeads'
    have hSaid := reportsPeer_data hLeads' hUnix₂
      (hKeeps₂.interface.trans (hKeeps₁.interface.trans hI))
      hConnected hReports
    have hStored : CString.read? ((usock₁.asked req').replied fdW
        peer).peerpath = some peer := by
      apply CString.read?_store
      exact isText_after (CString.isText_of_read? hPath)
    rw [hStored] at hSaid
    exact (Option.some.inj hSaid).symm

------------------------------------------------------------
-- The Listener
------------------------------------------------------------

/- An accept of a Unix listener that succeeds. -/
theorem accept_unix_ok
    {env : AcceptEnv}
    {fd nfd : Fd}
    {p np : Ptr}
    {slot : Nat}
    {d : LsckSocket}
    {s s' : Process}
    (hForm : WellFormed none s)
    (hLeads : s.LeadsTo fd p)
    (hSocket : s.heap p = some (.socket d))
    (hInterface : d.interface = some .unix)
    (hReserved : Reserved env.number env.memory s nfd slot np)
    (hRun : accept env fd true true s = .ok (nfd, s'))
    (hSuccess : nfd ≠ -1) :
    ∃ t, unixAccept env.unixEnv p np
        (s.withSocket slot np (acceptedCopy d nfd)) =
          .ok (0, t) ∧
      modifySocket np (fun nsd =>
        { nsd with accepted := true, connected := true }) t =
        .ok ((), s') := by
  rcases accept_ok hForm.fds hRun with ⟨hFail, -⟩ |
    ⟨p', d', hLeads', hSocket', ⟨hFail, -⟩ |
      ⟨-, i, nfd', slot', np', hI, hReserved', hOn⟩⟩
  · exact absurd hFail hSuccess
  · exact absurd hFail hSuccess
  cases hLeads.2.symm.trans hLeads'.2
  cases hSocket.symm.trans hSocket'
  cases hInterface.symm.trans hI
  rw [Process.check_unix hSocket hInterface,
    LsckSocket.checked_unix hInterface] at hOn
  rw [Process.check_unix hSocket hInterface] at hReserved'
  cases hReserved.number.symm.trans hReserved'.number
  cases hReserved.memory.symm.trans hReserved'.memory
  cases hReserved.slot.symm.trans hReserved'.slot
  rcases bind_eq_ok.mp hOn with ⟨ret, t, hAccept, hTail⟩
  by_cases hRet : ret = 0
  · rw [if_pos hRet] at hTail
    rcases bind_eq_ok.mp hTail with ⟨_, u, hMark, hLast⟩
    rcases bind_eq_ok.mp hLast with ⟨nsd, v, hRead, hPure⟩
    rcases derefSocket_ok hRead with ⟨rfl, -⟩
    cases hPure
    subst hRet
    exact ⟨t, hAccept, hMark⟩
  · rw [if_neg hRet] at hTail
    rcases bind_eq_ok.mp hTail with ⟨_, u, -, hPure⟩
    cases hPure
    exact absurd rfl hSuccess

/-
  A listener that has accepted sends one reply, with the path
  of a new mailslot below its own name.
-/
theorem ServerAccepts.answers
    {name m : Bytes}
    {ms : List Bytes}
    {s : Process}
    {e : End}
    (hServer : ServerAccepts name m ms s e) :
    ∃ mW n, ∃ rep : UnixMsgOpen,
      newMessages s e.process = [(mW, rep.encode)] ∧
      rep.path.length = openPathSize ∧
      CString.read? rep.path = some (slotPath name n) := by
  rcases hServer with
    ⟨hForm, env, fd, p, d, slot, np, t, hLeads, hSocket, hI,
      hBound, hRun, hSuccess, hReserved, hStages⟩
  rcases accept_unix_ok hForm hLeads hSocket hI hReserved hRun
    hSuccess with ⟨t', hAccept, hMark⟩
  rcases unixAccept_stages hAccept with ⟨ms', hStages'⟩
  rcases hStages.unique hStages' with ⟨-, rfl⟩
  rcases hStages.answers with
    ⟨lsd, server, client, mR, mW, nsd, fdR, fdW, req, -, hLsd,
      hName, -, hPath, -, -, hFits, hSent, -, -, -⟩
  cases hLsd.symm.trans (reserved_listener hSocket hReserved).2
  rcases hBound with ⟨-, -, d', usock, hUnix, -, hOwn, -⟩
  cases hSocket.symm.trans hUnix.socket
  cases hName.symm.trans hOwn
  rcases modifySocket_ok hMark with ⟨nd, -, hLast⟩
  refine ⟨mW, env.unixEnv.slotRandom, acceptAnswer env.unixEnv
    req (slotPath name env.unixEnv.slotRandom), ?_,
    acceptAnswer_path hFits, ?_⟩
  · apply newMessages_of_append
    rw [hLast]
    exact hSent
  · exact read?_acceptAnswer (CString.isText_of_read? hName) _

------------------------------------------------------------
-- Which Names Line Up
------------------------------------------------------------

/- A handshake gives the client another name for the server. -/
theorem not_linesUp_handshake
    {serv : Bytes}
    {e e' : End}
    (hMade : Established (.handshake serv) e e') :
    ¬ NamesLineUp (.handshake serv) e e' := by
  rintro ⟨-, -, hAddress⟩
  rcases hAddress serv rfl with ⟨path, hPath, hReports⟩
  cases hMade with
  | @handshake _ name m m' rep req more more' s s' _ _ hClient
      hServer hAsked hAnswered =>
      rcases hClient.reports with
        ⟨server, mC, peer, junk, hServ, hSend, hOut, hRead,
          hKnown⟩
      cases hPath.symm.trans hServ
      rw [hOut] at hAsked
      cases List.mem_singleton.mp hAsked
      rcases hServer.answers with
        ⟨mW, n, rep, hReply, hLength, hSlot⟩
      rw [hReply] at hAnswered
      cases List.mem_singleton.mp hAnswered
      rw [path_received hLength, hSlot, slotPath_eq,
        Option.some.injEq, List.append_cancel_left_eq] at hRead
      -- The two names have one length, the reply's is longer.
      rcases hServer with
        ⟨-, _, _, _, _, _, _, _, -, -, -, hBound, -⟩
      have hMeet := length_eq_of_meet hBound.2.1 hSend
      have hPeer := hKnown path hReports
      have hLonger := length_lt_slotName name n
      rw [hRead, ← hPeer] at hLonger
      omega

/- The ends of a pair know each other. -/
theorem linesUp_socketpair
    {e e' : End}
    (hMade : Established .socketpair e e') :
    NamesLineUp .socketpair e e' := by
  cases hMade with
  | @socketpair env domain protocol s _ _ hSame hPair =>
      rcases hPair.ends with
        ⟨p₀, p₁, hForm, hNames₀, hNames₁⟩
      have hPeer₀ := hNames₀.reportsPeer hForm
        (length_pairPath_lt _)
      have hPeer₁ := hNames₁.reportsPeer hForm
        (length_pairPath_lt _)
      have hSock₀ := hNames₀.reportsSock hForm
        (length_pairPath_lt _)
      have hSock₁ := hNames₁.reportsSock hForm
        (length_pairPath_lt _)
      unfold NamesLineUp End.Knows
      rw [hSame]
      constructor
      · exact ⟨_, hPeer₀, hSock₁⟩
      constructor
      · exact ⟨_, hPeer₁, hSock₀⟩
      · intro serv hServ
        cases hServ

/-
  The names of a stream connection line up if and only if it
  was made by `socketpair`.
-/
theorem names_line_up_iff
    {made : Making}
    {e e' : End}
    (hMade : Established made e e') :
    NamesLineUp made e e' ↔ made = .socketpair := by
  cases made with
  | handshake serv =>
      constructor
      · intro hNames
        exact absurd hNames (not_linesUp_handshake hMade)
      · intro hPair
        cases hPair
  | socketpair =>
      constructor
      · intro _
        rfl
      · intro _
        exact linesUp_socketpair hMade

------------------------------------------------------------
-- What Is Read
------------------------------------------------------------

/- The request that a connect builds and what it reads. -/
def connectTakes
    (env : UnixConnectEnv)
    (p : Ptr)
    (serv : Bytes) :
    Exec (UnixMsgOpen × Option (List Bytes)) := do
  let lsd ← derefSocket p
  modifyUnix lsd.idata fun usock =>
    { usock with
      peerpath := List.replicate sockaddrMaxSize 0 }
  let server ← sunPath serv
  let fd ← openFile env.openCtl (unixLocalPath ++ server)
    .wronly
  let _ ← bindHere env.bind env.nameRandom lsd
  let req ← unixConnectRequest env lsd.idata
  let taken ← unixConnectExchange env lsd.idata fd req
  return (req, taken)

/- What an accept reads. -/
def acceptTakes
    (env : UnixAcceptEnv)
    (p np : Ptr) : Exec (Option (List Bytes)) := do
  let lsd ← derefSocket p
  let nusock ← malloc env.memory (.unix env.content)
  modifySocket np fun nsd => { nsd with idata := nusock }
  modifyUnix nusock fun usock =>
    { usock with
      peerpath := List.replicate sockaddrMaxSize 0 }
  let usock ← deref Block.unix? lsd.idata
  readFd env.read usock.fdR

/- A connect up to the reply, from the parts of its run. -/
theorem connectTakes_run
    {env : UnixConnectEnv}
    {p : Ptr}
    {serv server : Bytes}
    {lsd : LsckSocket}
    {req : UnixMsgOpen}
    {taken : Option (List Bytes)}
    {fd : Fd}
    {ret : Int}
    {s t₀ t₁ t₂ t₃ t₄ : Process}
    (hLsd : s.heap p = some (.socket lsd))
    (hServer : CString.read? (serv.drop 2) = some server)
    (hClear : modifyUnix lsd.idata (fun usock =>
      { usock with
        peerpath := List.replicate sockaddrMaxSize 0 }) s =
      .ok ((), t₀))
    (hOpen : openFile env.openCtl (unixLocalPath ++ server)
      .wronly t₀ = .ok (fd, t₁))
    (hBind : bindHere env.bind env.nameRandom lsd t₁ =
      .ok (ret, t₂))
    (hReq : unixConnectRequest env lsd.idata t₂ =
      .ok (req, t₃))
    (hTaken : unixConnectExchange env lsd.idata fd req t₃ =
      .ok (taken, t₄)) :
    connectTakes env p serv s = .ok ((req, taken), t₄) := by
  have hSun : sunPath serv t₀ = .ok (server, t₀) := by
    unfold sunPath readString
    rw [hServer]
    rfl
  unfold connectTakes
  rw [run_bind_ok (derefSocket_run hLsd), run_bind_ok hClear,
    run_bind_ok hSun, run_bind_ok hOpen, run_bind_ok hBind,
    run_bind_ok hReq, run_bind_ok hTaken]
  rfl

theorem ConnectStages.takes
    {env : UnixConnectEnv}
    {p : Ptr}
    {serv : Bytes}
    {req : UnixMsgOpen}
    {ms : List Bytes}
    {s s' : Process}
    (hStages : ConnectStages env p serv req ms s s') :
    answer (connectTakes env p serv) s =
      some (req, some ms) := by
  rcases hStages with
    ⟨lsd, server, fd, ret, t₀, t₁, t₂, t₃, t₄, hLsd, hServer,
      hClear, hOpen, -, hBind, -, hReq, hTaken, -⟩
  exact answer_of_run (connectTakes_run hLsd hServer hClear
    hOpen hBind hReq hTaken)

theorem AcceptStages.takes
    {env : UnixAcceptEnv}
    {p np : Ptr}
    {ms : List Bytes}
    {s s' : Process}
    (hStages : AcceptStages env p np ms s s') :
    answer (acceptTakes env p np) s = some (some ms) := by
  rcases hStages with
    ⟨lsd, usock, q, t₁, t₂, t₃, t₄, hLsd, hMalloc, hHang,
      hClear, hUsock, hRead, -⟩
  have hRun : acceptTakes env p np s = .ok (some ms, t₄) := by
    unfold acceptTakes
    rw [run_bind_ok (derefSocket_run hLsd),
      run_bind_ok hMalloc, run_bind_ok hHang,
      run_bind_ok hClear, run_bind_ok hUsock]
    exact hRead
  exact answer_of_run hRun

/- A connect that succeeds makes a client. -/
theorem clientConnects_of_run
    {env : ConnectEnv}
    {fd : Fd}
    {p : Ptr}
    {d : LsckSocket}
    {serv : Bytes}
    {addrlen : Nat}
    {req : UnixMsgOpen}
    {ms : List Bytes}
    {s s' : Process}
    (hForm : WellFormed none s)
    (hLeads : s.LeadsTo fd p)
    (hSocket : s.heap p = some (.socket d))
    (hInterface : d.interface = some .unix)
    (hType : d.type = sockStream)
    (hRun : connect env fd (some serv) addrlen s =
      .ok (0, s'))
    (hTakes : answer (connectTakes env.unixEnv p serv) s =
      some (req, some ms)) :
    ClientConnects serv req ms s ⟨s', fd⟩ := by
  rcases connect_unix_ok hLeads hSocket hInterface hType hRun
    with ⟨t, hConnect, -⟩
  rcases unixConnect_ok hConnect with ⟨req', ms', hStages⟩
  cases hTakes.symm.trans hStages.takes
  exact ⟨hForm, env, p, d, addrlen, t, hLeads, hSocket,
    hInterface, hType, hRun, hStages⟩

/- An accept that succeeds makes a server. -/
theorem serverAccepts_of_run
    {env : AcceptEnv}
    {fd nfd : Fd}
    {p np : Ptr}
    {slot : Nat}
    {d : LsckSocket}
    {name m : Bytes}
    {ms : List Bytes}
    {s s' : Process}
    (hForm : WellFormed none s)
    (hLeads : s.LeadsTo fd p)
    (hSocket : s.heap p = some (.socket d))
    (hInterface : d.interface = some .unix)
    (hBound : s.BoundAbsolutely p name m)
    (hReserved : Reserved env.number env.memory s nfd slot np)
    (hRun : accept env fd true true s = .ok (nfd, s'))
    (hSuccess : nfd ≠ -1)
    (hTakes : answer (acceptTakes env.unixEnv p np)
      (s.withSocket slot np (acceptedCopy d nfd)) =
        some (some ms)) :
    ServerAccepts name m ms s ⟨s', nfd⟩ := by
  rcases accept_unix_ok hForm hLeads hSocket hInterface
    hReserved hRun hSuccess with ⟨t, hAccept, -⟩
  rcases unixAccept_stages hAccept with ⟨ms', hStages⟩
  cases hTakes.symm.trans hStages.takes
  exact ⟨hForm, env, fd, p, d, slot, np, t, hLeads, hSocket,
    hInterface, hBound, hRun, hSuccess, hReserved, hStages⟩

------------------------------------------------------------
-- A Pair And A Handshake
------------------------------------------------------------

/- An environment that grants a pair everything. -/
def SocketpairEnv.granting : SocketpairEnv where
  socket₀ := .granting 3 10 11
  socket₁ := .granting 4 20 21
  unixEnv :=
    { name₀ := 0
      name₁ := 1
      bind₀ := ⟨none, ⟨some 5, .zero⟩⟩
      bind₁ := ⟨none, ⟨some 6, .zero⟩⟩
      secret := 7
      seq₀ := 0
      seq₁ := 0
      open₀ := ⟨some 7, .zero⟩
      open₁ := ⟨some 8, .zero⟩ }
  close₀ := .leaf
  close₁ := .leaf
  sockname₀ := .granting
  peername₀ := .granting
  sockname₁ := .granting
  peername₁ := .granting

/- The state with a pair of Unix streams. -/
def pairedProcess : Process :=
  after (socketpair .granting afUnix sockStream 0) bareProcess

/- The pair is granted. -/
theorem pair_made :
    PairMade .granting afUnix 0 3 4 bareProcess
      pairedProcess := by
  have hRun : socketpair .granting afUnix sockStream 0
      bareProcess = .ok (0, pairedProcess) :=
    run_after (by decide +kernel)
  have hBoth : ∃ u, (do
      let fd₀ ← socketx (.granting 3 10 11) afUnix sockStream 0
        (some .unix)
      let fd₁ ← socketx (.granting 4 20 21) afUnix sockStream 0
        (some .unix)
      return (fd₀, fd₁) : Exec (Fd × Fd)) bareProcess =
        .ok ((3, 4), u) :=
    exists_run_of_answer (by decide +kernel)
  rcases hBoth with ⟨u, hBoth⟩
  rcases bind_eq_ok.mp hBoth with ⟨fd₀, t, hOne, hRest⟩
  rcases bind_eq_ok.mp hRest with ⟨fd₁, t', hTwo, hPure⟩
  cases hPure
  exact ⟨booted_bareProcess.wellFormed, 0, .unix, t, u,
    by decide, hRun, by decide, hOne, hTwo⟩

theorem names_line_up_of_pair :
    ∃ e e', Established .socketpair e e' ∧
      NamesLineUp .socketpair e e' := by
  have hMade : Established .socketpair ⟨pairedProcess, 3⟩
      ⟨pairedProcess, 4⟩ :=
    .socketpair rfl pair_made
  exact ⟨_, _, hMade, (names_line_up_iff hMade).mpr rfl⟩

/- The state that calls lead to from a bare process. -/
def afterCalls (calls : List Call) : Process :=
  (runCalls calls bareProcess).getD bareProcess

/- Create a Unix stream. -/
def unixStreamCall : Call :=
  .socketx (.granting 3 10 11) afUnix sockStream 0 none

/- A bind of the Unix interface that gets a number. -/
def BindEnv.opening (number : Fd) : BindEnv :=
  { BindEnv.granting with
    unixEnv := ⟨none, ⟨some number, .zero⟩⟩ }

/- The address of the server. -/
def serverAddress : Bytes := sockaddrUn (bytes "/srv")

def clientProcess : Process := afterCalls [unixStreamCall]

/- A stream that listens at the server's address. -/
def serverProcess : Process :=
  afterCalls [unixStreamCall, .bind (.opening 4) 3
    (some serverAddress) sockaddrMaxSize, .listen .granting 3 5]

/- The open request of the client. -/
def clientRequest : UnixMsgOpen where
  header := requestHeader ⟨7, 1⟩ 0
    (unixLocalPath ++ clientPath 0)
  path := CString.store (unixLocalPath ++ clientPath 0) ++
    (List.replicate openPathSize 0).drop
      ((unixLocalPath ++ clientPath 0).length + 1)

/- An accept that reads the request. -/
def AcceptEnv.asked : AcceptEnv :=
  { AcceptEnv.granting 5 20 21 with
    unixEnv :=
      { memory := some 21
        content := .cleared
        read := ⟨[clientRequest.encode], false, .zero⟩
        reqJunk := fun _ => 0
        slotRandom := 0
        openR := ⟨some 6, .zero⟩
        openW := ⟨some 7, .zero⟩
        sunJunk := fun _ => 0
        seqRandom := 0
        repJunk := fun _ => 0
        write := ⟨true, .zero⟩ } }

/- The server's reply. -/
def serverReply : UnixMsgOpen :=
  acceptAnswer AcceptEnv.asked.unixEnv clientRequest
    (slotPath (bytes "/srv") 0)

/- A connect that reads the reply. -/
def ConnectEnv.answered : ConnectEnv :=
  { ConnectEnv.answering 0 with
    unixEnv :=
      { openCtl := ⟨some 4, .zero⟩
        secretRandom := 7
        seqRandom := 0
        nameRandom := 0
        bind := .opening 5
        write := ⟨true, .zero⟩
        read := ⟨[serverReply.encode], false, .zero⟩
        repJunk := fun _ => 0
        openW := ⟨some 6, .zero⟩
        close := .leaf } }

/- Such a state is reachable, hence well formed. -/
theorem reachable_afterCalls
    {calls : List Call}
    (hRun : (runCalls calls bareProcess).isSome = true) :
    lsckSystem.Reachable (afterCalls calls) := by
  rcases Option.isSome_iff_exists.mp hRun with ⟨s, hS⟩
  unfold afterCalls
  rw [hS]
  exact reachable_of_calls hS

theorem wellFormed_afterCalls
    {calls : List Call}
    (hRun : (runCalls calls bareProcess).isSome = true) :
    WellFormed none (afterCalls calls) :=
  wellFormed_of_reachable (reachable_afterCalls hRun)

theorem client_reachable : lsckSystem.Reachable clientProcess :=
  reachable_afterCalls (by decide +kernel)

theorem server_reachable : lsckSystem.Reachable serverProcess :=
  reachable_afterCalls (by decide +kernel)

/- Neither socket is connected before the handshake. -/
example :
    (clientProcess.socket? 10).map (·.connected) =
      some false ∧
    (serverProcess.socket? 10).map (·.connected) =
      some false := by
  decide +kernel

/- The client's socket and the listener. -/
def clientSocket : LsckSocket :=
  (clientProcess.socket? 10).getD .cleared

def listenerSocket : LsckSocket :=
  (serverProcess.socket? 10).getD .cleared

/- The listener's data. -/
def listenerData : LsckSocketUnix :=
  ((serverProcess.heap 11).bind Block.unix?).getD .cleared

theorem listener_boundAbsolutely :
    serverProcess.BoundAbsolutely 10 (bytes "/srv")
      (bytes "\\mailslot\\srv") := by
  have hSocket : serverProcess.heap 10 =
      some (.socket listenerSocket) :=
    Process.socket?_eq_some.mp (by decide +kernel)
  have hData : serverProcess.heap 11 =
      some (.unix listenerData) := by decide +kernel
  have hReads : serverProcess.ReadsFrom listenerData.fdR
      (bytes "\\mailslot\\srv") := by
    refine ⟨⟨some (bytes "\\mailslot\\srv"), none, true,
      false⟩, ?_, rfl⟩
    unfold Process.HasMailslot
    decide +kernel
  exact ⟨by decide, by decide, listenerSocket, listenerData,
    ⟨hSocket, 11, by decide +kernel, hData⟩,
    by decide +kernel, by decide +kernel, by decide +kernel,
    hReads⟩

/- The client's state when its connect has succeeded. -/
def connectedClient : Process :=
  after (connect .answered 3 (some serverAddress)
    sockaddrMaxSize) clientProcess

theorem client_connects :
    ClientConnects serverAddress clientRequest
      [serverReply.encode] clientProcess
      ⟨connectedClient, 3⟩ := by
  have hRun : connect .answered 3 (some serverAddress)
      sockaddrMaxSize clientProcess =
        .ok (0, connectedClient) :=
    run_after (by decide +kernel)
  have hSocket : clientProcess.heap 10 =
      some (.socket clientSocket) :=
    Process.socket?_eq_some.mp (by decide +kernel)
  exact clientConnects_of_run
    (wellFormed_of_reachable client_reachable)
    ⟨by decide +kernel, by decide +kernel⟩ hSocket
    (by decide +kernel) (by decide +kernel) hRun
    (by decide +kernel)

/- The server's state when its accept has succeeded. -/
def acceptedServer : Process :=
  after (accept .asked 3 true true) serverProcess

theorem server_accepts :
    ServerAccepts (bytes "/srv") (bytes "\\mailslot\\srv")
      [clientRequest.encode] serverProcess
      ⟨acceptedServer, 5⟩ := by
  have hRun : accept .asked 3 true true serverProcess =
      .ok (5, acceptedServer) :=
    run_after (by decide +kernel)
  have hSocket : serverProcess.heap 10 =
      some (.socket listenerSocket) :=
    Process.socket?_eq_some.mp (by decide +kernel)
  have hReserved : Reserved AcceptEnv.asked.number
      AcceptEnv.asked.memory serverProcess 5 1 20 :=
    ⟨rfl, by decide, by decide +kernel, by decide +kernel, rfl,
      by decide +kernel⟩
  exact serverAccepts_of_run
    (wellFormed_of_reachable server_reachable)
    ⟨by decide +kernel, by decide +kernel⟩ hSocket
    (by decide +kernel) listener_boundAbsolutely hReserved hRun
    (by decide) (by decide +kernel)

/- The request is sent to the listener's mailslot. -/
theorem client_asked :
    (bytes "\\mailslot\\srv", clientRequest.encode) ∈
      newMessages clientProcess connectedClient := by
  decide +kernel

/- The reply is sent to that of the client. -/
theorem server_answered :
    (bytes "\\mailslot\\tmp\\lsck\\client\\00000000",
      serverReply.encode) ∈
      newMessages serverProcess acceptedServer := by
  decide +kernel

/-
  A client that connects to `/srv` does not know its server
  by that name.
-/
theorem handshake_names_differ :
    ∃ e e', Established (.handshake serverAddress) e e' ∧
      ¬ NamesLineUp (.handshake serverAddress) e e' := by
  have hMade : Established (.handshake serverAddress)
      ⟨connectedClient, 3⟩ ⟨acceptedServer, 5⟩ :=
    .handshake client_connects server_accepts client_asked
      server_answered
  exact ⟨_, _, hMade, not_linesUp_handshake hMade⟩

end Libsocket
