import Libsocket.Unix.Takings

/-
  A listener and its clients, whose requests reach the control
  mailslot in any order and at any time between and during
  the server's calls to `accept`.

  Main declarations:
    * `Listens`, `Served`
    * `Listens.accept`
    * `Interleaving`
    * `served_iff_takesOne`
-/

namespace Libsocket

open Command

------------------------------------------------------------
-- The Listener
------------------------------------------------------------

/-
  The descriptor of a Unix socket that is bound to the name
  and reads requests from the mailslot.
-/
structure Listens
    (fd : Fd)
    (p : Ptr)
    (m name : Bytes)
    (s : Process) : Prop where
  form : WellFormed none s
  leads : s.LeadsTo fd p
  socket : ∃ d usock me, s.HasUnix p d usock ∧
    d.interface = some .unix ∧
    CString.read? (d.sockname.drop 2) = some name ∧
    s.HasMailslot usock.fdR me ∧ me.handle = some m ∧
    me.peeking = false
  asked : ∀ x ∈ s.mail m, IsRequest m x

/-
  One open request is taken from the queue, no other one, and
  its client is sent one reply with the request's secret.
-/
def Served
    (m : Bytes)
    (arrivals : List Bytes)
    (s t : Process) : Prop :=
  ∃ req rep : UnixMsgOpen, ∃ path m',
    s.mail m ++ arrivals = req.encode :: t.mail m ∧
    req.header.type = unixMsgClientOpen ∧
    CString.read? req.path = some path ∧
    sendName path = some m' ∧
    newMessages s t = [(m', rep.encode)] ∧
    rep.header.type = unixMsgServerOpen ∧
    rep.header.secret = req.header.secret

section Listening

variable {fd : Fd} {p : Ptr} {m name : Bytes}
variable {env : AcceptEnv} {addr addrlen : Bool} {r : Int}
variable {s t u : Process}

/- What counts are live blocks, open files and the queue. -/
theorem Listens.frame
    (hListens : Listens fd p m name s)
    (hForm : WellFormed none t)
    (hBeside : Beside (fun x => s.heap x = none) s t)
    (hAsked : ∀ x ∈ t.mail m, IsRequest m x) :
    Listens fd p m name t := by
  rcases hListens.form.socket_of_leadsTo hListens.leads with
    ⟨d, hD, hFd⟩
  rcases hListens.socket with
    ⟨d', usock, me, ⟨hSocket, q, hIdata, hData⟩, hInterface,
      hName, hMail, hRest⟩
  cases hD.symm.trans hSocket
  have hThere : t.heap p = some (.socket d) := by
    rw [hBeside.heap p (by rw [hSocket]; simp)]
    exact hSocket
  constructor
  · exact hForm
  · have hEntry := hForm.entry hThere
    rw [hFd] at hEntry
    exact hEntry
  · refine ⟨d, usock, me, ⟨hThere, q, hIdata, ?_⟩, hInterface,
      hName, ?_, hRest⟩
    · rw [hBeside.heap q (by rw [hData]; simp)]
      exact hData
    · unfold Process.HasMailslot at hMail ⊢
      rw [hBeside.files usock.fdR (by rw [hMail]), hMail]
  · exact hAsked

/- A reservation leaves the listener as it is. -/
theorem reserved_unix
    {number : Option Fd}
    {memory : Option Ptr}
    {np : Ptr}
    {nfd : Fd}
    {slot : Nat}
    {d : LsckSocket}
    {usock : LsckSocketUnix}
    (hReserved : Reserved number memory s nfd slot np)
    (hUnix : s.HasUnix p d usock) :
    (s.withSocket slot np (acceptedCopy d nfd)).HasUnix p d
      usock := by
  rcases hUnix.data with ⟨q, hQ, hData⟩
  refine ⟨(reserved_listener hUnix.socket hReserved).2, q, hQ,
    ?_⟩
  have hNe : q ≠ np := by
    rintro rfl
    rw [hReserved.heap] at hData
    cases hData
  rw [Reserved.heap_withSocket, Function.update_of_ne hNe]
  exact hData

/-
  When a request was read first, the client that sent it is
  answered; whether other ones were lost shows in the queue.
-/
theorem served_iff
    {uenv : UnixAcceptEnv}
    {np : Ptr}
    {w : Process}
    (hTook : Takings uenv p np m name 0 u w)
    (hAsk : ∀ x ∈ s.mail m ++ uenv.read.arrivals,
      IsRequest m x)
    (hBefore : u.mail = s.mail ∧ u.sent = s.sent ∧
      u.reportsNext = s.reportsNext)
    (hAfter : t.mail = w.mail ∧ t.sent = w.sent) :
    Served m uenv.read.arrivals s t ↔
      TakesOne m name uenv s := by
  rcases hBefore with ⟨hMail, hSent, hNext⟩
  rcases hAfter with ⟨hMail', hSent'⟩
  have hDone := hTook.done rfl
  rw [hMail, hNext, ← hMail'] at hDone
  constructor
  · rintro ⟨req, rep, path, m', hSplit, -⟩
    have hQueue := (hDone _ _ hSplit).2
    constructor
    · rw [hSplit]
      exact List.cons_ne_nil _ _
    · rw [hSplit, hQueue]
      split
      next => exact .inl (Nat.le_refl 1)
      next hOne =>
          rw [not_or, Bool.not_eq_true] at hOne
          exact .inr hOne
  · intro hOne
    cases hSplit : s.mail m ++ uenv.read.arrivals with
    | nil => exact absurd hSplit hOne.found
    | cons x rest =>
        rcases hDone x rest hSplit with
          ⟨⟨more, hStages⟩, hQueue⟩
        have hRest : t.mail m = rest := by
          rw [hQueue]
          split
          next hMore =>
              rcases hOne.single with hShort | ⟨hNo, hOther⟩
              · rw [hSplit, List.length_cons] at hShort
                exact (List.eq_nil_of_length_eq_zero
                  (by omega)).symm
              · rcases hMore with hYes | hSame
                · rw [hNo] at hYes
                  cases hYes
                · exact absurd hSame hOther
          next => rfl
        rcases hAsk x (by
          rw [hSplit]; exact List.mem_cons_self) with
          ⟨req, rfl, hReq⟩
        rcases hStages.answers with
          ⟨lsd, server, client, mR, mW, nsd, fdR, fdW, req',
            rfl, -, -, -, hPath, -, hSend, -, hNew, -⟩
        rw [path_received hReq.length] at hPath
        rw [hSent, ← hSent'] at hNew
        refine ⟨req, _, _, mW, ?_, hReq.type, hPath, hSend,
          newMessages_of_append hNew, rfl,
          secret_received req _ more⟩
        rw [hSplit, hRest]

/-
  An accept on a reserved descriptor: whether it serves one
  request when it succeeds, and when the listener goes on.
-/
theorem Listens.acceptOn
    {d : LsckSocket}
    {np : Ptr}
    {nfd : Fd}
    {slot : Nat}
    (hListens : Listens fd p m name s)
    (hSocket : s.heap p = some (.socket d))
    (hForm : WellFormed none t)
    (hAsk : ∀ x ∈ env.unixEnv.read.arrivals, IsRequest m x)
    (hReserved : Reserved env.number env.memory s nfd slot np)
    (hRun : acceptOn env .unix p np nfd slot
      (s.withSocket slot np (acceptedCopy d nfd)) =
        .ok (r, t)) :
    (r ≠ -1 → (Served m env.unixEnv.read.arrivals s t ↔
      TakesOne m name env.unixEnv s)) ∧
    ((r ≠ -1 → TakesOne m name env.unixEnv s) →
      Listens fd p m name t) := by
  rcases hListens.socket with
    ⟨d', usock, me, hUnix, hInterface, hName, hMail, hHandle,
      hIdle⟩
  cases hSocket.symm.trans hUnix.socket
  have hBeside := acceptOn_beside hListens.form hSocket
    hReserved hRun
  rcases bind_eq_ok.mp hRun with ⟨ret, w, hCall, hTail⟩
  have hNew := Reserved.socket_withSocket s slot np
    (acceptedCopy d nfd)
  have hNe : p ≠ np := by
    rintro rfl
    rw [hReserved.heap] at hSocket
    cases hSocket
  have hUnix₁ := reserved_unix hReserved hUnix
  have hNumber : usock.fdR ≠ nfd := by
    rintro rfl
    have hClosed := hReserved.closed
    rw [hMail] at hClosed
    cases hClosed
  have hReads : (s.withSocket slot np
      (acceptedCopy d nfd)).ReadsMail usock.fdR me m := by
    have hEntry : (s.withSocket slot np
        (acceptedCopy d nfd)).fds usock.fdR =
          s.fds usock.fdR :=
      Function.update_of_ne hNumber _ _
    unfold Process.HasMailslot at hMail
    constructor
    · rw [hEntry, hMail]
    · rw [hEntry, hMail]
    · exact hHandle
  have hAll : ∀ x ∈ s.mail m ++ env.unixEnv.read.arrivals,
      IsRequest m x := by
    intro x hX
    rcases List.mem_append.mp hX with hX | hX
    · exact hListens.asked x hX
    · exact hAsk x hX
  have hTook := unixAccept_takings hNew hNe hUnix₁ hName
    hReads hIdle hAll hCall
  have hFrame := hListens.frame hForm hBeside
  have hNumbered : ret = 0 → r ≠ -1 := by
    rintro hZero rfl
    rcases acceptReserved_ok hListens.form hSocket hReserved
      hRun with ⟨ret', q, v, w', nd', hCall', -, -, -, -, hEnd⟩
    cases hCall.symm.trans hCall'
    rcases hEnd with ⟨hNot, -⟩ | ⟨-, -, hSame, -⟩
    · exact hNot hZero
    · have hLow := hReserved.low
      rw [← hSame] at hLow
      exact absurd hLow (by decide)
  by_cases hRet : ret = 0
  · -- The new descriptor is marked as connected.
    have hSuccess := hNumbered hRet
    subst hRet
    rw [if_pos rfl] at hTail
    rcases bind_eq_ok.mp hTail with ⟨_, u, hMark, hLast⟩
    rcases bind_eq_ok.mp hLast with ⟨nsd, v, hRead, hPure⟩
    have hSame := (derefSocket_ok hRead).1
    subst hSame
    cases hPure
    rcases modifySocket_ok hMark with ⟨nd, -, rfl⟩
    have hIff := served_iff (s := s) hTook hAll
      ⟨rfl, rfl, rfl⟩ ⟨rfl, rfl⟩
    refine ⟨fun _ => hIff, fun hOne => hFrame ?_⟩
    rcases hIff.mpr (hOne hSuccess) with
      ⟨req, rep, path, m', hSplit, -⟩
    intro x hX
    apply hAll
    rw [hSplit]
    exact List.mem_cons_of_mem _ hX
  · -- The new descriptor and its data are removed again.
    rw [if_neg hRet] at hTail
    rcases bind_eq_ok.mp hTail with ⟨_, u, hUndo, hPure⟩
    cases hPure
    have hQueue := mail_acceptCleanup _ _ _ _ _ _ hUndo
    refine ⟨fun hSuccess => absurd rfl hSuccess, fun _ => ?_⟩
    apply hFrame
    rw [hQueue]
    exact fun x hX => hAll x (hTook.failed hRet x hX)

/-
  A call to `accept` that succeeds serves one request if and
  only if its read takes one; then, and whenever it fails,
  the listener goes on with requests alone in its queue.
-/
theorem Listens.accept
    (hListens : Listens fd p m name s)
    (hAsk : ∀ x ∈ env.unixEnv.read.arrivals, IsRequest m x)
    (hRun : accept env fd addr addrlen s = .ok (r, t)) :
    (r ≠ -1 → (Served m env.unixEnv.read.arrivals s t ↔
      TakesOne m name env.unixEnv s)) ∧
    ((r ≠ -1 → TakesOne m name env.unixEnv s) →
      Listens fd p m name t) := by
  rcases hListens.socket with
    ⟨d, usock, me, hUnix, hInterface, -⟩
  have hForm : WellFormed none t :=
    (accept_evolves hListens.form hRun).form hListens.form
  have hCheck := Process.check_unix hUnix.socket hInterface
    env.writable
  rcases accept_ok hListens.form.fds hRun with
    ⟨-, hNone, -⟩ | ⟨p', d', hLeads, hSocket, hRest⟩
  · exact absurd hListens.leads (hNone p)
  cases hListens.leads.2.symm.trans hLeads.2
  cases hUnix.socket.symm.trans hSocket
  rcases hRest with ⟨rfl, e, rfl⟩ |
    ⟨-, i, nfd, slot, np, hI, hReserved, hOn⟩
  · rw [hCheck] at hForm ⊢
    refine ⟨fun hSuccess => absurd rfl hSuccess, fun _ => ?_⟩
    exact hListens.frame hForm ⟨fun _ _ => rfl, fun _ _ => rfl⟩
      hListens.asked
  · cases hInterface.symm.trans hI
    rw [hCheck, LsckSocket.checked_unix hInterface] at hOn
    rw [hCheck] at hReserved
    exact hListens.acceptOn hUnix.socket hForm hAsk hReserved
      hOn

/- What DOS reports is none of it. -/
theorem Listens.reporting
    (hListens : Listens fd p m name s)
    (reportsNext : Bool) :
    Listens fd p m name
      { s with reportsNext := reportsNext } := by
  have hForm : WellFormed none
      { s with reportsNext := reportsNext } :=
    hListens.form.still
      ⟨rfl, id, fun _ _ _ => rfl, fun _ => rfl⟩
  exact hListens.frame hForm ⟨fun _ _ => rfl, fun _ _ => rfl⟩
    hListens.asked

/- A request that arrives goes to the back of the queue. -/
theorem Listens.arrive
    {x : Bytes}
    (hListens : Listens fd p m name s)
    (hAsks : IsRequest m x) :
    Listens fd p m name (s.setMail m (s.mail m ++ [x])) := by
  have hForm := hListens.form.still
    (Still.setMail s m (s.mail m ++ [x]))
  apply hListens.frame hForm ⟨fun _ _ => rfl, fun _ _ => rfl⟩
  intro y hY
  have hQueue : (s.setMail m (s.mail m ++ [x])).mail m =
      s.mail m ++ [x] :=
    Function.update_self _ _ _
  rw [hQueue] at hY
  rcases List.mem_append.mp hY with hY | hY
  · exact hListens.asked y hY
  · rw [List.mem_singleton.mp hY]
    exact hAsks

end Listening

------------------------------------------------------------
-- Clients And Their Server
------------------------------------------------------------

/- A client that connects sends such a request. -/
theorem ConnectStages.asks
    {env : UnixConnectEnv}
    {p : Ptr}
    {serv m : Bytes}
    {req : UnixMsgOpen}
    {ms : List Bytes}
    {s s' : Process}
    (hStages : ConnectStages env p serv req ms s s')
    (hOther : ∀ path, CString.read? req.path = some path →
      sendName path ≠ some m) :
    req.Asks m := by
  rcases hStages with
    ⟨lsd, server, fd, ret, t₀, t₁, t₂, t₃, t₄, hLsd, hServer,
      hClear, hOpen, hFd, hBind, hRet, hReq, hTaken, hLast⟩
  have hSends := ConnectStages.sends
    ⟨lsd, server, fd, ret, t₀, t₁, t₂, t₃, t₄, hLsd, hServer,
      hClear, hOpen, hFd, hBind, hRet, hReq, hTaken, hLast⟩
    hServer
  rcases hSends with ⟨m', sockpath, -, -, hLength, hPath, -⟩
  rcases unixConnectRequest_ok hReq with
    ⟨q, usock, sockpath', -, -, -, -, hHeader, -, -⟩
  have hSend : ∃ m', sendName (unixLocalPath ++ sockpath) =
      some m' := by
    unfold sendName
    rw [afterPrefix_local]
    exact ⟨_, rfl⟩
  rcases hSend with ⟨m', hSend⟩
  constructor
  · rw [hHeader]
    rfl
  · exact hLength
  · refine ⟨_, m', hPath, hSend, ?_⟩
    rintro rfl
    exact hOther _ hPath hSend

/-
  What happens at a listener, one event after the other: the
  request of some client reaches the control mailslot, or the
  server calls `accept`, which may fail. Further requests may
  arrive while that call reads.
-/
inductive Interleaving
    (meets : UnixAcceptEnv → Process → Prop)
    (fd : Fd)
    (m : Bytes)
    (s : Process) :
    Process → Prop
  | start : Interleaving meets fd m s s
  | arrive
      {x : Bytes}
      {t : Process}
      (earlier : Interleaving meets fd m s t)
      (asks : IsRequest m x) :
      Interleaving meets fd m s (t.setMail m (t.mail m ++ [x]))
  | accept
      {env : AcceptEnv}
      {addr addrlen : Bool}
      {r : Int}
      {t u : Process}
      (earlier : Interleaving meets fd m s t)
      (asks : ∀ x ∈ env.unixEnv.read.arrivals, IsRequest m x)
      (one : r ≠ -1 → meets env.unixEnv t)
      (run : accept env fd addr addrlen t = .ok (r, u)) :
      Interleaving meets fd m s u

/- The listener goes on, by induction over the events. -/
theorem Interleaving.listens
    {fd : Fd}
    {p : Ptr}
    {m name : Bytes}
    {s t : Process}
    (hListens : Listens fd p m name s)
    (hEvents : Interleaving (TakesOne m name) fd m s t) :
    Listens fd p m name t := by
  induction hEvents with
  | start => exact hListens
  | arrive _ hAsks ih => exact ih.arrive hAsks
  | accept _ hAsks hOne hRun ih =>
      exact (ih.accept hAsks hRun).2 hOne

/-
  However the requests of the clients and the calls of the
  server are interleaved: as long as the reads of the accepts
  that succeed take one request each, the next one that
  succeeds takes one request and answers the client that sent
  it if and only if its own read takes one.
-/
theorem served_iff_takesOne
    {fd : Fd}
    {p : Ptr}
    {m name : Bytes}
    {addr addrlen : Bool}
    {env : AcceptEnv}
    {r : Int}
    {s t u : Process}
    (hListens : Listens fd p m name s)
    (hEvents : Interleaving (TakesOne m name) fd m s t)
    (hAsk : ∀ x ∈ env.unixEnv.read.arrivals, IsRequest m x)
    (hRun : accept env fd addr addrlen t = .ok (r, u))
    (hSuccess : r ≠ -1) :
    Served m env.unixEnv.read.arrivals t u ↔
      TakesOne m name env.unixEnv t :=
  ((hEvents.listens hListens).accept hAsk hRun).1 hSuccess

------------------------------------------------------------
-- Two Clients
------------------------------------------------------------

/- The control mailslot of the server at `/srv`. -/
def controlMailslot : Bytes := bytes "\\mailslot\\srv"

/- The open request of another client. -/
def otherRequest : UnixMsgOpen where
  header := requestHeader ⟨8, 2⟩ 0
    (unixLocalPath ++ clientPath 1)
  path := CString.store (unixLocalPath ++ clientPath 1) ++
    (List.replicate openPathSize 0).drop
      ((unixLocalPath ++ clientPath 1).length + 1)

/- An accept that reads what is in the queue. -/
def AcceptEnv.queued : AcceptEnv :=
  { AcceptEnv.asked with
    unixEnv :=
      { AcceptEnv.asked.unixEnv with
        read := ⟨[], false, .zero⟩ } }

/- The server, where DOS reports a next message or does not. -/
def reportingServer (reportsNext : Bool) : Process :=
  { serverProcess with reportsNext := reportsNext }

/- The same once both clients have asked. -/
def busyServer (reportsNext : Bool) : Process :=
  let s := reportingServer reportsNext
  let t := s.setMail controlMailslot
    (s.mail controlMailslot ++ [clientRequest.encode])
  t.setMail controlMailslot
    (t.mail controlMailslot ++ [otherRequest.encode])

theorem clientRequest_asks :
    IsRequest controlMailslot clientRequest.encode := by
  rcases client_connects with
    ⟨-, env, p, d, addrlen, t, -, -, -, -, -, hStages⟩
  refine ⟨clientRequest, rfl, hStages.asks ?_⟩
  intro path hPath
  have hRead : CString.read? clientRequest.path =
      some (unixLocalPath ++ clientPath 0) := by
    decide +kernel
  cases hPath.symm.trans hRead
  decide +kernel

theorem otherRequest_asks :
    IsRequest controlMailslot otherRequest.encode := by
  refine ⟨otherRequest, rfl, rfl, by decide +kernel,
    unixLocalPath ++ clientPath 1,
    bytes "\\mailslot\\tmp\\lsck\\client\\00000001", ?_, ?_, ?_⟩
  · decide +kernel
  · decide +kernel
  · decide

theorem server_listens :
    Listens 3 10 controlMailslot (bytes "/srv")
      serverProcess := by
  have hSocket : serverProcess.heap 10 =
      some (.socket listenerSocket) :=
    Process.socket?_eq_some.mp (by decide +kernel)
  have hData : serverProcess.heap 11 =
      some (.unix listenerData) := by decide +kernel
  have hMail : serverProcess.HasMailslot listenerData.fdR
      ⟨some controlMailslot, none, true, false⟩ := by
    unfold Process.HasMailslot
    decide +kernel
  have hEmpty : serverProcess.mail controlMailslot = [] := by
    decide +kernel
  constructor
  · exact wellFormed_of_reachable server_reachable
  · exact ⟨by decide +kernel, by decide +kernel⟩
  · exact ⟨listenerSocket, listenerData, _,
      ⟨hSocket, 11, by decide +kernel, hData⟩,
      by decide +kernel, by decide +kernel, hMail, rfl, rfl⟩
  · intro x hX
    rw [hEmpty] at hX
    cases hX

theorem reportingServer_listens (reportsNext : Bool) :
    Listens 3 10 controlMailslot (bytes "/srv")
      (reportingServer reportsNext) :=
  server_listens.reporting reportsNext

/- The requests arrive one after the other. -/
theorem busy_interleaving
    {meets : UnixAcceptEnv → Process → Prop}
    (reportsNext : Bool) :
    Interleaving meets 3 controlMailslot
      (reportingServer reportsNext)
      (busyServer reportsNext) :=
  .arrive (.arrive .start clientRequest_asks) otherRequest_asks

/- The first client is served if DOS reports nothing next. -/
theorem first_client_served :
    ∃ u, accept .queued 3 true true (busyServer false) =
        .ok (5, u) ∧
      Served controlMailslot [] (busyServer false) u := by
  have hRun : accept .queued 3 true true (busyServer false) =
      .ok (5, after (accept .queued 3 true true)
        (busyServer false)) :=
    run_after (by decide +kernel)
  have hNoMore : ∀ x ∈ AcceptEnv.queued.unixEnv.read.arrivals,
      IsRequest controlMailslot x := by
    intro x hX
    cases hX
  have hOne : TakesOne controlMailslot (bytes "/srv")
      AcceptEnv.queued.unixEnv (busyServer false) := by
    constructor
    · decide +kernel
    · exact .inr ⟨by decide +kernel, by decide +kernel⟩
  exact ⟨_, hRun, (served_iff_takesOne
    (reportingServer_listens false) (busy_interleaving false)
    hNoMore hRun (by decide)).mpr hOne⟩

/-
  Two clients ask, and DOS reports a next message: the accept
  that answers the first client takes both requests.
-/
theorem second_request_lost :
    ∃ s t u,
      Listens 3 10 controlMailslot (bytes "/srv") s ∧
      Interleaving (fun _ _ => True) 3 controlMailslot s t ∧
      accept .queued 3 true true t = .ok (5, u) ∧
      ¬ Served controlMailslot [] t u := by
  have hRun : accept .queued 3 true true (busyServer true) =
      .ok (5, after (accept .queued 3 true true)
        (busyServer true)) :=
    run_after (by decide +kernel)
  have hGone : (after (accept .queued 3 true true)
      (busyServer true)).mail controlMailslot = [] := by
    decide +kernel
  refine ⟨reportingServer true, busyServer true, _,
    reportingServer_listens true, busy_interleaving true, hRun,
    ?_⟩
  rintro ⟨req, rep, path, m', hSplit, -⟩
  rw [hGone] at hSplit
  have hLength := congrArg List.length hSplit
  have hTwo : ((busyServer true).mail controlMailslot ++
      []).length = 2 := by
    decide +kernel
  rw [hTwo] at hLength
  cases hLength

end Libsocket
