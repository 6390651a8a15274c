import Libsocket.Core.Invariant
import Libsocket.Unix.Stages

/-
  Whether those who write to the path of a bound socket
  reach the mailslot that the socket reads from, and whether
  the path that it publishes leads there.

  Main declarations:
    * `PublishesOwn`
    * `rendezvous_iff`
    * `relative_path_missed`
-/

namespace Libsocket

open Command

------------------------------------------------------------
-- Published Paths
------------------------------------------------------------

/- The messages that a run hands to the network. -/
def newMessages
    (s s' : Process) : List (Bytes × Bytes) :=
  s'.sent.drop s.sent.length

theorem newMessages_of_append
    {s s' : Process}
    {messages : List (Bytes × Bytes)}
    (hSent : s'.sent = s.sent ++ messages) :
    newMessages s s' = messages := by
  unfold newMessages
  rw [hSent, List.drop_left]

/-
  The path in every message of the run, opened for writing,
  leads to the mailslot.
-/
def PublishesOwn (m : Bytes) (s s' : Process) : Prop :=
  ∀ y ∈ newMessages s s', ∃ path,
    CString.read? (UnixMsgOpen.decode y.2).path =
      some path ∧
    sendName path = some m

/- The path of a message, whatever follows the message. -/
theorem UnixMsgOpen.path_decode
    {m : UnixMsgOpen}
    (hPath : m.path.length = openPathSize)
    (rest : Bytes) :
    (UnixMsgOpen.decode (m.encode ++ rest)).path = m.path := by
  unfold UnixMsgOpen.decode UnixMsgOpen.encode
  dsimp only
  rw [List.append_assoc,
    List.drop_left' (UnixMsgHeader.length_encode m.header),
    List.take_left' hPath]

/- Packets that all publish one path. -/
theorem publishesOwn_iff
    {m m' published : Bytes}
    {req : UnixMsgOpen}
    {parts : List Bytes}
    {s s' : Process}
    (hSome : parts ≠ [])
    (hSent : s'.sent = s.sent ++ parts.map (fun data =>
      (m', req.encode ++ data)))
    (hLength : req.path.length = openPathSize)
    (hPath : CString.read? req.path = some published) :
    PublishesOwn m s s' ↔ sendName published = some m := by
  unfold PublishesOwn
  rw [newMessages_of_append hSent]
  constructor
  · intro hAll
    cases parts with
    | nil => exact absurd rfl hSome
    | cons data parts =>
        rcases hAll _ List.mem_cons_self with
          ⟨path, hRead, hSend⟩
        rw [UnixMsgOpen.path_decode hLength, hPath] at hRead
        cases hRead
        exact hSend
  · intro hSend y hY
    rcases List.mem_map.mp hY with ⟨data, -, rfl⟩
    refine ⟨published, ?_, hSend⟩
    rw [UnixMsgOpen.path_decode hLength, hPath]

/- Packets that all go to one mailslot. -/
theorem sendsTo_iff
    {m m' : Bytes}
    {messages : List Bytes}
    {s s' : Process}
    (hSome : messages ≠ [])
    (hSent : s'.sent = s.sent ++ messages.map fun x =>
      (m', x)) :
    SendsTo m s s' ↔ m' = m := by
  have hSends : SendsTo m' s s' := ⟨messages, hSome, hSent⟩
  constructor
  · intro hOther
    exact hSends.unique hOther
  · rintro rfl
    exact hSends

/- A datagram with data has a packet. -/
theorem parts_ne_nil
    {msg : Bytes}
    {parts : List Bytes}
    (hParts : parts.flatten = msg)
    (hSome : msg ≠ []) :
    parts ≠ [] := by
  rintro rfl
  exact hSome hParts.symm

------------------------------------------------------------
-- Four Ways To The Mailslot
------------------------------------------------------------

/- A connect to a name asks at the name's mailslot. -/
theorem connect_sendsTo_iff
    {env : UnixConnectEnv}
    {p : Ptr}
    {serv name m : Bytes}
    {s s' : Process}
    (hRun : unixConnect env p serv s = .ok (0, s'))
    (hServ : CString.read? (serv.drop 2) = some name) :
    SendsTo m s s' ↔
      sendName (unixLocalPath ++ name) = some m := by
  rcases unixConnect_ok hRun with ⟨req, ms, hStages⟩
  rcases hStages.sends hServ with
    ⟨m', sockpath, hSend, hSent, -, -, -⟩
  rw [hSend, Option.some.injEq]
  exact sendsTo_iff
    (List.cons_ne_nil (UnixMsgOpen.encode req) []) hSent

/- A datagram to a name goes to the name's mailslot. -/
theorem sendDgram_sendsTo_iff
    {env : UnixSendDgramEnv}
    {p : Ptr}
    {msg sun name m : Bytes}
    {tolen : Nat}
    {s s' : Process}
    {r : Int}
    (hRun : unixSendDgram env p msg (some sun) tolen s =
      .ok (r, s'))
    (hSuccess : r ≠ -1)
    (hSome : msg ≠ [])
    (hTo : CString.read? (sun.drop 2) = some name) :
    SendsTo m s s' ↔
      sendName (unixLocalPath ++ name) = some m := by
  rcases unixSendDgram_sends hRun hSuccess hTo with
    ⟨m', req, parts, source, hSend, hSent, hParts, -, -, -, -⟩
  rw [hSend, Option.some.injEq]
  have hShape : s'.sent = s.sent ++
      (parts.map fun data => UnixMsgOpen.encode req ++
        data).map fun x => (m', x) := by
    rw [hSent, List.map_map]
    rfl
  apply sendsTo_iff _ hShape
  exact fun hNone =>
    parts_ne_nil hParts hSome (List.map_eq_nil_iff.mp hNone)

/- The request of a bound client publishes its name. -/
theorem connect_publishes_iff
    {env : UnixConnectEnv}
    {p : Ptr}
    {serv name m m' : Bytes}
    {s s' : Process}
    (hBound : s.BoundTo p name m')
    (hRun : unixConnect env p serv s = .ok (0, s')) :
    PublishesOwn m s s' ↔
      sendName (unixLocalPath ++ name) = some m := by
  rcases unixConnect_ok hRun with ⟨req, ms, hStages⟩
  have hServ : ∃ server,
      CString.read? (serv.drop 2) = some server := by
    rcases hStages with
      ⟨_, server, _, _, _, _, _, _, _, -, hServ, -⟩
    exact ⟨server, hServ⟩
  rcases hServ with ⟨server, hServ⟩
  rcases hStages.sends hServ with
    ⟨m'', sockpath, -, hSent, hLength, hPath, hOwn⟩
  rcases hBound with ⟨lsd, usock, hUnix, hIs, -, hName, -⟩
  have hSame := hOwn lsd usock hUnix hIs
  rw [hName] at hSame
  cases hSame
  have hShape : s'.sent = s.sent ++ [[]].map (fun data =>
      (m'', UnixMsgOpen.encode req ++ data)) := by
    rw [hSent, List.map_singleton, List.append_nil]
  exact publishesOwn_iff (List.cons_ne_nil _ _) hShape
    hLength hPath

/- So do the packets of a datagram. -/
theorem sendDgram_publishes_iff
    {env : UnixSendDgramEnv}
    {p : Ptr}
    {msg sun name m m' : Bytes}
    {tolen : Nat}
    {s s' : Process}
    {r : Int}
    (hBound : s.BoundTo p name m')
    (hRun : unixSendDgram env p msg (some sun) tolen s =
      .ok (r, s'))
    (hSuccess : r ≠ -1)
    (hSome : msg ≠ []) :
    PublishesOwn m s s' ↔
      sendName (unixLocalPath ++ name) = some m := by
  rcases unixSendDgram_ok hRun hSuccess with
    ⟨_, _, _, _, target, _, _, _, _, _, -, -, -, -, -, -, -,
      hTo, -⟩
  rcases unixSendDgram_sends hRun hSuccess hTo with
    ⟨m'', req, parts, source, -, hSent, hParts, -, hLength,
      hPath, hOwn⟩
  rcases hBound with ⟨lsd, usock, hUnix, hIs, hName, -, -⟩
  have hSame := hOwn lsd hUnix.socket hIs
  rw [hName] at hSame
  cases hSame
  exact publishesOwn_iff (parts_ne_nil hParts hSome) hSent
    hLength hPath

/-
  For every bind that succeeds, whatever name and current
  directory it had: a connect to the name, a datagram to the
  name, the path in the open request of the bound socket and
  that in its datagrams each lead to the mailslot that the
  bind has opened if and only if the name is absolute.
-/
theorem rendezvous_iff
    {env : UnixBindEnv}
    {p : Ptr}
    {addr name : Bytes}
    {addrlen : Nat}
    {s s' : Process}
    (hBind : unixBind env p addr addrlen s = .ok (0, s'))
    (hName : CString.read? (addr.drop 2) = some name) :
    ∃ m, s'.SocketReads p m ∧
      (∀ connectEnv q serv t t',
        CString.read? (serv.drop 2) = some name →
        unixConnect connectEnv q serv t = .ok (0, t') →
        (SendsTo m t t' ↔ IsAbsolute name)) ∧
      (∀ sendEnv q msg dest tolen r t t',
        CString.read? (dest.drop 2) = some name →
        msg ≠ [] →
        unixSendDgram sendEnv q msg (some dest) tolen t =
          .ok (r, t') →
        r ≠ -1 →
        (SendsTo m t t' ↔ IsAbsolute name)) ∧
      (∀ connectEnv q serv t t',
        t.BoundTo q name m →
        unixConnect connectEnv q serv t = .ok (0, t') →
        (PublishesOwn m t t' ↔ IsAbsolute name)) ∧
      (∀ sendEnv q msg dest tolen r t t',
        t.BoundTo q name m →
        msg ≠ [] →
        unixSendDgram sendEnv q msg (some dest) tolen t =
          .ok (r, t') →
        r ≠ -1 →
        (PublishesOwn m t t' ↔ IsAbsolute name)) := by
  rcases unixBind_reads hBind hName with
    ⟨m, lsd, usock, fdR, -, hUnix, -, hReads, hMeet, -⟩
  refine ⟨m, ⟨lsd, _, hUnix, hReads⟩, ?_, ?_, ?_, ?_⟩
  · intro connectEnv q serv t t' hServ hRun
    exact (connect_sendsTo_iff hRun hServ).trans hMeet
  · intro sendEnv q msg dest tolen r t t' hTo hSome hRun hR
    exact (sendDgram_sendsTo_iff hRun hR hSome hTo).trans hMeet
  · intro connectEnv q serv t t' hBound hRun
    exact (connect_publishes_iff hBound hRun).trans hMeet
  · intro sendEnv q msg dest tolen r t t' hBound hSome hRun hR
    exact (sendDgram_publishes_iff hBound hRun hR
      hSome).trans hMeet

------------------------------------------------------------
-- A Bind In A Directory
------------------------------------------------------------

/- A datagram socket that is its process' only one. -/
def dgramSocket : LsckSocket :=
  { LsckSocket.cleared with
    fd := 3
    family := afUnix
    type := sockDgram
    interface := some .unix
    idata := some 11 }

/- A process with one datagram socket. -/
def dgramProcess (lsd : LsckSocket) : Process :=
  ((bareProcess.setBlock 10 (some (.socket lsd))).setBlock 11
    (some (.unix { LsckSocketUnix.cleared with
      fdW := -1
      fdR := -1 }))).setEntry 3
        ⟨true, some .lsckSocketFsext, some (.lsd 10)⟩

/- A bind that gets the next number, in a directory. -/
def UnixBindEnv.inTmp : UnixBindEnv :=
  ⟨some (bytes "c:/tmp"), ⟨some 4, .zero⟩⟩

/- A datagram that the network takes. -/
def UnixSendDgramEnv.granting : UnixSendDgramEnv where
  nameRandom := 0
  bind := .granting
  pathJunk := fun _ => 0
  openW := ⟨some 5, .zero⟩
  writes := [⟨true, .zero⟩]
  close := .node ⟨false, ⟨true, .zero⟩, 0, 0⟩ .leaf .leaf

/- The same socket once it has a name of its own. -/
def namedSocket : LsckSocket :=
  { dgramSocket with
    bound := true
    sockname := overlay dgramSocket.sockname
      (sockaddrUn (bytes "/tmp/me")) }

theorem rendezvous_at_absolute :
    ∃ s' m, unixBind .inTmp 10 (sockaddrUn (bytes "/sock"))
        sockaddrMaxSize (dgramProcess dgramSocket) =
          .ok (0, s') ∧
      s'.SocketReads 10 m ∧
      ∀ connectEnv q serv t t',
        CString.read? (serv.drop 2) = some (bytes "/sock") →
        unixConnect connectEnv q serv t = .ok (0, t') →
        SendsTo m t t' := by
  have hRun : ∃ s', unixBind .inTmp 10
      (sockaddrUn (bytes "/sock")) sockaddrMaxSize
      (dgramProcess dgramSocket) = .ok (0, s') :=
    exists_run_of_answer (by decide +kernel)
  rcases hRun with ⟨s', hRun⟩
  have hName : CString.read?
      ((sockaddrUn (bytes "/sock")).drop 2) =
        some (bytes "/sock") := by decide
  rcases rendezvous_iff hRun hName with
    ⟨m, hReads, hConnect, -⟩
  refine ⟨s', m, hRun, hReads, ?_⟩
  intro connectEnv q serv t t' hServ hGo
  exact (hConnect connectEnv q serv t t' hServ hGo).mpr
    (by decide)

/-
  A socket bound to a relative name, and a datagram to the
  same name in the same directory that it does not get.
-/
theorem relative_path_missed :
    ∃ s' m t', unixBind .inTmp 10 (sockaddrUn (bytes "sock"))
        sockaddrMaxSize (dgramProcess dgramSocket) =
          .ok (0, s') ∧
      s'.SocketReads 10 m ∧
      unixSendDgram .granting 10 [1]
        (some (sockaddrUn (bytes "sock"))) sockaddrMaxSize
        (dgramProcess namedSocket) = .ok (1, t') ∧
      ¬ SendsTo m (dgramProcess namedSocket) t' := by
  have hBind : ∃ s', unixBind .inTmp 10
      (sockaddrUn (bytes "sock")) sockaddrMaxSize
      (dgramProcess dgramSocket) = .ok (0, s') :=
    exists_run_of_answer (by decide +kernel)
  have hSend : ∃ t', unixSendDgram .granting 10 [1]
      (some (sockaddrUn (bytes "sock"))) sockaddrMaxSize
      (dgramProcess namedSocket) = .ok (1, t') :=
    exists_run_of_answer (by decide +kernel)
  rcases hBind with ⟨s', hBind⟩
  rcases hSend with ⟨t', hSend⟩
  have hName : CString.read?
      ((sockaddrUn (bytes "sock")).drop 2) =
        some (bytes "sock") := by decide
  rcases unixBind_reads hBind hName with
    ⟨m, lsd, usock, fdR, -, hUnix, -, hReads, hMeet, -⟩
  have hMissed := (sendDgram_sendsTo_iff hSend (by decide)
    (by decide) hName).trans hMeet
  refine ⟨s', m, t', hBind, ⟨lsd, _, hUnix, hReads⟩,
    hSend, ?_⟩
  rw [hMissed]
  decide

end Libsocket
