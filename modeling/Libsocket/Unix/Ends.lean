import Libsocket.Core.CallChanges
import Libsocket.Core.Permission
import Libsocket.Unix.Peers

/-
  The ends of a stream connection. An end has a role, which
  `accept` gives to its end alone, and the secret that both
  ends share. It keeps them as long as its descriptor is
  there, whatever calls the program makes.

  Main declarations:
    * `Process.IsEnd`
    * `Block.KeepsEnd`, `isEnd_socketExec`
    * `Joined`, `Joined.ends`
    * `End.Lives`, `End.Lives.isEnd`
-/

namespace Libsocket

open Command

------------------------------------------------------------
-- Ends
------------------------------------------------------------

/- A connected stream with this role and this secret. -/
def Process.IsEnd
    (s : Process)
    (p : Ptr)
    (accepted : Bool)
    (secret : UnixMsgSecret) : Prop :=
  ∃ lsd usock, s.HasUnix p lsd usock ∧
    lsd.interface = some .unix ∧ lsd.type = sockStream ∧
    lsd.connected = true ∧ lsd.accepted = accepted ∧
    usock.secret = secret

/- What a descriptor keeps of its part in a connection. -/
structure LsckSocket.KeepsRole
    (d d' : LsckSocket) : Prop where
  interface : d'.interface = d.interface
  type : d'.type = d.type
  accepted : d'.accepted = d.accepted
  connected : d.connected = true → d'.connected = true

theorem LsckSocket.KeepsRole.trans
    {d d' d'' : LsckSocket}
    (hLeft : d.KeepsRole d')
    (hRight : d'.KeepsRole d'') :
    d.KeepsRole d'' :=
  ⟨hRight.interface.trans hLeft.interface,
    hRight.type.trans hLeft.type,
    hRight.accepted.trans hLeft.accepted,
    fun h => hRight.connected (hLeft.connected h)⟩

/- A socket keeps its role, and Unix data its secret. -/
def Block.KeepsEnd (b b' : Block) : Prop :=
  (∀ d', b' = .socket d' →
    ∃ d, b = .socket d ∧ d.KeepsRole d') ∧
  ∀ x', b' = .unix x' →
    ∃ x, b = .unix x ∧ x'.secret = x.secret

namespace Block.KeepsEnd

theorem of_role
    {d d' : LsckSocket}
    (hRole : d.KeepsRole d') :
    KeepsEnd (.socket d) (.socket d') := by
  constructor
  · intro e hE
    cases hE
    exact ⟨d, rfl, hRole⟩
  · intro x hX
    cases hX

theorem of_same
    {d d' : LsckSocket}
    (hInterface : d'.interface = d.interface)
    (hType : d'.type = d.type)
    (hAccepted : d'.accepted = d.accepted)
    (hConnected : d'.connected = d.connected) :
    KeepsEnd (.socket d) (.socket d') :=
  of_role ⟨hInterface, hType, hAccepted, hConnected.trans⟩

theorem of_secret
    {x x' : LsckSocketUnix}
    (hSecret : x'.secret = x.secret) :
    KeepsEnd (.unix x) (.unix x') := by
  constructor
  · intro d hD
    cases hD
  · intro y hY
    cases hY
    exact ⟨x, rfl, hSecret⟩

theorem refl (b : Block) : KeepsEnd b b := by
  cases b with
  | socket d => exact of_same rfl rfl rfl rfl
  | unix x => exact of_secret rfl
  | csock x => exact ⟨by simp, by simp⟩
  | wsock x => exact ⟨by simp, by simp⟩

theorem trans
    {b b' b'' : Block}
    (hLeft : KeepsEnd b b')
    (hRight : KeepsEnd b' b'') :
    KeepsEnd b b'' := by
  constructor
  · intro d'' hD''
    rcases hRight.1 d'' hD'' with ⟨d', hD', hRole'⟩
    rcases hLeft.1 d' hD' with ⟨d, hD, hRole⟩
    exact ⟨d, hD, hRole.trans hRole'⟩
  · intro x'' hX''
    rcases hRight.2 x'' hX'' with ⟨x', hX', hSecret'⟩
    rcases hLeft.2 x' hX' with ⟨x, hX, hSecret⟩
    exact ⟨x, hX, hSecret'.trans hSecret⟩

theorem checked (d : LsckSocket) (writable : Bool) :
    KeepsEnd (.socket d) (.socket (d.checked writable)) := by
  rcases d.checked_cases writable with h | h
  · rw [h]
    exact refl _
  · rw [h.2.2]
    exact of_role ⟨rfl, rfl, rfl, fun _ => rfl⟩

theorem shut (d : LsckSocket) (how : Int) :
    KeepsEnd (.socket d) (.socket (d.shut how)) := by
  unfold LsckSocket.shut
  split
  · exact of_same rfl rfl rfl rfl
  · split
    · exact of_same rfl rfl rfl rfl
    · exact of_same rfl rfl rfl rfl

end Block.KeepsEnd

instance : Tolerates Block.KeepsEnd where
  refl := .refl
  trans := .trans
  peer _ _ _ := .of_same rfl rfl rfl rfl
  mode _ _ := .of_same rfl rfl rfl rfl
  data _ _ := .of_same rfl rfl rfl rfl
  check := .checked
  listen _ _ := .of_same rfl rfl rfl rfl
  shut := .shut
  wsock _ _ := ⟨by simp, by simp⟩
  csock _ _ := ⟨by simp, by simp⟩
  unix _ _ hSecret := .of_secret hSecret

------------------------------------------------------------
-- One Call
------------------------------------------------------------

section Call

variable {s s' : Process} {p q : Ptr}
variable {lsd : LsckSocket} {usock : LsckSocketUnix}

/- Another socket lies, with its data, beside an end. -/
theorem owns_other
    {t : Process}
    {r : Ptr}
    (hForm : WellFormed none t)
    (hSocket : t.heap p = some (.socket lsd))
    (hData : lsd.idata = some q)
    (hThere : t.IsSocket r)
    (hNe : r ≠ p) :
    OwnsEnd (fun r => r ≠ p ∧ r ≠ q) t r := by
  rcases hForm.data p lsd hSocket (by simp) with
    ⟨i, q', b, -, hQ', hBlock, hKind⟩
  cases hData.symm.trans hQ'
  rcases hThere with ⟨e, hE⟩
  constructor
  · constructor
    · exact hNe
    · rintro rfl
      cases hE.symm.trans hBlock
      cases hKind
  · intro d r' hD hR'
    rcases hForm.data r d hD (by simp) with
      ⟨j, r'', c, -, hR'', hC, hKindC⟩
    cases hR'.symm.trans hR''
    constructor
    · rintro rfl
      cases hSocket.symm.trans hC
      cases hKindC
    · rintro rfl
      exact hNe (hForm.own r p d lsd hD hSocket (by simp)
        (by simp) (hR'.trans hData.symm))

/- A connected stream is refused a second connect. -/
theorem connectRefusal_connected
    {d : LsckSocket}
    {serv : Option Bytes}
    {addrlen : Nat}
    (hConnected : d.connected = true)
    (hType : d.type = sockStream) :
    connectRefusal d serv addrlen ≠ none := by
  unfold connectRefusal
  split
  · exact Option.some_ne_none _
  · rw [if_pos ⟨hConnected, hType⟩]
    exact Option.some_ne_none _

/-
  All that a call does to secrets and roles concerns other
  blocks than those of an end: a connect on it is refused.
-/
theorem ownsCall_end
    {call : SocketCall}
    (hForm : WellFormed none s)
    (hSocket : s.heap p = some (.socket lsd))
    (hData : lsd.idata = some q)
    (hUnix : lsd.interface = some .unix)
    (hType : lsd.type = sockStream)
    (hConnected : lsd.connected = true) :
    OwnsCall (fun r => r ≠ p ∧ r ≠ q) Block.KeepsEnd call
      s := by
  constructor
  · intro r d _ _
    right
    intro d name n bound
    exact .of_same rfl rfl rfl rfl
  · intro t hFormT hKept
    rcases hKept p lsd hSocket with
      ⟨lsd', hSocket', hNarrows⟩
    have hData' := hNarrows.data.trans hData
    rcases hFormT.data p lsd' hSocket' (by simp) with
      ⟨i, q', b, -, hQ', hBlock, -⟩
    cases hData'.symm.trans hQ'
    constructor
    · intro r hFree
      constructor
      · rintro rfl
        cases hFree.symm.trans hSocket'
      · rintro rfl
        cases hFree.symm.trans hBlock
    · intro r hNew hThere
      apply owns_other hFormT hSocket' hData' hThere
      rintro rfl
      exact hNew ⟨lsd, hSocket⟩
  · intro env fd serv addrlen r d _ _ hD hPass
    apply owns_other hForm hSocket hData ⟨d, hD⟩
    rintro rfl
    cases hSocket.symm.trans hD
    rw [LsckSocket.checked_unix hUnix] at hPass
    exact connectRefusal_connected hConnected hType hPass

/- An end that is there after a call is the end it was. -/
theorem isEnd_socketExec
    {call : SocketCall}
    {accepted : Bool}
    {secret : UnixMsgSecret}
    {r : Int}
    (hForm : WellFormed none s)
    (hEnd : s.IsEnd p accepted secret)
    (hThere : s'.IsSocket p)
    (hRun : socketExec call s = .ok (r, s')) :
    s'.IsEnd p accepted secret := by
  have hForm' := wellFormed_socketExec hForm hRun
  rcases hEnd with
    ⟨lsd, usock, hHas, hUnix, hType, hConnected, hRole,
      hSecret⟩
  rcases hHas.data with ⟨q, hQ, hData⟩
  have hChanges := changes_socketExec hForm
    (ownsCall_end hForm hHas.socket hQ hUnix hType hConnected)
    hRun
  rcases hThere with ⟨lsd', hSocket'⟩
  rcases hChanges p _ (fun h => h.1 rfl) hSocket' with
    ⟨b, hB, hKeeps⟩
  cases hHas.socket.symm.trans hB
  rcases hKeeps.1 lsd' rfl with ⟨d, hD, hKept⟩
  cases hD
  have hUnix' := hKept.interface.trans hUnix
  rcases hForm'.hasUnix hSocket' hUnix' with ⟨usock', hHas'⟩
  have hQ' : lsd'.idata = some q :=
    (narrowed_socketExec hForm hRun p lsd lsd' hHas.socket
      hSocket').data.trans hQ
  rcases hHas'.data with ⟨q', hQ'', hData'⟩
  cases hQ'.symm.trans hQ''
  rcases hChanges q _ (fun h => h.2 rfl) hData' with
    ⟨c, hC, hKeepsC⟩
  cases hData.symm.trans hC
  rcases hKeepsC.2 usock' rfl with ⟨x, hX, hSame⟩
  cases hX
  exact ⟨lsd', usock', hHas', hUnix', hKept.type.trans hType,
    hKept.connected hConnected, hKept.accepted.trans hRole,
    hSame.trans hSecret⟩

end Call

------------------------------------------------------------
-- Connections
------------------------------------------------------------

/-
  A stream connection and its two ends, the connecting one
  first, as programs make it: the client's process is in a
  state that the library's calls lead to.
-/
inductive Joined : Making → End → End → Prop
  | handshake
      {serv name m m' rep : Bytes}
      {req : UnixMsgOpen}
      {more more' : List Bytes}
      {s s' : Process}
      {e e' : End}
      (reached : lsckSystem.ReachableUnder
        (fun _ call => call.plain = true) s)
      (client : ClientConnects serv req (rep :: more) s e)
      (server :
        ServerAccepts name m (req.encode :: more') s' e')
      (asked : (m, req.encode) ∈ newMessages s e.process)
      (answered : (m', rep) ∈ newMessages s' e'.process) :
      Joined (.handshake serv) e e'
  | socketpair
      {env : SocketpairEnv}
      {domain protocol : Int}
      {s : Process}
      {e e' : End}
      (same : e'.process = e.process)
      (made : PairMade env domain protocol e.fd e'.fd s
        e.process) :
      Joined .socketpair e e'

/- The role of the second end. -/
def Making.accepted : Making → Bool
| .handshake _ => true
| .socketpair => false

/- Where an end is, with its role and its secret. -/
def End.Holds
    (e : End)
    (p : Ptr)
    (accepted : Bool)
    (secret : UnixMsgSecret) : Prop :=
  WellFormed none e.process ∧ e.process.LeadsTo e.fd p ∧
    e.process.IsEnd p accepted secret

/- A stream that connects was not connected. -/
theorem connected_of_connect
    {env : ConnectEnv}
    {fd : Fd}
    {p : Ptr}
    {d : LsckSocket}
    {serv : Option Bytes}
    {addrlen : Nat}
    {s s' : Process}
    (hLeads : s.LeadsTo fd p)
    (hSocket : s.heap p = some (.socket d))
    (hInterface : d.interface = some .unix)
    (hType : d.type = sockStream)
    (hRun : connect env fd serv addrlen s = .ok (0, s')) :
    d.connected = false := by
  rcases prologue_ok hRun with ⟨hFail, -, -⟩ |
    ⟨q, d', i, hLeads', hSocket', -, hTail⟩
  · cases hFail
  cases hLeads.2.symm.trans hLeads'.2
  cases hSocket.symm.trans hSocket'
  rw [LsckSocket.checked_unix hInterface] at hTail
  cases hRefusal : connectRefusal d serv addrlen with
  | some e =>
      rw [hRefusal] at hTail
      cases hTail
  | none =>
      cases hConnected : d.connected with
      | false => rfl
      | true =>
          exact absurd hRefusal
            (connectRefusal_connected hConnected hType)

/- The client has the secret of its request. -/
theorem ClientConnects.isEnd
    {serv : Bytes}
    {req : UnixMsgOpen}
    {ms : List Bytes}
    {s : Process}
    {e : End}
    (hReach : lsckSystem.ReachableUnder
      (fun _ call => call.plain = true) s)
    (hClient : ClientConnects serv req ms s e) :
    ∃ p, e.Holds p false req.header.secret := by
  rcases hClient with
    ⟨hForm, env, p, d, addrlen, t, hLeads, hSocket, hI, hType,
      hRun, hStages⟩
  have hForm' := wellFormed_connect hForm hRun
  rcases hForm.socket_of_leadsTo hLeads with ⟨d', hD', hFd⟩
  cases hSocket.symm.trans hD'
  rcases connect_unix_ok hLeads hSocket hI hType hRun with
    ⟨t', hConnect, hDone⟩
  rcases unixConnect_ok hConnect with ⟨req', ms', hStages'⟩
  rcases hStages.unique hStages' with ⟨rfl, rfl, rfl⟩
  rcases hForm.hasUnix hSocket hI with ⟨usock, hUnix⟩
  rcases hStages.holds hForm hUnix hI with
    ⟨d₁, usock₁, fdW, peer, rep, -, hUnix₁, hKeeps₁, -⟩
  rcases connectDone_unix hUnix₁ hDone with
    ⟨-, d₂, hUnix₂, hKeeps₂, hConnected⟩
  -- What is accepted is connected, and does not connect.
  have hAccepted : d.accepted = false := by
    have hBefore := connected_of_connect hLeads hSocket hI
      hType hRun
    cases hAccepted : d.accepted with
    | false => rfl
    | true =>
        have hOk := permitted_of_reachable hReach p d hSocket
        cases hBefore.symm.trans (hOk.accepted hAccepted)
  refine ⟨p, hForm', ?_, d₂, _, hUnix₂, ?_, ?_, hConnected,
    ?_, rfl⟩
  · have hLeads' := hForm'.entry hUnix₂.socket
    rw [hKeeps₂.fd, hKeeps₁.fd, hFd] at hLeads'
    exact hLeads'
  · exact hKeeps₂.interface.trans
      (hKeeps₁.interface.trans hI)
  · exact hKeeps₂.type.trans (hKeeps₁.type.trans hType)
  · exact hKeeps₂.accepted.trans
      (hKeeps₁.accepted.trans hAccepted)

/- A read that starts with a request finds its secret. -/
theorem secret_received
    (req : UnixMsgOpen)
    (junk : Fin 148 → UInt8)
    (more : List Bytes) :
    (receivedRequest junk (req.encode :: more)).header.secret =
      req.header.secret := by
  have hStart : (req.encode ++ more.flatten).take 148 =
      req.header.encode ++
        (req.path ++ more.flatten).take 128 := by
    rw [UnixMsgOpen.encode, List.append_assoc,
      List.take_append, UnixMsgHeader.length_encode,
      List.take_of_length_le (by simp [headerSize])]
    rfl
  unfold receivedRequest overlay UnixMsgOpen.decode
  rw [List.length_ofFn, List.flatten_cons, hStart,
    List.append_assoc, UnixMsgHeader.decode_clip]
  rfl

/- The listener's new end has the secret of the request. -/
theorem ServerAccepts.isEnd
    {name m : Bytes}
    {req : UnixMsgOpen}
    {more : List Bytes}
    {s : Process}
    {e : End}
    (hServer : ServerAccepts name m (req.encode :: more) s e) :
    ∃ p, e.Holds p true req.header.secret := by
  rcases hServer with
    ⟨hForm, env, fd, p, d, slot, np, t, hLeads, hSocket, hI,
      -, hRun, hSuccess, hReserved, hStages⟩
  have hExec : exec (.accept env fd true true) s =
      .ok (e.fd, e.process) := hRun
  have hForm' := wellFormed_exec hForm hExec
  rcases accept_unix_ok hForm hLeads hSocket hI hReserved hRun
    hSuccess with ⟨t', hAccept, hMark⟩
  rcases unixAccept_stages hAccept with ⟨ms', hStages'⟩
  rcases hStages.unique hStages' with ⟨rfl, rfl⟩
  rcases hStages.answers with
    ⟨lsd, server, client, mR, mW, nsd, fdR, fdW, req', rfl, -,
      -, -, -, -, -, -, -, hUnix, -⟩
  rcases hUnix.modifySocket hMark rfl with ⟨-, hUnix'⟩
  -- Only a stream accepts, and the copy has its type.
  have hType : d.type = sockStream := by
    rcases accept_ok hForm.fds hRun with ⟨hFail, -⟩ |
      ⟨p', d', hLeads', hSocket', ⟨hFail, -⟩ | ⟨hPass, -⟩⟩
    · exact absurd hFail hSuccess
    · exact absurd hFail hSuccess
    cases hLeads.2.symm.trans hLeads'.2
    cases hSocket.symm.trans hSocket'
    rw [LsckSocket.checked_unix hI] at hPass
    exact (acceptRefusal_none hPass).1
  rcases attaches_unixAccept env.unixEnv p np _ 0 _ hAccept
    with ⟨q, v, hAttached, hStill, -⟩
  have hStatus := reserved_socket hAttached hStill hUnix.socket
  have hFd := congrArg LsckSocket.fd hStatus
  have hInterface := congrArg LsckSocket.interface hStatus
  have hSame := congrArg LsckSocket.type hStatus
  refine ⟨np, hForm', ?_, _, _, hUnix', hInterface.trans hI,
    hSame.trans hType, rfl, rfl, secret_received _ _ _⟩
  have hEntry := hForm'.entry hUnix'.socket
  rwa [show nsd.fd = e.fd from hFd] at hEntry

/- The ends of a pair have one secret and one role. -/
theorem PairMade.isEnds
    {env : SocketpairEnv}
    {domain protocol : Int}
    {e e' : End}
    {s : Process}
    (hSame : e'.process = e.process)
    (hMade : PairMade env domain protocol e.fd e'.fd s
      e.process) :
    ∃ p p' secret, e.Holds p false secret ∧
      e'.Holds p' false secret := by
  rcases hMade.pairs with
    ⟨p₀, p₁, d₀, d₁, t, t', hForm, hNe, hSocket₀, hSocket₁,
      hFd₀, hFd₁, hYoung₀, hYoung₁, hRun, hFormS, hSameUnix⟩
  have hType₀ := (hYoung₀ d₀ hSocket₀).type_eq
  rcases unixSocketpair_ends hForm hNe hSocket₀ hSocket₁
    hType₀ hRun (by decide) with
    ⟨-, u₀, u₁, fdR₀, fdR₁, fdW₀, fdW₁, secret, hI₀, hI₁,
      hUnix₀, hUnix₁⟩
  have hHolds : ∀ {p : Ptr} {d : LsckSocket} {usock},
      t'.HasUnix p d.joined usock →
      d.interface = some .unix →
      LsckSocket.Young sockStream d →
      e.process.LeadsTo d.fd p ∧
        e.process.IsEnd p false usock.secret := by
    intro p d usock hUnix hI hYoung
    rcases hSameUnix p _ usock hUnix with
      ⟨d', hUnix', hStatus⟩
    have hFd := congrArg LsckSocket.fd hStatus
    have hInterface := congrArg LsckSocket.interface hStatus
    have hType := congrArg LsckSocket.type hStatus
    have hConnected := congrArg LsckSocket.connected hStatus
    have hAccepted := congrArg LsckSocket.accepted hStatus
    constructor
    · have hEntry := hFormS.entry hUnix'.socket
      rwa [show d'.fd = d.fd from hFd] at hEntry
    · exact ⟨d', usock, hUnix', hInterface.trans hI,
        hType.trans hYoung.type_eq, hConnected,
        hAccepted.trans hYoung.accepted, rfl⟩
  rcases hHolds hUnix₀ hI₀ (hYoung₀ d₀ hSocket₀) with
    ⟨hLeads₀, hEnd₀⟩
  rcases hHolds hUnix₁ hI₁ (hYoung₁ d₁ hSocket₁) with
    ⟨hLeads₁, hEnd₁⟩
  rw [hFd₀] at hLeads₀
  rw [hFd₁] at hLeads₁
  refine ⟨p₀, p₁, secret, ⟨hFormS, hLeads₀, hEnd₀⟩, ?_⟩
  unfold End.Holds
  rw [hSame]
  exact ⟨hFormS, hLeads₁, hEnd₁⟩

/- The ends share a secret, and `accept` sets the role. -/
theorem Joined.ends
    {made : Making}
    {e e' : End}
    (hJoined : Joined made e e') :
    ∃ p p' secret, e.Holds p false secret ∧
      e'.Holds p' made.accepted secret := by
  cases hJoined with
  | @handshake _ _ _ _ _ req _ _ _ _ _ _ hReach hClient
      hServer _ _ =>
      rcases hClient.isEnd hReach with ⟨p, hEnd⟩
      rcases hServer.isEnd with ⟨p', hEnd'⟩
      exact ⟨p, p', req.header.secret, hEnd, hEnd'⟩
  | socketpair hSame hMade => exact hMade.isEnds hSame

------------------------------------------------------------
-- The Life Of An End
------------------------------------------------------------

/- A later state in which the end's descriptor is there. -/
def End.Lives (e : End) (p : Ptr) (s : Process) : Prop :=
  e.process.LeadsTo e.fd p ∧
    socketSystem.Path (·.IsSocket p) e.process s

theorem End.Lives.isEnd
    {e : End}
    {p q : Ptr}
    {accepted : Bool}
    {secret : UnixMsgSecret}
    {s : Process}
    (hLives : e.Lives p s)
    (hHolds : e.Holds q accepted secret) :
    s.IsEnd p accepted secret := by
  rcases hHolds with ⟨hForm, hLeads, hEnd⟩
  rcases hLives with ⟨hLeads', hPath⟩
  cases hLeads.2.symm.trans hLeads'.2
  have hBoth : WellFormed none s ∧
      s.IsEnd p accepted secret := by
    induction hPath with
    | refl => exact ⟨hForm, hEnd⟩
    | step _ hStep hThere ih =>
        rcases hStep with ⟨r, hRun⟩
        constructor
        · exact wellFormed_socketExec ih.1 hRun
        · exact isEnd_socketExec ih.1 ih.2 hThere hRun
  exact hBoth.2

end Libsocket
