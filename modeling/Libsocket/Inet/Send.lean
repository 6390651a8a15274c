import Libsocket.Inet.Questions
import Libsocket.Library.Memory
import Libsocket.Library.Resource
import Libsocket.Library.Session

/-
  `res_send` asks the name servers in turn, over datagrams or
  a virtual circuit, and waits for an answer. It is taken
  apart where it waits for a system call, so that a run is
  given by the replies of these calls.

  Main declarations:
    * `SendCall`, `Sending`, `Waiting`
    * `resIsourserver`, `resSendResume`, `resSend`
    * `resSendSession`, `resSendRun`
-/

namespace Libsocket

------------------------------------------------------------
-- The Call And Its State
------------------------------------------------------------

/- `PACKETSZ` -/
def packetsz : Nat := 512

/-
  What does not change during a call: the options of `_res`,
  its servers, and the arguments. No hook is set.
-/
structure SendCall where
  usevc : Bool
  stayopen : Bool
  igntc : Bool
  insecure1 : Bool
  insecure2 : Bool
  pfcode : Nat
  retry : Nat
  servers : ResState
  query : Packet
  anssiz : Nat

def SendCall.nscount (c : SendCall) : Nat := c.servers.nscount

/-
  The socket with its two marks, which outlive the call; the
  loop counters and the other variables of the call; and the
  buffer of the answer.
-/
structure Sending where
  s : Option Nat
  connected : Bool
  vc : Bool
  tries : Nat
  ns : Nat
  vCircuit : Bool
  gotsomewhere : Bool
  connreset : Bool
  terrno : Errno
  badns : List Nat
  ans : Memory UInt8

/- The system call whose reply is waited for. -/
inductive Waiting where
| socketVc
| connectVc
| writev
| readLength (cp len : Nat)
| readAnswer (cp len resplen : Nat) (truncated : Bool)
| readJunk (len resplen : Nat)
| socketDg
| connectDg
| send
| sendto
| select
| recvfrom
deriving DecidableEq

/-
  A reply: what the call returned, `errno`, the bytes that
  were read and where they came from.
-/
structure Reply where
  n : Int
  errno : Errno
  data : Bytes
  source : SockaddrIn

/-
  What is done with the socket, where `none` is no socket; and
  what becomes of the servers.
-/
inductive NetEvent where
| opened (s : Nat)
| used (s : Option Nat)
| asked (ns : Nat)
| heard (r : Reply)
| timedOut
| bad (ns : Nat)
| closed (s : Nat)

/-
  How the call ends: with an answer, or with -1, where no
  socket was got or no server answered.
-/
inductive SendEnd where
| answered (resplen : Nat)
| noSocket (errno : Errno)
| failed (errno : Errno)
deriving DecidableEq

/- What is done up to the next wait, or to the end. -/
abbrev SendTurn : Type :=
  List NetEvent × ((Sending × Waiting) ⊕ (Sending × SendEnd))

/- Something was done before. -/
def SendTurn.after
    (log : List NetEvent)
    (t : SendTurn) : SendTurn :=
  (log ++ t.1, t.2)

------------------------------------------------------------
-- The Checks On An Answer
------------------------------------------------------------

/- `res_isourserver` -/
def resIsourserver
    (servers : ResState)
    (inp : SockaddrIn) : Bool :=
  (servers.nsaddrList.take servers.nscount).any fun srv =>
    decide (srv.sinFamily = inp.sinFamily) &&
      decide (srv.sinPort = inp.sinPort) &&
      (decide (srv.sinAddr = .any) ||
        decide (srv.sinAddr = inp.sinAddr))

/- The answer has the number of the query. -/
def SendCall.SameId (c : SendCall) (ans : Memory UInt8) : Prop :=
  c.query.buf 0 = ans 0 ∧ c.query.buf 1 = ans 1

instance (c : SendCall) (ans : Memory UInt8) :
    Decidable (c.SameId ans) := by
  unfold SendCall.SameId
  infer_instance

/- The answer comes from one of the servers. -/
def SendCall.FromServer
    (c : SendCall)
    (from_ : SockaddrIn) : Prop :=
  c.insecure1 = true ∨ resIsourserver c.servers from_ = true

instance (c : SendCall) (from_ : SockaddrIn) :
    Decidable (c.FromServer from_) := by
  unfold SendCall.FromServer
  infer_instance

/- The answer is about the questions of the query. -/
def SendCall.SameQueries
    (c : SendCall)
    (ans : Memory UInt8) : Prop :=
  c.insecure2 = true ∨
    resQueriesmatch c.query ⟨ans, c.anssiz⟩ ≠ 0

instance (c : SendCall) (ans : Memory UInt8) :
    Decidable (c.SameQueries ans) := by
  unfold SendCall.SameQueries
  infer_instance

/- The server failed, or does not want to answer. -/
def refused (ans : Memory UInt8) : Bool :=
  (ans 3).toNat % 16 = 2 || (ans 3).toNat % 16 = 4 ||
    (ans 3).toNat % 16 = 5

/- The answer was cut. -/
def tc (ans : Memory UInt8) : Bool :=
  (ans 2).toNat / 2 % 2 = 1

------------------------------------------------------------
-- From One Wait To The Next
------------------------------------------------------------

/- `_res_close` -/
def resClose (st : Sending) : List NetEvent × Sending :=
  match st.s with
  | none => ([], st)
  | some s =>
      ([.closed s],
        { st with s := none, connected := false, vc := false })

/- The call is left behind both loops. -/
def giveUp (st : Sending) : SendTurn :=
  ((resClose st).1,
    .inr ((resClose st).2, .failed
      (if st.vCircuit then
        st.terrno
      else if st.gotsomewhere then
        .ETIMEDOUT
      else
        .ECONNREFUSED)))

/- The next server, or the first of the next round. -/
def Sending.next
    (c : SendCall)
    (st : Sending) : Option Sending :=
  if st.ns + 1 < c.nscount then
    some { st with ns := st.ns + 1 }
  else if st.tries + 1 < c.retry then
    some { st with tries := st.tries + 1, ns := 0 }
  else
    none

/- A datagram is sent; only to the one server there is, or to
   the first in the first round, through a connected socket. -/
def sendDatagram (c : SendCall) (st : Sending) : SendTurn :=
  if c.nscount = 1 ∨ (st.tries = 0 ∧ st.ns = 0) then
    ([], .inl (st, if st.connected then .send else .connectDg))
  else if st.connected then
    ([.used st.s], .inl ({ st with connected := false }, .sendto))
  else
    ([], .inl (st, .sendto))

/- A server that is not known to be bad is asked. -/
def askServer (c : SendCall) (st : Sending) : SendTurn :=
  if st.vCircuit then
    let st := { st with tries := c.retry }
    if st.s = none ∨ st.vc = false then
      ((resClose st).1, .inl ((resClose st).2, .socketVc))
    else
      ([], .inl (st, .writev))
  else if st.s = none ∨ st.vc = true then
    if st.vc then
      ((resClose st).1, .inl ((resClose st).2, .socketDg))
    else
      ([], .inl (st, .socketDg))
  else
    sendDatagram c st

/- A bound on the turns that are left. -/
def Sending.rank (c : SendCall) (st : Sending) : Nat :=
  (c.retry - st.tries) * (c.nscount + 1) + (c.nscount - st.ns)

theorem Sending.rank_next
    {c : SendCall}
    {st st' : Sending}
    (hNext : st.next c = some st') :
    st'.rank c < st.rank c := by
  unfold Sending.next at hNext
  unfold rank
  split at hNext
  · cases hNext
    dsimp only
    omega
  · split at hNext
    · cases hNext
      have hRounds : c.retry - st.tries =
          (c.retry - (st.tries + 1)) + 1 := by omega
      rw [hRounds, Nat.add_mul]
      dsimp only
      omega
    · cases hNext

theorem Sending.rank_resClose
    (c : SendCall)
    (st : Sending) :
    (resClose st).2.rank c = st.rank c := by
  unfold resClose
  split
  · rfl
  · rfl

/- `same_ns`: bad servers are passed over. -/
def sameNs (c : SendCall) (st : Sending) : SendTurn :=
  if st.ns ∈ st.badns then
    match _hNext : (resClose st).2.next c with
    | some st' => (sameNs c st').after (resClose st).1
    | none => (giveUp (resClose st).2).after (resClose st).1
  else
    askServer c st
termination_by st.rank c
decreasing_by
  rw [← Sending.rank_resClose c st]
  exact Sending.rank_next _hNext

/- `next_ns` -/
def nextNs (c : SendCall) (st : Sending) : SendTurn :=
  match st.next c with
  | some st => sameNs c st
  | none => giveUp st

/- The socket is closed, and the next server has its turn. -/
def closeNext (c : SendCall) (st : Sending) : SendTurn :=
  (nextNs c (resClose st).2).after (resClose st).1

/- The same, and this server is bad. -/
def badNext (c : SendCall) (st : Sending) : SendTurn :=
  (closeNext c { st with badns := st.ns :: st.badns }).after
    [.bad st.ns]

/-
  An answer was taken. The socket stays open only if this is
  asked for, and a virtual circuit only to the first server.
-/
def gotAnswer
    (c : SendCall)
    (st : Sending)
    (resplen : Nat) : SendTurn :=
  if (st.vCircuit = true ∧ (c.usevc = false ∨ st.ns ≠ 0)) ∨
      c.stayopen = false then
    ((resClose st).1, .inr ((resClose st).2, .answered resplen))
  else
    ([], .inr (st, .answered resplen))

------------------------------------------------------------
-- The Virtual Circuit
------------------------------------------------------------

/- `anhp->tc = 1` -/
def setTc (ans : Memory UInt8) : Memory UInt8 :=
  ans.store 2 [ans 2 ||| 2]

/- The length is known; so much is read as there is room. -/
def lengthKnown (c : SendCall) (st : Sending) : SendTurn :=
  let resplen := (⟨st.ans, c.anssiz⟩ : Packet).getshort 0
  if resplen = 0 then
    gotAnswer c st resplen
  else if c.anssiz < resplen then
    if c.anssiz = 0 then
      ([], .inl ({ st with ans := setTc st.ans },
        .readJunk resplen resplen))
    else
      ([], .inl (st, .readAnswer 0 c.anssiz resplen true))
  else
    ([], .inl (st, .readAnswer 0 resplen resplen false))

/- A reply to `read` while the length is read. -/
def lengthRead
    (c : SendCall)
    (st : Sending)
    (cp len : Nat)
    (r : Reply) : SendTurn :=
  if 0 < r.n then
    let st := { st with ans := st.ans.store cp r.data }
    if len ≤ r.n.toNat then
      lengthKnown c st
    else
      ([], .inl (st,
        .readLength (cp + r.n.toNat) (len - r.n.toNat)))
  else
    let st := { st with terrno := r.errno }
    SendTurn.after (resClose st).1
      (if r.errno = .ECONNRESET ∧ st.connreset = false then
        sameNs c { (resClose st).2 with connreset := true }
      else
        nextNs c (resClose st).2)

/-
  The answer was read. What has no room is read too, so that
  the circuit stays in step.
-/
def answerWhole
    (c : SendCall)
    (st : Sending)
    (resplen : Nat)
    (truncated : Bool) : SendTurn :=
  if truncated then
    ([], .inl ({ st with ans := setTc st.ans },
      .readJunk (resplen - c.anssiz) resplen))
  else
    gotAnswer c st resplen

/- A reply to `read` while the answer is read. -/
def answerRead
    (c : SendCall)
    (st : Sending)
    (cp len resplen : Nat)
    (truncated : Bool)
    (r : Reply) : SendTurn :=
  if 0 < r.n then
    let st := { st with ans := st.ans.store cp r.data }
    if len ≤ r.n.toNat then
      answerWhole c st resplen truncated
    else
      ([], .inl (st, .readAnswer (cp + r.n.toNat)
        (len - r.n.toNat) resplen truncated))
  else
    closeNext c { st with terrno := r.errno }

/- A reply to `read` of what has no room. -/
def junkRead
    (c : SendCall)
    (st : Sending)
    (len resplen : Nat)
    (r : Reply) : SendTurn :=
  if 0 < r.n ∧ r.n.toNat < len then
    ([], .inl (st, .readJunk (len - r.n.toNat) resplen))
  else
    gotAnswer c st resplen

------------------------------------------------------------
-- Datagrams
------------------------------------------------------------

/- The answer is complete, or it is asked for once more. -/
def wholeAnswer
    (c : SendCall)
    (st : Sending)
    (resplen : Nat) : SendTurn :=
  if c.igntc = false ∧ tc st.ans = true then
    (sameNs c { (resClose st).2 with vCircuit := true }).after
      (resClose st).1
  else
    gotAnswer c st resplen

/- The answer belongs to the query. -/
def ourAnswer
    (c : SendCall)
    (st : Sending)
    (resplen : Nat) : SendTurn :=
  if refused st.ans then
    let st' := { (resClose st).2 with
      badns := st.ns :: st.badns }
    SendTurn.after (.bad st.ns :: (resClose st).1)
      (if c.pfcode = 0 then
        nextNs c st'
      else
        wholeAnswer c st' resplen)
  else
    wholeAnswer c st resplen

/- A reply to `recvfrom`; other answers are passed over. -/
def received
    (c : SendCall)
    (st : Sending)
    (r : Reply) : SendTurn :=
  if r.n ≤ 0 then
    closeNext c st
  else
    let st := { st with
      ans := st.ans.store 0 r.data
      gotsomewhere := true }
    SendTurn.after [.heard r]
      (if c.SameId st.ans ∧ c.FromServer r.source ∧
          c.SameQueries st.ans then
        ourAnswer c st r.n.toNat
      else
        ([], .inl (st, .select)))

/- A reply to `select`. -/
def selected
    (c : SendCall)
    (st : Sending)
    (r : Reply) : SendTurn :=
  if r.n < 0 then
    if r.errno = .EINTR then
      ([], .inl (st, .select))
    else
      closeNext c st
  else if r.n = 0 then
    (closeNext c { st with gotsomewhere := true }).after
      [.timedOut]
  else
    ([], .inl (st, .recvfrom))

------------------------------------------------------------
-- The Whole Call
------------------------------------------------------------

/- A query was written whole, or the server is bad. -/
def written
    (c : SendCall)
    (st : Sending)
    (whole : Bool)
    (w : Waiting) : SendTurn :=
  if whole then
    ([.asked st.ns], .inl (st, w))
  else
    badNext c st

/- What is done with a reply. -/
def resSendResume
    (c : SendCall)
    (st : Sending)
    (r : Reply) : Waiting → SendTurn
| .socketVc =>
    if r.n < 0 then
      ([], .inr ({ st with s := none }, .noSocket r.errno))
    else
      ([.opened r.n.toNat],
        .inl ({ st with s := some r.n.toNat }, .connectVc))
| .connectVc =>
    SendTurn.after [.used st.s]
      (if r.n < 0 then
        badNext c { st with terrno := r.errno }
      else
        ([], .inl ({ st with vc := true }, .writev)))
| .writev =>
    SendTurn.after [.used st.s]
      (if r.n = 2 + c.query.anslen then
        written c st true (.readLength 0 2)
      else
        written c { st with terrno := r.errno } false .writev)
| .readLength cp len =>
    (lengthRead c st cp len r).after [.used st.s]
| .readAnswer cp len resplen truncated =>
    (answerRead c st cp len resplen truncated r).after
      [.used st.s]
| .readJunk len resplen =>
    (junkRead c st len resplen r).after [.used st.s]
| .socketDg =>
    if r.n < 0 then
      ([], .inr ({ st with s := none }, .noSocket r.errno))
    else
      (sendDatagram c { st with
        s := some r.n.toNat
        connected := false }).after [.opened r.n.toNat]
| .connectDg =>
    SendTurn.after [.used st.s]
      (if r.n < 0 then
        badNext c st
      else
        ([], .inl ({ st with connected := true }, .send)))
| .send =>
    (written c st (r.n = c.query.anslen) .select).after
      [.used st.s]
| .sendto =>
    (written c st (r.n = c.query.anslen) .select).after
      [.used st.s]
| .select => (selected c st r).after [.used st.s]
| .recvfrom => (received c st r).after [.used st.s]

def resSendSession (c : SendCall) :
    Session (Sending × Waiting) Reply NetEvent
      (Sending × SendEnd) where
  resume x r := resSendResume c x.1 r x.2

/-
  `res_send`, up to its first wait, with the socket that an
  earlier call left open and its marks.
-/
def resSend
    (c : SendCall)
    (s : Option Nat)
    (connected vc : Bool)
    (ans : Memory UInt8) : SendTurn :=
  let st : Sending := {
    s := s
    connected := connected
    vc := vc
    tries := 0
    ns := 0
    vCircuit := c.usevc || decide (packetsz < c.query.anslen)
    gotsomewhere := false
    connreset := false
    terrno := .ETIMEDOUT
    badns := []
    ans := ans }
  if c.retry = 0 ∨ c.nscount = 0 then
    giveUp st
  else
    sameNs c st

/- Where a call is after some replies. -/
def resSendRun
    (c : SendCall)
    (s : Option Nat)
    (connected vc : Bool)
    (ans : Memory UInt8)
    (rs : List Reply) :
    List NetEvent × ((Sending × Waiting) ⊕ (Sending × SendEnd)) :=
  (resSendSession c).run rs (resSend c s connected vc ans)

end Libsocket
