import Libsocket.Inet
import Libsocket.Library.Resource
import Libsocket.Library.Session

/-
  `rcmd` runs a command on another host: from a reserved port
  it connects, lets the server connect to a second socket for
  the errors, and says who wants what. A run is given by the
  replies of the system calls.

  Main declarations:
    * `RcmdCall`, `rcmdResume`, `rcmdSession`
    * `rcmdRun_sockets`, `rcmdRun_writes`
-/

namespace Libsocket

------------------------------------------------------------
-- The Call
------------------------------------------------------------

/- The variables that hold a socket; `s3` goes to `*fd2p`. -/
inductive RcmdSocket where
| s
| s2
| s3
deriving DecidableEq

/-
  The arguments, the number of addresses that the host has
  behind its first one, and if there is an `fd2p`.
-/
structure RcmdCall where
  addrs : Nat
  locuser : Bytes
  remuser : Bytes
  cmd : Bytes
  fd2p : Bool

structure RcmdState where
  lport : Int
  timo : Nat
  addrs : Nat

/- The system call whose reply is waited for. -/
inductive RcmdWait where
| socket (x : RcmdSocket)
| bind (x : RcmdSocket)
| connect
| number
| accept
| status
| message
deriving DecidableEq

/-
  What the call returned and `errno`, behind the call that
  closes the socket, if there is one; where a connection came
  from; and the byte that was read.
-/
structure RcmdReply where
  n : Int
  errno : Errno
  family : Int
  port : Nat
  c : UInt8

inductive RcmdEvent where
| opened (x : RcmdSocket)
| bound (x : RcmdSocket) (port : Nat)
| used (x : RcmdSocket)
| wrote (x : RcmdSocket) (b : Bytes)
| closed (x : RcmdSocket)
deriving DecidableEq

/- The end, with a connection or without. -/
abbrev RcmdEnd : Type := RcmdState × Bool

abbrev RcmdTurn : Type :=
  List RcmdEvent × ((RcmdState × RcmdWait) ⊕ RcmdEnd)

/- `IPPORT_RESERVED` -/
def ipportReserved : Nat := 1024

/- The port for `lport`, a `u_short`. -/
def portOf (lport : Int) : Nat := (lport % 65536).toNat

/- `%d` -/
def decimalInt (n : Int) : Bytes :=
  if n < 0 then 45 :: decimal n.natAbs else decimal n.toNat

------------------------------------------------------------
-- From One Wait To The Next
------------------------------------------------------------

/- `rresvport` gives up. -/
def noPort (st : RcmdState) : RcmdSocket → RcmdTurn
| .s2 => ([.closed .s], .inr (st, false))
| _ => ([], .inr (st, false))

/- `rresvport` returns a socket; the second one listens. -/
def portGot (st : RcmdState) : RcmdSocket → RcmdTurn
| .s2 => ([.used .s2], .inl (st, .number))
| _ => ([], .inl (st, .connect))

/- A reply to `bind`: one port after the other is tried. -/
def boundPort
    (st : RcmdState)
    (x : RcmdSocket)
    (r : RcmdReply) : RcmdTurn :=
  if 0 ≤ r.n then
    (.bound x (portOf st.lport) :: (portGot st x).1,
      (portGot st x).2)
  else if r.errno ≠ .EADDRINUSE then
    (.closed x :: (noPort st x).1, (noPort st x).2)
  else
    let st := { st with lport := st.lport - 1 }
    if st.lport = (ipportReserved : Int) / 2 then
      (.closed x :: (noPort st x).1, (noPort st x).2)
    else
      ([], .inl (st, .bind x))

/- Who runs the command, as whom, and the command. -/
def handshake (c : RcmdCall) (st : RcmdState) : RcmdTurn :=
  ([.wrote .s (c.locuser ++ [0]), .wrote .s (c.remuser ++ [0]),
    .wrote .s (c.cmd ++ [0])], .inl (st, .status))

/- `bad2` -/
def bad2 (st : RcmdState) : RcmdTurn :=
  ((if st.lport ≠ 0 then [.closed .s3] else []) ++
    [.closed .s], .inr (st, false))

/- A reply to `connect`. -/
def rcmdConnected
    (c : RcmdCall)
    (st : RcmdState)
    (r : RcmdReply) : RcmdTurn :=
  if 0 ≤ r.n then
    if c.fd2p then
      ([], .inl ({ st with lport := st.lport - 1 },
        .socket .s2))
    else
      let turn := handshake c { st with lport := 0 }
      (.wrote .s [0] :: turn.1, turn.2)
  else if r.errno = .EADDRINUSE then
    ([.closed .s], .inl ({ st with lport := st.lport - 1 },
      .socket .s))
  else if r.errno = .ECONNREFUSED ∧ st.timo ≤ 16 then
    ([.closed .s], .inl ({ st with timo := st.timo * 2 },
      .socket .s))
  else if 0 < st.addrs then
    ([.closed .s], .inl ({ st with addrs := st.addrs - 1 },
      .socket .s))
  else
    ([.closed .s], .inr (st, false))

/- A reply to the `write` of the port for the errors. -/
def numberWritten (st : RcmdState) (r : RcmdReply) : RcmdTurn :=
  let num := decimalInt st.lport
  if r.n = (num.length : Int) + 1 then
    ([.wrote .s (num ++ [0])], .inl (st, .accept))
  else
    ([.closed .s2, .closed .s], .inr (st, false))

/- A reply to `accept`. -/
def accepted
    (c : RcmdCall)
    (st : RcmdState)
    (r : RcmdReply) : RcmdTurn :=
  if r.n < 0 then
    ([.closed .s2, .closed .s],
      .inr ({ st with lport := 0 }, false))
  else
    let turn :=
      if r.family ≠ afInet ∨ ipportReserved ≤ r.port then
        bad2 st
      else
        handshake c st
    (.closed .s2 :: .opened .s3 :: turn.1, turn.2)

/- What is done with a reply. -/
def rcmdResume
    (c : RcmdCall)
    (st : RcmdState)
    (r : RcmdReply) : RcmdWait → RcmdTurn
| .socket x =>
    if r.n < 0 then
      noPort st x
    else
      ([.opened x], .inl (st, .bind x))
| .bind x =>
    (.used x :: (boundPort st x r).1, (boundPort st x r).2)
| .connect =>
    (.used .s :: (rcmdConnected c st r).1,
      (rcmdConnected c st r).2)
| .number =>
    (.used .s :: (numberWritten st r).1,
      (numberWritten st r).2)
| .accept =>
    (.used .s2 :: (accepted c st r).1, (accepted c st r).2)
| .status =>
    if r.n ≠ 1 then
      (.used .s :: (bad2 st).1, (bad2 st).2)
    else if r.c ≠ 0 then
      ([.used .s], .inl (st, .message))
    else
      ([.used .s], .inr (st, true))
| .message =>
    if r.n = 1 ∧ r.c ≠ 10 then
      ([.used .s], .inl (st, .message))
    else
      (.used .s :: (bad2 st).1, (bad2 st).2)

def rcmdSession (c : RcmdCall) :
    Session (RcmdState × RcmdWait) RcmdReply RcmdEvent
      RcmdEnd where
  resume x r := rcmdResume c x.1 r x.2

/- A run of `rcmd`, behind the look-up of its host. -/
def rcmdRun
    (c : RcmdCall)
    (rs : List RcmdReply) : RcmdTurn :=
  (rcmdSession c).run rs
    ([], .inl (⟨(ipportReserved : Int) - 1, 1, c.addrs⟩,
      .socket .s))

------------------------------------------------------------
-- What Is Open, And What Was Written
------------------------------------------------------------

def RcmdEvent.resource :
    RcmdEvent → Option (Resource.Event RcmdSocket)
| .opened x => some (.acquire x)
| .used x => some (.use x)
| .wrote x _ => some (.use x)
| .closed x => some (.release x)
| .bound _ _ => none

def rcmdSockets
    (log : List RcmdEvent) : List (Resource.Event RcmdSocket) :=
  log.filterMap RcmdEvent.resource

def RcmdEvent.bytes : RcmdEvent → Bytes
| .wrote .s b => b
| _ => []

/- What was written to the connection. -/
def rcmdWritten (log : List RcmdEvent) : Bytes :=
  log.flatMap RcmdEvent.bytes

/- The sockets that are open during a wait. -/
def RcmdWait.held (c : RcmdCall) : RcmdWait → List RcmdSocket
| .socket .s => []
| .bind .s | .connect => [.s]
| .socket _ => [.s]
| .bind _ | .number | .accept => [.s2, .s]
| .status | .message => if c.fd2p then [.s3, .s] else [.s]

/- The texts that tell who runs the command. -/
def RcmdCall.texts (c : RcmdCall) : Bytes :=
  c.locuser ++ [0] ++ (c.remuser ++ [0]) ++ (c.cmd ++ [0])

/-
  What was written up to a wait: nothing, or the port for the
  errors, or all that the server has to know.
-/
def RcmdWait.Wrote
    (c : RcmdCall)
    (log : List RcmdEvent)
    (lport : Int) : RcmdWait → Prop
| .socket _ | .bind _ | .connect => rcmdWritten log = []
| .number =>
    rcmdWritten log = [] ∧ .bound .s2 (portOf lport) ∈ log
| .accept =>
    rcmdWritten log = decimalInt lport ++ [0] ∧
      .bound .s2 (portOf lport) ∈ log
| .status | .message =>
    if c.fd2p then
      rcmdWritten log =
          decimalInt lport ++ [0] ++ c.texts ∧
        .bound .s2 (portOf lport) ∈ log
    else
      lport = 0 ∧ rcmdWritten log = 0 :: c.texts

/- A wait is for one of the two sockets that are bound. -/
def RcmdWait.Real (c : RcmdCall) : RcmdWait → Prop
| .socket .s3 | .bind .s3 => False
| .socket .s2 | .bind .s2 | .number | .accept => c.fd2p = true
| _ => True

/- How `rcmd` ends. -/
structure RcmdEnded
    (c : RcmdCall)
    (log : List RcmdEvent)
    (st : RcmdState)
    (ok : Bool) : Prop where
  sockets : Resource.replay (rcmdSockets log) [] =
    some (if ok then RcmdWait.status.held c
      else if c.fd2p ∧ st.lport = 0 ∧ .opened .s3 ∈ log then
        [.s3]
      else [])
  writes : ok = true → RcmdWait.status.Wrote c log st.lport

def rcmdProperty (c : RcmdCall) :
    Session.Property (RcmdState × RcmdWait) RcmdEvent
      RcmdEnd where
  waits log x :=
    Resource.replay (rcmdSockets log) [] = some (x.2.held c) ∧
      x.2.Wrote c log x.1.lport ∧ x.2.Real c ∧
      (.opened .s3 ∈ log ↔ .s3 ∈ x.2.held c)
  ends log e := RcmdEnded c log e.1 e.2

variable {c : RcmdCall} {st st' : RcmdState}
variable {w w' : RcmdWait} {log es : List RcmdEvent}

theorem rcmdWritten_append
    (log es : List RcmdEvent) :
    rcmdWritten (log ++ es) =
      rcmdWritten log ++ rcmdWritten es :=
  List.flatMap_append

theorem replay_rcmdSockets_append
    {held : List RcmdSocket}
    (hHeld : Resource.replay (rcmdSockets log) [] = some held) :
    Resource.replay (rcmdSockets (log ++ es)) [] =
      Resource.replay (rcmdSockets es) held := by
  unfold rcmdSockets at *
  rw [List.filterMap_append, Resource.replay_append, hHeld,
    Option.bind_some]

theorem wrote_status
    (c : RcmdCall)
    (log : List RcmdEvent)
    (lport : Int) :
    RcmdWait.status.Wrote c log lport =
      if c.fd2p then
        rcmdWritten log =
            decimalInt lport ++ [0] ++ c.texts ∧
          .bound .s2 (portOf lport) ∈ log
      else
        lport = 0 ∧ rcmdWritten log = 0 :: c.texts := rfl

theorem held_status (c : RcmdCall) :
    RcmdWait.status.held c =
      if c.fd2p then [.s3, .s] else [.s] := rfl

/- A wait behind a wait. -/
theorem rcmd_onward
    (hWaits : (rcmdProperty c).waits log (st, w))
    (hHeld : Resource.replay (rcmdSockets es) (w.held c) =
      some (w'.held c))
    (hWrote : w'.Wrote c (log ++ es) st'.lport)
    (hReal : w'.Real c)
    (hThird : .opened .s3 ∈ es ∨ .s3 ∈ w.held c ↔
      .s3 ∈ w'.held c) :
    (rcmdProperty c).Holds (log ++ es, .inl (st', w')) := by
  rcases hWaits with ⟨hOld, -, -, hOldThird⟩
  refine ⟨(replay_rcmdSockets_append hOld).trans hHeld, hWrote,
    hReal, ?_⟩
  dsimp only at hOldThird ⊢
  rw [List.mem_append, hOldThird, or_comm]
  exact hThird

/- An error behind a wait, without a third socket. -/
theorem rcmd_failed
    (hWaits : (rcmdProperty c).waits log (st, w))
    (hHeld : Resource.replay (rcmdSockets es) (w.held c) =
      some [])
    (hThird : .opened .s3 ∉ es)
    (hNone : .s3 ∉ w.held c) :
    (rcmdProperty c).Holds (log ++ es, .inr (st', false)) := by
  rcases hWaits with ⟨hOld, -, -, hOldThird⟩
  refine ⟨?_, nofun⟩
  have hNever : .opened .s3 ∉ log ++ es := by
    rw [List.mem_append, hOldThird]
    exact fun h => h.elim hNone hThird
  rw [if_neg Bool.false_ne_true,
    if_neg fun h => hNever h.2.2]
  exact (replay_rcmdSockets_append hOld).trans hHeld

/- `bad2`, behind the events of the reply. -/
theorem rcmd_bad2
    (hHeld : Resource.replay (rcmdSockets log) [] =
      some (RcmdWait.status.held c))
    (hThird : c.fd2p = true → .opened .s3 ∈ log)
    (hLport : c.fd2p = false → st.lport = 0) :
    (rcmdProperty c).Holds
      (log ++ (bad2 st).1, (bad2 st).2) := by
  refine ⟨?_, nofun⟩
  rw [if_neg Bool.false_ne_true,
    replay_rcmdSockets_append hHeld]
  have hOnly : .opened .s3 ∈ log ++ (bad2 st).1 ↔
      .opened .s3 ∈ log := by
    unfold bad2
    split
    · simp
    · simp
  simp only [hOnly, held_status]
  unfold bad2
  cases hFd : c.fd2p with
  | false =>
      simp [hLport hFd, rcmdSockets, RcmdEvent.resource,
        Resource.replay]
  | true =>
      have hOpened := hThird hFd
      by_cases hZero : st.lport = 0
      · simp [hZero, hOpened, rcmdSockets, RcmdEvent.resource,
          Resource.replay]
      · simp [hZero, rcmdSockets, RcmdEvent.resource,
          Resource.replay]

/- No port was found, and the socket for it is closed. -/
theorem noPort_holds
    {x : RcmdSocket}
    (hWaits : (rcmdProperty c).waits log (st, .bind x))
    (st' : RcmdState) :
    (rcmdProperty c).Holds
      (log ++ .used x :: .closed x :: (noPort st' x).1,
        (noPort st' x).2) := by
  cases x with
  | s => exact rcmd_failed hWaits rfl (by simp [noPort]) (by
      simp [RcmdWait.held])
  | s2 => exact rcmd_failed hWaits rfl (by simp [noPort]) (by
      simp [RcmdWait.held])
  | s3 => exact hWaits.2.2.1.elim

theorem boundPort_holds
    {x : RcmdSocket}
    (hWaits : (rcmdProperty c).waits log (st, .bind x))
    (r : RcmdReply) :
    (rcmdProperty c).Holds
      (log ++ .used x :: (boundPort st x r).1,
        (boundPort st x r).2) := by
  have hWrote : rcmdWritten log = [] := hWaits.2.1
  have hReal := hWaits.2.2.1
  unfold boundPort
  split
  next =>
      cases x with
      | s =>
          refine rcmd_onward hWaits rfl ?_ trivial (by
            simp [portGot, RcmdWait.held])
          change rcmdWritten _ = []
          rw [rcmdWritten_append, hWrote]
          rfl
      | s2 =>
          refine rcmd_onward hWaits rfl ⟨?_, ?_⟩ hReal (by
            simp [portGot, RcmdWait.held])
          · rw [rcmdWritten_append, hWrote]
            rfl
          · simp
      | s3 => exact hReal.elim
  next =>
      split
      next => exact noPort_holds hWaits st
      next =>
          dsimp only
          split
          next => exact noPort_holds hWaits _
          next =>
              refine rcmd_onward hWaits ?_ ?_ hReal (by simp)
              · cases x with
                | s => rfl
                | s2 => rfl
                | s3 => exact hReal.elim
              · change rcmdWritten _ = []
                rw [rcmdWritten_append, hWrote]
                rfl

/- All that the server has to know was written. -/
theorem handshake_holds
    (hHeld : Resource.replay (rcmdSockets log) [] =
      some (RcmdWait.status.held c))
    (hWrote : if c.fd2p then
        rcmdWritten log = decimalInt st.lport ++ [0] ∧
          .bound .s2 (portOf st.lport) ∈ log
      else
        st.lport = 0 ∧ rcmdWritten log = [0])
    (hThird : .opened .s3 ∈ log ↔
      .s3 ∈ RcmdWait.status.held c) :
    (rcmdProperty c).Holds
      (log ++ (handshake c st).1, (handshake c st).2) := by
  have hTexts : rcmdWritten (handshake c st).1 = c.texts := by
    simp [rcmdWritten, handshake, RcmdEvent.bytes,
      RcmdCall.texts]
  refine ⟨?_, ?_, trivial, ?_⟩
  · rw [replay_rcmdSockets_append hHeld, held_status]
    cases c.fd2p with
    | false => rfl
    | true => rfl
  · dsimp only
    rw [wrote_status]
    split at hWrote
    next hFd =>
        rw [if_pos hFd, rcmdWritten_append, hWrote.1, hTexts]
        exact ⟨rfl, List.mem_append_left _ hWrote.2⟩
    next hFd =>
        rw [if_neg hFd, rcmdWritten_append, hWrote.2, hTexts]
        exact ⟨hWrote.1, rfl⟩
  · dsimp only
    rw [List.mem_append, hThird]
    simp [handshake]

/- The socket is closed, and opened again. -/
theorem rcmd_again
    (hWaits : (rcmdProperty c).waits log (st, .connect))
    (st' : RcmdState) :
    (rcmdProperty c).Holds
      (log ++ [.used .s, .closed .s],
        .inl (st', .socket .s)) := by
  refine rcmd_onward hWaits rfl ?_ trivial (by
    simp [RcmdWait.held])
  have hWrote : rcmdWritten log = [] := hWaits.2.1
  change rcmdWritten _ = []
  rw [rcmdWritten_append, hWrote]
  rfl

theorem rcmdConnected_holds
    (hWaits : (rcmdProperty c).waits log (st, .connect))
    (r : RcmdReply) :
    (rcmdProperty c).Holds
      (log ++ .used .s :: (rcmdConnected c st r).1,
        (rcmdConnected c st r).2) := by
  have hWrote : rcmdWritten log = [] := hWaits.2.1
  unfold rcmdConnected
  split
  next =>
      split
      next hFd =>
          refine rcmd_onward hWaits rfl ?_ hFd (by
            simp [RcmdWait.held])
          change rcmdWritten _ = []
          rw [rcmdWritten_append, hWrote]
          rfl
      next hFd =>
          have hThird := hWaits.2.2.2
          have hFront := @handshake_holds c
            { st with lport := 0 }
            (log ++ [.used .s, .wrote .s [0]]) (by
              rw [replay_rcmdSockets_append hWaits.1,
                held_status, if_neg hFd]
              rfl) (by
              rw [if_neg hFd, rcmdWritten_append, hWrote]
              exact ⟨rfl, rfl⟩) (by
              rw [List.mem_append, hThird]
              simp [RcmdWait.held, hFd])
          rw [List.append_assoc] at hFront
          exact hFront
  next =>
      split
      next => exact rcmd_again hWaits _
      next =>
          split
          next => exact rcmd_again hWaits _
          next =>
              split
              next => exact rcmd_again hWaits _
              next =>
                  exact rcmd_failed hWaits rfl (by simp) (by
                    simp [RcmdWait.held])

theorem numberWritten_holds
    (hWaits : (rcmdProperty c).waits log (st, .number))
    (r : RcmdReply) :
    (rcmdProperty c).Holds
      (log ++ .used .s :: (numberWritten st r).1,
        (numberWritten st r).2) := by
  rcases hWaits.2.1 with ⟨hWrote, hBound⟩
  unfold numberWritten
  dsimp only
  split
  next =>
      refine rcmd_onward hWaits rfl ⟨?_, ?_⟩ hWaits.2.2.1 (by
        simp [RcmdWait.held])
      · rw [rcmdWritten_append, hWrote]
        simp [rcmdWritten, RcmdEvent.bytes]
      · exact List.mem_append_left _ hBound
  next =>
      exact rcmd_failed hWaits rfl (by simp) (by
        simp [RcmdWait.held])

/- The server connected to the second socket. -/
theorem third_opened
    (hWaits : (rcmdProperty c).waits log (st, .accept)) :
    Resource.replay (rcmdSockets
        (log ++ [.used .s2, .closed .s2, .opened .s3])) [] =
      some (RcmdWait.status.held c) := by
  have hFd : c.fd2p = true := hWaits.2.2.1
  rw [replay_rcmdSockets_append hWaits.1, held_status,
    if_pos hFd]
  rfl

theorem accepted_holds
    (hWaits : (rcmdProperty c).waits log (st, .accept))
    (r : RcmdReply) :
    (rcmdProperty c).Holds
      (log ++ .used .s2 :: (accepted c st r).1,
        (accepted c st r).2) := by
  have hFd : c.fd2p = true := hWaits.2.2.1
  rcases hWaits.2.1 with ⟨hWrote, hBound⟩
  have hThird := third_opened hWaits
  unfold accepted
  split
  next =>
      exact rcmd_failed hWaits rfl (by simp) (by
        simp [RcmdWait.held])
  next =>
      dsimp only
      split
      next =>
          have hBad := @rcmd_bad2 c st _ hThird
            (fun _ => by simp) (fun h => by
              rw [hFd] at h
              cases h)
          rw [List.append_assoc] at hBad
          exact hBad
      next =>
          have hFront := @handshake_holds c st _ hThird (by
              rw [if_pos hFd, rcmdWritten_append, hWrote]
              exact ⟨List.append_nil _,
                List.mem_append_left _ hBound⟩) (by
              rw [held_status, if_pos hFd]
              simp)
          rw [List.append_assoc] at hFront
          exact hFront

/- While the server answers, both connections are open. -/
theorem answering
    (hHeld : Resource.replay (rcmdSockets log) [] =
      some (RcmdWait.status.held c)) :
    Resource.replay (rcmdSockets (log ++ [.used .s])) [] =
      some (RcmdWait.status.held c) := by
  rw [replay_rcmdSockets_append hHeld, held_status]
  cases c.fd2p with
  | false => rfl
  | true => rfl

/- What was written stays, and no more is. -/
theorem wrote_used
    (hWrote : RcmdWait.status.Wrote c log st.lport) :
    RcmdWait.status.Wrote c (log ++ [.used .s]) st.lport := by
  have hSame : rcmdWritten (log ++ [.used .s]) =
      rcmdWritten log := by
    rw [rcmdWritten_append]
    exact List.append_nil _
  rw [wrote_status] at hWrote ⊢
  rw [hSame]
  split at hWrote
  next hFd =>
      rw [if_pos hFd]
      exact ⟨hWrote.1, List.mem_append_left _ hWrote.2⟩
  next hFd =>
      rw [if_neg hFd]
      exact hWrote

/- The server does not run the command. -/
theorem refused_holds
    (hWaits : (rcmdProperty c).waits log (st, .status)) :
    (rcmdProperty c).Holds
      (log ++ .used .s :: (bad2 st).1, (bad2 st).2) := by
  rcases hWaits with ⟨hHeld, hWrote, -, hThird⟩
  have hBad := @rcmd_bad2 c st _ (answering hHeld) (by
      intro hFd
      apply List.mem_append_left
      refine hThird.mpr ?_
      rw [held_status, if_pos hFd]
      exact List.mem_cons_self) (by
      intro hFd
      rw [wrote_status, hFd] at hWrote
      exact hWrote.1)
  rw [List.append_assoc] at hBad
  exact hBad

theorem rcmdResume_holds
    (hWaits : (rcmdProperty c).waits log (st, w))
    (r : RcmdReply) :
    (rcmdProperty c).Holds
      (log ++ (rcmdResume c st r w).1,
        (rcmdResume c st r w).2) := by
  cases w with
  | socket x =>
      have hReal := hWaits.2.2.1
      unfold rcmdResume
      dsimp only
      split
      next =>
          cases x with
          | s => exact rcmd_failed hWaits rfl (by
              simp [noPort]) (by simp [RcmdWait.held])
          | s2 => exact rcmd_failed hWaits rfl (by
              simp [noPort]) (by simp [RcmdWait.held])
          | s3 => exact hReal.elim
      next =>
          have hWrote : rcmdWritten (log ++ [.opened x]) =
              [] := by
            rw [rcmdWritten_append]
            exact List.append_eq_nil_iff.mpr
              ⟨hWaits.2.1, rfl⟩
          cases x with
          | s => exact rcmd_onward hWaits rfl hWrote hReal (by
              simp [RcmdWait.held])
          | s2 => exact rcmd_onward hWaits rfl hWrote hReal (by
              simp [RcmdWait.held])
          | s3 => exact hReal.elim
  | bind x => exact boundPort_holds hWaits r
  | connect => exact rcmdConnected_holds hWaits r
  | number => exact numberWritten_holds hWaits r
  | accept => exact accepted_holds hWaits r
  | status =>
      rcases hWaits with ⟨hHeld, hWrote, -, hThird⟩
      unfold rcmdResume
      dsimp only
      split
      next =>
          exact refused_holds ⟨hHeld, hWrote, trivial, hThird⟩
      next =>
          split
          next =>
              refine ⟨answering hHeld, wrote_used hWrote,
                trivial, ?_⟩
              rw [List.mem_append, hThird]
              simp [RcmdWait.held]
          next =>
              exact ⟨answering hHeld,
                fun _ => wrote_used hWrote⟩
  | message =>
      rcases hWaits with ⟨hHeld, hWrote, hReal, hThird⟩
      unfold rcmdResume
      dsimp only
      split
      next =>
          refine ⟨answering hHeld, wrote_used hWrote,
            trivial, ?_⟩
          rw [List.mem_append, hThird]
          simp
      next =>
          exact refused_holds ⟨hHeld, hWrote, trivial, hThird⟩

theorem rcmdRun_holds
    (c : RcmdCall)
    (rs : List RcmdReply) :
    (rcmdProperty c).Holds (rcmdRun c rs) := by
  have hKeeps : (rcmdSession c).Keeps (rcmdProperty c) :=
    fun _ _ r hWaits => rcmdResume_holds hWaits r
  refine hKeeps.run rs ⟨rfl, rfl, trivial, ?_⟩
  simp [RcmdWait.held]

/-
  In every run each socket is used only while it is open. At
  the end the connections are open, if the command runs; if
  not, nothing is, unless the search for a second port ran
  down to 0, where the connection for the errors stays open.
-/
theorem rcmdRun_sockets
    (c : RcmdCall)
    (rs : List RcmdReply) :
    let run := rcmdRun c rs
    ∃ held, Resource.replay (rcmdSockets run.1) [] =
        some held ∧
      ∀ st ok, run.2 = .inr (st, ok) →
        held = if ok then
            if c.fd2p then [.s3, .s] else [.s]
          else if c.fd2p ∧ st.lport = 0 ∧
              .opened .s3 ∈ run.1 then
            [.s3]
          else
            [] := by
  have hHolds := rcmdRun_holds c rs
  generalize rcmdRun c rs = run at *
  rcases run with ⟨log, ⟨st, w⟩ | ⟨st, ok⟩⟩
  · refine ⟨w.held c, hHolds.1, ?_⟩
    intro st' ok' hRun
    cases hRun
  · refine ⟨_, hHolds.sockets, ?_⟩
    intro st' ok' hRun
    cases hRun
    rfl

/-
  If the command runs, the server was told the port for the
  errors, to which the second socket was bound, or that there
  is none; and then both users and the command; and nothing
  else.
-/
theorem rcmdRun_writes
    {c : RcmdCall}
    {rs : List RcmdReply}
    {log : List RcmdEvent}
    {st : RcmdState}
    (hEnd : rcmdRun c rs = (log, .inr (st, true))) :
    ∃ port : Bytes, rcmdWritten log = port ++ [0] ++ c.texts ∧
      (c.fd2p = true → port = decimalInt st.lport ∧
        .bound .s2 (portOf st.lport) ∈ log) ∧
      (c.fd2p = false → port = []) := by
  have hHolds := rcmdRun_holds c rs
  rw [hEnd] at hHolds
  have hWrote := hHolds.writes rfl
  rw [wrote_status] at hWrote
  cases hFd : c.fd2p with
  | false =>
      rw [hFd] at hWrote
      exact ⟨[], hWrote.2, nofun, fun _ => rfl⟩
  | true =>
      rw [hFd] at hWrote
      exact ⟨decimalInt st.lport, hWrote.1,
        fun _ => ⟨rfl, hWrote.2⟩, nofun⟩

/- The first port is free, and the server says yes. -/
theorem rcmdRun_writes_plain :
    ∃ log st, rcmdRun ⟨0, [97], [98], [99], false⟩
        [⟨3, .zero, 0, 0, 0⟩, ⟨0, .zero, 0, 0, 0⟩,
          ⟨0, .zero, 0, 0, 0⟩, ⟨1, .zero, 0, 0, 0⟩] =
        (log, .inr (st, true)) ∧
      ∃ port : Bytes, rcmdWritten log =
        port ++ [0] ++ [97, 0, 98, 0, 99, 0] := by
  rcases @rcmdRun_writes
      ⟨0, [97], [98], [99], false⟩
      [⟨3, .zero, 0, 0, 0⟩, ⟨0, .zero, 0, 0, 0⟩,
        ⟨0, .zero, 0, 0, 0⟩, ⟨1, .zero, 0, 0, 0⟩] _ _ rfl with
    ⟨port, hPort, -, -⟩
  exact ⟨_, _, rfl, port, hPort⟩

end Libsocket
