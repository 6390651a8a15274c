import Libsocket.Core.Arguments
import Libsocket.Core.Phase

/-
  What `read` and `write` on a socket make of the results of
  `recv` and `send`. Would-block becomes a count of 0 in both
  cases; the write case takes every failure for it.

  Main declarations:
    * `fsextResult`
    * `ReadAgrees`, `WriteAgrees`
    * `readFsext_agrees`, `writeFsext_agrees_iff`
    * `read_write_agree_iff`
-/

namespace Libsocket

open Command

------------------------------------------------------------
-- Agreement
------------------------------------------------------------

/- The result that is returned in the place of another. -/
def fsextResult (x : Int × Process) : Int × Process :=
  if x.1 = -1 ∧ x.2.errno = .EWOULDBLOCK then
    (0, { x.2 with errno := .EAGAIN })
  else
    x

/-
  `read` comes to what `recv` comes to: the same count and
  state, would-block apart, or it stops where `recv` stops.
-/
def ReadAgrees
    (env : RecvEnvs)
    (fd : Fd)
    (buf : Bool)
    (count : Nat)
    (s : Process) : Prop :=
  readFsext env fd buf count s =
    (recv env fd buf count 0 s).map fun x =>
      fsextResult (x.1.1, x.2)

/- And so does `write` of what `send` comes to. -/
def WriteAgrees
    (env : SendEnv)
    (fd : Fd)
    (msg : Option Bytes)
    (s : Process) : Prop :=
  writeFsext env fd msg s =
    (send env fd msg 0 s).map fsextResult

------------------------------------------------------------
-- The Two Cases
------------------------------------------------------------

section Cases

variable {fd : Fd} {s : Process}

theorem whenSocket_isSocket
    (hSocket : fdIsSocket s fd = true)
    (m : Exec Int) :
    whenSocket fd m s = m s := by
  unfold whenSocket
  rw [run_bind_ok (run_get s), if_pos hSocket]

/- A read result is translated as it should be. -/
theorem readResult_run (rv : Int) (s : Process) :
    readResult rv s = .ok (fsextResult (rv, s)) := by
  unfold readResult fsextResult
  rw [run_bind_ok (run_get s)]
  split
  · rfl
  · rfl

/- A write that fails is a count of 0 whatever has failed. -/
theorem writeResult_run (rv : Int) (s : Process) :
    writeResult rv s = .ok (if rv = -1 then
      (0, { s with errno := .EAGAIN }) else (rv, s)) := by
  unfold writeResult
  split
  · rfl
  · rfl

/- That is the translation for would-block alone. -/
theorem writeResult_eq_iff (rv : Int) (s : Process) :
    writeResult rv s = .ok (fsextResult (rv, s)) ↔
      (rv = -1 → s.errno = .EWOULDBLOCK) := by
  rw [writeResult_run]
  unfold fsextResult
  by_cases hFail : rv = -1
  · rw [if_pos hFail]
    by_cases hBlock : s.errno = .EWOULDBLOCK
    · rw [if_pos ⟨hFail, hBlock⟩]
      constructor
      · intro _ _
        exact hBlock
      · intro _
        rfl
    · rw [if_neg fun h => hBlock h.2]
      constructor
      · intro hSame
        have hZero := congrArg Prod.fst (Except.ok.inj hSame)
        dsimp only at hZero
        omega
      · intro hOnly
        exact absurd (hOnly hFail) hBlock
  · rw [if_neg hFail, if_neg fun h => hFail h.1]
    constructor
    · intro _ hIs
      exact absurd hIs hFail
    · intro _
      rfl

theorem readFsext_agrees
    (hSocket : fdIsSocket s fd = true)
    (env : RecvEnvs)
    (buf : Bool)
    (count : Nat) :
    ReadAgrees env fd buf count s := by
  unfold ReadAgrees readFsext
  rw [whenSocket_isSocket hSocket, run_bind]
  cases recv env fd buf count 0 s with
  | error e => rfl
  | ok x => exact readResult_run x.1.1 x.2

theorem writeFsext_agrees_iff
    (hSocket : fdIsSocket s fd = true)
    (env : SendEnv)
    (msg : Option Bytes) :
    WriteAgrees env fd msg s ↔
      ∀ rv t, send env fd msg 0 s = .ok (rv, t) →
        rv = -1 → t.errno = .EWOULDBLOCK := by
  unfold WriteAgrees writeFsext
  rw [whenSocket_isSocket hSocket, run_bind]
  cases hSend : send env fd msg 0 s with
  | error e =>
      constructor
      · intro _ rv t hRun
        cases hRun
      · intro _
        rfl
  | ok x =>
      have hOne := writeResult_eq_iff x.1 x.2
      constructor
      · intro hSame rv t hRun
        cases hRun
        exact hOne.mp hSame
      · intro hOnly
        exact hOne.mpr (hOnly x.1 x.2 rfl)

end Cases

/-
  `read` and `write` agree with `recv` and `send` if and only
  if the send does not fail with an error of another kind.
-/
theorem read_write_agree_iff
    {recvEnv : RecvEnvs}
    {sendEnv : SendEnv}
    {fd : Fd}
    {buf : Bool}
    {count : Nat}
    {msg : Option Bytes}
    {s : Process}
    (hSocket : fdIsSocket s fd = true) :
    ReadAgrees recvEnv fd buf count s ∧
        WriteAgrees sendEnv fd msg s ↔
      ∀ rv t, send sendEnv fd msg 0 s = .ok (rv, t) →
        rv = -1 → t.errno = .EWOULDBLOCK := by
  rw [← writeFsext_agrees_iff hSocket sendEnv msg]
  constructor
  · intro hBoth
    exact hBoth.2
  · intro hWrite
    exact ⟨readFsext_agrees hSocket recvEnv buf count, hWrite⟩

/- A send whose count is that of the driver. -/
def SendEnv.sending (n : Int) : SendEnv :=
  ⟨false, [], .granting, 0, n, .zero⟩

/- A stream, and the stream when it is connected. -/
def newStream : Process :=
  (runCalls [streamCall] bareProcess).getD bareProcess

def connectedStream : Process :=
  (runCalls [streamCall, connectCall 0] bareProcess).getD
    bareProcess

/- Bytes that are sent are written. -/
theorem write_agrees_of_sent :
    fdIsSocket connectedStream 3 = true ∧
      ReadAgrees .oneByte 3 true 8 connectedStream ∧
      WriteAgrees (.sending 3) 3 (some [1, 2, 3])
        connectedStream := by
  have hSocket : fdIsSocket connectedStream 3 = true := by
    decide +kernel
  have hSend : send (.sending 3) 3 (some [1, 2, 3]) 0
      connectedStream = .ok (3, _) :=
    run_after (by decide +kernel)
  refine ⟨hSocket, (read_write_agree_iff hSocket).mpr ?_⟩
  intro rv t hRun hFail
  cases hSend.symm.trans hRun
  cases hFail

/- A send on a stream that is not connected is "written". -/
theorem write_hides_error :
    ¬ ∀ (recvEnv : RecvEnvs) (sendEnv : SendEnv) (fd : Fd)
        (buf : Bool) (count : Nat) (msg : Option Bytes)
        (s : Process),
      lsckSystem.Reachable s →
      fdIsSocket s fd = true →
      ReadAgrees recvEnv fd buf count s ∧
        WriteAgrees sendEnv fd msg s := by
  intro hAlways
  have hReach : lsckSystem.Reachable newStream := by
    have hSome : (runCalls [streamCall] bareProcess).isSome =
        true := by decide +kernel
    rcases Option.isSome_iff_exists.mp hSome with ⟨s, hS⟩
    unfold newStream
    rw [hS]
    exact reachable_of_calls hS
  have hSocket : fdIsSocket newStream 3 = true := by
    decide +kernel
  rcases hAlways .oneByte (.sending 3) 3 true 8
    (some [1, 2, 3]) newStream hReach hSocket with
    ⟨-, hWrite⟩
  have hSend : send (.sending 3) 3 (some [1, 2, 3]) 0 newStream =
      .ok (-1, _) :=
    run_after (by decide +kernel)
  have hErrno : (after (send (.sending 3) 3 (some [1, 2, 3]) 0)
      newStream).errno = .ENOTCONN := by
    decide +kernel
  have hBlock := (writeFsext_agrees_iff hSocket _ _).mp hWrite
    _ _ hSend rfl
  rw [hErrno] at hBlock
  cases hBlock

end Libsocket
