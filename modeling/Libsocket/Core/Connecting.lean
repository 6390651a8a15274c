import Libsocket.Core.Connection

/-
  What `listen`, `connect` and `shutdown` do to a process:
  they move descriptors quietly, and on success change the
  flags of the one they are given.

  Main declarations:
    * `listen_ok`
    * `connect_ok`, `connectStream_ok`
    * `shutdown_ok`
-/

namespace Libsocket

open Command

------------------------------------------------------------
-- Runs Of listen
------------------------------------------------------------

theorem wsockSimple_result
    {p : Ptr}
    {code : UInt16}
    {s s' : Process}
    {r : Int}
    (hRun : wsockSimple p code s = .ok (r, s')) :
    r = if vxdFails code then -1 else 0 := by
  rcases bind_eq_ok.mp hRun with ⟨_, _, -, hTail⟩
  rcases bind_eq_ok.mp hTail with ⟨_, _, -, hTail⟩
  rcases bind_eq_ok.mp hTail with ⟨_, _, -, hTail⟩
  by_cases hFails : vxdFails code
  · simp only [if_pos hFails] at hTail ⊢
    cases hTail
    rfl
  · simp only [if_neg hFails] at hTail ⊢
    cases hTail
    rfl

theorem csockSimple_result
    {p : Ptr}
    {answer : Int}
    {s s' : Process}
    {r : Int}
    (hRun : csockSimple p answer s = .ok (r, s')) :
    r = if answer ≠ 0 then -1 else 0 := by
  rcases bind_eq_ok.mp hRun with ⟨_, _, -, hTail⟩
  rcases bind_eq_ok.mp hTail with ⟨_, t, -, hTail⟩
  by_cases hFails : answer ≠ 0
  · simp only [if_pos hFails] at hTail ⊢
    cases hTail
    rfl
  · simp only [if_neg hFails] at hTail ⊢
    cases hTail
    rfl

/- The callback `listen` is still, and tells its success. -/
theorem interfaceListen_ok
    {env : ListenEnv}
    {i : Interface}
    {p : Ptr}
    {s s' : Process}
    {r : Int}
    (hRun : interfaceListen env i p s = .ok (r, s')) :
    Still s s' ∧ (r ≠ -1 → env.succeeds i = true) := by
  cases i with
  | wsock =>
      refine ⟨still_wsockSimple _ _ _ _ _ hRun, ?_⟩
      rw [wsockSimple_result hRun]
      intro hNe
      cases hFails : vxdFails env.wsockCode with
      | false => simp [ListenEnv.succeeds, hFails]
      | true => simp [hFails] at hNe
  | csock =>
      refine ⟨still_csockSimple _ _ _ _ _ hRun, ?_⟩
      rw [csockSimple_result hRun]
      intro hNe
      by_cases hZero : env.csockAnswer = 0
      · simp [ListenEnv.succeeds, hZero]
      · simp [hZero] at hNe
  | unix =>
      exact ⟨StillCmd.pure _ _ _ _ hRun, fun _ => rfl⟩

/- What a descriptor has passed when it may listen. -/
theorem listenRefusal_none
    {lsd : LsckSocket}
    (hPass : listenRefusal lsd = none) :
    lsd.type = sockStream ∧ lsd.bound = true := by
  unfold listenRefusal at hPass
  split at hPass
  · cases hPass
  next hType =>
    split at hPass
    · cases hPass
    next hBound =>
      exact ⟨by simpa using hType, by simpa using hBound⟩

/- Mark a descriptor as listening. -/
def markListening (backlog : Int) (lsd : LsckSocket) :
    LsckSocket :=
  { lsd with listening := true, backlog := backlog }

/-
  A listen moves sockets quietly, or marks the checked
  descriptor, which has passed all tests.
-/
theorem listen_ok
    {env : ListenEnv}
    {fd : Fd}
    {backlog : Int}
    {s s' : Process}
    {r : Int}
    (hRun : listen env fd backlog s = .ok (r, s')) :
    Quiet s s' ∨
      ∃ p d i, s.LeadsTo fd p ∧
        s.heap p = some (.socket d) ∧
        d.interface = some i ∧
        listenRefusal (d.checked env.writable) = none ∧
        env.succeeds i = true ∧
        Turns p (markListening backlog)
          (s.check p d env.writable) s' := by
  rcases prologue_ok hRun with ⟨-, -, hStill⟩ |
    ⟨p, d, i, hLeads, hSocket, hInterface, hTail⟩
  · exact .inl (.of_still hStill)
  have hCheck := drift_check hSocket env.writable
  cases hRefusal :
      listenRefusal (d.checked env.writable) with
  | some e =>
      rw [hRefusal] at hTail
      exact .inl (.of_drift_none (hCheck.trans
        (DriftCmd.fail e _ r s' hTail)))
  | none =>
      rw [hRefusal] at hTail
      rcases bind_eq_ok.mp hTail with ⟨ret, v, hCall, hTail⟩
      rcases bind_eq_ok.mp hTail with ⟨_, w, hMark, hPure⟩
      cases hPure
      rcases interfaceListen_ok hCall with ⟨hStill, hOk⟩
      by_cases hRet : r = -1
      · rw [when, if_neg (by simpa using hRet)] at hMark
        cases hMark
        exact .inl (.of_drift_none
          (hCheck.trans (.of_still hStill)))
      · rw [when, if_pos hRet] at hMark
        exact .inr ⟨p, d, i, hLeads, hSocket, hInterface,
          hRefusal, hOk hRet,
          .after_still hStill (.of_modifySocket hMark)⟩

------------------------------------------------------------
-- Runs Of connect
------------------------------------------------------------

/- The callback `connect` only moves sockets quietly. -/
theorem quiet_interfaceConnect
    {env : ConnectEnv}
    {i : Interface}
    {p : Ptr}
    {serv : Bytes}
    {s s' : Process}
    {r : Int}
    (hRun : interfaceConnect env i p serv s = .ok (r, s')) :
    Quiet s s' := by
  cases i with
  | wsock =>
      exact .of_still (still_wsockConnect _ _ _ _ _ hRun)
  | csock =>
      exact .of_still (still_csockConnect _ _ _ _ _ hRun)
  | unix => exact quiet_unixConnect hRun

/- The flags of a connect that has succeeded. -/
def markConnected (lsd : LsckSocket) : LsckSocket :=
  { lsd with connecting := false, connected := true }

/- The flags of a connect that is under way. -/
def markConnecting (lsd : LsckSocket) : LsckSocket :=
  { lsd with connecting := true, connected := false }

/- The flags of a connect that has failed. -/
def markFailed (lsd : LsckSocket) : LsckSocket :=
  { lsd with
    sockname := bzeroName lsd.sockname
    peername := bzeroName lsd.peername
    socknamelen := 0
    peernamelen := 0
    connected := false }

theorem still_connectedName
    (env : ConnectEnv)
    (i : Interface)
    (p : Ptr) :
    StillCmd (connectedName env i p) := by
  refine (still_interfaceGetsockname _ _ _ _).bind
    fun r => ?_
  split
  · exact StillCmd.modifySocket fun _ => rfl
  · refine StillCmd.ite ?_ StillCmd.fault
    exact StillCmd.modifySocket fun _ => rfl

theorem connectDone_ok
    {env : ConnectEnv}
    {i : Interface}
    {p : Ptr}
    {serv : Bytes}
    {addrlen : Nat}
    {s s' : Process}
    {r : Int}
    (hRun : connectDone env i p serv addrlen s =
      .ok (r, s')) :
    r = 0 ∧ Turns p markConnected s s' := by
  rcases bind_eq_ok.mp hRun with ⟨_, t, hPeer, hTail⟩
  rcases bind_eq_ok.mp hTail with ⟨_, u, hName, hTail⟩
  rcases bind_eq_ok.mp hTail with ⟨_, v, hMark, hPure⟩
  cases hPure
  have hStillT := StillCmd.setPeername _ _ _ _ _ _ hPeer
  have hStillU := StillCmd.when
    (still_connectedName env i p) _ _ _ hName
  exact ⟨rfl, .after_still (hStillT.trans hStillU)
    (.of_modifySocket hMark)⟩

theorem connectPending_ok
    {p : Ptr}
    {serv : Bytes}
    {addrlen : Nat}
    {s s' : Process}
    {r : Int}
    (hRun : connectPending p serv addrlen s = .ok (r, s')) :
    r = -1 ∧ s'.errno = .EINPROGRESS ∧
      Turns p markConnecting s s' := by
  rcases bind_eq_ok.mp hRun with ⟨_, t, hPeer, hTail⟩
  rcases bind_eq_ok.mp hTail with ⟨_, u, hMark, hFail⟩
  cases hFail
  have hStill := StillCmd.setPeername _ _ _ _ _ _ hPeer
  exact ⟨rfl, rfl, .then_still
    (.after_still hStill (.of_modifySocket hMark))
    (Still.setErrno u _)⟩

theorem connectFailed_ok
    {p : Ptr}
    {s s' : Process}
    {r : Int}
    (hRun : connectFailed p s = .ok (r, s')) :
    r = -1 ∧ s'.errno = s.errno ∧
      Turns p markFailed s s' := by
  rcases bind_eq_ok.mp hRun with ⟨_, t, hMark, hPure⟩
  cases hPure
  have hTurns := Turns.of_modifySocket hMark
  rcases modifySocket_ok hMark with ⟨d, -, rfl⟩
  exact ⟨rfl, rfl, hTurns⟩

/- The three ways in which an attempt to connect ends. -/
theorem connectStream_ok
    {env : ConnectEnv}
    {i : Interface}
    {p : Ptr}
    {serv : Bytes}
    {addrlen : Nat}
    {s s' : Process}
    {r : Int}
    (hRun : connectStream env i p serv addrlen s =
      .ok (r, s')) :
    ∃ ret t, interfaceConnect env i p serv s =
        .ok (ret, t) ∧ Quiet s t ∧
      (ret = 0 ∧ r = 0 ∧ Turns p markConnected t s' ∨
        ret ≠ 0 ∧ r = -1 ∧ s'.errno = .EINPROGRESS ∧
          Turns p markConnecting t s' ∨
        ret ≠ 0 ∧ (∃ d, t.heap p = some (.socket d) ∧
          ¬ (d.blocking = false ∧
            t.errno = .EWOULDBLOCK)) ∧
          r = -1 ∧ s'.errno = t.errno ∧
          Turns p markFailed t s') := by
  rcases bind_eq_ok.mp hRun with ⟨ret, t, hCall, hTail⟩
  refine ⟨ret, t, hCall, quiet_interfaceConnect hCall, ?_⟩
  rw [run_bind_ok (run_get t)] at hTail
  rcases bind_eq_ok.mp hTail with ⟨d, u, hRead, hTail⟩
  rcases derefSocket_ok hRead with ⟨rfl, hSocket⟩
  by_cases hZero : ret = 0
  · rw [if_pos hZero] at hTail
    exact .inl ⟨hZero, connectDone_ok hTail⟩
  rw [if_neg hZero] at hTail
  by_cases hPending :
      d.blocking = false ∧ u.errno = .EWOULDBLOCK
  · rw [if_pos hPending] at hTail
    exact .inr (.inl ⟨hZero, connectPending_ok hTail⟩)
  · rw [if_neg hPending] at hTail
    exact .inr (.inr ⟨hZero, ⟨d, hSocket, hPending⟩,
      connectFailed_ok hTail⟩)

/- What a descriptor has passed when it may connect. -/
theorem connectRefusal_none
    {lsd : LsckSocket}
    {serv : Option Bytes}
    {addrlen : Nat}
    (hPass : connectRefusal lsd serv addrlen = none) :
    ¬ (lsd.blocking = false ∧ lsd.connecting = true) ∧
      ¬ (lsd.connected = true ∧ lsd.type = sockStream) ∧
      lsd.listening = false := by
  unfold connectRefusal at hPass
  split at hPass
  · cases hPass
  next hPending =>
    split at hPass
    · cases hPass
    next hConnected =>
      split at hPass
      · cases hPass
      next hListening =>
        exact ⟨hPending, hConnected,
          by simpa using hListening⟩

/- The peer of a datagram socket is not part of its status. -/
theorem connectDgram_ok
    {lsd : LsckSocket}
    {p : Ptr}
    {serv : Option Bytes}
    {addrlen : Nat}
    {s s' : Process}
    {r : Int}
    (hRun : connectDgram lsd p serv addrlen s =
      .ok (r, s')) :
    Still s s' ∧
      (r = -1 → connectAddressRefusal lsd serv ≠ none) := by
  cases serv with
  | none =>
      rcases bind_eq_ok.mp hRun with ⟨_, t, hClear, hPure⟩
      cases hPure
      refine ⟨StillCmd.modifySocket ?_ _ _ _ hClear, ?_⟩
      · exact fun _ => rfl
      · intro hFailed
        cases hFailed
  | some a =>
      simp only [connectDgram] at hRun
      by_cases hFamily : saFamily a ≠ lsd.family
      · rw [if_pos hFamily] at hRun
        refine ⟨StillCmd.fail _ _ _ _ hRun, fun _ => ?_⟩
        simp [connectAddressRefusal, hFamily]
      · rw [if_neg hFamily] at hRun
        rcases bind_eq_ok.mp hRun with ⟨_, t, hPeer, hPure⟩
        cases hPure
        refine ⟨StillCmd.setPeername _ _ _ _ _ _ hPeer, ?_⟩
        intro hFailed
        cases hFailed

/-
  A connect without a socket; one that a parameter check
  refuses; one on a datagram socket; and one that the
  interface is asked for.
-/
theorem connect_ok
    {env : ConnectEnv}
    {fd : Fd}
    {serv : Option Bytes}
    {addrlen : Nat}
    {s s' : Process}
    {r : Int}
    (hRun : connect env fd serv addrlen s = .ok (r, s')) :
    (r = -1 ∧ (∀ p, ¬ s.LeadsTo fd p) ∧ Still s s') ∨
      ∃ p d i, s.LeadsTo fd p ∧
        s.heap p = some (.socket d) ∧
        d.interface = some i ∧
        ((∃ e,
            (connectRefusal (d.checked env.writable) serv
                addrlen = some e ∨
              connectRefusal (d.checked env.writable) serv
                  addrlen = none ∧
                connectAddressRefusal
                  (d.checked env.writable) serv = some e) ∧
            s' = { s.check p d env.writable with
              errno := e }) ∨
          (Still (s.check p d env.writable) s' ∧
            connectRefusal (d.checked env.writable) serv
              addrlen = none ∧
            (r = -1 → connectAddressRefusal
              (d.checked env.writable) serv ≠ none)) ∨
          (connectRefusal (d.checked env.writable) serv
              addrlen = none ∧
            (d.checked env.writable).type ≠ sockDgram ∧
            connectAddressRefusal (d.checked env.writable)
              serv = none ∧
            connectStream env i p (serv.getD []) addrlen
              (s.check p d env.writable) = .ok (r, s'))) := by
  rcases prologue_ok hRun with hStill |
    ⟨p, d, i, hLeads, hSocket, hInterface, hTail⟩
  · exact .inl hStill
  refine .inr ⟨p, d, i, hLeads, hSocket, hInterface, ?_⟩
  cases hRefusal : connectRefusal (d.checked env.writable)
      serv addrlen with
  | some e =>
      rw [hRefusal] at hTail
      cases hTail
      exact .inl ⟨e, .inl rfl, rfl⟩
  | none =>
      rw [hRefusal] at hTail
      simp only [refuseOr] at hTail
      by_cases hDgram :
          (d.checked env.writable).type = sockDgram
      · rw [if_pos hDgram] at hTail
        rcases connectDgram_ok hTail with ⟨hStill, hFail⟩
        exact .inr (.inl ⟨hStill, rfl, hFail⟩)
      · rw [if_neg hDgram] at hTail
        cases hAddress : connectAddressRefusal
            (d.checked env.writable) serv with
        | some e =>
            simp only [hAddress] at hTail
            cases hTail
            exact .inl ⟨e, .inr ⟨rfl, rfl⟩, rfl⟩
        | none =>
            simp only [hAddress] at hTail
            exact .inr (.inr ⟨rfl, hDgram, rfl, hTail⟩)

------------------------------------------------------------
-- Runs Of shutdown
------------------------------------------------------------

theorem still_interfaceShutdown
    (env : ShutdownEnv)
    (i : Interface)
    (p : Ptr) :
    StillCmd (interfaceShutdown env i p) := by
  cases i with
  | wsock => exact still_wsockSimple _ _
  | csock => exact StillCmd.pure _
  | unix => exact StillCmd.pure _

/-
  A shutdown moves sockets quietly, or closes directions of
  the checked descriptor.
-/
theorem shutdown_ok
    {env : ShutdownEnv}
    {fd : Fd}
    {how : Int}
    {s s' : Process}
    {r : Int}
    (hRun : shutdown env fd how s = .ok (r, s')) :
    Quiet s s' ∨
      ∃ p d, s.heap p = some (.socket d) ∧
        Turns p (LsckSocket.shut how)
          (s.check p d env.writable) s' := by
  rcases prologue_ok hRun with ⟨-, -, hStill⟩ |
    ⟨p, d, i, -, hSocket, -, hTail⟩
  · exact .inl (.of_still hStill)
  have hCheck := drift_check hSocket env.writable
  cases hRefusal :
      shutdownRefusal (d.checked env.writable) how with
  | some e =>
      rw [hRefusal] at hTail
      exact .inl (.of_drift_none (hCheck.trans
        (DriftCmd.fail e _ r s' hTail)))
  | none =>
      rw [hRefusal] at hTail
      rcases bind_eq_ok.mp hTail with ⟨ret, v, hCall, hTail⟩
      rcases bind_eq_ok.mp hTail with ⟨_, w, hMark, hPure⟩
      cases hPure
      have hStill := still_interfaceShutdown _ _ _ _ _ _ hCall
      by_cases hZero : r = 0
      · rw [when, if_pos hZero] at hMark
        exact .inr ⟨p, d, hSocket,
          .after_still hStill (.of_modifySocket hMark)⟩
      · rw [when, if_neg hZero] at hMark
        cases hMark
        exact .inl (.of_drift_none
          (hCheck.trans (.of_still hStill)))

end Libsocket
