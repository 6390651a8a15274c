import Libsocket.Unix.Leaks

/-
  The mailslots of a connection that is not accepted: once
  an accept has opened the mailslot that the new end reads,
  nothing closes it when a later check fails.

  Main declarations:
    * `OpensSlot`, `unixAcceptOpens_iff`
    * `AcceptOpens`, `accept_clean_iff`
-/

namespace Libsocket

open Command

------------------------------------------------------------
-- The New Mailslot
------------------------------------------------------------

/-
  What an accept needs to open the mailslot of a connection:
  memory for its data, an open request in the control
  mailslot, a name of the listener that a mailslot can be
  created under, and a descriptor.
-/
structure OpensSlot
    (env : UnixAcceptEnv)
    (d : LsckSocket)
    (s : Process) : Prop where
  memory : ∃ q, env.memory = some q ∧ s.heap q = none
  request : ∃ l usock ms t, d.idata = some l ∧
    s.heap l = some (.unix usock) ∧
    readFd env.read usock.fdR s = .ok (some ms, t) ∧
    (receivedRequest env.reqJunk ms).header.type =
      unixMsgClientOpen
  name : ∃ server, CString.read? (d.sockname.drop 2) =
      some server ∧
    (slotPath server env.slotRandom).length < maxPath ∧
    (readName (slotPath server env.slotRandom)).isSome
  granted : env.openR.Granted s

/- Every mailslot open returns. -/
theorem openMailslot_returns
    (env : OpenEnv)
    (me : MailslotFsext)
    (s : Process) :
    ∃ fd t, openMailslot env me s = .ok (fd, t) := by
  have hAlloc : ∃ fd t, allocFd env.number .mailslotHandler s =
      .ok (fd, t) := by
    unfold allocFd
    rw [run_bind_ok (run_get s)]
    cases env.number with
    | none => exact ⟨_, _, rfl⟩
    | some fd =>
        by_cases hFree : 0 ≤ fd ∧ (s.fds fd).dosOpen = false
        · simp only [if_pos hFree]
          exact ⟨_, _, rfl⟩
        · simp only [if_neg hFree]
          exact ⟨_, _, rfl⟩
  rcases hAlloc with ⟨fd, t, hAlloc⟩
  unfold openMailslot
  rw [run_bind_ok hAlloc]
  by_cases hFd : fd = -1
  · rw [if_pos hFd]
    exact ⟨_, _, rfl⟩
  · rw [if_neg hFd]
    exact ⟨_, _, rfl⟩

/-
  A short local path opens for reading if a mailslot can be
  created under it and there is a descriptor for it.
-/
theorem openFile_reading
    {env : OpenEnv}
    {x : Bytes}
    (hFits : (unixLocalPath ++ x).length < maxPath)
    (s : Process) :
    ∃ fd t, openFile env (unixLocalPath ++ x) .rdonly s =
        .ok (fd, t) ∧
      (fd ≠ -1 ↔ (readName (unixLocalPath ++ x)).isSome = true ∧
        env.Granted s) := by
  have hOpens := openFits_of_length hFits .rdonly
  unfold readName openFile
  unfold OpenFits openName at hOpens
  rw [afterPrefix_local] at hOpens ⊢
  rw [Option.bind_some]
  dsimp only at hOpens ⊢
  cases hLocal : afterPrefix mailslotLocal
      (bytes "local" ++ slashify x) with
  | none =>
      refine ⟨-1, _, rfl, ?_⟩
      constructor
      · intro hNot
        exact absurd rfl hNot
      · rintro ⟨hSome, -⟩
        cases hSome
  | some rest =>
      rw [hLocal] at hOpens
      dsimp only
      have hName := fits_run (hOpens _ rfl) s
      rcases openMailslot_returns env
        ⟨some (backslashify (localName rest)), none, true,
          false⟩ s with ⟨fd, t, hMail⟩
      have hQueue : ∃ u, (do
          when (fd ≠ -1) (modify fun s =>
            s.setMail (backslashify (localName rest)) [])
          return fd : Exec Fd) t = .ok (fd, u) := by
        unfold when
        split
        · exact ⟨_, rfl⟩
        · exact ⟨_, rfl⟩
      rcases hQueue with ⟨u, hQueue⟩
      rw [run_bind_ok hName, run_bind_ok hMail]
      refine ⟨fd, u, hQueue, ?_⟩
      rw [openMailslot_granted hMail, Option.map_some,
        Option.isSome_some]
      simp only [true_and]

/- A request is taken up as far as the new mailslot. -/
theorem requestSlot_iff
    {env : UnixAcceptEnv}
    {sockname : Bytes}
    {req : UnixMsgOpen}
    {s : Process} :
    (∃ fd t, requestSlot env sockname req s = .ok (fd, t) ∧
        fd ≠ -1) ↔
      req.header.type = unixMsgClientOpen ∧
      (∃ server, CString.read? (sockname.drop 2) =
          some server ∧
        (slotPath server env.slotRandom).length < maxPath ∧
        (readName (slotPath server env.slotRandom)).isSome) ∧
      env.openR.Granted s := by
  have hOpen : ∀ {server : Bytes},
      (slotPath server env.slotRandom).length < maxPath →
      ∃ fd t, openFile env.openR
          (slotPath server env.slotRandom) .rdonly s =
            .ok (fd, t) ∧
        (fd ≠ -1 ↔ (readName (slotPath server
          env.slotRandom)).isSome = true ∧
            env.openR.Granted s) := by
    intro server hFits
    rw [slotPath_eq] at hFits ⊢
    exact openFile_reading hFits s
  unfold requestSlot
  constructor
  · rintro ⟨fd, t, hRun, hFd⟩
    rcases ite_return_ok hRun hFd with ⟨hType, hBody⟩
    rcases bind_eq_ok.mp hBody with ⟨server, s₁, hSun, hNamed⟩
    rcases readString_ok hSun with ⟨rfl, hServer⟩
    rcases bind_eq_ok.mp hNamed with ⟨path, s₂, hFits, hFile⟩
    rcases fits_ok hFits with ⟨rfl, rfl, hShort⟩
    rcases hOpen hShort with ⟨fd', t', hFile', hIff⟩
    cases hFile.symm.trans hFile'
    rcases hIff.mp hFd with ⟨hName, hGranted⟩
    exact ⟨not_not.mp hType, ⟨server, hServer, hShort, hName⟩,
      hGranted⟩
  · rintro ⟨hType, ⟨server, hServer, hShort, hName⟩, hGranted⟩
    rcases hOpen hShort with ⟨fd, t, hFile, hIff⟩
    refine ⟨fd, t, ?_, hIff.mpr ⟨hName, hGranted⟩⟩
    unfold sunPath
    rw [if_neg (not_not.mpr hType),
      run_bind_ok (readString_run hServer s),
      run_bind_ok (fits_run hShort s)]
    exact hFile

/- Reading does not change any descriptor. -/
theorem fds_readFd
    {env : ReadEnv}
    {fd : Fd}
    {taken : Option (List Bytes)}
    {s t : Process}
    (hRun : readFd env fd s = .ok (taken, t)) :
    t.fds = s.fds :=
  (local_readFd (fun _ => False) env fd s taken t hRun).fds

/- When an accept gets as far as opening that mailslot. -/
theorem unixAcceptOpens_iff
    {env : UnixAcceptEnv}
    {d : LsckSocket}
    {l : Ptr}
    {usock : LsckSocketUnix}
    {s : Process}
    (hData : d.idata = some l)
    (hUnix : s.heap l = some (.unix usock)) :
    unixAcceptOpens env d s = true ↔ OpensSlot env d s := by
  have hMemory : (env.memory.any fun q => (s.heap q).isNone) =
      true ↔ ∃ q, env.memory = some q ∧ s.heap q = none := by
    cases env.memory with
    | none => simp
    | some q => simp
  have hSlot : (answer (readSlot env d.sockname usock.fdR)
        s).any (· != -1) = true ↔
      ∃ ms t, readFd env.read usock.fdR s = .ok (some ms, t) ∧
        ∃ fd u, requestSlot env d.sockname
          (receivedRequest env.reqJunk ms) t = .ok (fd, u) ∧
            fd ≠ -1 := by
    constructor
    · intro hAny
      rcases Option.any_eq_true _ _ |>.mp hAny with
        ⟨fd, hAnswer, hFd⟩
      rcases exists_run_of_answer hAnswer with ⟨u, hRun⟩
      have hSome : fd ≠ -1 := by simpa using hFd
      rcases bind_eq_ok.mp hRun with ⟨taken, t, hRead, hRest⟩
      cases taken with
      | none =>
          cases hRest
          exact absurd rfl hSome
      | some ms => exact ⟨ms, t, hRead, fd, u, hRest, hSome⟩
    · rintro ⟨ms, t, hRead, fd, u, hRest, hSome⟩
      have hRun : readSlot env d.sockname usock.fdR s =
          .ok (fd, u) := by
        unfold readSlot
        rw [run_bind_ok hRead]
        exact hRest
      rw [answer_of_run hRun]
      simpa using hSome
  have hHere : (d.idata.bind fun l =>
      (s.heap l).bind Block.unix?) = some usock := by
    rw [hData, Option.bind_some, hUnix]
    rfl
  unfold unixAcceptOpens
  rw [hHere, Option.any_some, Bool.and_eq_true, hMemory, hSlot]
  constructor
  · rintro ⟨hGot, ms, t, hRead, hRequest⟩
    rcases requestSlot_iff.mp hRequest with
      ⟨hType, hName, hGranted⟩
    constructor
    · exact hGot
    · exact ⟨l, usock, ms, t, hData, hUnix, hRead, hType⟩
    · exact hName
    · exact (OpenEnv.Granted.of_fds (fds_readFd hRead)).mp
        hGranted
  · intro hOpens
    rcases hOpens.request with
      ⟨l', usock', ms, t, hData', hUnix', hRead, hType⟩
    cases hData.symm.trans hData'
    cases hUnix.symm.trans hUnix'
    refine ⟨hOpens.memory, ms, t, hRead,
      requestSlot_iff.mpr ⟨hType, hOpens.name, ?_⟩⟩
    exact (OpenEnv.Granted.of_fds (fds_readFd hRead)).mpr
      hOpens.granted

------------------------------------------------------------
-- Accepting
------------------------------------------------------------

/-
  What an accept on the Unix listener needs besides to get
  that far: it passes the checks, and there are a number, a
  slot and memory for the new descriptor.
-/
def AcceptOpens
    (env : AcceptEnv)
    (addr addrlen : Bool)
    (d : LsckSocket)
    (s : Process) : Prop :=
  acceptRefusal d addr addrlen = none ∧
    ∃ nfd slot np,
      Reserved env.number env.memory s nfd slot np ∧
      OpensSlot env.unixEnv d
        (s.withSocket slot np (acceptedCopy d nfd))

/- A descriptor that can be reserved goes to the interface. -/
theorem accept_reserved
    {env : AcceptEnv}
    {fd nfd : Fd}
    {addr addrlen : Bool}
    {p np : Ptr}
    {slot : Nat}
    {i : Interface}
    {d : LsckSocket}
    {s : Process}
    (hFds : FdsOk s.fds)
    (hLeads : s.LeadsTo fd p)
    (hSocket : s.heap p = some (.socket d))
    (hInterface : d.interface = some i)
    (hPass : acceptRefusal (d.checked env.writable) addr
      addrlen = none)
    (hReserved : Reserved env.number env.memory
      (s.check p d env.writable) nfd slot np) :
    accept env fd addr addrlen s =
      acceptOn env i p np nfd slot
        ((s.check p d env.writable).withSocket slot np
          (acceptedCopy (d.checked env.writable) nfd)) := by
  have hFds' : FdsOk (s.check p d env.writable).fds := hFds
  apply (prologue_run hLeads hSocket hInterface _).trans
  rw [hPass]
  unfold refuseOr
  dsimp only
  rw [run_bind_ok (hReserved.allocFd_run hFds'),
    if_neg (Int.not_lt.mpr hReserved.low),
    run_bind_ok (run_get _)]
  simp only [Process.table_setEntry, hReserved.slot]
  exact hReserved.reserve_run rfl

/-
  Undoing an accept resets the number of the new descriptor,
  and no other.
-/
theorem acceptOn_clean_iff
    {env : AcceptEnv}
    {nfd : Fd}
    {p np l : Ptr}
    {slot : Nat}
    {c : LsckSocket}
    {usock : LsckSocketUnix}
    {s s' : Process}
    (hForm : WellFormed none s)
    (hListener : s.heap p = some (.socket c))
    (hData : c.idata = some l)
    (hUnix : s.heap l = some (.unix usock))
    (hReserved : Reserved env.number env.memory s nfd slot np)
    (hRun : acceptOn env .unix p np nfd slot
      (s.withSocket slot np (acceptedCopy c nfd)) =
        .ok (-1, s')) :
    s'.mailslots = s.mailslots ↔
      ¬ OpensSlot env.unixEnv c
        (s.withSocket slot np (acceptedCopy c nfd)) := by
  generalize hT : s.withSocket slot np (acceptedCopy c nfd) = t
    at hRun ⊢
  have hFds : t.fds = Function.update s.fds nfd
      (FdEntry.ofSocket np) := by
    rw [← hT]
    rfl
  rcases reserved_listener hListener hReserved with ⟨-, hThere⟩
  rw [hT] at hThere
  have hUnix' : t.heap l = some (.unix usock) := by
    have hNe : l ≠ np := by
      rintro rfl
      rw [hReserved.heap] at hUnix
      cases hUnix
    rw [← hT, Reserved.heap_withSocket,
      Function.update_of_ne hNe]
    exact hUnix
  have hNew : t.heap np =
      some (.socket (acceptedCopy c nfd)) := by
    rw [← hT]
    exact Reserved.socket_withSocket s slot np _
  rw [← hT] at hRun
  rcases acceptFailed_ok hForm hListener hReserved hRun with
    ⟨ret, q, v, w, nd, hCall, -, -, hStatus, hErased⟩
  have hFd : nd.fd = nfd :=
    (LsckSocket.same_of_status hStatus).1
  have hAfter : s'.fds = Function.update w.fds nfd
      FdEntry.unused := by
    rw [hErased.fds, hFd]
  rw [hT] at hCall
  have hRoom : sockaddrMaxSize ≤
      (acceptedCopy c nfd).peernamelen := Nat.le_refl _
  rw [← unixAcceptOpens_iff hData hUnix']
  rcases unixAccept_ok hThere hData hUnix' hNew hRoom hCall
    with ⟨hOpens, hLocal⟩ | ⟨hOpens, fd, m, hClosed, hReads⟩
  · rw [hOpens]
    apply iff_of_true
    · apply Process.mailslots_of_fds
      rw [hAfter, hLocal.fds, hFds, Function.update_idem,
        ← hForm.fds.unused hReserved.closed,
        Function.update_eq_self]
    · simp
  · rw [hOpens]
    apply iff_of_false
    · intro hSame
      have hNe : fd ≠ nfd := by
        rintro rfl
        rw [hFds, Function.update_self] at hClosed
        cases hClosed
      rw [hFds, Function.update_of_ne hNe] at hClosed
      rcases hReads with ⟨me, hMail, -⟩
      have hLeft : fd ∈ s'.mailslots := by
        refine ⟨me, ?_⟩
        unfold Process.HasMailslot
        rw [hAfter, Function.update_of_ne hNe]
        exact hMail
      rw [hSame] at hLeft
      exact Process.not_mem_mailslots hClosed hLeft
    · simp

/- A mailslot that was opened for the connection stays. -/
theorem mailslots_ne_of_acceptOpens
    {env : AcceptEnv}
    {fd : Fd}
    {addr addrlen : Bool}
    {p : Ptr}
    {d : LsckSocket}
    {s s' : Process}
    (hForm : WellFormed none s)
    (hLeads : s.LeadsTo fd p)
    (hSocket : s.heap p = some (.socket d))
    (hInterface : d.interface = some .unix)
    (hOpens : AcceptOpens env addr addrlen d s)
    (hRun : accept env fd addr addrlen s = .ok (-1, s')) :
    s'.mailslots ≠ s.mailslots := by
  rcases hForm.hasUnix hSocket hInterface with
    ⟨usock, -, l, hData, hUnix⟩
  rcases hOpens with ⟨hPass, nfd, slot, np, hReserved, hSlot⟩
  have hPlain := LsckSocket.checked_unix hInterface env.writable
  have hStays :=
    Process.check_unix hSocket hInterface env.writable
  rw [accept_reserved hForm.fds hLeads hSocket hInterface
      (by rw [hPlain]; exact hPass)
      (by rw [hStays]; exact hReserved), hPlain, hStays]
    at hRun
  intro hClean
  exact (acceptOn_clean_iff hForm hSocket hData hUnix hReserved
    hRun).mp hClean hSlot

/-
  An accept that fails leaves the mailslots as they were
  exactly when it has not come as far as opening one.
-/
theorem accept_clean_iff
    {env : AcceptEnv}
    {fd : Fd}
    {addr addrlen : Bool}
    {p : Ptr}
    {d : LsckSocket}
    {s s' : Process}
    (hForm : WellFormed none s)
    (hLeads : s.LeadsTo fd p)
    (hSocket : s.heap p = some (.socket d))
    (hInterface : d.interface = some .unix)
    (hRun : accept env fd addr addrlen s = .ok (-1, s')) :
    s'.mailslots = s.mailslots ↔
      ¬ AcceptOpens env addr addrlen d s := by
  rcases hForm.hasUnix hSocket hInterface with
    ⟨usock, -, l, hData, hUnix⟩
  constructor
  · intro hClean hOpens
    exact mailslots_ne_of_acceptOpens hForm hLeads hSocket
      hInterface hOpens hRun hClean
  · intro hNot
    have hRest := accept_leads hForm.fds hLeads hSocket hRun
    rw [Process.check_unix hSocket hInterface,
      LsckSocket.checked_unix hInterface] at hRest
    rcases hRest with ⟨-, e, rfl⟩ |
      ⟨hPass, i, nfd, slot, np, hI, hReserved, hOn⟩
    · exact Process.mailslots_of_fds rfl
    · cases hInterface.symm.trans hI
      apply (acceptOn_clean_iff hForm hSocket hData hUnix
        hReserved hOn).mpr
      intro hOpens
      exact hNot ⟨hPass, nfd, slot, np, hReserved, hOpens⟩

theorem server_hasUnix :
    serverProcess.heap 10 = some (.socket listenerSocket) ∧
      listenerSocket.idata = some 11 ∧
      serverProcess.heap 11 = some (.unix listenerData) := by
  have hSocket : serverProcess.heap 10 =
      some (.socket listenerSocket) :=
    Process.socket?_eq_some.mp (by decide +kernel)
  exact ⟨hSocket, by decide +kernel, by decide +kernel⟩

/- An accept for which DOS has no descriptor. -/
def AcceptEnv.starved : AcceptEnv :=
  { AcceptEnv.asked with number := none }

theorem accept_clean_starved :
    ∃ s', accept .starved 3 true true serverProcess =
        .ok (-1, s') ∧
      s'.mailslots = serverProcess.mailslots := by
  have hRun : ∃ s', accept .starved 3 true true
      serverProcess = .ok (-1, s') :=
    exists_run_of_answer (by decide +kernel)
  rcases hRun with ⟨s', hRun⟩
  have hForm := wellFormed_of_reachable server_reachable
  have hLeads : serverProcess.LeadsTo 3 10 :=
    ⟨by decide +kernel, by decide +kernel⟩
  refine ⟨s', hRun, (accept_clean_iff hForm hLeads
    server_hasUnix.1 (by decide +kernel) hRun).mpr ?_⟩
  rintro ⟨-, nfd, slot, np, hReserved, -⟩
  cases hReserved.number

/- An accept that cannot open the mailslot of the client. -/
def AcceptEnv.deaf : AcceptEnv :=
  { AcceptEnv.asked with
    unixEnv := { AcceptEnv.asked.unixEnv with
      openW := ⟨none, .zero⟩ } }

/- The mailslot of the connection stays open behind it. -/
theorem slot_mailslot_left :
    ¬ ∀ (env : AcceptEnv) (fd : Fd) (addr addrlen : Bool)
        (p : Ptr) (d : LsckSocket) (s s' : Process),
      lsckSystem.Reachable s →
      s.LeadsTo fd p →
      s.heap p = some (.socket d) →
      d.interface = some .unix →
      accept env fd addr addrlen s = .ok (-1, s') →
      s'.mailslots = s.mailslots := by
  intro hAlways
  have hRun : ∃ s', accept .deaf 3 true true serverProcess =
      .ok (-1, s') :=
    exists_run_of_answer (by decide +kernel)
  rcases hRun with ⟨s', hRun⟩
  have hLeads : serverProcess.LeadsTo 3 10 :=
    ⟨by decide +kernel, by decide +kernel⟩
  rcases server_hasUnix with ⟨hSocket, hData, hUnix⟩
  have hInterface : listenerSocket.interface = some .unix := by
    decide +kernel
  have hClean := hAlways _ _ _ _ _ _ _ _ server_reachable hLeads
    hSocket hInterface hRun
  refine mailslots_ne_of_acceptOpens
    (wellFormed_of_reachable server_reachable) hLeads hSocket
    hInterface ⟨by decide +kernel, 5, 1, 20, ?_, ?_⟩ hRun hClean
  · exact ⟨rfl, by decide, by decide +kernel,
      by decide +kernel, rfl, by decide +kernel⟩
  · have hThere : (serverProcess.withSocket 1 20
        (acceptedCopy listenerSocket 5)).heap 11 =
          some (.unix listenerData) := by
      decide +kernel
    exact (unixAcceptOpens_iff hData hThere).mp
      (by decide +kernel)

end Libsocket
