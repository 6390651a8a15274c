import Libsocket.Core.DirectClose
import Libsocket.Unix.ConnectPaths

/-
  Whether the paths that the callbacks build fit: of a bind,
  a connect, an accept and a datagram, and of the calls that
  report names.

  A name grows on its way: by the prefix of the local
  mailslots, by the working directory, and by the suffix of
  a new connection. What arrives from the other process was
  built there by the same code. `PathCall.Fits` says which
  names are short enough; exactly then nothing is overrun.

  Main declarations:
    * `ClientWrites`, `FromClient`
    * `PathCall`, `PathCall.Fits`
    * `paths_fit_iff`
-/

namespace Libsocket

open Command

------------------------------------------------------------
-- Accepting
------------------------------------------------------------

/-
  An open request of a client whose own bind, to the name
  that it keeps, has not overrun a buffer.
-/
def ClientWrites (m : Bytes) : Prop :=
  ∃ env q usock name cwd s t req,
    unixConnectRequest env (some q) s = .ok (req, t) ∧
    s.heap q = some (.unix usock) ∧
    CString.read? usock.sockpath = some name ∧
    (bindPath cwd name).isSome = true ∧ NameFits cwd name ∧
    m = req.encode

/- An open request, among what was read, comes from one. -/
def FromClient
    (junk : Fin 148 → UInt8)
    (ms : List Bytes) : Prop :=
  (receivedRequest junk ms).header.type = unixMsgClientOpen →
    ∃ m more, ms = m :: more ∧ ClientWrites m

/- A name that is bound has 60 characters at most. -/
theorem NameFits.length
    {cwd : Option Bytes}
    {name : Bytes}
    (hFits : NameFits cwd name)
    (hBuilds : (bindPath cwd name).isSome = true) :
    name.length ≤ 60 := by
  by_cases hSlash : IsAbsolute name
  · exact hFits.1 hSlash
  · cases cwd with
    | none =>
        have hHead : ¬ name.head? = some slash := hSlash
        rw [bindPath, if_neg hHead] at hBuilds
        cases hBuilds
    | some buf =>
        have hLess := hFits.2 hSlash buf rfl
        omega

/- So the path of a request is the prefix and a short name. -/
theorem FromClient.path
    {junk : Fin 148 → UInt8}
    {ms : List Bytes}
    (hFrom : FromClient junk ms)
    (hType : (receivedRequest junk ms).header.type =
      unixMsgClientOpen) :
    ∃ client, CString.read? (receivedRequest junk ms).path =
      some (unixLocalPath ++ client) ∧ client.length ≤ 60 := by
  rcases hFrom hType with
    ⟨m, more, rfl, env, q, usock, name, cwd, s, t, req, hRun,
      hData, hName, hBuilds, hFits, rfl⟩
  rcases unixConnectRequest_ok hRun with
    ⟨q', usock', sockpath, hQ, hData', hPath, hLess, -, hShape,
      -⟩
  cases hQ
  cases hData.symm.trans hData'
  cases hName.symm.trans hPath
  have hRoom : (unixLocalPath ++ name).length <
      (List.replicate openPathSize (0 : UInt8)).length := by
    rw [List.length_replicate]
    exact hLess
  have hSize : req.path.length = openPathSize := by
    rw [hShape, length_copy hRoom, List.length_replicate]
  rw [path_received hSize, hShape]
  exact ⟨name, read?_published (CString.isText_of_read? hName)
    _, hFits.length hBuilds⟩

theorem length_slotPath
    (server : Bytes)
    (n : Fin 2147483648) :
    (slotPath server n).length = server.length + 28 := by
  rw [slotPath, List.length_append, List.length_append,
    List.length_append, length_unixLocalPath, hex8,
    length_hexDigits, List.length_singleton]
  omega

/- Both ends of a new connection. -/
structure Process.NewEnd
    (s : Process)
    (np q : Ptr)
    (nsd : LsckSocket)
    (usock : LsckSocketUnix) : Prop where
  socket : s.heap np = some (.socket nsd)
  data : s.heap q = some (.unix usock)
  peerpath : usock.peerpath.length = sockaddrMaxSize

theorem Process.NewEnd.socket_setBlock
    {s : Process}
    {np q : Ptr}
    {nsd : LsckSocket}
    {usock : LsckSocketUnix}
    (hNew : s.NewEnd np q nsd usock)
    (b : Option Block) :
    (s.setBlock q b).heap np = some (.socket nsd) := by
  rw [Process.heap_setBlock, Function.update_of_ne
    (socket_ne_unix hNew.socket hNew.data)]
  exact hNew.socket

/- Data that is changed without touching the path. -/
theorem Process.NewEnd.modify
    {s : Process}
    {np q : Ptr}
    {nsd : LsckSocket}
    {usock usock' : LsckSocketUnix}
    (hNew : s.NewEnd np q nsd usock)
    (hPath : usock'.peerpath = usock.peerpath) :
    (s.setBlock q (some (.unix usock'))).NewEnd np q nsd
      usock' := by
  constructor
  · exact hNew.socket_setBlock _
  · rw [Process.heap_setBlock, Function.update_self]
  · rw [hPath]
    exact hNew.peerpath

theorem Process.NewEnd.of_heap
    {s t : Process}
    {np q : Ptr}
    {nsd : LsckSocket}
    {usock : LsckSocketUnix}
    (hNew : s.NewEnd np q nsd usock)
    (hHeap : t.heap = s.heap) :
    t.NewEnd np q nsd usock := by
  constructor
  · rw [hHeap]
    exact hNew.socket
  · rw [hHeap]
    exact hNew.data
  · exact hNew.peerpath

theorem heap_writeFd
    {env : WriteEnv}
    {fd : Fd}
    {message : Bytes}
    {r : Int}
    {s t : Process}
    (hRun : writeFd env fd message s = .ok (r, t)) :
    t.heap = s.heap := by
  funext p
  exact (local_writeFd (fun _ => False) env fd message s r t
    hRun).heap p id

theorem avoids_unixAcceptReply
    {env : UnixAcceptEnv}
    {np q : Ptr}
    {nsd : LsckSocket}
    {usock : LsckSocketUnix}
    {req : UnixMsgOpen}
    {path client : Bytes}
    {fdW : Fd}
    {s : Process}
    (hNew : s.NewEnd np q nsd usock)
    (hPath : path.length < maxPath)
    (hClient : client.length ≤ 60)
    (hFile : s.FileOk fdW) :
    Avoids .fault (unixAcceptReply env np (some q) req path
      client fdW) s := by
  have hSun : client.length < (List.ofFn env.sunJunk).length := by
    rw [List.length_ofFn]
    omega
  have hRep : path.length < (List.ofFn env.repJunk).length := by
    rw [List.length_ofFn]
    unfold maxPath at hPath
    omega
  unfold unixAcceptReply
  rw [avoids_bind_ok (copyInto_run hSun s),
    avoids_bind_ok (modifyUnix_run hNew.data _)]
  have hStored : (s.setBlock q (some (.unix { usock with
      secret := req.header.secret
      seqW := env.seqRandom
      seqR := modMaxint (req.header.seqEnd + 1) }))).NewEnd np q
        nsd { usock with
          secret := req.header.secret
          seqW := env.seqRandom
          seqR := modMaxint (req.header.seqEnd + 1) } :=
    hNew.modify rfl
  dsimp only
  rw [avoids_bind_ok (readString_run read?_cleared _),
    avoids_bind_ok (copyInto_run hRep _)]
  apply Avoids.bind
  · exact avoids_writeFd (hFile.of_fds rfl)
  intro ret t hWrite
  have hSent := hStored.of_heap (heap_writeFd hWrite)
  apply Avoids.ite
  · exact fun _ => avoids_pure _
  intro _
  have hRead := derefUnixAt_run hSent.data
  have hRoom : client.length < usock.peerpath.length := by
    rw [hNew.peerpath]
    unfold sockaddrMaxSize
    omega
  rw [avoids_bind_ok hRead, avoids_bind_ok (copyInto_run hRoom t),
    avoids_bind_ok (modifyUnix_run hSent.data _)]
  apply Avoids.bind
  · unfold setPeername
    rw [if_pos]
    · exact avoids_of_ok (modifySocket_run
        (hSent.socket_setBlock _))
    · rw [List.length_append, length_copy hSun,
        List.length_ofFn, Word.length_littleEndian]
      decide
  · exact fun _ _ _ => avoids_pure _

/- From the request on. -/
theorem avoids_unixAcceptRequest_iff
    {env : UnixAcceptEnv}
    {lsd nsd : LsckSocket}
    {np q : Ptr}
    {usock : LsckSocketUnix}
    {req : UnixMsgOpen}
    {server : Bytes}
    {s : Process}
    (hNew : s.NewEnd np q nsd usock)
    (hServer : CString.read? (lsd.sockname.drop 2) =
      some server)
    (hRequest : req.header.type = unixMsgClientOpen →
      ∃ client, CString.read? req.path =
        some (unixLocalPath ++ client) ∧ client.length ≤ 60) :
    Avoids .fault
        (unixAcceptRequest env lsd np (some q) req) s ↔
      (req.header.type = unixMsgClientOpen →
        server.length ≤ 51) := by
  unfold unixAcceptRequest
  by_cases hType : req.header.type = unixMsgClientOpen
  · have hLength : (slotPath server env.slotRandom).length <
        maxPath ↔ server.length ≤ 51 := by
      rw [length_slotPath]
      unfold maxPath
      omega
    unfold sunPath
    rw [if_neg (not_not.mpr hType),
      avoids_bind_ok (readString_run hServer s), avoids_bind,
      avoids_fits, hLength]
    simp only [hType, true_implies]
    constructor
    · exact And.left
    intro hFits
    constructor
    · exact hFits
    intro path s' hPath
    rcases fits_ok hPath with ⟨rfl, rfl, hRoom⟩
    apply Avoids.bind
    · exact avoids_openFile.mpr (openFits_of_length hRoom _)
    intro fdR t hOpenR
    have hNewR := hNew.of_heap (openFile_ok hOpenR).heap
    rw [avoids_bind_ok (modifyUnix_run hNewR.data _)]
    have hStoredR : (t.setBlock q (some (.unix { usock with
        fdR := fdR }))).NewEnd np q nsd { usock with
          fdR := fdR } := hNewR.modify rfl
    apply Avoids.ite
    · exact fun _ => avoids_pure _
    intro _
    rcases hRequest hType with ⟨client, hClient, hShort⟩
    rw [avoids_bind_ok (readString_run hClient _)]
    have hClientRoom : (unixLocalPath ++ client).length <
        maxPath := by
      rw [List.length_append, length_unixLocalPath]
      unfold maxPath
      omega
    apply Avoids.bind
    · exact avoids_openFile.mpr
        (openFits_of_length hClientRoom _)
    intro fdW u hOpenW
    have hNewW := hStoredR.of_heap (openFile_ok hOpenW).heap
    rw [avoids_bind_ok (modifyUnix_run hNewW.data _)]
    apply Avoids.ite
    · exact fun _ => avoids_pure _
    intro hFdW
    rcases openFile_writesTo hOpenW hFdW with
      ⟨m, -, me, name, hMail, -⟩
    rw [afterPrefix_append]
    exact avoids_unixAcceptReply (hNewW.modify rfl) hRoom
      hShort (hMail.fileOk.of_fds rfl)
  · rw [if_pos hType]
    constructor
    · exact fun _ hIs => absurd hIs hType
    · exact fun _ => avoids_pure _

/- Memory is out, or the new block was free. -/
theorem malloc_cases
    (address : Option Ptr)
    (content : Block)
    (s : Process) :
    malloc address content s = .ok (none, s) ∨
      ∃ q, s.heap q = none ∧ malloc address content s =
        .ok (some q, s.setBlock q (some content)) := by
  unfold malloc
  rw [run_bind_ok (run_get s)]
  cases address with
  | none => exact .inl rfl
  | some q =>
      by_cases hUsed : (s.heap q).isSome
      · simp only [if_pos hUsed]
        exact .inl rfl
      · simp only [if_neg hUsed]
        exact .inr ⟨q, by simpa using hUsed, rfl⟩

/-
  The block that the new connection gets, cleared. Nothing
  else in the heap is written but the new socket.
-/
theorem accept_prepares
    {np a : Ptr}
    {nsd : LsckSocket}
    {content : LsckSocketUnix}
    {s : Process}
    (hNew : s.heap np = some (.socket nsd))
    (hFree : s.heap a = none) :
    ∃ t₂ t₃,
      modifySocket np (fun nsd => { nsd with idata := some a })
        (s.setBlock a (some (.unix content))) =
          .ok ((), t₂) ∧
      modifyUnix (some a) (fun usock => { usock with
        peerpath := List.replicate sockaddrMaxSize 0 }) t₂ =
          .ok ((), t₃) ∧
      t₃.NewEnd np a { nsd with idata := some a }
        { content with
          peerpath := List.replicate sockaddrMaxSize 0 } ∧
      t₃.fds = s.fds ∧
      ∀ q usock, s.heap q = some (.unix usock) →
        t₃.heap q = some (.unix usock) := by
  have hNp : np ≠ a := by
    rintro rfl
    rw [hNew] at hFree
    cases hFree
  have hNew₁ : (s.setBlock a (some (.unix content))).heap np =
      some (.socket nsd) := by
    rw [Process.heap_setBlock, Function.update_of_ne hNp, hNew]
  have hSocket := modifySocket_run (f := fun nsd =>
    { nsd with idata := some a }) hNew₁
  have hData : ((s.setBlock a (some (.unix content))).setBlock
      np (some (.socket { nsd with idata := some a }))).heap a =
        some (.unix content) := by
    rw [Process.heap_setBlock, Function.update_of_ne hNp.symm,
      Process.heap_setBlock, Function.update_self]
  refine ⟨_, _, hSocket, modifyUnix_run hData _, ?_, rfl, ?_⟩
  · constructor
    · rw [Process.heap_setBlock, Function.update_of_ne hNp,
        Process.heap_setBlock, Function.update_self]
    · rw [Process.heap_setBlock, Function.update_self]
    · exact List.length_replicate
  · intro q usock hQ
    have hQa : q ≠ a := by
      rintro rfl
      rw [hQ] at hFree
      cases hFree
    rw [Process.heap_setBlock, Function.update_of_ne hQa,
      Process.heap_setBlock,
      Function.update_of_ne (socket_ne_unix hNew hQ).symm,
      Process.heap_setBlock, Function.update_of_ne hQa, hQ]

/-
  An accept is defined exactly when the listener's name
  leaves room for the suffix, if there is an open request.
-/
theorem avoids_unixAccept_iff
    {env : UnixAcceptEnv}
    {p np : Ptr}
    {d nsd : LsckSocket}
    {usock : LsckSocketUnix}
    {server : Bytes}
    {s : Process}
    (hUnix : s.HasUnix p d usock)
    (hFile : s.FileOk usock.fdR)
    (hNew : s.heap np = some (.socket nsd))
    (hServer : CString.read? (d.sockname.drop 2) = some server)
    (hRequest : ∀ ms,
      answer (acceptTakes env p np) s = some (some ms) →
        FromClient env.reqJunk ms) :
    Avoids .fault (unixAccept env p np) s ↔
      (sockaddrMaxSize ≤ nsd.peernamelen → ∀ ms,
        answer (acceptTakes env p np) s = some (some ms) →
        (receivedRequest env.reqJunk ms).header.type =
          unixMsgClientOpen →
        server.length ≤ 51) := by
  rcases hUnix with ⟨hSocket, q, hQ, hData⟩
  unfold unixAccept
  rw [avoids_bind_ok (derefSocket_run hSocket)]
  rcases malloc_cases env.memory (.unix env.content) s with
    hNone | ⟨a, hFree, hMalloc⟩
  · -- Neither a request nor a path is read without memory.
    have hTakes : answer (acceptTakes env p np) s = none := by
      unfold answer acceptTakes
      rw [run_bind_ok (derefSocket_run hSocket),
        run_bind_ok hNone, run_bind_ok (modifySocket_run hNew)]
      rfl
    rw [avoids_bind_ok hNone,
      avoids_bind_ok (modifySocket_run hNew), if_pos rfl, hTakes]
    constructor
    · intro _ _ ms hSome
      cases hSome
    · exact fun _ => avoids_fail _ _
  rcases @accept_prepares np a nsd env.content s hNew hFree with
    ⟨t₂, t₃, hSocket₂, hClear, hNew₃, hFds₃, hKept⟩
  have hQ₃ := hKept q usock hData
  have hFile₃ := hFile.of_fds hFds₃
  have hTakes : answer (acceptTakes env p np) s =
      answer (readFd env.read usock.fdR) t₃ := by
    unfold answer acceptTakes
    rw [run_bind_ok (derefSocket_run hSocket),
      run_bind_ok hMalloc, run_bind_ok hSocket₂,
      run_bind_ok hClear, hQ,
      run_bind_ok (derefUnixAt_run hQ₃)]
  rw [avoids_bind_ok hMalloc, avoids_bind_ok hSocket₂,
    if_neg (by simp), avoids_bind_ok hClear,
    avoids_bind_ok (derefSocket_run hNew₃.socket)]
  by_cases hRoom : nsd.peernamelen < sockaddrMaxSize
  · rw [if_pos hRoom]
    constructor
    · intro _ hLe
      omega
    · exact fun _ => avoids_fail _ _
  rw [if_neg hRoom, hQ, avoids_bind_ok (derefUnixAt_run hQ₃),
    avoids_bind, hTakes]
  have hAsked : ∀ ms t₄,
      readFd env.read usock.fdR t₃ = .ok (some ms, t₄) →
      (Avoids .fault (unixAcceptRequest env d np (some a)
          (receivedRequest env.reqJunk ms)) t₄ ↔
        ((receivedRequest env.reqJunk ms).header.type =
          unixMsgClientOpen → server.length ≤ 51)) := by
    intro ms t₄ hRead
    apply avoids_unixAcceptRequest_iff
      (hNew₃.of_heap (heap_readFd hRead)) hServer
    have hTaken := answer_of_run hRead
    rw [← hTakes] at hTaken
    exact (hRequest ms hTaken).path
  constructor
  · rintro ⟨-, hRest⟩ - ms hAnswer
    rcases exists_run_of_answer hAnswer with ⟨t₄, hRead⟩
    exact (hAsked ms t₄ hRead).mp (hRest (some ms) t₄ hRead)
  · intro hFits
    constructor
    · exact avoids_readFd hFile₃
    · intro taken t₄ hRead
      cases taken with
      | none => exact avoids_pure _
      | some ms =>
          exact (hAsked ms t₄ hRead).mpr (hFits (by omega) ms
            (answer_of_run hRead))

------------------------------------------------------------
-- Datagrams
------------------------------------------------------------

theorem local_sendDgramLoop
    (fd : Fd)
    (req : UnixMsgOpen)
    (writes : List WriteEnv)
    (msg : Bytes)
    (total : Nat) :
    LocalCmd (fun _ => False)
      (sendDgramLoop fd req writes msg total) := by
  induction writes generalizing msg total with
  | nil =>
      cases msg with
      | nil => exact LocalCmd.pure _
      | cons b bs => exact Within.stop _
  | cons w ws ih =>
      cases msg with
      | nil => exact LocalCmd.pure _
      | cons b bs =>
          apply LocalCmd.bind (local_writeFd _ _ _ _)
          intro ret
          exact Within.ite (LocalCmd.fail _) (ih _ _)

theorem avoids_sendDgramLoop
    {fd : Fd}
    {req : UnixMsgOpen}
    {writes : List WriteEnv}
    {msg : Bytes}
    {total : Nat}
    {s : Process}
    (hFile : s.FileOk fd) :
    Avoids .fault (sendDgramLoop fd req writes msg total)
      s := by
  induction writes generalizing msg total s with
  | nil =>
      cases msg with
      | nil => exact avoids_pure _
      | cons b bs =>
          unfold sendDgramLoop
          simp
  | cons w ws ih =>
      cases msg with
      | nil => exact avoids_pure _
      | cons b bs =>
          unfold sendDgramLoop
          apply Avoids.bind (avoids_writeFd hFile)
          intro ret t hWrite
          have hFds := (local_writeFd (fun _ => False) _ _ _ _ _
            _ hWrite).fds
          apply Avoids.ite
          · exact fun _ => avoids_fail _ _
          · exact fun _ => ih (hFile.of_fds hFds)

/-
  Sending a datagram is defined exactly when the name of the
  receiver is short enough for its path, unless the call is
  refused before the path is built.
-/
theorem avoids_unixSendDgram_iff
    {env : UnixSendDgramEnv}
    {p : Ptr}
    {msg sun target : Bytes}
    {tolen : Nat}
    {d : LsckSocket}
    {usock : LsckSocketUnix}
    {s : Process}
    (hForm : WellFormed none s)
    (hTidy : s.Tidy p d usock)
    (hTarget : CString.read? (sun.drop 2) = some target) :
    Avoids .fault
        (unixSendDgram env p msg (some sun) tolen) s ↔
      (sockaddrMaxSize ≤ tolen → d.type = sockDgram →
        (∃ r, r ≠ -1 ∧ answer (bindHere env.bind
          env.nameRandom d) s = some r) →
        target.length ≤ 60) := by
  have hFront := length_unixLocalPath
  unfold unixSendDgram
  rw [avoids_bind_ok (derefSocket_run hTidy.unix.socket)]
  by_cases hShort : tolen < sockaddrMaxSize
  · rw [if_pos ⟨hShort, rfl⟩]
    constructor
    · intro _ hLe
      omega
    · exact fun _ => avoids_fail _ _
  rw [if_neg (fun hBoth => hShort hBoth.1)]
  by_cases hOther : d.type ≠ sockDgram
  · rw [if_pos hOther]
    constructor
    · exact fun _ _ hIs => absurd hIs hOther
    · exact fun _ => avoids_fail _ _
  have hType := not_not.mp hOther
  rw [if_neg hOther, avoids_bind]
  have hSent : ∀ r t, bindHere env.bind env.nameRandom d s =
      .ok (r, t) → r ≠ -1 →
      (Avoids .fault (do
        let lsd ← derefSocket p
        let source ← sunPath lsd.sockname
        let path ← copyInto (List.ofFn env.pathJunk)
          (unixLocalPath ++ source)
        let target ← sunPath sun
        let dest ← fits maxPath (unixLocalPath ++ target)
        let fd ← openFile env.openW dest .wronly
        if fd = -1 then
          return -1
        else do
          let total ← sendDgramLoop fd
            ⟨dgramHeader msg.length, path⟩
            env.writes msg 0
          if total = -1 then
            return -1
          else do
            let _ ← closeFd env.close fd
            return total) t ↔ target.length ≤ 60) := by
    intro r t hBind hRet
    rcases boundHere_of_run hForm hTidy hBind hRet with
      ⟨d', usock', hBound⟩
    rcases hBound.tidy.source hBound.bound with
      ⟨source, hSource, hLess⟩
    have hRoom : (unixLocalPath ++ source).length <
        (List.ofFn env.pathJunk).length := by
      rw [List.length_append, List.length_ofFn]
      omega
    have hLength : (unixLocalPath ++ target).length < maxPath ↔
        target.length ≤ 60 := by
      rw [List.length_append]
      unfold maxPath
      omega
    unfold sunPath
    rw [avoids_bind_ok (derefSocket_run hBound.tidy.unix.socket),
      avoids_bind_ok (readString_run hSource t),
      avoids_bind_ok (copyInto_run hRoom t),
      avoids_bind_ok (readString_run hTarget t), avoids_bind,
      avoids_fits, hLength]
    constructor
    · exact And.left
    intro hFits
    constructor
    · exact hFits
    intro dest t' hDest
    rcases fits_ok hDest with ⟨rfl, rfl, hSize⟩
    apply Avoids.bind
    · exact avoids_openFile.mpr (openFits_of_length hSize _)
    intro fd u hOpen
    apply Avoids.ite
    · exact fun _ => avoids_pure _
    intro hFd
    rcases openFile_writesTo hOpen hFd with
      ⟨m, -, me, name, hMail, -⟩
    apply Avoids.bind (avoids_sendDgramLoop hMail.fileOk)
    intro total v hLoop
    have hFds := (local_sendDgramLoop _ _ _ _ _ _ _ _
      hLoop).fds
    apply Avoids.ite
    · exact fun _ => avoids_pure _
    intro _
    apply Avoids.bind (avoids_closeFd (hMail.of_fds hFds))
    exact fun _ _ _ => avoids_pure _
  constructor
  · rintro ⟨-, hRest⟩ - - ⟨r, hRet, hAnswer⟩
    rcases exists_run_of_answer hAnswer with ⟨t, hBind⟩
    have hTail := hRest r t hBind
    dsimp only at hTail
    rw [if_neg hRet] at hTail
    exact (hSent r t hBind hRet).mp hTail
  · intro hFits
    constructor
    · exact avoids_bindHere hForm hTidy _
    · intro r t hBind
      apply Avoids.ite
      · exact fun _ => avoids_pure _
      · intro hRet
        exact (hSent r t hBind hRet).mpr (hFits (by omega) hType
          ⟨r, hRet, answer_of_run hBind⟩)

------------------------------------------------------------
-- Names
------------------------------------------------------------

/- A name is reported safely if it is one, and fits. -/
theorem avoids_nameOf_iff
    {junk : SunJunk}
    {path : Bytes}
    {namelen : Nat}
    {s : Process} :
    Avoids .fault (nameOf junk path namelen) s ↔
      ∃ text, CString.read? path = some text ∧
        text.length < 108 := by
  unfold nameOf
  rw [avoids_bind, avoids_readString]
  constructor
  · rintro ⟨⟨text, hText⟩, hRest⟩
    have hCopy := (avoids_bind.mp
      (hRest text s (readString_run hText s))).1
    rw [avoids_copyInto, List.length_ofFn] at hCopy
    exact ⟨text, hText, hCopy⟩
  · rintro ⟨text, hText, hFits⟩
    constructor
    · exact ⟨text, hText⟩
    · intro text' t hRead
      rcases readString_ok hRead with ⟨rfl, hText'⟩
      cases hText.symm.trans hText'
      apply Avoids.bind
      · rw [avoids_copyInto, List.length_ofFn]
        exact hFits
      · exact fun _ _ _ => avoids_pure _

------------------------------------------------------------
-- All Callbacks
------------------------------------------------------------

/- The calls that build the path of a mailslot or a name. -/
inductive PathCall
  | bind (env : UnixBindEnv) (p : Ptr) (addr : Bytes)
      (addrlen : Nat)
  | connect (env : UnixConnectEnv) (p : Ptr) (serv : Bytes)
  | accept (env : UnixAcceptEnv) (p np : Ptr)
  | sendDgram (env : UnixSendDgramEnv) (p : Ptr)
      (msg sun : Bytes) (tolen : Nat)
  | getsockname (junk : SunJunk) (p : Ptr) (namelen : Nat)
  | getpeername (junk : SunJunk) (p : Ptr) (namelen : Nat)
  | openCase (env : OpenEnv) (path : Bytes) (mode : OpenMode)

namespace PathCall

/- Nothing that the call does is undefined. -/
def Defined (call : PathCall) (s : Process) : Prop :=
  match call with
  | .bind env p addr addrlen =>
      Avoids .fault (unixBind env p addr addrlen) s
  | .connect env p serv =>
      Avoids .fault (unixConnect env p serv) s
  | .accept env p np =>
      Avoids .fault (unixAccept env p np) s
  | .sendDgram env p msg sun tolen =>
      Avoids .fault (unixSendDgram env p msg (some sun) tolen) s
  | .getsockname junk p namelen =>
      Avoids .fault (unixGetsockname junk p namelen) s
  | .getpeername junk p namelen =>
      Avoids .fault (unixGetpeername junk p namelen) s
  | .openCase env path mode =>
      Avoids .fault (openFile env path mode) s

/-
  The callback of a Unix socket, with a `sun_path` that ends
  in its array and a peer of this code.
-/
def Proper (call : PathCall) (s : Process) : Prop :=
  match call with
  | .bind _ p addr _ =>
      (∃ d usock, s.Tidy p d usock) ∧ ∃ name,
        CString.read? (addr.drop 2) = some name ∧
          name.length < 108
  | .connect env p serv =>
      WellFormed none s ∧ (∃ d usock, s.Tidy p d usock) ∧
        (∃ server, CString.read? (serv.drop 2) = some server ∧
          server.length < 108) ∧
        ∀ req ms, answer (connectTakes env p serv) s =
          some (req, some ms) →
            FromServer env.repJunk ms
  | .accept env p np =>
      (∃ d usock, s.Tidy p d usock ∧ d.bound = true) ∧
        (∃ nsd, s.heap np = some (.socket nsd)) ∧
        ∀ ms, answer (acceptTakes env p np) s =
          some (some ms) →
            FromClient env.reqJunk ms
  | .sendDgram _ p _ sun _ =>
      WellFormed none s ∧ (∃ d usock, s.Tidy p d usock) ∧
        ∃ target, CString.read? (sun.drop 2) = some target ∧
          target.length < 108
  | .getsockname _ p _ | .getpeername _ p _ =>
      ∃ d usock, s.HasUnix p d usock
  | .openCase _ _ _ => True

/-
  Every path and name that the call builds is short enough
  for its buffer.
-/
def Fits (call : PathCall) (s : Process) : Prop :=
  match call with
  | .bind env _ addr addrlen =>
      addrlen = sockaddrMaxSize → ∀ name,
        CString.read? (addr.drop 2) = some name →
          NameFits env.cwd name
  | .connect _ _ serv =>
      ∀ server, CString.read? (serv.drop 2) = some server →
        server.length ≤ 60
  | .accept env p np =>
      ∀ d nsd server ms, s.heap p = some (.socket d) →
        s.heap np = some (.socket nsd) →
        CString.read? (d.sockname.drop 2) = some server →
        sockaddrMaxSize ≤ nsd.peernamelen →
        answer (acceptTakes env p np) s = some (some ms) →
        (receivedRequest env.reqJunk ms).header.type =
          unixMsgClientOpen →
        server.length ≤ 51
  | .sendDgram env p _ sun tolen =>
      ∀ d target, s.heap p = some (.socket d) →
        CString.read? (sun.drop 2) = some target →
        sockaddrMaxSize ≤ tolen → d.type = sockDgram →
        (∃ r, r ≠ -1 ∧ answer (bindHere env.bind
          env.nameRandom d) s = some r) →
        target.length ≤ 60
  | .getsockname _ p _ =>
      ∀ d usock, s.HasUnix p d usock → ∃ text,
        CString.read? usock.sockpath = some text ∧
          text.length < 108
  | .getpeername _ p _ =>
      ∀ d usock, s.HasUnix p d usock → ∃ text,
        CString.read? usock.peerpath = some text ∧
          text.length < 108
  | .openCase _ path mode => OpenFits path mode

end PathCall

/-
  No buffer is overrun exactly when every path is short
  enough: nothing is measured on the way.
-/
theorem paths_fit_iff
    (call : PathCall)
    (s : Process)
    (hProper : call.Proper s) :
    call.Defined s ↔ call.Fits s := by
  cases call with
  | bind env p addr addrlen =>
      rcases hProper with
        ⟨⟨d, usock, hTidy⟩, name, hName, hShort⟩
      unfold PathCall.Defined PathCall.Fits
      dsimp only
      rw [avoids_unixBind_iff hTidy.unix hTidy.sockpath hName
        hShort]
      constructor
      · intro hFits hSame name' hName'
        cases hName.symm.trans hName'
        exact hFits hSame
      · exact fun hFits hSame => hFits hSame name hName
  | connect env p serv =>
      rcases hProper with ⟨hForm, ⟨d, usock, hTidy⟩,
        ⟨server, hServer, -⟩, hReply⟩
      unfold PathCall.Defined PathCall.Fits
      dsimp only
      rw [avoids_unixConnect_iff hForm hTidy hServer hReply]
      constructor
      · intro hFits server' hServer'
        cases hServer.symm.trans hServer'
        exact hFits
      · exact fun hFits => hFits server hServer
  | accept env p np =>
      rcases hProper with
        ⟨⟨d, usock, hTidy, hBound⟩, ⟨nsd, hNew⟩, hRequest⟩
      rcases hTidy.source hBound with ⟨server, hServer, -⟩
      unfold PathCall.Defined PathCall.Fits
      dsimp only
      rw [avoids_unixAccept_iff hTidy.unix hTidy.file hNew
        hServer hRequest]
      constructor
      · intro hFits d' nsd' server' ms hD' hNew' hServer' hRoom
          hTakes hType
        cases hTidy.unix.socket.symm.trans hD'
        cases hNew.symm.trans hNew'
        cases hServer.symm.trans hServer'
        exact hFits hRoom ms hTakes hType
      · intro hFits hRoom ms hTakes hType
        exact hFits d nsd server ms hTidy.unix.socket hNew
          hServer hRoom hTakes hType
  | sendDgram env p msg sun tolen =>
      rcases hProper with ⟨hForm, ⟨d, usock, hTidy⟩,
        target, hTarget, -⟩
      unfold PathCall.Defined PathCall.Fits
      dsimp only
      rw [avoids_unixSendDgram_iff hForm hTidy hTarget]
      constructor
      · intro hFits d' target' hD' hTarget' hLen hType hBinds
        cases hTidy.unix.socket.symm.trans hD'
        cases hTarget.symm.trans hTarget'
        exact hFits hLen hType hBinds
      · intro hFits hLen hType hBinds
        exact hFits d target hTidy.unix.socket hTarget hLen
          hType hBinds
  | getsockname junk p namelen =>
      rcases hProper with ⟨d, usock, hUnix⟩
      unfold PathCall.Defined PathCall.Fits unixGetsockname
      dsimp only
      rw [avoids_bind_ok (derefSocket_run hUnix.socket),
        avoids_bind_ok (derefUnix_run hUnix),
        avoids_nameOf_iff]
      constructor
      · intro hFits d' usock' hUnix'
        rcases hUnix.unique hUnix' with ⟨rfl, rfl⟩
        exact hFits
      · exact fun hFits => hFits d usock hUnix
  | getpeername junk p namelen =>
      rcases hProper with ⟨d, usock, hUnix⟩
      unfold PathCall.Defined PathCall.Fits unixGetpeername
      dsimp only
      rw [avoids_bind_ok (derefSocket_run hUnix.socket),
        avoids_bind_ok (derefUnix_run hUnix),
        avoids_nameOf_iff]
      constructor
      · intro hFits d' usock' hUnix'
        rcases hUnix.unique hUnix' with ⟨rfl, rfl⟩
        exact hFits
      · exact fun hFits => hFits d usock hUnix
  | openCase env path mode => exact avoids_openFile

theorem client_tidy :
    clientProcess.Tidy 10 clientSocket clientData := by
  have hUnbound : clientSocket.bound = false := by
    decide +kernel
  have hPlain : (clientProcess.fds clientData.fdR).function =
      none := by
    decide +kernel
  constructor
  · exact client_hasUnix
  · decide +kernel
  · decide +kernel
  · decide +kernel
  · intro hBound
    rw [hUnbound] at hBound
    cases hBound
  · intro hBound
    rw [hUnbound] at hBound
    cases hBound
  · intro hFunction
    rw [hPlain] at hFunction
    cases hFunction

/- A bind to a short name. -/
theorem bind_short_defined :
    (PathCall.bind ⟨none, ⟨some 4, .zero⟩⟩ 10 serverAddress
      sockaddrMaxSize).Defined clientProcess := by
  have hSame : CString.read? (serverAddress.drop 2) =
      some (bytes "/srv") := by
    decide
  have hProper : (PathCall.bind ⟨none, ⟨some 4, .zero⟩⟩ 10
      serverAddress sockaddrMaxSize).Proper clientProcess :=
    ⟨⟨_, _, client_tidy⟩, _, hSame, by decide⟩
  apply (paths_fit_iff _ _ hProper).mpr
  intro _ name hName
  cases hSame.symm.trans hName
  constructor
  · intro _
    decide
  · intro hNot
    exact absurd (by decide) hNot

/- An absolute path of 107 characters. -/
def longName : Bytes := slash :: List.replicate 106 97

/-
  It fits `sun_path` with its terminator, and a bind to it
  writes 127 bytes into the 80 of `path`.
-/
theorem long_bind_overruns :
    lsckSystem.Reachable clientProcess ∧
      longName.length = 107 ∧ CString.IsText longName ∧
      bind (.opening 4) 3 (some (sockaddrUn longName))
        sockaddrMaxSize clientProcess = .error .fault := by
  refine ⟨client_reachable, by decide, by decide, ?_⟩
  apply eq_fault_of_faults
  decide +kernel

end Libsocket
