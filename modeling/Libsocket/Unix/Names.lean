import Libsocket.Unix.Rendezvous

/-
  The names of Unix sockets: what `getsockname` and
  `getpeername` report, and what a bind records.

  Main declarations:
    * `unixGetsockname_ok`, `unixGetpeername_ok`
    * `getsockname_unix`
    * `bind_unix_ok`
    * `Process.BoundAbsolutely`
-/

namespace Libsocket

open Command

------------------------------------------------------------
-- Sockets And Their Data
------------------------------------------------------------

/- The data of a socket is one block. -/
theorem Process.HasUnix.unique
    {s : Process}
    {p : Ptr}
    {lsd lsd' : LsckSocket}
    {usock usock' : LsckSocketUnix}
    (hUnix : s.HasUnix p lsd usock)
    (hUnix' : s.HasUnix p lsd' usock') :
    lsd' = lsd ∧ usock' = usock := by
  rcases hUnix with ⟨hSocket, q, hQ, hB⟩
  rcases hUnix' with ⟨hSocket', q', hQ', hB'⟩
  rw [hSocket] at hSocket'
  cases hSocket'
  rw [hQ] at hQ'
  cases hQ'
  rw [hB] at hB'
  cases hB'
  exact ⟨rfl, rfl⟩

/- A Unix socket has no connect to check on entry. -/
theorem LsckSocket.checked_unix
    {lsd : LsckSocket}
    (hUnix : lsd.interface = some .unix)
    (writable : Bool) :
    lsd.checked writable = lsd := by
  unfold LsckSocket.checked
  rw [hUnix]
  rfl

/- So the check changes nothing. -/
theorem Process.check_unix
    {s : Process}
    {p : Ptr}
    {lsd : LsckSocket}
    (hSocket : s.heap p = some (.socket lsd))
    (hUnix : lsd.interface = some .unix)
    (writable : Bool) :
    s.check p lsd writable = s := by
  unfold check setBlock
  rw [LsckSocket.checked_unix hUnix, ← hSocket,
    Function.update_eq_self]

/- No block is both a socket and Unix data. -/
theorem socket_ne_unix
    {s : Process}
    {p q : Ptr}
    {d : LsckSocket}
    {usock : LsckSocketUnix}
    (hSocket : s.heap p = some (.socket d))
    (hData : s.heap q = some (.unix usock)) :
    p ≠ q := by
  rintro rfl
  rw [hSocket] at hData
  cases hData

/- A socket and its data lie in the heap. -/
theorem Process.HasUnix.of_heap
    {s s' : Process}
    {p : Ptr}
    {lsd : LsckSocket}
    {usock : LsckSocketUnix}
    (hUnix : s.HasUnix p lsd usock)
    (hHeap : s'.heap = s.heap) :
    s'.HasUnix p lsd usock := by
  rcases hUnix with ⟨hSocket, q, hQ, hData⟩
  refine ⟨?_, q, hQ, ?_⟩
  · rw [hHeap]
    exact hSocket
  · rw [hHeap]
    exact hData

/- Other data in the place of what was there. -/
theorem Process.HasUnix.update
    {s s' : Process}
    {p q : Ptr}
    {lsd : LsckSocket}
    {usock usock' : LsckSocketUnix}
    (hUnix : s.HasUnix p lsd usock)
    (hQ : lsd.idata = some q)
    (hHeap : s'.heap = Function.update s.heap q
      (some (.unix usock'))) :
    s'.HasUnix p lsd usock' := by
  rcases hUnix with ⟨hSocket, q', hQ', hData⟩
  cases hQ.symm.trans hQ'
  refine ⟨?_, q, hQ, ?_⟩
  · rw [hHeap, Function.update_of_ne
      (socket_ne_unix hSocket hData)]
    exact hSocket
  · rw [hHeap, Function.update_self]

/- An update of the data keeps the socket. -/
theorem modifyUnix_hasUnix
    {p : Ptr}
    {lsd : LsckSocket}
    {usock : LsckSocketUnix}
    {f : LsckSocketUnix → LsckSocketUnix}
    {s s' : Process}
    (hUnix : s.HasUnix p lsd usock)
    (hRun : modifyUnix lsd.idata f s = .ok ((), s')) :
    s'.HasUnix p lsd (f usock) ∧ s'.fds = s.fds ∧
      s'.mail = s.mail ∧ s'.reportsNext = s.reportsNext ∧
      s'.recvBuf = s.recvBuf := by
  rcases modifyUnix_ok hRun with ⟨q, u, hQ, hB, rfl⟩
  rcases hUnix.data with ⟨q', hQ', hData⟩
  cases hQ.symm.trans hQ'
  cases hB.symm.trans hData
  exact ⟨hUnix.update hQ rfl, rfl, rfl, rfl, rfl⟩

/- Unix data belongs to a Unix socket. -/
theorem WellFormed.interface_unix
    {s : Process}
    {p q : Ptr}
    {d : LsckSocket}
    {usock : LsckSocketUnix}
    (hForm : WellFormed none s)
    (hSocket : s.heap p = some (.socket d))
    (hQ : d.idata = some q)
    (hData : s.heap q = some (.unix usock)) :
    d.interface = some .unix := by
  rcases hForm.data p d hSocket (by simp) with
    ⟨i, q', b, hI, hQ', hB, hKind⟩
  rw [hQ] at hQ'
  cases hQ'
  rw [hData] at hB
  cases hB
  cases hKind
  exact hI

/- The descriptor behind a number has that number. -/
theorem WellFormed.socket_of_leadsTo
    {s : Process}
    {fd : Fd}
    {p : Ptr}
    (hForm : WellFormed none s)
    (hLeads : s.LeadsTo fd p) :
    ∃ d, s.heap p = some (.socket d) ∧ d.fd = fd := by
  rcases hForm.target hLeads.1 with ⟨q, d, hQ, hD, hFd⟩
  have hSame := hLeads.2.symm.trans hQ
  cases hSame
  exact ⟨d, hD, hFd⟩

/- A Unix socket has data. -/
theorem WellFormed.hasUnix
    {s : Process}
    {p : Ptr}
    {d : LsckSocket}
    (hForm : WellFormed none s)
    (hSocket : s.heap p = some (.socket d))
    (hInterface : d.interface = some .unix) :
    ∃ usock, s.HasUnix p d usock := by
  rcases hForm.data p d hSocket (by simp) with
    ⟨i, q, b, hI, hQ, hB, hKind⟩
  rw [hInterface] at hI
  cases hI
  cases b <;> cases hKind
  exact ⟨_, hSocket, q, hQ, hB⟩

/- The data of a Unix socket is found. -/
theorem derefUnix_run
    {s : Process}
    {p : Ptr}
    {d : LsckSocket}
    {usock : LsckSocketUnix}
    (hUnix : s.HasUnix p d usock) :
    deref Block.unix? d.idata s = .ok (usock, s) := by
  rcases hUnix.data with ⟨q, hQ, hData⟩
  unfold deref
  rw [hQ, run_bind_ok (run_get s), Option.bind_some, hData]
  rfl

/- A socket that is found is entered. -/
theorem enter_run
    {s : Process}
    {fd : Fd}
    {p : Ptr}
    {d : LsckSocket}
    {i : Interface}
    (hLeads : s.LeadsTo fd p)
    (hSocket : s.heap p = some (.socket d))
    (hInterface : d.interface = some i)
    (writable : Bool) :
    enter writable fd s = .ok (some p, s.check p d writable) := by
  have hFound : fdToLsd fd s = .ok (some p, s) := by
    unfold fdToLsd
    rw [run_bind_ok (run_get s), fdIsSocket, hLeads.1,
      hLeads.2]
    rfl
  have hKind : interfaceOf d s = .ok (i, s) := by
    unfold interfaceOf
    rw [hInterface]
    rfl
  unfold enter
  rw [run_bind_ok hFound]
  dsimp only
  rw [run_bind_ok (derefSocket_run hSocket), run_bind_ok hKind,
    run_bind_ok (modifySocket_run hSocket)]
  rfl

/- So a call goes on with the checked descriptor. -/
theorem prologue_run
    {α : Type}
    {s : Process}
    {fd : Fd}
    {p : Ptr}
    {d : LsckSocket}
    {i : Interface}
    {x : α}
    {rest : Ptr → LsckSocket → Interface → Exec α}
    (hLeads : s.LeadsTo fd p)
    (hSocket : s.heap p = some (.socket d))
    (hInterface : d.interface = some i)
    (writable : Bool) :
    (do
      let found ← enter writable fd
      match found with
      | none => return x
      | some p => do
          let lsd ← derefSocket p
          let i ← interfaceOf lsd
          rest p lsd i) s =
      rest p (d.checked writable) i
        (s.check p d writable) := by
  have hKind : interfaceOf (d.checked writable)
      (s.check p d writable) =
        .ok (i, s.check p d writable) := by
    unfold interfaceOf
    rw [d.checked_interface, hInterface]
    rfl
  rw [run_bind_ok (enter_run hLeads hSocket hInterface _)]
  dsimp only
  rw [run_bind_ok (derefSocket_run
    (s.socket_check p d writable)), run_bind_ok hKind]

------------------------------------------------------------
-- Reported Names
------------------------------------------------------------

/- The address of a path, with junk behind the path. -/
def addressOf (junk : SunJunk) (path : Bytes) : Bytes :=
  Word.littleEndian 2 1 ++ (CString.store path ++
    (List.ofFn junk).drop (path.length + 1))

theorem length_addressOf
    {junk : SunJunk}
    {path : Bytes}
    (hFits : path.length < 108) :
    (addressOf junk path).length = sockaddrMaxSize := by
  have hPath : path.length < (List.ofFn junk).length := by
    rw [List.length_ofFn]
    exact hFits
  rw [addressOf, List.length_append, length_copy hPath,
    List.length_ofFn]
  rfl

/- An address names its path. -/
theorem read?_addressOf
    {path : Bytes}
    (hPath : CString.IsText path)
    (junk : SunJunk) :
    CString.read? ((addressOf junk path).drop 2) =
      some path := by
  have hDrop : (addressOf junk path).drop 2 =
      CString.store path ++
        (List.ofFn junk).drop (path.length + 1) := rfl
  rw [hDrop]
  exact CString.read?_store hPath _

/- The address that names a path is cut to what is asked. -/
theorem nameOf_ok
    {junk : SunJunk}
    {path b : Bytes}
    {namelen : Nat}
    {s s' : Process}
    (hRun : nameOf junk path namelen s = .ok (b, s')) :
    s' = s ∧ ∃ text, CString.read? path = some text ∧
      text.length < 108 ∧
      b = (addressOf junk text).take namelen := by
  rcases bind_eq_ok.mp hRun with ⟨text, t, hRead, hTail⟩
  rcases readString_ok hRead with ⟨rfl, hText⟩
  rcases bind_eq_ok.mp hTail with ⟨sun, u, hCopy, hPure⟩
  rcases copyInto_ok hCopy with ⟨rfl, hFits, rfl⟩
  cases hPure
  rw [List.length_ofFn] at hFits
  exact ⟨rfl, text, hText, hFits, rfl⟩

/- What is reported is the path in the interface's data. -/
theorem unixGetsockname_ok
    {junk : SunJunk}
    {p : Ptr}
    {b : Bytes}
    {namelen : Nat}
    {s s' : Process}
    (hRun : unixGetsockname junk p namelen s =
      .ok (b, s')) :
    s' = s ∧ ∃ lsd usock text, s.HasUnix p lsd usock ∧
      CString.read? usock.sockpath = some text ∧
      text.length < 108 ∧
      b = (addressOf junk text).take namelen := by
  rcases bind_eq_ok.mp hRun with ⟨lsd, t, hRead, hTail⟩
  rcases derefSocket_ok hRead with ⟨rfl, hSocket⟩
  rcases bind_eq_ok.mp hTail with ⟨usock, u, hData, hName⟩
  rcases derefUnix_ok hData with ⟨rfl, hUnix⟩
  rcases nameOf_ok hName with ⟨rfl, text, hText⟩
  exact ⟨rfl, lsd, usock, text, ⟨hSocket, hUnix⟩, hText⟩

theorem unixGetpeername_ok
    {junk : SunJunk}
    {p : Ptr}
    {b : Bytes}
    {namelen : Nat}
    {s s' : Process}
    (hRun : unixGetpeername junk p namelen s =
      .ok (b, s')) :
    s' = s ∧ ∃ lsd usock text, s.HasUnix p lsd usock ∧
      CString.read? usock.peerpath = some text ∧
      text.length < 108 ∧
      b = (addressOf junk text).take namelen := by
  rcases bind_eq_ok.mp hRun with ⟨lsd, t, hRead, hTail⟩
  rcases derefSocket_ok hRead with ⟨rfl, hSocket⟩
  rcases bind_eq_ok.mp hTail with ⟨usock, u, hData, hName⟩
  rcases derefUnix_ok hData with ⟨rfl, hUnix⟩
  rcases nameOf_ok hName with ⟨rfl, text, hText⟩
  exact ⟨rfl, lsd, usock, text, ⟨hSocket, hUnix⟩, hText⟩

/- `getsockname` on a Unix socket. -/
theorem getsockname_unix
    {env : NameEnv}
    {fd : Fd}
    {p : Ptr}
    {namelen : Nat}
    {lsd : LsckSocket}
    {usock : LsckSocketUnix}
    {s s' : Process}
    {x : Option (Bytes × Nat)}
    (hLeads : s.LeadsTo fd p)
    (hUnix : s.HasUnix p lsd usock)
    (hInterface : lsd.interface = some .unix)
    (hRun : getsockname env fd namelen s = .ok (x, s')) :
    s' = s ∧ ∃ text,
      CString.read? usock.sockpath = some text ∧
      text.length < 108 ∧
      x = some ((addressOf env.junk text).take namelen,
        ((addressOf env.junk text).take namelen).length) := by
  have hTail :=
    prologue_leads hLeads hUnix.socket hInterface hRun
  rw [Process.check_unix hUnix.socket hInterface] at hTail
  rcases bind_eq_ok.mp hTail with ⟨name, t, hName, hPure⟩
  cases hPure
  rcases unixGetsockname_ok hName with
    ⟨rfl, lsd', usock', text, hUnix', hText, hFits, rfl⟩
  rcases hUnix.unique hUnix' with ⟨rfl, rfl⟩
  exact ⟨rfl, text, hText, hFits, rfl⟩

/- `getpeername` on a connected Unix stream. -/
theorem getpeername_unix
    {env : NameEnv}
    {fd : Fd}
    {p : Ptr}
    {namelen : Nat}
    {lsd : LsckSocket}
    {usock : LsckSocketUnix}
    {s s' : Process}
    {x : Option (Bytes × Nat)}
    (hLeads : s.LeadsTo fd p)
    (hUnix : s.HasUnix p lsd usock)
    (hInterface : lsd.interface = some .unix)
    (hConnected : lsd.connected = true)
    (hRun : getpeername env fd namelen s = .ok (x, s')) :
    s' = s ∧ ∃ text,
      CString.read? usock.peerpath = some text ∧
      text.length < 108 ∧
      x = some ((addressOf env.junk text).take namelen,
        ((addressOf env.junk text).take namelen).length) := by
  have hTail :=
    prologue_leads hLeads hUnix.socket hInterface hRun
  rw [Process.check_unix hUnix.socket hInterface,
    LsckSocket.checked_unix hInterface, hConnected] at hTail
  rw [if_neg (by simp)] at hTail
  rcases bind_eq_ok.mp hTail with ⟨name, t, hName, hPure⟩
  cases hPure
  rcases unixGetpeername_ok hName with
    ⟨rfl, lsd', usock', text, hUnix', hText, hFits, rfl⟩
  rcases hUnix.unique hUnix' with ⟨rfl, rfl⟩
  exact ⟨rfl, text, hText, hFits, rfl⟩

------------------------------------------------------------
-- Recorded Names
------------------------------------------------------------

theorem overlay_of_length_eq
    {buffer b : Bytes}
    (hLength : b.length = buffer.length) :
    overlay buffer b = b := by
  unfold overlay
  rw [hLength, List.drop_length, ← hLength,
    List.take_length, List.append_nil]

/- An address laid over a name reads as itself, if at all. -/
theorem read?_overlay
    {buffer b name source : Bytes}
    (hName : CString.read? (b.drop 2) = some name)
    (hSource : CString.read? ((overlay buffer b).drop 2) =
      some source) :
    source = name := by
  unfold overlay at hSource
  by_cases hLess : b.length ≤ buffer.length
  · have hShort : 2 ≤ b.length := by
      by_contra hNot
      rw [List.drop_eq_nil_of_le (by omega)] at hName
      cases hName
    rw [List.take_of_length_le hLess,
      List.drop_append_of_le_length hShort,
      CString.read?_append hName] at hSource
    exact (Option.some.inj hSource).symm
  · have hMore : buffer.length ≤ b.length := by omega
    rw [List.drop_eq_nil_of_le hMore, List.append_nil]
      at hSource
    apply CString.read?_of_prefix _ hName hSource
    rw [List.drop_take]
    exact List.take_prefix _ _

/- A descriptor with an address laid over its name. -/
def LsckSocket.named
    (lsd : LsckSocket)
    (b : Bytes) : LsckSocket :=
  { lsd with
    sockname := overlay lsd.sockname b
    socknamelen := sockaddrMaxSize
    bound := true }

/- The name that the interface reports is recorded. -/
theorem recordName_unix
    {env : BindEnv}
    {p : Ptr}
    {lsd : LsckSocket}
    {usock : LsckSocketUnix}
    {s s' : Process}
    (hUnix : s.HasUnix p lsd usock)
    (hInterface : lsd.interface = some .unix)
    (hLeads : s.LeadsTo lsd.fd p)
    (hRun : recordName env p s = .ok ((), s')) :
    ∃ text b, CString.read? usock.sockpath = some text ∧
      b.length = sockaddrMaxSize ∧
      CString.read? (b.drop 2) = some text ∧
      s' = s.setBlock p (some (.socket (lsd.named b))) := by
  unfold recordName at hRun
  rw [run_bind_ok (derefSocket_run hUnix.socket)] at hRun
  rcases bind_eq_ok.mp hRun with ⟨x, t, hName, hTail⟩
  rcases getsockname_unix hLeads hUnix hInterface hName with
    ⟨rfl, text, hText, hFits, rfl⟩
  have hLength : (addressOf env.name.junk text).length =
      sockaddrMaxSize := length_addressOf hFits
  have hWhole : (addressOf env.name.junk text).take
      sockaddrMaxSize = addressOf env.name.junk text :=
    List.take_of_length_le (Nat.le_of_eq hLength)
  have hOver : overlay (List.ofFn env.buf)
      (addressOf env.name.junk text) =
        addressOf env.name.junk text := by
    apply overlay_of_length_eq
    rw [hLength, List.length_ofFn]
    rfl
  dsimp only at hTail
  rw [hWhole, hOver, hLength, if_pos (Nat.le_refl _), hWhole]
    at hTail
  rcases modifySocket_ok hTail with ⟨lsd', hSocket, rfl⟩
  rw [hUnix.socket] at hSocket
  cases hSocket
  refine ⟨text, _, hText, hLength, ?_, rfl⟩
  exact read?_addressOf (CString.isText_of_read? hText) _

/- A bind of the interface answers 0 or -1. -/
theorem unixBind_answer
    {env : UnixBindEnv}
    {p : Ptr}
    {addr : Bytes}
    {addrlen : Nat}
    {s s' : Process}
    {r : Int}
    (hRun : unixBind env p addr addrlen s = .ok (r, s'))
    (hSuccess : r ≠ -1) :
    r = 0 := by
  rcases bind_eq_ok.mp hRun with ⟨lsd, s₁, -, hSocket⟩
  rcases bind_eq_ok.mp hSocket with ⟨usock, s₂, -, hChecks⟩
  rcases ite_fail_ok hChecks hSuccess with ⟨-, hCheck⟩
  rcases ite_fail_ok hCheck hSuccess with ⟨-, hBody⟩
  rcases bind_eq_ok.mp hBody with ⟨name, s₃, -, hNamed⟩
  cases hBuilt : bindPath env.cwd name with
  | none =>
      rw [hBuilt] at hNamed
      cases hNamed
      exact absurd rfl hSuccess
  | some built =>
      simp only [hBuilt] at hNamed
      rcases bind_eq_ok.mp hNamed with ⟨path, s₄, -, hFitted⟩
      rcases bind_eq_ok.mp hFitted with ⟨fd, s₅, -, hOpened⟩
      rcases bind_eq_ok.mp hOpened with ⟨_, s₆, -, hStored⟩
      by_cases hFd : fd ≠ -1
      · rw [if_pos hFd] at hStored
        rcases bind_eq_ok.mp hStored with ⟨_, s₇, -, hCopied⟩
        rcases bind_eq_ok.mp hCopied with ⟨_, s₈, -, hPure⟩
        cases hPure
        rfl
      · rw [if_neg hFd] at hStored
        rcases bind_eq_ok.mp hStored with ⟨_, s₇, -, hPure⟩
        cases hPure
        exact absurd rfl hSuccess

/-
  The socket is bound to an absolute name and reads from the
  mailslot of that name.
-/
def Process.BoundAbsolutely
    (s : Process)
    (p : Ptr)
    (name m : Bytes) : Prop :=
  IsAbsolute name ∧
    readName (unixLocalPath ++ name) = some m ∧
    s.BoundTo p name m

/-
  What `bind` has done to a Unix socket when it succeeds: it
  has a name and a mailslot, and the name was laid over the
  one that the descriptor had.
-/
theorem bind_unix_ok
    {env : BindEnv}
    {fd : Fd}
    {p : Ptr}
    {d : LsckSocket}
    {addr name : Bytes}
    {addrlen : Nat}
    {s s' : Process}
    {r : Int}
    (hForm : WellFormed none s)
    (hLeads : s.LeadsTo fd p)
    (hSocket : s.heap p = some (.socket d))
    (hInterface : d.interface = some .unix)
    (hFd : d.fd = fd)
    (hName : CString.read? (addr.drop 2) = some name)
    (hRun : bind env fd (some addr) addrlen s = .ok (r, s'))
    (hSuccess : r ≠ -1) :
    ∃ m usock fdR b, s.HasUnix p d usock ∧
      s'.HasUnix p (d.named b) (usock.boundAs fdR name) ∧
      CString.read? (usock.boundAs fdR name).sockpath =
        some name ∧
      s'.ReadsFrom fdR m ∧
      (IsAbsolute name →
        readName (unixLocalPath ++ name) = some m) ∧
      CString.read? (b.drop 2) = some name ∧
      b.length = sockaddrMaxSize := by
  rcases prologue_ok hRun with ⟨hFail, -, -⟩ |
    ⟨q, d', i, hLeads', hSocket', hI, hTail⟩
  · exact absurd hFail hSuccess
  have hSame := hLeads.2.symm.trans hLeads'.2
  cases hSame
  rw [hSocket] at hSocket'
  cases hSocket'
  rw [hInterface] at hI
  cases hI
  rw [Process.check_unix hSocket hInterface,
    LsckSocket.checked_unix hInterface] at hTail
  cases hRefusal : bindRefusal d (some addr) with
  | some e =>
      rw [hRefusal] at hTail
      cases hTail
      exact absurd rfl hSuccess
  | none =>
      rw [hRefusal] at hTail
      rcases bind_eq_ok.mp hTail with ⟨ret, t, hBind, hRest⟩
      by_cases hRet : ret = 0
      · subst hRet
        rw [if_pos rfl] at hRest
        rcases bind_eq_ok.mp hRest with ⟨_, u, hRecord, hPure⟩
        cases hPure
        rcases unixBind_reads hBind hName with
          ⟨m, lsd, usock, fdR, hBefore, hUnix, hPath, hReads, -,
            hRead⟩
        have hLsd := hBefore.socket
        rw [hSocket] at hLsd
        cases hLsd
        have hEntry : t.LeadsTo d.fd p := by
          have hSame := (still_unixBind _ _ _ _ _ _ _
            hBind).entry hForm.fds fd (.inl hLeads.1)
          rw [hFd]
          unfold Process.LeadsTo
          rw [hSame]
          exact hLeads
        rcases recordName_unix hUnix hInterface hEntry hRecord
          with ⟨text, b, hText, hLength, hB, rfl⟩
        rw [hPath] at hText
        cases hText
        rcases hUnix.data with ⟨q, hQ, hData⟩
        have hNe : q ≠ p := by
          rintro rfl
          rw [hUnix.socket] at hData
          cases hData
        refine ⟨m, usock, fdR, b, hBefore, ⟨?_, q, hQ, ?_⟩,
          hPath, hReads.of_fds rfl, hRead, hB, hLength⟩
        · rw [Process.heap_setBlock, Function.update_self]
        · rw [Process.heap_setBlock,
            Function.update_of_ne hNe, hData]
      · rw [if_neg hRet] at hRest
        rcases bind_eq_ok.mp hRest with ⟨_, u, -, hPure⟩
        cases hPure
        exact absurd (unixBind_answer hBind hSuccess) hRet

/- A bind to an absolute name. -/
theorem bind_boundAbsolutely
    {env : BindEnv}
    {fd : Fd}
    {p : Ptr}
    {d : LsckSocket}
    {addr name : Bytes}
    {addrlen : Nat}
    {s s' : Process}
    {r : Int}
    (hForm : WellFormed none s)
    (hLeads : s.LeadsTo fd p)
    (hSocket : s.heap p = some (.socket d))
    (hInterface : d.interface = some .unix)
    (hFd : d.fd = fd)
    (hSize : d.sockname.length = sockaddrMaxSize)
    (hName : CString.read? (addr.drop 2) = some name)
    (hIs : IsAbsolute name)
    (hRun : bind env fd (some addr) addrlen s = .ok (r, s'))
    (hSuccess : r ≠ -1) :
    ∃ m, s'.BoundAbsolutely p name m := by
  rcases bind_unix_ok hForm hLeads hSocket hInterface hFd
    hName hRun hSuccess with
    ⟨m, usock, fdR, b, -, hUnix, hPath, hReads, hRead, hB,
      hLength⟩
  refine ⟨m, hIs, hRead hIs, d.named b, _, hUnix, rfl, ?_,
    hPath, hReads⟩
  have hOver : overlay d.sockname b = b :=
    overlay_of_length_eq (by rw [hLength, hSize])
  unfold LsckSocket.named
  rw [hOver]
  exact hB

end Libsocket
