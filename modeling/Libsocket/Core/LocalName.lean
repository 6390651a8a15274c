import Libsocket.Core.CallChanges
import Libsocket.Core.Phase

/-
  The local name of a bound socket. No call but `connect`
  changes the name that a bound socket has, and `connect`
  changes it when it succeeds and when the interface fails:
  then it clears the name and leaves `bound` set.

  Main declarations:
    * `LsckSocket.localName`, `Process.boundName`
    * `ConnectFails`, `ConnectKeepsName`
    * `NameRecorded`
    * `bound_name_iff`
-/

namespace Libsocket

open Command

------------------------------------------------------------
-- Local Names
------------------------------------------------------------

/- The stored name of a descriptor, if it is bound. -/
def LsckSocket.localName
    (d : LsckSocket) : Option (Bytes × Nat) :=
  if d.bound then some (d.sockname, d.socknamelen) else none

theorem LsckSocket.localName_eq_some
    {d : LsckSocket}
    {name : Bytes}
    {namelen : Nat} :
    d.localName = some (name, namelen) ↔
      d.bound = true ∧ d.sockname = name ∧
        d.socknamelen = namelen := by
  unfold localName
  by_cases hBound : d.bound
  · simp [hBound]
  · simp [hBound]

/- A bound descriptor stays bound under its name. -/
def LsckSocket.KeepsName (d d' : LsckSocket) : Prop :=
  ∀ n, d.localName = some n → d'.localName = some n

theorem LsckSocket.KeepsName.of_eq
    {d d' : LsckSocket}
    (hSame : d'.localName = d.localName) :
    d.KeepsName d' :=
  fun _ hName => hSame.trans hName

theorem LsckSocket.localName_checked
    (writable : Bool)
    (d : LsckSocket) :
    (d.checked writable).localName = d.localName := by
  rcases d.checked_cases writable with h | h
  · rw [h]
  · rw [h.2.2]
    rfl

theorem LsckSocket.localName_shut
    (how : Int)
    (d : LsckSocket) :
    (d.shut how).localName = d.localName := by
  unfold LsckSocket.shut
  split
  · rfl
  · split <;> rfl

/- A socket comes from one whose name it keeps. -/
def Block.KeepsName (b b' : Block) : Prop :=
  ∀ d', b' = .socket d' →
    ∃ d, b = .socket d ∧ d.KeepsName d'

theorem Block.KeepsName.of_eq
    {d d' : LsckSocket}
    (hSame : d'.localName = d.localName) :
    Block.KeepsName (.socket d) (.socket d') := by
  intro e hE
  cases hE
  exact ⟨d, rfl, .of_eq hSame⟩

instance : Tolerates Block.KeepsName where
  refl _ := fun d hD => ⟨d, hD, .of_eq rfl⟩
  trans hLeft hRight := by
    intro d'' hD''
    rcases hRight d'' hD'' with ⟨d', hD', hKeeps'⟩
    rcases hLeft d' hD' with ⟨d, hD, hKeeps⟩
    exact ⟨d, hD, fun n hName => hKeeps' n (hKeeps n hName)⟩
  peer _ _ _ := .of_eq rfl
  mode _ _ := .of_eq rfl
  data _ _ := .of_eq rfl
  check d writable := .of_eq (d.localName_checked writable)
  listen _ _ := .of_eq rfl
  shut d how := .of_eq (d.localName_shut how)
  wsock _ _ := by
    intro d hD
    cases hD
  csock _ _ := by
    intro d hD
    cases hD
  unix _ _ _ := by
    intro d hD
    cases hD

/- The name of the bound socket that a block holds. -/
def Process.boundName
    (s : Process)
    (p : Ptr) : Option (Bytes × Nat) :=
  (s.socket? p).bind LsckSocket.localName

theorem Process.boundName_eq
    {s : Process}
    {p : Ptr}
    {d : LsckSocket}
    (hSocket : s.heap p = some (.socket d)) :
    s.boundName p = d.localName := by
  simp [boundName, Process.socket?_eq_some.mpr hSocket]

theorem Process.boundName_some
    {s : Process}
    {p : Ptr}
    {n : Bytes × Nat}
    (hName : s.boundName p = some n) :
    ∃ d, s.heap p = some (.socket d) ∧
      d.localName = some n := by
  rcases Option.bind_eq_some_iff.mp hName with ⟨d, hD, hN⟩
  exact ⟨d, Process.socket?_eq_some.mp hD, hN⟩

/- What is no bound socket has no name. -/
theorem Process.boundName_none
    {s : Process}
    {p : Ptr}
    (hNone : ∀ d, s.heap p = some (.socket d) →
      d.bound = false) :
    s.boundName p = none := by
  cases hName : s.boundName p with
  | none => rfl
  | some n =>
      rcases Process.boundName_some hName with ⟨d, hD, hN⟩
      simp [LsckSocket.localName, hNone d hD] at hN

/- A socket that is there after the change has its name. -/
theorem Changes.boundName
    {own : Ptr → Prop}
    {s t : Process}
    {p : Ptr}
    {n : Bytes × Nat}
    (hChanges : Changes own Block.KeepsName s t)
    (hNot : ¬ own p)
    (hThere : t.IsSocket p)
    (hName : s.boundName p = some n) :
    t.boundName p = some n := by
  rcases hThere with ⟨d', hSocket'⟩
  rcases hChanges p _ hNot hSocket' with ⟨b, hBlock, hB⟩
  rcases hB d' rfl with ⟨d, rfl, hKeeps⟩
  have hSocket : s.heap p = some (.socket d) := hBlock
  rw [Process.boundName_eq hSocket] at hName
  rw [Process.boundName_eq hSocket']
  exact hKeeps n hName

------------------------------------------------------------
-- Connects That Fail
------------------------------------------------------------

/-
  All checks let the connect pass to the interface, which
  fails: the branch that clears the details is taken.
-/
def ConnectFails
    (env : ConnectEnv)
    (serv : Option Bytes)
    (addrlen : Nat)
    (p : Ptr)
    (d : LsckSocket)
    (s : Process) : Prop :=
  connectRefusal (d.checked env.writable) serv addrlen =
      none ∧
    d.type ≠ sockDgram ∧
    connectAddressRefusal (d.checked env.writable) serv =
      none ∧
    ∃ i ret t e, d.interface = some i ∧
      interfaceConnect env i p (serv.getD [])
        (s.check p d env.writable) = .ok (ret, t) ∧
      ret ≠ 0 ∧ t.heap p = some (.socket e) ∧
      ¬ (e.blocking = false ∧ t.errno = .EWOULDBLOCK)

/- Clearing the stored name would not change it. -/
def LsckSocket.NameClear (d : LsckSocket) : Prop :=
  bzeroName d.sockname = d.sockname ∧ d.socknamelen = 0

/-
  A connect on a bound socket does not reach the interface,
  or does not fail there, or has no name left to clear.
-/
def ConnectKeepsName
    (env : ConnectEnv)
    (fd : Fd)
    (serv : Option Bytes)
    (addrlen : Nat)
    (s : Process) : Prop :=
  ∀ p d, s.LeadsTo fd p → s.heap p = some (.socket d) →
    d.bound = true → ConnectFails env serv addrlen p d s →
    d.NameClear

theorem checked_type
    (writable : Bool)
    (d : LsckSocket) :
    (d.checked writable).type = d.type := by
  rcases d.checked_cases writable with h | h
  · rw [h]
  · rw [h.2.2]

section Connect

variable {env : ConnectEnv} {fd : Fd}
variable {serv : Option Bytes} {addrlen : Nat}
variable {p : Ptr} {d : LsckSocket}
variable {s s' : Process} {r : Int}

/- The interface leaves the name of a bound client alone. -/
theorem interfaceConnect_name
    {i : Interface}
    {dest : Bytes}
    {n : Bytes × Nat}
    {e : LsckSocket}
    {t : Process}
    (hForm : WellFormed none s)
    (hName : s.boundName p = some n)
    (hCall : interfaceConnect env i p dest s = .ok (r, t))
    (hThere : t.heap p = some (.socket e)) :
    e.localName = some n := by
  have hChanges : Changes (· ≠ p) Block.KeepsName s t := by
    apply changes_interfaceConnect hForm _ _ hCall
    · intro c hSocket hUnbound
      rw [Process.boundName_eq hSocket, LsckSocket.localName,
        hUnbound] at hName
      cases hName
    · -- The data of a socket is another block.
      rintro c q hSocket hQ rfl
      rcases hForm.data q c hSocket (by simp) with
        ⟨j, q', b, -, hQ', hBlock, hKind⟩
      cases hQ.symm.trans hQ'
      cases hSocket.symm.trans hBlock
      cases hKind
  have hKept := hChanges.boundName (fun hNe => hNe rfl)
    ⟨e, hThere⟩ hName
  rw [Process.boundName_eq hThere] at hKept
  exact hKept

theorem boundName_check (writable : Bool) :
    (s.check p d writable).boundName p = d.localName := by
  rw [Process.boundName_eq (s.socket_check p d writable)]
  exact d.localName_checked writable

theorem modifySocket_name
    {f : LsckSocket → LsckSocket}
    {n : Bytes × Nat}
    (hSame : ∀ e, (f e).localName = e.localName)
    (hName : s.boundName p = some n)
    (hRun : modifySocket p f s = .ok ((), s')) :
    s'.boundName p = some n := by
  rcases modifySocket_ok hRun with ⟨e, hThere, rfl⟩
  rw [Process.boundName_eq hThere] at hName
  rw [Process.boundName_eq (d := f e) (by simp)]
  exact (hSame e).trans hName

theorem setPeername_name
    {name : Bytes}
    {namelen : Nat}
    {n : Bytes × Nat}
    (hName : s.boundName p = some n)
    (hRun : setPeername p name namelen s = .ok ((), s')) :
    s'.boundName p = some n := by
  unfold setPeername at hRun
  by_cases hFits : name.length ≤ sockaddrMaxSize
  · rw [if_pos hFits] at hRun
    apply modifySocket_name _ hName hRun
    exact fun _ => rfl
  · rw [if_neg hFits] at hRun
    cases hRun

/- A datagram socket only stores the name of its peer. -/
theorem connectDgram_name
    {lsd : LsckSocket}
    {n : Bytes × Nat}
    (hName : s.boundName p = some n)
    (hRun : connectDgram lsd p serv addrlen s =
      .ok (r, s')) :
    s'.boundName p = some n := by
  cases serv with
  | none =>
      rcases bind_eq_ok.mp hRun with ⟨_, t, hClear, hPure⟩
      cases hPure
      apply modifySocket_name _ hName hClear
      exact fun _ => rfl
  | some a =>
      simp only [connectDgram] at hRun
      by_cases hFamily : saFamily a ≠ lsd.family
      · rw [if_pos hFamily] at hRun
        cases hRun
        exact hName
      · rw [if_neg hFamily] at hRun
        rcases bind_eq_ok.mp hRun with ⟨_, t, hPeer, hPure⟩
        cases hPure
        exact setPeername_name hName hPeer

/- So does a connect that is under way. -/
theorem connectPending_name
    {dest : Bytes}
    {n : Bytes × Nat}
    (hName : s.boundName p = some n)
    (hRun : connectPending p dest addrlen s = .ok (r, s')) :
    s'.boundName p = some n := by
  rcases bind_eq_ok.mp hRun with ⟨_, t, hPeer, hTail⟩
  rcases bind_eq_ok.mp hTail with ⟨_, u, hMark, hFail⟩
  cases hFail
  have hMarked : u.boundName p = some n := by
    apply modifySocket_name _ (setPeername_name hName hPeer)
      hMark
    exact fun _ => rfl
  exact hMarked

/- The branch that clears the details. -/
theorem connect_fails_name
    {name : Bytes}
    {namelen : Nat}
    (hForm : WellFormed none s)
    (hLeads : s.LeadsTo fd p)
    (hSocket : s.heap p = some (.socket d))
    (hName : d.localName = some (name, namelen))
    (hFails : ConnectFails env serv addrlen p d s)
    (hRun : connect env fd serv addrlen s = .ok (r, s')) :
    s'.boundName p = some (bzeroName name, 0) := by
  rcases hFails with
    ⟨hPass, hType, hAddress, i, ret, t, e, hInterface, hCall,
      hRet, hThere, hNotPending⟩
  have hFormC := (drift_check hSocket env.writable).form hForm
  have hNameE := interfaceConnect_name hFormC
    ((boundName_check env.writable).trans hName) hCall
    hThere
  rcases LsckSocket.localName_eq_some.mp hNameE with
    ⟨hBoundE, rfl, rfl⟩
  have hTail := prologue_leads hLeads hSocket hInterface hRun
  rw [hPass] at hTail
  simp only [refuseOr] at hTail
  rw [if_neg (by rw [checked_type]; exact hType), hAddress]
    at hTail
  simp only [connectStream] at hTail
  rw [run_bind_ok hCall, run_bind_ok (run_get t),
    run_bind_ok (derefSocket_run hThere), if_neg hRet,
    if_neg hNotPending] at hTail
  unfold connectFailed at hTail
  rw [run_bind_ok (modifySocket_run hThere)] at hTail
  cases hTail
  rw [Process.boundName_eq (d := markFailed e)
    (by simp [markFailed])]
  simp [LsckSocket.localName, markFailed, hBoundE]

/-
  Every other connect, unless it is one of a stream socket
  that succeeds.
-/
theorem connect_name
    {n : Bytes × Nat}
    (hForm : WellFormed none s)
    (hLeads : s.LeadsTo fd p)
    (hSocket : s.heap p = some (.socket d))
    (hName : d.localName = some n)
    (hNot : ¬ ConnectFails env serv addrlen p d s)
    (hOther : r = 0 → d.type = sockDgram)
    (hRun : connect env fd serv addrlen s = .ok (r, s')) :
    s'.boundName p = some n := by
  have hFormC := (drift_check hSocket env.writable).form hForm
  have hNameC : (s.check p d env.writable).boundName p =
      some n :=
    (boundName_check env.writable).trans hName
  rcases prologue_ok hRun with ⟨-, hNone, -⟩ |
    ⟨q, c, i, hLeads', hSocket', hInterface, hTail⟩
  · exact absurd hLeads (hNone p)
  cases hLeads.2.symm.trans hLeads'.2
  cases hSocket.symm.trans hSocket'
  cases hPass : connectRefusal (d.checked env.writable) serv
      addrlen with
  | some e =>
      rw [hPass] at hTail
      cases hTail
      exact hNameC
  | none =>
      rw [hPass] at hTail
      simp only [refuseOr, checked_type] at hTail
      by_cases hDgram : d.type = sockDgram
      · rw [if_pos hDgram] at hTail
        exact connectDgram_name hNameC hTail
      rw [if_neg hDgram] at hTail
      cases hAddress : connectAddressRefusal
          (d.checked env.writable) serv with
      | some e =>
          rw [hAddress] at hTail
          cases hTail
          exact hNameC
      | none =>
          rw [hAddress] at hTail
          rcases bind_eq_ok.mp hTail with
            ⟨ret, t, hCall, hRest⟩
          rw [run_bind_ok (run_get t)] at hRest
          rcases bind_eq_ok.mp hRest with
            ⟨e, u, hRead, hLast⟩
          rcases derefSocket_ok hRead with ⟨rfl, hThere⟩
          have hNameE := interfaceConnect_name hFormC hNameC
            hCall hThere
          by_cases hZero : ret = 0
          · rw [if_pos hZero] at hLast
            exact absurd (hOther (connectDone_ok hLast).1)
              hDgram
          rw [if_neg hZero] at hLast
          by_cases hPending :
              e.blocking = false ∧ u.errno = .EWOULDBLOCK
          · rw [if_pos hPending] at hLast
            apply connectPending_name _ hLast
            rw [Process.boundName_eq hThere]
            exact hNameE
          · exact absurd ⟨hPass, hDgram, hAddress, i, ret, u,
              e, hInterface, hCall, hZero, hThere,
              hPending⟩ hNot

/-
  A connect that keeps the name of its socket: the condition
  is exact for every call that does not connect.
-/
theorem connect_name_iff
    (hForm : WellFormed none s)
    (hLeads : s.LeadsTo fd p)
    (hSocket : s.heap p = some (.socket d))
    (hBound : d.bound = true)
    (hFailed : r ≠ 0)
    (hRun : connect env fd serv addrlen s = .ok (r, s')) :
    s'.boundName p = s.boundName p ↔
      ConnectKeepsName env fd serv addrlen s := by
  have hName : d.localName =
      some (d.sockname, d.socknamelen) := by
    simp [LsckSocket.localName, hBound]
  rw [Process.boundName_eq hSocket, hName]
  constructor
  · intro hSame q c hLeads' hSocket' _ hFails
    cases hLeads.2.symm.trans hLeads'.2
    cases hSocket.symm.trans hSocket'
    rw [connect_fails_name hForm hLeads hSocket hName hFails
      hRun] at hSame
    simp only [Option.some.injEq, Prod.mk.injEq] at hSame
    exact ⟨hSame.1, hSame.2.symm⟩
  · intro hKeeps
    by_cases hFails : ConnectFails env serv addrlen p d s
    · rcases hKeeps p d hLeads hSocket hBound hFails with
        ⟨hClear, hZero⟩
      rw [connect_fails_name hForm hLeads hSocket hName hFails
        hRun, hClear, hZero]
    · apply connect_name hForm hLeads hSocket hName hFails _
        hRun
      intro hZero
      exact absurd hZero hFailed

end Connect

------------------------------------------------------------
-- Every Other Call
------------------------------------------------------------

section Frame

variable {own : Ptr → Prop}

/- What a bound socket's name needs of one call. -/
theorem ownsCall_names
    {call : SocketCall}
    {s : Process}
    (hForm : WellFormed none s)
    (hOwn : ∀ p, s.boundName p = none → own p)
    (hConnect : ∀ env fd serv addrlen p,
      call = .call (.connect env fd serv addrlen) →
      s.LeadsTo fd p → own p) :
    OwnsCall own Block.KeepsName call s := by
  have hOther : ∀ t p, Kept s t →
      (∀ d, t.heap p ≠ some (.socket d)) → own p := by
    intro t p hKept hNot
    apply hOwn
    apply Process.boundName_none
    intro d hSocket
    rcases hKept p d hSocket with ⟨d', hSocket', -⟩
    exact absurd hSocket' (hNot d')
  have hData : ∀ t p d q, WellFormed none t → Kept s t →
      t.heap p = some (.socket d) → d.idata = some q →
      own q := by
    intro t p d q hForm hKept hSocket hQ
    rcases hForm.data p d hSocket (by simp) with
      ⟨i, q', b, -, hQ', hBlock, hKind⟩
    cases hQ.symm.trans hQ'
    apply hOther t q hKept
    intro e hE
    cases hE.symm.trans hBlock
    cases hKind
  constructor
  · intro p d hSocket hBound
    left
    apply hOwn
    rw [Process.boundName_eq hSocket, LsckSocket.localName,
      hBound]
    rfl
  · intro t hForm hKept
    constructor
    · intro p hNone
      apply hOther t p hKept
      intro d hSocket
      cases hNone.symm.trans hSocket
    · intro p hNew _
      constructor
      · apply hOwn
        apply Process.boundName_none
        intro d hSocket
        exact absurd ⟨d, hSocket⟩ hNew
      · intro d q hSocket hQ
        exact hData t p d q hForm hKept hSocket hQ
  · intro env fd serv addrlen p d hCall hLeads hSocket _
    constructor
    · exact hConnect env fd serv addrlen p hCall hLeads
    · intro e q hE hQ
      exact hData s p e q hForm (.of_still (.refl s)) hE hQ

end Frame

------------------------------------------------------------
-- Recorded Names
------------------------------------------------------------

/- The call is a connect of the stream socket in a block. -/
def Connects
    (s : Process)
    (call : SocketCall)
    (p : Ptr) : Prop :=
  ∃ env fd serv addrlen d,
    call = .call (.connect env fd serv addrlen) ∧
      s.LeadsTo fd p ∧ s.heap p = some (.socket d) ∧
      d.type ≠ sockDgram

/-
  The name was stored by a call that bound the socket or
  connected it, and the socket has had it ever since.
-/
def NameRecorded
    (s : Process)
    (p : Ptr)
    (n : Bytes × Nat) : Prop :=
  ∃ t u call r, socketSystem.Reachable t ∧
    socketExec call t = .ok (r, u) ∧
    (t.boundName p = none ∨ Connects t call p ∧ r = 0) ∧
    u.boundName p = some n ∧
    socketSystem.Path (·.boundName p = some n) u s

/- The calls that keep names: all but some connects. -/
def SocketCall.KeepsNames
    (s : Process) : SocketCall → Prop
| .call (.connect env fd serv addrlen) =>
    ConnectKeepsName env fd serv addrlen s
| _ => True

/- What one call does to the name of a bound socket. -/
theorem name_socketExec
    {call : SocketCall}
    {p : Ptr}
    {n : Bytes × Nat}
    {s s' : Process}
    {r : Int}
    (hForm : WellFormed none s)
    (hKeeps : call.KeepsNames s)
    (hName : s.boundName p = some n)
    (hThere : s'.IsSocket p)
    (hRun : socketExec call s = .ok (r, s')) :
    Connects s call p ∧ r = 0 ∨ s'.boundName p = some n := by
  rcases Process.boundName_some hName with
    ⟨d, hSocket, hNameD⟩
  by_cases hConnect : ∃ env fd serv addrlen,
      call = .call (.connect env fd serv addrlen) ∧
        s.LeadsTo fd p
  · rcases hConnect with
      ⟨env, fd, serv, addrlen, rfl, hLeads⟩
    have hBound : d.bound = true :=
      (LsckSocket.localName_eq_some.mp hNameD).1
    by_cases hZero : r = 0 ∧ d.type ≠ sockDgram
    · exact .inl ⟨⟨env, fd, serv, addrlen, d, rfl, hLeads,
        hSocket, hZero.2⟩, hZero.1⟩
    right
    by_cases hFails : ConnectFails env serv addrlen p d s
    · have hClear := hKeeps p d hLeads hSocket hBound hFails
      rcases n with ⟨name, namelen⟩
      rcases LsckSocket.localName_eq_some.mp hNameD with
        ⟨-, rfl, rfl⟩
      rw [connect_fails_name hForm hLeads hSocket hNameD
        hFails hRun, hClear.1, hClear.2]
    · apply connect_name hForm hLeads hSocket hNameD hFails _
        hRun
      intro hDone
      exact Decidable.not_not.mp
        fun hType => hZero ⟨hDone, hType⟩
  · right
    have hChanges : Changes
        (fun q => s.boundName q = none ∨ q ≠ p)
        Block.KeepsName s s' := by
      apply changes_socketExec hForm _ hRun
      apply ownsCall_names hForm (fun q => .inl)
      intro env fd serv addrlen q hCall hLeads
      right
      rintro rfl
      exact hConnect ⟨env, fd, serv, addrlen, hCall, hLeads⟩
    apply hChanges.boundName _ hThere hName
    simp [hName]

/- A run that keeps names records them. -/
theorem recorded_of_keepsNames
    {s : Process}
    {p : Ptr}
    {n : Bytes × Nat}
    (hReach : socketSystem.ReachableUnder
      (fun s call => call.KeepsNames s) s)
    (hName : s.boundName p = some n) :
    NameRecorded s p n := by
  induction hReach generalizing n with
  | init hInit =>
      rcases Process.boundName_some hName with ⟨d, hD, -⟩
      rw [hInit.heap p] at hD
      cases hD
  | @step s s' call hPrior hKeeps hStep ih =>
      rcases hStep with ⟨r, hRun⟩
      cases hBefore : s.boundName p with
      | none =>
          exact ⟨s, s', call, r, hPrior.reachable, hRun,
            .inl hBefore, hName, .refl⟩
      | some m =>
          rcases Process.boundName_some hName with
            ⟨d', hD', -⟩
          rcases name_socketExec
            (wellFormed_of_socketReachable hPrior.reachable)
            hKeeps hBefore ⟨d', hD'⟩ hRun with
            hConnected | hKept
          · exact ⟨s, s', call, r, hPrior.reachable, hRun,
              .inr hConnected, hName, .refl⟩
          · cases hKept.symm.trans hName
            rcases ih hBefore with
              ⟨t, u, c, r', hReachT, hRunT, hHow, hU, hPath⟩
            exact ⟨t, u, c, r', hReachT, hRunT, hHow, hU,
              .step hPath ⟨r, hRun⟩ hName⟩

/-
  A connect that fails keeps the name of a bound socket if
  and only if it is refused before the interface is asked,
  or the name is cleared already. As long as the connects of
  a run are of this kind or do not fail, every bound socket
  has the name recorded when it was bound or connected.
-/
theorem bound_name_iff
    {s : Process}
    (hReach : socketSystem.Reachable s) :
    (∀ {env fd serv addrlen p d s'}, s.LeadsTo fd p →
      s.heap p = some (.socket d) → d.bound = true →
      connect env fd serv addrlen s = .ok (-1, s') →
      ((∃ d', s'.heap p = some (.socket d') ∧
          d'.bound = true ∧ d'.sockname = d.sockname ∧
          d'.socknamelen = d.socknamelen) ↔
        ConnectKeepsName env fd serv addrlen s)) ∧
    (socketSystem.ReachableUnder
        (fun s call => call.KeepsNames s) s →
      ∀ {p n}, s.boundName p = some n →
        NameRecorded s p n) := by
  constructor
  · intro env fd serv addrlen p d s' hLeads hSocket hBound
      hRun
    have hIff := connect_name_iff
      (wellFormed_of_socketReachable hReach) hLeads hSocket
      hBound (by decide) hRun
    rw [← hIff, Process.boundName_eq hSocket,
      LsckSocket.localName, if_pos hBound]
    constructor
    · rintro ⟨d', hSocket', hSame⟩
      rw [Process.boundName_eq hSocket']
      exact LsckSocket.localName_eq_some.mpr hSame
    · intro hName
      rcases Process.boundName_some hName with
        ⟨d', hSocket', hSame⟩
      exact ⟨d', hSocket',
        LsckSocket.localName_eq_some.mp hSame⟩
  · intro hKeepsNames p n hName
    exact recorded_of_keepsNames hKeepsNames hName

/- The call is not a connect. -/
def Call.sparesNames : Call → Bool
| .connect .. => false
| _ => true

/- Without connects a run keeps the names it records. -/
theorem keepsNames_reachable
    {s : Process}
    (hReach : lsckSystem.ReachableUnder
      (fun _ call => call.sparesNames = true) s) :
    socketSystem.ReachableUnder
      (fun s call => call.KeepsNames s) s := by
  induction hReach with
  | init hInit => exact .init hInit
  | @step s s' call hPrior hSpares hStep ih =>
      have hKeeps : (SocketCall.call call).KeepsNames s := by
        cases call with
        | connect => cases hSpares
        | _ => trivial
      exact .step ih hKeeps hStep

/-
  A connect to a short address is refused before the
  interface is asked: the name is as it was recorded.
-/
theorem bound_name_kept :
    ∃ s s' d, s.heap 10 = some (.socket d) ∧
      d.bound = true ∧
      connect (.answering 10061) 3 (some peerAddress) 8 s =
        .ok (-1, s') ∧
      ConnectKeepsName (.answering 10061) 3
        (some peerAddress) 8 s ∧
      NameRecorded s 10 (d.sockname, d.socknamelen) := by
  rcases exists_call (fun _ call => call.sparesNames)
    [streamCall, .bind .granting 3 (some wildcard) 16]
    (.connect (.answering 10061) 3 (some peerAddress) 8)
    (fun s r s' =>
      r == -1 && (s.entering 3 false).any (·.1 == 10) &&
        (s.socket? 10).any fun d => d.bound &&
          (s'.socket? 10).any (fun d' => d'.bound &&
            d'.sockname == d.sockname &&
            d'.socknamelen == d.socknamelen))
    (by decide +kernel) with ⟨s, r, s', hReach, hRun, hAll⟩
  rw [Bool.and_eq_true, Bool.and_eq_true, beq_iff_eq] at hAll
  rcases hAll with ⟨⟨rfl, hEntering⟩, hSome⟩
  rcases (Option.any_eq_true _ _).mp hSome with
    ⟨d, hD, hSame⟩
  rw [Bool.and_eq_true] at hSame
  rcases (Option.any_eq_true _ _).mp hSame.2 with
    ⟨d', hD', hKept⟩
  simp only [Bool.and_eq_true, beq_iff_eq] at hKept
  have hSocket := Process.socket?_eq_some.mp hD
  have hSocket' := Process.socket?_eq_some.mp hD'
  have hBoundName :
      s.boundName 10 = some (d.sockname, d.socknamelen) := by
    rw [Process.boundName_eq hSocket, LsckSocket.localName,
      if_pos hSame.1]
  have hBoth := bound_name_iff
    (socketSystem_reachable hReach.reachable)
  have hKeeps := (hBoth.1 (s.leadsTo_of_entering hEntering)
    hSocket hSame.1 hRun).mp
      ⟨d', hSocket', hKept.1.1, hKept.1.2, hKept.2⟩
  have hRecorded := hBoth.2 (keepsNames_reachable hReach)
    hBoundName
  exact ⟨s, s', d, hSocket, hSame.1, hRun, hKeeps, hRecorded⟩

/-
  A connect that the driver refuses clears the name of a
  bound stream socket, which stays bound: the name is not
  the one recorded any more.
-/
theorem failed_connect_clears_name :
    ∃ s s' d d', socketSystem.Reachable s ∧
      s.LeadsTo 3 10 ∧ s.heap 10 = some (.socket d) ∧
      d.bound = true ∧ d.type = sockStream ∧
      d.socknamelen = 16 ∧
      connect (.answering 10061) 3 (some peerAddress) 16 s =
        .ok (-1, s') ∧
      s'.errno = .ECONNREFUSED ∧
      s'.heap 10 = some (.socket d') ∧ d'.bound = true ∧
      d'.sockname ≠ d.sockname ∧ d'.socknamelen = 0 := by
  rcases exists_call (fun _ _ => true)
    [streamCall, .bind .granting 3 (some wildcard) 16]
    (connectCall 10061)
    (fun s r s' =>
      r == -1 && s'.errno == .ECONNREFUSED &&
        (s.entering 3 false).any (·.1 == 10) &&
        (s.socket? 10).any fun d => d.bound &&
          d.type == sockStream && d.socknamelen == 16 &&
          (s'.socket? 10).any (fun d' => d'.bound &&
            d'.sockname != d.sockname &&
            d'.socknamelen == 0))
    (by decide +kernel) with ⟨s, r, s', hReach, hRun, hAll⟩
  simp only [Bool.and_eq_true, beq_iff_eq] at hAll
  rcases hAll with ⟨⟨⟨rfl, hErrno⟩, hEntering⟩, hSome⟩
  rcases (Option.any_eq_true _ _).mp hSome with
    ⟨d, hD, hBefore⟩
  simp only [Bool.and_eq_true, beq_iff_eq] at hBefore
  rcases hBefore with ⟨⟨⟨hBound, hType⟩, hLength⟩, hAfter⟩
  rcases (Option.any_eq_true _ _).mp hAfter with
    ⟨d', hD', hCleared⟩
  simp only [Bool.and_eq_true, beq_iff_eq, bne_iff_ne]
    at hCleared
  exact ⟨s, s', d, d', socketSystem_reachable hReach.reachable,
    s.leadsTo_of_entering hEntering,
    Process.socket?_eq_some.mp hD, hBound, hType, hLength,
    hRun, hErrno, Process.socket?_eq_some.mp hD',
    hCleared.1.1, hCleared.1.2, hCleared.2⟩

end Libsocket
