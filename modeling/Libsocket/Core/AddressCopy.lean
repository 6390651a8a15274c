import Libsocket.Core.Phase
import Libsocket.Unix.Names

/-
  The copies that `connect` makes of the caller's address.

  The length that the caller gives is the length of the
  copy. The interfaces check it from below only.

  Main declarations:
    * `CopyAt`, `connect_copies`
    * `StaysInField`, `setPeername_stays_iff`
    * `connect_stays_iff`
-/

namespace Libsocket

open Command

------------------------------------------------------------
-- Copies
------------------------------------------------------------

/-
  The state in which a call copies the address `a` into the
  descriptor at `p`: at once for a datagram socket, and
  behind the interface's connect for another one.
-/
inductive CopyAt
    (env : ConnectEnv)
    (fd : Fd)
    (a : Bytes)
    (addrlen : Nat)
    (s : Process) : Ptr → Process → Prop
  | dgram
      {p : Ptr}
      {d : LsckSocket}
      {i : Interface}
      (leads : s.LeadsTo fd p)
      (socket : s.heap p = some (.socket d))
      (interface : d.interface = some i)
      (accepts : connectRefusal (d.checked env.writable)
        (some a) addrlen = none)
      (type : (d.checked env.writable).type = sockDgram)
      (family : saFamily a = (d.checked env.writable).family) :
      CopyAt env fd a addrlen s p (s.check p d env.writable)
  | stream
      {p : Ptr}
      {d d' : LsckSocket}
      {i : Interface}
      {ret : Int}
      {t : Process}
      (leads : s.LeadsTo fd p)
      (socket : s.heap p = some (.socket d))
      (interface : d.interface = some i)
      (accepts : connectRefusal (d.checked env.writable)
        (some a) addrlen = none)
      (type : (d.checked env.writable).type ≠ sockDgram)
      (address : connectAddressRefusal
        (d.checked env.writable) (some a) = none)
      (run : interfaceConnect env i p a
        (s.check p d env.writable) = .ok (ret, t))
      (after : t.heap p = some (.socket d'))
      (stores : ret = 0 ∨
        d'.blocking = false ∧ t.errno = .EWOULDBLOCK) :
      CopyAt env fd a addrlen s p t

/- A call that gets there copies, and then goes on. -/
theorem connect_copies
    {env : ConnectEnv}
    {fd : Fd}
    {a : Bytes}
    {addrlen : Nat}
    {s u : Process}
    {p : Ptr}
    (hCopy : CopyAt env fd a addrlen s p u) :
    ∃ rest : Exec Int, connect env fd (some a) addrlen s =
      (do
        setPeername p (a.take addrlen) addrlen
        rest) u := by
  cases hCopy with
  | dgram hLeads hSocket hInterface hAccepts hType hFamily =>
      refine ⟨Pure.pure 0, ?_⟩
      apply (prologue_run hLeads hSocket hInterface _).trans
      rw [hAccepts]
      simp only [refuseOr]
      rw [if_pos hType]
      simp only [connectDgram]
      rw [if_neg (not_not.mpr hFamily)]
  | @stream d d' i ret _ hLeads hSocket hInterface hAccepts
      hType hAddress hRun hAfter hStores =>
      have hEntry : connect env fd (some a) addrlen s =
          connectStream env i p a addrlen
            (s.check p d env.writable) := by
        apply (prologue_run hLeads hSocket hInterface _).trans
        rw [hAccepts]
        simp only [refuseOr]
        rw [if_neg hType, hAddress]
        rfl
      rw [hEntry]
      unfold connectStream
      rw [run_bind_ok hRun, run_bind_ok (run_get u),
        run_bind_ok (derefSocket_run hAfter)]
      by_cases hZero : ret = 0
      · rw [if_pos hZero]
        exact ⟨_, rfl⟩
      · rw [if_neg hZero, if_pos (hStores.resolve_left hZero)]
        exact ⟨_, rfl⟩

------------------------------------------------------------
-- Staying In The Field
------------------------------------------------------------

/- The copy changes the peer's name and its length only. -/
def StaysInField
    (p : Ptr)
    (name : Bytes)
    (namelen : Nat)
    (u : Process) : Prop :=
  ∃ d, u.heap p = some (.socket d) ∧
    setPeername p name namelen u =
      .ok ((), u.setBlock p (some (.socket
        { d with
          peername := overlay d.peername name
          peernamelen := namelen })))

theorem setPeername_stays_iff
    {p : Ptr}
    {name : Bytes}
    {namelen : Nat}
    {d : LsckSocket}
    {u : Process}
    (hSocket : u.heap p = some (.socket d)) :
    StaysInField p name namelen u ↔
      name.length ≤ sockaddrMaxSize := by
  unfold StaysInField setPeername
  constructor
  · rintro ⟨d', -, hRun⟩
    by_contra hLong
    rw [if_neg hLong] at hRun
    cases hRun
  · intro hFits
    rw [if_pos hFits]
    exact ⟨d, hSocket, modifySocket_run hSocket⟩

theorem CopyAt.socket_some
    {env : ConnectEnv}
    {fd : Fd}
    {a : Bytes}
    {addrlen : Nat}
    {s u : Process}
    {p : Ptr}
    (hCopy : CopyAt env fd a addrlen s p u) :
    ∃ d, u.heap p = some (.socket d) := by
  cases hCopy with
  | dgram => exact ⟨_, s.socket_check p _ env.writable⟩
  | stream _ _ _ _ _ _ _ hAfter => exact ⟨_, hAfter⟩

/- A copy that is too long stops the call. -/
theorem connect_overruns
    {env : ConnectEnv}
    {fd : Fd}
    {a : Bytes}
    {addrlen : Nat}
    {s u : Process}
    {p : Ptr}
    (hCopy : CopyAt env fd a addrlen s p u)
    (hRoom : addrlen ≤ a.length)
    (hLong : sockaddrMaxSize < addrlen) :
    connect env fd (some a) addrlen s = .error .fault := by
  rcases connect_copies hCopy with ⟨rest, hRun⟩
  have hLength : (a.take addrlen).length = addrlen :=
    List.length_take_of_le hRoom
  have hFault : setPeername p (a.take addrlen) addrlen u =
      .error .fault := by
    unfold setPeername
    rw [if_neg (by omega)]
    rfl
  rw [hRun, run_bind_error hFault]

/-
  Every copy of a call stays in its field if and only if the
  length is no more than the field and its padding, or the
  call makes no copy.
-/
theorem connect_stays_iff
    {env : ConnectEnv}
    {fd : Fd}
    {a : Bytes}
    {addrlen : Nat}
    {s : Process}
    (hRoom : addrlen ≤ a.length) :
    (∀ p u, CopyAt env fd a addrlen s p u →
        StaysInField p (a.take addrlen) addrlen u) ↔
      addrlen ≤ sockaddrMaxSize ∨
        ∀ p u, ¬ CopyAt env fd a addrlen s p u := by
  have hLength : (a.take addrlen).length = addrlen :=
    List.length_take_of_le hRoom
  constructor
  · intro hStays
    by_contra hNot
    rw [not_or] at hNot
    apply hNot.2
    intro p u hCopy
    rcases hCopy.socket_some with ⟨d, hSocket⟩
    have hFits :=
      (setPeername_stays_iff hSocket).mp (hStays p u hCopy)
    rw [hLength] at hFits
    exact hNot.1 hFits
  · rintro (hFits | hNone) p u hCopy
    · rcases hCopy.socket_some with ⟨d, hSocket⟩
      apply (setPeername_stays_iff hSocket).mpr
      rw [hLength]
      exact hFits
    · exact absurd hCopy (hNone p u)

/- An address of the Unix family, with what follows it. -/
def unixAddress (n : Nat) : Bytes :=
  [1, 0] ++ List.replicate n 0

/- A datagram socket of the Unix interface. -/
def copyTarget : LsckSocket :=
  { LsckSocket.cleared with
    fd := 3
    family := afUnix
    type := sockDgram
    interface := some .unix }

def copyProcess : Process :=
  (bareProcess.setBlock 10 (some (.socket copyTarget))).setEntry
    3 ⟨true, some .lsckSocketFsext, some (.lsd 10)⟩

theorem copyAt_copyProcess
    {n : Nat}
    (hAccepts : connectRefusal (copyTarget.checked false)
      (some (unixAddress n)) n = none) :
    CopyAt (.answering 0) 3 (unixAddress n) n copyProcess 10
      (copyProcess.check 10 copyTarget false) :=
  .dgram ⟨rfl, rfl⟩ rfl rfl hAccepts rfl rfl

theorem connect_stays_at_most :
    StaysInField 10 ((unixAddress 110).take 110) 110
      (copyProcess.check 10 copyTarget false) :=
  (connect_stays_iff (by decide)).mpr (.inl (by decide)) _ _
    (copyAt_copyProcess (by decide))

/- One byte more is admitted, and overruns the field. -/
theorem connect_overruns_by_one :
    ¬ ∀ (env : ConnectEnv) (fd : Fd) (a : Bytes)
        (addrlen : Nat) (s : Process),
      addrlen ≤ a.length →
      ∀ p u, CopyAt env fd a addrlen s p u →
        StaysInField p (a.take addrlen) addrlen u := by
  intro hAlways
  have hCopy := copyAt_copyProcess (n := 111) (by decide)
  rcases hAlways _ 3 (unixAddress 111) 111 _ (by decide) _ _
    hCopy with ⟨d, -, hRun⟩
  unfold setPeername at hRun
  rw [if_neg (by decide)] at hRun
  cases hRun

end Libsocket
