import Libsocket.Core.Entry

/-
  What the calls that create no socket do to the ones that
  exist: a pending connect may complete, and one descriptor
  may be bound or unbound on the way.

  Main declarations:
    * `LsckSocket.Moves`
    * `Drift`, `DriftCmd`
    * `Quiet`, `Evolves`
    * `AllSockets`
    * `Turns`
    * `drift_enter`
-/

namespace Libsocket

open Command

------------------------------------------------------------
-- Descriptors
------------------------------------------------------------

namespace LsckSocket

/-
  A descriptor keeps its status, except that its pending
  connect may have completed; `bound` may change when the
  move is loose.
-/
def Moves (loose : Prop) (d d' : LsckSocket) : Prop :=
  ∃ b, (loose ∨ b = d.bound) ∧
    (d'.status = { d.status with bound := b } ∨
      d.connecting = true ∧ d.connected = false ∧
        d'.status =
          { d.status with
            bound := b
            connecting := false
            connected := true })

variable {loose : Prop} {d d' d'' : LsckSocket}

theorem Moves.of_status
    (hStatus : d'.status = d.status) :
    Moves loose d d' :=
  ⟨d.bound, .inr rfl, .inl hStatus⟩

theorem Moves.refl : Moves loose d d :=
  of_status rfl

theorem Moves.checked (writable : Bool) :
    Moves loose d (d.checked writable) := by
  refine ⟨d.bound, .inr rfl, ?_⟩
  rcases d.checked_cases writable with hSame | hDone
  · exact .inl (by rw [hSame]; rfl)
  · exact .inr ⟨hDone.1, hDone.2.1, by rw [hDone.2.2]; rfl⟩

/- What a move leaves alone. -/
theorem Moves.same
    (hMoves : Moves loose d d') :
    d'.fd = d.fd ∧ d'.type = d.type ∧
      d'.accepted = d.accepted ∧
      d'.listening = d.listening ∧
      d'.interface = d.interface ∧ d'.idata = d.idata := by
  rcases hMoves with ⟨b, -, hSame | ⟨-, -, hSame⟩⟩
  all_goals
    have hFd := congrArg LsckSocket.fd hSame
    have hType := congrArg LsckSocket.type hSame
    have hAccepted := congrArg LsckSocket.accepted hSame
    have hListening := congrArg LsckSocket.listening hSame
    have hInterface := congrArg LsckSocket.interface hSame
    have hData := congrArg LsckSocket.idata hSame
    exact ⟨hFd, hType, hAccepted, hListening, hInterface,
      hData⟩

/- A move that is not loose keeps `bound`. -/
theorem Moves.bound
    (hMoves : Moves loose d d') :
    loose ∨ d'.bound = d.bound := by
  rcases hMoves with ⟨b, hB | hB, hSame | ⟨-, -, hSame⟩⟩
  · exact .inl hB
  · exact .inl hB
  · exact .inr ((congrArg LsckSocket.bound hSame).trans hB)
  · exact .inr ((congrArg LsckSocket.bound hSame).trans hB)

/- The phase stays, or goes from connecting to connected. -/
theorem Moves.phase
    (hMoves : Moves loose d d') :
    d'.connecting = d.connecting ∧
        d'.connected = d.connected ∨
      d.connecting = true ∧ d.connected = false ∧
        d'.connecting = false ∧ d'.connected = true := by
  rcases hMoves with ⟨b, -, hSame | ⟨hFrom, hTo, hSame⟩⟩
  all_goals
    have hConnecting := congrArg LsckSocket.connecting hSame
    have hConnected := congrArg LsckSocket.connected hSame
  · exact .inl ⟨hConnecting, hConnected⟩
  · exact .inr ⟨hFrom, hTo, hConnecting, hConnected⟩

theorem Moves.weaken
    (hMoves : Moves False d d') :
    Moves loose d d' := by
  rcases hMoves with ⟨b, hB, hRest⟩
  exact ⟨b, .inr (hB.resolve_left id), hRest⟩

theorem Moves.trans
    (hLeft : Moves loose d d')
    (hRight : Moves loose d' d'') :
    Moves loose d d'' := by
  have hBound := hLeft.bound
  rcases hLeft with ⟨b, hB, hLeft⟩
  rcases hRight with ⟨b', hB', hRight⟩
  refine ⟨b', ?_, ?_⟩
  · rcases hBound with h | h
    · exact .inl h
    · exact hB'.imp id fun h' => h'.trans h
  · rcases hLeft with hOne | ⟨hFrom, hTo, hOne⟩ <;>
      rcases hRight with hTwo | ⟨hFrom', hTo', hTwo⟩
    · exact .inl (by rw [hTwo, hOne])
    · refine .inr ⟨?_, ?_, by rw [hTwo, hOne]⟩
      · exact (congrArg LsckSocket.connecting hOne).symm.trans
          hFrom'
      · exact (congrArg LsckSocket.connected hOne).symm.trans
          hTo'
    · exact .inr ⟨hFrom, hTo, by rw [hTwo, hOne]⟩
    · have hDone : d'.connecting = false :=
        congrArg LsckSocket.connecting hOne
      rw [hDone] at hFrom'
      cases hFrom'

end LsckSocket

------------------------------------------------------------
-- States
------------------------------------------------------------

/-
  No socket is created, and those that are left have moved;
  only the one named by `x` loosely.
-/
structure Drift
    (x : Option Ptr)
    (s s' : Process) : Prop where
  form : WellFormed none s → WellFormed none s'
  back : WellFormed none s → ∀ p d',
    s'.heap p = some (.socket d') →
    ∃ d, s.heap p = some (.socket d) ∧
      LsckSocket.Moves (x = some p) d d'

namespace Drift

variable {x : Option Ptr} {s t u : Process}

theorem of_still (hStill : Still s t) : Drift x s t := by
  refine ⟨fun hForm => hForm.still hStill, ?_⟩
  intro _ p d' hSocket'
  rcases hStill.socket_back hSocket' with
    ⟨d, hSocket, hStatus⟩
  exact ⟨d, hSocket, .of_status hStatus⟩

theorem refl (s : Process) : Drift x s s :=
  of_still (Still.refl s)

theorem trans
    (hLeft : Drift x s t)
    (hRight : Drift x t u) :
    Drift x s u := by
  refine ⟨fun hForm => hRight.form (hLeft.form hForm), ?_⟩
  intro hForm p d'' hSocket
  rcases hRight.back (hLeft.form hForm) p d'' hSocket with
    ⟨d', hD', hMoves'⟩
  rcases hLeft.back hForm p d' hD' with ⟨d, hD, hMoves⟩
  exact ⟨d, hD, hMoves.trans hMoves'⟩

/- A drift is about well-formed states only. -/
theorem of_form
    (hDrift : WellFormed none s → Drift x s t) :
    Drift x s t :=
  ⟨fun hForm => (hDrift hForm).form hForm,
    fun hForm => (hDrift hForm).back hForm⟩

theorem weaken (hDrift : Drift none s t) : Drift x s t := by
  refine ⟨hDrift.form, fun hForm p d' hSocket => ?_⟩
  rcases hDrift.back hForm p d' hSocket with
    ⟨d, hD, hMoves⟩
  refine ⟨d, hD, LsckSocket.Moves.weaken ?_⟩
  simpa using hMoves

/- Changing one descriptor by a move. -/
theorem setSocket
    {p : Ptr}
    {d d' : LsckSocket}
    (hSocket : s.heap p = some (.socket d))
    (hMoves : LsckSocket.Moves (x = some p) d d') :
    Drift x s (s.setBlock p (some (.socket d'))) := by
  rcases hMoves.same with ⟨hFd, -, -, -, hInterface, hData⟩
  refine ⟨fun hForm =>
    hForm.setSocket hSocket hFd hInterface hData, ?_⟩
  intro _ r e' hE'
  by_cases hSame : r = p
  · subst hSame
    have hEq : d' = e' := by simpa using hE'
    subst hEq
    exact ⟨d, hSocket, hMoves⟩
  · exact ⟨e', by simpa [hSame] using hE', .refl⟩

end Drift

theorem LsckSocket.Moves.trans_bound
    {d d' d'' : LsckSocket}
    (hLeft : LsckSocket.Moves (d.bound = false) d d')
    (hRight : LsckSocket.Moves (d'.bound = false) d' d'') :
    LsckSocket.Moves (d.bound = false) d d'' := by
  refine hLeft.trans ?_
  rcases hRight with ⟨b, hB, hRest⟩
  refine ⟨b, hB.imp_left fun hUnbound => ?_, hRest⟩
  rcases hLeft.bound with h | h
  · exact h
  · rw [← h]
    exact hUnbound

/-
  No socket is created, and those that are left have moved;
  only a socket that was not bound may be bound now.
-/
structure Quiet (s s' : Process) : Prop where
  form : WellFormed none s → WellFormed none s'
  back : WellFormed none s → ∀ p d',
    s'.heap p = some (.socket d') →
    ∃ d, s.heap p = some (.socket d) ∧
      LsckSocket.Moves (d.bound = false) d d'

namespace Quiet

variable {x : Option Ptr} {s s' : Process}

theorem of_drift
    (hDrift : Drift x s s')
    (hUnbound : ∀ p d, x = some p →
      s.heap p = some (.socket d) → d.bound = false) :
    Quiet s s' := by
  refine ⟨hDrift.form, fun hForm p d' hSocket => ?_⟩
  rcases hDrift.back hForm p d' hSocket with
    ⟨d, hD, b, hB, hRest⟩
  exact ⟨d, hD, b,
    hB.imp (fun h => hUnbound p d h hD) id, hRest⟩

theorem of_drift_none (hDrift : Drift none s s') :
    Quiet s s' :=
  of_drift hDrift fun _ _ h => by cases h

theorem of_still (hStill : Still s s') : Quiet s s' :=
  of_drift_none (Drift.of_still hStill)

theorem after_drift
    {t : Process}
    (hDrift : Drift none s t)
    (hQuiet : Quiet t s') :
    Quiet s s' := by
  refine ⟨fun hForm => hQuiet.form (hDrift.form hForm), ?_⟩
  intro hForm p d'' hSocket
  rcases hQuiet.back (hDrift.form hForm) p d'' hSocket with
    ⟨d', hD', hMoves'⟩
  rcases hDrift.back hForm p d' hD' with ⟨d, hD, hMoves⟩
  have hStrict : LsckSocket.Moves False d d' := by
    simpa using hMoves
  exact ⟨d, hD, hStrict.weaken.trans_bound hMoves'⟩

theorem then_still
    {t : Process}
    (hQuiet : Quiet s t)
    (hStill : Still t s') :
    Quiet s s' := by
  constructor
  · intro hForm
    exact (hQuiet.form hForm).still hStill
  · intro hForm p d'' hSocket
    rcases hStill.socket_back hSocket with ⟨d', hD', hStatus⟩
    rcases hQuiet.back hForm p d' hD' with ⟨d, hD, hMoves⟩
    exact ⟨d, hD, hMoves.trans_bound (.of_status hStatus)⟩

theorem of_form
    (hQuiet : WellFormed none s → Quiet s s') :
    Quiet s s' :=
  ⟨fun hForm => (hQuiet hForm).form hForm,
    fun hForm => (hQuiet hForm).back hForm⟩

end Quiet

/-
  Every socket that is left has moved, or is new and as `New`
  says.
-/
structure Evolves
    (New : LsckSocket → Prop)
    (s s' : Process) : Prop where
  form : WellFormed none s → WellFormed none s'
  back : WellFormed none s → ∀ p d',
    s'.heap p = some (.socket d') →
    (∃ d, s.heap p = some (.socket d) ∧
      LsckSocket.Moves (d.bound = false) d d') ∨ New d'

/- A property of every live socket. -/
def AllSockets
    (Φ : LsckSocket → Prop)
    (s : Process) : Prop :=
  ∀ p d, s.heap p = some (.socket d) → Φ d

/- A property that survives what a quiet call does. -/
def LsckSocket.Stable (Φ : LsckSocket → Prop) : Prop :=
  ∀ d d', LsckSocket.Moves (d.bound = false) d d' →
    Φ d → Φ d'

namespace Evolves

variable {New : LsckSocket → Prop} {s t u : Process}

theorem of_quiet (hQuiet : Quiet s t) : Evolves New s t :=
  ⟨hQuiet.form, fun hForm p d' hSocket =>
    .inl (hQuiet.back hForm p d' hSocket)⟩

theorem of_form
    (hEvolves : WellFormed none s → Evolves New s t) :
    Evolves New s t :=
  ⟨fun hForm => (hEvolves hForm).form hForm,
    fun hForm => (hEvolves hForm).back hForm⟩

theorem trans
    (hStable : LsckSocket.Stable New)
    (hLeft : Evolves New s t)
    (hRight : Evolves New t u) :
    Evolves New s u := by
  refine ⟨fun hForm => hRight.form (hLeft.form hForm), ?_⟩
  intro hForm p d'' hSocket
  rcases hRight.back (hLeft.form hForm) p d'' hSocket with
    ⟨d', hD', hMoves'⟩ | hNew
  · rcases hLeft.back hForm p d' hD' with
      ⟨d, hD, hMoves⟩ | hNew
    · exact .inl ⟨d, hD, hMoves.trans_bound hMoves'⟩
    · exact .inr (hStable d' d'' hMoves' hNew)
  · exact .inr hNew

/- What happens after a drift, seen from before it. -/
theorem after_drift
    (hDrift : Drift none s t)
    (hEvolves : Evolves New t u) :
    Evolves New s u := by
  refine ⟨fun hForm => hEvolves.form (hDrift.form hForm), ?_⟩
  intro hForm p d'' hSocket
  rcases hEvolves.back (hDrift.form hForm) p d'' hSocket with
    ⟨d', hD', hMoves'⟩ | hNew
  · rcases hDrift.back hForm p d' hD' with ⟨d, hD, hMoves⟩
    have hStrict : LsckSocket.Moves False d d' := by
      simpa using hMoves
    exact .inl ⟨d, hD, hStrict.weaken.trans_bound hMoves'⟩
  · exact .inr hNew

/- The invariant rule for properties of descriptors. -/
theorem allSockets
    {Φ : LsckSocket → Prop}
    (hEvolves : Evolves New s t)
    (hForm : WellFormed none s)
    (hStable : LsckSocket.Stable Φ)
    (hNew : ∀ d, New d → Φ d)
    (hAll : AllSockets Φ s) :
    AllSockets Φ t := by
  intro p d' hSocket
  rcases hEvolves.back hForm p d' hSocket with
    ⟨d, hD, hMoves⟩ | hFresh
  · exact hStable d d' hMoves (hAll p d hD)
  · exact hNew d' hFresh

/- Replacing one descriptor by one that counts as new. -/
theorem setSocket
    {p : Ptr}
    {d d' : LsckSocket}
    (hEvolves : Evolves New s t)
    (hSocket : t.heap p = some (.socket d))
    (hFd : d'.fd = d.fd)
    (hInterface : d'.interface = d.interface)
    (hData : d'.idata = d.idata)
    (hNew : New d') :
    Evolves New s (t.setBlock p (some (.socket d'))) := by
  refine ⟨fun hForm => (hEvolves.form hForm).setSocket
    hSocket hFd hInterface hData, ?_⟩
  intro hForm r e hE
  by_cases hSame : r = p
  · subst hSame
    have hEq : d' = e := by simpa using hE
    exact .inr (hEq ▸ hNew)
  · exact hEvolves.back hForm r e (by simpa [hSame] using hE)

end Evolves

/- The invariant rule for quiet calls. -/
theorem Quiet.allSockets
    {Φ : LsckSocket → Prop}
    {s t : Process}
    (hQuiet : Quiet s t)
    (hForm : WellFormed none s)
    (hStable : LsckSocket.Stable Φ)
    (hAll : AllSockets Φ s) :
    AllSockets Φ t := by
  intro p d' hSocket
  rcases hQuiet.back hForm p d' hSocket with
    ⟨d, hD, hMoves⟩
  exact hStable d d' hMoves (hAll p d hD)

/-
  Still, except that one descriptor has been changed by `f`
  on the way.
-/
def Turns
    (p : Ptr)
    (f : LsckSocket → LsckSocket)
    (s s' : Process) : Prop :=
  ∃ t d, Still s t ∧ t.heap p = some (.socket d) ∧
    Still (t.setBlock p (some (.socket (f d)))) s'

/- A change that keeps number, interface and data. -/
def KeepsData (f : LsckSocket → LsckSocket) : Prop :=
  ∀ d, (f d).fd = d.fd ∧ (f d).interface = d.interface ∧
    (f d).idata = d.idata

namespace Turns

variable {p : Ptr} {f : LsckSocket → LsckSocket}
variable {s s' t : Process}

theorem form
    (hTurns : Turns p f s s')
    (hKeeps : KeepsData f)
    (hForm : WellFormed none s) :
    WellFormed none s' := by
  rcases hTurns with ⟨t, d, hBefore, hSocket, hAfter⟩
  rcases hKeeps d with ⟨hFd, hInterface, hData⟩
  exact ((hForm.still hBefore).setSocket hSocket hFd
    hInterface hData).still hAfter

/- Every other socket keeps its status. -/
theorem back
    (hTurns : Turns p f s s')
    {r : Ptr}
    {e' : LsckSocket}
    (hSocket' : s'.heap r = some (.socket e')) :
    ∃ e, s.heap r = some (.socket e) ∧
      (r ≠ p ∧ e'.status = e.status ∨
        r = p ∧ ∃ d, d.status = e.status ∧
          e'.status = (f d).status) := by
  rcases hTurns with ⟨t, d, hBefore, hSocket, hAfter⟩
  rcases hAfter.socket_back hSocket' with ⟨g, hG, hStatus⟩
  by_cases hSame : r = p
  · subst hSame
    have hEq : f d = g := by simpa using hG
    subst hEq
    rcases hBefore.socket_back hSocket with
      ⟨e, hE, hStatus'⟩
    exact ⟨e, hE, .inr ⟨rfl, d, hStatus', hStatus⟩⟩
  · rcases hBefore.socket_back
      (by simpa [hSame] using hG) with ⟨e, hE, hStatus'⟩
    exact ⟨e, hE, .inl ⟨hSame, hStatus.trans hStatus'⟩⟩

/- The invariant rule for a change of one descriptor. -/
theorem allSockets
    {Φ : LsckSocket → Prop}
    (hTurns : Turns p f s s')
    (hStable : LsckSocket.Stable Φ)
    (hChange : ∀ e d, s.heap p = some (.socket e) →
      d.status = e.status → Φ e → Φ (f d))
    (hAll : AllSockets Φ s) :
    AllSockets Φ s' := by
  intro r e' hSocket'
  rcases hTurns.back hSocket' with
    ⟨e, hE, ⟨-, hStatus⟩ | ⟨rfl, d, hD, hStatus⟩⟩
  · exact hStable e e' (.of_status hStatus) (hAll r e hE)
  · exact hStable (f d) e' (.of_status hStatus)
      (hChange e d hE hD (hAll r e hE))

theorem after_still
    (hStill : Still s t)
    (hTurns : Turns p f t s') :
    Turns p f s s' := by
  rcases hTurns with ⟨u, d, hBefore, hRest⟩
  exact ⟨u, d, hStill.trans hBefore, hRest⟩

theorem then_still
    (hTurns : Turns p f s t)
    (hStill : Still t s') :
    Turns p f s s' := by
  rcases hTurns with ⟨u, d, hBefore, hSocket, hAfter⟩
  exact ⟨u, d, hBefore, hSocket, hAfter.trans hStill⟩

theorem of_modifySocket
    (hRun : modifySocket p f s = .ok ((), s')) :
    Turns p f s s' := by
  rcases modifySocket_ok hRun with ⟨d, hSocket, rfl⟩
  exact ⟨s, d, Still.refl s, hSocket, Still.refl _⟩

end Turns

------------------------------------------------------------
-- Commands
------------------------------------------------------------

/- A command that only moves the state along a drift. -/
abbrev DriftCmd
    {α : Type}
    (x : Option Ptr)
    (m : Exec α) : Prop :=
  Within (Drift x) m

namespace DriftCmd

variable {α β : Type} {x : Option Ptr}

theorem of_still
    {m : Exec α}
    (hStill : StillCmd m) :
    DriftCmd x m :=
  fun s a s' hRun => Drift.of_still (hStill s a s' hRun)

theorem pure (a : α) : DriftCmd x (pure a : Exec α) :=
  of_still (StillCmd.pure a)

theorem stop (e : Stop) : DriftCmd x (stop e : Exec α) :=
  of_still (StillCmd.stop e)

theorem fail (e : Errno) : DriftCmd x (fail e) :=
  of_still (StillCmd.fail e)

theorem get : DriftCmd x (get : Exec Process) :=
  of_still StillCmd.get

theorem derefSocket (p : Ptr) :
    DriftCmd x (derefSocket p) :=
  of_still (StillCmd.derefSocket p)

theorem bind
    {m : Exec α}
    {f : α → Exec β}
    (hFirst : DriftCmd x m)
    (hRest : ∀ a, DriftCmd x (f a)) :
    DriftCmd x (m >>= f) :=
  Within.bind (fun _ _ _ h₁ h₂ => h₁.trans h₂) hFirst hRest

theorem weaken
    {m : Exec α}
    (hDrift : DriftCmd none m) :
    DriftCmd x m :=
  fun s a s' hRun => (hDrift s a s' hRun).weaken

theorem ite
    {c : Prop}
    [Decidable c]
    {m₁ m₂ : Exec α}
    (hThen : DriftCmd x m₁)
    (hElse : DriftCmd x m₂) :
    DriftCmd x (if c then m₁ else m₂) :=
  Within.ite hThen hElse

theorem when
    {c : Prop}
    [Decidable c]
    {m : Exec Unit}
    (hThen : DriftCmd x m) :
    DriftCmd x (when c m) :=
  ite hThen (pure ())

theorem modifySocket
    {p : Ptr}
    {f : LsckSocket → LsckSocket}
    (hMoves : ∀ d, LsckSocket.Moves (x = some p) d (f d)) :
    DriftCmd x (modifySocket p f) := by
  intro s a s' hRun
  rcases modifySocket_ok hRun with ⟨d, hSocket, rfl⟩
  exact Drift.setSocket hSocket (hMoves d)

theorem refuseOr
    {refusal : Option Errno}
    {m : Exec Int}
    (hRest : DriftCmd x m) :
    DriftCmd x (refuseOr refusal m) := by
  cases refusal with
  | none => exact hRest
  | some e => exact fail e

end DriftCmd

theorem drift_check
    {s : Process}
    {p : Ptr}
    {d : LsckSocket}
    (hSocket : s.heap p = some (.socket d))
    (writable : Bool) :
    Drift none s (s.check p d writable) :=
  Drift.setSocket hSocket (.checked writable)

/- The check on entry completes connects and no more. -/
theorem drift_enter (writable : Bool) (fd : Fd) :
    DriftCmd none (enter writable fd) := by
  intro s found s' hRun
  rcases enter_ok hRun with ⟨-, -, hStill⟩ |
    ⟨p, d, -, -, hSocket, rfl⟩
  · exact Drift.of_still hStill
  · exact drift_check hSocket writable

theorem drift_getsockname
    (env : NameEnv)
    (fd : Fd)
    (namelen : Nat) :
    DriftCmd none (getsockname env fd namelen) := by
  refine (drift_enter _ _).bind fun found => ?_
  split
  · exact DriftCmd.pure _
  · refine (DriftCmd.derefSocket _).bind fun lsd => ?_
    refine DriftCmd.of_still ?_
    refine (still_interfaceOf _).bind fun i => ?_
    refine StillCmd.ite ?_ ?_
    · exact still_interfaceGetsockname _ _ _ _
    · exact (StillCmd.setErrno _).bind
        fun _ => StillCmd.pure _

theorem drift_getpeername
    (env : NameEnv)
    (fd : Fd)
    (namelen : Nat) :
    DriftCmd none (getpeername env fd namelen) := by
  refine (drift_enter _ _).bind fun found => ?_
  split
  · exact DriftCmd.pure _
  · refine (DriftCmd.derefSocket _).bind fun lsd => ?_
    refine DriftCmd.of_still ?_
    refine (still_interfaceOf _).bind fun i => ?_
    refine StillCmd.ite ?_ (StillCmd.ite ?_ ?_)
    · exact (StillCmd.setErrno _).bind
        fun _ => StillCmd.pure _
    · exact still_interfaceGetpeername _ _ _ _
    · exact (StillCmd.setErrno _).bind
        fun _ => StillCmd.pure _

end Libsocket
