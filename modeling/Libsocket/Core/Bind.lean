import Libsocket.Core.Close

/-
  `bind`.

  Main declarations:
    * `bindRefusal`
    * `bind`
-/

namespace Libsocket

open Command

/- What the interfaces answer to a bind. -/
structure BindEnv where
  writable : Bool
  unixEnv : UnixBindEnv
  csockAnswer : Int
  wsockCode : UInt16
  name : NameEnv
  buf : Fin 110 → UInt8

/- The callback `bind` -/
def interfaceBind
    (env : BindEnv)
    (i : Interface)
    (p : Ptr)
    (addr : Bytes)
    (addrlen : Nat) : Exec Int :=
  match i with
  | .wsock => wsockBind p env.wsockCode
  | .csock => csockBind p env.csockAnswer
  | .unix => unixBind env.unixEnv p addr addrlen

/- The first parameter check of `bind` that fails. -/
def bindRefusal
    (lsd : LsckSocket)
    (addr : Option Bytes) : Option Errno :=
  if lsd.bound then
    some .EINVAL
  else
    match addr with
    | none => some .EFAULT
    | some a =>
        if lsd.family ≠ saFamily a then
          some .EAFNOSUPPORT
        else if lsd.interface.any (·.provides .bind) then
          none
        else
          some .EOPNOTSUPP

/- `bzero` of the first `sizeof (struct sockaddr)` bytes. -/
def bzeroName (name : Bytes) : Bytes :=
  overlay name (List.replicate sockaddrCommonSize 0)

/- Store the local name of a socket and mark it bound. -/
def recordName
    (env : BindEnv)
    (p : Ptr) : Exec Unit := do
  let lsd ← derefSocket p
  let r ← getsockname env.name lsd.fd sockaddrMaxSize
  let buf := List.ofFn env.buf
  let (name, namelen) :=
    match r with
    | none => (buf, sockaddrMaxSize)
    | some (b, n) => (overlay buf b, n)
  if namelen ≤ sockaddrMaxSize then
    modifySocket p fun lsd =>
      { lsd with
        sockname := overlay lsd.sockname (name.take namelen)
        socknamelen := namelen
        bound := true }
  else
    fault

/- Forget the local name of a socket that did not bind. -/
def forgetName (p : Ptr) : Exec Unit :=
  modifySocket p fun lsd =>
    { lsd with
      sockname := bzeroName lsd.sockname
      socknamelen := 0
      bound := false }

/- `bind` -/
def bind
    (env : BindEnv)
    (fd : Fd)
    (addr : Option Bytes)
    (addrlen : Nat) : Exec Int := do
  let found ← enter env.writable fd
  match found with
  | none => return -1
  | some p => do
      let lsd ← derefSocket p
      let i ← interfaceOf lsd
      refuseOr (bindRefusal lsd addr) (do
        let ret ← interfaceBind env i p (addr.getD []) addrlen
        if ret = 0 then do
          recordName env p
          return ret
        else do
          forgetName p
          return ret)

------------------------------------------------------------
-- Frame
------------------------------------------------------------

theorem still_interfaceBind
    (env : BindEnv)
    (i : Interface)
    (p : Ptr)
    (addr : Bytes)
    (addrlen : Nat) :
    StillCmd (interfaceBind env i p addr addrlen) := by
  cases i with
  | wsock => exact still_wsockSimple _ _
  | csock => exact still_csockSimple _ _
  | unix => exact still_unixBind _ _ _ _

/- Only `bound` changes when names are recorded. -/
theorem moves_bound
    {loose : Prop}
    {d d' : LsckSocket}
    {b : Bool}
    (hLoose : loose)
    (hStatus : d'.status = { d.status with bound := b }) :
    LsckSocket.Moves loose d d' :=
  ⟨b, .inl hLoose, .inl hStatus⟩

theorem drift_recordName (env : BindEnv) (p : Ptr) :
    DriftCmd (some p) (recordName env p) := by
  refine (DriftCmd.derefSocket p).bind fun lsd => ?_
  refine (drift_getsockname _ _ _).weaken.bind fun r => ?_
  refine DriftCmd.ite ?_ (DriftCmd.stop _)
  refine DriftCmd.modifySocket fun d => ?_
  exact moves_bound rfl rfl

theorem drift_forgetName (p : Ptr) :
    DriftCmd (some p) (forgetName p) :=
  DriftCmd.modifySocket fun _ => moves_bound rfl rfl

/- The part of a bind behind the parameter checks. -/
theorem drift_bindOn
    (env : BindEnv)
    (i : Interface)
    (p : Ptr)
    (addr : Bytes)
    (addrlen : Nat) :
    DriftCmd (some p) (do
      let ret ← interfaceBind env i p addr addrlen
      if ret = 0 then do
        recordName env p
        return ret
      else do
        forgetName p
        return ret) := by
  refine (DriftCmd.of_still
    (still_interfaceBind _ _ _ _ _)).bind fun ret => ?_
  refine DriftCmd.ite ?_ ?_
  · exact (drift_recordName _ _).bind
      fun _ => DriftCmd.pure _
  · exact (drift_forgetName _).bind
      fun _ => DriftCmd.pure _

theorem bindRefusal_none
    {lsd : LsckSocket}
    {addr : Option Bytes}
    (hPass : bindRefusal lsd addr = none) :
    lsd.bound = false := by
  unfold bindRefusal at hPass
  cases hBound : lsd.bound with
  | false => rfl
  | true => simp [hBound] at hPass

/-
  A bind moves only the descriptor it is given, and loosely
  only when that one is not bound.
-/
theorem bind_ok
    {env : BindEnv}
    {fd : Fd}
    {addr : Option Bytes}
    {addrlen : Nat}
    {s s' : Process}
    {r : Int}
    (hRun : bind env fd addr addrlen s = .ok (r, s')) :
    Drift none s s' ∨
      ∃ p d, (s.fds fd).data = some (.lsd p) ∧
        s.heap p = some (.socket d) ∧ d.bound = false ∧
        Drift (some p) s s' := by
  rcases prologue_ok hRun with ⟨-, -, hStill⟩ |
    ⟨p, d, i, hLeads, hSocket, -, hTail⟩
  · exact .inl (.of_still hStill)
  have hCheck := drift_check hSocket env.writable
  cases hRefusal :
      bindRefusal (d.checked env.writable) addr with
  | some error =>
      rw [hRefusal] at hTail
      exact .inl (hCheck.trans
        (DriftCmd.fail error _ r s' hTail))
  | none =>
      rw [hRefusal] at hTail
      refine .inr ⟨p, d, hLeads.2, hSocket, ?_, ?_⟩
      · have hBound := bindRefusal_none hRefusal
        rcases d.checked_cases env.writable with h | h
        · rw [h] at hBound
          exact hBound
        · rw [h.2.2] at hBound
          exact hBound
      · exact hCheck.weaken.trans
          (drift_bindOn env i p _ _ _ r s' hTail)

theorem quiet_bind
    {env : BindEnv}
    {fd : Fd}
    {addr : Option Bytes}
    {addrlen : Nat}
    {s s' : Process}
    {r : Int}
    (hRun : bind env fd addr addrlen s = .ok (r, s')) :
    Quiet s s' := by
  rcases bind_ok hRun with hDrift |
    ⟨p, d, -, hSocket, hBound, hDrift⟩
  · exact .of_drift_none hDrift
  · refine .of_drift hDrift fun q e hQ hE => ?_
    cases hQ
    rw [hSocket] at hE
    cases hE
    exact hBound

end Libsocket
