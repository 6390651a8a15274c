import Libsocket.Library.Memory
import Libsocket.Core.Arguments

/-
  The value of a socket option: `getsockopt` with the memory
  that it is given, and what the three interfaces and the
  emulation store in it.

  A `size_t` has 32 bits. Every copy is checked against the
  bytes at `optval` and against the transfer buffer.

  Main declarations:
    * `OptState`, `OptPointers`, `getsockopt`
    * `OptionFits`, `wsockGetsockopt_fits_iff`
    * `optionFits_iff`
-/

namespace Libsocket

open Command

------------------------------------------------------------
-- Memory
------------------------------------------------------------

/- `SO_ERROR` -/
def soError : Int := 0x1007

/- `CSOCK_RECV_BUFSIZE` -/
def csockRecvBufsize : Int := 32768

/- `CSOCK_SEND_LOWWATER` -/
def csockSendLowwater : Int := 1024

/- `sizeof (int)` -/
def intSize : Nat := 4

/- `WSOCK_GETSOCKOPT_PARAMS` -/
structure GetsockoptParams where
  value : Nat
  socket : Int
  optionLevel : Int
  optionName : Int
  valueLength : Nat
  intValue : Nat
deriving DecidableEq, Repr

/-
  What a call works on: the bytes from `optval` on, of which
  `room` are there to be used, `*optlen`, and the transfer
  buffer with the parameters in front of its other bytes.
-/
structure OptState where
  optval : Nat → UInt8
  room : Nat
  optlen : Nat
  params : GetsockoptParams
  behind : Nat → UInt8
  errno : Errno

/- Which of the two a copy runs over. -/
inductive OptFault
  | optval
  | transfer
deriving DecidableEq, Repr

abbrev OptCommand (α : Type) : Type :=
  Command OptFault OptState α

def setOptErrno (e : Errno) : OptCommand Unit :=
  modify fun s => { s with errno := e }

/- `errno = e; return (-1);` -/
def failOpt (e : Errno) : OptCommand Int := do
  setOptErrno e
  return -1

/- `*optlen = n` -/
def setOptlen (n : Nat) : OptCommand Unit :=
  modify fun s => { s with optlen := n }

/- Store bytes at `optval`. -/
def storeOptval (b : Bytes) : OptCommand Unit := do
  let s ← get
  if b.length ≤ s.room then
    set { s with optval := Memory.store s.optval 0 b }
  else
    stop .optval

theorem setOptlen_run
    (n : Nat)
    (s : OptState) :
    setOptlen n s = .ok ((), { s with optlen := n }) := rfl

/- Load bytes from `optval`. -/
def loadOptval (n : Nat) : OptCommand Bytes := do
  let s ← get
  if n ≤ s.room then
    return Memory.load s.optval 0 n
  else
    stop .optval

/- The bytes of an `int`. -/
def intBytes (x : Int) : Bytes :=
  Word.littleEndian intSize (Word.unsigned x)

@[simp] theorem length_intBytes (x : Int) :
    (intBytes x).length = intSize :=
  Word.length_littleEndian _ _

/- `*(int *) optval = x` -/
def storeInt (x : Int) : OptCommand Unit :=
  storeOptval (intBytes x)

/- `_farpokex` behind the parameters. -/
def pokeBehind (b : Bytes) : OptCommand Unit := do
  let s ← get
  if sockoptParamsSize + b.length ≤ socketPSize then
    set { s with behind := Memory.store s.behind 0 b }
  else
    stop .transfer

/- `_farpeekx` behind the parameters. -/
def peekBehind (n : Nat) : OptCommand Bytes := do
  let s ← get
  if sockoptParamsSize + n ≤ socketPSize then
    return Memory.load s.behind 0 n
  else
    stop .transfer

------------------------------------------------------------
-- WSOCK.VXD
------------------------------------------------------------

/-
  What the driver answers: `_VXDError`, the parameters it
  leaves and the bytes behind them.
-/
structure OptionAnswer where
  code : UInt16
  params : GetsockoptParams
  value : Bytes

/- The selector, the socket, the answer, and the numbers. -/
structure OptionEnv where
  socketP : Nat
  wsock : LsckSocketWsock
  answer : OptionAnswer
  number : Errno → Int

/- `is_int` -/
def GetsockoptParams.isInt (params : GetsockoptParams) :
    Bool :=
  params.value == 0 && params.valueLength == 0

/- The options that are refused at once. -/
def WsockRefuses (optname : Int) : Prop :=
  optname = soRcvlowat ∨ optname = soRcvtimeo ∨
    optname = soSndlowat ∨ optname = soSndtimeo

instance
    (optname : Int) :
    Decidable (WsockRefuses optname) := by
  unfold WsockRefuses
  infer_instance

/- The driver fills the transfer buffer. -/
def callVxdOption (answer : OptionAnswer) :
    OptCommand Unit := do
  modify fun s =>
    { s with
      params := answer.params
      behind := Memory.store s.behind 0 answer.value }
  if answer.code = 0xffff then
    setOptErrno .EAGAIN
  else if answer.code ≠ 0 then
    setOptErrno (wsockErrno answer.code)
  else
    return ()

/-
  The value of `SO_ERROR`. `__wsock_errno` looks at the
  driver's error, whatever it is given.
-/
def storeSoError
    (env : OptionEnv)
    (isInt : Bool)
    (optlen : Nat) : OptCommand Unit := do
  if isInt then
    storeInt (env.number (wsockErrno env.answer.code))
  else do
    let value ← peekBehind optlen
    storeOptval value
    let _ ← loadOptval intSize
    storeInt (env.number (wsockErrno env.answer.code))

/- The value of any other option. -/
def storeValue
    (params : GetsockoptParams)
    (optlen : Nat) : OptCommand Unit := do
  if params.isInt then
    storeInt params.intValue
  else do
    let value ← peekBehind optlen
    storeOptval value

/- `__wsock_getsockopt` behind the driver's call. -/
def wsockGetsockoptAnswered
    (env : OptionEnv)
    (optname : Int) : OptCommand Int := do
  let s ← get
  let optlen : Nat :=
    if s.params.isInt then intSize else s.params.valueLength
  setOptlen optlen
  if optname = soError then do
    storeSoError env s.params.isInt optlen
    return 0
  else do
    storeValue s.params optlen
    return 0

/- `__wsock_getsockopt` -/
def wsockGetsockopt
    (env : OptionEnv)
    (level optname : Int) : OptCommand Int := do
  if WsockRefuses optname then
    failOpt .ENOPROTOOPT
  else do
    let s ← get
    if socketPSize <
        (s.optlen + sockoptParamsSize) % 2 ^ 32 then
      failOpt .ENOBUFS
    else do
      modify fun s =>
        { s with params :=
          { value := env.socketP * 2 ^ 16 + sockoptParamsSize
            socket := env.wsock.socket
            optionLevel := level
            optionName := optname
            valueLength := s.optlen
            intValue := 0 } }
      let value ← loadOptval s.optlen
      pokeBehind value
      callVxdOption env.answer
      if vxdFails env.answer.code then
        return -1
      else
        wsockGetsockoptAnswered env optname

------------------------------------------------------------
-- SOCK.VXD
------------------------------------------------------------

/- The number that an option of SOCK.VXD stands for. -/
def csockOptionValue (optname : Int) : Int :=
  if optname = soReuseaddr ∨ optname = soRcvlowat then
    1
  else if optname = soSndlowat then
    csockSendLowwater
  else
    csockRecvBufsize

/-
  `__csock_getsockopt`; there is no answer when the option
  is left to the emulation. `*optlen` stays as it is at a
  `struct timeval`.
-/
def csockGetsockopt
    (level optname : Int) : OptCommand (Option Int) := do
  if level ≠ solSocket then do
    let rv ← failOpt .EINVAL
    return some rv
  else
    match csockOptionSize optname with
    | none => return none
    | some size => do
        let s ← get
        if s.optlen < size then do
          let rv ← failOpt .ENOBUFS
          return some rv
        else if size = timevalSize then do
          storeOptval (List.replicate timevalSize 0)
          return some 0
        else do
          storeInt (csockOptionValue optname)
          setOptlen intSize
          return some 0

------------------------------------------------------------
-- The Core
------------------------------------------------------------

/- `getsockopt_emulated` -/
def getsockoptEmulated
    (lsd : LsckSocket)
    (level optname : Int) : OptCommand Int := do
  let s ← get
  if level ≠ solSocket then
    failOpt .ENOPROTOOPT
  else if (optname = soAcceptconn ∨ optname = soType) ∧
      s.optlen < intSize then
    failOpt .ENOBUFS
  else if optname = soAcceptconn then do
    storeInt (if lsd.listening then 1 else 0)
    setOptlen intSize
    return 0
  else if optname = soType then do
    storeInt lsd.type
    setOptlen intSize
    return 0
  else
    failOpt .ENOPROTOOPT

/- The callback `getsockopt`; none when it handles nothing. -/
def interfaceGetsockopt
    (env : OptionEnv)
    (i : Interface)
    (level optname : Int) : OptCommand (Option Int) :=
  match i with
  | .wsock => do
      let rv ← wsockGetsockopt env level optname
      return some rv
  | .csock => csockGetsockopt level optname
  | .unix => return none

/- `getsockopt` from the callback on. -/
def getsockoptFrom
    (env : OptionEnv)
    (lsd : LsckSocket)
    (i : Interface)
    (level optname : Int) : OptCommand Int := do
  let handled ← interfaceGetsockopt env i level optname
  match handled with
  | some rv => return rv
  | none => getsockoptEmulated lsd level optname

/-
  The pointers of the caller: no `optval`, or one that has
  no `optlen`, or both. At `optval` there are `*optlen`
  bytes.
-/
inductive OptPointers
  | null (optlen : Option UInt32)
  | unsized
  | given (optval : Nat → UInt8) (optlen : UInt32)

/- The size of the buffer for a call without `optval`. -/
def temporarySize : Nat := 16

/- What a call answers and leaves behind. -/
structure OptOutcome where
  ret : Int
  errno : Errno
  optlen : Option Nat

/- The state that the interface is given. -/
def OptState.passed
    (s : OptState)
    (optval : Nat → UInt8)
    (optlen : Nat) : OptState where
  optval := optval
  room := optlen
  optlen := optlen
  params := s.params
  behind := s.behind
  errno := s.errno

/-
  `getsockopt` on a socket behind the check on entry. `s` is
  the memory that is there before; without `optval`, its
  bytes are those of the temporary buffer.
-/
def getsockopt
    (env : OptionEnv)
    (lsd : LsckSocket)
    (i : Interface)
    (level optname : Int)
    (pointers : OptPointers)
    (s : OptState) : Except OptFault (OptOutcome × OptState) :=
  match pointers with
  | .unsized =>
      .ok (⟨-1, .EFAULT, none⟩, { s with errno := .EFAULT })
  | .null optlen =>
      match getsockoptFrom env lsd i level optname
        (s.passed s.optval temporarySize) with
      | .ok (ret, t) =>
          .ok (⟨ret, t.errno, optlen.map (·.toNat)⟩, t)
      | .error e => .error e
  | .given optval optlen =>
      match getsockoptFrom env lsd i level optname
        (s.passed optval optlen.toNat) with
      | .ok (ret, t) =>
          .ok (⟨ret, t.errno, some t.optlen⟩, t)
      | .error e => .error e

------------------------------------------------------------
-- What Fits
------------------------------------------------------------

/- The bytes that the emulated options take. -/
def emulatedNeeds (level optname : Int) : Option Nat :=
  if level = solSocket ∧
      (optname = soAcceptconn ∨ optname = soType) then
    some intSize
  else
    none

/-
  The bytes that the value of an option takes, if it has
  one that the call gets.
-/
def optionNeeds
    (env : OptionEnv)
    (i : Interface)
    (level optname : Int) : Option Nat :=
  match i with
  | .wsock =>
      if WsockRefuses optname ∨ vxdFails env.answer.code then
        none
      else if env.answer.params.isInt then
        some intSize
      else
        some env.answer.params.valueLength
  | .csock =>
      if level = solSocket then
        csockOptionSize optname <|> emulatedNeeds level optname
      else
        none
  | .unix => emulatedNeeds level optname

/- The bytes that there are for the value. -/
def OptPointers.room : OptPointers → Option Nat
| .null _ => some temporarySize
| .unsized => none
| .given _ optlen => some optlen.toNat

/- The caller's `*optlen`. -/
def OptPointers.optlen : OptPointers → Option Nat
| .null optlen => optlen.map (·.toNat)
| .unsized => none
| .given _ optlen => some optlen.toNat

/- The driver keeps to the length that it is given. -/
def OptionEnv.KeepsLength
    (env : OptionEnv)
    (pointers : OptPointers) : Prop :=
  ∀ room, pointers.room = some room →
    env.answer.params.valueLength ≤ room

/-
  The call runs over nothing, `*optlen` does not grow, and a
  value that there is no room for is refused.
-/
def OptionFits
    (env : OptionEnv)
    (lsd : LsckSocket)
    (i : Interface)
    (level optname : Int)
    (pointers : OptPointers)
    (s : OptState) : Prop :=
  ∃ out t,
    getsockopt env lsd i level optname pointers s =
        .ok (out, t) ∧
      (∀ n, pointers.optlen = some n →
        ∃ n', out.optlen = some n' ∧ n' ≤ n) ∧
      ∀ room need, pointers.room = some room →
        optionNeeds env i level optname = some need →
        room < need →
        out.ret = -1 ∧ out.errno = .ENOBUFS

/-
  With `n` bytes, WSOCK.VXD is not asked, or the size of the
  copy does not wrap, and the copy is refused, fails, or
  has room for an integer where one is stored.
-/
def WsockHasRoom
    (env : OptionEnv)
    (optname : Int)
    (n : Nat) : Prop :=
  WsockRefuses optname ∨
    n + sockoptParamsSize < 2 ^ 32 ∧
      (socketPSize < n + sockoptParamsSize ∨
        vxdFails env.answer.code = true ∨ intSize ≤ n ∨
        env.answer.params.isInt = false ∧ optname ≠ soError)

/- The same for a command from a state. -/
def Fits
    (need : Option Nat)
    (m : OptCommand Int)
    (s : OptState) : Prop :=
  ∃ ret t, m s = .ok (ret, t) ∧ t.optlen ≤ s.optlen ∧
    ∀ n, need = some n → s.room < n →
      ret = -1 ∧ t.errno = .ENOBUFS

------------------------------------------------------------
-- Single Copies
------------------------------------------------------------

section Copies

variable {s : OptState} {b : Bytes} {n : Nat}

theorem storeOptval_run
    (hFits : b.length ≤ s.room) :
    storeOptval b s =
      .ok ((),
        { s with optval := Memory.store s.optval 0 b }) := by
  unfold storeOptval
  rw [run_bind_ok (run_get s), if_pos hFits]
  rfl

theorem storeOptval_over
    (hLong : s.room < b.length) :
    storeOptval b s = .error .optval := by
  unfold storeOptval
  rw [run_bind_ok (run_get s), if_neg (by omega)]
  rfl

theorem loadOptval_run
    (hFits : n ≤ s.room) :
    loadOptval n s =
      .ok (Memory.load s.optval 0 n, s) := by
  unfold loadOptval
  rw [run_bind_ok (run_get s), if_pos hFits]
  rfl

theorem loadOptval_over
    (hShort : s.room < n) :
    loadOptval n s = .error .optval := by
  unfold loadOptval
  rw [run_bind_ok (run_get s), if_neg (by omega)]
  rfl

theorem pokeBehind_run
    (hFits : sockoptParamsSize + b.length ≤ socketPSize) :
    pokeBehind b s =
      .ok ((),
        { s with behind := Memory.store s.behind 0 b }) := by
  unfold pokeBehind
  rw [run_bind_ok (run_get s), if_pos hFits]
  rfl

theorem pokeBehind_over
    (hLong : socketPSize < sockoptParamsSize + b.length) :
    pokeBehind b s = .error .transfer := by
  unfold pokeBehind
  rw [run_bind_ok (run_get s), if_neg (by omega)]
  rfl

theorem peekBehind_run
    (hFits : sockoptParamsSize + n ≤ socketPSize) :
    peekBehind n s =
      .ok (Memory.load s.behind 0 n, s) := by
  unfold peekBehind
  rw [run_bind_ok (run_get s), if_pos hFits]
  rfl

theorem storeInt_run
    (x : Int)
    (hFits : intSize ≤ s.room) :
    storeInt x s =
      .ok ((),
        { s with
          optval := Memory.store s.optval 0 (intBytes x) }) :=
  storeOptval_run (by simpa using hFits)

theorem storeInt_over
    (x : Int)
    (hShort : s.room < intSize) :
    storeInt x s = .error .optval :=
  storeOptval_over (by simpa using hShort)

end Copies

------------------------------------------------------------
-- Commands That Fit
------------------------------------------------------------

section Fitting

variable {s : OptState} {need : Option Nat}

/- A refusal for want of room fits, whatever is needed. -/
theorem fits_noBufs :
    Fits need (failOpt .ENOBUFS) s :=
  ⟨-1, _, rfl, Nat.le_refl _, fun _ _ _ => ⟨rfl, rfl⟩⟩

theorem fits_fail
    (e : Errno) :
    Fits none (failOpt e) s :=
  ⟨-1, _, rfl, Nat.le_refl _, fun _ hNeed _ => by cases hNeed⟩

/- An integer that there is room for. -/
theorem fits_storeInt
    (x : Int)
    (hRoom : s.room = s.optlen)
    (hFits : intSize ≤ s.optlen) :
    Fits (some intSize)
      (do
        storeInt x
        setOptlen intSize
        return 0) s := by
  refine ⟨0, _, run_bind_ok (storeInt_run x (by omega)),
    hFits, ?_⟩
  intro n hNeed hShort
  cases hNeed
  omega

theorem not_fits_of_error
    {m : OptCommand Int}
    {e : OptFault}
    (hRun : m s = .error e) :
    ¬ Fits need m s := by
  rintro ⟨ret, t, hOk, -⟩
  rw [hRun] at hOk
  cases hOk

/- A run that goes on from a state of the same sizes. -/
theorem fits_moved
    {m m' : OptCommand Int}
    {s' : OptState}
    (hRun : m s = m' s')
    (hOptlen : s'.optlen = s.optlen)
    (hRoom : s'.room = s.room) :
    Fits need m s ↔ Fits need m' s' := by
  unfold Fits
  rw [hRun, hOptlen, hRoom]

theorem fits_congr
    {m m' : OptCommand Int}
    (hRun : m s = m' s) :
    Fits need m s ↔ Fits need m' s :=
  fits_moved hRun rfl rfl

end Fitting

------------------------------------------------------------
-- The Emulation And SOCK.VXD
------------------------------------------------------------

section Interfaces

variable {s : OptState} {level optname : Int}

theorem emulated_fits
    (lsd : LsckSocket)
    (hRoom : s.room = s.optlen) :
    Fits (emulatedNeeds level optname)
      (getsockoptEmulated lsd level optname) s := by
  unfold emulatedNeeds getsockoptEmulated
  rw [fits_congr (run_bind_ok (run_get s))]
  by_cases hLevel : level = solSocket
  · rw [if_neg (not_not.mpr hLevel)]
    by_cases hKnown : optname = soAcceptconn ∨ optname = soType
    · rw [if_pos ⟨hLevel, hKnown⟩]
      by_cases hShort : s.optlen < intSize
      · rw [if_pos ⟨hKnown, hShort⟩]
        exact fits_noBufs
      · rw [if_neg (fun h => hShort h.2)]
        by_cases hAccept : optname = soAcceptconn
        · rw [if_pos hAccept]
          exact fits_storeInt _ hRoom (by omega)
        · rw [if_neg hAccept,
            if_pos (hKnown.resolve_left hAccept)]
          exact fits_storeInt _ hRoom (by omega)
    · rw [not_or] at hKnown
      rw [if_neg (by tauto), if_neg (by tauto),
        if_neg hKnown.1, if_neg hKnown.2]
      exact fits_fail _
  · rw [if_pos hLevel, if_neg (fun h => hLevel h.1)]
    exact fits_fail _

/- The sizes that `__csock_getsockopt` asks for. -/
theorem csockOptionSize_cases
    {size : Nat}
    (hSize : csockOptionSize optname = some size) :
    size = intSize ∨ size = timevalSize := by
  unfold csockOptionSize at hSize
  split at hSize
  · exact .inl (Option.some.inj hSize).symm
  · split at hSize
    · exact .inr (Option.some.inj hSize).symm
    · cases hSize

/- A `struct timeval` that there is room for. -/
theorem fits_storeTimeval
    (hRoom : s.room = s.optlen)
    (hFits : timevalSize ≤ s.optlen) :
    Fits (some timevalSize)
      (do
        storeOptval (List.replicate timevalSize 0)
        return 0) s := by
  have hLength : (List.replicate timevalSize
      (0 : UInt8)).length = timevalSize :=
    List.length_replicate
  refine ⟨0, _, run_bind_ok (storeOptval_run (by omega)),
    Nat.le_refl _, ?_⟩
  intro n hNeed hShort
  cases hNeed
  omega

theorem csock_fits
    (env : OptionEnv)
    (lsd : LsckSocket)
    (hRoom : s.room = s.optlen) :
    Fits (optionNeeds env .csock level optname)
      (getsockoptFrom env lsd .csock level optname) s := by
  unfold getsockoptFrom interfaceGetsockopt csockGetsockopt
    optionNeeds
  by_cases hLevel : level = solSocket
  · simp only [hLevel, ne_eq, not_true_eq_false, if_false,
      if_true]
    cases hSize : csockOptionSize optname with
    | none => exact emulated_fits lsd hRoom
    | some size =>
        by_cases hShort : s.optlen < size
        · refine (fits_congr ?_).mpr fits_noBufs
          simp only [bind_assoc]
          rw [run_bind_ok (run_get s), if_pos hShort]
          rfl
        · rcases csockOptionSize_cases hSize with rfl | rfl
          · refine (fits_congr ?_).mpr (fits_storeInt
              (csockOptionValue optname) hRoom (by omega))
            simp only [bind_assoc]
            rw [run_bind_ok (run_get s), if_neg hShort,
              if_neg (by decide)]
            simp only [bind_assoc, pure_bind]
          · refine (fits_congr ?_).mpr
              (fits_storeTimeval hRoom (by omega))
            simp only [bind_assoc]
            rw [run_bind_ok (run_get s), if_neg hShort,
              if_pos trivial]
            simp only [bind_assoc, pure_bind]
  · simp only [hLevel, ne_eq, not_false_eq_true, if_true,
      if_false]
    exact fits_fail .EINVAL

/- The call on a socket of a path is emulated. -/
theorem unix_fits
    (env : OptionEnv)
    (lsd : LsckSocket)
    (hRoom : s.room = s.optlen) :
    Fits (optionNeeds env .unix level optname)
      (getsockoptFrom env lsd .unix level optname) s :=
  emulated_fits lsd hRoom

end Interfaces

------------------------------------------------------------
-- WSOCK.VXD: Sizes
------------------------------------------------------------

section Wsock

variable {s : OptState} {env : OptionEnv}
variable {level optname : Int}

/- The state in which the driver's answer is looked at. -/
def OptState.answered
    (s : OptState)
    (env : OptionEnv) : OptState where
  optval := s.optval
  room := s.room
  optlen := s.optlen
  params := env.answer.params
  behind := Memory.store
    (Memory.store s.behind 0 (Memory.load s.optval 0 s.optlen))
    0 env.answer.value
  errno :=
    if env.answer.code = 0xffff then .EAGAIN
    else if env.answer.code ≠ 0 then
      wsockErrno env.answer.code
    else s.errno

/- A length that wraps gets past the check. -/
theorem wrapped_le
    (hSize : s.optlen < 2 ^ 32)
    (hWraps : 2 ^ 32 ≤ s.optlen + sockoptParamsSize) :
    (s.optlen + sockoptParamsSize) % 2 ^ 32 ≤
      socketPSize := by
  unfold sockoptParamsSize socketPSize at *
  omega

theorem callVxdOption_run (answer : OptionAnswer) :
    callVxdOption answer s =
      .ok ((),
        { s with
          params := answer.params
          behind := Memory.store s.behind 0 answer.value
          errno :=
            if answer.code = 0xffff then .EAGAIN
            else if answer.code ≠ 0 then
              wsockErrno answer.code
            else s.errno }) := by
  unfold callVxdOption
  rw [run_bind_ok (run_modify _ s)]
  by_cases hAgain : answer.code = 0xffff
  · rw [if_pos hAgain, if_pos hAgain]
    rfl
  · rw [if_neg hAgain, if_neg hAgain]
    by_cases hCode : answer.code ≠ 0
    · rw [if_pos hCode, if_pos hCode]
      rfl
    · rw [if_neg hCode, if_neg hCode]
      rfl

/- The call from behind the check of the size on. -/
theorem wsock_run
    (env : OptionEnv)
    (level : Int)
    (hKnown : ¬ WsockRefuses optname)
    (hChecked : ¬ socketPSize <
      (s.optlen + sockoptParamsSize) % 2 ^ 32)
    (hRoom : s.room = s.optlen)
    (hFits : sockoptParamsSize + s.optlen ≤ socketPSize) :
    wsockGetsockopt env level optname s =
      (if vxdFails env.answer.code then
        return -1
      else
        wsockGetsockoptAnswered env optname)
        (s.answered env) := by
  unfold wsockGetsockopt
  rw [if_neg hKnown, run_bind_ok (run_get s),
    if_neg hChecked, run_bind_ok (run_modify _ s)]
  refine (run_bind_ok (loadOptval_run ?_)).trans ?_
  · exact Nat.le_of_eq hRoom.symm
  refine (run_bind_ok (pokeBehind_run ?_)).trans ?_
  · rw [Memory.length_load]
    exact hFits
  rw [run_bind_ok (callVxdOption_run env.answer)]
  rfl

/- A length that wraps is copied all the same. -/
theorem wsock_overruns
    (env : OptionEnv)
    (level : Int)
    (hKnown : ¬ WsockRefuses optname)
    (hRoom : s.room = s.optlen)
    (hSize : s.optlen < 2 ^ 32)
    (hWraps : 2 ^ 32 ≤ s.optlen + sockoptParamsSize) :
    wsockGetsockopt env level optname s =
      .error .transfer := by
  have hChecked := wrapped_le hSize hWraps
  unfold wsockGetsockopt
  rw [if_neg hKnown, run_bind_ok (run_get s),
    if_neg (by omega), run_bind_ok (run_modify _ s)]
  refine (run_bind_ok (loadOptval_run ?_)).trans ?_
  · exact Nat.le_of_eq hRoom.symm
  apply run_bind_error
  apply pokeBehind_over
  rw [Memory.length_load]
  unfold sockoptParamsSize socketPSize at *
  omega

------------------------------------------------------------
-- WSOCK.VXD: Answers
------------------------------------------------------------

variable (env : OptionEnv) (optname : Int)

/- An integer answer is stored, whatever the option. -/
theorem answered_int
    (hInt : s.params.isInt = true) :
    ∃ x, wsockGetsockoptAnswered env optname s =
      (do
        storeInt x
        return 0) { s with optlen := intSize } := by
  unfold wsockGetsockoptAnswered
  rw [run_bind_ok (run_get s)]
  simp only [hInt, if_true]
  rw [run_bind_ok (setOptlen_run _ s)]
  by_cases hError : optname = soError
  · rw [if_pos hError]
    exact ⟨_, rfl⟩
  · rw [if_neg hError]
    unfold storeValue
    rw [hInt, if_pos rfl]
    exact ⟨_, rfl⟩

theorem answered_int_iff
    (hInt : s.params.isInt = true)
    (hRoom : s.room = s.optlen) :
    Fits (some intSize)
        (wsockGetsockoptAnswered env optname) s ↔
      intSize ≤ s.optlen := by
  rcases answered_int env optname hInt with ⟨x, hRun⟩
  constructor
  · intro hFits
    by_contra hShort
    refine not_fits_of_error (hRun.trans (run_bind_error
      (storeInt_over x ?_))) hFits
    simp only [hRoom]
    omega
  · intro hFits
    refine ⟨0, _, hRun.trans (run_bind_ok
      (storeInt_run x ?_)), hFits, ?_⟩
    · simp only [hRoom]
      exact hFits
    · intro n hNeed hShort
      cases hNeed
      omega

/- The copy of a value that is no longer than it may be. -/
theorem copyValue_run
    {n : Nat}
    (hValue : n ≤ s.room)
    (hFits : sockoptParamsSize + n ≤ socketPSize) :
    (do
      let value ← peekBehind n
      storeOptval value) s =
      .ok ((),
        { s with
          optval := Memory.store s.optval 0
            (Memory.load s.behind 0 n) }) := by
  rw [run_bind_ok (peekBehind_run hFits)]
  apply storeOptval_run
  rw [Memory.length_load]
  exact hValue

/-
  A value answer is copied, and at `SO_ERROR` an integer is
  stored over it.
-/
theorem answered_value
    (hValue : s.params.isInt = false)
    (hLength : s.params.valueLength ≤ s.room)
    (hFits : sockoptParamsSize + s.params.valueLength ≤
      socketPSize) :
    wsockGetsockoptAnswered env optname s =
      (if optname = soError then do
        let _ ← loadOptval intSize
        storeInt (env.number (wsockErrno env.answer.code))
        return 0
      else
        return 0)
        { s with
          optlen := s.params.valueLength
          optval := Memory.store s.optval 0
            (Memory.load s.behind 0 s.params.valueLength) } := by
  unfold wsockGetsockoptAnswered
  rw [run_bind_ok (run_get s)]
  simp only [hValue, Bool.false_eq_true, if_false]
  rw [run_bind_ok (setOptlen_run _ s)]
  by_cases hError : optname = soError
  · rw [if_pos hError, if_pos hError]
    have hCopied := run_bind_ok
      (f := fun _ => (do
        let _ ← loadOptval intSize
        storeInt (env.number (wsockErrno env.answer.code))
        return 0 : OptCommand Int))
      (copyValue_run
        (s := { s with optlen := s.params.valueLength })
        hLength hFits)
    simpa only [storeSoError, Bool.false_eq_true, if_false,
      bind_assoc] using hCopied
  · rw [if_neg hError, if_neg hError]
    unfold storeValue
    rw [hValue, if_neg (by simp)]
    exact run_bind_ok (copyValue_run hLength hFits)

theorem answered_value_iff
    (hValue : s.params.isInt = false)
    (hRoom : s.room = s.optlen)
    (hLength : s.params.valueLength ≤ s.optlen)
    (hFits : sockoptParamsSize + s.optlen ≤ socketPSize) :
    Fits (some s.params.valueLength)
        (wsockGetsockoptAnswered env optname) s ↔
      intSize ≤ s.optlen ∨ optname ≠ soError := by
  have hRun := answered_value env optname hValue (by omega)
    (by omega)
  have hNeeds : ∀ n, some s.params.valueLength = some n →
      s.room < n → False := by
    intro n hNeed hShort
    cases hNeed
    omega
  by_cases hError : optname = soError
  · rw [if_pos hError] at hRun
    by_cases hInt : intSize ≤ s.optlen
    · have hLoads := loadOptval_run (n := intSize)
        (s := { s with
          optlen := s.params.valueLength
          optval := Memory.store s.optval 0
            (Memory.load s.behind 0 s.params.valueLength) })
        (by simp only [hRoom]; exact hInt)
      rw [run_bind_ok hLoads] at hRun
      refine iff_of_true ⟨0, _, hRun.trans (run_bind_ok
        (storeInt_run _ ?_)), hLength, ?_⟩ (.inl hInt)
      · simp only [hRoom]
        exact hInt
      · exact fun n hNeed hShort =>
          (hNeeds n hNeed hShort).elim
    · have hLoads := loadOptval_over (n := intSize)
        (s := { s with
          optlen := s.params.valueLength
          optval := Memory.store s.optval 0
            (Memory.load s.behind 0 s.params.valueLength) })
        (by simp only [hRoom]; omega)
      rw [run_bind_error hLoads] at hRun
      refine iff_of_false (not_fits_of_error hRun) ?_
      rintro (hEnough | hOther)
      · exact hInt hEnough
      · exact hOther hError
  · rw [if_neg hError] at hRun
    refine iff_of_true ⟨0, _, hRun, hLength, ?_⟩ (.inr hError)
    exact fun n hNeed hShort => (hNeeds n hNeed hShort).elim

------------------------------------------------------------
-- WSOCK.VXD: The Call
------------------------------------------------------------

variable {env : OptionEnv} {optname : Int}

/- The condition where the driver is asked and answers. -/
theorem hasRoom_iff
    {n : Nat}
    (hKnown : ¬ WsockRefuses optname)
    (hFits : sockoptParamsSize + n ≤ socketPSize)
    (hAnswers : vxdFails env.answer.code = false) :
    WsockHasRoom env optname n ↔
      intSize ≤ n ∨
        env.answer.params.isInt = false ∧
          optname ≠ soError := by
  have hSmall : n + sockoptParamsSize < 2 ^ 32 := by
    unfold sockoptParamsSize socketPSize at *
    omega
  unfold WsockHasRoom
  constructor
  · rintro (hRefused | ⟨-, hBig | hFails | hRoom⟩)
    · exact absurd hRefused hKnown
    · omega
    · rw [hAnswers] at hFails
      cases hFails
    · exact hRoom
  · exact fun hRoom => .inr ⟨hSmall, .inr (.inr hRoom)⟩

theorem wsock_fits_iff
    (hRoom : s.room = s.optlen)
    (hSize : s.optlen < 2 ^ 32)
    (hLength : env.answer.params.valueLength ≤ s.optlen) :
    Fits (optionNeeds env .wsock level optname)
        (wsockGetsockopt env level optname) s ↔
      WsockHasRoom env optname s.optlen := by
  by_cases hRefused : WsockRefuses optname
  · have hNone : optionNeeds env .wsock level optname =
        none := by
      simp [optionNeeds, hRefused]
    refine iff_of_true ?_ (.inl hRefused)
    unfold wsockGetsockopt
    rw [if_pos hRefused, hNone]
    exact fits_fail _
  by_cases hWraps : 2 ^ 32 ≤ s.optlen + sockoptParamsSize
  · have hOver := wsock_overruns env level
      hRefused hRoom hSize hWraps
    refine iff_of_false (not_fits_of_error hOver) ?_
    rintro (hKnown | ⟨hSmall, -⟩)
    · exact hRefused hKnown
    · omega
  have hSum : (s.optlen + sockoptParamsSize) % 2 ^ 32 =
      s.optlen + sockoptParamsSize :=
    Nat.mod_eq_of_lt (by omega)
  by_cases hBig : socketPSize < s.optlen + sockoptParamsSize
  · refine iff_of_true ?_ (.inr ⟨by omega, .inl hBig⟩)
    unfold wsockGetsockopt
    rw [if_neg hRefused, fits_congr (run_bind_ok (run_get s)),
      if_pos (by omega)]
    exact fits_noBufs
  -- The driver is asked.
  have hRun := wsock_run env level
    hRefused (by omega) hRoom (by omega)
  rw [fits_moved hRun rfl rfl]
  cases hFails : vxdFails env.answer.code with
  | true =>
      have hNone : optionNeeds env .wsock level optname =
          none := by
        simp [optionNeeds, hFails]
      have hNotAsked : WsockHasRoom env optname s.optlen :=
        .inr ⟨by omega, .inr (.inl hFails)⟩
      refine iff_of_true ?_ hNotAsked
      rw [hNone]
      exact ⟨-1, _, rfl, Nat.le_refl _,
        fun _ hNeed _ => by cases hNeed⟩
  | false =>
      rw [hasRoom_iff hRefused (by omega) hFails]
      simp only [Bool.false_eq_true, if_false]
      cases hInt : env.answer.params.isInt with
      | true =>
          have hNeed : optionNeeds env .wsock level optname =
              some intSize := by
            simp [optionNeeds, hRefused, hFails, hInt]
          have hStores := answered_int_iff env optname
            (s := s.answered env) hInt hRoom
          rw [hNeed, hStores]
          simp [OptState.answered]
      | false =>
          have hNeed : optionNeeds env .wsock level optname =
              some env.answer.params.valueLength := by
            simp [optionNeeds, hRefused, hFails, hInt]
          have hCopies := answered_value_iff env optname
            (s := s.answered env) hInt hRoom hLength
            (by simp only [OptState.answered]; omega)
          rw [hNeed]
          exact hCopies.trans (by simp [OptState.answered])

end Wsock

------------------------------------------------------------
-- The Whole Call
------------------------------------------------------------

section Call

variable {env : OptionEnv} {lsd : LsckSocket}
variable {i : Interface} {level optname : Int}
variable {s : OptState}

/- WSOCK.VXD handles every option. -/
theorem getsockopt_wsock :
    getsockoptFrom env lsd .wsock level optname =
      wsockGetsockopt env level optname := by
  simp only [getsockoptFrom, interfaceGetsockopt,
    bind_assoc, pure_bind, bind_pure]

/- What the interface and the emulation make of a size. -/
theorem from_fits_iff
    (lsd : LsckSocket)
    (i : Interface)
    (level optname : Int)
    (hRoom : s.room = s.optlen)
    (hSize : s.optlen < 2 ^ 32)
    (hLength : env.answer.params.valueLength ≤ s.optlen) :
    Fits (optionNeeds env i level optname)
        (getsockoptFrom env lsd i level optname) s ↔
      (i = .wsock → WsockHasRoom env optname s.optlen) := by
  cases i with
  | wsock =>
      rw [getsockopt_wsock, wsock_fits_iff hRoom hSize hLength]
      exact ⟨fun h _ => h, fun h => h rfl⟩
  | csock =>
      exact iff_of_true (csock_fits env lsd hRoom)
        (fun h => by cases h)
  | unix =>
      exact iff_of_true (unix_fits env lsd hRoom)
        (fun h => by cases h)

theorem getsockopt_null
    {optlen : Option UInt32}
    {ret : Int}
    {t : OptState}
    (hRun : getsockoptFrom env lsd i level optname
      (s.passed s.optval temporarySize) = .ok (ret, t)) :
    getsockopt env lsd i level optname (.null optlen) s =
      .ok (⟨ret, t.errno, optlen.map (·.toNat)⟩, t) := by
  simp only [getsockopt, hRun]

theorem getsockopt_given
    {optval : Nat → UInt8}
    {optlen : UInt32}
    {out : OptOutcome}
    {t : OptState} :
    getsockopt env lsd i level optname
        (.given optval optlen) s = .ok (out, t) ↔
      ∃ ret, getsockoptFrom env lsd i level optname
          (s.passed optval optlen.toNat) = .ok (ret, t) ∧
        out = ⟨ret, t.errno, some t.optlen⟩ := by
  simp only [getsockopt]
  cases getsockoptFrom env lsd i level optname
      (s.passed optval optlen.toNat) with
  | error e => simp
  | ok next =>
      rcases next with ⟨ret, u⟩
      simp only [Except.ok.injEq, Prod.mk.injEq]
      constructor
      · rintro ⟨rfl, rfl⟩
        exact ⟨ret, ⟨rfl, rfl⟩, rfl⟩
      · rintro ⟨_, ⟨rfl, rfl⟩, rfl⟩
        exact ⟨rfl, rfl⟩

/- A temporary buffer has room for an integer. -/
theorem temporary_hasRoom :
    WsockHasRoom env optname temporarySize :=
  .inr ⟨by decide, .inr (.inr (.inl (by decide)))⟩

/-
  An option's value fits, unless WSOCK.VXD is asked for it
  with a length that wraps, or with less room than an
  integer where one is stored.
-/
theorem optionFits_iff
    (env : OptionEnv)
    (lsd : LsckSocket)
    (i : Interface)
    (level optname : Int)
    (pointers : OptPointers)
    (s : OptState)
    (hKeeps : env.KeepsLength pointers) :
    OptionFits env lsd i level optname pointers s ↔
      (i = .wsock → ∀ optval optlen,
        pointers = .given optval optlen →
          WsockHasRoom env optname optlen.toNat) := by
  cases pointers with
  | unsized =>
      refine iff_of_true ⟨_, _, rfl, ?_, ?_⟩ ?_
      · intro n hN
        cases hN
      · intro room need hRoom
        cases hRoom
      · intro _ optval optlen hGiven
        cases hGiven
  | null optlen =>
      have hTemporary := (from_fits_iff lsd i level optname
        (s := s.passed s.optval temporarySize) rfl
        (by decide : temporarySize < 2 ^ 32)
        (hKeeps _ rfl)).mpr fun _ => temporary_hasRoom
      rcases hTemporary with ⟨ret, t, hRun, -, hNeed⟩
      refine iff_of_true ⟨_, t, getsockopt_null hRun, ?_, ?_⟩ ?_
      · exact fun n hN => ⟨n, hN, Nat.le_refl n⟩
      · intro room need hRoom hNeeds hShort
        cases hRoom
        exact hNeed need hNeeds hShort
      · intro _ optval optlen hGiven
        cases hGiven
  | given optval optlen =>
      have hFrom := from_fits_iff lsd i level optname
        (s := s.passed optval optlen.toNat) rfl
        optlen.toNat_lt (hKeeps _ rfl)
      constructor
      · rintro ⟨out, t, hRun, hLen, hNeed⟩ hWsock optval'
          optlen' hGiven
        cases hGiven
        rcases getsockopt_given.mp hRun with ⟨ret, hRet, rfl⟩
        refine hFrom.mp ⟨ret, t, hRet, ?_, ?_⟩ hWsock
        · rcases hLen _ rfl with ⟨n', hN', hLe⟩
          cases hN'
          exact hLe
        · exact fun need => hNeed _ need rfl
      · intro hRoom
        rcases hFrom.mpr fun hWsock => hRoom hWsock _ _ rfl with
          ⟨ret, t, hRet, hLen, hNeed⟩
        refine ⟨_, t, getsockopt_given.mpr ⟨ret, hRet, rfl⟩, ?_,
          ?_⟩
        · intro n hN
          cases hN
          exact ⟨_, rfl, hLen⟩
        · intro room need hHas
          cases hHas
          exact hNeed need

end Call

/- WSOCK.VXD, which answers an option with the integer 1. -/
def OptionEnv.one : OptionEnv where
  socketP := 0
  wsock := ⟨0, 0⟩
  answer := ⟨0, ⟨0, 0, 0, 0, 0, 1⟩, []⟩
  number := fun _ => 0

/- Nothing is known before the call. -/
def OptState.blank : OptState where
  optval := fun _ => 0
  room := 0
  optlen := 0
  params := ⟨0, 0, 0, 0, 0, 0⟩
  behind := fun _ => 0
  errno := .zero

/- A boolean option, asked for with room for an integer. -/
theorem optionFits_int :
    OptionEnv.one.KeepsLength (.given (fun _ => 0) 4) ∧
      OptionFits .one .cleared .wsock solSocket soReuseaddr
        (.given (fun _ => 0) 4) .blank := by
  have hKeeps : OptionEnv.one.KeepsLength
      (.given (fun _ => 0) 4) := by
    intro room _
    exact Nat.zero_le room
  refine ⟨hKeeps, (optionFits_iff .one .cleared .wsock
    solSocket soReuseaddr _ .blank hKeeps).mpr ?_⟩
  intro _ optval optlen hGiven
  cases hGiven
  exact .inr ⟨by decide, .inr (.inr (.inl (by decide)))⟩

/-
  The same option, asked for with room for one byte and with
  a length that is the greatest of a `size_t`.
-/
theorem byte_overrun :
    ¬ OptionFits .one .cleared .wsock solSocket soReuseaddr
        (.given (fun _ => 0) 1) .blank ∧
      ¬ OptionFits .one .cleared .wsock solSocket soReuseaddr
        (.given (fun _ => 0) 0xffffffff) .blank := by
  constructor
  · rintro ⟨out, t, hRun, -⟩
    rcases getsockopt_given.mp hRun with ⟨ret, hOk, -⟩
    cases hOk
  · rintro ⟨out, t, hRun, -⟩
    rcases getsockopt_given.mp hRun with ⟨ret, hOk, -⟩
    have hKnown : ¬ WsockRefuses soReuseaddr := by decide
    have hOver := wsock_overruns .one solSocket
      (s := OptState.blank.passed (fun _ => 0)
        (0xffffffff : UInt32).toNat)
      hKnown rfl (by decide) (by decide)
    rw [getsockopt_wsock, hOver] at hOk
    cases hOk

end Libsocket
