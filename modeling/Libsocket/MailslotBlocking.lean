import Libsocket.Library.Retry
import Libsocket.MailslotTable.Run
import Libsocket.MailslotTransfer

/-
  The write and the read case of the mailslot extension,
  with the loops of a blocking descriptor. DOS answers one
  call after the other, from an endless sequence of answers;
  the loops run with a bound on the tries that they make.

  Main declarations:
    * `writeHandler`, `readHandler`
    * `OpenedFsext`, `opened_of_reachable`
    * `Reported`
    * `writeHandler_reported_iff`
    * `readHandler_reported_iff`
-/

namespace Libsocket

open Command

------------------------------------------------------------
-- The Two Cases
------------------------------------------------------------

/- Some answers, from a number on. -/
def callsFrom
    {α : Type}
    (answers : Nat → α)
    (p n : Nat) : List α :=
  (List.range' p n).map answers

/-
  The arguments `buf` and `len`; the caller has that many
  bytes.
-/
structure TransferArgs where
  buf : Option Bytes
  len : Int
  room : ∀ b, buf = some b → len ≤ b.length

/- What a case has returned and put into `errno`, if it did. -/
structure CaseResult where
  ret : Int
  errno : Option Errno
deriving DecidableEq, Repr

/- The DOS calls that a write of `len` bytes makes. -/
def writeCalls (len : Int) : Nat :=
  (len.toNat + mailslotSendsize - 1) / mailslotSendsize

/-
  The loop of the write case: at most `n` writes, the first
  with the answer number `p`. An index that leaves the range
  of `int` stops it.
-/
def writeBlocking
    (env : InitEnv)
    (answers : Nat → DosWrite)
    (name : Bytes)
    (args : TransferArgs) :
    Nat → Nat → MailCommand (Option CaseResult)
| 0, _ => return none
| n + 1, p => do
    let result ← mailslotWrite env
      (callsFrom answers p (writeCalls args.len)) (some name)
      args.buf args.len
    match result with
    | none => stop .overrun
    | some r =>
        if r.ret ≤ 0 then
          writeBlocking env answers name args n
            (p + writeCalls args.len)
        else
          return some ⟨r.ret, r.errno⟩

/-
  The write case of `__mailslot_handler` on a descriptor;
  none while it is still at it.
-/
def writeHandler
    (env : InitEnv)
    (answers : Nat → DosWrite)
    (fd : Fd)
    (args : TransferArgs)
    (n : Nat) : MailCommand (Option CaseResult) := do
  let s ← get
  match s.descriptors fd with
  | none => stop .notOurs
  | some none => return some ⟨-1, some .EBADF⟩
  | some (some me) =>
      match me.name with
      | none => return some ⟨-1, some .EPERM⟩
      | some name =>
          if args.buf = none ∨ args.len ≤ 0 then
            return some ⟨-1, some .EINVAL⟩
          else if me.blocking then
            writeBlocking env answers name args n 0
          else do
            let result ← mailslotWrite env
              (callsFrom answers 0 (writeCalls args.len))
              (some name) args.buf args.len
            match result with
            | none => stop .overrun
            | some r => return some ⟨r.ret, r.errno⟩

/- `__mailslot_peek`, which makes one call. -/
def mailslotPeek
    (env : InitEnv)
    (a : DosRead)
    (hMailslot : Option Nat)
    (msg : Option Bytes)
    (len : Int) : MailCommand ReadResult := do
  let ready ← mailslotInit env
  if ready = false then
    return ⟨some (-1), none, [], []⟩
  else if len < 0 ∨ hMailslot = none ∨ msg = none then
    return ⟨some (-1), some .EINVAL, [], []⟩
  else if len = 0 then
    return ⟨some 0, none, [], []⟩
  else
    match a with
    | .error e => return ⟨some (-1), some e, [], []⟩
    | .ok m => return ⟨some m.data.length, none, m.data, []⟩

/-
  One read or peek with at most `n` answers, the first of
  them number `p`, and the number of those that it used.
-/
def readOnce
    (env : InitEnv)
    (answers : Nat → DosRead)
    (me : FsextEntry)
    (args : TransferArgs)
    (n p : Nat) : MailCommand (ReadResult × Nat) := do
  if me.peeking then do
    let r ← mailslotPeek env (answers p) me.handle args.buf
      args.len
    return (r, 1)
  else do
    let calls := callsFrom answers p n
    let r ← mailslotRead env calls me.handle args.buf args.len
    return (r, (answersUsed calls).length)

/- The loop of the read case. -/
def readBlocking
    (env : InitEnv)
    (answers : Nat → DosRead)
    (me : FsextEntry)
    (args : TransferArgs) :
    Nat → Nat → MailCommand (Option CaseResult)
| 0, _ => return none
| n + 1, p => do
    let tried ← readOnce env answers me args (n + 1) p
    match tried.1.ret with
    | none => return none
    | some ret =>
        if ret ≤ 0 then
          readBlocking env answers me args n (p + tried.2)
        else
          return some ⟨ret, tried.1.errno⟩

/- The read case of `__mailslot_handler`. -/
def readHandler
    (env : InitEnv)
    (answers : Nat → DosRead)
    (fd : Fd)
    (args : TransferArgs)
    (n : Nat) : MailCommand (Option CaseResult) := do
  let s ← get
  match s.descriptors fd with
  | none => stop .notOurs
  | some none => return some ⟨-1, some .EBADF⟩
  | some (some me) =>
      if me.handle = none then
        return some ⟨-1, some .EPERM⟩
      else if args.buf = none ∨ args.len ≤ 0 then
        return some ⟨-1, some .EINVAL⟩
      else if me.blocking then
        readBlocking env answers me args n 0
      else do
        let tried ← readOnce env answers me args n 0
        return tried.1.ret.map fun ret =>
          ⟨ret, tried.1.errno⟩

------------------------------------------------------------
-- Descriptors
------------------------------------------------------------

/-
  A descriptor that the extension has opened: the library is
  in use, and the name is one that was built in `newname`.
-/
structure OpenedFsext
    (s : MailTables)
    (fd : Fd)
    (me : FsextEntry) : Prop where
  data : s.descriptors fd = some (some me)
  inited : s.inited = true
  name : ∀ name, me.name = some name → name.length < maxPath

/- The names of the descriptors fit. -/
def NamesFit (s : MailTables) : Prop :=
  ∀ fd me, s.descriptors fd = some (some me) →
    ∀ name, me.name = some name → name.length < maxPath

theorem NamesFit.of_descriptors
    {s s' : MailTables}
    (hNames : NamesFit s)
    (hSame : s'.descriptors = s.descriptors) :
    NamesFit s' := by
  unfold NamesFit
  rw [hSame]
  exact hNames

theorem NamesFit.addDescriptor
    {env : HandlerEnv}
    {msd : Nat}
    {handle : Option Nat}
    {name : Option Bytes}
    {r : MailAnswer Fd}
    {s s' : MailTables}
    (hNames : NamesFit s)
    (hFits : ∀ x, name = some x → x.length < maxPath)
    (hRun : addDescriptor env msd handle name s =
      .ok (r, s')) :
    NamesFit s' := by
  unfold Libsocket.addDescriptor at hRun
  cases hNumber : env.number with
  | none =>
      rw [hNumber] at hRun
      cases hRun
      exact hNames
  | some fd =>
      rw [hNumber] at hRun
      dsimp only at hRun
      rw [run_bind_ok (run_get s)] at hRun
      split at hRun
      · cases hRun
      split at hRun
      · cases hRun
        intro n me hData
        dsimp only at hData
        by_cases hNew : n = fd
        · subst hNew
          rw [Function.update_self] at hData
          cases hData
          exact hFits
        · rw [Function.update_of_ne hNew] at hData
          exact hNames n me hData
      · cases hRun
        exact hNames

theorem NamesFit.openForWriting
    {env : HandlerEnv}
    {p : Bytes}
    {r : MailAnswer Fd}
    {s s' : MailTables}
    (hNames : NamesFit s)
    (hRun : openForWriting env p s = .ok (r, s')) :
    NamesFit s' := by
  unfold Libsocket.openForWriting at hRun
  rw [run_bind_ok (run_get s)] at hRun
  cases hFree : Slots.firstFree s.fsext with
  | none =>
      rw [hFree] at hRun
      cases hRun
      exact hNames
  | some i =>
      rw [hFree] at hRun
      dsimp only at hRun
      split at hRun
      next hShort =>
          apply hNames.addDescriptor _ hRun
          intro x hX
          split at hX
          · cases hX
            exact hShort
          · cases hX
      next => cases hRun

theorem NamesFit.openForReading
    {env : HandlerEnv}
    {p : Bytes}
    {r : MailAnswer Fd}
    {s s' : MailTables}
    (hSound : SlotsSound s)
    (hNames : NamesFit s)
    (hRun : openForReading env p s = .ok (r, s')) :
    NamesFit s' := by
  unfold Libsocket.openForReading at hRun
  cases hName : afterPrefix mailslotLocal p with
  | none =>
      rw [hName] at hRun
      cases hRun
      exact hNames
  | some rest =>
      rw [hName] at hRun
      dsimp only at hRun
      split at hRun
      · rcases bind_eq_ok.mp hRun with
          ⟨created, s₁, hCreate, hRest⟩
        have hSame := (mailslotCreate_sound hSound hCreate).2
        have hNames₁ := hNames.of_descriptors hSame.descriptors
        cases created with
        | error e =>
            cases hRest
            exact hNames₁
        | ok h =>
            dsimp only at hRest
            rw [run_bind_ok (run_get s₁)] at hRest
            cases hFree : Slots.firstFree s₁.fsext with
            | none =>
                rw [hFree] at hRest
                cases hRest
                exact hNames₁
            | some i =>
                rw [hFree] at hRest
                exact hNames₁.addDescriptor
                  (fun x hX => by cases hX) hRest
      · cases hRun

theorem NamesFit.installHandler
    {env : InitEnv}
    {ok : Bool}
    {s s' : MailTables}
    (hSound : SlotsSound s)
    (hNames : NamesFit s)
    (hRun : installHandler env s = .ok (ok, s')) :
    NamesFit s' := by
  unfold Libsocket.installHandler at hRun
  rw [run_bind_ok (run_get s)] at hRun
  split at hRun
  · cases hRun
    exact hNames
  rcases bind_eq_ok.mp hRun with ⟨ready, t, hInit, hRest⟩
  have hSame := (initialised_ok hSound hInit).1.sameFsext
  have hNames₁ := hNames.of_descriptors hSame.descriptors
  split at hRest
  · cases hRest
    exact hNames₁
  · cases hRest
    exact hNames₁.of_descriptors rfl

/- What one call makes of the names. -/
theorem NamesFit.exec
    {call : MailCall}
    {ok : Bool}
    {s s' : MailTables}
    (hSound : Sound s)
    (hNames : NamesFit s)
    (hRun : call.exec s = .ok (ok, s')) :
    NamesFit s' := by
  cases call with
  | install env => exact hNames.installHandler hSound.1 hRun
  | create env name len =>
      rcases bind_eq_ok.mp hRun with
        ⟨r, t, hCreate, hReturn⟩
      cases hReturn
      exact hNames.of_descriptors
        (mailslotCreate_sound hSound.1 hCreate).2.descriptors
  | destroy env handle =>
      rcases bind_eq_ok.mp hRun with
        ⟨r, t, hDestroy, hReturn⟩
      cases hReturn
      have hDestroys := mailslotDestroy_ok hSound.1 hDestroy
      exact hNames.of_descriptors
        (hDestroys.sound hSound.1).2.descriptors
  | openFile env file mode =>
      rcases bind_eq_ok.mp hRun with ⟨r, t, hOpen, hReturn⟩
      cases hReturn
      rcases (openHandler_ok hOpen).2 with
        ⟨-, rfl, -⟩ | ⟨p, r, -, -, -, ⟨-, hWrite⟩ | ⟨-, hRead⟩⟩
      · exact hNames
      · exact hNames.openForWriting hWrite
      · exact hNames.openForReading hSound.1 hRead
  | close env fd =>
      rcases bind_eq_ok.mp hRun with ⟨r, t, hClose, hReturn⟩
      cases hReturn
      rcases closeHandler_ok hSound.1 hSound.2 hClose with
        ⟨-, i, me, u, rfl, -, -, -, hReleases, rfl⟩
      have hSame := (hReleases.sound hSound.1).2.descriptors
      intro n me' hData
      dsimp only [MailTables.clearFsext] at hData
      rw [hSame] at hData
      dsimp only [MailTables.release] at hData
      by_cases hGone : n = me.fd
      · rw [hGone, Function.update_self] at hData
        cases hData
      · rw [Function.update_of_ne hGone] at hData
        exact hNames n me' hData

/- What the calls of a process have opened is so. -/
theorem opened_of_reachable
    {s : MailTables}
    {fd : Fd}
    {me : FsextEntry}
    (hReach : mailSystem.Reachable s)
    (hData : s.descriptors fd = some (some me)) :
    OpenedFsext s fd me := by
  have hSound := sound_of_reachable hReach
  have hNames : NamesFit s := by
    refine hReach.invariant_of
      (fun _ hPrior => sound_of_reachable hPrior) ?_ ?_
    · intro t hInit n me' hNone
      rw [hInit] at hNone
      cases hNone
    · rintro t call t' hTables hFit - ⟨r, hRun⟩
      exact hFit.exec hTables hRun
  refine ⟨hData, hSound.2.inited ?_, hNames fd me hData⟩
  rcases hSound.2.data fd _ hData with ⟨me', -, -, hMem⟩
  cases hInstalled : s.fsextInited with
  | true => rfl
  | false =>
      have hNone := hSound.2.idle hInstalled
      unfold MailTables.fsextEntries at hMem
      rw [hNone, Slots.entries_replicate] at hMem
      cases hMem

/-
  The case comes to an end, with some bytes or with an error
  that it has said.
-/
def Reported
    (handler : Nat → MailCommand (Option CaseResult))
    (s : MailTables) : Prop :=
  ∃ n r s', handler n s = .ok (some r, s') ∧
    (0 < r.ret ∨ r.ret = -1 ∧ r.errno.isSome = true)

/- A case that comes down to tries without a change. -/
theorem reported_of_retry
    {handler : Nat → MailCommand (Option CaseResult)}
    {s : MailTables}
    {attempt : Nat → Nat → Retry.Attempt CaseResult}
    {start mark : Nat → Prop}
    (hRun : ∀ n, handler n s = .ok (Retry.run attempt n 0, s))
    (hPos : ∀ n p r, attempt n p = .done r → 0 < r.ret)
    (hMarked : Retry.Marked attempt start mark)
    (hStart : start 0) :
    Reported handler s ↔ ∃ j, mark j := by
  have hEnds := hMarked.ends_iff hStart
  constructor
  · rintro ⟨n, r, s', hOk, -⟩
    rw [hRun] at hOk
    cases hTried : Retry.run attempt n 0 with
    | none =>
        rw [hTried] at hOk
        cases hOk
    | some r' =>
        rcases hEnds.mp ⟨n, r', hTried⟩ with ⟨j, -, hMark⟩
        exact ⟨j, hMark⟩
  · rintro ⟨j, hMark⟩
    rcases hEnds.mpr ⟨j, Nat.zero_le j, hMark⟩ with
      ⟨n, r, hTried⟩
    refine ⟨n, r, s, ?_,
      .inl (Retry.result_of_run hPos hTried)⟩
    rw [hRun, hTried]

theorem callsFrom_succ
    {α : Type}
    (answers : Nat → α)
    (p n : Nat) :
    callsFrom answers p (n + 1) =
      answers p :: callsFrom answers (p + 1) n := by
  unfold callsFrom
  rw [List.range'_succ, List.map_cons]

@[simp] theorem length_callsFrom
    {α : Type}
    (answers : Nat → α)
    (p n : Nat) :
    (callsFrom answers p n).length = n := by
  simp [callsFrom]

theorem mem_callsFrom
    {α : Type}
    {answers : Nat → α}
    {p n : Nat}
    {a : α} :
    a ∈ callsFrom answers p n ↔
      ∃ j, p ≤ j ∧ j < p + n ∧ answers j = a := by
  unfold callsFrom
  simp only [List.mem_map, List.mem_range'_1, and_assoc]

------------------------------------------------------------
-- Writing
------------------------------------------------------------

/-
  The answers are as many as there are chunks from an index
  on: they are enough, and the last one is needed.
-/
structure OneEach
    (maxlen len i k : Nat) : Prop where
  enough : len ≤ i + k * maxlen
  needed : ∀ m, k = m + 1 → i + m * maxlen < len

theorem OneEach.tail
    {maxlen len i k : Nat}
    (hEach : OneEach maxlen len i (k + 1)) :
    OneEach maxlen len (i + maxlen) k := by
  have hEnough := hEach.enough
  have hNeeded := hEach.needed k rfl
  rw [Nat.succ_mul] at hEnough
  constructor
  · omega
  · rintro m rfl
    rw [Nat.succ_mul] at hNeeded
    omega

theorem oneEach_writeCalls
    {len : Int}
    (hSome : 0 < len) :
    OneEach mailslotSendsize len.toNat 0 (writeCalls len) := by
  unfold writeCalls mailslotSendsize
  constructor
  · omega
  · intro m hM
    omega

/- The loop over the chunks, with an answer for each. -/
theorem writeLoop_total
    {maxlen i : Nat}
    (msg : Bytes)
    (answers : List DosWrite)
    (w : Written)
    (hChunk : 0 < maxlen)
    (hEach : OneEach maxlen msg.length i answers.length)
    (hInt : i + answers.length * maxlen < 2147483648) :
    ∃ w', writeLoop maxlen msg answers i w = some w' ∧
      (0 < w'.total ↔
        0 < w.total ∨ ∃ a ∈ answers, a.isOk = true) := by
  induction answers generalizing i w with
  | nil =>
      have hEnough := hEach.enough
      rw [List.length_nil, Nat.zero_mul] at hEnough
      refine ⟨w, ?_, by simp⟩
      unfold writeLoop
      rw [if_neg (by omega)]
  | cons a as ih =>
      rw [List.length_cons] at hEach hInt
      have hNeeded := hEach.needed _ rfl
      have hInside : i < msg.length := by omega
      rw [Nat.succ_mul] at hInt
      rcases ih (w.answer (chunkAt maxlen msg i) a)
        hEach.tail (by omega) with ⟨w', hRun, hTotal⟩
      refine ⟨w', ?_, ?_⟩
      · unfold writeLoop
        rw [if_pos hInside, if_pos (by omega)]
        exact hRun
      · rw [hTotal]
        cases a with
        | ok _ =>
            have hLength :
                0 < (chunkAt maxlen msg i).data.length := by
              simp only [chunkAt, List.length_take,
                List.length_drop]
              omega
            have hGrows : 0 < (w.answer
                (chunkAt maxlen msg i) (.ok ())).total := by
              simp only [Written.answer]
              omega
            simp [hGrows, Except.isOk, Except.toBool]
        | error e =>
            rw [(w.answer_error _ e).2]
            simp [Except.isOk, Except.toBool]

/- An index that leaves the range of `int`. -/
theorem writeLoop_overflow
    {maxlen i : Nat}
    (msg : Bytes)
    (answers : List DosWrite)
    (w : Written)
    (hEach : OneEach maxlen msg.length i answers.length)
    (hSome : answers ≠ [])
    (hInt : 2147483648 ≤ i + answers.length * maxlen) :
    writeLoop maxlen msg answers i w = none := by
  induction answers generalizing i w with
  | nil => exact absurd rfl hSome
  | cons a as ih =>
      rw [List.length_cons] at hEach hInt
      have hNeeded := hEach.needed _ rfl
      rw [Nat.succ_mul] at hInt
      unfold writeLoop
      rw [if_pos (by omega)]
      split
      next hSmall =>
          apply ih _ hEach.tail
          · rintro rfl
            simp at hInt
            omega
          · omega
      next => rfl

section Writing

variable {env : InitEnv} {answers : Nat → DosWrite}
variable {name : Bytes} {args : TransferArgs} {msg : Bytes}
variable {s : MailTables}

/- The index of the loop over the chunks stays an `int`. -/
def IndexFits (len : Int) : Prop :=
  writeCalls len * mailslotSendsize < 2147483648

instance (len : Int) : Decidable (IndexFits len) := by
  unfold IndexFits
  infer_instance

/- One write that gets to its loop. -/
theorem mailslotWrite_run
    (calls : List DosWrite)
    (hInited : s.inited = true)
    (hName : name.length < maxPath)
    (hBuf : args.buf = some msg)
    (hLen : 0 < args.len) :
    mailslotWrite env calls (some name) args.buf args.len s =
      .ok ((writeLoop mailslotSendsize
        (msg.take args.len.toNat) calls 0 ⟨0, none, []⟩).map
          fun w => ⟨if w.total = 0 then -1 else w.total,
            w.errno, w.delivered⟩, s) := by
  have hRoom := args.room msg hBuf
  unfold mailslotWrite
  rw [run_bind_ok (mailslotInit_run hInited env), hBuf]
  simp only [Bool.true_eq_false, if_false]
  rw [if_neg (by omega), if_neg (by omega), if_neg (by omega),
    chunkLength_eq hName, Int.toNat_natCast]
  rfl

/- One try of the loop of the write case. -/
def writeAttempt
    (answers : Nat → DosWrite)
    (msg : Bytes)
    (k : Nat)
    (_ p : Nat) : Retry.Attempt CaseResult :=
  match writeLoop mailslotSendsize msg
      (callsFrom answers p k) 0 ⟨0, none, []⟩ with
  | none => .pending
  | some w =>
      if w.total = 0 then .again (p + k)
      else .done ⟨w.total, w.errno⟩

theorem writeBlocking_run
    (hInited : s.inited = true)
    (hName : name.length < maxPath)
    (hBuf : args.buf = some msg)
    (hLen : 0 < args.len)
    (hIndex : IndexFits args.len)
    (n p : Nat) :
    writeBlocking env answers name args n p s =
      .ok (Retry.run (writeAttempt answers
        (msg.take args.len.toNat) (writeCalls args.len)) n p,
        s) := by
  have hRoom := args.room msg hBuf
  induction n generalizing p with
  | zero => rfl
  | succ n ih =>
      have hLength : (msg.take args.len.toNat).length =
          args.len.toNat := by
        rw [List.length_take]
        omega
      have hEach := oneEach_writeCalls hLen
      unfold IndexFits at hIndex
      rcases writeLoop_total (msg.take args.len.toNat)
        (callsFrom answers p (writeCalls args.len))
        ⟨0, none, []⟩ (by decide : 0 < mailslotSendsize)
        (by rw [hLength, length_callsFrom]; exact hEach)
        (by rw [length_callsFrom]; omega) with ⟨w, hLoop, -⟩
      unfold writeBlocking Retry.run writeAttempt
      rw [run_bind_ok (mailslotWrite_run _ hInited hName hBuf
        hLen), hLoop]
      by_cases hNone : w.total = 0
      · simp only [Option.map_some, hNone, if_true]
        exact ih _
      · simp only [Option.map_some, hNone, if_false]
        rw [if_neg (by omega)]
        rfl

/- A write of that many bytes does not come to an end. -/
theorem writeBlocking_overflow
    {r : CaseResult}
    {s' : MailTables}
    {n p : Nat}
    (hInited : s.inited = true)
    (hName : name.length < maxPath)
    (hBuf : args.buf = some msg)
    (hLen : 0 < args.len)
    (hIndex : ¬ IndexFits args.len) :
    writeBlocking env answers name args n p s ≠
      .ok (some r, s') := by
  have hRoom := args.room msg hBuf
  have hLength : (msg.take args.len.toNat).length =
      args.len.toNat := by
    rw [List.length_take]
    omega
  have hEach := oneEach_writeCalls hLen
  have hCalls : 0 < writeCalls args.len := by
    unfold writeCalls mailslotSendsize
    omega
  intro hRun
  cases n with
  | zero => cases hRun
  | succ n =>
      have hOver := writeLoop_overflow
        (msg.take args.len.toNat)
        (callsFrom answers p (writeCalls args.len))
        ⟨0, none, []⟩
        (by rw [hLength, length_callsFrom]; exact hEach)
        (by
          rw [← List.length_pos_iff_ne_nil, length_callsFrom]
          exact hCalls)
        (by
          unfold IndexFits at hIndex
          rw [length_callsFrom]
          omega)
      unfold writeBlocking at hRun
      rw [run_bind_ok (mailslotWrite_run _ hInited hName hBuf
        hLen), hOver] at hRun
      cases hRun

/- A try succeeds if and only if one of its calls does. -/
theorem inBlocks_write
    {k : Nat}
    (hEach : OneEach mailslotSendsize msg.length 0 k)
    (hInt : k * mailslotSendsize < 2147483648) :
    Retry.InBlocks (writeAttempt answers msg k) k
      (fun r => 0 < r.ret)
      (fun j => (answers j).isOk = true) := by
  intro n p
  rcases writeLoop_total msg (callsFrom answers p k)
    ⟨0, none, []⟩ (by decide : 0 < mailslotSendsize)
    (by rw [length_callsFrom]; exact hEach)
    (by rw [length_callsFrom]; omega) with ⟨w, hLoop, hTotal⟩
  unfold writeAttempt
  rw [hLoop]
  dsimp only
  by_cases hNone : w.total = 0
  · rw [if_pos hNone]
    refine .inr ⟨rfl, ?_⟩
    intro j hLow hHigh hOk
    have hSent := hTotal.mpr (.inr ⟨answers j,
      mem_callsFrom.mpr ⟨j, hLow, hHigh, rfl⟩, hOk⟩)
    omega
  · rcases hTotal.mp (Nat.pos_of_ne_zero hNone) with
      hZero | ⟨a, hMem, hOk⟩
    · exact absurd hZero (Nat.lt_irrefl 0)
    rcases mem_callsFrom.mp hMem with ⟨j, hLow, hHigh, rfl⟩
    rw [if_neg hNone]
    exact .inl ⟨_, j, rfl,
      Int.natCast_pos.mpr (Nat.pos_of_ne_zero hNone), hLow,
      hHigh, hOk⟩

/- The write is refused at once. -/
def WriteRefused (me : FsextEntry) (args : TransferArgs) :
    Prop :=
  me.name = none ∨ args.buf = none ∨ args.len ≤ 0

theorem writeHandler_reported_iff
    {fd : Fd}
    {me : FsextEntry}
    (hOpened : OpenedFsext s fd me)
    (hBlocking : me.blocking = true) :
    Reported (writeHandler env answers fd args) s ↔
      WriteRefused me args ∨
        IndexFits args.len ∧
          ∃ j, (answers j).isOk = true := by
  unfold WriteRefused
  cases hName : me.name with
  | none =>
      refine iff_of_true ⟨0, ⟨-1, some .EPERM⟩, s, ?_,
        .inr ⟨rfl, rfl⟩⟩ (.inl (.inl rfl))
      unfold writeHandler
      rw [run_bind_ok (run_get s), hOpened.data]
      dsimp only
      rw [hName]
      rfl
  | some name =>
      have hEntry : ∀ n, writeHandler env answers fd args n s =
          (if args.buf = none ∨ args.len ≤ 0 then
            return some ⟨-1, some .EINVAL⟩
          else
            writeBlocking env answers name args n 0) s := by
        intro n
        unfold writeHandler
        rw [run_bind_ok (run_get s), hOpened.data]
        dsimp only
        rw [hName]
        simp only [hBlocking, if_true]
      unfold Reported
      simp only [hEntry]
      by_cases hBad : args.buf = none ∨ args.len ≤ 0
      · simp only [if_pos hBad]
        exact iff_of_true ⟨0, ⟨-1, some .EINVAL⟩, s, rfl,
          .inr ⟨rfl, rfl⟩⟩ (.inl (.inr hBad))
      simp only [if_neg hBad]
      rw [not_or, not_le] at hBad
      rcases hBad with ⟨hBuf, hLen⟩
      rcases Option.ne_none_iff_exists'.mp hBuf with ⟨msg, hMsg⟩
      have hShort := hOpened.name name hName
      have hRefused : ¬ (some name = none ∨ args.buf = none ∨
          args.len ≤ 0) := by
        rintro (hNone | hNone | hNo)
        · cases hNone
        · exact hBuf hNone
        · omega
      rw [or_iff_right hRefused]
      have hRoom := args.room msg hMsg
      have hLength : (msg.take args.len.toNat).length =
          args.len.toNat := by
        rw [List.length_take]
        omega
      have hEach := oneEach_writeCalls hLen
      have hCalls : 0 < writeCalls args.len := by
        unfold writeCalls mailslotSendsize
        omega
      by_cases hIndex : IndexFits args.len
      · rw [and_iff_right hIndex]
        rw [← hLength] at hEach
        have hBlocks := @inBlocks_write answers _ _ hEach hIndex
        exact reported_of_retry
          (writeBlocking_run hOpened.inited hShort hMsg hLen
            hIndex · 0)
          hBlocks.result_of_done (hBlocks.marked hCalls) trivial
      · refine iff_of_false ?_ (fun h => hIndex h.1)
        rintro ⟨n, r, s', hOk, -⟩
        exact writeBlocking_overflow hOpened.inited hShort hMsg
          hLen hIndex hOk

end Writing

------------------------------------------------------------
-- Reading
------------------------------------------------------------

/-
  The answer `j` completes a read: it brings some bytes and
  says that there are no more, or it is empty and the one
  before it brought some.
-/
def Completes (answers : Nat → DosRead) (j : Nat) : Prop :=
  ∃ m, answers j = .ok m ∧
    (m.data ≠ [] ∧ m.next = 0 ∨
      m.data = [] ∧ ∃ i, i + 1 = j ∧ goesOn (answers i) = true)

/- No read is going on where the answer `p` comes. -/
def ReadStart (answers : Nat → DosRead) (p : Nat) : Prop :=
  ∀ i, i + 1 = p → goesOn (answers i) = false

section Reading

variable {answers : Nat → DosRead}

theorem Completes.not_goesOn
    {j : Nat}
    (hMark : Completes answers j) :
    goesOn (answers j) = false := by
  rcases hMark with ⟨m, hM, ⟨-, hNext⟩ | ⟨hNone, -⟩⟩
  · simp [hM, goesOn, hNext]
  · simp [hM, goesOn, hNone]

/- A read that returns some bytes has been completed. -/
theorem completes_of_readLoop
    {n p : Nat}
    {stored : Bytes}
    {taken : List Bytes}
    {ret : Int}
    (hStored : stored ≠ [] →
      ∃ i, i + 1 = p ∧ goesOn (answers i) = true)
    (hRun : (readLoop (callsFrom answers p n) stored
      taken).ret = some ret)
    (hPos : 0 < ret) :
    ∃ j, p ≤ j ∧ Completes answers j := by
  induction n generalizing p stored taken with
  | zero => cases hRun
  | succ n ih =>
      rw [callsFrom_succ] at hRun
      cases hA : answers p with
      | error e =>
          rw [hA] at hRun
          cases hRun
          omega
      | ok m =>
          rw [hA] at hRun
          unfold readLoop at hRun
          by_cases hLast : m.data = [] ∨ m.next = 0
          · rw [if_pos hLast] at hRun
            refine ⟨p, Nat.le_refl p, m, hA, ?_⟩
            by_cases hNone : m.data = []
            · refine .inr ⟨hNone, hStored ?_⟩
              rintro rfl
              rw [hNone] at hRun
              cases hRun
              exact absurd hPos (Int.lt_irrefl 0)
            · exact .inl ⟨hNone, hLast.resolve_left hNone⟩
          · rw [if_neg hLast] at hRun
            have hOn : goesOn (answers p) = true := by
              rw [hA]
              exact (goesOn_ok m).mpr hLast
            rcases ih (fun _ => ⟨p, rfl, hOn⟩) hRun with
              ⟨j, hLow, hMark⟩
            exact ⟨j, by omega, hMark⟩

/-
  A read that a completing answer is ahead of comes to an
  end with it or in front of it.
-/
theorem readLoop_of_completes
    {n p j : Nat}
    (stored : Bytes)
    (taken : List Bytes)
    (hStart : stored = [] → ReadStart answers p)
    (hMark : Completes answers j)
    (hLow : p ≤ j)
    (hReach : j < p + n) :
    ∃ ret, (readLoop (callsFrom answers p n) stored
        taken).ret = some ret ∧
      (0 < ret ∨
        p + (answersUsed (callsFrom answers p n)).length ≤ j) :=
  by
  induction n generalizing p stored taken with
  | zero => omega
  | succ n ih =>
      rw [callsFrom_succ]
      have hStops := hMark.not_goesOn
      cases hA : answers p with
      | error e =>
          have hNe : j ≠ p := by
            rintro rfl
            rcases hMark with ⟨m, hM, -⟩
            rw [hA] at hM
            cases hM
          refine ⟨-1, rfl, .inr ?_⟩
          simp only [answersUsed, goesOn, Bool.false_eq_true,
            if_false, List.length_singleton]
          omega
      | ok m =>
          unfold readLoop answersUsed
          by_cases hLast : m.data = [] ∨ m.next = 0
          · have hOff : ¬ goesOn (.ok m) = true :=
              mt (goesOn_ok m).mp (not_not.mpr hLast)
            rw [if_pos hLast, if_neg hOff]
            refine ⟨_, rfl, ?_⟩
            by_cases hHere : j = p
            · subst hHere
              rcases hMark with ⟨m', hM, hHow⟩
              rw [hA] at hM
              cases hM
              left
              rw [Int.natCast_pos, List.length_pos_iff_ne_nil]
              intro hEmpty
              rcases List.append_eq_nil_iff.mp hEmpty with
                ⟨hNothing, hData⟩
              rcases hHow with ⟨hSome, -⟩ | ⟨-, i, hI, hOn⟩
              · exact hSome hData
              · rw [hStart hNothing i hI] at hOn
                cases hOn
            · right
              rw [List.length_singleton]
              omega
          · have hOn : goesOn (.ok m) = true :=
              (goesOn_ok m).mpr hLast
            have hNe : j ≠ p := by
              rintro rfl
              rw [hA, hOn] at hStops
              cases hStops
            rw [if_neg hLast, if_pos hOn]
            have hData : stored ++ m.data ≠ [] := by
              intro hEmpty
              exact hLast (.inl
                (List.append_eq_nil_iff.mp hEmpty).2)
            rcases @ih (p + 1) (stored ++ m.data)
              (taken ++ [m.data])
              (fun hNone => absurd hNone hData) (by omega)
              (by omega) with ⟨ret, hRet, hEnd⟩
            refine ⟨ret, hRet, hEnd.imp_right ?_⟩
            intro hUsed
            rw [List.length_cons]
            omega

/- Behind a read that came to an end the next one starts. -/
theorem readStart_behind
    {n p : Nat}
    {stored : Bytes}
    {taken : List Bytes}
    {ret : Int}
    (hRun : (readLoop (callsFrom answers p n) stored
      taken).ret = some ret) :
    ∃ k, (answersUsed (callsFrom answers p n)).length = k + 1 ∧
      goesOn (answers (p + k)) = false := by
  induction n generalizing p stored taken with
  | zero => cases hRun
  | succ n ih =>
      rw [callsFrom_succ] at hRun ⊢
      by_cases hOn : goesOn (answers p) = true
      · cases hA : answers p with
        | error e =>
            rw [hA] at hOn
            cases hOn
        | ok m =>
            rw [hA] at hRun hOn
            unfold readLoop at hRun
            rw [if_neg ((goesOn_ok m).mp hOn)] at hRun
            rcases ih hRun with ⟨k, hUsed, hOff⟩
            refine ⟨k + 1, ?_, ?_⟩
            · unfold answersUsed
              rw [if_pos hOn, List.length_cons, hUsed]
            · rw [← hOff, Nat.add_right_comm, Nat.add_assoc]
      · refine ⟨0, ?_, ?_⟩
        · unfold answersUsed
          rw [if_neg hOn]
          rfl
        · simpa using hOn

/- One try of the loop of the read case. -/
def readAttempt
    (answers : Nat → DosRead)
    (n p : Nat) : Retry.Attempt CaseResult :=
  let calls := callsFrom answers p n
  match (readLoop calls [] []).ret with
  | none => .pending
  | some ret =>
      if ret ≤ 0 then
        .again (p + (answersUsed calls).length)
      else
        .done ⟨ret, (readLoop calls [] []).errno⟩

theorem readAttempt_eq
    {n p : Nat}
    {ret : Int}
    (hRet : (readLoop (callsFrom answers p n) [] []).ret =
      some ret) :
    readAttempt answers n p =
      if ret ≤ 0 then
        .again (p +
          (answersUsed (callsFrom answers p n)).length)
      else
        .done ⟨ret,
          (readLoop (callsFrom answers p n) [] []).errno⟩ := by
  unfold readAttempt
  dsimp only
  rw [hRet]

/- A try that came to an end is a read that did. -/
theorem ret_of_readAttempt
    {n p : Nat}
    (hEnds : readAttempt answers n p ≠ .pending) :
    ∃ ret, (readLoop (callsFrom answers p n) [] []).ret =
      some ret := by
  cases hRet : (readLoop (callsFrom answers p n) [] []).ret with
  | none =>
      unfold readAttempt at hEnds
      dsimp only at hEnds
      rw [hRet] at hEnds
      exact absurd rfl hEnds
  | some ret => exact ⟨ret, rfl⟩

theorem readAttempt_pos
    (n p : Nat)
    (r : CaseResult)
    (hDone : readAttempt answers n p = .done r) :
    0 < r.ret := by
  rcases ret_of_readAttempt (by rw [hDone]; simp) with
    ⟨ret, hRet⟩
  rw [readAttempt_eq hRet] at hDone
  split at hDone
  · cases hDone
  next hPos =>
      cases hDone
      exact not_le.mp hPos

theorem marked_read :
    Retry.Marked (readAttempt answers) (ReadStart answers)
      (Completes answers) := by
  constructor
  · intro n p r hDone
    rcases ret_of_readAttempt (by rw [hDone]; simp) with
      ⟨ret, hRet⟩
    rw [readAttempt_eq hRet] at hDone
    split at hDone
    · cases hDone
    next hPos =>
        exact completes_of_readLoop
          (fun hSome => absurd rfl hSome) hRet (by omega)
  · intro n p j hStart hMark hLow hReach hPending
    rcases readLoop_of_completes [] [] (fun _ => hStart) hMark
      hLow hReach with ⟨ret, hRet, -⟩
    rw [readAttempt_eq hRet] at hPending
    split at hPending
    · cases hPending
    · cases hPending
  · intro n p q hAgain
    rcases ret_of_readAttempt (by rw [hAgain]; simp) with
      ⟨ret, hRet⟩
    rw [readAttempt_eq hRet] at hAgain
    split at hAgain
    · cases hAgain
      rcases readStart_behind hRet with ⟨k, hUsed, hOff⟩
      rw [hUsed]
      refine ⟨fun i hI => ?_, by omega⟩
      rw [show i = p + k by omega]
      exact hOff
    · cases hAgain
  · intro n p q j hStart hAgain hMark hLow hReach
    rcases readLoop_of_completes [] [] (fun _ => hStart) hMark
      hLow hReach with ⟨ret, hRet, hEnd⟩
    rw [readAttempt_eq hRet] at hAgain
    split at hAgain
    next hNone =>
        cases hAgain
        exact hEnd.resolve_left (by omega)
    next => cases hAgain

/- One try of the loop when the descriptor peeks. -/
def peekAttempt
    (answers : Nat → DosRead)
    (_ p : Nat) : Retry.Attempt CaseResult :=
  match answers p with
  | .error _ => .again (p + 1)
  | .ok m =>
      if m.data = [] then .again (p + 1)
      else .done ⟨m.data.length, none⟩

/- The answer brings some bytes. -/
def Brings (answers : Nat → DosRead) (j : Nat) : Prop :=
  ∃ m, answers j = .ok m ∧ m.data ≠ []

/- A peek uses one answer. -/
theorem inBlocks_peek :
    Retry.InBlocks (peekAttempt answers) 1
      (fun r => 0 < r.ret) (Brings answers) := by
  intro n p
  have hOnly : ∀ j, p ≤ j → j < p + 1 → j = p := by omega
  cases hA : answers p with
  | error e =>
      refine .inr ⟨by simp [peekAttempt, hA], ?_⟩
      intro j hLow hHigh
      rw [hOnly j hLow hHigh, Brings, hA]
      simp
  | ok m =>
      by_cases hNone : m.data = []
      · refine .inr ⟨by simp [peekAttempt, hA, hNone], ?_⟩
        intro j hLow hHigh
        rw [hOnly j hLow hHigh, Brings, hA]
        simp [hNone]
      · refine .inl ⟨⟨m.data.length, none⟩, p, ?_, ?_,
          le_rfl, Nat.lt_succ_self p, m, hA, hNone⟩
        · simp [peekAttempt, hA, hNone]
        · exact Int.natCast_pos.mpr
            (List.length_pos_iff.mpr hNone)

section ReadCase

variable {env : InitEnv} {args : TransferArgs}
variable {me : FsextEntry} {s : MailTables}

/- The tries of a descriptor in either mode. -/
def triesOf
    (answers : Nat → DosRead)
    (peeking : Bool) :
    Nat → Nat → Retry.Attempt CaseResult :=
  if peeking then peekAttempt answers else readAttempt answers

/- The call gets to its loop. -/
structure ReadGoes
    (me : FsextEntry)
    (args : TransferArgs)
    (s : MailTables) : Prop where
  inited : s.inited = true
  handle : me.handle ≠ none
  buf : args.buf ≠ none
  len : 0 < args.len

theorem ReadGoes.read
    (hGoes : ReadGoes me args s)
    (calls : List DosRead) :
    mailslotRead env calls me.handle args.buf args.len s =
      .ok (readLoop calls [] [], s) := by
  rcases hGoes with ⟨hInited, hHandle, hBuf, hLen⟩
  unfold mailslotRead
  rw [run_bind_ok (mailslotInit_run hInited env),
    if_neg (by decide), if_neg, if_neg (by omega)]
  · rfl
  · rintro (hShort | hNone | hNone)
    · omega
    · exact hHandle hNone
    · exact hBuf hNone

theorem ReadGoes.peek
    (hGoes : ReadGoes me args s)
    (a : DosRead) :
    mailslotPeek env a me.handle args.buf args.len s =
      .ok (match a with
        | .error e => ⟨some (-1), some e, [], []⟩
        | .ok m => ⟨some m.data.length, none, m.data, []⟩,
        s) := by
  rcases hGoes with ⟨hInited, hHandle, hBuf, hLen⟩
  unfold mailslotPeek
  rw [run_bind_ok (mailslotInit_run hInited env),
    if_neg (by decide), if_neg, if_neg (by omega)]
  · cases a with
    | error e => rfl
    | ok m => rfl
  · rintro (hShort | hNone | hNone)
    · omega
    · exact hHandle hNone
    · exact hBuf hNone

/- The loop comes down to its tries. -/
theorem readBlocking_run
    (hGoes : ReadGoes me args s)
    (n p : Nat) :
    readBlocking env answers me args n p s =
      .ok (Retry.run (triesOf answers me.peeking) n p, s) := by
  unfold triesOf
  induction n generalizing p with
  | zero => rfl
  | succ n ih =>
      unfold readBlocking Retry.run readOnce
      by_cases hPeek : me.peeking = true
      · simp only [hPeek, if_true] at ih ⊢
        rw [run_bind_ok (run_bind_ok (hGoes.peek _))]
        unfold peekAttempt
        cases hA : answers p with
        | error e => exact ih (p + 1)
        | ok m =>
            dsimp only
            by_cases hNone : m.data = []
            · rw [if_pos hNone, if_pos (by simp [hNone])]
              exact ih (p + 1)
            · have hSome := List.length_pos_iff.mpr hNone
              rw [if_neg hNone, if_neg (by omega)]
              rfl
      · simp only [hPeek, Bool.false_eq_true, if_false] at ih ⊢
        rw [run_bind_ok (run_bind_ok (hGoes.read _))]
        unfold readAttempt
        dsimp only
        cases hRet : (readLoop (callsFrom answers p (n + 1)) []
            []).ret with
        | none => rfl
        | some ret =>
            dsimp only
            by_cases hNone : ret ≤ 0
            · rw [if_pos hNone, if_pos hNone]
              exact ih _
            · rw [if_neg hNone, if_neg hNone]
              rfl

/- The read is refused at once. -/
def ReadRefused (me : FsextEntry) (args : TransferArgs) :
    Prop :=
  me.handle = none ∨ args.buf = none ∨ args.len ≤ 0

/- The answer on which the loop comes to an end. -/
def ReadEnds
    (answers : Nat → DosRead)
    (peeking : Bool)
    (j : Nat) : Prop :=
  if peeking then Brings answers j else Completes answers j

theorem readHandler_reported_iff
    {fd : Fd}
    (hOpened : OpenedFsext s fd me)
    (hBlocking : me.blocking = true) :
    Reported (readHandler env answers fd args) s ↔
      ReadRefused me args ∨
        ∃ j, ReadEnds answers me.peeking j := by
  have hEntry : ∀ n, readHandler env answers fd args n s =
      (if me.handle = none then
        return some ⟨-1, some .EPERM⟩
      else if args.buf = none ∨ args.len ≤ 0 then
        return some ⟨-1, some .EINVAL⟩
      else
        readBlocking env answers me args n 0) s := by
    intro n
    unfold readHandler
    rw [run_bind_ok (run_get s), hOpened.data]
    simp only [hBlocking, if_true]
  unfold ReadRefused
  by_cases hHandle : me.handle = none
  · refine iff_of_true ⟨0, ⟨-1, some .EPERM⟩, s, ?_,
      .inr ⟨rfl, rfl⟩⟩ (.inl (.inl hHandle))
    rw [hEntry, if_pos hHandle]
    rfl
  by_cases hBad : args.buf = none ∨ args.len ≤ 0
  · refine iff_of_true ⟨0, ⟨-1, some .EINVAL⟩, s, ?_,
      .inr ⟨rfl, rfl⟩⟩ (.inl (.inr hBad))
    rw [hEntry, if_neg hHandle, if_pos hBad]
    rfl
  rw [or_iff_right (not_or.mpr ⟨hHandle, hBad⟩)]
  rw [not_or, not_le] at hBad
  have hGoes : ReadGoes me args s :=
    ⟨hOpened.inited, hHandle, hBad.1, hBad.2⟩
  have hRun : ∀ n, readHandler env answers fd args n s =
      .ok (Retry.run (triesOf answers me.peeking) n 0, s) := by
    intro n
    rw [hEntry, if_neg hHandle, if_neg
      (not_or.mpr ⟨hBad.1, not_le.mpr hBad.2⟩)]
    exact readBlocking_run hGoes n 0
  unfold ReadEnds
  unfold triesOf at hRun
  by_cases hPeek : me.peeking = true
  · simp only [hPeek, if_true] at hRun ⊢
    exact reported_of_retry hRun inBlocks_peek.result_of_done
      (inBlocks_peek.marked Nat.one_pos) trivial
  · simp only [hPeek, Bool.false_eq_true, if_false] at hRun ⊢
    refine reported_of_retry hRun readAttempt_pos marked_read ?_
    intro i hI
    omega

end ReadCase

end Reading

end Libsocket
