import Libsocket.MailslotTable.Outcomes
import Libsocket.Unix.Message

/-
  The two transfer loops of the mailslot library.

  A write goes to DOS in chunks and a read takes messages
  from DOS one by one. The index of the write loop is kept
  apart from the count of bytes that were delivered, and
  the read loop knows nothing of the length of the caller's
  buffer.

  Main declarations:
    * `mailslotWrite`, `mailslotRead`
    * `Chunk.positions`, `CoversPrefix`
    * `FailuresLast`, `mailslotWrite_prefix_iff`
    * `ReadResult.Respects`
    * `deliver_eq_readLoop`
    * `mailslotRead_respects_iff`
-/

namespace Libsocket

open Command

------------------------------------------------------------
-- Writing
------------------------------------------------------------

/- `__mailslot_size`, once the library is initialised -/
def mailslotSize : Int := 0x10000

/- One write call: DOS takes the chunk or sets the carry. -/
abbrev DosWrite : Type := Except Errno Unit

/- A piece of a message, and where the message has it. -/
structure Chunk where
  start : Nat
  data : Bytes
deriving DecidableEq, Repr

/- The variables of the loop, and what DOS has taken. -/
structure Written where
  total : Nat
  errno : Option Errno
  delivered : List Chunk
deriving DecidableEq, Repr

/- The end of the loop's body. -/
def Written.answer
    (w : Written)
    (chunk : Chunk) : DosWrite → Written
| .ok () =>
    { w with
      total := w.total + chunk.data.length
      delivered := w.delivered ++ [chunk] }
| .error e =>
    if w.total = 0 then
      { w with errno := some e }
    else
      w

/- A call that fails may change `errno` only. -/
@[simp] theorem Written.answer_error
    (w : Written)
    (chunk : Chunk)
    (e : Errno) :
    (w.answer chunk (.error e)).delivered = w.delivered ∧
      (w.answer chunk (.error e)).total = w.total := by
  unfold Written.answer
  dsimp only
  split
  · exact ⟨rfl, rfl⟩
  · exact ⟨rfl, rfl⟩

/- What goes out at an index. -/
def chunkAt
    (maxlen : Nat)
    (msg : Bytes)
    (i : Nat) : Chunk :=
  ⟨i, (msg.drop i).take maxlen⟩

/-
  The write loop. There is no result when DOS leaves a call
  unanswered, or when the index leaves the range of `int`.
-/
def writeLoop
    (maxlen : Nat)
    (msg : Bytes) :
    List DosWrite → Nat → Written → Option Written
| [], i, w =>
    if i < msg.length then none else some w
| a :: as, i, w =>
    if i < msg.length then
      if i + maxlen < 2147483648 then
        writeLoop maxlen msg as (i + maxlen)
          (w.answer (chunkAt maxlen msg i) a)
      else
        none
    else
      some w

/- The length of a chunk, for a name in DOS form. -/
def chunkLength (newname : Bytes) : Int :=
  let headersize : Int := 4 + 4 + newname.length + 1
  if mailslotSize - headersize > mailslotSendsize then
    mailslotSendsize
  else
    mailslotSize - headersize

/- The return value and `errno`, and what DOS has taken. -/
structure WriteResult where
  ret : Int
  errno : Option Errno
  delivered : List Chunk
deriving DecidableEq, Repr

/-
  `__mailslot_write`, with the bytes that can be read at
  `msg`.
-/
def mailslotWrite
    (env : InitEnv)
    (answers : List DosWrite)
    (name msg : Option Bytes)
    (len : Int) : MailCommand (Option WriteResult) := do
  let ready ← mailslotInit env
  if ready = false then
    return some ⟨-1, none, []⟩
  else
    match name, msg with
    | none, _ => return some ⟨-1, some .EINVAL, []⟩
    | _, none => return some ⟨-1, some .EINVAL, []⟩
    | some name, some msg =>
        if len < 0 then
          return some ⟨-1, some .EINVAL, []⟩
        else if len = 0 then
          return some ⟨0, none, []⟩
        else if maxPath ≤ name.length ∨ msg.length < len then
          stop .overrun
        else
          let maxlen := chunkLength (backslashify name)
          let w := writeLoop maxlen.toNat
            (msg.take len.toNat) answers 0 ⟨0, none, []⟩
          return w.map fun w =>
            ⟨if w.total = 0 then -1 else w.total,
              w.errno, w.delivered⟩

/- Every chunk has the same length, for every name. -/
theorem chunkLength_eq
    {name : Bytes}
    (hRoom : name.length < maxPath) :
    chunkLength (backslashify name) = mailslotSendsize := by
  have hLength : (backslashify name).length < 80 := by
    rw [backslashify, List.length_map]
    exact hRoom
  unfold chunkLength mailslotSize
  rw [if_pos]
  simp only [mailslotSendsize]
  omega

------------------------------------------------------------
-- Delivered Chunks
------------------------------------------------------------

/- The positions of the bytes of a chunk in the message. -/
def Chunk.positions (chunk : Chunk) : List Nat :=
  List.range' chunk.start chunk.data.length

/-
  The chunks are the first `t` bytes of the message, each
  byte once and in order.
-/
def CoversPrefix
    (msg : Bytes)
    (t : Nat)
    (delivered : List Chunk) : Prop :=
  delivered.flatMap Chunk.positions = List.range t ∧
    delivered.flatMap Chunk.data = msg.take t

/- No call succeeds after one that has failed. -/
def FailuresLast (answers : List DosWrite) : Prop :=
  answers.Pairwise fun a b => b.isOk = true → a.isOk = true

instance (answers : List DosWrite) :
    Decidable (FailuresLast answers) :=
  inferInstanceAs (Decidable (answers.Pairwise _))

theorem failuresLast_ok (as : List DosWrite) :
    FailuresLast (.ok () :: as) ↔ FailuresLast as := by
  unfold FailuresLast
  rw [List.pairwise_cons]
  constructor
  · exact And.right
  · exact fun hRest => ⟨fun _ _ _ => rfl, hRest⟩

/- Behind a failure there are only failures. -/
theorem failuresLast_error
    (e : Errno)
    (as : List DosWrite) :
    FailuresLast (.error e :: as) ↔
      ∀ a ∈ as, a.isOk = false := by
  unfold FailuresLast
  rw [List.pairwise_cons]
  constructor
  · intro hLast a hA
    cases a with
    | ok _ => cases hLast.1 _ hA rfl
    | error e => rfl
  · intro hNone
    constructor
    · intro a hA hOk
      rw [hNone a hA] at hOk
      cases hOk
    · apply List.pairwise_of_forall_mem_list
      intro a _ b hB hOk
      rw [hNone b hB] at hOk
      cases hOk

/- The calls that a write of `len` bytes makes. -/
def callsMade
    {α : Type}
    (maxlen len : Nat)
    (answers : List α) : List α :=
  answers.take ((len + maxlen - 1) / maxlen)

/- A chunk that was cut from the message. -/
def Chunk.CutFrom
    (msg : Bytes)
    (chunk : Chunk) : Prop :=
  chunk.data =
      (msg.drop chunk.start).take chunk.data.length ∧
    chunk.start + chunk.data.length ≤ msg.length

theorem cutFrom_chunkAt
    {maxlen i : Nat}
    {msg : Bytes}
    (hInside : i < msg.length) :
    (chunkAt maxlen msg i).CutFrom msg := by
  unfold Chunk.CutFrom chunkAt
  constructor
  · rw [List.length_take, ← List.take_take,
      List.take_length]
  · simp only [List.length_take, List.length_drop]
    omega

/- The bytes of a chunk are those at its positions. -/
theorem Chunk.CutFrom.data_eq
    {msg : Bytes}
    {chunk : Chunk}
    (hCut : chunk.CutFrom msg) :
    chunk.data =
      chunk.positions.map fun i => msg.getD i 0 := by
  rcases hCut with ⟨hData, hInside⟩
  apply List.ext_getElem
  · simp [Chunk.positions]
  · intro i hLeft hRight
    have hAt : chunk.start + i < msg.length := by omega
    have hByte : chunk.data[i]? = msg[chunk.start + i]? := by
      rw [hData]
      simp only [List.getElem?_take, List.getElem?_drop]
      rw [if_pos hLeft]
    rw [List.getElem?_eq_getElem hLeft,
      List.getElem?_eq_getElem hAt] at hByte
    simp only [Chunk.positions, List.getElem_map,
      List.getElem_range', Nat.one_mul]
    rw [List.getD_eq_getElem?_getD,
      List.getElem?_eq_getElem hAt]
    exact Option.some.inj hByte

/- Chunks that stand at the right places have the bytes. -/
theorem coversPrefix_iff
    {msg : Bytes}
    {t : Nat}
    {delivered : List Chunk}
    (hCut : ∀ chunk ∈ delivered, chunk.CutFrom msg)
    (hLength : t ≤ msg.length) :
    CoversPrefix msg t delivered ↔
      delivered.flatMap Chunk.positions = List.range t := by
  constructor
  · exact And.left
  · intro hPositions
    have hData : delivered.flatMap Chunk.data =
        (delivered.flatMap Chunk.positions).map
          fun i => msg.getD i 0 := by
      rw [List.map_flatMap]
      apply List.flatMap_congr
      intro chunk hChunk
      exact (hCut chunk hChunk).data_eq
    constructor
    · exact hPositions
    · rw [hData, hPositions]
      apply List.ext_getElem
      · simp [hLength]
      · intro i hLeft hRight
        simp only [List.length_map, List.length_range] at hLeft
        have hAt : i < msg.length := by omega
        simp [List.getElem?_eq_getElem hAt]

------------------------------------------------------------
-- The Write Loop
------------------------------------------------------------

theorem callsMade_zero
    {α : Type}
    (maxlen : Nat)
    (answers : List α) :
    callsMade maxlen 0 answers = [] := by
  unfold callsMade
  cases maxlen with
  | zero => simp
  | succ k => simp [Nat.div_eq_of_lt]

/- The first call, and those for the rest of the message. -/
theorem callsMade_cons
    {α : Type}
    {maxlen len : Nat}
    (hChunk : 0 < maxlen)
    (hSome : 0 < len)
    (a : α)
    (as : List α) :
    callsMade maxlen len (a :: as) =
      a :: callsMade maxlen (len - maxlen) as := by
  have hCount : (len + maxlen - 1) / maxlen =
      (len - maxlen + maxlen - 1) / maxlen + 1 := by
    by_cases hLong : maxlen ≤ len
    · rw [← Nat.add_div_right _ hChunk]
      congr 1
      omega
    · have hNone : len - maxlen = 0 := by omega
      have hOne : len + maxlen - 1 = len - 1 + maxlen := by
        omega
      rw [hNone, hOne, Nat.add_div_right _ hChunk,
        Nat.div_eq_of_lt (by omega : len - 1 < maxlen),
        Nat.div_eq_of_lt (by omega : 0 + maxlen - 1 < maxlen)]
  unfold callsMade
  rw [hCount, List.take_succ_cons]

/- One turn of the loop. -/
theorem writeLoop_cons
    {maxlen i : Nat}
    {msg : Bytes}
    {a : DosWrite}
    {as : List DosWrite}
    {w w' : Written}
    (hInside : i < msg.length)
    (hRun : writeLoop maxlen msg (a :: as) i w = some w') :
    writeLoop maxlen msg as (i + maxlen)
      (w.answer (chunkAt maxlen msg i) a) = some w' := by
  unfold writeLoop at hRun
  rw [if_pos hInside] at hRun
  split at hRun
  · exact hRun
  · cases hRun

/- Behind the end of the message the loop is over. -/
theorem writeLoop_done
    {maxlen i : Nat}
    {msg : Bytes}
    {answers : List DosWrite}
    {w w' : Written}
    (hEnd : msg.length ≤ i)
    (hRun : writeLoop maxlen msg answers i w = some w') :
    w' = w := by
  cases answers with
  | nil =>
      unfold writeLoop at hRun
      rw [if_neg (by omega)] at hRun
      exact (Option.some.inj hRun).symm
  | cons a as =>
      unfold writeLoop at hRun
      rw [if_neg (by omega)] at hRun
      exact (Option.some.inj hRun).symm

/- The loop takes nothing back. -/
theorem writeLoop_extends
    {maxlen i : Nat}
    {msg : Bytes}
    {answers : List DosWrite}
    {w w' : Written}
    (hRun : writeLoop maxlen msg answers i w = some w') :
    ∃ more, w'.delivered = w.delivered ++ more := by
  induction answers generalizing i w with
  | nil =>
      unfold writeLoop at hRun
      split at hRun
      · cases hRun
      · cases hRun
        exact ⟨[], by simp⟩
  | cons a as ih =>
      by_cases hInside : i < msg.length
      · rcases ih (writeLoop_cons hInside hRun) with
          ⟨more, hMore⟩
        cases a with
        | ok _ =>
            rw [hMore]
            exact ⟨chunkAt maxlen msg i :: more,
              by simp [Written.answer]⟩
        | error e =>
            rw [hMore, (Written.answer_error _ _ e).1]
            exact ⟨more, rfl⟩
      · rw [writeLoop_done (by omega) hRun]
        exact ⟨[], by simp⟩

/- What was cut from the message before, and counted. -/
structure Written.Counts
    (msg : Bytes)
    (i : Nat)
    (w : Written) : Prop where
  cut : ∀ chunk ∈ w.delivered, chunk.CutFrom msg
  total : (w.delivered.flatMap Chunk.positions).length =
    w.total
  bound : w.total ≤ min i msg.length

theorem Written.Counts.answer
    {maxlen i : Nat}
    {msg : Bytes}
    {w : Written}
    (hCounts : w.Counts msg i)
    (hInside : i < msg.length)
    (a : DosWrite) :
    (w.answer (chunkAt maxlen msg i) a).Counts msg
      (i + maxlen) := by
  rcases hCounts with ⟨hCut, hTotal, hBound⟩
  have hLength : (chunkAt maxlen msg i).data.length =
      min maxlen (msg.length - i) := by
    simp [chunkAt]
  cases a with
  | ok _ =>
      unfold Written.answer
      constructor
      · intro chunk hChunk
        rcases List.mem_append.mp hChunk with hOld | hNew
        · exact hCut chunk hOld
        · rw [List.mem_singleton.mp hNew]
          exact cutFrom_chunkAt hInside
      · rw [List.flatMap_append, List.length_append, hTotal]
        simp [Chunk.positions]
      · dsimp only
        rw [hLength]
        omega
  | error e =>
      rcases w.answer_error (chunkAt maxlen msg i) e with
        ⟨hSame, hCount⟩
      constructor
      · rw [hSame]
        exact hCut
      · rw [hSame, hCount]
        exact hTotal
      · rw [hCount]
        omega

theorem Written.Counts.writeLoop
    {maxlen i : Nat}
    {msg : Bytes}
    {answers : List DosWrite}
    {w w' : Written}
    (hCounts : w.Counts msg i)
    (hRun : writeLoop maxlen msg answers i w = some w') :
    ∃ n, w'.Counts msg n := by
  induction answers generalizing i w with
  | nil =>
      unfold Libsocket.writeLoop at hRun
      split at hRun
      · cases hRun
      · cases hRun
        exact ⟨i, hCounts⟩
  | cons a as ih =>
      by_cases hInside : i < msg.length
      · exact ih (hCounts.answer hInside a)
          (writeLoop_cons hInside hRun)
      · rw [writeLoop_done (by omega) hRun]
        exact ⟨i, hCounts⟩

/- What continues a range begins with the next number. -/
theorem eq_of_range_append
    {t t' i : Nat}
    {more : List Nat}
    (hRange : List.range t ++ i :: more = List.range t') :
    i = t := by
  have hAt : (List.range t')[t]? = some i := by
    rw [← hRange]
    simp
  rcases List.getElem?_eq_some_iff.mp hAt with
    ⟨hBound, hValue⟩
  rw [List.getElem_range] at hValue
  exact hValue.symm

/- A chunk inside the message has a first byte. -/
theorem positions_chunkAt
    {maxlen i : Nat}
    {msg : Bytes}
    (hChunk : 0 < maxlen)
    (hInside : i < msg.length) :
    ∃ rest, (chunkAt maxlen msg i).positions = i :: rest := by
  have hLength : (chunkAt maxlen msg i).data.length =
      min maxlen (msg.length - i) := by
    simp [chunkAt]
  unfold Chunk.positions
  rw [hLength, show min maxlen (msg.length - i) =
    min maxlen (msg.length - i) - 1 + 1 by omega,
    List.range'_succ]
  exact ⟨_, rfl⟩

/- A later chunk cannot make up for one that failed. -/
theorem writeLoop_afterFailure
    {maxlen i : Nat}
    {msg : Bytes}
    {answers : List DosWrite}
    {w w' : Written}
    (hChunk : 0 < maxlen)
    (hPositions : w.delivered.flatMap Chunk.positions =
      List.range w.total)
    (hBehind : w.total < i)
    (hRun : writeLoop maxlen msg answers i w = some w') :
    w'.delivered.flatMap Chunk.positions =
        List.range w'.total ↔
      ∀ a ∈ callsMade maxlen (msg.length - i) answers,
        a.isOk = false := by
  induction answers generalizing i w with
  | nil =>
      unfold writeLoop at hRun
      split at hRun
      · cases hRun
      · cases hRun
        simp [hPositions, callsMade]
  | cons a as ih =>
      by_cases hInside : i < msg.length
      swap
      · rw [writeLoop_done (by omega) hRun]
        have hRest : msg.length - i = 0 := by omega
        simp [hPositions, hRest, callsMade_zero]
      have hTail := writeLoop_cons hInside hRun
      rw [callsMade_cons hChunk (by omega)]
      cases a with
      | ok _ =>
          constructor
          · intro hCovers
            rcases writeLoop_extends hTail with ⟨more, hMore⟩
            rcases positions_chunkAt hChunk hInside with
              ⟨rest, hRest⟩
            rw [hMore, Written.answer, List.flatMap_append,
              List.flatMap_append, hPositions,
              List.flatMap_singleton, hRest,
              List.append_assoc, List.cons_append] at hCovers
            have hNext := eq_of_range_append hCovers
            omega
          · intro hNone
            cases hNone _ List.mem_cons_self
      | error e =>
          rcases w.answer_error (chunkAt maxlen msg i) e with
            ⟨hSame, hCount⟩
          rw [ih (by rw [hSame, hCount, hPositions])
            (by rw [hCount]; omega) hTail, Nat.sub_sub]
          simp [Except.isOk, Except.toBool]

/- The loop delivers a prefix if failures come last. -/
theorem writeLoop_covers_iff
    {maxlen i : Nat}
    {msg : Bytes}
    {answers : List DosWrite}
    {w w' : Written}
    (hChunk : 0 < maxlen)
    (hPositions : w.delivered.flatMap Chunk.positions =
      List.range w.total)
    (hAll : w.total = min i msg.length)
    (hRun : writeLoop maxlen msg answers i w = some w') :
    w'.delivered.flatMap Chunk.positions =
        List.range w'.total ↔
      FailuresLast
        (callsMade maxlen (msg.length - i) answers) := by
  induction answers generalizing i w with
  | nil =>
      unfold writeLoop at hRun
      split at hRun
      · cases hRun
      · cases hRun
        simp [hPositions, callsMade, FailuresLast]
  | cons a as ih =>
      by_cases hInside : i < msg.length
      swap
      · rw [writeLoop_done (by omega) hRun]
        have hRest : msg.length - i = 0 := by omega
        simp [hPositions, hRest, callsMade_zero, FailuresLast]
      have hTail := writeLoop_cons hInside hRun
      have hHere : w.total = i := by omega
      rw [callsMade_cons hChunk (by omega), Nat.sub_sub]
      cases a with
      | ok _ =>
          have hLength : (chunkAt maxlen msg i).data.length =
              min maxlen (msg.length - i) := by
            simp [chunkAt]
          have hNext : (w.answer (chunkAt maxlen msg i)
              (.ok ())).delivered.flatMap Chunk.positions =
              List.range (w.answer (chunkAt maxlen msg i)
                (.ok ())).total := by
            simp only [Written.answer, List.flatMap_append,
              hPositions, List.flatMap_singleton,
              Chunk.positions, List.range_eq_range']
            rw [← List.range'_append_1, hHere, Nat.zero_add]
            rfl
          rw [ih hNext (by simp only [Written.answer]; omega)
            hTail]
          exact (failuresLast_ok _).symm
      | error e =>
          rcases w.answer_error (chunkAt maxlen msg i) e with
            ⟨hSame, hCount⟩
          rw [writeLoop_afterFailure hChunk
            (by rw [hSame, hCount, hPositions])
            (by rw [hCount]; omega) hTail]
          exact (failuresLast_error e _).symm

------------------------------------------------------------
-- A Whole Write
------------------------------------------------------------

/- A write that delivers something comes from the loop. -/
theorem mailslotWrite_loop
    {env : InitEnv}
    {answers : List DosWrite}
    {name : Option Bytes}
    {msg : Bytes}
    {len : Int}
    {s s' : MailTables}
    {r : WriteResult}
    (hRun : mailslotWrite env answers name (some msg) len s =
      .ok (some r, s'))
    (hSome : 0 < r.ret) :
    len.toNat ≤ msg.length ∧
      ∃ w, writeLoop mailslotSendsize (msg.take len.toNat)
          answers 0 ⟨0, none, []⟩ = some w ∧
        r.ret = w.total ∧ r.delivered = w.delivered := by
  rcases bind_eq_ok.mp hRun with ⟨ready, t, -, hRest⟩
  split at hRest
  · cases hRest
    cases hSome
  cases name with
  | none =>
      cases hRest
      cases hSome
  | some name =>
      dsimp only at hRest
      split at hRest
      · cases hRest
        cases hSome
      split at hRest
      · cases hRest
        cases hSome
      split at hRest
      · cases hRest
      next hRoom =>
          rw [not_or, not_le, not_lt] at hRoom
          rw [chunkLength_eq hRoom.1, Int.toNat_natCast]
            at hRest
          cases hLoop : writeLoop mailslotSendsize
              (msg.take len.toNat) answers 0
              ⟨0, none, []⟩ with
          | none =>
              rw [hLoop] at hRest
              cases hRest
          | some w =>
              rw [hLoop] at hRest
              cases hRest
              dsimp only at hSome
              split at hSome
              · cases hSome
              next hTotal =>
                  constructor
                  · omega
                  · exact ⟨w, rfl, if_neg hTotal, rfl⟩

/-
  A write that returns `t > 0` has delivered the first `t`
  bytes of the message if and only if no call succeeded
  after one that had failed: the loop goes on with the next
  chunk whatever becomes of this one.
-/
theorem mailslotWrite_prefix_iff
    {env : InitEnv}
    {answers : List DosWrite}
    {name : Option Bytes}
    {msg : Bytes}
    {len : Int}
    {s s' : MailTables}
    {r : WriteResult}
    (hRun : mailslotWrite env answers name (some msg) len s =
      .ok (some r, s'))
    (hSome : 0 < r.ret) :
    CoversPrefix (msg.take len.toNat) r.ret.toNat
        r.delivered ↔
      FailuresLast
        (callsMade mailslotSendsize len.toNat answers) := by
  rcases mailslotWrite_loop hRun hSome with
    ⟨hInside, w, hLoop, hRet, hDelivered⟩
  have hLength : (msg.take len.toNat).length = len.toNat := by
    rw [List.length_take]
    omega
  have hStart : (⟨0, none, []⟩ : Written).Counts
      (msg.take len.toNat) 0 :=
    ⟨by simp, rfl, by simp⟩
  rcases hStart.writeLoop hLoop with ⟨n, hCounts⟩
  have hBound := hCounts.bound
  rw [hRet, hDelivered, Int.toNat_natCast,
    coversPrefix_iff hCounts.cut (by omega),
    writeLoop_covers_iff (by decide) rfl (by simp) hLoop,
    hLength, Nat.sub_zero]

/- The library in use, with its transfer buffer. -/
def MailTables.ready : MailTables :=
  { MailTables.start with
    inited := true
    transfer := some ⟨0x1000, 0x10⟩ }

theorem prefix_of_delivered :
    CoversPrefix [7, 8, 9] 3 [⟨0, [7, 8, 9]⟩] ↔
      FailuresLast (callsMade mailslotSendsize 3 [.ok ()]) := by
  have hName : (bytes "/mailslot/peer").length < maxPath := by
    decide
  have hRun : mailslotWrite ⟨true, none⟩ [.ok ()]
      (some (bytes "/mailslot/peer")) (some [7, 8, 9]) 3
      MailTables.ready =
    .ok (some ⟨3, none, [⟨0, [7, 8, 9]⟩]⟩,
      MailTables.ready) := by
    have hReady : mailslotInit ⟨true, none⟩
        MailTables.ready = .ok (true, MailTables.ready) := rfl
    unfold mailslotWrite
    rw [run_bind_ok hReady]
    simp only [chunkLength_eq hName]
    rfl
  exact mailslotWrite_prefix_iff hRun (by decide)

def zeroes : Bytes := List.replicate 4081 0

/- The first of two chunks is refused. -/
theorem writeLoop_skips :
    writeLoop mailslotSendsize zeroes [.error .EAGAIN, .ok ()]
        0 ⟨0, none, []⟩ =
      some ⟨1, some .EAGAIN, [⟨4080, [0]⟩]⟩ := by
  have hLength : zeroes.length = 4081 := List.length_replicate
  have hLast : chunkAt mailslotSendsize zeroes
      (0 + mailslotSendsize) = ⟨4080, [0]⟩ := by
    unfold chunkAt zeroes
    rw [List.drop_replicate, List.take_replicate]
    rfl
  rw [writeLoop, if_pos (by rw [hLength]; decide),
    if_pos (by decide), writeLoop,
    if_pos (by rw [hLength]; decide), if_pos (by decide),
    hLast, writeLoop, if_neg (by rw [hLength]; decide)]
  rfl

theorem mailslotWrite_skips :
    mailslotWrite ⟨true, none⟩ [.error .EAGAIN, .ok ()]
        (some (bytes "/mailslot/peer")) (some zeroes) 4081
        MailTables.ready =
      .ok (some ⟨1, some .EAGAIN, [⟨4080, [0]⟩]⟩,
        MailTables.ready) := by
  have hLength : zeroes.length = 4081 := List.length_replicate
  have hTaken : zeroes.take (Int.toNat 4081) = zeroes := by
    apply List.take_of_length_le
    exact hLength.le
  have hName : (bytes "/mailslot/peer").length < maxPath := by
    decide
  have hReady : mailslotInit ⟨true, none⟩ MailTables.ready =
      .ok (true, MailTables.ready) := rfl
  unfold mailslotWrite
  rw [run_bind_ok hReady]
  simp only [hTaken, chunkLength_eq hName, hLength,
    Int.toNat_natCast, writeLoop_skips]
  rfl

theorem chunk_after_failure :
    ¬ ∀ (env : InitEnv) (answers : List DosWrite)
      (name : Option Bytes) (msg : Bytes) (len : Int)
      (s s' : MailTables) (r : WriteResult),
      mailslotWrite env answers name (some msg) len s =
          .ok (some r, s') →
        0 < r.ret →
          CoversPrefix (msg.take len.toNat) r.ret.toNat
            r.delivered := by
  intro hPrefix
  have hCovers := hPrefix _ _ _ _ _ _ _ _
    mailslotWrite_skips (by decide)
  cases hCovers.1

------------------------------------------------------------
-- Reading
------------------------------------------------------------

/-
  A message that DOS hands out, removing it, and the length
  it reports for the next one. Lengths are 16 bits wide.
-/
structure DosMessage where
  data : Bytes
  next : Nat
  short : data.length < 65536
deriving DecidableEq, Repr

/- One read call: a message, or the carry and an error. -/
abbrev DosRead : Type := Except Errno DosMessage

/-
  What a read has stored from `msg` on, what it has removed
  from the mailslot, and its return value. While DOS has not
  answered the last call there is no return value.
-/
structure ReadResult where
  ret : Option Int
  errno : Option Errno
  stored : Bytes
  taken : List Bytes
deriving DecidableEq, Repr

/- The read loop. -/
def readLoop :
    List DosRead → Bytes → List Bytes → ReadResult
| [], stored, taken => ⟨none, none, stored, taken⟩
| .error e :: _, stored, taken =>
    ⟨some (-1), some e, stored, taken⟩
| .ok m :: answers, stored, taken =>
    if m.data = [] ∨ m.next = 0 then
      ⟨some (stored ++ m.data).length, none,
        stored ++ m.data, taken ++ [m.data]⟩
    else
      readLoop answers (stored ++ m.data) (taken ++ [m.data])

/- `__mailslot_read`; the handle `-1` is `none`. -/
def mailslotRead
    (env : InitEnv)
    (answers : List DosRead)
    (hMailslot : Option Nat)
    (msg : Option Bytes)
    (len : Int) : MailCommand ReadResult := do
  let ready ← mailslotInit env
  if ready = false then
    return ⟨some (-1), none, [], []⟩
  else if len < 0 ∨ hMailslot = none ∨ msg = none then
    return ⟨some (-1), some .EINVAL, [], []⟩
  else if len = 0 then
    return ⟨some 0, none, [], []⟩
  else
    return readLoop answers [] []

/-
  At most `len` bytes are stored, their number is what is
  returned, and a read that fails has removed nothing.
-/
structure ReadResult.Respects
    (len : Int)
    (r : ReadResult) : Prop where
  room : r.stored.length ≤ len
  count : ∀ n, r.ret = some n → n ≠ -1 →
    n = r.stored.length
  handed : r.ret = some (-1) → r.taken = []

------------------------------------------------------------
-- The Messages Of A Read
------------------------------------------------------------

/- An answer that makes the loop ask again. -/
def goesOn : DosRead → Bool
| .error _ => false
| .ok m => m.data != [] && m.next != 0

/- The answers that one read uses. -/
def answersUsed : List DosRead → List DosRead
| [] => []
| a :: answers =>
    if goesOn a then a :: answersUsed answers else [a]

/- The bytes that an answer brings. -/
def bytesOf : DosRead → Bytes
| .error _ => []
| .ok m => m.data

theorem goesOn_ok (m : DosMessage) :
    goesOn (.ok m) = true ↔ ¬ (m.data = [] ∨ m.next = 0) := by
  simp [goesOn]

theorem readLoop_stored
    (answers : List DosRead)
    (stored : Bytes)
    (taken : List Bytes) :
    (readLoop answers stored taken).stored =
      stored ++ (answersUsed answers).flatMap bytesOf := by
  induction answers generalizing stored taken with
  | nil => simp [readLoop, answersUsed]
  | cons a answers ih =>
      cases a with
      | error e =>
          simp [readLoop, answersUsed, goesOn, bytesOf]
      | ok m =>
          unfold readLoop answersUsed
          by_cases hOn : goesOn (.ok m) = true
          · rw [if_neg ((goesOn_ok m).mp hOn), if_pos hOn, ih]
            simp [bytesOf]
          · rw [if_pos (not_not.mp (mt (goesOn_ok m).mpr hOn)),
              if_neg hOn]
            simp [bytesOf]

/- Only a failing call makes the read fail. -/
theorem readLoop_failed_iff
    (answers : List DosRead)
    (stored : Bytes)
    (taken : List Bytes) :
    (readLoop answers stored taken).ret = some (-1) ↔
      ∃ a ∈ answersUsed answers, a.isOk = false := by
  induction answers generalizing stored taken with
  | nil => simp [readLoop, answersUsed]
  | cons a answers ih =>
      cases a with
      | error e =>
          simp [readLoop, answersUsed, goesOn, Except.isOk,
            Except.toBool]
      | ok m =>
          unfold readLoop answersUsed
          by_cases hOn : goesOn (.ok m) = true
          · rw [if_neg ((goesOn_ok m).mp hOn), if_pos hOn, ih]
            simp [Except.isOk, Except.toBool]
          · rw [if_pos (not_not.mp (mt (goesOn_ok m).mpr hOn)),
              if_neg hOn]
            constructor
            · intro hRet
              have hValue := Option.some.inj hRet
              omega
            · rintro ⟨a, hA, hFails⟩
              rw [List.mem_singleton.mp hA] at hFails
              cases hFails

theorem readLoop_count
    {answers : List DosRead}
    {stored : Bytes}
    {taken : List Bytes}
    {n : Int}
    (hRet : (readLoop answers stored taken).ret = some n)
    (hSuccess : n ≠ -1) :
    n = (readLoop answers stored taken).stored.length := by
  induction answers generalizing stored taken with
  | nil => cases hRet
  | cons a answers ih =>
      cases a with
      | error e =>
          exact absurd (Option.some.inj hRet).symm hSuccess
      | ok m =>
          unfold readLoop at hRet ⊢
          split at hRet
          next hLast =>
              rw [if_pos hLast]
              exact (Option.some.inj hRet).symm
          next hMore =>
              rw [if_neg hMore]
              exact ih hRet

/- The loop keeps what it has taken. -/
theorem readLoop_taken
    (answers : List DosRead)
    (stored : Bytes)
    (taken : List Bytes) :
    ∃ more, (readLoop answers stored taken).taken =
      taken ++ more := by
  induction answers generalizing stored taken with
  | nil => exact ⟨[], by simp [readLoop]⟩
  | cons a answers ih =>
      cases a with
      | error e => exact ⟨[], by simp [readLoop]⟩
      | ok m =>
          unfold readLoop
          split
          · exact ⟨[m.data], rfl⟩
          · rcases ih (stored ++ m.data)
              (taken ++ [m.data]) with ⟨more, hMore⟩
            exact ⟨m.data :: more, by simp [hMore]⟩

/- A failure is harmless only in the first call. -/
theorem readLoop_handed_iff (answers : List DosRead) :
    ((readLoop answers [] []).ret = some (-1) →
        (readLoop answers [] []).taken = []) ↔
      ∀ a ∈ (answersUsed answers).tail, a.isOk = true := by
  cases answers with
  | nil => simp [readLoop, answersUsed]
  | cons a answers =>
      cases a with
      | error e => simp [readLoop, answersUsed, goesOn]
      | ok m =>
          unfold readLoop answersUsed
          by_cases hOn : goesOn (.ok m) = true
          swap
          · rw [if_pos (not_not.mp (mt (goesOn_ok m).mpr hOn)),
              if_neg hOn]
            constructor
            · intro _ a hA
              cases hA
            · intro _ hRet
              have hValue := Option.some.inj hRet
              omega
          rw [if_neg ((goesOn_ok m).mp hOn), if_pos hOn,
            List.tail_cons, readLoop_failed_iff]
          rcases readLoop_taken answers ([] ++ m.data)
            ([] ++ [m.data]) with ⟨more, hMore⟩
          constructor
          · intro hHanded a hA
            by_contra hFails
            have hNone := hHanded
              ⟨a, hA, Bool.eq_false_of_not_eq_true hFails⟩
            rw [hMore] at hNone
            cases hNone
          · rintro hAll ⟨a, hA, hFails⟩
            rw [hAll a hA] at hFails
            cases hFails

theorem readLoop_respects_iff
    (answers : List DosRead)
    (len : Int) :
    (readLoop answers [] []).Respects len ↔
      ((answersUsed answers).flatMap bytesOf).length ≤ len ∧
        ∀ a ∈ (answersUsed answers).tail, a.isOk = true := by
  have hStored := readLoop_stored answers [] []
  rw [List.nil_append] at hStored
  constructor
  · rintro ⟨hRoom, -, hHanded⟩
    rw [hStored] at hRoom
    exact ⟨hRoom, (readLoop_handed_iff answers).mp hHanded⟩
  · rintro ⟨hRoom, hOk⟩
    constructor
    · rw [hStored]
      exact hRoom
    · exact fun n => readLoop_count
    · exact (readLoop_handed_iff answers).mpr hOk

------------------------------------------------------------
-- Reading From A Queue
------------------------------------------------------------

/- DOS hands out the messages of a queue. -/
inductive Serves (reportsNext : Bool) :
    List Bytes → List DosRead → Prop
  | nil : Serves reportsNext [] []
  | cons
      (m : DosMessage)
      {rest : List Bytes}
      {answers : List DosRead}
      (next : m.next =
        if reportsNext then nextLength rest else 0)
      (more : Serves reportsNext rest answers) :
      Serves reportsNext (m.data :: rest) (.ok m :: answers)

/-
  A queue that begins with some data: what `deliver` takes
  from it is what the loop takes and stores.
-/
theorem deliver_eq_readLoop
    {reportsNext : Bool}
    {queue ms left : List Bytes}
    {answers : List DosRead}
    (hServes : Serves reportsNext queue answers)
    (hSome : queue.head? ≠ some [])
    (hDeliver : deliver reportsNext queue = some (ms, left))
    (stored : Bytes)
    (taken : List Bytes) :
    readLoop answers stored taken =
      ⟨some (stored ++ ms.flatten).length, none,
        stored ++ ms.flatten, taken ++ ms⟩ := by
  induction hServes generalizing ms left stored taken with
  | nil => cases hDeliver
  | @cons m rest answers hNext hMore ih =>
      have hData : m.data ≠ [] := fun hNone =>
        hSome (by rw [hNone]; rfl)
      unfold deliver at hDeliver
      rw [if_neg hData] at hDeliver
      unfold readLoop
      by_cases hOn : reportsNext = true ∧ nextLength rest ≠ 0
      swap
      · rw [if_neg hOn] at hDeliver
        cases hDeliver
        have hLast : m.next = 0 := by
          rw [hNext]
          split
          next hReports =>
              by_contra hLong
              exact hOn ⟨hReports, hLong⟩
          next => rfl
        rw [if_pos (.inr hLast)]
        simp
      have hGoes : ¬ (m.data = [] ∨ m.next = 0) := by
        rw [hNext, if_pos hOn.1]
        exact not_or.mpr ⟨hData, hOn.2⟩
      have hHead : rest.head? ≠ some [] := by
        cases rest with
        | nil => exact absurd rfl hOn.2
        | cons x xs =>
            intro hEmpty
            rw [Option.some.inj hEmpty] at hOn
            exact hOn.2 rfl
      rw [if_pos hOn] at hDeliver
      rw [if_neg hGoes]
      cases hRest : deliver reportsNext rest with
      | none =>
          cases rest with
          | nil => exact absurd rfl hOn.2
          | cons x xs =>
              unfold deliver at hRest
              rw [if_neg (fun h => hHead (by rw [h]; rfl))]
                at hRest
              split at hRest
              · split at hRest
                · cases hRest
                · cases hRest
              · cases hRest
      | some found =>
          rcases found with ⟨more, left'⟩
          rw [hRest] at hDeliver
          cases hDeliver
          rw [ih hHead hRest]
          simp

------------------------------------------------------------
-- A Whole Read
------------------------------------------------------------

theorem mailslotInit_ready
    {env : InitEnv}
    {ready : Bool}
    {s s' : MailTables}
    (hRun : mailslotInit env s = .ok (ready, s')) :
    ready = true ↔ s.Ready env := by
  unfold mailslotInit at hRun
  rw [run_bind_ok (run_get s)] at hRun
  unfold MailTables.Ready
  split at hRun
  next hInited =>
      cases hRun
      simp [hInited]
  next hInited =>
      rw [eq_false hInited, false_or]
      split at hRun
      next hNone =>
          cases hRun
          simp [hNone]
      next hManager =>
          rw [run_bind_ok (run_modify _ s)] at hRun
          rcases bind_eq_ok.mp hRun with
            ⟨granted, t, hAlloc, hRest⟩
          rw [(allocateDosMemory_ok hAlloc).1] at hRest
          rw [not_not] at hManager
          cases hTransfer : env.transfer with
          | none =>
              rw [hTransfer] at hRest
              cases hRest
              simp
          | some block =>
              rw [hTransfer] at hRest
              cases hRest
              simp [hManager]

/- The library cannot be used, or an argument is refused. -/
def readRefused
    (env : InitEnv)
    (hMailslot : Option Nat)
    (msg : Option Bytes)
    (s : MailTables) : Prop :=
  ¬ s.Ready env ∨ hMailslot = none ∨ msg = none

instance
    (env : InitEnv)
    (hMailslot : Option Nat)
    (msg : Option Bytes)
    (s : MailTables) :
    Decidable (readRefused env hMailslot msg s) :=
  inferInstanceAs (Decidable (_ ∨ _ ∨ _))

/- A read that did not get to the loop. -/
theorem respects_of_refused
    {len : Int}
    (hLength : 1 ≤ len)
    (errno : Option Errno) :
    (⟨some (-1), errno, [], []⟩ : ReadResult).Respects
      len := by
  constructor
  · exact le_trans Int.one_pos.le hLength
  · intro n hRet hSuccess
    exact absurd (Option.some.inj hRet).symm hSuccess
  · exact fun _ => rfl

/-
  A read respects the caller's buffer if and only if it is
  refused, or the messages that DOS hands out in the call
  are at most `len` bytes together and no call fails behind
  one of them.
-/
theorem mailslotRead_respects_iff
    {env : InitEnv}
    {answers : List DosRead}
    {hMailslot : Option Nat}
    {msg : Option Bytes}
    {len : Int}
    {s s' : MailTables}
    {r : ReadResult}
    (hLength : 1 ≤ len)
    (hRun : mailslotRead env answers hMailslot msg len s =
      .ok (r, s')) :
    r.Respects len ↔
      readRefused env hMailslot msg s ∨
        ((answersUsed answers).flatMap bytesOf).length ≤ len ∧
          ∀ a ∈ (answersUsed answers).tail,
            a.isOk = true := by
  rcases bind_eq_ok.mp hRun with ⟨ready, t, hInit, hRest⟩
  have hReady := mailslotInit_ready hInit
  unfold readRefused
  split at hRest
  next hNone =>
      cases hRest
      have hRefused : ¬ s.Ready env := by
        rw [← hReady, hNone]
        decide
      exact iff_of_true (respects_of_refused hLength none)
        (.inl (.inl hRefused))
  next hSome =>
      have hUse : s.Ready env :=
        hReady.mp (Bool.eq_true_of_not_eq_false hSome)
      split at hRest
      next hBad =>
          cases hRest
          have hRefused : hMailslot = none ∨ msg = none := by
            rcases hBad with hShort | hBad
            · omega
            · exact hBad
          exact iff_of_true
            (respects_of_refused hLength (some .EINVAL))
            (.inl (.inr hRefused))
      next hGood =>
          rw [if_neg (by omega)] at hRest
          cases hRest
          rw [readLoop_respects_iff]
          constructor
          · exact .inr
          · rintro (hRefused | hFits)
            · rcases hRefused with hIdle | hBad
              · exact absurd hUse hIdle
              · exact absurd (.inr hBad) hGood
            · exact hFits

theorem mailslotRead_one :
    (readLoop [.ok ⟨[1, 2], 0, by decide⟩] [] []).Respects
      2 :=
  (mailslotRead_respects_iff (by decide)
    (show mailslotRead ⟨true, none⟩
        [.ok ⟨[1, 2], 0, by decide⟩] (some 9) (some [0, 0])
        2 MailTables.ready =
      .ok (readLoop [.ok ⟨[1, 2], 0, by decide⟩] [] [],
        MailTables.ready) from rfl)).mpr
    (.inr ⟨by decide, by decide⟩)

/- Two messages for a buffer of one byte, then an error. -/
def twoMessages : List DosRead :=
  [.ok ⟨[1, 2], 3, by decide⟩, .ok ⟨[3, 4, 5], 1, by decide⟩,
    .error .EAGAIN]

/- They are written past the buffer, and then lost. -/
theorem messages_overrun :
    ¬ ∀ (env : InitEnv) (answers : List DosRead)
      (hMailslot : Option Nat) (msg : Option Bytes)
      (len : Int) (s s' : MailTables) (r : ReadResult),
      1 ≤ len →
        mailslotRead env answers hMailslot msg len s =
            .ok (r, s') →
          r.Respects len := by
  intro hRespects
  have hRoom := (hRespects ⟨true, none⟩ twoMessages (some 9)
    (some [0]) 1 MailTables.ready MailTables.ready
    (readLoop twoMessages [] []) (by decide) rfl).room
  exact absurd hRoom (by decide)

end Libsocket
