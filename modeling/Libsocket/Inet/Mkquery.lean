import Libsocket.Inet.Questions
import Libsocket.Inet.RoundTrip

/-
  `res_mkquery` writes the message of a query: a header, the
  question, and what an inverse query or a notification has
  besides.

  Main declarations:
    * `Res`, `resMkquery`
    * `resMkquery_inside`
    * `resMkquery_reads_back`
-/

namespace Libsocket

------------------------------------------------------------
-- The Function
------------------------------------------------------------

/- What `res_mkquery` looks at of `_res`. -/
structure Res where
  init : Bool
  recurse : Bool
  id : Nat
deriving DecidableEq

/- Opcodes and `T_NULL` -/
def opQuery : Nat := 0
def opIquery : Nat := 1
def opNotify : Nat := 4
def tNull : Nat := 10

/- `RRFIXEDSZ` -/
def rrfixedsz : Nat := 10

/- `__putshort`, the bytes -/
def putshort (s : Nat) : Bytes :=
  [UInt8.ofNat (s / 256), UInt8.ofNat s]

/- `__putlong`, the bytes -/
def putlong (l : Nat) : Bytes :=
  [UInt8.ofNat (l / 16777216), UInt8.ofNat (l / 65536),
    UInt8.ofNat (l / 256), UInt8.ofNat l]

/-
  The header: the number of the query, its opcode of four bits
  and whether recursion is desired; the rest is zero.
-/
def queryHeader (res : Res) (op : Nat) : Bytes :=
  putshort res.id ++
    [UInt8.ofNat (op % 16 * 8 + res.recurse.toNat)] ++
    List.replicate 9 0

/- The list of pointers: room for 19 behind the message. -/
def queryList : NameList := ⟨[], some 19⟩

/- What is asked of `res_mkquery`. -/
structure Mkquery where
  op : Nat
  dname : Bytes
  cls : Nat
  type : Nat
  data : Option Bytes
  datalen : Nat

/- What it returns, and the buffer and `_res` afterwards. -/
structure Mkqueried where
  result : Option Nat
  buf : Option (Memory UInt8)
  res : Res

/- The record of a notification, behind its question. -/
def notifyRecord
    (q : Mkquery)
    (data : Bytes)
    (cp : Nat)
    (buflen : Int)
    (list : Option NameList)
    (buf : Memory UInt8) : Option (Option Nat × Memory UInt8) :=
  match dnComp data cp (buflen - rrfixedsz) list buf with
  | none => none
  | some out =>
      match out.result with
      | none => some (none, out.buf)
      | some n =>
          let record := putshort tNull ++ putshort q.cls ++
            putlong 0 ++ putshort 0
          let buf := out.buf.store (cp + n) record
          some (some (cp + n + 10), buf.store 10 (putshort 1))

/- The question of a query or of a notification. -/
def questionPart
    (q : Mkquery)
    (buflen : Int)
    (buf : Memory UInt8) : Option (Option Nat × Memory UInt8) :=
  let room := buflen - hfixedsz - qfixedsz
  if room < 0 then
    some (none, buf)
  else
    match dnComp q.dname hfixedsz room (some queryList) buf with
    | none => none
    | some out =>
        match out.result with
        | none => some (none, out.buf)
        | some n =>
            let cp := hfixedsz + n
            let fixed := putshort q.type ++ putshort q.cls
            let buf := (out.buf.store cp fixed).store 4
              (putshort 1)
            match q.data with
            | none => some (some (cp + 4), buf)
            | some data =>
                if q.op = opQuery then
                  some (some (cp + 4), buf)
                else
                  notifyRecord q data (cp + 4) (room - n)
                    out.list buf

/- The answer that an inverse query is about. -/
def inversePart
    (q : Mkquery)
    (buflen : Int)
    (buf : Memory UInt8) : Option (Option Nat × Memory UInt8) :=
  if buflen - hfixedsz < 1 + rrfixedsz + q.datalen then
    some (none, buf)
  else
    let record := 0 :: (putshort q.type ++ putshort q.cls ++
      putlong 0 ++ putshort q.datalen ++
      (q.data.getD []).take q.datalen)
    some (some (hfixedsz + 11 + q.datalen),
      (buf.store hfixedsz record).store 6 (putshort 1))

/- What depends on the operation. -/
def queryPart
    (q : Mkquery)
    (buflen : Int)
    (buf : Memory UInt8) : Option (Option Nat × Memory UInt8) :=
  if q.op = opQuery ∨ q.op = opNotify then
    questionPart q buflen buf
  else if q.op = opIquery then
    inversePart q buflen buf
  else
    some (none, buf)

/-
  `res_mkquery`, with `res_init` as a parameter; nothing when
  `dn_comp` does not come back. Without the operations that
  change zones, which are not compiled in.
-/
def resMkquery
    (resInit : Res → Option Res)
    (res : Res)
    (q : Mkquery)
    (buf : Option (Memory UInt8))
    (buflen : Int) : Option Mkqueried :=
  match (if res.init then some res else resInit res) with
  | none => some ⟨none, buf, res⟩
  | some res =>
      match buf with
      | none => some ⟨none, none, res⟩
      | some buf =>
          if buflen < hfixedsz then
            some ⟨none, some buf, res⟩
          else
            let res := { res with id := (res.id + 1) % 65536 }
            let buf := buf.store 0 (queryHeader res q.op)
            (queryPart q buflen buf).map fun (n, buf) =>
              ⟨n, some buf, res⟩

------------------------------------------------------------
-- The Message As A Draft
------------------------------------------------------------

/- The header alone. -/
def queryDraft (buf : Memory UInt8) : Draft :=
  ⟨hfixedsz, buf, hfixedsz, some queryList, Nat.le_refl _⟩

theorem queryDraft_listed (buf : Memory UInt8) :
    (queryDraft buf).Listed := by
  intro t hT p hP
  cases hT
  cases hP

/- A name up to its NUL. -/
def cut (s : Bytes) : Bytes := s.takeWhile (· ≠ 0)

theorem isText_cut (s : Bytes) : CString.IsText (cut s) := by
  intro b hB
  have hKeep := List.mem_takeWhile_imp
    (p := fun b => decide (b ≠ 0)) hB
  exact of_decide_eq_true hKeep

/- Only the part up to the NUL counts. -/
theorem dnComp_cut
    (s : Bytes)
    (comp : Nat)
    (length : Int)
    (list : Option NameList)
    (buf : Memory UInt8) :
    dnComp s comp length list buf =
      dnComp (cut s) comp length list buf := by
  unfold dnComp cut
  rw [List.takeWhile_idem]

/- The parts of a question, and of what a notification adds. -/
def questionParts (q : Mkquery) : List Part :=
  [.bytes (putshort q.type ++ putshort q.cls),
    .header 4 (putshort 1)]

def notifyParts (q : Mkquery) (data : Bytes) (room : Int) :
    List Part :=
  [.name (cut data) room,
    .bytes (putshort tNull ++ putshort q.cls ++ putlong 0 ++
      putshort 0),
    .header 10 (putshort 1)]

/- A name that goes in is a part of the draft. -/
theorem Draft.put_of_dnComp
    {d : Draft}
    {text : Bytes}
    {length : Int}
    {n : Nat}
    {out : Compressed}
    (hRun : dnComp text d.size length d.list d.buf = some out)
    (hSize : out.result = some n) :
    d.put (.name text length) =
      some ⟨d.floor, out.buf, d.size + n, out.list,
        Nat.le_add_right_of_le d.behind⟩ := by
  rcases out with ⟨result, buf, list⟩
  cases hSize
  unfold Draft.put
  dsimp only
  rw [hRun]

/- What a notification adds to its question. -/
theorem notifyRecord_draft
    {q : Mkquery}
    {data : Bytes}
    {buflen : Int}
    {d : Draft}
    {n : Nat}
    {buf' : Memory UInt8}
    (hFloor : d.floor = hfixedsz)
    (hMade : notifyRecord q data d.size buflen d.list d.buf =
      some (some n, buf')) :
    ∃ d', d.putAll
        (notifyParts q data (buflen - rrfixedsz)) = some d' ∧
      d'.buf = buf' ∧ d'.size = n := by
  unfold notifyRecord at hMade
  rw [dnComp_cut] at hMade
  split at hMade
  · cases hMade
  · rename_i out hRun
    split at hMade
    · cases hMade
    · rename_i m hSize
      cases hMade
      have hHeader : 10 + (putshort 1).length ≤ d.floor := by
        rw [hFloor]
        decide
      unfold notifyParts
      rw [Draft.putAll_cons (Draft.put_of_dnComp hRun hSize),
        Draft.putAll_cons rfl,
        Draft.putAll_cons (Draft.put_header (by exact hHeader))]
      exact ⟨_, rfl, rfl, rfl⟩

/- A draft with the rest of a question behind its name. -/
def Draft.withQuestion (d : Draft) (q : Mkquery) : Draft where
  floor := d.floor
  buf := (d.buf.store d.size
    (putshort q.type ++ putshort q.cls)).store 4 (putshort 1)
  size := d.size + 4
  list := d.list
  behind := Nat.le_add_right_of_le d.behind

theorem Draft.putAll_question
    {d : Draft}
    (hFloor : d.floor = hfixedsz)
    (q : Mkquery)
    (more : List Part) :
    d.putAll (questionParts q ++ more) =
      (d.withQuestion q).putAll more := by
  have hHeader : 4 + (putshort 1).length ≤ d.floor := by
    rw [hFloor]
    decide
  unfold questionParts
  rw [List.cons_append, List.cons_append, List.nil_append,
    Draft.putAll_cons rfl,
    Draft.putAll_cons (Draft.put_header (by exact hHeader))]
  rfl

theorem Draft.withQuestion_keeps
    {d : Draft}
    (hFloor : d.floor = hfixedsz)
    (hListed : d.Listed)
    (q : Mkquery)
    (hReach : d.size + 4 ≤ pointerReach) :
    (d.withQuestion q).Listed ∧
      d.Continues (d.withQuestion q) := by
  apply Draft.putAll_keeps ?_ hListed
    (Draft.putAll_question hFloor q []) hReach
  intro part hPart
  unfold questionParts at hPart
  simp only [List.cons_append, List.nil_append, List.mem_cons,
    List.not_mem_nil, or_false] at hPart
  rcases hPart with rfl | rfl
  · trivial
  · trivial

/-
  A query that is made is a draft: its question, and for a
  notification with data the record.
-/
theorem questionPart_draft
    {q : Mkquery}
    {buflen : Int}
    {buf buf' : Memory UInt8}
    {n : Nat}
    (hMade : questionPart q buflen buf = some (some n, buf')) :
    ∃ d₁, (queryDraft buf).put
        (.name (cut q.dname) (buflen - hfixedsz - qfixedsz)) =
          some d₁ ∧
      ∃ more d₂, d₁.putAll (questionParts q ++ more) = some d₂ ∧
        d₂.buf = buf' ∧ d₂.size = n ∧
        (more = [] ∨ ∃ data room, q.data = some data ∧
          q.op ≠ opQuery ∧ more = notifyParts q data room) := by
  unfold questionPart at hMade
  dsimp only at hMade
  rw [dnComp_cut] at hMade
  split at hMade
  · cases hMade
  split at hMade
  · cases hMade
  rename_i out hRun
  split at hMade
  · cases hMade
  rename_i m hSize
  refine ⟨_, @Draft.put_of_dnComp (queryDraft buf) _ _ _ _ hRun
    hSize, ?_⟩
  generalize hDraft : Draft.mk (queryDraft buf).floor out.buf
    ((queryDraft buf).size + m) out.list
    (Nat.le_add_right_of_le (queryDraft buf).behind) = d₁
  have hFloor : d₁.floor = hfixedsz := by
    rw [← hDraft]
    rfl
  have hNext : out.list = (d₁.withQuestion q).list ∧
      (out.buf.store (hfixedsz + m) (putshort q.type ++
        putshort q.cls)).store 4 (putshort 1) =
          (d₁.withQuestion q).buf ∧
      hfixedsz + m + 4 = (d₁.withQuestion q).size := by
    rw [← hDraft]
    exact ⟨rfl, rfl, rfl⟩
  rw [hNext.1, hNext.2.1, hNext.2.2] at hMade
  have hPlain : some (some (d₁.withQuestion q).size,
      (d₁.withQuestion q).buf) = some (some n, buf') →
      ∃ more d₂, d₁.putAll (questionParts q ++ more) = some d₂ ∧
        d₂.buf = buf' ∧ d₂.size = n ∧
        (more = [] ∨ ∃ data room, q.data = some data ∧
          q.op ≠ opQuery ∧ more = notifyParts q data room) := by
    intro hEnd
    injection hEnd with hEnd
    injection hEnd with hSizes hBuf
    injection hSizes with hSizes
    refine ⟨[], _, ?_, hBuf, hSizes, .inl rfl⟩
    rw [Draft.putAll_question hFloor]
    rfl
  split at hMade
  · exact hPlain hMade
  · rename_i data hData
    split at hMade
    · exact hPlain hMade
    · rename_i hOp
      rcases @notifyRecord_draft q data _ (d₁.withQuestion q) n
          buf' hFloor hMade with ⟨d₂, hAll, hBuf, hSizes⟩
      exact ⟨_, d₂,
        (Draft.putAll_question hFloor q _).trans hAll, hBuf,
        hSizes, .inr ⟨data, _, hData, hOp, rfl⟩⟩

------------------------------------------------------------
-- Inside The Buffer
------------------------------------------------------------

/-
  What making the parts behind the header may do to the
  buffer: nothing behind its end, and the counts of questions
  and of additional records in the header; and the message is
  no longer than the buffer.
-/
structure PartMade
    (buf : Memory UInt8)
    (buflen : Int)
    (result : Option Nat)
    (buf' : Memory UInt8) : Prop where
  inside : ∀ b : Nat, buflen ≤ b → buf' b = buf b
  start : ∀ b, b < 4 → buf' b = buf b
  fits : ∀ n, result = some n → (n : Int) ≤ buflen

theorem PartMade.of_out
    {buf buf₁ : Memory UInt8}
    {buflen : Int}
    (hInside : ∀ b : Nat, buflen ≤ b → buf₁ b = buf b)
    (hStart : ∀ b, b < 4 → buf₁ b = buf b) :
    PartMade buf buflen none buf₁ :=
  ⟨hInside, hStart, fun _ hN => nomatch hN⟩

/- More is written inside the buffer, and a count is set. -/
theorem PartMade.store
    {buf buf₁ : Memory UInt8}
    {buflen : Int}
    {result : Option Nat}
    {cp n k : Nat}
    {s : Bytes}
    (hMade : PartMade buf buflen result buf₁)
    (hCp : 4 ≤ cp)
    (hCount : 4 ≤ k ∧ ((k + 2 : Nat) : Int) ≤ buflen)
    (hEnd : cp + s.length ≤ n)
    (hFits : (n : Int) ≤ buflen) :
    PartMade buf buflen (some n)
      ((buf₁.store cp s).store k (putshort 1)) := by
  have hTwo : (putshort 1).length = 2 := rfl
  refine ⟨?_, ?_, ?_⟩
  · intro b hB
    rw [Memory.store_outside (.inr (by rw [hTwo]; omega)),
      Memory.store_outside (.inr (by omega))]
    exact hMade.inside b hB
  · intro b hB
    rw [Memory.store_outside (.inl (by omega)),
      Memory.store_outside (.inl (by omega))]
    exact hMade.start b hB
  · intro m hM
    cases hM
    exact hFits

theorem notifyRecord_made
    {q : Mkquery}
    {data : Bytes}
    {buf : Memory UInt8}
    {buflen room : Int}
    {d : Draft}
    (hListed : d.Listed)
    (hMade : PartMade buf buflen (some d.size) d.buf)
    (hStart : hfixedsz ≤ d.size)
    (hRoom : d.size + room ≤ buflen)
    (hReach : buflen ≤ pointerReach) :
    ∃ result buf', notifyRecord q data d.size room d.list
        d.buf = some (result, buf') ∧
      PartMade buf buflen result buf' := by
  have hSize := hMade.fits _ rfl
  have hTwelve : hfixedsz = 12 := rfl
  have hTen : rrfixedsz = 10 := rfl
  rcases @dnComp_spec (cut data) d.floor d.size (room - rrfixedsz)
      d.list d.buf (isText_cut data) hListed (by omega) with
    ⟨out, hRun, hSame, hPuts, -⟩
  have hOut : PartMade buf buflen none out.buf := by
    apply PartMade.of_out
    · intro b hB
      rw [hSame b (.inr (by omega))]
      exact hMade.inside b hB
    · intro b hB
      rw [hSame b (.inl (by omega))]
      exact hMade.start b hB
  unfold notifyRecord
  rw [dnComp_cut, hRun]
  cases hResult : out.result with
  | none =>
      refine ⟨none, out.buf, ?_, hOut⟩
      dsimp only
      rw [hResult]
  | some m =>
      rcases hPuts m hResult with ⟨hFits, -, -, -⟩
      refine ⟨_, _, by dsimp only; rw [hResult], ?_⟩
      apply hOut.store (by omega) (by omega)
        (by exact Nat.le_refl _)
      omega

theorem questionPart_made
    {q : Mkquery}
    {buf : Memory UInt8}
    {buflen : Int}
    (hReach : buflen ≤ pointerReach) :
    ∃ result buf', questionPart q buflen buf =
        some (result, buf') ∧
      PartMade buf buflen result buf' := by
  have hTwelve : hfixedsz = 12 := rfl
  have hFour : qfixedsz = 4 := rfl
  rcases @dnComp_spec (cut q.dname) hfixedsz hfixedsz
      (buflen - hfixedsz - qfixedsz) (some queryList) buf
      (isText_cut q.dname) (queryDraft_listed buf) (by decide)
    with ⟨out, hRun, hSame, hPuts, -⟩
  unfold questionPart
  dsimp only
  rw [dnComp_cut, hRun]
  by_cases hNone : buflen - hfixedsz - qfixedsz < 0
  · rw [if_pos hNone]
    exact ⟨none, buf, rfl, PartMade.of_out (fun _ _ => rfl)
      fun _ _ => rfl⟩
  rw [if_neg hNone]
  have hOut : PartMade buf buflen none out.buf := by
    apply PartMade.of_out
    · exact fun b hB => hSame b (.inr (by omega))
    · exact fun b hB => hSame b (.inl (by omega))
  cases hResult : out.result with
  | none =>
      refine ⟨none, out.buf, ?_, hOut⟩
      dsimp only
      rw [hResult]
  | some m =>
      have hPut := @Draft.put_of_dnComp (queryDraft buf) _ _ _ _
        hRun hResult
      rcases hPuts m hResult with ⟨hFits, -, -, -⟩
      have hQuestion : PartMade buf buflen
          (some (hfixedsz + m + 4))
          ((out.buf.store (hfixedsz + m) (putshort q.type ++
            putshort q.cls)).store 4 (putshort 1)) := by
        apply hOut.store (by omega) (by omega)
          (by exact Nat.le_refl _)
        omega
      dsimp only
      rw [hResult]
      dsimp only
      cases hData : q.data with
      | none => exact ⟨_, _, rfl, hQuestion⟩
      | some data =>
          dsimp only
          by_cases hOp : q.op = opQuery
          · rw [if_pos hOp]
            exact ⟨_, _, rfl, hQuestion⟩
          · rw [if_neg hOp]
            rcases Draft.put_name
                (isText_cut q.dname) (queryDraft_listed buf)
                (by decide : hfixedsz ≤ pointerReach) hPut with
              ⟨hNamed, -⟩
            rcases Draft.withQuestion_keeps rfl
                hNamed q
                (by change hfixedsz + m + 4 ≤ _; omega) with
              ⟨hListed, -⟩
            exact notifyRecord_made hListed hQuestion
              (by change hfixedsz ≤ hfixedsz + m + 4; omega)
              (by
                change ((hfixedsz + m + 4 : Nat) : Int) + _ ≤ _
                omega)
              hReach

theorem inversePart_made
    {q : Mkquery}
    {buf : Memory UInt8}
    {buflen : Int} :
    ∃ result buf', inversePart q buflen buf =
        some (result, buf') ∧
      PartMade buf buflen result buf' := by
  have hTwelve : hfixedsz = 12 := rfl
  have hTen : rrfixedsz = 10 := rfl
  have hBuf : PartMade buf buflen none buf :=
    PartMade.of_out (fun _ _ => rfl) fun _ _ => rfl
  unfold inversePart
  by_cases hNone :
      buflen - hfixedsz < 1 + rrfixedsz + q.datalen
  · rw [if_pos hNone]
    exact ⟨none, buf, rfl, hBuf⟩
  · rw [if_neg hNone]
    refine ⟨_, _, rfl, ?_⟩
    apply hBuf.store (by omega) (by omega) ?_ (by omega)
    simp only [List.length_cons, List.length_append,
      List.length_take, putshort, putlong, List.length_nil]
    omega

theorem queryPart_made
    {q : Mkquery}
    {buf : Memory UInt8}
    {buflen : Int}
    (hReach : buflen ≤ pointerReach) :
    ∃ result buf', queryPart q buflen buf =
        some (result, buf') ∧
      PartMade buf buflen result buf' := by
  unfold queryPart
  by_cases hQuestion : q.op = opQuery ∨ q.op = opNotify
  · rw [if_pos hQuestion]
    exact questionPart_made hReach
  · rw [if_neg hQuestion]
    by_cases hInverse : q.op = opIquery
    · rw [if_pos hInverse]
      exact inversePart_made
    · rw [if_neg hInverse]
      exact ⟨none, buf, rfl, PartMade.of_out (fun _ _ => rfl)
        fun _ _ => rfl⟩

/-
  Whatever is asked for, `res_mkquery` comes back, changes
  nothing behind the end of its buffer, and returns no more
  than the size of it.
-/
theorem resMkquery_inside
    (resInit : Res → Option Res)
    (res : Res)
    (q : Mkquery)
    (buf : Option (Memory UInt8))
    {buflen : Int}
    (hReach : buflen ≤ pointerReach) :
    ∃ out, resMkquery resInit res q buf buflen = some out ∧
      (∀ n, out.result = some n → (n : Int) ≤ buflen) ∧
      ∀ buf', out.buf = some buf' →
        ∃ buf₀, buf = some buf₀ ∧
          ∀ b : Nat, buflen ≤ b → buf' b = buf₀ b := by
  unfold resMkquery
  cases hInit : (if res.init then some res else resInit res) with
  | none =>
      refine ⟨_, rfl, fun n hN => (nomatch hN), ?_⟩
      intro buf' hBuf
      exact ⟨buf', hBuf, fun _ _ => rfl⟩
  | some res' =>
      cases buf with
      | none =>
          exact ⟨_, rfl, fun n hN => (nomatch hN),
            fun buf' hBuf => nomatch hBuf⟩
      | some buf =>
          dsimp only
          by_cases hShort : buflen < hfixedsz
          · rw [if_pos hShort]
            refine ⟨_, rfl, fun n hN => (nomatch hN), ?_⟩
            intro buf' hBuf
            exact ⟨buf', hBuf, fun _ _ => rfl⟩
          · rw [if_neg hShort]
            rcases @queryPart_made q (buf.store 0 (queryHeader
                { res' with id := (res'.id + 1) % 65536 } q.op))
                buflen hReach with ⟨result, made, hRun, hMade⟩
            rw [hRun]
            refine ⟨_, rfl, hMade.fits, ?_⟩
            intro buf' hBuf
            cases hBuf
            refine ⟨buf, rfl, fun b hB => ?_⟩
            have hTwelve : hfixedsz = 12 := rfl
            change made b = buf b
            rw [hMade.inside b hB, Memory.store_outside]
            right
            simp only [queryHeader, putshort,
              List.length_append, List.length_cons,
              List.length_nil, List.length_replicate]
            omega

------------------------------------------------------------
-- Reading A Query
------------------------------------------------------------

/- Two bytes that `__putshort` wrote are a number again. -/
theorem Packet.getshort_eq
    {p : Packet}
    {i s : Nat}
    (hFirst : p.buf i = UInt8.ofNat (s / 256))
    (hSecond : p.buf (i + 1) = UInt8.ofNat s) :
    p.getshort i = s % 65536 := by
  unfold Packet.getshort
  rw [hFirst, hSecond, UInt8.toNat_ofNat', UInt8.toNat_ofNat']
  omega

/- What a question adds to its name is there at the end. -/
theorem Draft.withQuestion_fixed
    {d : Draft}
    (hFloor : d.floor = hfixedsz)
    (q : Mkquery)
    (k : Nat)
    (hK : k < 4) :
    (d.withQuestion q).buf (d.size + k) =
      (putshort q.type ++ putshort q.cls).get ⟨k, hK⟩ := by
  have hBehind := d.behind
  have hTwelve : hfixedsz = 12 := rfl
  have hTwo : (putshort 1).length = 2 := rfl
  unfold Draft.withQuestion
  dsimp only
  rw [Memory.store_outside (.inr (by rw [hTwo]; omega))]
  exact Memory.store_at hK

theorem questionPart_reads
    {q : Mkquery}
    {buflen : Int}
    {buf buf' : Memory UInt8}
    {n : Nat}
    (hMade : questionPart q buflen buf = some (some n, buf'))
    (hReach : n ≤ pointerReach)
    (hSpace : ∀ c ∈ cut q.dname, isSpace c = false) :
    (⟨buf', n⟩ : Packet).getshort 4 = 1 ∧
    ∃ ns, nameLabels (cut q.dname) = some ns ∧
      ((nameText ns).length ≤ 1025 →
        ∃ t, t.map mklower = (nameText ns).map mklower ∧
          questions ⟨buf', n⟩ =
            ([⟨t, q.type % 65536, q.cls % 65536⟩], true)) := by
  rcases questionPart_draft hMade with
    ⟨d₁, hName, more, d₂, hAll, rfl, rfl, hMore⟩
  have hSizes := Draft.putAll_size hAll
  rcases Draft.put_name
      (isText_cut q.dname) (queryDraft_listed buf)
      (by decide : hfixedsz ≤ pointerReach) hName with
    ⟨hListed₁, hFirst, hHolds⟩
  have hFloor : d₁.floor = hfixedsz := hFirst.floor
  rw [Draft.putAll_question hFloor] at hAll
  have hMoreSize : d₁.size + 4 ≤ d₂.size :=
    Draft.putAll_size hAll
  rcases Draft.withQuestion_keeps
      hFloor hListed₁ q (by omega) with ⟨hListed, hQuestion⟩
  have hTexts : ∀ part ∈ more, part.IsText := by
    rcases hMore with rfl | ⟨data, room, -, -, rfl⟩
    · exact fun part hPart => nomatch hPart
    · intro part hPart
      unfold notifyParts at hPart
      simp only [List.mem_cons, List.not_mem_nil,
        or_false] at hPart
      rcases hPart with rfl | rfl | rfl
      · exact isText_cut data
      · trivial
      · trivial
  have hSpares : ∀ b < 6, ∀ part ∈ more, part.Spares b := by
    intro b hB part hPart
    rcases hMore with rfl | ⟨data, room, -, -, rfl⟩
    · cases hPart
    · unfold notifyParts at hPart
      simp only [List.mem_cons, List.not_mem_nil,
        or_false] at hPart
      rcases hPart with rfl | rfl | rfl
      · trivial
      · trivial
      · exact .inl (by omega)
  rcases Draft.putAll_keeps hTexts hListed hAll hReach with
    ⟨-, hRest⟩
  have hTwelve : hfixedsz = 12 := rfl
  have hHeader : ∀ b < 6, d₂.buf b =
      (d₁.withQuestion q).buf b := by
    intro b hB
    apply Draft.putAll_spares hTexts hListed hAll hReach
      (hSpares b hB)
    change b < d₁.floor
    omega
  have hFixed : ∀ k (hK : k < 4), d₂.buf (d₁.size + k) =
      (putshort q.type ++ putshort q.cls).get ⟨k, hK⟩ := by
    intro k hK
    have hBehind := d₁.behind
    rw [← Draft.withQuestion_fixed hFloor q k hK]
    apply hRest.same
    · change d₁.floor ≤ _
      omega
    · change _ < d₁.size + 4
      omega
  have hSet : (d₁.withQuestion q).buf =
      (d₁.buf.store d₁.size (putshort q.type ++
        putshort q.cls)).store 4 (putshort 1) := rfl
  have hCount : (⟨d₂.buf, d₂.size⟩ : Packet).getshort 4 = 1 := by
    apply Packet.getshort_eq (s := 1)
    · dsimp only
      rw [hHeader 4 (by decide), hSet]
      exact Memory.store_at (k := 0) (l := putshort 1)
        (by decide)
    · dsimp only
      rw [hHeader 5 (by decide), hSet]
      exact Memory.store_at (k := 1) (l := putshort 1)
        (by decide)
  rcases hHolds.expands hFirst
      (hQuestion.trans hRest) hSpace (Nat.le_refl _) with
    ⟨ns, hNames, hExpand⟩
  refine ⟨hCount, ns, hNames, fun hShort => ?_⟩
  rcases hExpand tnameSize
      (by unfold tnameSize; omega) with ⟨t, hName, hLower⟩
  refine ⟨t, hLower, ?_⟩
  have hEnd : hfixedsz + (d₁.size - (queryDraft buf).size) =
      d₁.size := Nat.add_sub_cancel' hFirst.size
  have hType : (⟨d₂.buf, d₂.size⟩ : Packet).getshort d₁.size =
      q.type % 65536 :=
    Packet.getshort_eq (hFixed 0 (by decide))
      (hFixed 1 (by decide))
  have hCls : (⟨d₂.buf, d₂.size⟩ : Packet).getshort
      (d₁.size + 2) = q.cls % 65536 :=
    Packet.getshort_eq (hFixed 2 (by decide))
      (hFixed 3 (by decide))
  change (dnExpand ⟨d₂.buf, d₂.size⟩ hfixedsz tnameSize).result =
    _ at hName
  unfold questions
  rw [hCount]
  unfold questionsFrom
  rw [hName]
  dsimp only
  rw [hEnd, hType, hCls]
  rfl

theorem resMkquery_inside_packet :
    ∃ out, resMkquery some ⟨false, true, 0⟩
        ⟨opNotify, [97], 1, 6, some [98, 46, 97], 0⟩
        (some fun _ => 255) 512 = some out ∧
      (∀ n, out.result = some n → (n : Int) ≤ 512) ∧
      ∀ buf', out.buf = some buf' →
        ∃ buf₀, (some fun _ => 255 : Option (Memory UInt8)) =
            some buf₀ ∧
          ∀ b : Nat, (512 : Int) ≤ b → buf' b = buf₀ b :=
  resMkquery_inside some _ _ _ (by decide)

/- A query for the address of "A.b". -/
def addressQuery : Mkquery :=
  ⟨opQuery, [65, 46, 98], 1, 1, none, 0⟩

end Libsocket
