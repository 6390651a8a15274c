import Libsocket.Inet.SendRuns

/-
  An answer that `res_send` reads from a virtual circuit: in
  whatever pieces the length and the answer come, the answer
  is what the server sent, as far as there is room.

  Main declarations:
    * `Reply.IsPiece`, `cameIn`
    * `resSendSession_reads`
-/

namespace Libsocket

/- A reply of `read` with some bytes. -/
def Reply.IsPiece (r : Reply) : Prop :=
  r.n = (r.data.length : Int) ∧ r.data ≠ []

/- Some bytes came in, in pieces. -/
def CameIn (rs : List Reply) (bs : Bytes) : Prop :=
  rs.flatMap Reply.data = bs ∧ ∀ r ∈ rs, r.IsPiece

variable {c : SendCall} {st : Sending}

theorem Reply.IsPiece.positive
    {r : Reply}
    (hPiece : r.IsPiece) :
    0 < r.n := by
  rw [hPiece.1]
  have hPos := List.length_pos_of_ne_nil hPiece.2
  omega

theorem Reply.IsPiece.toNat
    {r : Reply}
    (hPiece : r.IsPiece) :
    r.n.toNat = r.data.length := by
  rw [hPiece.1]
  exact Int.toNat_natCast _

theorem CameIn.nil
    {rs : List Reply}
    (hCame : CameIn rs []) :
    rs = [] := by
  cases rs with
  | nil => rfl
  | cons r rs =>
      have hR := (hCame.2 r List.mem_cons_self).2
      have hNone := hCame.1
      rw [List.flatMap_cons, List.append_eq_nil_iff] at hNone
      exact absurd hNone.1 hR

theorem CameIn.some
    {rs : List Reply}
    {bs : Bytes}
    (hCame : CameIn rs bs)
    (hSome : bs ≠ []) :
    rs ≠ [] := by
  rintro rfl
  exact hSome hCame.1.symm

------------------------------------------------------------
-- The Three Loops
------------------------------------------------------------

/- What was stored, and the place behind it. -/
abbrev Stored : Type := Memory UInt8 × Nat

def Stored.keep (k : Stored) (a : Bytes) : Stored :=
  (k.1.store k.2 a, k.2 + a.length)

theorem Stored.keep_append
    (k : Stored)
    (a b : Bytes) :
    (k.keep a).keep b = k.keep (a ++ b) := by
  unfold keep
  rw [Memory.store_append, List.length_append, Nat.add_assoc]

theorem readLength_pieces
    (c : SendCall)
    (st : Sending) :
    (resSendSession c).Pieces Reply.IsPiece Reply.data
      (fun (k : Stored) len =>
        ({ st with ans := k.1 }, .readLength k.2 len))
      Stored.keep
      (fun k => lengthKnown c { st with ans := k.1 })
      [.used st.s] where
  keep_append := Stored.keep_append
  onward := by
    intro k len r hPiece hLess
    have hMore : ¬ len ≤ r.n.toNat := by
      rw [hPiece.toNat]
      omega
    change SendTurn.after [.used st.s] (lengthRead c _ _ len r) =
      _
    unfold lengthRead
    dsimp only
    rw [if_pos hPiece.positive, if_neg hMore, hPiece.toNat]
    rfl
  whole := by
    intro k r hPiece
    have hAll : r.data.length ≤ r.n.toNat := hPiece.toNat.ge
    change SendTurn.after [.used st.s] (lengthRead c _ _ _ r) = _
    unfold lengthRead
    dsimp only
    rw [if_pos hPiece.positive, if_pos hAll]
    rfl

theorem readAnswer_pieces
    (c : SendCall)
    (st : Sending)
    (resplen : Nat)
    (truncated : Bool) :
    (resSendSession c).Pieces Reply.IsPiece Reply.data
      (fun (k : Stored) len =>
        ({ st with ans := k.1 },
          .readAnswer k.2 len resplen truncated))
      Stored.keep
      (fun k => answerWhole c { st with ans := k.1 } resplen
        truncated)
      [.used st.s] where
  keep_append := Stored.keep_append
  onward := by
    intro k len r hPiece hLess
    have hMore : ¬ len ≤ r.n.toNat := by
      rw [hPiece.toNat]
      omega
    change SendTurn.after [.used st.s]
      (answerRead c _ _ len _ _ r) = _
    unfold answerRead
    dsimp only
    rw [if_pos hPiece.positive, if_neg hMore, hPiece.toNat]
    rfl
  whole := by
    intro k r hPiece
    have hAll : r.data.length ≤ r.n.toNat := hPiece.toNat.ge
    change SendTurn.after [.used st.s]
      (answerRead c _ _ _ _ _ r) = _
    unfold answerRead
    dsimp only
    rw [if_pos hPiece.positive, if_pos hAll]
    rfl

/- Nothing is kept of what has no room. -/
theorem readJunk_pieces
    (c : SendCall)
    (st : Sending)
    (resplen : Nat) :
    (resSendSession c).Pieces Reply.IsPiece Reply.data
      (fun (_ : Unit) len => (st, .readJunk len resplen))
      (fun k _ => k)
      (fun _ => gotAnswer c st resplen)
      [.used st.s] where
  keep_append := fun _ _ _ => rfl
  onward := by
    intro k len r hPiece hLess
    have hMore : 0 < r.n ∧ r.n.toNat < len := by
      rw [hPiece.toNat]
      exact ⟨hPiece.positive, hLess⟩
    change SendTurn.after [.used st.s] (junkRead c _ len _ r) = _
    unfold junkRead
    rw [if_pos hMore, hPiece.toNat]
    rfl
  whole := by
    intro k r hPiece
    have hAll : ¬ (0 < r.n ∧ r.n.toNat < r.data.length) := by
      rw [hPiece.toNat]
      omega
    change SendTurn.after [.used st.s] (junkRead c _ _ _ r) = _
    unfold junkRead
    rw [if_neg hAll]
    rfl

------------------------------------------------------------
-- The Whole Answer
------------------------------------------------------------

/- A loop over what came in, whatever is recorded. -/
theorem CameIn.run
    {κ : Type}
    {wait : κ → Nat → Sending × Waiting}
    {keep : κ → Bytes → κ}
    {done : κ → SendTurn}
    {es : List NetEvent}
    (hLoop : (resSendSession c).Pieces Reply.IsPiece Reply.data
      wait keep done es)
    {rs : List Reply}
    {bs : Bytes}
    (hCame : CameIn rs bs)
    (hSome : bs ≠ [])
    (log : List NetEvent)
    (k : κ) :
    ∃ log', (resSendSession c).run rs
        (log, .inl (wait k bs.length)) =
      (log', (done (keep k bs)).2) := by
  have hRun := hLoop.run (hCame.some hSome)
    (fun r hR => ⟨hCame.2 r hR, (hCame.2 r hR).2⟩) log k
  rw [hCame.1] at hRun
  exact ⟨_, hRun⟩

theorem gotAnswer_ans
    (c : SendCall)
    (st : Sending)
    (resplen : Nat) :
    ∃ st', (gotAnswer c st resplen).2 =
        .inr (st', .answered resplen) ∧
      st'.ans = st.ans := by
  unfold gotAnswer
  split
  · refine ⟨_, rfl, ?_⟩
    unfold resClose
    split
    · rfl
    · rfl
  · exact ⟨_, rfl, rfl⟩

theorem tc_setTc (ans : Memory UInt8) :
    tc (setTc ans) = true := by
  have hAt : setTc ans 2 = ans 2 ||| 2 :=
    Memory.store_at (m := ans) (a := 2) (l := [ans 2 ||| 2])
      (k := 0) (by simp)
  have hBit : (ans 2 ||| 2).toNat.testBit 1 = true := by
    rw [UInt8.toNat_or, Nat.testBit_or]
    exact Bool.or_true _
  unfold tc
  rw [hAt]
  rw [Nat.testBit_eq_decide_div_mod_eq] at hBit
  exact hBit

/- What was stored stays, up to the byte with the mark. -/
theorem setTc_store
    {ans : Memory UInt8}
    {bs : Bytes}
    {k : Nat}
    (hK : k < bs.length)
    (hOther : k ≠ 2) :
    setTc (ans.store 0 bs) k = bs[k] := by
  have hOutside : Memory.Outside k 2 1 := by
    unfold Memory.Outside
    omega
  unfold setTc
  rw [Memory.store_outside hOutside]
  have hAt := Memory.store_at (m := ans) (a := 0) hK
  rw [Nat.zero_add] at hAt
  exact hAt

/- Nothing is left to be read, or it is passed over. -/
theorem readJunk_run
    {rests : List Reply}
    {bs : Bytes}
    (hRests : CameIn rests bs)
    (hSome : bs ≠ [])
    (log : List NetEvent)
    (st : Sending)
    (resplen : Nat) :
    ∃ log' st', (resSendSession c).run rests
        (log, .inl (st, .readJunk bs.length resplen)) =
        (log', .inr (st', .answered resplen)) ∧
      st'.ans = st.ans := by
  rcases hRests.run
      (readJunk_pieces c st resplen) hSome log () with
    ⟨log', hRun⟩
  rcases gotAnswer_ans c st resplen with ⟨st', hEnd, hAns⟩
  exact ⟨log', st', hRun.trans (by rw [hEnd]), hAns⟩

/- There is room for the whole answer. -/
theorem lengthKnown_fits
    {message : Bytes}
    {answers : List Reply}
    (hKnown : (⟨st.ans, c.anssiz⟩ : Packet).getshort 0 =
      message.length)
    (hRoom : message.length ≤ c.anssiz)
    (hAnswers : CameIn answers message)
    (log : List NetEvent) :
    ∃ log' st', (resSendSession c).run answers
        (log, (lengthKnown c st).2) =
        (log', .inr (st', .answered message.length)) ∧
      st'.ans.load 0 message.length = message := by
  rw [lengthKnown, hKnown]
  by_cases hEmpty : message.length = 0
  · rcases gotAnswer_ans c st message.length with ⟨st', hEnd, -⟩
    rw [if_pos hEmpty, hEnd, Session.run_ended]
    refine ⟨log, st', rfl, ?_⟩
    rw [hEmpty, List.eq_nil_of_length_eq_zero hEmpty]
    rfl
  · have hSome : message ≠ [] := by
      rintro rfl
      exact hEmpty rfl
    rcases hAnswers.run
        (readAnswer_pieces c st message.length false) hSome log
        (st.ans, 0) with ⟨log', hRun⟩
    rcases gotAnswer_ans c
        { st with ans := (Stored.keep (st.ans, 0) message).1 }
        message.length with ⟨st', hEnd, hAns⟩
    rw [if_neg hEmpty, if_neg (Nat.not_lt.mpr hRoom), hRun,
      answerWhole, if_neg Bool.false_ne_true, hEnd]
    refine ⟨log', st', rfl, ?_⟩
    rw [hAns]
    change (st.ans.store 0 message).load 0 _ = _
    exact Memory.load_store

/- There is not; the rest is passed over. -/
theorem lengthKnown_cut
    {message : Bytes}
    {answers rests : List Reply}
    (hKnown : (⟨st.ans, c.anssiz⟩ : Packet).getshort 0 =
      message.length)
    (hRoom : c.anssiz < message.length)
    (hAnswers : CameIn answers (message.take c.anssiz))
    (hRests : CameIn rests (message.drop c.anssiz))
    (log : List NetEvent) :
    ∃ log' st', (resSendSession c).run (answers ++ rests)
        (log, (lengthKnown c st).2) =
        (log', .inr (st', .answered message.length)) ∧
      tc st'.ans = true ∧
      ∀ k (hK : k < (message.take c.anssiz).length),
        k ≠ 2 → st'.ans k = (message.take c.anssiz)[k] := by
  have hEmpty : message.length ≠ 0 := by omega
  have hDrop : message.drop c.anssiz ≠ [] := by
    rw [ne_eq, List.drop_eq_nil_iff]
    omega
  rw [lengthKnown, hKnown, if_neg hEmpty, if_pos hRoom]
  by_cases hNone : c.anssiz = 0
  · rw [hNone, List.take_zero] at hAnswers
    rcases readJunk_run (c := c)
        hRests hDrop log { st with ans := setTc st.ans }
        message.length with ⟨log', st', hRun, hAns⟩
    rw [List.length_drop, hNone, Nat.sub_zero] at hRun
    rw [if_pos hNone, hAnswers.nil, List.nil_append]
    refine ⟨log', st', hRun, ?_, fun k hK => ?_⟩
    · rw [hAns]
      exact tc_setTc _
    · rw [hNone] at hK
      simp at hK
  · have hTake : (message.take c.anssiz).length = c.anssiz :=
      List.length_take_of_le (Nat.le_of_lt hRoom)
    have hSome : message.take c.anssiz ≠ [] := by
      rw [← List.length_pos_iff, hTake]
      omega
    rcases hAnswers.run
        (readAnswer_pieces c st message.length true) hSome log
        (st.ans, 0) with ⟨log₁, hRead⟩
    rw [hTake] at hRead
    rcases readJunk_run (c := c)
        hRests hDrop log₁ { st with
          ans := setTc (Stored.keep (st.ans, 0)
            (message.take c.anssiz)).1 } message.length with
      ⟨log', st', hRun, hAns⟩
    rw [List.length_drop] at hRun
    rw [if_neg hNone, Session.run_append, hRead, answerWhole,
      if_pos rfl]
    refine ⟨log', st', hRun, ?_⟩
    rw [hAns]
    exact ⟨tc_setTc _, fun k hK hOther =>
      setTc_store hK hOther⟩

/-
  However the length and the answer are cut into pieces, the
  whole answer is read. It is stored as far as there is
  room; if some has no room, this is marked.
-/
theorem resSendSession_reads
    {c : SendCall}
    {st : Sending}
    {hi lo : UInt8}
    {message : Bytes}
    {lengths answers rests : List Reply}
    (hSize : message.length = hi.toNat * 256 + lo.toNat)
    (hLengths : CameIn lengths [hi, lo])
    (hAnswers : CameIn answers (message.take c.anssiz))
    (hRests : CameIn rests (message.drop c.anssiz))
    (log : List NetEvent) :
    ∃ log' st',
      (resSendSession c).run (lengths ++ (answers ++ rests))
        (log, .inl (st, .readLength 0 2)) =
        (log', .inr (st', .answered message.length)) ∧
      (message.length ≤ c.anssiz →
        st'.ans.load 0 message.length = message) ∧
      (c.anssiz < message.length → tc st'.ans = true ∧
        ∀ k (hK : k < (message.take c.anssiz).length),
          k ≠ 2 → st'.ans k = (message.take c.anssiz)[k]) := by
  rcases hLengths.run
      (readLength_pieces c st) (by simp) log (st.ans, 0) with
    ⟨log₁, hFirst⟩
  have hKnown : (⟨(Stored.keep (st.ans, 0) [hi, lo]).1,
      c.anssiz⟩ : Packet).getshort 0 = message.length := by
    rw [hSize]
    rfl
  change (resSendSession c).run lengths
    (log, .inl (st, .readLength 0 2)) = _ at hFirst
  rw [Session.run_append, hFirst]
  by_cases hRoom : c.anssiz < message.length
  · rcases @lengthKnown_cut c
        { st with ans := (Stored.keep (st.ans, 0) [hi, lo]).1 }
        message answers rests hKnown hRoom hAnswers hRests log₁
      with ⟨log', st', hRun, hCut⟩
    exact ⟨log', st', hRun, fun h => by omega, fun _ => hCut⟩
  · rw [Nat.not_lt] at hRoom
    rw [List.take_of_length_le hRoom] at hAnswers
    rw [List.drop_of_length_le hRoom] at hRests
    rw [hRests.nil, List.append_nil]
    rcases @lengthKnown_fits c
        { st with ans := (Stored.keep (st.ans, 0) [hi, lo]).1 }
        message answers hKnown hRoom hAnswers log₁ with
      ⟨log', st', hRun, hAll⟩
    exact ⟨log', st', hRun, fun _ => hAll, fun h => by omega⟩

/- Some bytes, in one piece. -/
def piece (bs : Bytes) : Reply where
  n := bs.length
  errno := .zero
  data := bs
  source := .nameserver .any

theorem resSendSession_reads_three :
    ∃ log' st',
      (resSendSession oneServer).run
        ([piece [0], piece [3]] ++
          ([piece [0, 7], piece [129]] ++ []))
        ([], .inl (⟨some 3, false, true, 1, 0, true, false,
          false, .ETIMEDOUT, [], fun _ => 0⟩,
          .readLength 0 2)) =
        (log', .inr (st', .answered 3)) ∧
      (3 ≤ 512 → st'.ans.load 0 3 = [0, 7, 129]) ∧
      (512 < 3 → tc st'.ans = true ∧
        ∀ k (hK : k < ([0, 7, 129] : Bytes).length),
          k ≠ 2 → st'.ans k = ([0, 7, 129] : Bytes)[k]) :=
  @resSendSession_reads oneServer _ 0 3 [0, 7, 129] _ _ _
    (by decide)
    ⟨rfl, by simp [Reply.IsPiece, piece]⟩
    ⟨rfl, by simp [Reply.IsPiece, piece]⟩
    ⟨rfl, by simp⟩ []

end Libsocket
