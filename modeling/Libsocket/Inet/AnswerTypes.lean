import Libsocket.Inet.AnswerTurns

/-
  Records of other types than the query's in an answer: when
  they are skipped, and the loop comes to its end.

  Main declarations:
    * `SkipsOthers`
    * `Expected`
    * `skips_others_iff`
    * `mail_record_aborts`
-/

namespace Libsocket

variable {q : AnswerCall} {s s' : AnswerState}

------------------------------------------------------------
-- The Law
------------------------------------------------------------

/-
  A host or `NULL` is returned, and a record that is neither
  of the type of the query nor a `CNAME` is skipped.
-/
structure SkipsOthers (q : AnswerCall) : Prop where
  returns : (∃ hErrno, getanswer q = .null hErrno) ∨
    ∃ h, getanswer q = .host h
  skips : ∀ s ∈ q.turns, ∀ name rr,
    q.recordOf s = some (name, rr) →
    rr.type ≠ q.qtype.number → rr.type ≠ tCname →
      answerTurn q s = .inl (s.skip rr)

/-
  A record of the class of the query is of its type or a
  `CNAME`.
-/
def Expected (q : AnswerCall) (s : AnswerState) : Prop :=
  ∀ name rr, q.recordOf s = some (name, rr) →
    rr.cls = q.qclass →
      rr.type = q.qtype.number ∨ rr.type = tCname

------------------------------------------------------------
-- Before The Loop
------------------------------------------------------------

/- The name of the question fits into `hostbuf`. -/
theorem begin_fits (q : AnswerCall) :
    q.begin ≠ .inr .overrun := by
  have hInside := dnExpand_inside q.packet hfixedsz hostbufSize
  have hFits : ¬ hostbufSize < q.question.written := by
    change ¬ hostbufSize < (dnExpand _ _ _).written
    have hMax : max 1 (hostbufSize : Int) = hostbufSize :=
      rfl
    rw [hMax] at hInside
    omega
  unfold AnswerCall.begin
  rw [if_neg hFits]
  split
  · intro hSame
    cases hSame
  · split
    · intro hSame
      cases hSame
    · dsimp only
      split
      · exact Sum.inl_ne_inr
      · exact Sum.inl_ne_inr

/- Without a loop there are no turns, and the result is NULL. -/
theorem begin_left
    {r : AnswerResult}
    (hBegin : q.begin = .inr r) :
    q.turns = [] ∧ ∃ hErrno, getanswer q = .null hErrno := by
  constructor
  · unfold AnswerCall.turns
    rw [hBegin]
  · have hFits := begin_fits q
    unfold getanswer
    rw [hBegin] at hFits ⊢
    unfold AnswerCall.begin at hBegin
    dsimp only
    split at hBegin
    · cases hBegin
      exact ⟨_, rfl⟩
    · split at hBegin
      · cases hBegin
        exact absurd rfl hFits
      · split at hBegin
        · cases hBegin
          exact ⟨_, rfl⟩
        · dsimp only at hBegin
          split at hBegin
          · cases hBegin
          · cases hBegin

theorem begin_next
    (hBegin : q.begin = .inl s) :
    s.haveanswer = 0 ∧ s.addrs = [] ∧
      (q.qtype = .ptr → s.hName = none) ∧
      (q.qtype = .a → ∃ name,
        s.hName = some (.question, name)) := by
  unfold AnswerCall.begin at hBegin
  split at hBegin
  · cases hBegin
  · split at hBegin
    · cases hBegin
    · split at hBegin
      · cases hBegin
      · rename_i name n hName
        dsimp only at hBegin
        split at hBegin
        · rename_i hType
          cases hBegin
          refine ⟨rfl, rfl, ?_, fun _ => ⟨name, rfl⟩⟩
          intro hPtr
          rw [hType] at hPtr
          cases hPtr
        · rename_i hType
          cases hBegin
          refine ⟨rfl, rfl, fun _ => rfl, ?_⟩
          intro hA
          rw [hType] at hA
          cases hA

------------------------------------------------------------
-- Turns Over Expected Records
------------------------------------------------------------

/- With an answer there is a name. -/
def Named (s : AnswerState) : Prop :=
  s.haveanswer ≠ 0 → s.hName ≠ none

/- The address of the first record comes with a name. -/
theorem nameGiven_of_address
    (hAddress : addressGiven q s ≠ none)
    (hFirst : s.haveanswer = 0) :
    nameGiven q s ≠ none := by
  unfold addressGiven at hAddress
  unfold nameGiven
  split
  · rename_i hNone
    rw [hNone] at hAddress
    exact absurd rfl hAddress
  · rename_i name rr hSome
    rw [hSome] at hAddress
    dsimp only at hAddress
    split at hAddress
    · rename_i hTaken
      obtain ⟨hClass, hType, -⟩ := hTaken
      rw [if_neg (not_not.mpr hClass), hType,
        if_neg (by decide), if_neg (by decide),
        if_pos ⟨rfl, hFirst⟩]
      exact Option.some_ne_none _
    · exact absurd rfl hAddress

theorem named_next
    (hNamed : Named s)
    (hNext : answerTurn q s = .inl s') :
    Named s' := by
  obtain ⟨-, hCount, hName⟩ := answerTurn_next hNext
  intro hSome hNone
  rw [hName, Option.or_eq_none_iff] at hNone
  by_cases hFirst : s.haveanswer = 0
  · cases hAddress : addressGiven q s with
    | none =>
        rw [hCount, hFirst, hAddress] at hSome
        exact hSome rfl
    | some a =>
        exact nameGiven_of_address (by simp [hAddress]) hFirst
          hNone.1
  · exact hNamed hFirst hNone.2

theorem answerFinish_named
    (q : AnswerCall)
    (hNamed : Named s) :
    (∃ hErrno, answerFinish q s = .null hErrno) ∨
      ∃ h, answerFinish q s = .host h := by
  unfold answerFinish
  split
  · rename_i hSome
    cases hName : s.hName with
    | none => exact absurd hName (hNamed hSome)
    | some name => exact .inr ⟨_, rfl⟩
  · exact .inl ⟨_, rfl⟩

/- Records of another class are skipped. -/
theorem answerTurn_class
    {name : Bytes}
    {rr : Rr}
    (hFits : answerTurn q s ≠ .inr .overrun)
    (hRecord : q.recordOf s = some (name, rr))
    (hClass : rr.cls ≠ q.qclass) :
    answerTurn q s = .inl (s.skip rr) := by
  rcases answerTurn_cases hFits with
    ⟨hNone, -⟩ | ⟨name', rr', hSome, hTurn⟩
  · rw [hNone] at hRecord
    cases hRecord
  · rw [hSome] at hRecord
    cases hRecord
    rw [hTurn]
    exact if_pos hClass

/- When no record is unexpected, the law holds. -/
theorem skips_of_expected
    (hAll : ∀ s ∈ q.turns, Expected q s ∧
      answerTurn q s ≠ .inr .overrun) :
    SkipsOthers q := by
  constructor
  · cases hBegin : q.begin with
    | inr r => exact .inl (begin_left hBegin).2
    | inl s =>
        have hFirst : Named s := by
          intro hSome
          exact absurd (begin_next hBegin).1 hSome
        obtain ⟨-, ⟨t, hNamed, hEnd⟩ | ⟨t, hMem, hLeft⟩⟩ :=
          (AnswerCall.goes hBegin).invariant hFirst
            fun t hMem hNamed t' hNext =>
              named_next hNamed hNext
        · rw [hEnd]
          exact answerFinish_named q hNamed
        · obtain ⟨hExpected, hFits⟩ := hAll t hMem
          have hNot : getanswer q ≠ .overrun := by
            intro hSame
            rw [hSame] at hLeft
            exact hFits hLeft
          obtain ⟨name, rr, hRecord, hClass, hCname, -,
            ⟨-, target, -, hHost⟩ | ⟨hPtr, hA, -⟩⟩ :=
              answerTurn_left hLeft hNot
          · exact .inr ⟨_, hHost⟩
          · rcases hExpected name rr hRecord hClass with
              hType | hType
            · cases hQuery : q.qtype with
              | a =>
                  rw [hQuery] at hType
                  exact absurd hType hA
              | ptr =>
                  rw [hQuery] at hType
                  exact absurd hType hPtr
            · exact absurd hType hCname
  · intro s hMem name rr hRecord hType hCname
    obtain ⟨hExpected, hFits⟩ := hAll s hMem
    apply answerTurn_class hFits hRecord
    intro hClass
    rcases hExpected name rr hRecord hClass with hSame | hSame
    · exact hType hSame
    · exact hCname hSame

------------------------------------------------------------
-- An Unexpected Record
------------------------------------------------------------

/- What a turn does with a record of the class. -/
theorem answerTurn_record
    {name : Bytes}
    {rr : Rr}
    (hFits : answerTurn q s ≠ .inr .overrun)
    (hRecord : q.recordOf s = some (name, rr))
    (hClass : rr.cls = q.qclass) :
    answerTurn q s =
      if rr.type = tCname then cnameRecord q s.cp name rr s
      else if rr.type = tPtr then ptrRecord q s.cp rr s
      else if rr.type = tA then aRecord q s.cp name rr s
      else .inr .abort := by
  rcases answerTurn_cases hFits with
    ⟨hNone, -⟩ | ⟨name', rr', hSome, hTurn⟩
  · rw [hNone] at hRecord
    cases hRecord
  · rw [hSome] at hRecord
    cases hRecord
    rw [hTurn]
    exact if_neg (not_not.mpr hClass)

/- Nothing has been taken from any record. -/
def Untouched (s : AnswerState) : Prop :=
  s.haveanswer = 0 ∧ s.hName = none

/-
  While everything but a `PTR` or a `CNAME` is skipped, the
  query for a name takes nothing.
-/
theorem untouched_next
    (hQuery : q.qtype = .ptr)
    (hSkips : ∀ name rr, q.recordOf s = some (name, rr) →
      rr.type ≠ q.qtype.number → rr.type ≠ tCname →
        answerTurn q s = .inl (s.skip rr))
    (hUntouched : Untouched s)
    (hNext : answerTurn q s = .inl s') :
    Untouched s' := by
  have hFits : answerTurn q s ≠ .inr .overrun := by
    rw [hNext]
    exact Sum.inl_ne_inr
  rcases answerTurn_cases hFits with
    ⟨-, hTurn⟩ | ⟨name, rr, hRecord, -⟩
  · rw [hTurn] at hNext
    cases hNext
    exact hUntouched
  · by_cases hClass : rr.cls = q.qclass
    · have hTurn := answerTurn_record hFits hRecord hClass
      by_cases hCname : rr.type = tCname
      · rw [hTurn, if_pos hCname] at hNext
        obtain ⟨hCount, -, hName⟩ := cnameRecord_next hNext
        rw [hQuery, if_neg (by decide), Option.none_or]
          at hName
        exact ⟨hCount.trans hUntouched.1,
          hName.trans hUntouched.2⟩
      · by_cases hPtr : rr.type = tPtr
        · rw [hTurn, if_neg hCname, if_pos hPtr] at hNext
          rw [(ptrRecord_next hNext).1]
          exact hUntouched
        · rw [hSkips name rr hRecord
            (by rw [hQuery]; exact hPtr) hCname] at hNext
          cases hNext
          exact hUntouched
    · rw [answerTurn_class hFits hRecord hClass] at hNext
      cases hNext
      exact hUntouched

/- A `PTR` record is not skipped. -/
theorem ptr_not_skipped
    {name : Bytes}
    {rr : Rr}
    (hGoes : s.hadError = false)
    (hRecord : q.recordOf s = some (name, rr))
    (hClass : rr.cls = q.qclass)
    (hPtr : rr.type = tPtr) :
    answerTurn q s ≠ .inl (s.skip rr) := by
  intro hSkip
  have hFits : answerTurn q s ≠ .inr .overrun := by
    rw [hSkip]
    exact Sum.inl_ne_inr
  rw [answerTurn_record hFits hRecord hClass, hPtr,
    if_neg (by decide), if_pos rfl] at hSkip
  have hFail := congrArg AnswerState.hadError
    (ptrRecord_next hSkip).1
  change s.hadError = true at hFail
  rw [hGoes] at hFail
  cases hFail

/- The first `A` record is not skipped. -/
theorem a_not_skipped
    {name : Bytes}
    {rr : Rr}
    (hUntouched : Untouched s)
    (hRecord : q.recordOf s = some (name, rr))
    (hClass : rr.cls = q.qclass)
    (hA : rr.type = tA) :
    answerTurn q s ≠ .inl (s.skip rr) := by
  intro hSkip
  have hFits : answerTurn q s ≠ .inr .overrun := by
    rw [hSkip]
    exact Sum.inl_ne_inr
  rw [answerTurn_record hFits hRecord hClass, hA,
    if_neg (by decide), if_neg (by decide), if_pos rfl]
    at hSkip
  obtain ⟨t, hNext, hName, -⟩ :=
    aRecord_next q s.cp name rr s
  rw [hSkip] at hNext
  cases hNext
  rw [if_pos hUntouched.1, Option.some_or] at hName
  change s.hName = _ at hName
  rw [hUntouched.2] at hName
  cases hName

/- Any other record ends the loop. -/
theorem other_not_skipped
    {name : Bytes}
    {rr : Rr}
    (hRecord : q.recordOf s = some (name, rr))
    (hClass : rr.cls = q.qclass)
    (hCname : rr.type ≠ tCname)
    (hPtr : rr.type ≠ tPtr)
    (hA : rr.type ≠ tA) :
    answerTurn q s ≠ .inl (s.skip rr) := by
  intro hSkip
  have hFits : answerTurn q s ≠ .inr .overrun := by
    rw [hSkip]
    exact Sum.inl_ne_inr
  rw [answerTurn_record hFits hRecord hClass, if_neg hCname,
    if_neg hPtr, if_neg hA] at hSkip
  cases hSkip

/- In the query for a name no turn takes anything. -/
theorem untouched_turns
    (hLaw : SkipsOthers q)
    (hQuery : q.qtype = .ptr) :
    ∀ s ∈ q.turns, Untouched s := by
  cases hBegin : q.begin with
  | inr r =>
      rw [(begin_left hBegin).1]
      exact List.forall_mem_nil _
  | inl s =>
      obtain ⟨hCount, -, hName, -⟩ := begin_next hBegin
      have hFirst : Untouched s := ⟨hCount, hName hQuery⟩
      exact ((AnswerCall.goes hBegin).invariant hFirst
        fun t hMem hKept t' hNext =>
          untouched_next hQuery (hLaw.skips t hMem) hKept
            hNext).1

theorem hadError_of_turns :
    ∀ s ∈ q.turns, s.hadError = false := by
  cases hBegin : q.begin with
  | inr r =>
      rw [(begin_left hBegin).1]
      exact List.forall_mem_nil _
  | inl s =>
      intro t hMem
      have hGoes := (AnswerCall.goes hBegin).not_stop t hMem
      exact (Bool.or_eq_false_iff.mp hGoes).2

/- A result of a turn is the result of the call. -/
theorem getanswer_of_turn
    {r : AnswerResult}
    (hMem : s ∈ q.turns)
    (hLeft : answerTurn q s = .inr r) :
    getanswer q = r := by
  cases hBegin : q.begin with
  | inr r' =>
      rw [(begin_left hBegin).1] at hMem
      cases hMem
  | inl s' =>
      exact (AnswerCall.goes hBegin).result_of_turn hMem hLeft

/- Where the law holds, no record is unexpected. -/
theorem expected_of_skips
    (hLaw : SkipsOthers q)
    (hMem : s ∈ q.turns) :
    Expected q s ∧ answerTurn q s ≠ .inr .overrun := by
  constructor
  · intro name rr hRecord hClass
    by_contra hOther
    obtain ⟨hType, hCname⟩ := not_or.mp hOther
    have hSkip := hLaw.skips s hMem name rr hRecord hType hCname
    by_cases hPtr : rr.type = tPtr
    · exact ptr_not_skipped (hadError_of_turns s hMem) hRecord
        hClass hPtr hSkip
    · by_cases hA : rr.type = tA
      · cases hQuery : q.qtype with
        | a =>
            rw [hQuery] at hType
            exact hType hA
        | ptr =>
            exact a_not_skipped
              (untouched_turns hLaw hQuery s hMem) hRecord
              hClass hA hSkip
      · exact other_not_skipped hRecord hClass hCname hPtr hA
          hSkip
  · intro hOver
    have hResult := getanswer_of_turn hMem hOver
    rcases hLaw.returns with ⟨hErrno, hNull⟩ | ⟨h, hHost⟩
    · rw [hResult] at hNull
      cases hNull
    · rw [hResult] at hHost
      cases hHost

------------------------------------------------------------
-- When The Law Holds
------------------------------------------------------------

/-
  The law holds exactly if every record of the class that the
  loop comes to is of the type of the query or a `CNAME`, and
  no name is written over the end of `hostbuf`.
-/
theorem skips_others_iff (q : AnswerCall) :
    SkipsOthers q ↔
      ∀ s ∈ q.turns, Expected q s ∧
        answerTurn q s ≠ .inr .overrun := by
  constructor
  · intro hLaw s hMem
    exact expected_of_skips hLaw hMem
  · exact skips_of_expected

/- The query for the addresses of the root, with this answer. -/
def rootQuery (answer : Bytes) : AnswerCall where
  packet := ⟨fun i => answer.getD i 0, answer.length⟩
  qname := []
  qclass := cIn
  qtype := .a
  hostbuf := 0
  oldAliases := []
  oldAddrs := []
  oldLength := 0
  oldAddrtype := 0

/- An answer of one record of type `MX`. -/
def mailAnswer : Bytes :=
  [0, 0, 0, 0, 0, 1, 0, 1, 0, 0, 0, 0] ++
    [0, 0, 1, 0, 1] ++
    [0, 0, 15, 0, 1, 0, 0, 0, 0, 0, 0]

/- One record of type `MX` in the answer aborts the program. -/
theorem mail_record_aborts :
    getanswer (rootQuery mailAnswer) = .abort ∧
      ¬ SkipsOthers (rootQuery mailAnswer) := by
  have hAbort : getanswer (rootQuery mailAnswer) = .abort := by
    decide +kernel
  refine ⟨hAbort, ?_⟩
  intro hLaw
  rcases hLaw.returns with ⟨hErrno, hNull⟩ | ⟨h, hHost⟩
  · rw [hAbort] at hNull
    cases hNull
  · rw [hAbort] at hHost
    cases hHost

end Libsocket
