import Libsocket.Inet.Answer

/-
  What one turn over an answer can do: which address and
  which name it takes from its record, and how it may be the
  last one.

  Main declarations:
    * `AnswerCall.recordOf`
    * `addressGiven`, `nameGiven`
    * `answerTurn_next`, `answerTurn_left`
-/

namespace Libsocket

variable {q : AnswerCall} {s s' : AnswerState}
variable {start : Nat} {name : Bytes} {rr : Rr}
variable {r : AnswerResult}

------------------------------------------------------------
-- What A Record Gives
------------------------------------------------------------

/- The owner and the record that a turn reads. -/
def AnswerCall.recordOf
    (q : AnswerCall)
    (s : AnswerState) : Option (Bytes × Rr) :=
  (dnExpand q.packet s.cp s.buflen).result.map fun owner =>
    (owner.1, rrAt q.packet (s.cp + owner.2))

/- The next aligned index in `hostbuf`. -/
def aligned (q : AnswerCall) (bp : Nat) : Nat :=
  bp + (alignSize - (q.hostbuf + bp) % alignSize)

/-
  The address of an `A` record is taken if it is as long as
  the first one and there is room for it, behind the name if
  it is the first.
-/
def TakesAddress
    (q : AnswerCall)
    (name : Bytes)
    (rr : Rr)
    (s : AnswerState) : Prop :=
  (s.haveanswer ≠ 0 → rr.length = s.hLength) ∧
    aligned q (if s.haveanswer ≠ 0 then s.bp
      else s.bp + (name.length + 1)) + rr.length <
        hostbufSize ∧
    s.addrs.length < maxAddrs - 1

instance : Decidable (TakesAddress q name rr s) := by
  unfold TakesAddress
  infer_instance

/- The address that a record of the class adds. -/
def addressGiven
    (q : AnswerCall)
    (s : AnswerState) : Option (Origin × Bytes) :=
  match q.recordOf s with
  | none => none
  | some (name, rr) =>
      if rr.cls = q.qclass ∧ rr.type = tA ∧
          TakesAddress q name rr s then
        some (.record s.cp, rr.bytes q.packet)
      else
        none

/- The target of a `CNAME` record that is stored. -/
def targetOf
    (q : AnswerCall)
    (name : Bytes)
    (rr : Rr)
    (s : AnswerState) : Option Bytes :=
  if maxAliases - 1 ≤ s.aliases.length then
    none
  else
    match (dnExpand q.packet rr.data
      (maxDname + 1 : Nat)).result with
    | none => none
    | some (tbuf, _) =>
        if s.buflen - (name.length + 1 : Nat) <
            (tbuf.length + 1 : Nat) then
          none
        else
          some tbuf

/- The name of the host that a record of the class gives. -/
def nameGiven
    (q : AnswerCall)
    (s : AnswerState) : Option (Origin × Bytes) :=
  match q.recordOf s with
  | none => none
  | some (name, rr) =>
      if rr.cls ≠ q.qclass then
        none
      else if rr.type = tCname then
        if q.qtype = .a then
          (targetOf q name rr s).map fun tbuf =>
            (.record s.cp, tbuf)
        else
          none
      else if rr.type = tPtr then
        (dnExpand q.packet rr.data s.buflen).result.map
          fun target => (.record s.cp, target.1)
      else if rr.type = tA ∧ s.haveanswer = 0 then
        some (.record s.cp, name)
      else
        none

------------------------------------------------------------
-- Records That Are Handled
------------------------------------------------------------

/-
  A turn that does not overrun either handles the record that
  it reads or stops at a name that cannot be read.
-/
theorem answerTurn_cases
    (hFits : answerTurn q s ≠ .inr .overrun) :
    (q.recordOf s = none ∧
      answerTurn q s = .inl (s.fail s.cp)) ∨
    ∃ name rr, q.recordOf s = some (name, rr) ∧
      answerTurn q s = answerRecord q s.cp name rr s := by
  unfold answerTurn at hFits ⊢
  unfold AnswerCall.recordOf
  dsimp only at hFits ⊢
  split at hFits
  · exact absurd rfl hFits
  · rename_i hRoom
    rw [if_neg hRoom]
    cases hOwner :
        (dnExpand q.packet s.cp s.buflen).result with
    | none => exact .inl ⟨rfl, rfl⟩
    | some owner => exact .inr ⟨owner.1, _, rfl, rfl⟩

/- Storing a target moves `bp`, or fails. -/
theorem storeTarget_next
    {tbuf : Bytes}
    {hName : Option (Origin × Bytes)}
    (hNext : storeTarget tbuf hName s = .inl s') :
    s'.haveanswer = s.haveanswer ∧ s'.addrs = s.addrs ∧
      s'.hName =
        if s.buflen < (tbuf.length + 1 : Nat) then s.hName
        else hName := by
  unfold storeTarget at hNext
  split at hNext
  · rename_i hFull
    cases hNext
    exact ⟨rfl, rfl, (if_pos hFull).symm⟩
  · rename_i hRoom
    split at hNext
    · cases hNext
    · cases hNext
      exact ⟨rfl, rfl, (if_neg hRoom).symm⟩

theorem storeTarget_left
    {tbuf : Bytes}
    {hName : Option (Origin × Bytes)}
    (hLeft : storeTarget tbuf hName s = .inr r) :
    r = .overrun := by
  unfold storeTarget at hLeft
  split at hLeft
  · cases hLeft
  · split at hLeft
    · cases hLeft
      rfl
    · cases hLeft

/- A `CNAME` leaves the addresses as they are. -/
theorem cnameRecord_next
    (hNext : cnameRecord q start name rr s = .inl s') :
    s'.haveanswer = s.haveanswer ∧ s'.addrs = s.addrs ∧
      s'.hName =
        (if q.qtype = .a then
          (targetOf q name rr s).map fun tbuf =>
            (Origin.record start, tbuf)
        else none).or s.hName := by
  unfold cnameRecord at hNext
  unfold targetOf
  dsimp only at hNext
  split at hNext
  · rename_i hType
    rw [hType, if_pos rfl]
    split at hNext
    · rename_i hFull
      cases hNext
      rw [if_pos hFull]
      exact ⟨rfl, rfl, rfl⟩
    · rename_i hRoom
      rw [if_neg hRoom]
      cases hTarget : (dnExpand q.packet rr.data
          (maxDname + 1 : Nat)).result with
      | none =>
          simp only [hTarget] at hNext
          cases hNext
          exact ⟨rfl, rfl, rfl⟩
      | some target =>
          obtain ⟨tbuf, n⟩ := target
          simp only [hTarget] at hNext
          obtain ⟨hCount, hAddrs, hName⟩ :=
            storeTarget_next hNext
          refine ⟨hCount, hAddrs, ?_⟩
          rw [hName]
          dsimp only [AnswerState.keep]
          by_cases hFull :
              s.buflen - (name.length + 1 : Nat) <
                (tbuf.length + 1 : Nat)
          · simp only [hFull, if_true, Option.map_none,
              Option.none_or]
          · simp only [hFull, if_false, Option.map_some,
              Option.some_or]
  · rename_i hType
    rw [hType, if_neg (by decide)]
    split at hNext
    · cases hNext
      exact ⟨rfl, rfl, rfl⟩
    · obtain ⟨hCount, hAddrs, hName⟩ :=
        storeTarget_next hNext
      refine ⟨hCount, hAddrs, ?_⟩
      rw [hName]
      split
      · rfl
      · rfl

theorem cnameRecord_left
    (hLeft : cnameRecord q start name rr s = .inr r) :
    r = .overrun := by
  unfold cnameRecord at hLeft
  dsimp only at hLeft
  split at hLeft
  · split at hLeft
    · cases hLeft
    · split at hLeft
      · cases hLeft
      · exact storeTarget_left hLeft
  · split at hLeft
    · cases hLeft
    · exact storeTarget_left hLeft

/- A `PTR` goes on only when its target cannot be read. -/
theorem ptrRecord_next
    (hNext : ptrRecord q start rr s = .inl s') :
    s' = s.fail rr.data ∧
      (dnExpand q.packet rr.data s.buflen).result = none := by
  unfold ptrRecord at hNext
  dsimp only at hNext
  split at hNext
  · cases hNext
  · split at hNext
    · rename_i hBad
      cases hNext
      exact ⟨rfl, hBad⟩
    · cases hNext

theorem ptrRecord_left
    (hLeft : ptrRecord q start rr s = .inr r) :
    r = .overrun ∨
      ∃ target, (dnExpand q.packet rr.data s.buflen).result =
          some target ∧
        r = .host
          (hostOf q false (.record start, target.1) s) := by
  unfold ptrRecord at hLeft
  dsimp only at hLeft
  split at hLeft
  · cases hLeft
    exact .inl rfl
  · split at hLeft
    · cases hLeft
    · rename_i name n hTarget
      cases hLeft
      exact .inr ⟨(name, n), hTarget, rfl⟩

theorem storeAddress_next
    (q : AnswerCall)
    (start : Nat)
    (rr : Rr)
    (s : AnswerState) :
    ∃ s', storeAddress q start rr s = .inl s' ∧
      s'.hName = s.hName ∧
      if aligned q s.bp + rr.length < hostbufSize ∧
          s.addrs.length < maxAddrs - 1 then
        s'.addrs = s.addrs ++
          [(.record start, rr.bytes q.packet)] ∧
        s'.haveanswer = s.haveanswer + 1
      else
        s'.addrs = s.addrs ∧ s'.haveanswer = s.haveanswer := by
  unfold storeAddress
  change ∃ s', (if hostbufSize ≤ aligned q s.bp + rr.length
    then Sum.inl _ else _) = _ ∧ _
  by_cases hRoom : hostbufSize ≤ aligned q s.bp + rr.length
  · have hNot := Nat.not_lt.mpr hRoom
    rw [if_pos hRoom]
    refine ⟨_, rfl, rfl, ?_⟩
    rw [if_neg fun hBoth => hNot hBoth.1]
    exact ⟨rfl, rfl⟩
  · rw [if_neg hRoom]
    by_cases hFull : maxAddrs - 1 ≤ s.addrs.length
    · have hNot := Nat.not_lt.mpr hFull
      rw [if_pos hFull]
      refine ⟨_, rfl, rfl, ?_⟩
      rw [if_neg fun hBoth => hNot hBoth.2]
      exact ⟨rfl, rfl⟩
    · rw [if_neg hFull]
      refine ⟨_, rfl, rfl, ?_⟩
      rw [if_pos ⟨Nat.not_le.mp hRoom, Nat.not_le.mp hFull⟩]
      exact ⟨rfl, rfl⟩

/- An `A` record never ends the loop. -/
theorem aRecord_next
    (q : AnswerCall)
    (start : Nat)
    (name : Bytes)
    (rr : Rr)
    (s : AnswerState) :
    ∃ s', aRecord q start name rr s = .inl s' ∧
      (s'.hName =
        (if s.haveanswer = 0 then
          some (Origin.record start, name)
        else none).or s.hName) ∧
      if TakesAddress q name rr s then
        s'.addrs = s.addrs ++
          [(.record start, rr.bytes q.packet)] ∧
        s'.haveanswer = s.haveanswer + 1
      else
        s'.addrs = s.addrs ∧ s'.haveanswer = s.haveanswer := by
  unfold aRecord TakesAddress
  by_cases hSome : s.haveanswer = 0
  · rw [if_neg (fun hBoth => hBoth.1 hSome)]
    obtain ⟨s', hNext, hName, hAddrs⟩ := storeAddress_next q
      start rr (s.named start name rr)
    refine ⟨s', ?_, ?_, ?_⟩
    · simpa [hSome] using hNext
    · rw [hName]
      simp [AnswerState.named, hSome]
    · simpa [hSome, AnswerState.named, AnswerState.keep]
        using hAddrs
  · by_cases hLength : rr.length = s.hLength
    · rw [if_neg (fun hBoth => hBoth.2 hLength)]
      obtain ⟨s', hNext, hName, hAddrs⟩ :=
        storeAddress_next q start rr s
      refine ⟨s', ?_, ?_, ?_⟩
      · simpa [hSome] using hNext
      · simpa [hSome] using hName
      · simpa [hSome, hLength] using hAddrs
    · rw [if_pos ⟨hSome, hLength⟩]
      refine ⟨_, rfl, ?_, ?_⟩
      · simp [AnswerState.skip, hSome]
      · simp [AnswerState.skip, hSome, hLength]

------------------------------------------------------------
-- One Turn
------------------------------------------------------------

/- A record is handled by its class and its type. -/
theorem answerRecord_cases
    (q : AnswerCall)
    (start : Nat)
    (name : Bytes)
    (rr : Rr)
    (s : AnswerState) :
    (rr.cls ≠ q.qclass ∧
      answerRecord q start name rr s = .inl (s.skip rr)) ∨
    rr.cls = q.qclass ∧
      ((rr.type = tCname ∧
          answerRecord q start name rr s =
            cnameRecord q start name rr s) ∨
        (rr.type = tPtr ∧
          answerRecord q start name rr s =
            ptrRecord q start rr s) ∨
        (rr.type = tA ∧
          answerRecord q start name rr s =
            aRecord q start name rr s) ∨
        (rr.type ≠ tCname ∧ rr.type ≠ tPtr ∧ rr.type ≠ tA ∧
          answerRecord q start name rr s = .inr .abort)) := by
  unfold answerRecord
  by_cases hClass : rr.cls = q.qclass
  · refine .inr ⟨hClass, ?_⟩
    rw [if_neg (not_not.mpr hClass)]
    by_cases hCname : rr.type = tCname
    · exact .inl ⟨hCname, if_pos hCname⟩
    by_cases hPtr : rr.type = tPtr
    · refine .inr (.inl ⟨hPtr, ?_⟩)
      rw [if_neg hCname, if_pos hPtr]
    by_cases hA : rr.type = tA
    · refine .inr (.inr (.inl ⟨hA, ?_⟩))
      rw [if_neg hCname, if_neg hPtr, if_pos hA]
    · refine .inr (.inr (.inr ⟨hCname, hPtr, hA, ?_⟩))
      rw [if_neg hCname, if_neg hPtr, if_neg hA]
  · exact .inl ⟨hClass, if_pos hClass⟩

/- Only an `A` record of the class gives an address. -/
theorem addressGiven_of_ne
    (hSome : q.recordOf s = some (name, rr))
    (hOther : rr.cls ≠ q.qclass ∨ rr.type ≠ tA) :
    addressGiven q s = none := by
  unfold addressGiven
  rw [hSome]
  refine if_neg ?_
  rintro ⟨hClass, hA, -⟩
  rcases hOther with hNot | hNot
  · exact hNot hClass
  · exact hNot hA

/-
  A turn that goes on takes the address and the name of its
  record, if it gives any.
-/
theorem answerTurn_next
    (hNext : answerTurn q s = .inl s') :
    s'.addrs = s.addrs ++ (addressGiven q s).toList ∧
      s'.haveanswer =
        s.haveanswer + (addressGiven q s).toList.length ∧
      s'.hName = (nameGiven q s).or s.hName := by
  have hFits : answerTurn q s ≠ .inr .overrun := by
    rw [hNext]
    exact Sum.inl_ne_inr
  rcases answerTurn_cases hFits with
    ⟨hNone, hTurn⟩ | ⟨name, rr, hSome, hTurn⟩
  · rw [hTurn] at hNext
    cases hNext
    unfold addressGiven nameGiven
    rw [hNone]
    exact ⟨by simp [AnswerState.fail], rfl, rfl⟩
  rw [hTurn] at hNext
  unfold nameGiven
  rw [hSome]
  dsimp only
  rcases answerRecord_cases q s.cp name rr s with
    ⟨hClass, hRecord⟩ | ⟨hClass, ⟨hCname, hRecord⟩ |
      ⟨hPtr, hRecord⟩ | ⟨hA, hRecord⟩ | ⟨-, -, -, hRecord⟩⟩
  · rw [hRecord] at hNext
    cases hNext
    rw [addressGiven_of_ne hSome (.inl hClass), if_pos hClass]
    exact ⟨by simp [AnswerState.skip], rfl, rfl⟩
  · rw [hRecord] at hNext
    have hOther : rr.type ≠ tA := by
      rw [hCname]
      decide
    rw [addressGiven_of_ne hSome (.inr hOther),
      if_neg (not_not.mpr hClass), if_pos hCname]
    obtain ⟨hCount, hAddrs, hName⟩ := cnameRecord_next hNext
    exact ⟨by simp [hAddrs], hCount, hName⟩
  · rw [hRecord] at hNext
    obtain ⟨rfl, hBad⟩ := ptrRecord_next hNext
    have hOther : rr.type ≠ tA ∧ rr.type ≠ tCname := by
      rw [hPtr]
      decide
    rw [addressGiven_of_ne hSome (.inr hOther.1),
      if_neg (not_not.mpr hClass), if_neg hOther.2,
      if_pos hPtr, hBad]
    exact ⟨by simp [AnswerState.fail], rfl, rfl⟩
  · have hOther : rr.type ≠ tCname ∧ rr.type ≠ tPtr := by
      rw [hA]
      decide
    obtain ⟨t, hStored, hName, hAddrs⟩ :=
      aRecord_next q s.cp name rr s
    rw [hRecord, hStored] at hNext
    cases hNext
    unfold addressGiven
    rw [hSome, if_neg (not_not.mpr hClass), if_neg hOther.1,
      if_neg hOther.2]
    dsimp only
    by_cases hTakes : TakesAddress q name rr s
    · rw [if_pos hTakes] at hAddrs
      rw [if_pos ⟨hClass, hA, hTakes⟩]
      simpa [hA] using ⟨hAddrs.1, hAddrs.2, hName⟩
    · rw [if_neg hTakes] at hAddrs
      rw [if_neg (fun hAll => hTakes hAll.2.2)]
      simpa [hA] using ⟨hAddrs.1, hAddrs.2, hName⟩
  · rw [hRecord] at hNext
    cases hNext

/-
  A turn that is the last returns the target of a `PTR`
  record, unless it overruns or aborts.
-/
theorem answerTurn_left
    (hLeft : answerTurn q s = .inr r)
    (hFits : r ≠ .overrun) :
    ∃ name rr, q.recordOf s = some (name, rr) ∧
      rr.cls = q.qclass ∧ rr.type ≠ tCname ∧
      addressGiven q s = none ∧
      ((rr.type = tPtr ∧ ∃ target, nameGiven q s = some target ∧
          r = .host (hostOf q false target s)) ∨
        (rr.type ≠ tPtr ∧ rr.type ≠ tA ∧ r = .abort)) := by
  have hNot : answerTurn q s ≠ .inr .overrun := by
    rw [hLeft]
    intro hSame
    exact hFits (Sum.inr.inj hSame)
  rcases answerTurn_cases hNot with
    ⟨-, hTurn⟩ | ⟨name, rr, hSome, hTurn⟩
  · rw [hTurn] at hLeft
    cases hLeft
  rw [hTurn] at hLeft
  rcases answerRecord_cases q s.cp name rr s with
    ⟨-, hRecord⟩ | ⟨hClass, ⟨-, hRecord⟩ | ⟨hPtr, hRecord⟩ |
      ⟨-, hRecord⟩ | ⟨hCname, hPtr, hA, hRecord⟩⟩
  · rw [hRecord] at hLeft
    cases hLeft
  · rw [hRecord] at hLeft
    exact absurd (cnameRecord_left hLeft) hFits
  · rw [hRecord] at hLeft
    have hOther : rr.type ≠ tA ∧ rr.type ≠ tCname := by
      rw [hPtr]
      decide
    refine ⟨name, rr, hSome, hClass, hOther.2,
      addressGiven_of_ne hSome (.inr hOther.1), ?_⟩
    rcases ptrRecord_left hLeft with
      hOver | ⟨target, hTarget, hHost⟩
    · exact absurd hOver hFits
    refine .inl ⟨hPtr, (.record s.cp, target.1), ?_, hHost⟩
    unfold nameGiven
    rw [hSome]
    dsimp only
    rw [if_neg (not_not.mpr hClass), if_neg hOther.2,
      if_pos hPtr, hTarget, Option.map_some]
  · obtain ⟨t, hStored, -, -⟩ := aRecord_next q s.cp name rr s
    rw [hRecord, hStored] at hLeft
    cases hLeft
  · rw [hRecord] at hLeft
    cases hLeft
    exact ⟨name, rr, hSome, hClass, hCname,
      addressGiven_of_ne hSome (.inr hA),
      .inr ⟨hPtr, hA, rfl⟩⟩

end Libsocket
