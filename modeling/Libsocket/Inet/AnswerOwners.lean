import Libsocket.HostName
import Libsocket.Inet.AnswerTypes

/-
  The owners of the records of an answer: which records give
  the addresses and the name of the host, and when they
  belong to the question.

  Main declarations:
    * `AnswerCall.recordStart`, `AnswerCall.Related`
    * `AnswersQuestion`, `OwnersMatch`
    * `answers_question_iff`
    * `stranger_answers`
-/

namespace Libsocket

------------------------------------------------------------
-- The Records Of A Packet
------------------------------------------------------------

/- `strcasecmp` finds no difference. -/
def SameName (a b : Bytes) : Prop :=
  a.map tolower = b.map tolower

namespace AnswerCall

variable (q : AnswerCall)

/- The name at a place in the packet, and its length there. -/
def nameAt (cp : Nat) : Option (Bytes × Nat) :=
  (dnExpand q.packet cp hostbufSize).result

/- The owner and the record at a place in the packet. -/
def recordAt (start : Nat) : Option (Bytes × Rr) :=
  (q.nameAt start).map fun owner =>
    (owner.1, rrAt q.packet (start + owner.2))

/- Where the records start, one behind the other. -/
def recordStart : Nat → Option Nat
| 0 => (q.nameAt hfixedsz).map fun name =>
    hfixedsz + (name.2 + qfixedsz)
| i + 1 =>
    (recordStart i).bind fun start =>
      (q.recordAt start).map fun record =>
        record.2.data + record.2.length

/- The record at this place of the packet. -/
def IsRecord (i start : Nat) (owner : Bytes) (rr : Rr) :
    Prop :=
  q.recordStart i = some start ∧
    q.recordAt start = some (owner, rr)

/-
  The name of the question, and the names that are reached
  from it through the `CNAME` records in front of a record.
-/
inductive Related (i : Nat) : Bytes → Prop
  | question {name : Bytes} {n : Nat}
      (hName : q.nameAt hfixedsz = some (name, n)) :
      Related i name
  | cname {j start n : Nat} {owner name target : Bytes}
      {rr : Rr}
      (hBefore : j < i)
      (hRecord : q.IsRecord j start owner rr)
      (hClass : rr.cls = q.qclass)
      (hType : rr.type = tCname)
      (hOwner : Related i name)
      (hSame : SameName owner name)
      (hTarget : q.nameAt rr.data = some (target, n)) :
      Related i target

/-
  A record of the packet that starts here is of the kind, and
  is owned by the name of the question or by a name that is
  reached from it.
-/
def OwnsRecord (kind : Rr → Prop) (start : Nat) : Prop :=
  ∃ i owner rr name, i < q.ancount ∧
    q.IsRecord i start owner rr ∧ kind rr ∧
      q.Related i name ∧ SameName owner name

/- An `A` record of the class of the query -/
def OwnsAddress : Nat → Prop :=
  q.OwnsRecord fun rr => rr.cls = q.qclass ∧ rr.type = tA

def OwnsName : Nat → Prop :=
  q.OwnsRecord fun _ => True

end AnswerCall

------------------------------------------------------------
-- The Law
------------------------------------------------------------

/-
  The addresses and the name of the host come from records
  that belong to the question, or the name from the question.
-/
structure AnswersQuestion
    (q : AnswerCall)
    (h : AnswerHost) : Prop where
  addresses : ∀ a ∈ h.addrs, ∃ start,
    a.1 = .record start ∧ q.OwnsAddress start
  name : h.name.1 = .question ∨ ∃ start,
    h.name.1 = .record start ∧ q.OwnsName start

/-
  The records whose addresses are taken belong to the
  question, and so does the last one that gives a name; and
  when a `PTR` record is the end, no address of an earlier
  call is left behind those of this one.
-/
structure OwnersMatch (q : AnswerCall) : Prop where
  addresses : ∀ s ∈ q.turns, addressGiven q s ≠ none →
    q.OwnsAddress s.cp
  name : ∀ start name,
    (q.turns.filterMap (nameGiven q)).getLast? =
      some (.record start, name) → q.OwnsName start
  ended : ∀ s ∈ q.turns, ∀ h,
    answerTurn q s = .inr (.host h) →
      leftOver q.oldAddrs s.addrs.length = []

variable {q : AnswerCall} {s s' : AnswerState}
variable {h : AnswerHost}

------------------------------------------------------------
-- What The Turns Leave
------------------------------------------------------------

theorem addressGiven_origin
    {a : Origin × Bytes}
    (hAddress : addressGiven q s = some a) :
    a.1 = .record s.cp := by
  unfold addressGiven at hAddress
  split at hAddress
  · cases hAddress
  · split at hAddress
    · cases hAddress
      rfl
    · cases hAddress

theorem nameGiven_origin
    {name : Origin × Bytes}
    (hName : nameGiven q s = some name) :
    name.1 = .record s.cp := by
  unfold nameGiven at hName
  split at hName
  · cases hName
  · split at hName
    · cases hName
    · split at hName
      · split at hName
        · obtain ⟨tbuf, -, hSame⟩ :=
            Option.map_eq_some_iff.mp hName
          rw [← hSame]
        · cases hName
      · split at hName
        · obtain ⟨target, -, hSame⟩ :=
            Option.map_eq_some_iff.mp hName
          rw [← hSame]
        · split at hName
          · cases hName
            rfl
          · cases hName

/- Behind the loop the arrays are ended. -/
theorem answerFinish_host
    (hHost : answerFinish q s = .host h) :
    h.addrs = s.addrs ∧
      ∀ name, s.hName = some name → h.name = name := by
  unfold answerFinish at hHost
  split at hHost
  · split at hHost
    · rename_i name hName
      cases hHost
      refine ⟨List.append_nil s.addrs, ?_⟩
      intro name' hName'
      rw [hName] at hName'
      cases hName'
      rfl
    · rename_i hNone
      split at hHost
      · cases hHost
      · cases hHost
        refine ⟨List.append_nil s.addrs, ?_⟩
        intro name' hName'
        rw [hNone] at hName'
        cases hName'
  · cases hHost

/- A `PTR` record ends the loop with what is left over. -/
theorem answerTurn_host
    (hLeft : answerTurn q s = .inr (.host h)) :
    addressGiven q s = none ∧ nameGiven q s = some h.name ∧
      h.addrs = s.addrs ++
        (leftOver q.oldAddrs s.addrs.length).map fun a =>
          (Origin.earlier, a) := by
  have hFits : AnswerResult.host h ≠ .overrun := by
    intro hSame
    cases hSame
  obtain ⟨name, rr, -, -, -, hNone,
    ⟨-, target, hName, hHost⟩ | ⟨-, -, hAbort⟩⟩ :=
      answerTurn_left hLeft hFits
  · cases hHost
    exact ⟨hNone, hName, rfl⟩
  · cases hAbort

/- Without a loop no host is returned. -/
theorem begin_of_host
    (hHost : getanswer q = .host h) :
    ∃ s, q.begin = .inl s := by
  cases hBegin : q.begin with
  | inl s => exact ⟨s, rfl⟩
  | inr r =>
      obtain ⟨-, hErrno, hNull⟩ := begin_left hBegin
      rw [hHost] at hNull
      cases hNull

/- Each address that a turn takes is in the entry. -/
theorem address_mem
    {a : Origin × Bytes}
    (hHost : getanswer q = .host h)
    (hMem : s ∈ q.turns)
    (hAddress : addressGiven q s = some a) :
    a ∈ h.addrs := by
  obtain ⟨first, hBegin⟩ := begin_of_host hHost
  have hAll := (AnswerCall.goes hBegin).gathered
    AnswerState.addrs (addressGiven q)
    (fun r l => ∀ h, r = .host h → ∀ a ∈ l, a ∈ h.addrs)
    (fun t t' hNext => (answerTurn_next hNext).1)
    (by
      intro t h hEnd a hA
      rw [(answerFinish_host hEnd).1]
      exact hA)
    (by
      intro t r hLeft h hEnd a hA
      obtain ⟨hNone, -, hAddrs⟩ :=
        answerTurn_host (hLeft.trans (congrArg Sum.inr hEnd))
      rw [hNone, Option.toList_none, List.append_nil] at hA
      rw [hAddrs]
      exact List.mem_append_left _ hA)
  exact hAll h hHost a (List.mem_append_right _
    (List.mem_filterMap.mpr ⟨s, hMem, hAddress⟩))

/- Where the loop is left by a result of its own. -/
theorem host_ends
    {P : AnswerState → Prop}
    {first : AnswerState}
    (hHost : getanswer q = .host h)
    (hBegin : q.begin = .inl first)
    (hFirst : P first)
    (hKeeps : ∀ t ∈ q.turns, P t →
      ∀ t', answerTurn q t = .inl t' → P t') :
    (∃ t, P t ∧ answerFinish q t = .host h) ∨
      ∃ t ∈ q.turns, P t ∧
        answerTurn q t = .inr (.host h) := by
  obtain ⟨hAll, ⟨t, hEnd, hResult⟩ | ⟨t, hMem, hLeft⟩⟩ :=
    (AnswerCall.goes hBegin).invariant hFirst hKeeps
  · exact .inl ⟨t, hEnd, hResult.symm.trans hHost⟩
  · refine .inr ⟨t, hMem, hAll t hMem, ?_⟩
    exact hLeft.trans (congrArg Sum.inr hHost)

/-
  An address of the entry is taken by a turn, or is left over
  where the last turn returns the entry.
-/
theorem address_cases
    {a : Origin × Bytes}
    (hHost : getanswer q = .host h)
    (hMem : a ∈ h.addrs) :
    (∃ s ∈ q.turns, addressGiven q s = some a) ∨
      ∃ s ∈ q.turns, answerTurn q s = .inr (.host h) ∧
        leftOver q.oldAddrs s.addrs.length ≠ [] := by
  obtain ⟨first, hBegin⟩ := begin_of_host hHost
  have hFirst : ∀ a ∈ first.addrs,
      ∃ s ∈ q.turns, addressGiven q s = some a := by
    rw [(begin_next hBegin).2.1]
    exact List.forall_mem_nil _
  have hKeeps : ∀ t ∈ q.turns,
      (∀ a ∈ t.addrs, ∃ s ∈ q.turns, addressGiven q s = some a) →
      ∀ t', answerTurn q t = .inl t' →
        ∀ a ∈ t'.addrs,
          ∃ s ∈ q.turns, addressGiven q s = some a := by
    intro t hTurn hAll t' hNext a hA
    rw [(answerTurn_next hNext).1] at hA
    rcases List.mem_append.mp hA with hOld | hNew
    · exact hAll a hOld
    · exact ⟨t, hTurn, Option.mem_toList.mp hNew⟩
  rcases host_ends hHost hBegin hFirst hKeeps with
    ⟨t, hAll, hEnd⟩ | ⟨t, hTurn, hAll, hLeft⟩
  · rw [(answerFinish_host hEnd).1] at hMem
    exact .inl (hAll a hMem)
  · rw [(answerTurn_host hLeft).2.2] at hMem
    rcases List.mem_append.mp hMem with hOld | hNew
    · exact .inl (hAll a hOld)
    · right
      refine ⟨t, hTurn, hLeft, ?_⟩
      intro hNone
      rw [hNone] at hNew
      cases hNew

/- The last turn that gives a name names the host. -/
theorem host_name
    (hHost : getanswer q = .host h)
    {name : Origin × Bytes}
    {first : AnswerState}
    (hBegin : q.begin = .inl first)
    (hName : (q.turns.filterMap (nameGiven q)).getLast?.or
      first.hName = some name) :
    h.name = name := by
  have hLast := (AnswerCall.goes hBegin).latest
    AnswerState.hName (nameGiven q)
    (fun r value => ∀ h, r = .host h →
      ∀ name, value = some name → h.name = name)
    (fun t t' hNext => (answerTurn_next hNext).2.2)
    (fun t h hEnd => (answerFinish_host hEnd).2)
    (by
      intro t r hLeft h hEnd name hGiven
      rw [(answerTurn_host
        (hLeft.trans (congrArg Sum.inr hEnd))).2.1,
        Option.some_or] at hGiven
      exact Option.some.inj hGiven)
  exact hLast h hHost name hName

------------------------------------------------------------
-- When The Law Holds
------------------------------------------------------------

/- The names that turns give come from their records. -/
theorem lastName_origin
    {name : Origin × Bytes}
    (hLast : (q.turns.filterMap (nameGiven q)).getLast? =
      some name) :
    ∃ start, name.1 = .record start := by
  obtain ⟨s, -, hName⟩ := List.mem_filterMap.mp
    (List.mem_of_getLast? hLast)
  exact ⟨s.cp, nameGiven_origin hName⟩

/-
  The entry that is returned belongs to the question exactly
  if the records that it is made from do.
-/
theorem answers_question_iff
    (hQuery : q.qtype = .a)
    (hHost : getanswer q = .host h) :
    AnswersQuestion q h ↔ OwnersMatch q := by
  obtain ⟨first, hBegin⟩ := begin_of_host hHost
  obtain ⟨asked, hAsked⟩ := (begin_next hBegin).2.2.2 hQuery
  constructor
  · intro hLaw
    constructor
    · intro s hMem hSome
      obtain ⟨a, hAddress⟩ := Option.ne_none_iff_exists'.mp hSome
      obtain ⟨start, hOrigin, hOwns⟩ :=
        hLaw.addresses a (address_mem hHost hMem hAddress)
      rw [addressGiven_origin hAddress] at hOrigin
      cases hOrigin
      exact hOwns
    · intro start name hLast
      have hName := host_name hHost hBegin
        (by rw [hLast, Option.some_or])
      rcases hLaw.name with hAsk | ⟨start', hOrigin, hOwns⟩
      · rw [hName] at hAsk
        cases hAsk
      · rw [hName] at hOrigin
        cases hOrigin
        exact hOwns
    · intro s hMem h' hLeft
      have hSame := getanswer_of_turn hMem hLeft
      rw [hHost] at hSame
      cases hSame
      have hAddrs := (answerTurn_host hLeft).2.2
      cases hOver : leftOver q.oldAddrs s.addrs.length with
      | nil => rfl
      | cons b rest =>
          have hEarlier : (Origin.earlier, b) ∈ h.addrs := by
            rw [hAddrs, hOver]
            exact List.mem_append_right _ List.mem_cons_self
          obtain ⟨start, hOrigin, -⟩ :=
            hLaw.addresses _ hEarlier
          cases hOrigin
  · intro hMatch
    constructor
    · intro a hMem
      rcases address_cases hHost hMem with
        ⟨s, hTurn, hAddress⟩ | ⟨s, hTurn, hLeft, hOver⟩
      · refine ⟨s.cp, addressGiven_origin hAddress, ?_⟩
        apply hMatch.addresses s hTurn
        rw [hAddress]
        exact Option.some_ne_none a
      · exact absurd (hMatch.ended s hTurn h hLeft) hOver
    · cases hLast :
          (q.turns.filterMap (nameGiven q)).getLast? with
      | none =>
          have hName := host_name hHost hBegin
            (by rw [hLast, Option.none_or, hAsked])
          rw [hName]
          exact .inl rfl
      | some name =>
          obtain ⟨start, hOrigin⟩ := lastName_origin hLast
          have hName := host_name hHost hBegin
            (by rw [hLast, Option.some_or])
          right
          refine ⟨start, ?_, ?_⟩
          · rw [hName]
            exact hOrigin
          · obtain ⟨origin, text⟩ := name
            cases hOrigin
            exact hMatch.name start text hLast

/- An answer of one address, owned by the root. -/
def rootAnswer : Bytes :=
  [0, 0, 0, 0, 0, 1, 0, 1, 0, 0, 0, 0] ++
    [0, 0, 1, 0, 1] ++
    [0, 0, 1, 0, 1, 0, 0, 0, 0, 0, 4, 10, 0, 0, 1]

/- The entry that is made from it -/
def rootHost : AnswerHost where
  name := (.record 17, [])
  aliases := []
  addrtype := afInet
  length := 4
  addrs := [(.record 17, [10, 0, 0, 1])]

theorem root_matches :
    AnswersQuestion (rootQuery rootAnswer) rootHost ↔
      OwnersMatch (rootQuery rootAnswer) :=
  answers_question_iff rfl (by decide +kernel)

/- An answer of one address, owned by the name `x`. -/
def strangeAnswer : Bytes :=
  [0, 0, 0, 0, 0, 1, 0, 1, 0, 0, 0, 0] ++
    [0, 0, 1, 0, 1] ++
    [1, 120, 0, 0, 1, 0, 1, 0, 0, 0, 0, 0, 4, 10, 0, 0, 1]

/- The entry that is made from it -/
def strangeHost : AnswerHost where
  name := (.record 17, [120])
  aliases := []
  addrtype := afInet
  length := 4
  addrs := [(.record 17, [10, 0, 0, 1])]

/- Without a `CNAME` only the question is related to itself. -/
theorem related_first
    {name : Bytes}
    (hRelated : q.Related 0 name) :
    ∃ n, q.nameAt hfixedsz = some (name, n) := by
  cases hRelated with
  | question hName => exact ⟨_, hName⟩
  | cname hBefore => exact absurd hBefore (Nat.not_lt_zero _)

/-
  The address and the name of an unrelated host are returned
  for the question.
-/
theorem stranger_answers :
    getanswer (rootQuery strangeAnswer) = .host strangeHost ∧
      ¬ AnswersQuestion (rootQuery strangeAnswer)
        strangeHost := by
  refine ⟨by decide +kernel, ?_⟩
  intro hLaw
  obtain ⟨start, hOrigin, i, owner, rr, name, hCount,
    ⟨hStart, hRecord⟩, -, hRelated, hSame⟩ :=
      hLaw.addresses (.record 17, [10, 0, 0, 1])
        List.mem_cons_self
  cases hOrigin
  have hOne : (rootQuery strangeAnswer).ancount = 1 := by
    decide +kernel
  have hFirst : i = 0 := by
    rw [hOne] at hCount
    omega
  subst hFirst
  obtain ⟨n, hName⟩ := related_first hRelated
  have hQuestion : (rootQuery strangeAnswer).nameAt hfixedsz =
      some ([], 1) := by decide +kernel
  have hOwner : (rootQuery strangeAnswer).recordAt 17 =
      some ([120], ⟨1, 1, 4, 30⟩) := by decide +kernel
  rw [hQuestion] at hName
  rw [hOwner] at hRecord
  cases hName
  cases hRecord
  exact List.cons_ne_nil _ _ hSame

end Libsocket
