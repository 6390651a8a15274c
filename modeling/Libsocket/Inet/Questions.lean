import Libsocket.Inet.AnswerOwners

/-
  The questions of a packet: `res_nameinquery` looks for one,
  and `res_queriesmatch` for all those of another packet.

  Main declarations:
    * `resNameinquery`, `resQueriesmatch`
    * `Question`, `questions`
    * `resQueriesmatch_spec`
-/

namespace Libsocket

/- The array for a name: `MAXDNAME + 1` characters. -/
def tnameSize : Int := 1026

/-
  The loop over the questions that are left, from a place of
  the packet on.
-/
def nameinqueryFrom
    (name : Bytes)
    (type cls : Nat)
    (p : Packet) : Nat → Nat → Int
| 0, _ => 0
| qdcount + 1, cp =>
    match (dnExpand p cp tnameSize).result with
    | none => -1
    | some (tname, n) =>
        if p.getshort (cp + n) = type ∧
            p.getshort (cp + n + 2) = cls ∧
            tname.map tolower = name.map tolower then
          1
        else
          nameinqueryFrom name type cls p qdcount (cp + n + 4)

/- `res_nameinquery` -/
def resNameinquery
    (name : Bytes)
    (type cls : Nat)
    (p : Packet) : Int :=
  nameinqueryFrom name type cls p (p.getshort 4) hfixedsz

def queriesmatchFrom
    (p₁ p₂ : Packet) : Nat → Nat → Int
| 0, _ => 1
| qdcount + 1, cp =>
    match (dnExpand p₁ cp tnameSize).result with
    | none => -1
    | some (tname, n) =>
        if resNameinquery tname (p₁.getshort (cp + n))
            (p₁.getshort (cp + n + 2)) p₂ = 0 then
          0
        else
          queriesmatchFrom p₁ p₂ qdcount (cp + n + 4)

/- `res_queriesmatch` -/
def resQueriesmatch (p₁ p₂ : Packet) : Int :=
  if p₁.getshort 4 ≠ p₂.getshort 4 then
    0
  else
    queriesmatchFrom p₁ p₂ (p₁.getshort 4) hfixedsz

------------------------------------------------------------
-- What A Packet Asks
------------------------------------------------------------

structure Question where
  name : Bytes
  type : Nat
  cls : Nat

/- Two questions that ask for the same. -/
def Question.Same (q r : Question) : Prop :=
  r.type = q.type ∧ r.cls = q.cls ∧ SameName r.name q.name

theorem Question.Same.refl (q : Question) : q.Same q :=
  ⟨rfl, rfl, rfl⟩

/-
  The questions up to the first whose name cannot be read,
  and whether all could.
-/
def questionsFrom (p : Packet) : Nat → Nat → List Question × Bool
| 0, _ => ([], true)
| qdcount + 1, cp =>
    match (dnExpand p cp tnameSize).result with
    | none => ([], false)
    | some (tname, n) =>
        (⟨tname, p.getshort (cp + n), p.getshort (cp + n + 2)⟩ ::
          (questionsFrom p qdcount (cp + n + 4)).1,
          (questionsFrom p qdcount (cp + n + 4)).2)

def questions (p : Packet) : List Question × Bool :=
  questionsFrom p (p.getshort 4) hfixedsz

/- A question is in a packet. -/
def Packet.Asks (p : Packet) (q : Question) : Prop :=
  ∃ r ∈ (questions p).1, q.Same r

theorem nameinqueryFrom_spec
    (q : Question)
    (p : Packet)
    (qdcount cp : Nat) :
    let qs := questionsFrom p qdcount cp
    ((∃ r ∈ qs.1, q.Same r) →
      nameinqueryFrom q.name q.type q.cls p qdcount cp = 1) ∧
    ((¬ ∃ r ∈ qs.1, q.Same r) →
      nameinqueryFrom q.name q.type q.cls p qdcount cp =
        if qs.2 then 0 else -1) := by
  induction qdcount generalizing cp with
  | zero =>
      refine ⟨?_, fun _ => rfl⟩
      rintro ⟨r, hR, -⟩
      cases hR
  | succ qdcount ih =>
      unfold questionsFrom nameinqueryFrom
      cases hName : (dnExpand p cp tnameSize).result with
      | none =>
          refine ⟨?_, fun _ => rfl⟩
          rintro ⟨r, hR, -⟩
          cases hR
      | some name =>
          rcases name with ⟨tname, n⟩
          rcases ih (cp + n + 4) with ⟨hFound, hMissing⟩
          dsimp only
          by_cases hHere :
              p.getshort (cp + n) = q.type ∧
                p.getshort (cp + n + 2) = q.cls ∧
                tname.map tolower = q.name.map tolower
          · rw [if_pos hHere]
            refine ⟨fun _ => rfl, fun hNone => ?_⟩
            exact absurd ⟨_, List.mem_cons_self, hHere⟩ hNone
          · rw [if_neg hHere]
            constructor
            · rintro ⟨r, hR, hSame⟩
              rcases List.mem_cons.mp hR with rfl | hTail
              · exact absurd hSame hHere
              · exact hFound ⟨r, hTail, hSame⟩
            · intro hNone
              apply hMissing
              rintro ⟨r, hR, hSame⟩
              exact hNone ⟨r, List.mem_cons_of_mem _ hR, hSame⟩

/-
  A question is looked for among those in front of the first
  that cannot be read.
-/
theorem resNameinquery_eq_zero_iff
    (q : Question)
    (p : Packet) :
    resNameinquery q.name q.type q.cls p = 0 ↔
      ¬ p.Asks q ∧ (questions p).2 = true := by
  rcases nameinqueryFrom_spec q p (p.getshort 4) hfixedsz with
    ⟨hFound, hMissing⟩
  unfold resNameinquery
  by_cases hAsks : p.Asks q
  · rw [hFound hAsks]
    exact ⟨fun hOne => absurd hOne (by decide),
      fun hBoth => absurd hAsks hBoth.1⟩
  · rw [hMissing hAsks]
    change (if (questions p).2 then (0 : Int) else -1) = 0 ↔ _
    cases (questions p).2
    · simp
    · simp [hAsks]

theorem queriesmatchFrom_spec
    (p₁ p₂ : Packet)
    (qdcount cp : Nat) :
    let qs := questionsFrom p₁ qdcount cp
    ((∀ q ∈ qs.1, p₂.Asks q ∨ (questions p₂).2 = false) →
      queriesmatchFrom p₁ p₂ qdcount cp =
        if qs.2 then 1 else -1) ∧
    ((¬ ∀ q ∈ qs.1, p₂.Asks q ∨ (questions p₂).2 = false) →
      queriesmatchFrom p₁ p₂ qdcount cp = 0) := by
  induction qdcount generalizing cp with
  | zero =>
      refine ⟨fun _ => rfl, fun hSome => ?_⟩
      exact absurd (fun q hQ => nomatch hQ) hSome
  | succ qdcount ih =>
      unfold questionsFrom queriesmatchFrom
      cases hName : (dnExpand p₁ cp tnameSize).result with
      | none =>
          refine ⟨fun _ => rfl, fun hSome => ?_⟩
          exact absurd (fun q hQ => nomatch hQ) hSome
      | some name =>
          rcases name with ⟨tname, n⟩
          rcases ih (cp + n + 4) with ⟨hAll, hSome⟩
          have hZero := resNameinquery_eq_zero_iff
            ⟨tname, p₁.getshort (cp + n),
              p₁.getshort (cp + n + 2)⟩ p₂
          dsimp only at hZero ⊢
          by_cases hHere : resNameinquery tname
              (p₁.getshort (cp + n))
              (p₁.getshort (cp + n + 2)) p₂ = 0
          · rw [if_pos hHere]
            rcases hZero.mp hHere with ⟨hAbsent, hRead⟩
            refine ⟨fun hEach => ?_, fun _ => rfl⟩
            rcases hEach _ List.mem_cons_self with hAsks | hBad
            · exact absurd hAsks hAbsent
            · rw [hRead] at hBad
              cases hBad
          · rw [if_neg hHere]
            have hFirst : p₂.Asks ⟨tname,
                p₁.getshort (cp + n),
                p₁.getshort (cp + n + 2)⟩ ∨
                  (questions p₂).2 = false := by
              by_contra hNot
              rw [not_or, Bool.not_eq_false] at hNot
              exact hHere (hZero.mpr hNot)
            constructor
            · intro hEach
              exact hAll fun q hQ =>
                hEach q (List.mem_cons_of_mem _ hQ)
            · intro hNot
              apply hSome
              intro hEach
              apply hNot
              intro q hQ
              rcases List.mem_cons.mp hQ with rfl | hTail
              · exact hFirst
              · exact hEach q hTail

/-
  Two packets match when they have as many questions, and
  every question of the first that can be read is in the
  second, or the second has one that cannot be read. The
  result is positive only if all of the first can be read.
-/
theorem resQueriesmatch_spec (p₁ p₂ : Packet) :
    (resQueriesmatch p₁ p₂ ≠ 0 ↔
      p₁.getshort 4 = p₂.getshort 4 ∧
        ∀ q ∈ (questions p₁).1,
          p₂.Asks q ∨ (questions p₂).2 = false) ∧
    (resQueriesmatch p₁ p₂ ≠ 0 →
      resQueriesmatch p₁ p₂ =
        if (questions p₁).2 then 1 else -1) ∧
    resQueriesmatch p₁ p₁ =
      if (questions p₁).2 then 1 else -1 := by
  have hSigns : (if (questions p₁).2 then (1 : Int) else -1) ≠
      0 := by
    cases (questions p₁).2
    · decide
    · decide
  rcases queriesmatchFrom_spec p₁ p₂
      (p₁.getshort 4) hfixedsz with ⟨hAll, hSome⟩
  have hSelf : resQueriesmatch p₁ p₁ =
      if (questions p₁).2 then 1 else -1 := by
    unfold resQueriesmatch
    rw [if_neg (not_not.mpr rfl)]
    apply (queriesmatchFrom_spec p₁ p₁ (p₁.getshort 4)
      hfixedsz).1
    exact fun q hQ => .inl ⟨q, hQ, Question.Same.refl q⟩
  by_cases hCount : p₁.getshort 4 = p₂.getshort 4
  · have hFrom : resQueriesmatch p₁ p₂ =
        queriesmatchFrom p₁ p₂ (p₁.getshort 4) hfixedsz := by
      unfold resQueriesmatch
      rw [if_neg (not_not.mpr hCount)]
    rw [hFrom]
    by_cases hEach : ∀ q ∈ (questions p₁).1,
        p₂.Asks q ∨ (questions p₂).2 = false
    · rw [hAll hEach]
      exact ⟨⟨fun _ => ⟨hCount, hEach⟩, fun _ => hSigns⟩,
        fun _ => rfl, hSelf⟩
    · rw [hSome hEach]
      exact ⟨⟨fun hNot => absurd rfl hNot,
        fun hBoth => absurd hBoth.2 hEach⟩,
        fun hNot => absurd rfl hNot, hSelf⟩
  · have hZero : resQueriesmatch p₁ p₂ = 0 := by
      unfold resQueriesmatch
      rw [if_pos hCount]
    rw [hZero]
    exact ⟨⟨fun hNot => absurd rfl hNot,
      fun hBoth => absurd hBoth.1 hCount⟩,
      fun hNot => absurd rfl hNot, hSelf⟩

end Libsocket
