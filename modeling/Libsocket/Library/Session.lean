import Mathlib.Data.List.Basic

/-
  Computations that wait for replies: from each state they go
  on with the next reply, record what they do, and wait again
  or come to an end.

  Main declarations:
    * `Session`, `Session.run`
    * `Session.Keeps`, `Session.Keeps.run`
    * `Session.Pieces`, `Session.Pieces.run`
-/

/- What a reply leads to. -/
structure Session (σ ρ ε β : Type) where
  resume : σ → ρ → List ε × (σ ⊕ β)

namespace Session

variable {σ ρ ε β : Type}

/- Where the replies lead to; those behind the end are left. -/
def run (p : Session σ ρ ε β) :
    List ρ → List ε × (σ ⊕ β) → List ε × (σ ⊕ β)
| [], c => c
| _ :: _, (log, .inr b) => (log, .inr b)
| r :: rs, (log, .inl s) =>
    run p rs (log ++ (p.resume s r).1, (p.resume s r).2)

theorem run_ended
    (p : Session σ ρ ε β)
    (rs : List ρ)
    (log : List ε)
    (b : β) :
    p.run rs (log, .inr b) = (log, .inr b) := by
  cases rs with
  | nil => rfl
  | cons r rs => rfl

theorem run_append
    (p : Session σ ρ ε β)
    (rs rs' : List ρ)
    (c : List ε × (σ ⊕ β)) :
    p.run (rs ++ rs') c = p.run rs' (p.run rs c) := by
  induction rs generalizing c with
  | nil => rfl
  | cons r rs ih =>
      rcases c with ⟨log, s | b⟩
      · exact ih _
      · exact (p.run_ended rs' log b).symm

/- A property of what is recorded and of what comes next. -/
structure Property (σ ε β : Type) where
  waits : List ε → σ → Prop
  ends : List ε → β → Prop

namespace Property

def Holds (P : Property σ ε β) : List ε × (σ ⊕ β) → Prop
| (log, .inl s) => P.waits log s
| (log, .inr b) => P.ends log b

end Property

/- Every reply keeps the property. -/
def Keeps
    (p : Session σ ρ ε β)
    (P : Property σ ε β) : Prop :=
  ∀ log s r, P.waits log s →
    P.Holds (log ++ (p.resume s r).1, (p.resume s r).2)

/- What every reply keeps, every run keeps. -/
theorem Keeps.run
    {p : Session σ ρ ε β}
    {P : Property σ ε β}
    (hKeeps : p.Keeps P)
    (rs : List ρ)
    {c : List ε × (σ ⊕ β)}
    (hHolds : P.Holds c) :
    P.Holds (p.run rs c) := by
  induction rs generalizing c with
  | nil => exact hHolds
  | cons r rs ih =>
      rcases c with ⟨log, s | b⟩
      · exact ih (hKeeps log s r hHolds)
      · exact hHolds

------------------------------------------------------------
-- Streams In Pieces
------------------------------------------------------------

/-
  A loop that takes so many elements from a stream, in pieces
  of any size: `wait` is where some are still missing, `keep`
  puts a piece behind what was taken, and `done` follows on
  the last one. Each piece is recorded by `es`.
-/
structure Pieces {κ α : Type} (p : Session σ ρ ε β)
    (good : ρ → Prop)
    (data : ρ → List α)
    (wait : κ → Nat → σ)
    (keep : κ → List α → κ)
    (done : κ → List ε × (σ ⊕ β))
    (es : List ε) : Prop where
  keep_append : ∀ k a b, keep (keep k a) b = keep k (a ++ b)
  onward : ∀ k len r, good r → (data r).length < len →
    p.resume (wait k len) r =
      (es, .inl (wait (keep k (data r))
        (len - (data r).length)))
  whole : ∀ k r, good r →
    p.resume (wait k (data r).length) r =
      (es ++ (done (keep k (data r))).1,
        (done (keep k (data r))).2)

/- It does not matter how the stream is cut. -/
theorem Pieces.run
    {κ α : Type}
    {p : Session σ ρ ε β}
    {good : ρ → Prop}
    {data : ρ → List α}
    {wait : κ → Nat → σ}
    {keep : κ → List α → κ}
    {done : κ → List ε × (σ ⊕ β)}
    {es : List ε}
    (hLoop : p.Pieces good data wait keep done es)
    {rs : List ρ}
    (hSome : rs ≠ [])
    (hGood : ∀ r ∈ rs, good r ∧ data r ≠ [])
    (log : List ε)
    (k : κ) :
    p.run rs (log, .inl (wait k (rs.flatMap data).length)) =
      (log ++ ((List.replicate rs.length es).flatten ++
        (done (keep k (rs.flatMap data))).1),
        (done (keep k (rs.flatMap data))).2) := by
  induction rs generalizing log k with
  | nil => exact absurd rfl hSome
  | cons r rs ih =>
      have hR := hGood r List.mem_cons_self
      by_cases hLast : rs = []
      · subst hLast
        rw [List.flatMap_singleton]
        unfold Session.run
        rw [hLoop.whole k r hR.1]
        simp [Session.run]
      · -- The rest is not empty, and neither is its data.
        have hRest : 0 < (rs.flatMap data).length := by
          rcases List.exists_cons_of_ne_nil hLast with
            ⟨r', rs', rfl⟩
          have hMem : r' ∈ r :: r' :: rs' := by simp
          rw [List.flatMap_cons, List.length_append]
          exact Nat.add_pos_left
            (List.length_pos_of_ne_nil (hGood r' hMem).2) _
        have hLess : (data r).length <
            ((r :: rs).flatMap data).length := by
          rw [List.flatMap_cons, List.length_append]
          omega
        have hLeft : ((r :: rs).flatMap data).length -
            (data r).length = (rs.flatMap data).length := by
          rw [List.flatMap_cons, List.length_append]
          omega
        unfold Session.run
        rw [hLoop.onward k _ r hR.1 hLess]
        dsimp only
        rw [hLeft, ih hLast fun r' h =>
          hGood r' (List.mem_cons_of_mem _ h),
          hLoop.keep_append, ← List.flatMap_cons,
          List.length_cons, List.replicate_succ,
          List.flatten_cons]
        simp only [List.append_assoc]

end Session
