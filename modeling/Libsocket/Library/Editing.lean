import Mathlib.Data.List.Basic

/-
  Editors that read keys until one ends the input, and the
  plan of an editor: what a text becomes with every key, and
  which keys end the input.

  Main declarations:
    * `Editing.Editor`, `Editing.Plan`
    * `Editing.Refines.run_eq`
    * `Editing.Plan.run_spec`
-/

namespace Editing

variable {σ τ κ ρ : Type}

/- What a key does: input goes on, or stops. -/
inductive Turn (σ : Type)
  | next (s : σ)
  | stop (ok : Bool) (s : σ)

/-
  What becomes of the input: it waits for a key, or it is
  over, with a result, the key that has ended it, and the
  keys that were not read.
-/
inductive Edited (κ ρ : Type)
  | waiting
  | done (result : Option ρ) (key : Option κ)
      (unread : List κ)
deriving DecidableEq

/-
  An editor: whether it reads on, what a key does, and the
  result it makes. Memory may be used wrongly in the latter
  two, and then there is no outcome.
-/
structure Editor (σ κ ρ : Type) where
  more : σ → Bool
  turn : κ → σ → Option (Turn σ)
  close : σ → Option ρ

namespace Editor

variable (E : Editor σ κ ρ)

/- Make the result. -/
def finish
    (s : σ)
    (key : Option κ)
    (unread : List κ) : Option (Edited κ ρ) :=
  (E.close s).map fun r => .done (some r) key unread

def run : List κ → σ → Option (Edited κ ρ)
| [], s => if E.more s then some .waiting else E.finish s none []
| key :: keys, s =>
    if E.more s then do
      match ← E.turn key s with
      | .next s => run keys s
      | .stop false _ => return .done none (some key) keys
      | .stop true s => E.finish s (some key) keys
    else
      E.finish s none (key :: keys)

end Editor

/-
  A plan: whether there is room for more, which keys abort,
  which end the input with a result, what the others make of
  the text, and the result when there is no room.
-/
structure Plan (τ κ ρ : Type) where
  more : τ → Bool
  aborts : κ → Bool
  enter : κ → τ → Option ρ
  edit : τ → κ → τ
  rest : τ → ρ

namespace Plan

variable (P : Plan τ κ ρ)

def run : List κ → τ → Edited κ ρ
| [], t =>
    if P.more t then .waiting else .done (some (P.rest t)) none []
| key :: keys, t =>
    if P.more t then
      if P.aborts key then
        .done none (some key) keys
      else
        match P.enter key t with
        | some r => .done (some r) (some key) keys
        | none => run keys (P.edit t key)
    else
      .done (some (P.rest t)) none (key :: keys)

/- How the input can have come to its end. -/
theorem run_spec
    {keys unread : List κ}
    {t : τ}
    {result : Option ρ}
    {key : Option κ}
    (hRun : P.run keys t = .done result key unread) :
    ∃ before,
      (∃ k, key = some k ∧ keys = before ++ k :: unread ∧
        P.more (before.foldl P.edit t) = true ∧
        (P.aborts k = true ∧ result = none ∨
          ∃ r, P.aborts k = false ∧
            P.enter k (before.foldl P.edit t) = some r ∧
            result = some r)) ∨
      key = none ∧ keys = before ++ unread ∧
        P.more (before.foldl P.edit t) = false ∧
        result = some (P.rest (before.foldl P.edit t)) := by
  induction keys generalizing t with
  | nil =>
      unfold run at hRun
      cases hMore : P.more t with
      | true =>
          rw [if_pos hMore] at hRun
          cases hRun
      | false =>
          rw [if_neg (ne_true_of_eq_false hMore)] at hRun
          cases hRun
          exact ⟨[], .inr ⟨rfl, rfl, hMore, rfl⟩⟩
  | cons k keys ih =>
      unfold run at hRun
      cases hMore : P.more t with
      | false =>
          rw [if_neg (ne_true_of_eq_false hMore)] at hRun
          cases hRun
          exact ⟨[], .inr ⟨rfl, rfl, hMore, rfl⟩⟩
      | true =>
          rw [if_pos hMore] at hRun
          cases hAborts : P.aborts k with
          | true =>
              rw [if_pos hAborts] at hRun
              cases hRun
              exact ⟨[], .inl ⟨k, rfl, rfl, hMore,
                .inl ⟨hAborts, rfl⟩⟩⟩
          | false =>
              rw [if_neg (ne_true_of_eq_false hAborts)] at hRun
              cases hEnter : P.enter k t with
              | some r =>
                  simp only [hEnter] at hRun
                  cases hRun
                  exact ⟨[], .inl ⟨k, rfl, rfl, hMore,
                    .inr ⟨r, hAborts, hEnter, rfl⟩⟩⟩
              | none =>
                  simp only [hEnter] at hRun
                  rcases ih hRun with ⟨before, hEnd⟩
                  refine ⟨k :: before, ?_⟩
                  rcases hEnd with
                    ⟨k', hKey, rfl, hRest⟩ |
                    ⟨hKey, rfl, hRest⟩
                  · exact .inl ⟨k', hKey, rfl, hRest⟩
                  · exact .inr ⟨hKey, rfl, hRest⟩

/- The keys up to the first that ends the input. -/
def typed (ends : κ → Bool) (keys : List κ) : List κ :=
  keys.takeWhile fun k => !(P.aborts k || ends k)

/- With room for all that is typed, a key ends the input. -/
theorem run_typed
    {ends : κ → Bool}
    (hEnds : ∀ k t, (P.enter k t).isSome = ends k)
    {keys : List κ}
    {t : τ}
    (hMore : ∀ n, n ≤ (P.typed ends keys).length →
      P.more (((P.typed ends keys).take n).foldl P.edit t) =
        true) :
    P.run keys t =
      match keys.drop (P.typed ends keys).length with
      | [] => .waiting
      | k :: unread => .done
          (if P.aborts k then none else
            P.enter k ((P.typed ends keys).foldl P.edit t))
          (some k) unread := by
  induction keys generalizing t with
  | nil =>
      have hFirst : P.more t = true := hMore 0 (Nat.le_refl 0)
      unfold run
      rw [if_pos hFirst]
      rfl
  | cons k keys ih =>
      have hFirst : P.more t = true := hMore 0 (Nat.zero_le _)
      unfold run
      rw [if_pos hFirst]
      cases hAborts : P.aborts k with
      | true =>
          have hTyped : P.typed ends (k :: keys) = [] := by
            simp [typed, hAborts]
          simp [hTyped, hAborts]
      | false =>
          simp only [Bool.false_eq_true, if_false]
          cases hEnter : P.enter k t with
          | some r =>
              have hTyped : P.typed ends (k :: keys) = [] := by
                simp [typed, ← hEnds k t, hEnter]
              simp [hTyped, hAborts, hEnter]
          | none =>
              have hOn : ends k = false := by
                rw [← hEnds k t, hEnter]
                rfl
              have hTyped : P.typed ends (k :: keys) =
                  k :: P.typed ends keys := by
                simp [typed, hAborts, hOn]
              rw [hTyped] at hMore
              rw [ih fun n hn => hMore (n + 1)
                (Nat.succ_le_succ hn), hTyped]
              simp only [List.length_cons, List.drop_succ_cons,
                List.foldl_cons]

/- Without, the input ends before the key does it. -/
theorem run_full
    {ends : κ → Bool}
    (hEnds : ∀ k t, (P.enter k t).isSome = ends k)
    {keys : List κ}
    {t : τ}
    {n : Nat}
    (hIn : n ≤ (P.typed ends keys).length)
    (hFull : P.more
      (((P.typed ends keys).take n).foldl P.edit t) = false) :
    ∃ r unread, P.run keys t = .done (some r) none unread := by
  induction keys generalizing t n with
  | nil =>
      have hNone : P.typed ends [] = [] := rfl
      rw [hNone, List.take_nil, List.foldl_nil] at hFull
      refine ⟨P.rest t, [], ?_⟩
      unfold run
      rw [if_neg (ne_true_of_eq_false hFull)]
  | cons k keys ih =>
      cases hMore : P.more t with
      | false =>
          refine ⟨P.rest t, k :: keys, ?_⟩
          unfold run
          rw [if_neg (ne_true_of_eq_false hMore)]
      | true =>
          -- the key in front is typed, or the text would be `t`
          cases hTyped : P.typed ends (k :: keys) with
          | nil =>
              rw [hTyped, List.take_nil] at hFull
              rw [List.foldl_nil, hMore] at hFull
              cases hFull
          | cons k' rest =>
              have hOn : P.aborts k = false ∧
                  ends k = false := by
                by_contra hNot
                have hNone : P.typed ends (k :: keys) = [] := by
                  unfold typed
                  rw [List.takeWhile_cons_of_neg]
                  simp only [Bool.not_eq_true',
                    Bool.or_eq_false_iff]
                  exact hNot
                rw [hNone] at hTyped
                cases hTyped
              have hShape : P.typed ends (k :: keys) =
                  k :: P.typed ends keys := by
                simp [typed, hOn.1, hOn.2]
              have hEnter : P.enter k t = none := by
                have hIs := hEnds k t
                rw [hOn.2] at hIs
                simpa using hIs
              rw [hShape] at hIn hFull
              cases n with
              | zero =>
                  rw [List.take_zero, List.foldl_nil, hMore]
                    at hFull
                  cases hFull
              | succ n =>
                  rcases ih (Nat.le_of_succ_le_succ hIn) hFull
                    with ⟨r, unread, hRun⟩
                  refine ⟨r, unread, ?_⟩
                  unfold run
                  rw [if_pos hMore,
                    if_neg (ne_true_of_eq_false hOn.1)]
                  simp only [hEnter]
                  exact hRun

/- What every key keeps holds of the text at any time. -/
theorem foldl_edit
    {Inv : τ → Prop}
    (hKeep : ∀ t k, Inv t → Inv (P.edit t k))
    {t : τ}
    (hInv : Inv t)
    (keys : List κ) :
    Inv (keys.foldl P.edit t) := by
  induction keys generalizing t with
  | nil => exact hInv
  | cons k keys ih => exact ih (hKeep t k hInv)

end Plan

/- Every key does to the state what it does to the text. -/
structure Refines
    (E : Editor σ κ ρ)
    (P : Plan τ κ ρ)
    (rel : σ → τ → Prop) : Prop where
  more : ∀ {s t}, rel s t → E.more s = P.more t
  rest : ∀ {s t}, rel s t → P.more t = false →
    E.close s = some (P.rest t)
  aborts : ∀ {s t k}, rel s t → P.aborts k = true →
    ∃ s', E.turn k s = some (.stop false s')
  enter : ∀ {s t k r}, rel s t → P.more t = true →
    P.aborts k = false → P.enter k t = some r →
      ∃ s', E.turn k s = some (.stop true s') ∧
        E.close s' = some r
  edit : ∀ {s t k}, rel s t → P.more t = true →
    P.aborts k = false → P.enter k t = none →
      ∃ s', E.turn k s = some (.next s') ∧
        rel s' (P.edit t k)

/- So the input comes out as planned. -/
theorem Refines.run_eq
    {E : Editor σ κ ρ}
    {P : Plan τ κ ρ}
    {rel : σ → τ → Prop}
    (hRefines : Refines E P rel)
    {s : σ}
    {t : τ}
    (hRel : rel s t)
    (keys : List κ) :
    E.run keys s = some (P.run keys t) := by
  have hFull (key : Option κ) (unread : List κ)
      {s : σ} {t : τ} (hRel : rel s t)
      (hMore : P.more t = false) :
      E.finish s key unread =
        some (.done (some (P.rest t)) key unread) := by
    rw [Editor.finish, hRefines.rest hRel hMore]
    rfl
  induction keys generalizing s t with
  | nil =>
      unfold Editor.run Plan.run
      rw [hRefines.more hRel]
      cases hMore : P.more t with
      | true => rfl
      | false =>
          simp only [Bool.false_eq_true, if_false]
          exact hFull none [] hRel hMore
  | cons k keys ih =>
      unfold Editor.run Plan.run
      rw [hRefines.more hRel]
      cases hMore : P.more t with
      | false =>
          simp only [Bool.false_eq_true, if_false]
          exact hFull none (k :: keys) hRel hMore
      | true =>
          simp only [if_true]
          cases hAborts : P.aborts k with
          | true =>
              rcases hRefines.aborts hRel hAborts with
                ⟨s', hTurn⟩
              rw [hTurn]
              rfl
          | false =>
              simp only [Bool.false_eq_true, if_false]
              cases hEnter : P.enter k t with
              | some r =>
                  rcases hRefines.enter hRel hMore hAborts
                    hEnter with ⟨s', hTurn, hClose⟩
                  rw [hTurn]
                  simp only [Option.bind_eq_bind,
                    Option.bind_some, Editor.finish, hClose,
                    Option.map_some]
              | none =>
                  rcases hRefines.edit hRel hMore hAborts
                    hEnter with ⟨s', hTurn, hRel'⟩
                  rw [hTurn]
                  exact ih hRel'

end Editing
