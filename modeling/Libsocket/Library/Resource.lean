import Mathlib.Data.List.Basic
import Mathlib.Logic.Function.Basic

/-
  Computations that record what they do with resources, and
  the records that are in order: a resource is used and
  released only while it is held.

  Main declarations:
    * `Traced`
    * `Resource.Event`, `Resource.replay`
    * `Resource.Clean`, `Resource.Dirty`, `Resource.Judged`
    * `Resource.Judged.append`, `Resource.Judged.bracket`,
      `Resource.Judged.rename`
    * `Resource.Judged.balanced_iff`
-/

------------------------------------------------------------
-- Computations With A Record
------------------------------------------------------------

/- A result, and the events on the way to it. -/
structure Traced (ε α : Type) where
  log : List ε
  value : α

namespace Traced

variable {ε α β : Type}

instance : Monad (Traced ε) where
  pure a := ⟨[], a⟩
  bind m f := ⟨m.log ++ (f m.value).log, (f m.value).value⟩

/- Record an event. -/
def emit (e : ε) : Traced ε Unit := ⟨[e], ()⟩

@[simp] theorem log_pure (a : α) :
    (pure a : Traced ε α).log = [] := rfl

@[simp] theorem value_pure (a : α) :
    (pure a : Traced ε α).value = a := rfl

@[simp] theorem log_bind
    (m : Traced ε α)
    (f : α → Traced ε β) :
    (m >>= f).log = m.log ++ (f m.value).log := rfl

@[simp] theorem value_bind
    (m : Traced ε α)
    (f : α → Traced ε β) :
    (m >>= f).value = (f m.value).value := rfl

@[simp] theorem log_emit (e : ε) : (emit e).log = [e] := rfl

/- The same computation, with its events renamed. -/
def rename {ε' : Type} (f : ε → ε') (m : Traced ε α) :
    Traced ε' α :=
  ⟨m.log.map f, m.value⟩

@[simp] theorem log_rename
    {ε' : Type}
    (f : ε → ε')
    (m : Traced ε α) :
    (m.rename f).log = m.log.map f := rfl

@[simp] theorem value_rename
    {ε' : Type}
    (f : ε → ε')
    (m : Traced ε α) :
    (m.rename f).value = m.value := rfl

end Traced

------------------------------------------------------------
-- Records Of Resources
------------------------------------------------------------

namespace Resource

/- `stray` is the release of what was never acquired. -/
inductive Event (ρ : Type)
| acquire (r : ρ)
| use (r : ρ)
| release (r : ρ)
| stray
deriving DecidableEq, Repr

/- The same event for another resource. -/
def Event.map {π ρ : Type} (f : π → ρ) : Event π → Event ρ
| .acquire r => .acquire (f r)
| .use r => .use (f r)
| .release r => .release (f r)
| .stray => .stray

variable {π ρ : Type} [DecidableEq π] [DecidableEq ρ]

/-
  What is held behind a record, if it is in order. A resource
  that is held is not acquired again.
-/
def replay : List (Event ρ) → List ρ → Option (List ρ)
| [], held => some held
| .acquire r :: log, held =>
    if r ∈ held then none else replay log (r :: held)
| .use r :: log, held =>
    if r ∈ held then replay log held else none
| .release r :: log, held =>
    if r ∈ held then replay log (held.erase r) else none
| .stray :: _, _ => none

/- In order from the start, and nothing is held at the end. -/
def Balanced (log : List (Event ρ)) : Prop :=
  replay log [] = some []

instance (log : List (Event ρ)) : Decidable (Balanced log) :=
  inferInstanceAs (Decidable (_ = _))

theorem replay_append
    (left right : List (Event ρ))
    (held : List ρ) :
    replay (left ++ right) held =
      (replay left held).bind (replay right) := by
  induction left generalizing held with
  | nil => rfl
  | cons e log ih =>
      cases e with
      | acquire r =>
          simp only [List.cons_append, replay]
          split
          · rfl
          · exact ih (r :: held)
      | use r =>
          simp only [List.cons_append, replay]
          split
          · exact ih held
          · rfl
      | release r =>
          simp only [List.cons_append, replay]
          split
          · exact ih (held.erase r)
          · rfl
      | stray => rfl

/- Resources that are renamed, among others that are held. -/
theorem replay_map
    {f : π → ρ}
    (hInjective : Function.Injective f)
    {held : List ρ}
    (hFree : ∀ x, f x ∉ held)
    (log : List (Event π))
    (more : List π) :
    replay (log.map (Event.map f)) (more.map f ++ held) =
      (replay log more).map fun left =>
        left.map f ++ held := by
  induction log generalizing more with
  | nil => rfl
  | cons e log ih =>
      have hMem : ∀ x, f x ∈ more.map f ++ held ↔ x ∈ more := by
        intro x
        rw [List.mem_append, List.mem_map_of_injective
          hInjective]
        exact or_iff_left (hFree x)
      cases e with
      | acquire x =>
          simp only [List.map_cons, Event.map, replay, hMem]
          split
          · rfl
          · exact ih (x :: more)
      | use x =>
          simp only [List.map_cons, Event.map, replay, hMem]
          split
          · exact ih more
          · rfl
      | release x =>
          simp only [List.map_cons, Event.map, replay, hMem]
          split
          next hHeld =>
              have hMapped : f x ∈ more.map f :=
                List.mem_map_of_mem hHeld
              rw [List.erase_append_left _ hMapped,
                ← List.map_erase hInjective]
              exact ih (more.erase x)
          next => rfl
      | stray => rfl

------------------------------------------------------------
-- Records About Some Resources
------------------------------------------------------------

/- None of the resources `R` is held. -/
def Free (R : ρ → Prop) (held : List ρ) : Prop :=
  ∀ r ∈ held, ¬ R r

/- The record leaves what is held as it was. -/
def Clean (R : ρ → Prop) (log : List (Event ρ)) : Prop :=
  ∀ held, Free R held → replay log held = some held

/- It is not in order, or some of the resources `R` stay held. -/
def Dirty (R : ρ → Prop) (log : List (Event ρ)) : Prop :=
  ∀ held, Free R held → replay log held = none ∨
    ∃ more, more ≠ [] ∧ (∀ r ∈ more, R r) ∧
      replay log held = some (more ++ held)

/- The record is clean exactly if `c` holds. -/
structure Judged
    (R : ρ → Prop)
    (c : Prop)
    (log : List (Event ρ)) : Prop where
  clean : c → Clean R log
  dirty : ¬ c → Dirty R log

variable {R S : ρ → Prop} {c d : Prop}
variable {left right log : List (Event ρ)}

theorem Judged.nil : Judged R True ([] : List (Event ρ)) where
  clean := fun _ _ _ => rfl
  dirty := fun h => absurd trivial h

theorem Judged.congr
    (hJudged : Judged R c log)
    (hSame : c ↔ d) :
    Judged R d log where
  clean := fun h => hJudged.clean (hSame.mpr h)
  dirty := fun h => hJudged.dirty fun hC => h (hSame.mp hC)

theorem Judged.weaken
    (hJudged : Judged R c log)
    (hMore : ∀ r, R r → S r) :
    Judged S c log where
  clean := fun h held hFree =>
    hJudged.clean h held fun r hR hIn =>
      hFree r hR (hMore r hIn)
  dirty := by
    intro h held hFree
    rcases hJudged.dirty h held
      (fun r hR hIn => hFree r hR (hMore r hIn)) with
      hNone | ⟨more, hSome, hIn, hRun⟩
    · exact .inl hNone
    · exact .inr ⟨more, hSome,
        fun r hR => hMore r (hIn r hR), hRun⟩

/- What is left of one record is left of the whole. -/
theorem Judged.append
    (hLeft : Judged R c left)
    (hRight : Judged S d right)
    (hApart : ∀ r, R r → ¬ S r) :
    Judged (fun r => R r ∨ S r) (c ∧ d) (left ++ right) where
  clean := by
    rintro ⟨hC, hD⟩ held hFree
    have hFirst := hLeft.clean hC held
      fun r hR hIn => hFree r hR (.inl hIn)
    have hThen := hRight.clean hD held
      fun r hR hIn => hFree r hR (.inr hIn)
    rw [replay_append, hFirst, Option.bind_some, hThen]
  dirty := by
    intro hNot held hFree
    have hFreeR : Free R held :=
      fun r hR hIn => hFree r hR (.inl hIn)
    have hFreeS : ∀ more : List ρ, (∀ r ∈ more, R r) →
        Free S (more ++ held) := by
      intro more hMore r hR hIn
      rcases List.mem_append.mp hR with hM | hH
      · exact hApart r (hMore r hM) hIn
      · exact hFree r hH (.inr hIn)
    rw [replay_append]
    by_cases hC : c
    · have hD : ¬ d := fun hD => hNot ⟨hC, hD⟩
      rw [hLeft.clean hC held hFreeR, Option.bind_some]
      rcases hRight.dirty hD held
        (hFreeS [] (by simp)) with
        hNone | ⟨more, hSome, hIn, hRun⟩
      · exact .inl hNone
      · exact .inr ⟨more, hSome, fun r hR => .inr (hIn r hR),
          hRun⟩
    · rcases hLeft.dirty hC held hFreeR with
        hNone | ⟨more, hSome, hIn, hRun⟩
      · rw [hNone]
        exact .inl rfl
      · rw [hRun, Option.bind_some]
        by_cases hD : d
        · rw [hRight.clean hD _ (hFreeS more hIn)]
          exact .inr ⟨more, hSome, fun r hR => .inl (hIn r hR),
            rfl⟩
        · rcases hRight.dirty hD _ (hFreeS more hIn) with
            hNone | ⟨more', hSome', hIn', hRun'⟩
          · exact .inl hNone
          · refine .inr ⟨more' ++ more, ?_, ?_, ?_⟩
            · exact List.append_ne_nil_of_left_ne_nil hSome' _
            · intro r hR
              rcases List.mem_append.mp hR with hM | hM
              · exact .inr (hIn' r hM)
              · exact .inl (hIn r hM)
            · rw [hRun', List.append_assoc]

/- A resource that is held around a record. -/
theorem Judged.bracket
    {r : ρ}
    (hJudged : Judged R c log)
    (hApart : ¬ R r) :
    Judged (fun x => x = r ∨ R x) c
      (.acquire r :: (log ++ [.release r])) where
  clean := by
    intro hC held hFree
    have hNew : r ∉ held := fun h => hFree r h (.inl rfl)
    have hFreeR : Free R (r :: held) := by
      intro x hX hIn
      rcases List.mem_cons.mp hX with rfl | hH
      · exact hApart hIn
      · exact hFree x hH (.inr hIn)
    rw [replay, if_neg hNew, replay_append,
      hJudged.clean hC _ hFreeR, Option.bind_some, replay,
      if_pos List.mem_cons_self, List.erase_cons_head]
    rfl
  dirty := by
    intro hC held hFree
    have hNew : r ∉ held := fun h => hFree r h (.inl rfl)
    have hFreeR : Free R (r :: held) := by
      intro x hX hIn
      rcases List.mem_cons.mp hX with rfl | hH
      · exact hApart hIn
      · exact hFree x hH (.inr hIn)
    rw [replay, if_neg hNew, replay_append]
    rcases hJudged.dirty hC _ hFreeR with
      hNone | ⟨more, hSome, hIn, hRun⟩
    · rw [hNone]
      exact .inl rfl
    · have hOther : r ∉ more := fun h => hApart (hIn r h)
      rw [hRun, Option.bind_some, replay, if_pos (by simp),
        List.erase_append_right _ hOther,
        List.erase_cons_head]
      exact .inr ⟨more, hSome, fun x hX => .inr (hIn x hX),
        rfl⟩

/- A record whose resources are renamed is judged by itself. -/
theorem Judged.rename
    {f : π → ρ}
    (hInjective : Function.Injective f)
    (log : List (Event π)) :
    Judged (fun r => ∃ x, r = f x) (Balanced log)
      (log.map (Event.map f)) where
  clean := by
    intro hBalanced held hFree
    have hRun := replay_map hInjective
      (fun x h => hFree (f x) h ⟨x, rfl⟩) log []
    rw [hBalanced] at hRun
    exact hRun
  dirty := by
    intro hNot held hFree
    have hRun := replay_map hInjective
      (fun x h => hFree (f x) h ⟨x, rfl⟩) log []
    cases hLeft : replay log [] with
    | none =>
        rw [hLeft] at hRun
        exact .inl hRun
    | some left =>
        rw [hLeft] at hRun
        refine .inr ⟨left.map f, ?_, ?_, hRun⟩
        · intro hNone
          rw [List.map_eq_nil_iff] at hNone
          rw [hNone] at hLeft
          exact hNot hLeft
        · intro r hR
          obtain ⟨x, -, hX⟩ := List.mem_map.mp hR
          exact ⟨x, hX.symm⟩

/- A judged record from the start. -/
theorem Judged.balanced_iff
    (hJudged : Judged R c log) :
    Balanced log ↔ c := by
  have hFree : Free R ([] : List ρ) := fun r hR => nomatch hR
  constructor
  · intro hBalanced
    by_contra hC
    rcases hJudged.dirty hC [] hFree with
      hNone | ⟨more, hSome, -, hRun⟩
    · rw [Balanced, hNone] at hBalanced
      cases hBalanced
    · rw [Balanced, hRun, List.append_nil] at hBalanced
      exact hSome (Option.some.inj hBalanced)
  · intro hC
    exact hJudged.clean hC [] hFree

end Resource
