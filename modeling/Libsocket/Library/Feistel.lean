/-
  Feistel networks: in each round one half is changed by what
  the other half and the key of the round give. The same
  network undoes itself, with its keys in reverse order.

  Main declarations:
    * `Feistel`, `Feistel.run`, `Feistel.run_reverse`
    * `Feistel.cipher`, `Feistel.cipher_reverse`
-/

/- `mix` takes back what it did. -/
structure Feistel (κ α : Type) where
  mix : α → α → α
  mix_mix : ∀ a b, mix (mix a b) b = a
  f : κ → α → α

namespace Feistel

variable {κ α β : Type} (net : Feistel κ α)

def round (b : α × α) (k : κ) : α × α :=
  (b.2, net.mix b.1 (net.f k b.2))

def run (ks : List κ) (b : α × α) : α × α :=
  ks.foldl net.round b

/- A round takes itself back, between two swaps. -/
theorem round_swap
    (b : α × α)
    (k : κ) :
    net.round (net.round b k).swap k = b.swap := by
  obtain ⟨l, r⟩ := b
  exact Prod.ext rfl (net.mix_mix l (net.f k r))

theorem run_reverse
    (ks : List κ)
    (b : α × α) :
    net.run ks.reverse (net.run ks b).swap = b.swap := by
  induction ks generalizing b with
  | nil => rfl
  | cons k ks ih =>
      have hRest := ih (net.round b k)
      unfold run at hRest ⊢
      simp only [List.reverse_cons, List.foldl_append,
        List.foldl_cons, List.foldl_nil]
      rw [hRest]
      exact net.round_swap b k

/-
  The network between two maps, with the halves swapped at
  the end.
-/
def cipher
    (into : β → α × α)
    (out : α × α → β)
    (ks : List κ)
    (b : β) : β :=
  out (net.run ks (into b)).swap

/- If these undo each other, the cipher undoes itself. -/
theorem cipher_reverse
    {into : β → α × α}
    {out : α × α → β}
    (hInto : ∀ h, into (out h) = h)
    (hOut : ∀ b, out (into b) = b)
    (ks : List κ)
    (b : β) :
    net.cipher into out ks.reverse
      (net.cipher into out ks b) = b := by
  unfold cipher
  rw [hInto, run_reverse, Prod.swap_swap, hOut]

end Feistel
