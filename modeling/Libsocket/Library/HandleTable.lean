import Mathlib.Logic.Function.Basic

/-
  Tables of handles: numbered slots, handles, and the blocks
  that both refer to.

  A block has an owner, the handle it was made for. A table
  is consistent when slots, handles and owned blocks are in
  one-to-one correspondence.

  Main declarations:
    * `HandleTable`
    * `HandleTable.Consistent`
    * `HandleTable.Consistent.insert`
    * `HandleTable.Consistent.remove`
-/

/-
  `slot` is the block in a slot, `handle` what a registered
  handle refers to (which may be nothing), and `owner` the
  handle that a live block belongs to.
-/
structure HandleTable (ι φ π : Type) where
  slot : ι → Option π
  handle : φ → Option (Option π)
  owner : π → Option φ

namespace HandleTable

variable {ι φ π : Type}

------------------------------------------------------------
-- Consistency
------------------------------------------------------------

/-
  Slots, handles and owned blocks correspond to each other.
  Only slots with a valid index count.
-/
structure Consistent
    (valid : ι → Prop)
    (T : HandleTable ι φ π) : Prop where
  slot_owner : ∀ i p, valid i → T.slot i = some p →
    ∃ f, T.owner p = some f ∧ T.handle f = some (some p)
  slot_inj : ∀ i j p, valid i → valid j →
    T.slot i = some p → T.slot j = some p → i = j
  owner_slot : ∀ p f, T.owner p = some f →
    ∃ i, valid i ∧ T.slot i = some p
  handle_owner : ∀ f d, T.handle f = some d →
    ∃ p, d = some p ∧ T.owner p = some f

namespace Consistent

variable {valid : ι → Prop} {T : HandleTable ι φ π}

/- A live block is what its owner refers to. -/
theorem handle_of_owner
    (hT : T.Consistent valid)
    {p : π}
    {f : φ}
    (hOwner : T.owner p = some f) :
    T.handle f = some (some p) := by
  rcases hT.owner_slot p f hOwner with ⟨i, hValid, hSlot⟩
  rcases hT.slot_owner i p hValid hSlot with ⟨g, hG, hHandle⟩
  rw [hOwner] at hG
  cases hG
  exact hHandle

/- Two blocks never have one owner. -/
theorem owner_inj
    (hT : T.Consistent valid)
    {p q : π}
    {f : φ}
    (hP : T.owner p = some f)
    (hQ : T.owner q = some f) :
    p = q := by
  have hBoth := (hT.handle_of_owner hP).symm.trans
    (hT.handle_of_owner hQ)
  simpa using hBoth

/- Two slots never share an owner. -/
theorem slot_owner_inj
    (hT : T.Consistent valid)
    {i j : ι}
    {p q : π}
    {f : φ}
    (hI : valid i)
    (hJ : valid j)
    (hSlotI : T.slot i = some p)
    (hSlotJ : T.slot j = some q)
    (hP : T.owner p = some f)
    (hQ : T.owner q = some f) :
    i = j := by
  have hSame := hT.owner_inj hP hQ
  subst hSame
  exact hT.slot_inj i j p hI hJ hSlotI hSlotJ

/- A registered handle's block sits in exactly one slot. -/
theorem handle_slot
    (hT : T.Consistent valid)
    {f : φ}
    {d : Option π}
    (hHandle : T.handle f = some d) :
    ∃ p i, d = some p ∧ T.owner p = some f ∧ valid i ∧
      T.slot i = some p ∧
      ∀ j, valid j → T.slot j = some p → j = i := by
  rcases hT.handle_owner f d hHandle with ⟨p, rfl, hOwner⟩
  rcases hT.owner_slot p f hOwner with ⟨i, hValid, hSlot⟩
  exact ⟨p, i, rfl, hOwner, hValid, hSlot,
    fun j hJ hSlotJ =>
      hT.slot_inj j i p hJ hValid hSlotJ hSlot⟩

end Consistent

------------------------------------------------------------
-- Insertion And Removal
------------------------------------------------------------

section Update

variable [DecidableEq ι] [DecidableEq φ] [DecidableEq π]

/- Put a new block into a slot, for a handle. -/
def insert
    (T : HandleTable ι φ π)
    (i : ι)
    (f : φ)
    (p : π) : HandleTable ι φ π where
  slot := Function.update T.slot i (some p)
  handle := Function.update T.handle f (some (some p))
  owner := Function.update T.owner p (some f)

/- Take a block out of its slot and off its handle. -/
def remove
    (T : HandleTable ι φ π)
    (i : ι)
    (f : φ)
    (p : π) : HandleTable ι φ π where
  slot := Function.update T.slot i none
  handle := Function.update T.handle f none
  owner := Function.update T.owner p none

variable {valid : ι → Prop} {T : HandleTable ι φ π}

/- A new block keeps the table consistent. -/
theorem Consistent.insert
    (hT : T.Consistent valid)
    {i : ι}
    {f : φ}
    {p : π}
    (hValid : valid i)
    (hSlot : T.slot i = none)
    (hHandle : T.handle f = none)
    (hOwner : T.owner p = none) :
    (T.insert i f p).Consistent valid := by
  have hFresh : ∀ j, valid j → T.slot j ≠ some p := by
    intro j hJ hTaken
    rcases hT.slot_owner j p hJ hTaken with ⟨g, hG, -⟩
    simp [hOwner] at hG
  refine ⟨?_, ?_, ?_, ?_⟩
  · intro j q hJ hQ
    by_cases hSame : j = i
    · subst hSame
      have hPQ : p = q := by
        simpa [HandleTable.insert] using hQ
      subst hPQ
      exact ⟨f, by simp [HandleTable.insert]⟩
    · have hOld : T.slot j = some q := by
        simpa [HandleTable.insert, hSame] using hQ
      have hNe : q ≠ p := by
        rintro rfl
        exact hFresh j hJ hOld
      rcases hT.slot_owner j q hJ hOld with ⟨g, hG, hRef⟩
      have hNeF : g ≠ f := by
        rintro rfl
        simp [hHandle] at hRef
      exact ⟨g, by simp [HandleTable.insert, hNe, hNeF,
        hG, hRef]⟩
  · intro j k q hJ hK hSlotJ hSlotK
    by_cases hSameJ : j = i <;> by_cases hSameK : k = i
    · rw [hSameJ, hSameK]
    · have hPQ : p = q := by
        simpa [HandleTable.insert, hSameJ] using hSlotJ
      have hOld : T.slot k = some q := by
        simpa [HandleTable.insert, hSameK] using hSlotK
      exact absurd (hPQ ▸ hOld) (hFresh k hK)
    · have hPQ : p = q := by
        simpa [HandleTable.insert, hSameK] using hSlotK
      have hOld : T.slot j = some q := by
        simpa [HandleTable.insert, hSameJ] using hSlotJ
      exact absurd (hPQ ▸ hOld) (hFresh j hJ)
    · exact hT.slot_inj j k q hJ hK
        (by simpa [HandleTable.insert, hSameJ] using hSlotJ)
        (by simpa [HandleTable.insert, hSameK] using hSlotK)
  · intro q g hG
    by_cases hSame : q = p
    · subst hSame
      exact ⟨i, hValid, by simp [HandleTable.insert]⟩
    · have hOld : T.owner q = some g := by
        simpa [HandleTable.insert, hSame] using hG
      rcases hT.owner_slot q g hOld with ⟨j, hJ, hSlotJ⟩
      have hNe : j ≠ i := by
        rintro rfl
        simp [hSlot] at hSlotJ
      exact ⟨j, hJ, by
        simp [HandleTable.insert, hNe, hSlotJ]⟩
  · intro g d hD
    by_cases hSame : g = f
    · subst hSame
      have hRef : some p = d := by
        simpa [HandleTable.insert] using hD
      exact ⟨p, hRef.symm, by simp [HandleTable.insert]⟩
    · have hOld : T.handle g = some d := by
        simpa [HandleTable.insert, hSame] using hD
      rcases hT.handle_owner g d hOld with ⟨q, hRef, hG⟩
      have hNe : q ≠ p := by
        rintro rfl
        simp [hOwner] at hG
      exact ⟨q, hRef, by
        simp [HandleTable.insert, hNe, hG]⟩

/- Removing a block keeps the table consistent. -/
theorem Consistent.remove
    (hT : T.Consistent valid)
    {i : ι}
    {f : φ}
    {p : π}
    (hValid : valid i)
    (hSlot : T.slot i = some p)
    (hOwner : T.owner p = some f) :
    (T.remove i f p).Consistent valid := by
  have hHandle := hT.handle_of_owner hOwner
  have hOther : ∀ j q, valid j → j ≠ i →
      T.slot j = some q → q ≠ p := by
    rintro j q hJ hNe hQ rfl
    exact hNe (hT.slot_inj j i q hJ hValid hQ hSlot)
  refine ⟨?_, ?_, ?_, ?_⟩
  · intro j q hJ hQ
    by_cases hSame : j = i
    · simp [HandleTable.remove, hSame] at hQ
    · have hOld : T.slot j = some q := by
        simpa [HandleTable.remove, hSame] using hQ
      have hNe := hOther j q hJ hSame hOld
      rcases hT.slot_owner j q hJ hOld with ⟨g, hG, hRef⟩
      have hNeF : g ≠ f := by
        rintro rfl
        exact hNe (hT.owner_inj hG hOwner)
      exact ⟨g, by simp [HandleTable.remove, hNe, hNeF,
        hG, hRef]⟩
  · intro j k q hJ hK hSlotJ hSlotK
    have hNeJ : j ≠ i := by
      rintro rfl
      simp [HandleTable.remove] at hSlotJ
    have hNeK : k ≠ i := by
      rintro rfl
      simp [HandleTable.remove] at hSlotK
    exact hT.slot_inj j k q hJ hK
      (by simpa [HandleTable.remove, hNeJ] using hSlotJ)
      (by simpa [HandleTable.remove, hNeK] using hSlotK)
  · intro q g hG
    have hNe : q ≠ p := by
      rintro rfl
      simp [HandleTable.remove] at hG
    have hOld : T.owner q = some g := by
      simpa [HandleTable.remove, hNe] using hG
    rcases hT.owner_slot q g hOld with ⟨j, hJ, hSlotJ⟩
    have hNeI : j ≠ i := by
      rintro rfl
      rw [hSlot] at hSlotJ
      exact hNe (Option.some.inj hSlotJ).symm
    exact ⟨j, hJ, by
      simp [HandleTable.remove, hNeI, hSlotJ]⟩
  · intro g d hD
    have hNe : g ≠ f := by
      rintro rfl
      simp [HandleTable.remove] at hD
    have hOld : T.handle g = some d := by
      simpa [HandleTable.remove, hNe] using hD
    rcases hT.handle_owner g d hOld with ⟨q, hRef, hG⟩
    have hNeP : q ≠ p := by
      rintro rfl
      rw [hOwner] at hG
      exact hNe (Option.some.inj hG).symm
    exact ⟨q, hRef, by
      simp [HandleTable.remove, hNeP, hG]⟩

end Update

end HandleTable
