import Mathlib.Data.List.ReduceOption

/-
  Tables of slots that are empty or hold an entry.

  `firstFree` finds a slot for a new entry. `scan` looks for
  an entry by its key and reads every slot on its way as if
  it were taken; `Unbroken` says that it meets no empty one.

  Main declarations:
    * `Slots.firstFree`, `Slots.scan`, `Slots.without`
    * `Slots.Unbroken`
    * `Slots.scan_isSome_iff`
    * `Slots.perm_set_some`, `Slots.perm_set_none`
    * `Slots.set_none_eq_without`
-/

namespace Slots

variable {α κ : Type}

/- The first empty slot. -/
def firstFree (slots : List (Option α)) : Option Nat :=
  slots.findIdx? Option.isNone

theorem firstFree_some
    {slots : List (Option α)}
    {i : Nat}
    (hFree : firstFree slots = some i) :
    slots[i]? = some none := by
  rcases List.findIdx?_eq_some_iff_getElem.mp hFree with
    ⟨hBound, hEmpty, -⟩
  rw [List.getElem?_eq_getElem hBound]
  simpa using hEmpty

------------------------------------------------------------
-- The Entries Of A Table
------------------------------------------------------------

/- A new entry in an empty slot is one entry more. -/
theorem perm_set_some
    {slots : List (Option α)}
    {i : Nat}
    (hEmpty : slots[i]? = some none)
    (a : α) :
    ((slots.set i (some a)).reduceOption).Perm
      (a :: slots.reduceOption) := by
  induction slots generalizing i with
  | nil => simp at hEmpty
  | cons slot rest ih =>
      cases i with
      | zero =>
          have hSlot : slot = none := by
            simpa using hEmpty
          subst hSlot
          simp
      | succ i =>
          have hTail : rest[i]? = some none := by
            simpa using hEmpty
          cases slot with
          | none => simpa using ih hTail
          | some b =>
              have hSwap := ((ih hTail).cons b).trans
                (List.Perm.swap a b rest.reduceOption)
              simpa using hSwap

/- A slot that is emptied is one entry less. -/
theorem perm_set_none
    {slots : List (Option α)}
    {i : Nat}
    {a : α}
    (hTaken : slots[i]? = some (some a)) :
    slots.reduceOption.Perm
      (a :: (slots.set i none).reduceOption) := by
  induction slots generalizing i with
  | nil => simp at hTaken
  | cons slot rest ih =>
      cases i with
      | zero =>
          have hSlot : slot = some a := by
            simpa using hTaken
          subst hSlot
          simp
      | succ i =>
          have hTail : rest[i]? = some (some a) := by
            simpa using hTaken
          cases slot with
          | none => simpa using ih hTail
          | some b =>
              have hSwap := ((ih hTail).cons b).trans
                (List.Perm.swap a b
                  (rest.set i none).reduceOption)
              simpa using hSwap

theorem mem_entries_of_getElem?
    {slots : List (Option α)}
    {i : Nat}
    {a : α}
    (hTaken : slots[i]? = some (some a)) :
    a ∈ slots.reduceOption := by
  rw [List.reduceOption_mem_iff]
  exact List.mem_of_getElem? hTaken

/- A table of empty slots has no entries. -/
theorem entries_replicate (n : Nat) :
    (List.replicate n (none : Option α)).reduceOption =
      [] := by
  induction n with
  | zero => rfl
  | succ n ih => simp [List.replicate_succ, ih]

------------------------------------------------------------
-- Looking For A Key
------------------------------------------------------------

section Keys

variable [DecidableEq κ] (key : α → κ) (k : κ)

/-
  The position of the first entry with the key, if there is
  one; nothing at all when an empty slot is read first.
-/
def scan : List (Option α) → Option (Option Nat)
| [] => some none
| none :: _ => none
| some a :: rest =>
    if key a = k then
      some (some 0)
    else
      (scan rest).map fun found => found.map (· + 1)

/- The table with the entries of the key taken out. -/
def without (slots : List (Option α)) : List (Option α) :=
  slots.map fun slot => slot.filter fun a => key a ≠ k

/- No slot in front of the first such entry is empty. -/
def Unbroken (slots : List (Option α)) : Prop :=
  ∀ i : Nat, slots[i]? = some none →
    ∃ (j : Nat) (a : α), j < i ∧
      slots[j]? = some (some a) ∧ key a = k

variable {key k}

theorem unbroken_cons_some
    {a : α}
    {rest : List (Option α)} :
    Unbroken key k (some a :: rest) ↔
      key a = k ∨ Unbroken key k rest := by
  constructor
  · intro hBroken
    by_cases hKey : key a = k
    · exact .inl hKey
    right
    intro i hEmpty
    rcases hBroken (i + 1) (by simpa using hEmpty) with
      ⟨j, b, hLess, hTaken, hFound⟩
    cases j with
    | zero =>
        have hSame : a = b := by simpa using hTaken
        exact absurd (hSame ▸ hFound) hKey
    | succ j =>
        exact ⟨j, b, by omega, by simpa using hTaken, hFound⟩
  · intro hEither i hEmpty
    cases i with
    | zero => simp at hEmpty
    | succ i =>
        rcases hEither with hKey | hRest
        · exact ⟨0, a, by omega, by simp, hKey⟩
        · rcases hRest i (by simpa using hEmpty) with
            ⟨j, b, hLess, hTaken, hFound⟩
          exact ⟨j + 1, b, by omega, by simpa using hTaken,
            hFound⟩

/- The scan gets through exactly if no hole comes first. -/
theorem scan_isSome_iff
    {slots : List (Option α)} :
    (scan key k slots).isSome = true ↔
      Unbroken key k slots := by
  induction slots with
  | nil =>
      apply iff_of_true
      · rfl
      · intro i hEmpty
        simp at hEmpty
  | cons slot rest ih =>
      cases slot with
      | none =>
          apply iff_of_false
          · simp [scan]
          · intro hBroken
            rcases hBroken 0 (by simp) with ⟨j, a, hLess, -⟩
            omega
      | some a =>
          rw [unbroken_cons_some, ← ih]
          by_cases hKey : key a = k <;> simp [scan, hKey]

theorem scan_found
    {slots : List (Option α)}
    {i : Nat}
    (hScan : scan key k slots = some (some i)) :
    ∃ a, slots[i]? = some (some a) ∧ key a = k := by
  induction slots generalizing i with
  | nil => simp [scan] at hScan
  | cons slot rest ih =>
      cases slot with
      | none => simp [scan] at hScan
      | some a =>
          by_cases hKey : key a = k
          · have hZero : 0 = i := by
              simpa [scan, hKey] using hScan
            subst hZero
            exact ⟨a, by simp, hKey⟩
          · cases hRest : scan key k rest with
            | none => simp [scan, hKey, hRest] at hScan
            | some found =>
                cases found with
                | none => simp [scan, hKey, hRest] at hScan
                | some j =>
                    have hNext : j + 1 = i := by
                      simpa [scan, hKey, hRest] using hScan
                    subst hNext
                    simpa using ih hRest

theorem scan_absent
    {slots : List (Option α)}
    (hScan : scan key k slots = some none) :
    ∀ a ∈ slots.reduceOption, key a ≠ k := by
  induction slots with
  | nil => simp
  | cons slot rest ih =>
      cases slot with
      | none => simp [scan] at hScan
      | some a =>
          by_cases hKey : key a = k
          · simp [scan, hKey] at hScan
          · have hRest : scan key k rest = some none := by
              simpa [scan, hKey] using hScan
            intro b hb
            rcases List.mem_cons.mp (by simpa using hb) with
              rfl | hTail
            · exact hKey
            · exact ih hRest b hTail

variable (key k) in
/- A scan meets a hole, finds nothing, or finds an entry. -/
theorem scan_cases (slots : List (Option α)) :
    (scan key k slots = none ∧ ¬ Unbroken key k slots) ∨
      (scan key k slots = some none ∧ Unbroken key k slots ∧
        ∀ a ∈ slots.reduceOption, key a ≠ k) ∨
      ∃ i a, scan key k slots = some (some i) ∧
        Unbroken key k slots ∧ slots[i]? = some (some a) ∧
        key a = k := by
  cases hScan : scan key k slots with
  | none =>
      refine .inl ⟨rfl, ?_⟩
      rw [← scan_isSome_iff, hScan]
      decide
  | some found =>
      have hBroken : Unbroken key k slots := by
        rw [← scan_isSome_iff, hScan]
        rfl
      cases found with
      | none =>
          exact .inr (.inl ⟨rfl, hBroken, scan_absent hScan⟩)
      | some i =>
          rcases scan_found hScan with ⟨a, hTaken, hKey⟩
          exact .inr (.inr
            ⟨i, a, rfl, hBroken, hTaken, hKey⟩)

------------------------------------------------------------
-- Taking A Key Out
------------------------------------------------------------

theorem without_of_absent
    {slots : List (Option α)}
    (hAbsent : ∀ a ∈ slots.reduceOption, key a ≠ k) :
    without key k slots = slots := by
  induction slots with
  | nil => rfl
  | cons slot rest ih =>
      cases slot with
      | none =>
          have hRest := ih (by simpa using hAbsent)
          simpa [without] using hRest
      | some a =>
          have hHead : key a ≠ k := hAbsent a (by simp)
          have hRest := ih fun b hb =>
            hAbsent b (by simp [hb])
          unfold without at hRest ⊢
          rw [List.map_cons, hRest]
          simp [Option.filter, hHead]

/- With unique keys, only the slot found is emptied. -/
theorem set_none_eq_without
    {slots : List (Option α)}
    {i : Nat}
    {a : α}
    (hKeys : (slots.reduceOption.map key).Nodup)
    (hTaken : slots[i]? = some (some a))
    (hKey : key a = k) :
    slots.set i none = without key k slots := by
  induction slots generalizing i with
  | nil => simp at hTaken
  | cons slot rest ih =>
      cases i with
      | zero =>
          have hSlot : slot = some a := by
            simpa using hTaken
          subst hSlot
          have hSplit : key a ∉ rest.reduceOption.map key ∧
              (rest.reduceOption.map key).Nodup := by
            simpa using hKeys
          have hRest : without key k rest = rest := by
            apply without_of_absent
            intro b hb hSame
            apply hSplit.1
            rw [hKey, ← hSame]
            exact List.mem_map_of_mem hb
          unfold without at hRest ⊢
          rw [List.map_cons, hRest]
          simp [Option.filter, hKey]
      | succ i =>
          have hTail : rest[i]? = some (some a) := by
            simpa using hTaken
          cases slot with
          | none =>
              have hRest := ih (by simpa using hKeys) hTail
              unfold without at hRest ⊢
              rw [List.set_cons_succ, List.map_cons, hRest]
              simp
          | some b =>
              have hSplit : key b ∉
                  rest.reduceOption.map key ∧
                    (rest.reduceOption.map key).Nodup := by
                simpa using hKeys
              have hNe : key b ≠ k := by
                intro hSame
                apply hSplit.1
                rw [hSame, ← hKey]
                exact List.mem_map_of_mem
                  (mem_entries_of_getElem? hTail)
              have hRest := ih hSplit.2 hTail
              unfold without at hRest ⊢
              rw [List.set_cons_succ, List.map_cons, hRest]
              simp [Option.filter, hNe]

end Keys

end Slots
