import Libsocket.Library.InPlace

/-
  The tokens of a string, cut off in the buffer it lies in by
  calls that remember where the last one stopped.

  Main declarations:
    * `Strtok.strtok`, `Strtok.strtokRest`
    * `Strtok.strtok_again`
-/

namespace Strtok

/-
  What a call leaves: the token that it found, the buffer,
  and where the next call goes on.
-/
structure Found where
  token : Option Nat
  buffer : List UInt8
  last : Option Nat

variable (delim : UInt8 → Bool)

/-
  One call, from a pointer into the buffer or from where the
  last call stopped. The delimiter behind the token is
  overwritten.
-/
def strtok
    (buffer : List UInt8) : Option Nat → Found
| none => ⟨none, buffer, none⟩
| some s =>
    let tok := CString.skip delim buffer s
    let text := CString.textAt buffer tok
    let n := (text.takeWhile fun b => !delim b).length
    if text = [] then
      ⟨none, buffer, none⟩
    else if n = text.length then
      ⟨some tok, buffer, none⟩
    else
      ⟨some tok, buffer.set (tok + n) 0, some (tok + n + 1)⟩

/- How much of the buffer the next call may look at. -/
def Found.left (found : Found) : Nat :=
  found.last.elim 0 fun s => found.buffer.length + 1 - s

theorem length_textAt
    (buffer : List UInt8)
    (i : Nat) :
    (CString.textAt buffer i).length ≤ buffer.length - i := by
  rw [← List.length_drop]
  exact (List.takeWhile_sublist _).length_le

/- Each call that finds a token leaves less for the next. -/
theorem strtok_left
    {buffer : List UInt8}
    {last : Option Nat}
    {t : Nat}
    (hFound : (strtok delim buffer last).token = some t) :
    (strtok delim buffer last).left <
      Found.left ⟨none, buffer, last⟩ := by
  cases last with
  | none => cases hFound
  | some s =>
      have hSkip : s ≤ CString.skip delim buffer s :=
        Nat.le_add_right _ _
      have hText := length_textAt buffer
        (CString.skip delim buffer s)
      unfold strtok at hFound ⊢
      dsimp only at hFound ⊢
      by_cases hEmpty : CString.textAt buffer
          (CString.skip delim buffer s) = []
      · rw [if_pos hEmpty] at hFound
        cases hFound
      · have hSome := List.length_pos_iff.mpr hEmpty
        rw [if_neg hEmpty]
        split
        · change 0 < buffer.length + 1 - s
          omega
        · rename_i hWhole
          have hLess := (List.takeWhile_sublist
            (fun b => !delim b) (l := CString.textAt buffer
              (CString.skip delim buffer s))).length_le
          change (buffer.set _ 0).length + 1 - _ <
            buffer.length + 1 - s
          rw [List.length_set]
          omega

/-
  The calls until one finds no token: the tokens, and the
  buffer afterwards.
-/
def strtokRest
    (buffer : List UInt8)
    (last : Option Nat) :
    List (List UInt8) × List UInt8 :=
  match _hFound : (strtok delim buffer last).token with
  | none => ([], (strtok delim buffer last).buffer)
  | some t =>
      let found := strtok delim buffer last
      let rest := strtokRest found.buffer found.last
      (CString.textAt found.buffer t :: rest.1, rest.2)
termination_by Found.left ⟨none, buffer, last⟩
decreasing_by exact strtok_left delim _hFound

variable {delim}

------------------------------------------------------------
-- What Calls Leave Alone
------------------------------------------------------------

/- A call writes nothing in front of where it starts. -/
theorem take_strtok
    (buffer : List UInt8)
    (s : Nat) :
    (strtok delim buffer (some s)).buffer.take s =
        buffer.take s ∧
      ∀ s', (strtok delim buffer (some s)).last = some s' →
        s ≤ s' := by
  have hSkip : s ≤ CString.skip delim buffer s :=
    Nat.le_add_right _ _
  unfold strtok
  dsimp only
  split
  · exact ⟨rfl, fun s' hNone => nomatch hNone⟩
  · split
    · exact ⟨rfl, fun s' hNone => nomatch hNone⟩
    · constructor
      · exact List.take_set_of_le (by omega)
      · intro s' hLast
        cases hLast
        omega

theorem strtokRest_none
    (buffer : List UInt8) :
    strtokRest delim buffer none = ([], buffer) := by
  rw [strtokRest]
  rfl

theorem take_strtokRest
    (buffer : List UInt8)
    (s : Nat) :
    (strtokRest delim buffer (some s)).2.take s =
      buffer.take s := by
  induction hLeft : Found.left ⟨none, buffer, some s⟩ using
    Nat.strong_induction_on generalizing buffer s with
  | _ n ih =>
      obtain ⟨hTake, hLast⟩ := @take_strtok delim buffer s
      rw [strtokRest]
      split
      · exact hTake
      · rename_i t hFound
        have hLess := strtok_left delim hFound
        dsimp only
        cases hNext :
            (strtok delim buffer (some s)).last with
        | none =>
            rw [strtokRest_none]
            exact hTake
        | some s' =>
            unfold Found.left at hLess
            rw [hNext] at hLess
            have hRest := ih _ (hLeft ▸ hLess)
              (strtok delim buffer (some s)).buffer s' rfl
            have hBoth := congrArg (List.take s) hRest
            have hLe := hLast s' hNext
            rw [List.take_take, List.take_take,
              Nat.min_eq_left hLe] at hBoth
            exact hBoth.trans hTake

/- A string stays where what holds it stays. -/
theorem holdsAt_of_take
    {buffer buffer' text : List UInt8}
    {i k : Nat}
    (hHolds : CString.HoldsAt buffer i text)
    (hTake : buffer'.take k = buffer.take k)
    (hEnd : i + text.length < k) :
    CString.HoldsAt buffer' i text := by
  obtain ⟨hText, front, rest, rfl, rfl⟩ := hHolds
  refine ⟨hText, front, rest.take (k - (front.length +
    text.length + 1)) ++ buffer'.drop k, rfl, ?_⟩
  have hSplit : (front ++ text ++ 0 :: rest).take k =
      front ++ text ++ 0 :: rest.take
        (k - (front.length + text.length + 1)) := by
    have hFront : (front ++ text).length ≤ k := by
      rw [List.length_append]
      omega
    have hCount : k - (front ++ text).length =
        (k - (front.length + text.length + 1)) + 1 := by
      rw [List.length_append]
      omega
    rw [List.take_append, List.take_of_length_le hFront,
      hCount, List.take_succ_cons]
  conv_lhs => rw [← List.take_append_drop k buffer', hTake,
    hSplit]
  simp

------------------------------------------------------------
-- Starting Again
------------------------------------------------------------

variable {buffer text : List UInt8} {s : Nat}

/- The first call on a string. -/
theorem strtok_eq
    (hHolds : CString.HoldsAt buffer s text)
    (hEnds : delim 0 = false) :
    strtok delim buffer (some s) =
      let tok := s + (text.takeWhile delim).length
      let rest := text.dropWhile delim
      let n := (rest.takeWhile fun b => !delim b).length
      if rest = [] then
        ⟨none, buffer, none⟩
      else if n = rest.length then
        ⟨some tok, buffer, none⟩
      else
        ⟨some tok, buffer.set (tok + n) 0,
          some (tok + n + 1)⟩ := by
  have hRest := hHolds.skip hEnds
  unfold strtok
  dsimp only
  rw [hRest.textAt_eq, hHolds.skip_eq hEnds]

/- A call finds nothing in a string of delimiters. -/
theorem strtok_none_iff
    (hHolds : CString.HoldsAt buffer s text)
    (hEnds : delim 0 = false) :
    (strtok delim buffer (some s)).token = none ↔
      ∀ b ∈ text, delim b = true := by
  rw [strtok_eq hHolds hEnds, ← List.dropWhile_eq_nil_iff]
  dsimp only
  split
  · rename_i hEmpty
    simp [hEmpty]
  · rename_i hSome
    split
    · simp [hSome]
    · simp [hSome]

/- A string of one token. -/
theorem strtok_single
    (hHolds : CString.HoldsAt buffer s text)
    (hEnds : delim 0 = false)
    (hSome : text.dropWhile delim ≠ [])
    (hOne : ∀ b ∈ text.dropWhile delim, delim b = false) :
    strtok delim buffer (some s) =
      ⟨some (s + (text.takeWhile delim).length), buffer,
        none⟩ := by
  have hAll : (text.dropWhile delim).takeWhile
      (fun b => !delim b) = text.dropWhile delim := by
    apply List.takeWhile_eq_self_iff.mpr
    intro b hB
    rw [hOne b hB]
    rfl
  rw [strtok_eq hHolds hEnds]
  dsimp only
  rw [if_neg hSome, hAll, if_pos rfl]

theorem dropWhile_plain
    {w : List UInt8}
    (hPlain : ∀ b ∈ w, delim b = false) :
    w.dropWhile delim = w := by
  cases w with
  | nil => rfl
  | cons b w => simp [hPlain b List.mem_cons_self]

theorem takeWhile_plain
    {w : List UInt8}
    (hPlain : ∀ b ∈ w, delim b = false) :
    w.takeWhile delim = [] := by
  cases w with
  | nil => rfl
  | cons b w => simp [hPlain b List.mem_cons_self]

/- A token has a character. -/
theorem word_ne_nil
    {rest w : List UInt8}
    (hRest : text.dropWhile delim = rest)
    (hSome : rest ≠ [])
    (hWord : rest.takeWhile (fun b => !delim b) = w) :
    w ≠ [] := by
  cases rest with
  | nil => exact absurd rfl hSome
  | cons b rest =>
      have hHead : delim b = false := by
        have hShape : text.dropWhile delim ≠ [] := by
          rw [hRest]
          exact List.cons_ne_nil b rest
        have hNot := List.head_dropWhile_not delim hShape
        simpa [hRest] using hNot
      rw [← hWord]
      simp [hHead]

/-
  A call that finds a token: delimiters, the token, and
  either the end of the string or another delimiter.
-/
theorem strtok_found
    {t : Nat}
    (hHolds : CString.HoldsAt buffer s text)
    (hEnds : delim 0 = false)
    (hFound : (strtok delim buffer (some s)).token = some t) :
    ∃ lead w behind, text = lead ++ w ++ behind ∧
      (∀ b ∈ lead, delim b = true) ∧
      (∀ b ∈ w, delim b = false) ∧ w ≠ [] ∧
      (∀ b, behind.head? = some b → delim b = true) ∧
      t = s + lead.length ∧
      strtok delim buffer (some s) =
        if behind = [] then
          ⟨some t, buffer, none⟩
        else
          ⟨some t, buffer.set (t + w.length) 0,
            some (t + w.length + 1)⟩ := by
  have hParts := @List.takeWhile_append_dropWhile _ delim text
  have hSplit := @List.takeWhile_append_dropWhile _
    (fun b => !delim b) (text.dropWhile delim)
  rw [strtok_eq hHolds hEnds] at hFound ⊢
  dsimp only at hFound ⊢
  by_cases hEmpty : text.dropWhile delim = []
  · rw [if_pos hEmpty] at hFound
    cases hFound
  · rw [if_neg hEmpty] at hFound ⊢
    have hToken : some (s + (text.takeWhile delim).length) =
        some t := by
      split at hFound
      · exact hFound
      · exact hFound
    cases hToken
    have hWhole : ((text.dropWhile delim).takeWhile
        (fun b => !delim b)).length =
          (text.dropWhile delim).length ↔
        (text.dropWhile delim).dropWhile
          (fun b => !delim b) = [] := by
      have hLength := congrArg List.length hSplit
      rw [List.length_append] at hLength
      rw [← List.length_eq_zero_iff]
      omega
    refine ⟨text.takeWhile delim,
      (text.dropWhile delim).takeWhile (fun b => !delim b),
      (text.dropWhile delim).dropWhile (fun b => !delim b),
      ?_, ?_, ?_, word_ne_nil rfl hEmpty rfl, ?_, rfl, ?_⟩
    · rw [List.append_assoc, hSplit, hParts]
    · intro b hB
      exact List.mem_takeWhile_imp hB
    · intro b hB
      simpa using List.mem_takeWhile_imp hB
    · intro b hB
      have hNot := List.head?_dropWhile_not
        (fun b => !delim b) (text.dropWhile delim)
      rw [hB] at hNot
      simpa using hNot
    · simp only [hWhole]

/-
  Once a call has found a token and others have taken what
  follows, a call at the start finds the token again, and
  nothing is left behind it.
-/
theorem strtok_again
    {other : UInt8 → Bool}
    {t : Nat}
    (hHolds : CString.HoldsAt buffer s text)
    (hEnds : delim 0 = false)
    (hFound : (strtok delim buffer (some s)).token = some t) :
    let first := strtok delim buffer (some s)
    let rest := (strtokRest other first.buffer first.last).2
    strtok delim rest (some s) = ⟨some t, rest, none⟩ := by
  obtain ⟨lead, w, behind, hText, hLead, hWord, hSome, -,
    hToken, hCall⟩ := strtok_found hHolds hEnds hFound
  have hDrop : (lead ++ w).dropWhile delim = w := by
    rw [List.dropWhile_append_of_pos hLead]
    exact dropWhile_plain hWord
  have hTake : (lead ++ w).takeWhile delim = lead := by
    rw [List.takeWhile_append_of_pos hLead,
      takeWhile_plain hWord, List.append_nil]
  -- The token is a string of its own by now.
  have hAlone : ∀ buffer',
      CString.HoldsAt buffer' s (lead ++ w) →
        strtok delim buffer' (some s) =
          ⟨some t, buffer', none⟩ := by
    intro buffer' hHere
    have hAgain := strtok_single hHere hEnds
      (by rw [hDrop]; exact hSome)
      (by rw [hDrop]; exact hWord)
    rw [hTake, ← hToken] at hAgain
    exact hAgain
  dsimp only
  apply hAlone
  rw [hCall]
  cases behind with
  | nil =>
      rw [if_pos rfl, strtokRest_none]
      rw [List.append_nil] at hText
      exact hText ▸ hHolds
  | cons c behind =>
      rw [if_neg (List.cons_ne_nil c behind)]
      rw [hText] at hHolds
      have hCut := hHolds.cut.1
      rw [List.length_append, ← Nat.add_assoc, ← hToken]
        at hCut
      apply holdsAt_of_take hCut (take_strtokRest _ _)
      rw [List.length_append]
      omega

end Strtok
