import Libsocket.Library.Separated
import Libsocket.Library.Strtok

/-
  The tokens that repeated calls find in a string: the parts
  between delimiters that are not empty, in their order.

  Main declarations:
    * `Strtok.tokens`
    * `Strtok.strtokRest_eq`
-/

namespace Strtok

variable {delim : UInt8 → Bool}

/- The parts between delimiters that are not empty. -/
def tokens
    (delim : UInt8 → Bool)
    (text : List UInt8) : List (List UInt8) :=
  (text.splitOnP delim).filter (· ≠ [])

------------------------------------------------------------
-- Parts Of A Text
------------------------------------------------------------

theorem tokens_delim
    {b : UInt8}
    (hDelim : delim b = true)
    (left right : List UInt8) :
    tokens delim (left ++ b :: right) =
      tokens delim left ++ tokens delim right := by
  unfold tokens
  rw [List.splitOnP_append_cons left right hDelim,
    List.filter_append]

/- Delimiters in front change nothing. -/
theorem tokens_lead
    {lead : List UInt8}
    (hLead : ∀ b ∈ lead, delim b = true)
    (text : List UInt8) :
    tokens delim (lead ++ text) = tokens delim text := by
  induction lead with
  | nil => rfl
  | cons b lead ih =>
      have hNone : tokens delim [] = [] := by
        simp [tokens, List.splitOnP_nil]
      have hFirst := tokens_delim (hLead b List.mem_cons_self)
        [] (lead ++ text)
      rw [hNone, List.nil_append, List.nil_append] at hFirst
      rw [List.cons_append, hFirst]
      exact ih fun c hC => hLead c (List.mem_cons_of_mem _ hC)

theorem tokens_word
    {w : List UInt8}
    (hWord : ∀ b ∈ w, delim b = false)
    (hSome : w ≠ []) :
    tokens delim w = [w] := by
  unfold tokens
  rw [List.splitOnP_eq_singleton hWord]
  simp [hSome]

/- Only a text of delimiters has no token. -/
theorem tokens_eq_nil_iff (text : List UInt8) :
    tokens delim text = [] ↔ ∀ b ∈ text, delim b = true := by
  unfold tokens
  induction text with
  | nil => simp [List.splitOnP_nil]
  | cons b text ih =>
      rw [List.splitOnP_cons_eq_if_modifyHead,
        List.forall_mem_cons]
      by_cases hDelim : delim b = true
      · rw [if_pos hDelim, List.filter_cons_of_neg (by simp),
          ih]
        simp [hDelim]
      · obtain ⟨part, parts, hShape⟩ :=
          List.exists_cons_of_ne_nil
            (List.splitOnP_ne_nil delim text)
        rw [if_neg hDelim, hShape, List.modifyHead_cons,
          List.filter_cons_of_pos (by simp)]
        simp [hDelim]

/- Each token has its place between two delimiters. -/
theorem length_tokens_le (text : List UInt8) :
    (tokens delim text).length ≤ text.countP delim + 1 := by
  rw [← Separated.length_splitOnP]
  exact List.length_filter_le _ _

------------------------------------------------------------
-- Tokens That Are Found
------------------------------------------------------------

/- The first of the calls, and those that follow it. -/
theorem strtokRest_eq_cons
    {buffer : List UInt8}
    {last : Option Nat}
    {t : Nat}
    (hFound : (strtok delim buffer last).token = some t) :
    (strtokRest delim buffer last).1 =
      CString.textAt (strtok delim buffer last).buffer t ::
        (strtokRest delim (strtok delim buffer last).buffer
          (strtok delim buffer last).last).1 := by
  conv_lhs => rw [strtokRest]
  split
  · rename_i hNone
    rw [hFound] at hNone
    cases hNone
  · rename_i t' hFound'
    rw [hFound] at hFound'
    cases hFound'
    rfl

theorem strtokRest_eq_nil
    {buffer : List UInt8}
    {last : Option Nat}
    (hNone : (strtok delim buffer last).token = none) :
    (strtokRest delim buffer last).1 = [] := by
  rw [strtokRest]
  split
  · rfl
  · rename_i t hFound
    rw [hNone] at hFound
    cases hFound

/- The calls on a string find its tokens. -/
theorem strtokRest_eq
    {buffer text : List UInt8}
    {s : Nat}
    (hHolds : CString.HoldsAt buffer s text)
    (hEnds : delim 0 = false) :
    (strtokRest delim buffer (some s)).1 =
      tokens delim text := by
  induction hLength : text.length using
    Nat.strong_induction_on generalizing buffer s text with
  | _ n ih =>
      cases hFound : (strtok delim buffer (some s)).token with
      | none =>
          rw [strtokRest_eq_nil hFound]
          rw [strtok_none_iff hHolds hEnds] at hFound
          exact ((tokens_eq_nil_iff text).mpr hFound).symm
      | some t =>
          obtain ⟨lead, w, behind, rfl, hLead, hWord, hSome,
            hDelim, rfl, hCall⟩ :=
              strtok_found hHolds hEnds hFound
          rw [strtokRest_eq_cons hFound, List.append_assoc,
            tokens_lead hLead]
          cases behind with
          | nil =>
              rw [if_pos rfl] at hCall
              have hAt := hHolds
              rw [List.append_nil] at hAt
              rw [hCall, strtokRest_none, hAt.behind.textAt_eq,
                List.append_nil, tokens_word hWord hSome]
          | cons c behind =>
              rw [if_neg (List.cons_ne_nil c behind)] at hCall
              have hCut := hHolds.cut
              rw [List.length_append, ← Nat.add_assoc] at hCut
              have hShort : behind.length < n := by
                simp only [← hLength, List.length_append,
                  List.length_cons]
                omega
              rw [hCall, hCut.1.behind.textAt_eq,
                ih _ hShort hCut.2 rfl,
                tokens_delim (hDelim c rfl),
                tokens_word hWord hSome]
              rfl

end Strtok
