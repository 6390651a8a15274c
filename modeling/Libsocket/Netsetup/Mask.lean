import Libsocket.Inet.Numbers
import Libsocket.Library.BitRun
import Mathlib.Algebra.Group.Nat.Defs

/-
  The network mask that `netsetup` asks for, and the network
  prefix that it makes of an address and a mask. The check
  scans the stored word from its lowest bit, which is not the
  order of the bits in the mask, and leaves out the last bit.

  Main declarations:
    * `checkNetMask`, `netAddrStr`
    * `IsNetMask`, `prefixText`
    * `checkNetMask_iff`
    * `netMask_iff`
-/

namespace Libsocket

------------------------------------------------------------
-- Stored Words
------------------------------------------------------------

/- `s_addr`: the first byte is the lowest one. -/
def InAddr.word (a : InAddr) : BitVec 32 :=
  a.b₃.toBitVec ++ a.b₂.toBitVec ++ a.b₁.toBitVec ++
    a.b₀.toBitVec

/- The bytes from the first one on. -/
def InAddr.toList (a : InAddr) : List UInt8 :=
  [a.b₀, a.b₁, a.b₂, a.b₃]

/- `s_addr` of two addresses, joined by `&` -/
def InAddr.and (a b : InAddr) : InAddr :=
  ⟨a.b₀ &&& b.b₀, a.b₁ &&& b.b₁, a.b₂ &&& b.b₂,
    a.b₃ &&& b.b₃⟩

/- The bits of the first three bytes. -/
theorem InAddr.getLsbD_word
    (a : InAddr)
    {i : Nat}
    (hLow : i < 8) :
    a.word.getLsbD i = a.b₀.toBitVec.getLsbD i ∧
      a.word.getLsbD (8 + i) = a.b₁.toBitVec.getLsbD i ∧
      a.word.getLsbD (16 + i) =
        a.b₂.toBitVec.getLsbD i := by
  have hBit (j : Nat) : a.word.getLsbD j =
      (a.b₃.toBitVec ++ a.b₂.toBitVec ++ a.b₁.toBitVec ++
        a.b₀.toBitVec : BitVec (8 + 8 + 8 + 8)).getLsbD j :=
    rfl
  have hSecond : ¬ 8 + i < 8 := by omega
  have hThird : ¬ 16 + i < 8 := by omega
  have hDown : 16 + i - 8 = 8 + i := by omega
  simp only [hBit, BitVec.getLsbD_append, hLow, hSecond,
    hThird, hDown, Nat.add_sub_cancel_left, if_true, if_false,
    and_self]

/- A byte is 0 when its bits are. -/
theorem byte_eq_zero_iff (b : UInt8) :
    b = 0 ↔ ∀ i, i < 8 → b.toBitVec.getLsbD i = false := by
  constructor
  · rintro rfl i -
    simp
  · intro hBits
    apply UInt8.toBitVec_inj.mp
    apply BitVec.eq_of_getLsbD_eq
    intro i hi
    rw [hBits i hi]
    simp

------------------------------------------------------------
-- Masks
------------------------------------------------------------

/- `check_net_mask` -/
def checkNetMask (mask : InAddr) : Bool :=
  BitRun.scan mask.word.getLsbD 31 0 false

/- The mask of a prefix length, in host order. -/
def netMask (n : Nat) : InAddr :=
  .ofHost (4294967296 - 2 ^ (32 - n))

/- A run of ones from the top, then zeros. -/
def IsNetMask (mask : InAddr) : Prop :=
  ∃ n, n ≤ 32 ∧ mask = netMask n

/-
  The lower 31 bits of the stored word are ones from the
  lowest bit on, then zeros.
-/
def IsLowRun (mask : InAddr) : Prop :=
  ∃ k, k ≤ 31 ∧ ∀ i, i < 31 →
    mask.word.getLsbD i = decide (i < k)

theorem checkNetMask_iff (mask : InAddr) :
    checkNetMask mask = true ↔ IsLowRun mask := by
  rw [checkNetMask, BitRun.scan_iff]
  simp only [Nat.zero_add, IsLowRun]

/- The prefix lengths whose masks are accepted. -/
def acceptedLengths : List Nat := [0, 8, 16, 24, 25, 32]

theorem checkNetMask_netMask :
    ∀ n, n ≤ 32 →
      checkNetMask (netMask n) =
        decide (n ∈ acceptedLengths) := by
  decide +kernel

theorem netMask_injective :
    ∀ n, n ≤ 32 → ∀ m, m ≤ 32 →
      netMask n = netMask m → n = m := by
  decide +kernel

------------------------------------------------------------
-- Network Prefixes
------------------------------------------------------------

/- The byte that `ntohl (…) >> (i * 8)` has at its end. -/
def InAddr.hostByte (a : InAddr) (i : Nat) : Nat :=
  (a.host >>> (i * 8)) &&& 255

/- One round of the loop that writes the prefix. -/
def prefixRound
    (netAddr mask : InAddr)
    (text : Bytes)
    (i : Nat) : Bytes :=
  if mask.hostByte i ≠ 0 then
    (if i < 3 then text ++ [fullStop] else text) ++
      decimal (netAddr.hostByte i)
  else
    text

/- `net_addr_str` -/
def netAddrStr (netAddr mask : InAddr) : Bytes :=
  [3, 2, 1].foldl (prefixRound netAddr mask) []

/-
  The dotted form of the bytes of a network address under the
  leading bytes of the mask that are not 0.
-/
def prefixText (netAddr mask : InAddr) : Bytes :=
  [fullStop].intercalate
    (((netAddr.toList.zip mask.toList).takeWhile
      fun b => b.2 ≠ 0).map fun b => decimal b.1.toNat)

theorem InAddr.hostByte_eq (a : InAddr) :
    a.hostByte 3 = a.b₀.toNat ∧ a.hostByte 2 = a.b₁.toNat ∧
      a.hostByte 1 = a.b₂.toNat := by
  have h₀ := a.b₀.toNat_lt
  have h₁ := a.b₁.toNat_lt
  have h₂ := a.b₂.toNat_lt
  have h₃ := a.b₃.toNat_lt
  have hLast (x : Nat) : x &&& 255 = x % 256 :=
    Nat.and_two_pow_sub_one_eq_mod x 8
  simp only [InAddr.hostByte, InAddr.host, hLast,
    Nat.shiftRight_eq_div_pow]
  refine ⟨?_, ?_, ?_⟩ <;> omega

/- Behind a byte that is 0 there are only such bytes. -/
theorem IsLowRun.bytes
    {mask : InAddr}
    (hRun : IsLowRun mask) :
    (mask.b₀ = 0 → mask.b₁ = 0) ∧
      (mask.b₁ = 0 → mask.b₂ = 0) := by
  rcases hRun with ⟨k, hk, hBits⟩
  constructor
  · intro hZero
    have hNone : k ≤ 0 := by
      have hBit := (byte_eq_zero_iff _).mp hZero 0 (by decide)
      rw [← (mask.getLsbD_word (by decide)).1,
        hBits 0 (by decide)] at hBit
      simpa using hBit
    refine (byte_eq_zero_iff _).mpr fun i hi => ?_
    rw [← (mask.getLsbD_word hi).2.1, hBits _ (by omega)]
    simp only [decide_eq_false_iff_not]
    omega
  · intro hZero
    have hFew : k ≤ 8 := by
      have hBit := (byte_eq_zero_iff _).mp hZero 0 (by decide)
      rw [← (mask.getLsbD_word (by decide)).2.1,
        hBits _ (by decide)] at hBit
      simpa using hBit
    refine (byte_eq_zero_iff _).mpr fun i hi => ?_
    rw [← (mask.getLsbD_word hi).2.2, hBits _ (by omega)]
    simp only [decide_eq_false_iff_not]
    omega

theorem byte_toNat_eq_zero (b : UInt8) :
    b.toNat = 0 ↔ b = 0 := by
  rw [← UInt8.toNat_inj]
  rfl

/- The prefix as the loop writes it. -/
theorem netAddrStr_eq
    (netAddr mask : InAddr) :
    netAddrStr netAddr mask =
      (if mask.b₀ = 0 then [] else
        decimal netAddr.b₀.toNat) ++
      ((if mask.b₁ = 0 then [] else
        fullStop :: decimal netAddr.b₁.toNat) ++
      (if mask.b₂ = 0 then [] else
        fullStop :: decimal netAddr.b₂.toNat)) := by
  rcases mask.hostByte_eq with ⟨h₃, h₂, h₁⟩
  rcases netAddr.hostByte_eq with ⟨g₃, g₂, g₁⟩
  simp only [netAddrStr, List.foldl_cons, List.foldl_nil,
    prefixRound, h₁, h₂, h₃, g₁, g₂, g₃, ne_eq,
    byte_toNat_eq_zero]
  by_cases hA : mask.b₀ = 0 <;> by_cases hB : mask.b₁ = 0 <;>
    by_cases hC : mask.b₂ = 0 <;> simp [hA, hB, hC]

/- The last byte of an address is never written. -/
theorem netAddrStr_eq_iff
    {mask : InAddr}
    (hRun : IsLowRun mask)
    (netAddr : InAddr) :
    netAddrStr netAddr mask = prefixText netAddr mask ↔
      ∃ b, b ∈ mask.toList ∧ b = 0 := by
  rcases hRun.bytes with ⟨hFirst, hSecond⟩
  rw [netAddrStr_eq]
  by_cases hA : mask.b₀ = 0
  · have hB := hFirst hA
    have hC := hSecond hB
    simp [prefixText, InAddr.toList, hA, hB, hC]
  by_cases hB : mask.b₁ = 0
  · have hC := hSecond hB
    simp [prefixText, InAddr.toList, hA, hB, hC]
  by_cases hC : mask.b₂ = 0
  · simp [prefixText, InAddr.toList, hA, hB, hC,
      List.intercalate]
  by_cases hD : mask.b₃ = 0
  · simp [prefixText, InAddr.toList, hA, hB, hC, hD,
      List.intercalate]
  · have hNone : ¬ ∃ b, b ∈ mask.toList ∧ b = 0 := by
      simp [InAddr.toList, Ne.symm, hA, hB, hC, hD]
    refine iff_of_false (fun hSame => ?_) hNone
    have hLength := congrArg List.length hSame
    simp [prefixText, InAddr.toList, hA, hB, hC, hD,
      List.intercalate] at hLength

------------------------------------------------------------
-- What Is Accepted
------------------------------------------------------------

/-
  The check is right for a mask if and only if the mask is
  one of six, or neither it nor its stored word without the
  last bit is a run. The prefix of an accepted mask is right
  if and only if the mask has a byte that is 0.
-/
theorem netMask_iff (mask : InAddr) :
    ((checkNetMask mask = true ↔ IsNetMask mask) ↔
      (∃ n, n ∈ acceptedLengths ∧ mask = netMask n) ∨
        ¬ IsNetMask mask ∧ ¬ IsLowRun mask) ∧
    (checkNetMask mask = true → ∀ ipAddr : InAddr,
      netAddrStr (ipAddr.and mask) mask =
          prefixText (ipAddr.and mask) mask ↔
        ∃ b, b ∈ mask.toList ∧ b = 0) := by
  constructor
  · by_cases hMask : IsNetMask mask
    · rcases hMask with ⟨n, hn, rfl⟩
      have hMask : IsNetMask (netMask n) := ⟨n, hn, rfl⟩
      rw [checkNetMask_netMask n hn, decide_eq_true_iff]
      simp only [hMask, iff_true, not_true, false_and,
        or_false]
      constructor
      · exact fun hIn => ⟨n, hIn, rfl⟩
      · rintro ⟨m, hIn, hSame⟩
        have hm : m ≤ 32 := by
          simp only [acceptedLengths, List.mem_cons,
            List.not_mem_nil, or_false] at hIn
          omega
        rwa [netMask_injective n hn m hm hSame]
    · have hNone :
          ¬ ∃ n, n ∈ acceptedLengths ∧ mask = netMask n := by
        rintro ⟨m, hIn, hSame⟩
        refine hMask ⟨m, ?_, hSame⟩
        simp only [acceptedLengths, List.mem_cons,
          List.not_mem_nil, or_false] at hIn
        omega
      rw [checkNetMask_iff]
      simp only [hMask, hNone, iff_false, false_or,
        not_false_eq_true, true_and]
  · exact fun hAccepted ipAddr => netAddrStr_eq_iff
      ((checkNetMask_iff mask).mp hAccepted) _

/-
  255.255.255.192 is refused and 1.0.0.0 is accepted, and the
  prefix of a host mask lacks the last byte.
-/
theorem netMask_misjudged :
    ¬ ∀ mask : InAddr,
      (checkNetMask mask = true ↔ IsNetMask mask) ∧
      (checkNetMask mask = true → ∀ ipAddr : InAddr,
        netAddrStr (ipAddr.and mask) mask =
          prefixText (ipAddr.and mask) mask) := by
  intro hAlways
  have hAccepted :=
    (hAlways ⟨255, 255, 255, 192⟩).1.mpr ⟨26, by decide, rfl⟩
  exact absurd hAccepted (by decide)

end Libsocket
