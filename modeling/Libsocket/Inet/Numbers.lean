import Libsocket.Inet.Lines

/-
  The numbers of the databases in writing: each address, port
  and network number has a word that is read as it.

  Main declarations:
    * `atoi_decimal`
    * `inetNetwork_inetNtoa`
    * `DbWord.ofNumber`, `DbWord.ofAddr`
-/

namespace Libsocket

------------------------------------------------------------
-- Decimal Digits
------------------------------------------------------------

theorem digit_byte
    {d : Nat}
    (hDigit : d < 10) :
    isDigit (UInt8.ofNat (Nat.digitChar d).toNat) = true ∧
      (UInt8.ofNat (Nat.digitChar d).toNat).toNat - 48 =
        d := by
  have hAll : ∀ d : Fin 10,
      isDigit (UInt8.ofNat (Nat.digitChar d).toNat) = true ∧
        (UInt8.ofNat (Nat.digitChar d).toNat).toNat - 48 =
          d := by decide
  exact hAll ⟨d, hDigit⟩

/- A number is written behind its last digit's others. -/
theorem decimal_step (n : Nat) :
    decimal n =
      (if n < 10 then [] else decimal (n / 10)) ++
        [UInt8.ofNat (Nat.digitChar (n % 10)).toNat] := by
  unfold decimal
  rw [Nat.toDigits_eq_if (by decide)]
  by_cases hSmall : n < 10
  · rw [if_pos hSmall, if_pos hSmall, Nat.mod_eq_of_lt hSmall]
    rfl
  · rw [if_neg hSmall, if_neg hSmall, List.map_append]
    rfl

theorem decimal_ne_nil (n : Nat) : decimal n ≠ [] := by
  rw [decimal_step]
  exact List.append_ne_nil_of_right_ne_nil _
    (List.cons_ne_nil _ _)

theorem isDigit_decimal (n : Nat) :
    ∀ c ∈ decimal n, isDigit c = true := by
  induction n using Nat.strong_induction_on with
  | _ n ih =>
      intro c hC
      rw [decimal_step] at hC
      rcases List.mem_append.mp hC with hC | hC
      · by_cases hSmall : n < 10
        · rw [if_pos hSmall] at hC
          cases hC
        · rw [if_neg hSmall] at hC
          exact ih (n / 10) (by omega) c hC
      · rw [List.mem_singleton.mp hC]
        exact (digit_byte (Nat.mod_lt n (by decide))).1

theorem atoiDigits_append
    {digits : Bytes}
    (hDigits : ∀ c ∈ digits, isDigit c = true)
    (m : Nat)
    (c : UInt8)
    (hC : isDigit c = true) :
    atoiDigits m (digits ++ [c]) =
      atoiDigits m digits * 10 + (c.toNat - 48) := by
  induction digits generalizing m with
  | nil => simp [atoiDigits, hC]
  | cons d ds ih =>
      have hHead := hDigits d List.mem_cons_self
      have hTail := ih fun x hX =>
        hDigits x (List.mem_cons_of_mem d hX)
      simp only [List.cons_append, atoiDigits, hHead, if_true,
        hTail]

theorem atoiDigits_decimal (n : Nat) :
    atoiDigits 0 (decimal n) = n := by
  induction n using Nat.strong_induction_on with
  | _ n ih =>
      obtain ⟨hDigit, hValue⟩ :=
        digit_byte (Nat.mod_lt n (by decide : 0 < 10))
      rw [decimal_step]
      by_cases hSmall : n < 10
      · rw [if_pos hSmall, atoiDigits_append
          (List.forall_mem_nil _) _ _ hDigit, hValue]
        simp only [atoiDigits]
        omega
      · rw [if_neg hSmall, atoiDigits_append
          (isDigit_decimal _) _ _ hDigit, hValue,
          ih (n / 10) (by omega)]
        omega

/- What is written for a number that fits is read as it. -/
theorem atoi_decimal
    {n : Nat}
    (hSmall : n ≤ 2147483647) :
    atoi (decimal n) = n := by
  obtain ⟨c, cp, hShape⟩ :=
    List.exists_cons_of_ne_nil (decimal_ne_nil n)
  have hDigit := isDigit_decimal n c (by
    rw [hShape]
    exact List.mem_cons_self)
  unfold isDigit at hDigit
  simp only [decide_eq_true_eq] at hDigit
  have hSpace : isSpace c = false := by
    unfold isSpace
    simp only [Bool.or_eq_false_iff, beq_eq_false_iff_ne,
      decide_eq_false_iff_not]
    constructor
    · intro hSame
      rw [hSame] at hDigit
      exact absurd hDigit.1 (by decide)
    · omega
  have hKeep : (decimal n).dropWhile isSpace = c :: cp := by
    rw [hShape]
    simp [hSpace]
  have hMinus : c ≠ 45 := by
    intro hSame
    rw [hSame] at hDigit
    exact absurd hDigit.1 (by decide)
  have hPlus : c ≠ 43 := by
    intro hSame
    rw [hSame] at hDigit
    exact absurd hDigit.1 (by decide)
  have hValue := atoiDigits_decimal n
  rw [hShape] at hValue
  unfold atoi
  rw [hKeep]
  simp only [hMinus, hPlus, if_false, hValue]
  omega

------------------------------------------------------------
-- Network Numbers
------------------------------------------------------------

/- `ntohl` of an address -/
def InAddr.host (a : InAddr) : Nat :=
  a.b₀.toNat * 16777216 + a.b₁.toNat * 65536 +
    a.b₂.toNat * 256 + a.b₃.toNat

theorem networkParts_dot
    {room : Nat}
    {parts : List Nat}
    {rest : Bytes}
    (b : UInt8) :
    networkParts (room + 1) parts
        (decimal b.toNat ++ fullStop :: rest) =
      networkParts room (parts ++ [b.toNat]) rest := by
  have hNumber := @atonNumber_decimal b (fullStop :: rest) (by
    intro c hC
    cases hC
    rfl)
  conv_lhs => unfold networkParts
  simp [hNumber]

theorem networkParts_last
    {room : Nat}
    {parts : List Nat}
    (b : UInt8) :
    networkParts room parts (decimal b.toNat) =
      some (parts ++ [b.toNat], []) := by
  have hNumber := @atonNumber_decimal b [] (by
    intro c hC
    cases hC)
  rw [List.append_nil] at hNumber
  unfold networkParts
  simp [hNumber]

/- One more byte at the end of a number. -/
theorem network_shift
    {val : Nat}
    (hSmall : val < 16777216)
    (b : UInt8) :
    (val <<< 8 ||| b.toNat % 256) % 4294967296 =
      val * 256 + b.toNat := by
  have hByte := b.toNat_lt
  rw [Nat.mod_eq_of_lt (by omega : b.toNat < 256),
    ← Nat.shiftLeft_add_eq_or_of_lt (by omega),
    Nat.shiftLeft_eq]
  omega

theorem inetNetwork_inetNtoa (a : InAddr) :
    inetNetwork (inetNtoa a) = a.host := by
  have h₀ := a.b₀.toNat_lt
  have h₁ := a.b₁.toNat_lt
  have h₂ := a.b₂.toNat_lt
  have hFirst := @network_shift 0 (by decide) a.b₀
  have hSecond := @network_shift a.b₀.toNat (by omega) a.b₁
  have hThird := @network_shift
    (a.b₀.toNat * 256 + a.b₁.toNat) (by omega) a.b₂
  have hFourth := @network_shift
    ((a.b₀.toNat * 256 + a.b₁.toNat) * 256 + a.b₂.toNat)
    (by omega) a.b₃
  rw [Nat.zero_mul, Nat.zero_add] at hFirst
  unfold inetNetwork inetNtoa
  rw [networkParts_dot, networkParts_dot, networkParts_dot,
    networkParts_last]
  simp only [List.nil_append, List.cons_append,
    List.head?_nil, Option.any_none, Bool.false_eq_true,
    if_false, List.length_cons, List.length_nil,
    List.foldl_cons, List.foldl_nil, hFirst, hSecond, hThird,
    hFourth]
  rw [if_neg (by decide), InAddr.host]
  omega

------------------------------------------------------------
-- Words
------------------------------------------------------------

theorem isPlain_digit
    {c : UInt8}
    (hDigit : isDigit c = true) :
    isPlain c = true := by
  have hAll : ∀ n : Fin 256,
      isDigit (UInt8.ofNat n) = true →
        isPlain (UInt8.ofNat n) = true := by decide +kernel
  have hOne := hAll ⟨c.toNat, c.toNat_lt⟩
  simp only [UInt8.ofNat_toNat] at hOne
  exact hOne hDigit

/- The written form of a number. -/
def DbWord.ofNumber (n : Nat) : DbWord where
  text := decimal n
  some := decimal_ne_nil n
  plain := fun c hC => isPlain_digit (isDigit_decimal n c hC)

/- The written form of an address. -/
def DbWord.ofAddr (a : InAddr) : DbWord where
  text := inetNtoa a
  some := by
    unfold inetNtoa
    exact List.append_ne_nil_of_right_ne_nil _
      (List.cons_ne_nil _ _)
  plain := by
    have hNumber : ∀ n, ∀ c ∈ decimal n, isPlain c = true :=
      fun n c hC => isPlain_digit (isDigit_decimal n c hC)
    intro c hC
    simp only [inetNtoa, List.mem_append, List.mem_cons] at hC
    obtain hC | rfl | hC | rfl | hC | rfl | hC := hC
    · exact hNumber _ c hC
    · decide
    · exact hNumber _ c hC
    · decide
    · exact hNumber _ c hC
    · decide
    · exact hNumber _ c hC

theorem inetAddr_ofAddr (a : InAddr) :
    inetAddr (DbWord.ofAddr a).text = a := by
  change (inetAton (inetNtoa a)).getD _ = a
  rw [inetAton_inetNtoa]
  rfl

end Libsocket
