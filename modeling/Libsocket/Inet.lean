import Libsocket.Ini
import Mathlib.Data.Fintype.Basic

/-
  Internet addresses and their textual form: `inet_ntoa` and
  `inet_aton`.

  Main declarations:
    * `InAddr`
    * `inetNtoa`, `inetAton`
    * `inetAton_inetNtoa`
-/

namespace Libsocket

/- `struct in_addr`, as its bytes lie in memory. -/
structure InAddr where
  b₀ : UInt8
  b₁ : UInt8
  b₂ : UInt8
  b₃ : UInt8
deriving DecidableEq, Repr

/- `s_addr` is 0. -/
def InAddr.any : InAddr := ⟨0, 0, 0, 0⟩

/- `htonl` of an unsigned long -/
def InAddr.ofHost (val : Nat) : InAddr where
  b₀ := UInt8.ofNat (val / 16777216)
  b₁ := UInt8.ofNat (val / 65536)
  b₂ := UInt8.ofNat (val / 256)
  b₃ := UInt8.ofNat val

------------------------------------------------------------
-- Writing
------------------------------------------------------------

def fullStop : UInt8 := 46

/- The characters of a number that `%d` prints. -/
def decimal (n : Nat) : Bytes :=
  (Nat.toDigits 10 n).map fun c => UInt8.ofNat c.toNat

/- `inet_ntoa` -/
def inetNtoa (a : InAddr) : Bytes :=
  decimal a.b₀.toNat ++ fullStop :: (decimal a.b₁.toNat ++
    fullStop :: (decimal a.b₂.toNat ++
      fullStop :: decimal a.b₃.toNat))

------------------------------------------------------------
-- Reading
------------------------------------------------------------

/- `isdigit` -/
def isDigit (b : UInt8) : Bool :=
  decide (48 ≤ b.toNat ∧ b.toNat ≤ 57)

/- `islower` -/
def isLower (b : UInt8) : Bool :=
  decide (97 ≤ b.toNat ∧ b.toNat ≤ 122)

/- `isxdigit` -/
def isXDigit (b : UInt8) : Bool :=
  isDigit b || decide (65 ≤ b.toNat ∧ b.toNat ≤ 70) ||
    decide (97 ≤ b.toNat ∧ b.toNat ≤ 102)

/- `isascii` -/
def isAscii (b : UInt8) : Bool := decide (b.toNat < 128)

/-
  Collect the digits of a number. `val` is an unsigned long,
  and wraps around.
-/
def atonDigits (base : Nat) :
    Nat → Bytes → Nat × Bytes
| val, [] => (val, [])
| val, c :: cp =>
    if isAscii c && isDigit c then
      atonDigits base
        ((val * base + (c.toNat - 48)) % 4294967296) cp
    else if base = 16 ∧ isAscii c && isXDigit c then
      atonDigits base
        ((val * 16 + (c.toNat + 10 -
          (if isLower c then 97 else 65))) % 4294967296) cp
    else
      (val, c :: cp)

/- One number: `0x` means base 16, `0` base 8. -/
def atonNumber : Bytes → Nat × Bytes
| 48 :: c :: cp =>
    if c = 120 ∨ c = 88 then
      atonDigits 16 0 cp
    else
      atonDigits 8 0 (c :: cp)
| 48 :: [] => atonDigits 8 0 []
| cp => atonDigits 10 0 cp

/-
  The numbers in front of a dot, the last number, and the
  rest of the string. `room` is how many dots there may be.
-/
def atonParts :
    Nat → List Nat → Bytes → Option (List Nat × Nat × Bytes)
| room, parts, cp =>
    let next := atonNumber cp
    if next.2.head? = some fullStop then
      match room with
      | 0 => none
      | room + 1 =>
          if 255 < next.1 then
            none
          else
            atonParts room (parts ++ [next.1]) next.2.tail
    else
      some (parts, next.1, next.2)

/- Put the address together from its numbers. -/
def atonValue : List Nat → Nat → Option Nat
| [], val => some val
| [a], val =>
    if 16777215 < val then none
    else some (val ||| a <<< 24)
| [a, b], val =>
    if 65535 < val then none
    else some (val ||| (a <<< 24 ||| b <<< 16))
| [a, b, c], val =>
    if 255 < val then none
    else some (val ||| (a <<< 24 ||| b <<< 16 ||| c <<< 8))
| _, val => some val

/- `inet_aton`: none where it returns 0. -/
def inetAton (cp : Bytes) : Option InAddr := do
  let (parts, val, rest) ← atonParts 3 [] cp
  if rest.head?.any fun c => !(isAscii c && isSpace c) then
    none
  else do
    let val ← atonValue parts val
    return InAddr.ofHost val

------------------------------------------------------------
-- Reading What Was Written
------------------------------------------------------------

/- Digits go into the number one after the other. -/
theorem atonDigits_append
    {base val : Nat}
    {digits rest : Bytes}
    (hDigits : ∀ c ∈ digits, isDigit c = true)
    (hRest : ∀ c, rest.head? = some c → isXDigit c = false) :
    atonDigits base val (digits ++ rest) =
      (digits.foldl (fun val c =>
        (val * base + (c.toNat - 48)) % 4294967296) val,
          rest) := by
  induction digits generalizing val with
  | nil =>
      cases rest with
      | nil => rfl
      | cons c cs =>
          have hNot := hRest c rfl
          have hDigit : isDigit c = false := by
            unfold isXDigit at hNot
            simp only [Bool.or_eq_false_iff] at hNot
            exact hNot.1.1
          simp [atonDigits, hNot, hDigit]
  | cons c cs ih =>
      have hDigit := hDigits c List.mem_cons_self
      have hAscii : isAscii c = true := by
        unfold isDigit at hDigit
        unfold isAscii
        simp only [decide_eq_true_eq] at hDigit ⊢
        omega
      simp only [List.cons_append, atonDigits, hAscii, hDigit,
        Bool.and_self, if_true, List.foldl_cons]
      exact ih fun d hD => hDigits d (List.mem_cons_of_mem _ hD)

/- What is printed for a byte, but for 0. -/
def PrintsByte (n : Nat) : Prop :=
  (∀ c ∈ decimal n, isDigit c = true) ∧
    (decimal n).head? ≠ none ∧
    (decimal n).head? ≠ some 48 ∧
    (decimal n).foldl (fun val c =>
      (val * 10 + (c.toNat - 48)) % 4294967296) 0 = n

/- The same as a check, to be made for every byte. -/
def printsByteCheck (n : Nat) : Bool :=
  (decimal n).all isDigit &&
    match decimal n with
    | [] => false
    | c :: cs => c.toNat != 48 &&
        (c :: cs).foldl (fun val c =>
          (val * 10 + (c.toNat - 48)) % 4294967296) 0 == n

theorem printsByte
    {n : Nat}
    (hSome : n ≠ 0)
    (hByte : n < 256) :
    PrintsByte n := by
  have hAll : ((List.range 256).all fun m =>
      m == 0 || printsByteCheck m) = true := by
    decide +kernel
  have hOne := List.all_eq_true.mp hAll n
    (List.mem_range.mpr hByte)
  have hZero : (n == 0) = false := by simpa using hSome
  rw [hZero, Bool.false_or, printsByteCheck,
    Bool.and_eq_true] at hOne
  unfold PrintsByte
  cases hDigits : decimal n with
  | nil => simp [hDigits] at hOne
  | cons c cs =>
      rw [hDigits] at hOne
      rcases hOne with ⟨hEach, hRest⟩
      dsimp only at hRest
      rw [Bool.and_eq_true, bne_iff_ne, beq_iff_eq] at hRest
      refine ⟨List.all_eq_true.mp hEach, by simp, ?_, hRest.2⟩
      intro hHead
      cases hHead
      exact hRest.1 rfl

theorem length_inetNtoa (a : InAddr) :
    (inetNtoa a).length ≤ 15 := by
  have hByte : ∀ b : UInt8,
      (decimal b.toNat).length ≤ 3 := by
    intro b
    have hAll : ∀ n : Fin 256,
        (decimal n.val).length ≤ 3 := by
      decide +kernel
    exact hAll ⟨b.toNat, b.toNat_lt⟩
  have h₀ := hByte a.b₀
  have h₁ := hByte a.b₁
  have h₂ := hByte a.b₂
  have h₃ := hByte a.b₃
  simp only [inetNtoa, List.length_append, List.length_cons]
  omega

/- The number of a byte that was printed. -/
theorem atonNumber_decimal
    (b : UInt8)
    {rest : Bytes}
    (hRest : ∀ c, rest.head? = some c → c = fullStop) :
    atonNumber (decimal b.toNat ++ rest) = (b.toNat, rest) := by
  have hStops : ∀ c, rest.head? = some c →
      isXDigit c = false := by
    intro c hC
    rw [hRest c hC]
    decide
  by_cases hZero : b = 0
  · subst hZero
    cases rest with
    | nil => rfl
    | cons c cs =>
        cases hRest c rfl
        exact @atonDigits_append _ _ [] _ (by simp) hStops
  · have hSome : b.toNat ≠ 0 := by
      intro hIs
      exact hZero (UInt8.toNat_inj.mp hIs)
    rcases printsByte hSome b.toNat_lt with
      ⟨hDigits, hNonempty, hHead, hFold⟩
    have hTen : atonNumber (decimal b.toNat ++ rest) =
        atonDigits 10 0 (decimal b.toNat ++ rest) := by
      cases hShape : decimal b.toNat with
      | nil =>
          rw [hShape] at hNonempty
          exact absurd rfl hNonempty
      | cons c cs =>
          rw [hShape] at hHead
          have hNot : c ≠ 48 := fun h => hHead (by rw [h]; rfl)
          cases hTail : cs ++ rest with
          | nil => simp [atonNumber, hTail, hNot]
          | cons d ds => simp [atonNumber, hTail, hNot]
    rw [hTen, atonDigits_append hDigits hStops, hFold]

/- A number of a dotted address that more follow. -/
theorem atonParts_dot
    {room : Nat}
    {parts : List Nat}
    {rest : Bytes}
    (b : UInt8) :
    atonParts (room + 1) parts
        (decimal b.toNat ++ fullStop :: rest) =
      atonParts room (parts ++ [b.toNat]) rest := by
  have hNumber := @atonNumber_decimal b (fullStop :: rest)
    (by rintro c ⟨⟩; rfl)
  have hByte : ¬ 255 < b.toNat := by
    have := b.toNat_lt
    omega
  conv_lhs => unfold atonParts
  simp [hNumber, hByte]

/- The numbers of an address in a word. -/
theorem atonValue_four (a b c d : UInt8) :
    atonValue [a.toNat, b.toNat, c.toNat] d.toNat =
      some (a.toNat * 16777216 + b.toNat * 65536 +
        c.toNat * 256 + d.toNat) := by
  have hA := a.toNat_lt
  have hB := b.toNat_lt
  have hC := c.toNat_lt
  have hD := d.toNat_lt
  have hLast : d.toNat ||| c.toNat <<< 8 =
      c.toNat * 256 + d.toNat := by
    rw [Nat.or_comm, ← Nat.shiftLeft_add_eq_or_of_lt hD,
      Nat.shiftLeft_eq]
  have hNext : (c.toNat * 256 + d.toNat) ||| b.toNat <<< 16 =
      b.toNat * 65536 + (c.toNat * 256 + d.toNat) := by
    rw [Nat.or_comm, ← Nat.shiftLeft_add_eq_or_of_lt
      (by omega), Nat.shiftLeft_eq]
  have hFirst : (b.toNat * 65536 +
      (c.toNat * 256 + d.toNat)) ||| a.toNat <<< 24 =
        a.toNat * 16777216 + (b.toNat * 65536 +
          (c.toNat * 256 + d.toNat)) := by
    rw [Nat.or_comm, ← Nat.shiftLeft_add_eq_or_of_lt
      (by omega), Nat.shiftLeft_eq]
  have hTurn : ∀ w x y z : Nat,
      z ||| (w ||| x ||| y) = z ||| y ||| x ||| w := by
    intro w x y z
    rw [Nat.or_comm (w ||| x) y, ← Nat.or_assoc,
      Nat.or_comm w x, ← Nat.or_assoc]
  have hByte : ¬ 255 < d.toNat := by omega
  unfold atonValue
  dsimp only
  rw [if_neg hByte, hTurn, hLast, hNext, hFirst]
  have hSum : a.toNat * 16777216 + (b.toNat * 65536 +
      (c.toNat * 256 + d.toNat)) =
        a.toNat * 16777216 + b.toNat * 65536 +
          c.toNat * 256 + d.toNat := by omega
  rw [hSum]

theorem ofHost_bytes (a b c d : UInt8) :
    InAddr.ofHost (a.toNat * 16777216 + b.toNat * 65536 +
      c.toNat * 256 + d.toNat) = ⟨a, b, c, d⟩ := by
  have hA := a.toNat_lt
  have hB := b.toNat_lt
  have hC := c.toNat_lt
  have hD := d.toNat_lt
  unfold InAddr.ofHost
  rw [InAddr.mk.injEq]
  refine ⟨?_, ?_, ?_, ?_⟩
  all_goals
    apply UInt8.toNat_inj.mp
    rw [UInt8.toNat_ofNat']
    omega

/- The written form of an address is read as the address. -/
theorem inetAton_inetNtoa (a : InAddr) :
    inetAton (inetNtoa a) = some a := by
  have hLast : ∀ parts, atonParts 0 parts
      (decimal a.b₃.toNat) = some (parts, a.b₃.toNat, []) := by
    intro parts
    have hNumber := @atonNumber_decimal a.b₃ []
      (by rintro c ⟨⟩)
    rw [List.append_nil] at hNumber
    unfold atonParts
    simp [hNumber]
  unfold inetAton inetNtoa
  rw [atonParts_dot, atonParts_dot, atonParts_dot, hLast]
  simp only [List.nil_append, List.cons_append,
    Option.bind_eq_bind, Option.bind_some, List.head?_nil,
    Option.any_none, Bool.false_eq_true, if_false,
    atonValue_four, Option.pure_def, ofHost_bytes]

end Libsocket
